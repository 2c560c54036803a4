import CompositeBuild.Toml.Text

/-!
# TOML keys

A key is bare, made of letters, digits, underscores and hyphens, or a string on one line.  A dotted
key is a path of keys into nested tables.
-/

namespace CompositeBuild.Toml

/-- A character of a bare key. -/
def isBareKeyChar (c : Char) : Bool := c.isAlphanum || c = '_' || c = '-'

/-- A key without dots. -/
def simpleKey? : List Char → Option (String × List Char)
  | '"' :: rest => (basicLine rest).map fun (text, rest) => (String.ofList text, rest)
  | '\'' :: rest => (literalLine rest).map fun (text, rest) => (String.ofList text, rest)
  | text =>
    match text.takeWhile isBareKeyChar with
    | [] => none
    | key => some (String.ofList key, text.dropWhile isBareKeyChar)

/-- A dotted key, as the keys in front of the last one and the last one.  The number of parts is
bounded by the first argument. -/
def dottedKey? : Nat → List Char → Option ((List String × String) × List Char)
  | 0, _ => none
  | limit + 1, text => do
    let (key, rest) ← simpleKey? (skipBlanks text)
    match skipBlanks rest with
    | '.' :: rest =>
      let ((path, last), rest) ← dottedKey? limit rest
      return ((key :: path, last), rest)
    | rest => return (([], key), rest)

/-- A key as it may stand in front of a value or in a header. -/
def key? (text : List Char) : Option ((List String × String) × List Char) :=
  dottedKey? nestingLimit text

end CompositeBuild.Toml
