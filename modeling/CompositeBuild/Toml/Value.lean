/-!
# TOML values

A TOML document is a table: values under keys, in the order in which the document gives them.

A reader of a part of a document returns what it found together with the text behind it, or `none`
where the text does not fit.
-/

namespace CompositeBuild.Toml

/-- A value of a TOML document. -/
inductive Value where
  | string (text : String)
  | integer (value : Int)
  | float (value : Float)
  | boolean (value : Bool)
  /-- A date, a time of day, or both. -/
  | moment
  | array (items : List Value)
  | table (entries : List (String × Value))
  deriving Repr, Inhabited

/-- The deepest nesting of arrays and inline tables, and the most parts of a dotted key. -/
def nestingLimit : Nat := 79

/-! ### Blanks, comments and line ends -/

/-- A blank inside a line. -/
def isBlank (c : Char) : Bool := c = ' ' || c = '\t'

/-- The text without its leading blanks. -/
def skipBlanks (text : List Char) : List Char := text.dropWhile isBlank

/-- A character that may stand in a comment: a tab or anything that is no control character. -/
def isPlain (c : Char) : Bool :=
  c = '\t' || (0x20 ≤ c.toNat && c.toNat ≤ 0x7E) || 0x80 ≤ c.toNat

/-- The text behind a line end, a line feed with an optional carriage return. -/
def lineEnd? : List Char → Option (List Char)
  | '\n' :: rest => some rest
  | '\r' :: '\n' :: rest => some rest
  | _ => none

/-- The text without a comment in front. -/
def skipComment : List Char → List Char
  | '#' :: rest => rest.dropWhile isPlain
  | text => text

/-- Skip blanks, line ends and comments up to something else. -/
def skipLines : Nat → List Char → List Char
  | 0, text => text
  | fuel + 1, text =>
    match skipBlanks text with
    | '#' :: rest =>
      match lineEnd? (rest.dropWhile isPlain) with
      | some rest => skipLines fuel rest
      | none => '#' :: rest
    | rest =>
      match lineEnd? rest with
      | some rest => skipLines fuel rest
      | none => rest

/-- The text without everything that may stand between the items of an array. -/
def skipBetween (text : List Char) : List Char := skipLines (text.length + 1) text

/-- The text behind the end of a line that may still hold blanks and a comment. -/
def restOfLine? (text : List Char) : Option (List Char) :=
  match skipComment (skipBlanks text) with
  | [] => some []
  | rest => lineEnd? rest

end CompositeBuild.Toml
