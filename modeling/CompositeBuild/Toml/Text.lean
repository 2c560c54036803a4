import CompositeBuild.Toml.Value

/-!
# TOML strings

A string is basic, with escapes between double quotes, or literal, between single quotes, and each
of the two can stand on one line or, between three quotes, on several.
-/

namespace CompositeBuild.Toml

/-- The value of a hexadecimal digit. -/
def hexDigit? (c : Char) : Option Nat :=
  if '0' ≤ c ∧ c ≤ '9' then some (c.toNat - '0'.toNat)
  else if 'a' ≤ c ∧ c ≤ 'f' then some (c.toNat - 'a'.toNat + 10)
  else if 'A' ≤ c ∧ c ≤ 'F' then some (c.toNat - 'A'.toNat + 10)
  else none

/-- The character whose code point is written in hexadecimal digits. -/
def codePoint? (digits : List Char) : Option Char := do
  let values ← digits.mapM hexDigit?
  let point := values.foldl (fun n d => 16 * n + d) 0
  if point.isValidChar then some (Char.ofNat point) else none

/-- The character that an escape letter stands for. -/
def escapeLetter? : Char → Option Char
  | 'b' => some '\x08'
  | 't' => some '\t'
  | 'n' => some '\n'
  | 'f' => some '\x0c'
  | 'r' => some '\r'
  | '"' => some '"'
  | '\\' => some '\\'
  | _ => none

/-- Put a character in front of what a reader found. -/
def consChar (c : Char) (found : Option (List Char × List Char)) : Option (List Char × List Char) :=
  found.map fun (text, rest) => (c :: text, rest)

/-- Put the character of an escape in front of what a reader found, if the escape has one. -/
def consEscape (c : Option Char) (found : Option (List Char × List Char)) :
    Option (List Char × List Char) :=
  c.bind fun c => consChar c found

/-- The rest of a basic string on one line, from behind its opening quote. -/
def basicLine : List Char → Option (List Char × List Char)
  | '"' :: rest => some ([], rest)
  | '\\' :: 'u' :: a :: b :: c :: d :: rest =>
    consEscape (codePoint? [a, b, c, d]) (basicLine rest)
  | '\\' :: 'U' :: a :: b :: c :: d :: e :: f :: g :: h :: rest =>
    consEscape (codePoint? [a, b, c, d, e, f, g, h]) (basicLine rest)
  | '\\' :: letter :: rest =>
    consEscape (escapeLetter? letter) (basicLine rest)
  | c :: rest => if isPlain c && c ≠ '\\' then consChar c (basicLine rest) else none
  | [] => none

/-- The rest of a literal string on one line, from behind its opening quote. -/
def literalLine : List Char → Option (List Char × List Char)
  | '\'' :: rest => some ([], rest)
  | c :: rest => if isPlain c then consChar c (literalLine rest) else none
  | [] => none

/-- The rest of a basic string on several lines.  A backslash at the end of a line joins it to the
next text; `joining` says that blanks and line ends are being dropped behind such a backslash. -/
def basicLines (joining : Bool) : List Char → Option (List Char × List Char)
  | '"' :: '"' :: '"' :: '"' :: '"' :: rest => some (['"', '"'], rest)
  | '"' :: '"' :: '"' :: '"' :: rest => some (['"'], rest)
  | '"' :: '"' :: '"' :: rest => some ([], rest)
  | '"' :: rest => consChar '"' (basicLines false rest)
  | '\r' :: '\n' :: rest =>
    if joining then basicLines true rest else consChar '\n' (basicLines false rest)
  | '\n' :: rest =>
    if joining then basicLines true rest else consChar '\n' (basicLines false rest)
  | '\\' :: 'u' :: a :: b :: c :: d :: rest =>
    consEscape (codePoint? [a, b, c, d]) (basicLines false rest)
  | '\\' :: 'U' :: a :: b :: c :: d :: e :: f :: g :: h :: rest =>
    consEscape (codePoint? [a, b, c, d, e, f, g, h]) (basicLines false rest)
  | '\\' :: letter :: rest =>
    match escapeLetter? letter with
    | some c => consChar c (basicLines false rest)
    | none =>
      if (lineEnd? (skipBlanks (letter :: rest))).isSome then
        if isBlank letter || letter = '\n' then basicLines true rest
        else basicLines true (letter :: rest)
      else none
  | c :: rest =>
    if isBlank c && joining then basicLines true rest
    else if isPlain c && c ≠ '\\' then consChar c (basicLines false rest)
    else none
  | [] => none

/-- The rest of a literal string on several lines. -/
def literalLines : List Char → Option (List Char × List Char)
  | '\'' :: '\'' :: '\'' :: '\'' :: '\'' :: rest => some (['\'', '\''], rest)
  | '\'' :: '\'' :: '\'' :: '\'' :: rest => some (['\''], rest)
  | '\'' :: '\'' :: '\'' :: rest => some ([], rest)
  | '\r' :: '\n' :: rest => consChar '\n' (literalLines rest)
  | '\n' :: rest => consChar '\n' (literalLines rest)
  | c :: rest => if isPlain c then consChar c (literalLines rest) else none
  | [] => none

/-- The text without a line end in front, which does not count behind an opening quote. -/
def skipFirstLineEnd (text : List Char) : List Char :=
  (lineEnd? text).getD text

/-- A string of any of the four kinds. -/
def string? : List Char → Option (String × List Char)
  | '"' :: '"' :: '"' :: rest => found (basicLines false (skipFirstLineEnd rest))
  | '"' :: rest => found (basicLine rest)
  | '\'' :: '\'' :: '\'' :: rest => found (literalLines (skipFirstLineEnd rest))
  | '\'' :: rest => found (literalLine rest)
  | _ => none
where
  found (read : Option (List Char × List Char)) : Option (String × List Char) :=
    read.map fun (text, rest) => (String.ofList text, rest)

end CompositeBuild.Toml
