import CompositeBuild.Text.Printable

/-!
# Quoted text

The written form of a text inside a report: between double quotes, with the characters that would
break the quoting or the line written as escapes.
-/

namespace CompositeBuild.Text

/-- The hexadecimal digits of a number, most significant first, in lower case. -/
def hexDigits (n : Nat) : List Char := Nat.toDigits 16 n

/-- A code point as a braced escape, `\u{1}` for the first control character. -/
def codePointEscape (c : Char) : List Char :=
  ['\\', 'u', '\x7b'] ++ hexDigits c.toNat ++ ['\x7d']

/-- How one character stands inside quotes.  A double quote, a backslash and every character that is
not printable is escaped, and a single quote is not. -/
def escaped (c : Char) : List Char :=
  match c with
  | '"' => ['\\', '"']
  | '\\' => ['\\', '\\']
  | '\n' => ['\\', 'n']
  | '\r' => ['\\', 'r']
  | '\t' => ['\\', 't']
  | '\x00' => ['\\', '0']
  | c => if isPrintable c then [c] else codePointEscape c

/-- A text in double quotes. -/
def quoted (text : String) : String :=
  String.ofList ('"' :: text.toList.flatMap escaped ++ ['"'])

end CompositeBuild.Text
