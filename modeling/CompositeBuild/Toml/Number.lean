import CompositeBuild.Toml.Text

/-!
# TOML numbers

Integers are decimal, hexadecimal, octal or binary and fit into 64 bits.  Floats have a fraction,
an exponent or both.  In all of them digits may be grouped by single underscores.
-/

namespace CompositeBuild.Toml

/-- The value of a decimal digit. -/
def decimalDigit? (c : Char) : Option Nat :=
  if '0' ≤ c ∧ c ≤ '9' then some (c.toNat - '0'.toNat) else none

/-- The digits that follow a first one.  An underscore must stand between two digits. -/
def moreDigits (digit? : Char → Option Nat) : List Char → Option (List Nat × List Char)
  | '_' :: c :: rest => do
    let d ← digit? c
    let (ds, rest) ← moreDigits digit? rest
    return (d :: ds, rest)
  | ['_'] => none
  | c :: rest =>
    match digit? c with
    | none => some ([], c :: rest)
    | some d => do
      let (ds, rest) ← moreDigits digit? rest
      return (d :: ds, rest)
  | [] => some ([], [])

/-- Digits that may start with zeros. -/
def digits? (digit? : Char → Option Nat) : List Char → Option (List Nat × List Char)
  | c :: rest => do
    let d ← digit? c
    let (ds, rest) ← moreDigits digit? rest
    return (d :: ds, rest)
  | [] => none

/-- The number written in digits of a base. -/
def ofDigits (base : Nat) (ds : List Nat) : Nat := ds.foldl (fun n d => base * n + d) 0

/-- Whether a text starts with a minus sign, and what follows a sign. -/
def sign : List Char → Bool × List Char
  | '-' :: rest => (true, rest)
  | '+' :: rest => (false, rest)
  | text => (false, text)

/-- The whole part of a decimal number: no digit follows a leading zero. -/
def whole? (text : List Char) : Option (List Nat × List Char) :=
  match text with
  | '0' :: rest => some ([0], rest)
  | text => digits? decimalDigit? text

/-- The integer `n`, or its opposite, if it fits into 64 bits. -/
def integerOfNat? (negative : Bool) (n : Nat) : Option Int :=
  if negative then if n ≤ Nat.pow 2 63 then some (-(n : Int)) else none
  else if n < Nat.pow 2 63 then some n else none

/-- A digit of the given base, for a base up to ten. -/
def digitBelow? (base : Nat) (c : Char) : Option Nat :=
  (decimalDigit? c).filter (· < base)

/-- A hexadecimal, octal or binary integer, from behind the letter of its base. -/
def basedInteger? (base : Nat) (digit? : Char → Option Nat) (text : List Char) :
    Option (Int × List Char) := do
  let (ds, rest) ← digits? digit? text
  let n ← integerOfNat? false (ofDigits base ds)
  return (n, rest)

/-- The fraction of a float, with its digits, where there is one. -/
def fraction? : List Char → Option (List Nat × List Char)
  | '.' :: rest => digits? decimalDigit? rest
  | text => some ([], text)

/-- The exponent of a float, where there is one. -/
def exponent? : List Char → Option (Option Int × List Char)
  | 'e' :: rest | 'E' :: rest => do
    let (negative, rest) := sign rest
    let (ds, rest) ← digits? decimalDigit? rest
    let n : Int := ofDigits 10 ds
    return (some (if negative then -n else n), rest)
  | text => some (none, text)

/-- The float nearest to `digits * 10 ^ exponent`.  Powers far beyond the range of floats are
settled without computing them. -/
def nearestFloat (negative : Bool) (digits : List Nat) (exponent : Int) : Float :=
  let n := ofDigits 10 digits
  let magnitude : Float :=
    if n = 0 then 0.0
    else if exponent + digits.length < -400 then 0.0
    else if 400 < exponent + (Nat.toDigits 10 n).length then 1.0 / 0.0
    else Float.ofScientific n (exponent < 0) exponent.natAbs
  if negative then -magnitude else magnitude

/-- A decimal integer or a float.  A float that is too large for its format is refused unless it is
negative, in which case it is the negative infinity. -/
def decimalNumber? (text : List Char) : Option (Value × List Char) := do
  let (negative, text) := sign text
  match text with
  | 'i' :: 'n' :: 'f' :: rest =>
    let infinity : Float := 1.0 / 0.0
    return (.float (if negative then -infinity else infinity), rest)
  | 'n' :: 'a' :: 'n' :: rest => return (.float (0.0 / 0.0), rest)
  | text =>
    let (wholeDigits, rest) ← whole? text
    let (fractionDigits, rest) ← fraction? rest
    let (exponent, rest) ← exponent? rest
    if fractionDigits = [] ∧ exponent = none then
      let n ← integerOfNat? negative (ofDigits 10 wholeDigits)
      return (.integer n, rest)
    else
      let x := nearestFloat negative (wholeDigits ++ fractionDigits)
        (exponent.getD 0 - fractionDigits.length)
      if x.isInf ∧ !negative then none else return (.float x, rest)

/-- A number in any notation. -/
def number? : List Char → Option (Value × List Char)
  | '0' :: 'x' :: rest => found (basedInteger? 16 hexDigit? rest)
  | '0' :: 'o' :: rest => found (basedInteger? 8 (digitBelow? 8) rest)
  | '0' :: 'b' :: rest => found (basedInteger? 2 (digitBelow? 2) rest)
  | text => decimalNumber? text
where
  found (read : Option (Int × List Char)) : Option (Value × List Char) :=
    read.map fun (n, rest) => (.integer n, rest)

end CompositeBuild.Toml
