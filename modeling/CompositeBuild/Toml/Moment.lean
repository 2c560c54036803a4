import CompositeBuild.Toml.Number

/-!
# TOML dates and times

A moment is a date, a time of day, or a date with a time and perhaps an offset.  Only its extent
in the text matters here, so the readers check the ranges and return what follows.
-/

namespace CompositeBuild.Toml

/-- A number of exactly two digits between two bounds. -/
def twoDigits? (low high : Nat) : List Char → Option (Nat × List Char)
  | a :: b :: rest => do
    let n := 10 * (← decimalDigit? a) + (← decimalDigit? b)
    if low ≤ n ∧ n ≤ high then some (n, rest) else none
  | _ => none

/-- The text behind a given character. -/
def behind? (c : Char) : List Char → Option (List Char)
  | d :: rest => if d = c then some rest else none
  | [] => none

/-- Whether a year has a 29th of February. -/
def isLeapYear (year : Nat) : Bool :=
  year % 4 = 0 && (year % 100 ≠ 0 || year % 400 = 0)

/-- The number of days in a month. -/
def daysInMonth (year month : Nat) : Nat :=
  if month = 2 then if isLeapYear year then 29 else 28
  else if month ∈ [4, 6, 9, 11] then 30
  else 31

/-- The text behind a date. -/
def date? : List Char → Option (List Char)
  | a :: b :: c :: d :: rest => do
    let year := ofDigits 10 (← [a, b, c, d].mapM decimalDigit?)
    let (month, rest) ← twoDigits? 1 12 (← behind? '-' rest)
    let (_, rest) ← twoDigits? 1 (daysInMonth year month) (← behind? '-' rest)
    return rest
  | _ => none

/-- The text behind a time of day. -/
def time? (text : List Char) : Option (List Char) := do
  let (_, rest) ← twoDigits? 0 23 text
  let (_, rest) ← twoDigits? 0 59 (← behind? ':' rest)
  let (_, rest) ← twoDigits? 0 60 (← behind? ':' rest)
  match rest with
  | '.' :: d :: more =>
    if (decimalDigit? d).isSome then
      return more.dropWhile fun c => (decimalDigit? c).isSome
    else return rest
  | rest => return rest

/-- The text behind the offset of a time, where there is one. -/
def offset? : List Char → Option (List Char)
  | 'Z' :: rest | 'z' :: rest => some rest
  | '+' :: rest | '-' :: rest => do
    let (_, rest) ← twoDigits? 0 23 rest
    let (_, rest) ← twoDigits? 0 59 (← behind? ':' rest)
    return rest
  | text => some text

/-- Whether a number-like text starts a date. -/
def startsDate : List Char → Bool
  | a :: b :: c :: d :: '-' :: _ => [a, b, c, d].all fun c => (decimalDigit? c).isSome
  | _ => false

/-- Whether a number-like text starts a time of day. -/
def startsTime : List Char → Bool
  | a :: b :: ':' :: _ => [a, b].all fun c => (decimalDigit? c).isSome
  | _ => false

/-- The text behind a moment. -/
def moment? (text : List Char) : Option (List Char) :=
  if startsTime text then time? text
  else do
    let rest ← date? text
    match rest with
    | 'T' :: more | 't' :: more | ' ' :: more =>
      if startsTime more then offset? (← time? more) else return rest
    | rest => return rest

end CompositeBuild.Toml
