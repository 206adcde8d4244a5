import StorageLayout.Decimal.Binary64
import StorageLayout.Json.Number
import StorageLayout.Toml.Value

/-!
# Values of TOML written as one word

Booleans, numbers, dates and times. Digits may be parted by single underscores. Integers have 64
bits; a float is the nearest value, and one too great for that is refused unless it is
negative.
-/

namespace StorageLayout.Toml.Word

open Decimal

/-- A run of digits without its underscores, each of which stands between two digits. -/
def digits? (isDigit : Char → Bool) : List Char → Option (List Char)
  | [] => none
  | [c] => if isDigit c then some [c] else none
  | c :: '_' :: rest => if isDigit c then (digits? isDigit rest).map (c :: ·) else none
  | c :: rest => if isDigit c then (digits? isDigit rest).map (c :: ·) else none

/-- Whether a minus sign leads the word, and the word behind its sign. -/
def takeSign (w : List Char) : Bool × List Char :=
  Json.Number.takeSign w

/-- Digits without a leading zero, unless zero is all. -/
def whole? (w : List Char) : Option (List Char) := do
  let ds ← digits? Char.isDigit w
  guard (ds.head? ≠ some '0' ∨ w.length = 1)
  return ds

def integer64? (n : Int) : Option Value :=
  if Int64.minValue.toInt ≤ n ∧ n ≤ Int64.maxValue.toInt then some (.integer n) else none

def integer? (w : List Char) : Option Value :=
  match w with
  | '0' :: 'x' :: rest => do
    integer64? (Text.numeral 16 (← digits? (fun c => (Text.digit? c).isSome) rest))
  | '0' :: 'o' :: rest => do
    integer64? (Text.numeral 8 (← digits? (fun c => '0' ≤ c && c ≤ '7') rest))
  | '0' :: 'b' :: rest => do
    integer64? (Text.numeral 2 (← digits? (fun c => c = '0' || c = '1') rest))
  | _ => do
    let (negative, unsigned) := takeSign w
    let n : Int := Text.numeral 10 (← whole? unsigned)
    integer64? (if negative then -n else n)

/-- The float of the given digits; only a negative one may be too great. -/
def float64? (negative : Bool) (digits : List Char) (exponent : Int) : Option Value :=
  let x := Binary64.ofDecimal (Text.numeral 10 digits) exponent
  if negative then some (.float (-x)) else if x.isInf then none else some (.float x)

/-- The power of ten given behind an exponent mark; zero if there is no mark. -/
def exponent? (w : List Char) : Option Int :=
  match w with
  | [] => some 0
  | mark :: rest => do
    guard (mark = 'e' ∨ mark = 'E')
    let (negative, unsigned) := takeSign rest
    let n : Int := Text.numeral 10 (← digits? Char.isDigit unsigned)
    return if negative then -n else n

def isExponentMark (c : Char) : Bool :=
  c = 'e' || c = 'E'

def decimal? (w : List Char) : Option Value := do
  let (negative, unsigned) := takeSign w
  let mantissa := unsigned.takeWhile (!isExponentMark ·)
  let power ← exponent? (unsigned.dropWhile (!isExponentMark ·))
  let whole := mantissa.takeWhile (· ≠ '.')
  let ds ← whole? whole
  match mantissa.dropWhile (· ≠ '.') with
  | [] =>
    guard (unsigned.any isExponentMark)
    float64? negative ds power
  | _ :: fraction =>
    let fs ← digits? Char.isDigit fraction
    float64? negative (ds ++ fs) (power - fs.length)

def special? (w : List Char) : Option Value :=
  let (negative, unsigned) := takeSign w
  if unsigned = "inf".toList then
    some (.float (if negative then -(1.0 / 0.0) else 1.0 / 0.0))
  else if unsigned = "nan".toList then some (.float (0.0 / 0.0))
  else none

/-- A number of exactly `count` digits within bounds, and the rest. -/
def clock? (count least greatest : Nat) (w : List Char) : Option (Nat × List Char) := do
  let ds := w.take count
  let n := Text.numeral 10 ds
  guard (ds.length = count ∧ ds.all Char.isDigit ∧ least ≤ n ∧ n ≤ greatest)
  return (n, w.drop count)

def behind? (c : Char) : List Char → Option (List Char)
  | [] => none
  | d :: rest => if c = d then some rest else none

def daysInMonth (year month : Nat) : Nat :=
  if month = 2 then
    if year % 4 = 0 ∧ (year % 100 ≠ 0 ∨ year % 400 = 0) then 29 else 28
  else if month = 4 ∨ month = 6 ∨ month = 9 ∨ month = 11 then 30
  else 31

def date? (w : List Char) : Option (List Char) := do
  let (year, w) ← clock? 4 0 9999 w
  let (month, w) ← clock? 2 1 12 (← behind? '-' w)
  let (_, w) ← clock? 2 1 (daysInMonth year month) (← behind? '-' w)
  return w

/-- The rest behind a time of day; a minute may have 61 seconds. -/
def time? (w : List Char) : Option (List Char) := do
  let (_, w) ← clock? 2 0 23 w
  let (_, w) ← clock? 2 0 59 (← behind? ':' w)
  let (_, w) ← clock? 2 0 60 (← behind? ':' w)
  match w with
  | '.' :: rest =>
    guard (rest.head?.any Char.isDigit)
    return rest.dropWhile Char.isDigit
  | _ => return w

/-- Nothing, or the distance from universal time. -/
def isOffset (w : List Char) : Bool :=
  match w with
  | [] => true
  | ['Z'] => true
  | ['z'] => true
  | c :: rest =>
    (c = '+' || c = '-') &&
      ((do
        let (_, w) ← clock? 2 0 23 rest
        let (_, w) ← clock? 2 0 59 (← behind? ':' w)
        guard w.isEmpty : Option Unit)).isSome

/-- A time of day, with or without its distance from universal time. -/
def isClockTime (w : List Char) : Bool :=
  (time? w).any isOffset

/-- A date, a time of day, or a date with a time. -/
def moment? (w : List Char) : Option Value :=
  let valid :=
    match date? w with
    | some [] => true
    | some (c :: rest) => (c = 'T' || c = 't' || c = ' ') && isClockTime rest
    | none => time? w = some []
  if valid then some (.moment (String.ofList w)) else none

def read? (w : List Char) : Option Value :=
  if w = "true".toList then some (.boolean true)
  else if w = "false".toList then some (.boolean false)
  else moment? w <|> special? w <|> decimal? w <|> integer? w

end StorageLayout.Toml.Word
