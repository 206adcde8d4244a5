import StorageLayout.Decimal.Binary64
import StorageLayout.Json.Value
import StorageLayout.Text.Basic

/-!
# Reading JSON numbers

A number without fraction and exponent is whole as long as it lies between `-2 ^ 63` and
`2 ^ 64 - 1`. Any other number is floating-point: its leading digits, as many as stay below
`2 ^ 64`, are taken as a whole number and scaled by a power of ten in floating-point
arithmetic, which may differ from the nearest value in the last place.
-/

namespace StorageLayout.Json.Number

structure Parts where
  negative : Bool
  whole : List Char
  /-- The digits after the point, if there is one. -/
  fraction : Option (List Char)
  /-- The sign and the digits after the exponent mark, if there is one. -/
  exponent : Option (Bool × List Char)
  deriving DecidableEq, Repr

/-- Whether a minus sign leads a text, and the text behind its sign, if it has one. -/
def takeSign (s : List Char) : Bool × List Char :=
  match s with
  | '-' :: rest => (true, rest)
  | '+' :: rest => (false, rest)
  | rest => (false, rest)

/-- A point with its digits at the head of a text, if a point stands there, and the rest. -/
def takeFraction (s : List Char) : Option (List Char) × List Char :=
  match s with
  | '.' :: rest => (some (rest.takeWhile Char.isDigit), rest.dropWhile Char.isDigit)
  | rest => (none, rest)

/-- The exponent a text consists of, which an empty text has not; any other text is refused. -/
def takeExponent (s : List Char) : Option (Option (Bool × List Char)) :=
  match s with
  | [] => some none
  | c :: rest => if c = 'e' ∨ c = 'E' then some (some (takeSign rest)) else none

def isDigits (s : List Char) : Bool :=
  !s.isEmpty && s.all Char.isDigit

/-- A whole part has no leading zero. -/
def isWhole (s : List Char) : Bool :=
  isDigits s && (s.length = 1 || s.head? ≠ some '0')

def parts? (s : List Char) : Option Parts := do
  let negative := s.head? = some '-'
  let unsigned := if negative then s.tail else s
  let whole := unsigned.takeWhile Char.isDigit
  let (fraction, rest) := takeFraction (unsigned.dropWhile Char.isDigit)
  let exponent ← takeExponent rest
  guard (isWhole whole ∧ fraction.all isDigits ∧ exponent.all (isDigits ·.2))
  return { negative, whole, fraction, exponent }

/-- Append digits to a number as long as it stays below `2 ^ 64`; also the digits left over. -/
def absorb (n : Nat) : List Char → Nat × List Char
  | [] => (n, [])
  | c :: cs =>
    let next := 10 * n + Text.digitValue c
    if next < UInt64.size then absorb next cs else (n, c :: cs)

def powerOfTen (n : Nat) : Float :=
  Decimal.Binary64.ofRatio (Nat.pow 10 n) 1

/-- Divide by `10 ^ n`, in steps of at most 308. -/
def divideByPower (x : Float) (n : Nat) : Float :=
  if n ≤ 308 then x / powerOfTen n
  else if x == 0.0 then x
  else divideByPower (x / powerOfTen 308) (n - 308)
termination_by n

/-- Multiply by `10 ^ n`; a result past all finite values is refused. -/
def multiplyByPower? (x : Float) (n : Nat) : Option Float :=
  if n ≤ 308 then
    let y := x * powerOfTen n
    if y.isInf then none else some y
  else if x == 0.0 then some x
  else none

def scale? (significand : Nat) (exponent : Int) : Option Float :=
  if 0 ≤ exponent then multiplyByPower? (.ofNat significand) exponent.toNat
  else some (divideByPower (.ofNat significand) (-exponent).toNat)

/-- The significand and the power of ten given by the digits before and after the point. -/
def significand (whole : List Char) (fraction : Option (List Char)) : Nat × Int :=
  let (n, skipped) := absorb 0 whole
  match fraction with
  | none => (n, skipped.length)
  | some digits =>
    let (n, unread) := absorb n digits
    (n, (skipped.length : Int) - (digits.length - unread.length))

/-- The floating-point value of a number. An exponent of 2147483648 or more makes it zero or is
too great. -/
def float? (p : Parts) : Option Float := do
  let (n, power) := significand p.whole p.fraction
  let magnitude ←
    match p.exponent with
    | none => scale? n power
    | some (isNegative, digits) =>
      let written := Text.numeral 10 digits
      if Nat.pow 2 31 ≤ written then if n = 0 ∨ isNegative then some 0.0 else none
      else scale? n (if isNegative then power - written else power + written)
  return if p.negative then -magnitude else magnitude

def value? (p : Parts) : Option Json :=
  let (n, skipped) := absorb 0 p.whole
  if p.fraction.isSome ∨ p.exponent.isSome ∨ skipped ≠ [] then (float? p).map .float
  else if !p.negative then some (.int n)
  else if n = 0 ∨ Nat.pow 2 63 < n then some (.float (-.ofNat n))
  else some (.int (-n))

def read? (s : List Char) : Option Json :=
  (parts? s).bind value?

end StorageLayout.Json.Number
