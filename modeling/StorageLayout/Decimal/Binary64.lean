/-!
# Binary floating-point values, taken apart

A `Float` is not a number, infinite, or a whole number times a power of two. `ofDecimal` is the
value nearest to a decimal number, ties to the even significand. Both here and in decimal text a
quotient is rounded by `roundDiv`: halfway between two whole numbers it goes to one of them as `Tie`
says.
-/

namespace StorageLayout.Decimal

/-- Which of two equally near numbers is taken. -/
inductive Tie where
  /-- The even one. -/
  | toEven
  /-- The greater one. -/
  | away
  deriving DecidableEq, Repr

def Tie.resolve (tie : Tie) (below : Nat) : Nat :=
  match tie with
  | toEven => below + below % 2
  | away => below + 1

/-- The whole number nearest to `num / den`. -/
def roundDiv (num den : Nat) (tie : Tie) : Nat :=
  let below := num / den
  let rest := num % den
  if 2 * rest < den then below
  else if den < 2 * rest then below + 1
  else tie.resolve below

/-- A floating-point value: `finite s m q` is `m * 2 ^ q`, negated if `s`. -/
inductive Binary64 where
  | notANumber
  | infinite (negative : Bool)
  | finite (negative : Bool) (significand : Nat) (exponent : Int)
  deriving DecidableEq, Repr

namespace Binary64

def ofFloat (x : Float) : Binary64 :=
  let bits := x.toBits.toNat
  let negative := Nat.pow 2 63 ≤ bits
  let biased : Nat := bits / Nat.pow 2 52 % Nat.pow 2 11
  let fraction := bits % Nat.pow 2 52
  if biased = 2047 then if fraction = 0 then infinite negative else notANumber
  else if biased = 0 then finite negative fraction (-1074)
  else finite negative (Nat.pow 2 52 + fraction) ((biased : Int) - 1075)

/-- The value with the given significand and exponent of two; a significand below `2 ^ 52` goes
with the least exponent only. -/
def compose (significand : Nat) (exponent : Int) : Float :=
  let biased := (exponent + 1075).toNat
  if significand < Nat.pow 2 52 then Float.ofBits (.ofNat significand)
  else if 2047 ≤ biased then Float.ofBits (.ofNat (2047 * Nat.pow 2 52))
  else Float.ofBits (.ofNat (significand - Nat.pow 2 52 + biased * Nat.pow 2 52))

/-- The value nearest to a positive quotient, infinite if that is too great. -/
def ofRatio (num den : Nat) : Float :=
  let scaled (exponent : Int) : Nat × Nat :=
    (num * Nat.pow 2 (-exponent).toNat, den * Nat.pow 2 exponent.toNat)
  let fine : Int := (num.log2 : Int) - den.log2 - 53
  let exponent := if Nat.pow 2 53 ≤ (scaled fine).1 / (scaled fine).2 then fine + 1 else fine
  let exponent := max exponent (-1074)
  compose (roundDiv (scaled exponent).1 (scaled exponent).2 .toEven) exponent

/-- The value nearest to `digits * 10 ^ exponent`. -/
def ofDecimal (digits : Nat) (exponent : Int) : Float :=
  let magnitude := exponent + (Nat.toDigits 10 digits).length
  if digits = 0 ∨ magnitude < -400 then 0.0
  else if 400 < magnitude then Float.ofBits (.ofNat (2047 * Nat.pow 2 52))
  else ofRatio (digits * Nat.pow 10 exponent.toNat) (Nat.pow 10 (-exponent).toNat)

end Binary64

end StorageLayout.Decimal
