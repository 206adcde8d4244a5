import StorageLayout.Decimal.Binary64

/-!
# Decimal text of a floating-point value

Of the decimal numbers that read back as the value, the shortest text is that of the one with the
fewest digits, and of those the nearest. `NumberStyle` says how its digits are laid out. With a
fixed number of places the exact value is rounded to them, a tie going to the even digit, and the
sign of a negative value stays, also when nothing but zeros is left of it.
-/

namespace StorageLayout.Decimal

/-- `m * 2 ^ q` counted in units of `10 ^ g`, as a quotient. -/
def inUnits (m : Nat) (q g : Int) : Nat × Nat :=
  (m * Nat.pow 2 q.toNat * Nat.pow 10 (-g).toNat, Nat.pow 2 (-q).toNat * Nat.pow 10 g.toNat)

/-- The numbers that read back as `m * 2 ^ q`, in quarters of the distance to the next value:
from the first bound to the second, which belong to them if `m` is even. Below a power of two
the values lie twice as dense. -/
def readBack (m : Nat) (q : Int) : Nat × Nat :=
  (4 * m - (if m = Nat.pow 2 52 ∧ -1074 < q then 1 else 2), 4 * m + 2)

/-- `c * 10 ^ g` reads back as `m * 2 ^ q`. -/
def ReadsBack (m : Nat) (q : Int) (c : Nat) (g : Int) : Prop :=
  let low := inUnits (readBack m q).1 (q - 2) g
  let high := inUnits (readBack m q).2 (q - 2) g
  if m % 2 = 0 then low.1 ≤ c * low.2 ∧ c * high.2 ≤ high.1
  else low.1 < c * low.2 ∧ c * high.2 < high.1

instance (m : Nat) (q : Int) (c : Nat) (g : Int) : Decidable (ReadsBack m q c g) := by
  unfold ReadsBack
  infer_instance

/-- The multiple of `10 ^ g` nearest to `m * 2 ^ q` of those that read back. -/
def onGrid? (m : Nat) (q g : Int) (tie : Tie) : Option Nat :=
  let value := inUnits m q g
  let below := value.1 / value.2
  let nearest := roundDiv value.1 value.2 tie
  if ReadsBack m q nearest g then some nearest
  else if ReadsBack m q below g then some below
  else if ReadsBack m q (below + 1) g then some (below + 1)
  else none

/-- The first hit on the grids of `10 ^ g`, `10 ^ (g - 1)` and so on. -/
def coarsest (m : Nat) (q : Int) (tie : Tie) : Nat → Int → Nat × Int
  | 0, g => ((inUnits m q g).1 / (inUnits m q g).2, g)
  | grids + 1, g =>
    match onGrid? m q g tie with
    | some c => (c, g)
    | none => coarsest m q tie grids (g - 1)

/-- The shortest digits of a positive value and the power of ten of the last of them. The
search starts above the value; 17 digits always suffice. -/
def shortest (m : Nat) (q : Int) (tie : Tie) : Nat × Int :=
  coarsest m q tie 22 (((m.log2 : Int) + q) * 30103 / 100000 + 2)

structure NumberStyle where
  /-- The least power of ten of the first digit that is written without an exponent. -/
  leastPlain : Option Int
  /-- The greatest such power. -/
  greatestPlain : Option Int
  /-- A whole number written without an exponent ends in `.0`. -/
  keepsPoint : Bool
  tie : Tie

namespace NumberStyle

def isPlain (s : NumberStyle) (power : Int) : Bool :=
  s.leastPlain.all (· ≤ power) && s.greatestPlain.all (power ≤ ·)

/-- Digits without an exponent, the first of them standing for `10 ^ power`. -/
def plain (s : NumberStyle) (digits : List Char) (power : Int) : List Char :=
  if power < 0 then ['0', '.'] ++ List.replicate (-power - 1).toNat '0' ++ digits
  else
    let whole := power.toNat + 1
    let fraction := digits.drop whole
    digits.take whole ++ List.replicate (whole - digits.length) '0' ++
      if fraction ≠ [] then '.' :: fraction else if s.keepsPoint then ['.', '0'] else []

/-- Digits with one of them before the point, and the power of ten. -/
def scientific (digits : List Char) (power : Int) : List Char :=
  let fraction := digits.drop 1
  digits.take 1 ++ (if fraction ≠ [] then '.' :: fraction else []) ++
    ['e', if power < 0 then '-' else '+'] ++ Nat.toDigits 10 power.natAbs

/-- The text of a finite value without its sign. -/
def magnitude (s : NumberStyle) (m : Nat) (q : Int) : List Char :=
  if m = 0 then s.plain ['0'] 0
  else
    let (c, g) := shortest m q s.tie
    let digits := Nat.toDigits 10 c
    let power := g + digits.length - 1
    if s.isPlain power then s.plain digits power else scientific digits power

def render (s : NumberStyle) (x : Float) : String :=
  match Binary64.ofFloat x with
  | .notANumber => "NaN"
  | .infinite negative => if negative then "-inf" else "inf"
  | .finite negative m q =>
    String.ofList ((if negative then ['-'] else []) ++ s.magnitude m q)

end NumberStyle

/-- A count of units of `10 ^ -places`, with the point set. -/
def withPoint (places : Nat) (units : Nat) : List Char :=
  let digits := Nat.toDigits 10 units
  let padded := List.replicate (places + 1 - digits.length) '0' ++ digits
  let whole := padded.length - places
  padded.take whole ++ '.' :: padded.drop whole

/-- The value with `places` places; `plus` stands before one that is not negative. -/
def fixedWith (plus : String) (places : Nat) (x : Float) : String :=
  match Binary64.ofFloat x with
  | .notANumber => "NaN"
  | .infinite negative => (if negative then "-" else plus) ++ "inf"
  | .finite negative m q =>
    let value := inUnits m q (-places)
    (if negative then "-" else plus) ++
      String.ofList (withPoint places (roundDiv value.1 value.2 .toEven))

def fixed (places : Nat) (x : Float) : String :=
  fixedWith "" places x

def fixedSigned (places : Nat) (x : Float) : String :=
  fixedWith "+" places x

/-- A whole number with a sign, also when it is not negative. -/
def signed (n : Int) : String :=
  if n < 0 then toString n else "+" ++ toString n

end StorageLayout.Decimal
