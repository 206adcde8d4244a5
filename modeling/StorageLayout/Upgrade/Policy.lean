import StorageLayout.Decimal.Text

/-!
# Policies

A policy says how severe changes count against an upgrade and which growth calls for advice.
-/

namespace StorageLayout

structure Scoring where
  /-- Points taken off for a critical change. -/
  criticalPenalty : Nat
  /-- Points taken off for a warning. -/
  warningPenalty : Nat
  /-- More warnings than this make an upgrade hazardous. -/
  hazardousWarnings : Nat
  deriving DecidableEq, Repr

structure Thresholds where
  /-- A greater loss of efficiency, in percentage points, is remarked on. -/
  efficiencyRegression : Float
  /-- A greater number of new slots is remarked on. -/
  slotGrowth : Int

structure Policy where
  scoring : Scoring
  thresholds : Thresholds

namespace Scoring

/-- Forty points for a critical change, fifteen for a warning, and no more than two
warnings. -/
def standard : Scoring where
  criticalPenalty := 40
  warningPenalty := 15
  hazardousWarnings := 2

end Scoring

namespace Thresholds

/-- Ten percentage points and ten slots. -/
def standard : Thresholds where
  efficiencyRegression := 10.0
  slotGrowth := 10

end Thresholds

inductive PolicyFault where
  | criticalPenalty (value : Nat)
  | warningPenalty (value : Nat)
  | efficiencyRegression (value : Float)
  | slotGrowth (value : Int)

namespace Policy

def standard : Policy where
  scoring := .standard
  thresholds := .standard

def maxPenalty : Nat := 100

/-- The first thing that makes the policy useless: a penalty above 100, or a threshold that is
negative or no finite number. -/
def fault? (p : Policy) : Option PolicyFault :=
  if maxPenalty < p.scoring.criticalPenalty then some (.criticalPenalty p.scoring.criticalPenalty)
  else if maxPenalty < p.scoring.warningPenalty then
    some (.warningPenalty p.scoring.warningPenalty)
  else if !p.thresholds.efficiencyRegression.isFinite ||
      p.thresholds.efficiencyRegression < 0.0 then
    some (.efficiencyRegression p.thresholds.efficiencyRegression)
  else if p.thresholds.slotGrowth < 0 then some (.slotGrowth p.thresholds.slotGrowth)
  else none

end Policy

/-- Numbers in messages have the fewest digits that read back, a tie going to the greater, and
are written without an exponent. -/
def PolicyFault.numberStyle : Decimal.NumberStyle where
  leastPlain := none
  greatestPlain := none
  keepsPoint := false
  tie := .away

def PolicyFault.message : PolicyFault → String
  | criticalPenalty value =>
    s!"scoring.critical_penalty must be at most {Policy.maxPenalty}, got {value}"
  | warningPenalty value =>
    s!"scoring.warning_penalty must be at most {Policy.maxPenalty}, got {value}"
  | efficiencyRegression value =>
    "thresholds.efficiency_regression must be a non-negative number, got " ++
      numberStyle.render value
  | slotGrowth value => s!"thresholds.slot_growth must be non-negative, got {value}"

end StorageLayout
