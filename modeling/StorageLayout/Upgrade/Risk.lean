import StorageLayout.Change
import StorageLayout.Upgrade.Policy

/-!
# Risk of an upgrade

The number of changes of each severity decides the score, which starts at 100 and loses points,
and the level of risk.
-/

namespace StorageLayout

inductive RiskLevel where
  | safe
  /-- There are warnings. -/
  | caution
  /-- There are more warnings than the policy puts up with. -/
  | hazardous
  /-- There are critical changes. -/
  | critical
  deriving DecidableEq, Repr

def RiskLevel.render : RiskLevel → String
  | safe => "SAFE"
  | caution => "CAUTION"
  | hazardous => "UNSAFE"
  | critical => "CRITICAL"

namespace Tally

/-- Points left of 100. -/
def score (t : Tally) (s : Scoring) : Nat :=
  100 - (t.critical * s.criticalPenalty + t.warning * s.warningPenalty)

def riskLevel (t : Tally) (s : Scoring) : RiskLevel :=
  if 0 < t.critical then .critical
  else if s.hazardousWarnings < t.warning then .hazardous
  else if 0 < t.warning then .caution
  else .safe

def verdict (t : Tally) (s : Scoring) : String :=
  match t.riskLevel s with
  | .critical => s!"{t.critical} critical change(s) would corrupt existing storage"
  | .hazardous => s!"{t.warning} warning(s); the upgrade is likely to cause problems"
  | .caution => s!"{t.warning} warning(s); review before upgrading"
  | .safe => "Storage layout is fully compatible"

theorem score_le (t : Tally) (s : Scoring) : t.score s ≤ 100 :=
  Nat.sub_le ..

theorem riskLevel_eq_critical_iff {t : Tally} {s : Scoring} :
    t.riskLevel s = .critical ↔ 0 < t.critical := by
  unfold riskLevel
  split
  · simp_all
  · split
    · simp_all
    · split <;> simp_all

end Tally

end StorageLayout
