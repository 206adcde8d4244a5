import StorageLayout.Layout.Placement
import StorageLayout.Layout.Usage
import StorageLayout.Upgrade.Risk

/-!
# Upgrades

An upgrade takes a contract from an old layout to a new one. Judging it means listing its
changes, weighing them by a policy, and giving advice.
-/

namespace StorageLayout

structure Upgrade where
  old : Layout
  new : Layout
  policy : Policy

namespace Upgrade

/-- The upgrade between two contracts, judged by the standard policy. -/
def ofContracts (old new : Contract) : Upgrade where
  old := old.layout
  new := new.layout
  policy := .standard

def comparison (u : Upgrade) : Comparison :=
  u.old.compare u.new

/-- What the comparison reports, then the retyped variables. -/
def changes (u : Upgrade) : List Change :=
  u.comparison.changes ++ u.old.retypings u.new

def tally (u : Upgrade) : Tally :=
  .ofChanges u.changes

def score (u : Upgrade) : Nat :=
  u.tally.score u.policy.scoring

def riskLevel (u : Upgrade) : RiskLevel :=
  u.tally.riskLevel u.policy.scoring

def verdict (u : Upgrade) : String :=
  u.tally.verdict u.policy.scoring

def growth (u : Upgrade) : Growth :=
  u.old.growth u.new

/-- No change corrupts what is stored. -/
def isDeployable (u : Upgrade) : Bool :=
  u.riskLevel ≠ .critical

/-- The advice when there is nothing to remark on. -/
def allClear : String :=
  "Storage layout is compatible; the upgrade is safe to deploy"

def criticalAdvice (count : Nat) : List String :=
  if 0 < count then
    ["Do not deploy this upgrade: " ++
      s!"{count} critical change(s) would corrupt existing storage",
      "Use a new contract and migrate state instead of upgrading in place"]
  else []

def warningAdvice (count : Nat) : List String :=
  if 0 < count then
    [s!"Test the upgrade thoroughly against a copy of production state ({count} warning(s))"]
  else []

/-- Advice on efficiency, if it falls by more than the threshold. -/
def efficiencyAdvice (change threshold : Float) : List String :=
  if change < -threshold then
    ["Packing efficiency dropped by " ++ Decimal.fixed 2 (-change) ++
      " points; reorder variables so smaller types share slots"]
  else []

/-- Advice on new slots, if there are more than the threshold. -/
def growthAdvice (added threshold : Int) : List String :=
  if threshold < added then
    [s!"Storage grows by {added} slots; consider the extra gas cost to callers"]
  else []

def remarks (u : Upgrade) : List String :=
  criticalAdvice u.tally.critical ++ warningAdvice u.tally.warning ++
    efficiencyAdvice u.growth.efficiencyChange u.policy.thresholds.efficiencyRegression ++
    growthAdvice u.growth.slotsAdded u.policy.thresholds.slotGrowth

def recommendations (u : Upgrade) : List String :=
  if u.remarks.isEmpty then [allClear] else u.remarks

def headline (u : Upgrade) : String :=
  s!"{u.old.contractName} -> {u.new.contractName}: {u.riskLevel.render} (score {u.score}/100)"

def usageLine (u : Upgrade) : String :=
  s!"  slots {u.old.totalSlots} -> {u.new.totalSlots} " ++
    s!"({Decimal.signed u.growth.slotsAdded}), efficiency " ++
    s!"{Decimal.fixed 2 u.old.shownEfficiency}% -> {Decimal.fixed 2 u.new.shownEfficiency}% " ++
    s!"({Decimal.fixedSigned 2 u.growth.efficiencyChange} pts), " ++
    s!"wasted bytes {Decimal.signed u.growth.bytesWasted}"

def changeLine (c : Change) : String :=
  s!"  [{c.severity.render}] {c.label}: {c.description}"

def changeLines (u : Upgrade) : List String :=
  if u.changes.isEmpty then []
  else
    (s!"{u.tally.total} change(s): {u.tally.critical} critical, {u.tally.warning} warning, " ++
      s!"{u.tally.safe} safe") :: u.changes.map changeLine ++ [""]

def render (u : Upgrade) : String :=
  "\n".intercalate ([u.headline, s!"  {u.verdict}", u.usageLine, ""] ++ u.changeLines ++
    "Recommendations:" :: u.recommendations.map fun r => s!"  - {r}")

end Upgrade

end StorageLayout
