import StorageLayout.Json.Shape
import StorageLayout.Toml.Reader
import StorageLayout.Upgrade.Policy

/-!
# Policies as TOML and JSON

Every field of a policy may be left out and has its standard value then; a member that is no
field is refused.
-/

namespace StorageLayout

open Json

namespace Scoring

def toJson (s : Scoring) : Json :=
  .object [("critical_penalty", .int s.criticalPenalty),
    ("warning_penalty", .int s.warningPenalty),
    ("unsafe_warning_count", .int s.hazardousWarnings)]

def shape : RecordShape where
  name := "Scoring"
  fields := 3

def ofMembers (members : List (String × Json)) : Except ShapeError Scoring := do
  refuseUnknown ["critical_penalty", "warning_penalty", "unsafe_warning_count"] members
  let criticalPenalty ← member? members "critical_penalty" (decodeNat 32)
  let warningPenalty ← member? members "warning_penalty" (decodeNat 32)
  let hazardousWarnings ← member? members "unsafe_warning_count" (decodeNat 64)
  return {
    criticalPenalty := criticalPenalty.getD standard.criticalPenalty
    warningPenalty := warningPenalty.getD standard.warningPenalty
    hazardousWarnings := hazardousWarnings.getD standard.hazardousWarnings }

def ofItems (items : List Json) : Except ShapeError Scoring := do
  return {
    criticalPenalty := ← itemOr standard.criticalPenalty items 0 (decodeNat 32)
    warningPenalty := ← itemOr standard.warningPenalty items 1 (decodeNat 32)
    hazardousWarnings := ← itemOr standard.hazardousWarnings items 2 (decodeNat 64) }

end Scoring

namespace Thresholds

def toJson (t : Thresholds) : Json :=
  .object [("efficiency_regression", .float t.efficiencyRegression),
    ("slot_growth", .int t.slotGrowth)]

def shape : RecordShape where
  name := "Thresholds"
  fields := 2

def ofMembers (members : List (String × Json)) : Except ShapeError Thresholds := do
  refuseUnknown ["efficiency_regression", "slot_growth"] members
  let efficiencyRegression ← member? members "efficiency_regression" decodeFloat
  let slotGrowth ← member? members "slot_growth" (decodeInt 64)
  return {
    efficiencyRegression := efficiencyRegression.getD standard.efficiencyRegression
    slotGrowth := slotGrowth.getD standard.slotGrowth }

def ofItems (items : List Json) : Except ShapeError Thresholds := do
  return {
    efficiencyRegression := ← itemOr standard.efficiencyRegression items 0 decodeFloat
    slotGrowth := ← itemOr standard.slotGrowth items 1 (decodeInt 64) }

end Thresholds

namespace Policy

def toJson (p : Policy) : Json :=
  .object [("scoring", p.scoring.toJson), ("thresholds", p.thresholds.toJson)]

def shape : RecordShape where
  name := "Policy"
  fields := 2

/-- The policy a value stands for, sound or not. -/
def decode (surplus : Surplus) : Decoder Policy :=
  let scoring := decodeRecordWith surplus Scoring.shape Scoring.ofMembers Scoring.ofItems
  let thresholds :=
    decodeRecordWith surplus Thresholds.shape Thresholds.ofMembers Thresholds.ofItems
  decodeRecordWith surplus shape
    (fun members => do
      refuseUnknown ["scoring", "thresholds"] members
      let scoring ← member? members "scoring" scoring
      let thresholds ← member? members "thresholds" thresholds
      return {
        scoring := scoring.getD .standard
        thresholds := thresholds.getD .standard })
    (fun items => do
      return {
        scoring := ← itemOr .standard items 0 scoring
        thresholds := ← itemOr .standard items 1 thresholds })

end Policy

inductive PolicyError where
  | malformed (cause : Toml.Fault)
  | shape (cause : ShapeError)
  | unsound (fault : PolicyFault)

def PolicyError.message : PolicyError → String
  | malformed cause => s!"could not parse config: {cause.message}"
  | shape cause => s!"could not parse config: {cause.message}"
  | unsound fault => s!"invalid config: {fault.message}"

namespace Policy

def validate (p : Policy) : Except PolicyError Policy :=
  match p.fault? with
  | some fault => .error (.unsound fault)
  | none => .ok p

def ofToml (text : String) : Except PolicyError Policy :=
  match Toml.read text with
  | .error cause => .error (.malformed cause)
  | .ok entries =>
    match decode .ignored (.object (Toml.Node.toJsonEntries entries)) with
    | .error cause => .error (.shape cause)
    | .ok p => p.validate

end Policy

end StorageLayout
