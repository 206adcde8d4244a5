import StorageLayout.Exchange.Layout
import StorageLayout.Upgrade.Basic

/-!
# Comparisons and upgrades as JSON

Results are only written. The members of an object stand in the order in which a reader would
ask for them.
-/

namespace StorageLayout

open Json

def ByteRange.toJson (r : ByteRange) : Json :=
  .object [("start", .int r.start), ("end", .int r.stop)]

def Collision.Kind.toJson : Collision.Kind → Json
  | differentVariable => .string "differentVariable"
  | typeMismatch => .string "typeMismatch"

def Collision.toJson (c : Collision) : Json :=
  .object [("slot", .int c.slot), ("previous", c.previous.toJson),
    ("current", c.current.toJson), ("overlap", c.overlap.toJson), ("kind", c.kind.toJson),
    ("reason", .string c.reason)]

def Move.toJson (m : Move) : Json :=
  .object [("previous", m.previous.toJson), ("current", m.current.toJson)]

def Comparison.toJson (r : Comparison) : Json :=
  .object [("contract", .string r.contractName),
    ("collisions", .array (r.collisions.map (·.toJson))),
    ("moved", .array (r.moved.map (·.toJson))), ("added", .array (r.added.map (·.toJson))),
    ("removed", .array (r.removed.map (·.toJson))), ("safe", .bool r.safe)]

def Severity.toJson : Severity → Json
  | safe => .string "safe"
  | warning => .string "warning"
  | critical => .string "critical"

namespace Change

def subjectMembers : Change → List (String × Json)
  | collision c => [("type", .string "collision"), ("collision", c.toJson)]
  | moved m =>
    [("type", .string "moved"), ("previous", m.previous.toJson), ("current", m.current.toJson)]
  | removed v => [("type", .string "removed"), ("variable", v.toJson)]
  | added v => [("type", .string "added"), ("variable", v.toJson)]
  | retyped previous current =>
    [("type", .string "typeChanged"), ("previous", previous.toJson),
      ("current", current.toJson)]

def toJson (c : Change) : Json :=
  .object (c.subjectMembers ++ [("severity", c.severity.toJson),
    ("description", .string c.description), ("recommendation", .string c.recommendation)])

end Change

def Tally.toJson (t : Tally) : Json :=
  .object [("critical", .int t.critical), ("warning", .int t.warning), ("safe", .int t.safe)]

def RiskLevel.toJson : RiskLevel → Json
  | safe => .string "safe"
  | caution => .string "caution"
  | hazardous => .string "unsafe"
  | critical => .string "critical"

def Tally.assessmentJson (t : Tally) (s : Scoring) : Json :=
  .object [("score", .int (t.score s)), ("level", (t.riskLevel s).toJson),
    ("description", .string (t.verdict s))]

def Layout.summaryJson (m : Layout) : Json :=
  .object [("contractName", .string m.contractName), ("variableCount", .int m.vars.length),
    ("totalSlots", .int m.totalSlots),
    ("packedSlots", .array (m.packedSlots.map fun (s : Nat) => .int s)),
    ("bytesUsed", .int m.bytesUsed), ("bytesWasted", .int m.bytesWasted),
    ("efficiency", .float m.shownEfficiency)]

def Growth.toJson (g : Growth) : Json :=
  .object [("slotsAdded", .int g.slotsAdded), ("bytesWasted", .int g.bytesWasted),
    ("efficiencyChange", .float g.efficiencyChange)]

def Upgrade.toJson (u : Upgrade) : Json :=
  .object [("v1", u.old.summaryJson), ("v2", u.new.summaryJson),
    ("changes", .array (u.changes.map (·.toJson))), ("summary", u.tally.toJson),
    ("report", u.comparison.toJson),
    ("compatibility", u.tally.assessmentJson u.policy.scoring),
    ("storageGrowth", u.growth.toJson),
    ("recommendations", .array (u.recommendations.map .string))]

end StorageLayout
