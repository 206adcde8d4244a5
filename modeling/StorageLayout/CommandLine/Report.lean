import StorageLayout.Exchange.Upgrade

/-!
# Reports of the commands

A report is what a command found out. It passes or fails, and it can be shown as text or as
JSON; how it is shown has no bearing on whether it passes.
-/

namespace StorageLayout.CommandLine

inductive Report where
  | layout (layout : Layout)
  | comparison (comparison : Comparison)
  | upgrade (upgrade : Upgrade)
  | overfills (contractName : String) (overfills : List Overfill)

def padLeft (width : Nat) (text : String) : String :=
  String.ofList (List.replicate (width - text.length) ' ') ++ text

def slotList (slots : List Nat) : String :=
  "[" ++ ", ".intercalate (slots.map toString) ++ "]"

def variableLine (v : Variable) : String :=
  s!"  slot {padLeft 3 (toString v.slot)}  offset {padLeft 2 (toString v.offset)}  " ++
    s!"size {padLeft 2 (toString v.size)}  {v.typeName} {v.name}"

def layoutLines (m : Layout) : List String :=
  (s!"{m.contractName}: {m.totalSlots} slot(s), {m.vars.length} variable(s), " ++
    s!"packed slots {slotList m.packedSlots}") :: m.vars.map variableLine

def overfillLines (o : Overfill) : List String :=
  (s!"  slot {o.slot}: {o.totalBytes} bytes in " ++
    ", ".intercalate (o.occupants.map (·.name))) ::
    o.overruns.map fun name => s!"    {name} runs past the end of the slot"

namespace Report

/-- The result is one to go on with: the layouts are compatible, the upgrade can be deployed,
no slot is overfilled. -/
def passes : Report → Bool
  | layout _ => true
  | comparison r => r.safe
  | upgrade u => u.isDeployable
  | overfills _ os => os.isEmpty

def lines : Report → List String
  | layout m => layoutLines m
  | comparison r => if r.isEmpty then ["no differences"] else [r.render]
  | upgrade u => [u.render]
  | overfills contractName os =>
    if os.isEmpty then [s!"{contractName}: no overfilled slots"]
    else s!"{contractName}: {os.length} overfilled slot(s)" :: os.flatMap overfillLines

/-- The report as JSON. The members of a report on overfilled slots are in ascending order of
keys throughout. -/
def toJson : Report → Json
  | layout m => m.toJson
  | comparison r => r.toJson
  | upgrade u => u.toJson
  | overfills contractName os =>
    (Json.object [("contract", .string contractName),
      ("overfilledSlots", .array (os.map (·.toJson)))]).sortKeys

end Report

end StorageLayout.CommandLine
