import StorageLayout.Comparison.Basic

/-!
# Changes and their severity

A change is one reported difference of two versions. Collisions, moves and retyped variables
corrupt or reinterpret what is stored, a removal leaves stale data, an addition is harmless.
-/

namespace StorageLayout

/-- How dangerous a change is to what is stored. -/
inductive Severity where
  | safe
  | warning
  | critical
  deriving DecidableEq, Repr

def Severity.render : Severity → String
  | safe => "SAFE"
  | warning => "WARNING"
  | critical => "CRITICAL"

inductive Change where
  | collision (collision : Collision)
  | moved (move : Move)
  | removed (previous : Variable)
  | added (current : Variable)
  /-- The declared type of a name differs. -/
  | retyped (previous current : Variable)
  deriving DecidableEq, Repr

namespace Change

def severity : Change → Severity
  | collision _ | moved _ | retyped _ _ => .critical
  | removed _ => .warning
  | added _ => .safe

/-- The variable as it is after the upgrade, or as it was if it is gone. -/
def subject : Change → Variable
  | collision c => c.current
  | moved m => m.current
  | removed v | added v => v
  | retyped _ current => current

def label : Change → String
  | collision _ => "collision"
  | moved _ => "moved"
  | removed _ => "removed"
  | added _ => "added"
  | retyped _ _ => "type changed"

def description : Change → String
  | collision c => s!"Storage collision at slot {c.slot}: {c.reason}"
  | moved m =>
    s!"'{m.current.name}' moved from slot {m.previous.slot} offset {m.previous.offset} " ++
      s!"to slot {m.current.slot} offset {m.current.offset}"
  | removed v =>
    s!"'{v.name}' ({v.typeName}) was removed; slot {v.slot} offset {v.offset} " ++
      "is left holding stale data"
  | added v => s!"'{v.name}' ({v.typeName}) added at slot {v.slot} offset {v.offset}"
  | retyped previous current =>
    s!"'{current.name}' changed type from {previous.typeName} to {current.typeName}; " ++
      "existing bytes will be reinterpreted"

def recommendation : Change → String
  | collision c =>
    s!"Restore {c.previous.typeName} {c.previous.name} at slot {c.previous.slot} " ++
      s!"offset {c.previous.offset} and declare new variables after all existing ones"
  | moved m =>
    s!"Keep '{m.current.name}' at its original position; " ++
      "reordering or inserting declarations shifts existing state"
  | removed v =>
    s!"Keep a placeholder for '{v.name}' (e.g. a deprecated gap variable) " ++
      "so the slot is not reused"
  | added _ => "Initialize the new variable explicitly after upgrading"
  | retyped previous current =>
    s!"Keep '{current.name}' as {previous.typeName} and introduce a new variable " ++
      s!"for the {current.typeName} value"

end Change

def Comparison.changes (r : Comparison) : List Change :=
  r.collisions.map .collision ++ r.moved.map .moved ++ r.removed.map .removed ++
    r.added.map .added

/-- The variables whose declared type differs, wherever they are stored. The n-th variable of
a name is matched with the n-th of that name, and types are compared in canonical form. -/
def Layout.retypings (old new : Layout) : List Change :=
  let before := withCopies Variable.name old.vars
  (withCopies Variable.name new.vars).filterMap fun x =>
    match copy? x.1 before with
    | some previous =>
      if previous.canonicalType = x.2.canonicalType then none else some (.retyped previous x.2)
    | none => none

/-- Number of changes of each severity. -/
structure Tally where
  critical : Nat
  warning : Nat
  safe : Nat
  deriving DecidableEq, Repr

namespace Tally

def ofChanges (changes : List Change) : Tally where
  critical := changes.countP (·.severity = .critical)
  warning := changes.countP (·.severity = .warning)
  safe := changes.countP (·.severity = .safe)

def total (t : Tally) : Nat :=
  t.critical + t.warning + t.safe

end Tally

end StorageLayout
