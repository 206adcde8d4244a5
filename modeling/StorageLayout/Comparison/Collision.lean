import StorageLayout.Variable

/-!
# Collisions

A variable of the new version collides with a variable of the old one when it takes bytes that
the other held.
-/

namespace StorageLayout

/-- The bytes of a slot from `start` up to `stop`. -/
structure ByteRange where
  start : Nat
  stop : Nat
  deriving DecidableEq, Repr

namespace ByteRange

def length (r : ByteRange) : Nat :=
  r.stop - r.start

def isEmpty (r : ByteRange) : Bool :=
  r.stop ≤ r.start

end ByteRange

/-- An old and a new variable that share bytes of a slot. -/
structure Collision where
  previous : Variable
  current : Variable
  deriving DecidableEq, Repr

namespace Collision

inductive Kind where
  /-- The bytes went to a variable of another name. -/
  | differentVariable
  /-- The variable kept its name and has another type now. -/
  | typeMismatch
  deriving DecidableEq, Repr

def slot (c : Collision) : Nat :=
  c.previous.slot

/-- The shared bytes, as far as they lie in the slot. -/
def overlap (c : Collision) : ByteRange where
  start := max c.previous.offset c.current.offset
  stop := min (min c.previous.stop c.current.stop) slotBytes

def kind (c : Collision) : Kind :=
  if c.previous.name = c.current.name then .typeMismatch else .differentVariable

def reason (c : Collision) : String :=
  match c.kind with
  | .typeMismatch =>
    s!"'{c.current.name}' changed type from {c.previous.typeName} to " ++
      s!"{c.current.typeName} over the same bytes"
  | .differentVariable =>
    s!"{c.current.typeName} {c.current.name} now occupies bytes previously held by " ++
      s!"{c.previous.typeName} {c.previous.name}"

end Collision

end StorageLayout
