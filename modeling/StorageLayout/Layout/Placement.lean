import StorageLayout.Contract
import StorageLayout.Layout.Basic

/-!
# Placement of declarations

Variables are placed in the order of declaration, each behind the last. One that does not fit
into what is left of a slot starts the next slot, and none is split or moved forward.
-/

namespace StorageLayout

/-- Where the next variable may start. -/
structure Cursor where
  slot : Nat
  offset : Nat
  deriving DecidableEq, Repr

namespace Cursor

def start : Cursor where
  slot := 0
  offset := 0

def nextSlot (c : Cursor) : Cursor where
  slot := c.slot + 1
  offset := 0

/-- Where a variable of `size` bytes starts: here if it fits, else in the next slot. -/
def seat (c : Cursor) (size : Nat) : Cursor :=
  if slotBytes < c.offset + size then c.nextSlot else c

/-- The cursor behind a variable of `size` bytes that starts here. -/
def after (c : Cursor) (size : Nat) : Cursor :=
  if slotBytes ≤ c.offset + size then c.nextSlot else { c with offset := c.offset + size }

end Cursor

def Declaration.placedAt (d : Declaration) (c : Cursor) : Variable where
  name := d.name
  typeName := d.typeName
  slot := c.slot
  offset := c.offset
  size := d.type.size
  isStateVariable := true
  packed := 0 < c.offset || d.type.size < slotBytes

/-- Place those declarations that take storage, from the cursor on. -/
def placeFrom (c : Cursor) : List Declaration → List Variable
  | [] => []
  | d :: ds =>
    if d.occupiesStorage then
      let seat := c.seat d.type.size
      d.placedAt seat :: placeFrom (seat.after d.type.size) ds
    else placeFrom c ds

/-- The slots up to the last used one. -/
def slotCount (vs : List Variable) : Nat :=
  vs.foldl (fun n v => max n (v.slot + 1)) 0

def Contract.layout (c : Contract) : Layout :=
  let vars := placeFrom .start c.declarations
  let placed : Layout :=
    { contractName := c.name, vars, totalSlots := slotCount vars, packedSlots := [] }
  { placed with packedSlots := placed.usedSlots.filter fun s => 1 < (placed.occupants s).length }

end StorageLayout
