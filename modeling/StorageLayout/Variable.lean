import StorageLayout.SolidityType
import StorageLayout.TypeName.Canonical

/-!
# Placed variables

A variable together with the bytes it holds: those from `offset` up to `stop`, in one slot.
Across versions a variable is known by its name and the canonical form of its type.
-/

namespace StorageLayout

structure Variable where
  name : String
  /-- The type as it was declared. -/
  typeName : String
  slot : Nat
  /-- First byte within the slot. -/
  offset : Nat
  /-- Number of bytes. -/
  size : Nat
  isStateVariable : Bool
  /-- The variable leaves part of its slot to others. -/
  packed : Bool
  deriving DecidableEq, Repr

/-- What makes two variables the same one: a variable of another type is another variable. -/
structure Identity where
  name : String
  /-- The canonical type name. -/
  typeName : String
  deriving DecidableEq, Repr

def Identity.render (i : Identity) : String :=
  i.name ++ "|" ++ i.typeName

namespace Variable

def canonicalType (v : Variable) : String :=
  TypeName.canonical v.typeName

def identity (v : Variable) : Identity where
  name := v.name
  typeName := v.canonicalType

/-- The byte after the last one. -/
def stop (v : Variable) : Nat :=
  v.offset + v.size

/-- The two variables share a byte of a slot. -/
def Overlaps (v w : Variable) : Prop :=
  v.slot = w.slot ∧ v.offset < w.stop ∧ w.offset < v.stop

instance (v w : Variable) : Decidable (v.Overlaps w) :=
  inferInstanceAs (Decidable (_ ∧ _ ∧ _))

/-- The two variables start at the same byte. -/
def SamePosition (v w : Variable) : Prop :=
  v.slot = w.slot ∧ v.offset = w.offset

instance (v w : Variable) : Decidable (v.SamePosition w) :=
  inferInstanceAs (Decidable (_ ∧ _))

/-- The variable runs past the end of its slot. -/
def Overruns (v : Variable) : Prop :=
  slotBytes < v.stop

instance (v : Variable) : Decidable v.Overruns :=
  inferInstanceAs (Decidable (_ < _))

theorem Overlaps.symm {v w : Variable} (h : v.Overlaps w) : w.Overlaps v :=
  ⟨h.1.symm, h.2.2, h.2.1⟩

theorem Overlaps.congr_left {v w x : Variable} (h : v.Overlaps x) (hw : v.SamePosition w)
    (hsize : v.size = w.size) : w.Overlaps x := by
  simpa only [Overlaps, stop, hw.1, hw.2, hsize] using h

theorem not_samePosition_iff {v w : Variable} :
    ¬ v.SamePosition w ↔ v.slot ≠ w.slot ∨ v.offset ≠ w.offset :=
  Decidable.not_and_iff_or_not

theorem SamePosition.symm {v w : Variable} (h : v.SamePosition w) : w.SamePosition v :=
  ⟨h.1.symm, h.2.symm⟩

theorem SamePosition.trans {v w x : Variable} (h : v.SamePosition w) (k : w.SamePosition x) :
    v.SamePosition x :=
  ⟨h.1.trans k.1, h.2.trans k.2⟩

end Variable

end StorageLayout
