import StorageLayout.Decimal.Text
import StorageLayout.Layout.Basic

/-!
# Use of storage

How many bytes a layout takes, how many it leaves unused, and how both change from one version
to the next. Percentages are floating-point numbers and are shown rounded to two places, a half
going away from zero. In a layout written by hand a slot may be given more bytes than it has, or a
variable may run past the end of its slot: such a slot is overfilled.
-/

namespace StorageLayout

/-- The value with two decimal places. -/
def roundPercentage (x : Float) : Float :=
  (x * 100.0).round / 100.0

/-- The number as a word of 64 bits with a sign. -/
def signedWord (n : Nat) : Int :=
  Int.bmod n UInt64.size

theorem signedWord_of_lt {n : Nat} (h : n < UInt64.size / 2) : signedWord n = n := by
  unfold signedWord
  rw [Int.bmod_def]
  simp only [UInt64.size] at h ⊢
  omega

namespace Layout

/-- Bytes that hold a variable's data. -/
def bytesUsed (m : Layout) : Nat :=
  totalSize m.vars

def bytesAllocated (m : Layout) : Nat :=
  m.totalSlots * slotBytes

/-- Allocated bytes that hold no data; none if more data is held than was allocated. -/
def bytesWasted (m : Layout) : Nat :=
  m.bytesAllocated - m.bytesUsed

/-- The percentage of allocated bytes that hold data, zero if none are allocated. -/
def efficiency (m : Layout) : Float :=
  if m.bytesAllocated = 0 then 0.0
  else Float.ofNat m.bytesUsed / Float.ofNat m.bytesAllocated * 100.0

def shownEfficiency (m : Layout) : Float :=
  roundPercentage m.efficiency

end Layout

/-- How the use of storage changes; what shrinks is negative. -/
structure Growth where
  slotsAdded : Int
  /-- Change of the unused bytes. -/
  bytesWasted : Int
  /-- Change of the efficiency in percentage points. -/
  efficiencyChange : Float

/-- The growth from the old layout to the new one. The counts are compared as words with a
sign. -/
def Layout.growth (old new : Layout) : Growth where
  slotsAdded := signedWord new.totalSlots - signedWord old.totalSlots
  bytesWasted := signedWord new.bytesWasted - signedWord old.bytesWasted
  efficiencyChange := roundPercentage (new.efficiency - old.efficiency)

theorem Layout.slotsAdded_growth {old new : Layout} (hold : old.totalSlots < UInt64.size / 2)
    (hnew : new.totalSlots < UInt64.size / 2) :
    (old.growth new).slotsAdded = (new.totalSlots : Int) - old.totalSlots := by
  rw [growth, signedWord_of_lt hnew, signedWord_of_lt hold]

structure Overfill where
  slot : Nat
  occupants : List Variable
  /-- The sizes of the occupants together. -/
  totalBytes : Nat
  /-- Names of the occupants that run past the end of the slot. -/
  overruns : List String
  deriving DecidableEq, Repr

/-- What a slot with these variables holds, fitting or not. -/
def Overfill.ofOccupants (slot : Nat) (occupants : List Variable) : Overfill where
  slot := slot
  occupants := occupants
  totalBytes := totalSize occupants
  overruns := (occupants.filter (·.Overruns)).map (·.name)

/-- More bytes than a slot has, or a variable that passes its end. -/
def Overfill.Exceeds (o : Overfill) : Prop :=
  slotBytes < o.totalBytes ∨ o.overruns ≠ []

instance (o : Overfill) : Decidable o.Exceeds :=
  inferInstanceAs (Decidable (_ ∨ _))

/-- The overfilled slots, ascending. -/
def Layout.overfills (m : Layout) : List Overfill :=
  (m.occupancy.map fun entry => Overfill.ofOccupants entry.1 entry.2).filter (·.Exceeds)

end StorageLayout
