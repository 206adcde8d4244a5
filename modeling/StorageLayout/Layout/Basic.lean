import StorageLayout.Variable

/-!
# Layouts

A layout says where each variable of a contract version is stored. It may be computed from a
contract or be written by hand, so nothing keeps its variables apart or its figures in step
with them.
-/

namespace StorageLayout

structure Layout where
  contractName : String
  /-- In the order of declaration, not by slot. -/
  vars : List Variable
  totalSlots : Nat
  /-- Slots with more than one variable. -/
  packedSlots : List Nat
  deriving DecidableEq, Repr

/-- Put `n` into an ascending list, unless it is there. -/
def insertAscending (n : Nat) : List Nat → List Nat
  | [] => [n]
  | m :: ms => if n < m then n :: m :: ms else if n = m then m :: ms else m :: insertAscending n ms

/-- The numbers of a list, each once, in ascending order. -/
def ascending (ns : List Nat) : List Nat :=
  ns.foldr insertAscending []

theorem mem_insertAscending {n k : Nat} {ms : List Nat} :
    k ∈ insertAscending n ms ↔ k = n ∨ k ∈ ms := by
  induction ms with
  | nil => simp [insertAscending]
  | cons m ms ih =>
    by_cases hfront : n < m
    · simp [insertAscending, hfront]
    · by_cases hsame : n = m
      · simp [insertAscending, hsame]
      · rw [insertAscending, if_neg hfront, if_neg hsame, List.mem_cons, ih, List.mem_cons]
        exact or_left_comm

theorem mem_ascending {k : Nat} {ns : List Nat} : k ∈ ascending ns ↔ k ∈ ns := by
  induction ns with
  | nil => rfl
  | cons n ns ih =>
    change k ∈ insertAscending n (ascending ns) ↔ _
    rw [mem_insertAscending, ih, List.mem_cons]

theorem pairwise_insertAscending {n : Nat} {ms : List Nat} (h : ms.Pairwise (· < ·)) :
    (insertAscending n ms).Pairwise (· < ·) := by
  induction ms with
  | nil => exact List.pairwise_singleton ..
  | cons m ms ih =>
    have hm := List.pairwise_cons.mp h
    by_cases hfront : n < m
    · rw [insertAscending, if_pos hfront]
      refine List.pairwise_cons.mpr ⟨fun k hk => ?_, h⟩
      rcases List.mem_cons.mp hk with rfl | hk
      · exact hfront
      · exact Nat.lt_trans hfront (hm.1 k hk)
    · by_cases hsame : n = m
      · rwa [insertAscending, if_neg hfront, if_pos hsame]
      · rw [insertAscending, if_neg hfront, if_neg hsame]
        refine List.pairwise_cons.mpr ⟨fun k hk => ?_, ih hm.2⟩
        rcases mem_insertAscending.mp hk with rfl | hk
        · omega
        · exact hm.1 k hk

theorem pairwise_ascending (ns : List Nat) : (ascending ns).Pairwise (· < ·) := by
  induction ns with
  | nil => exact List.Pairwise.nil
  | cons n ns ih => exact pairwise_insertAscending ih

/-- The sizes of the variables together. -/
def totalSize (vs : List Variable) : Nat :=
  -- The zero is written out, so that the sum does not hang on which instances are in scope.
  @List.sum Nat _ ⟨0⟩ (vs.map (·.size))

@[simp] theorem totalSize_cons (v : Variable) (vs : List Variable) :
    totalSize (v :: vs) = v.size + totalSize vs := rfl

namespace Layout

def empty (contractName : String) : Layout where
  contractName := contractName
  vars := []
  totalSlots := 0
  packedSlots := []

/-- The variables stored in a slot, in the order of declaration. -/
def occupants (m : Layout) (slot : Nat) : List Variable :=
  m.vars.filter (·.slot = slot)

/-- The slots that hold a variable, ascending. -/
def usedSlots (m : Layout) : List Nat :=
  ascending (m.vars.map (·.slot))

def occupancy (m : Layout) : List (Nat × List Variable) :=
  m.usedSlots.map fun slot => (slot, m.occupants slot)

/-- The first variable of the name. -/
def named? (m : Layout) (name : String) : Option Variable :=
  m.vars.find? (·.name = name)

theorem mem_usedSlots {m : Layout} {slot : Nat} :
    slot ∈ m.usedSlots ↔ ∃ v ∈ m.vars, v.slot = slot := by
  rw [usedSlots, mem_ascending, List.mem_map]

theorem mem_occupants {m : Layout} {slot : Nat} {v : Variable} :
    v ∈ m.occupants slot ↔ v ∈ m.vars ∧ v.slot = slot := by
  simp [occupants]

end Layout

end StorageLayout
