import Mathlib.Algebra.BigOperators.Group.Finset.Piecewise
import Mathlib.Algebra.GroupWithZero.Nat
import Mathlib.Algebra.Order.BigOperators.Group.Finset
import Mathlib.Order.Interval.Finset.Nat
import StorageLayout.Layout.Basic
import StorageLayout.Proofs.Positions

/-!
# The bytes of variables

A variable holds the bytes of its slot from its offset up to its end. Variables that do not overlap
hold different bytes, so within a slot they cannot be larger together than the slot is, whatever
order they are declared in.
-/

namespace StorageLayout

namespace Variable

/-- Byte `b` of slot `s` belongs to the variable. -/
def Holds (v : Variable) (s b : Nat) : Prop :=
  v.slot = s ∧ v.offset ≤ b ∧ b < v.stop

instance (v : Variable) (s b : Nat) : Decidable (v.Holds s b) :=
  inferInstanceAs (Decidable (_ ∧ _ ∧ _))

variable {v w : Variable} {s b n : Nat}

theorem Holds.overlaps (hv : v.Holds s b) (hw : w.Holds s b) : v.Overlaps w :=
  ⟨hv.1.trans hw.1.symm, hv.2.1.trans_lt hw.2.2, hw.2.1.trans_lt hv.2.2⟩

theorem sum_holds (hslot : v.slot = s) (hstop : v.stop ≤ n) :
    ∑ b ∈ Finset.range n, (if v.Holds s b then 1 else 0) = v.size := by
  have hbytes : {b ∈ Finset.range n | v.Holds s b} = Finset.Ico v.offset v.stop := by
    ext b
    simp only [Finset.mem_filter, Finset.mem_range, Finset.mem_Ico, Holds, hslot, true_and]
    exact ⟨And.right, fun hb => ⟨hb.2.trans_le hstop, hb⟩⟩
  rw [← Finset.card_filter, hbytes, Nat.card_Ico, stop, Nat.add_sub_cancel_left]

end Variable

section

variable {vs : List Variable} {s n : Nat}

theorem totalSize_append (vs ws : List Variable) :
    totalSize (vs ++ ws) = totalSize vs + totalSize ws := by
  rw [totalSize, List.map_append, List.sum_append, totalSize, totalSize]

/-- Counted byte by byte, the variables of a slot hold what their sizes add up to. -/
theorem sum_countP_holds (hslot : ∀ v ∈ vs, v.slot = s) (hstop : ∀ v ∈ vs, v.stop ≤ n) :
    ∑ b ∈ Finset.range n, vs.countP (·.Holds s b) = totalSize vs := by
  induction vs with
  | nil => exact Finset.sum_const_zero
  | cons v vs ih =>
    rw [List.forall_mem_cons] at hslot hstop
    simp only [List.countP_cons, decide_eq_true_eq, Finset.sum_add_distrib]
    rw [ih hslot.2 hstop.2, Variable.sum_holds hslot.1 hstop.1, totalSize_cons, Nat.add_comm]

theorem countP_holds_le_one (h : vs.Pairwise fun v w => ¬ v.Overlaps w) (s b : Nat) :
    vs.countP (·.Holds s b) ≤ 1 := by
  apply countP_le_one h
  intro v _ w _ hv hw
  rw [decide_eq_true_eq] at hv hw
  exact not_not_intro (hv.overlaps hw)

theorem totalSize_le (hapart : vs.Pairwise fun v w => ¬ v.Overlaps w)
    (hslot : ∀ v ∈ vs, v.slot = s) (hstop : ∀ v ∈ vs, v.stop ≤ n) : totalSize vs ≤ n := by
  calc totalSize vs
      = ∑ b ∈ Finset.range n, vs.countP (·.Holds s b) := (sum_countP_holds hslot hstop).symm
    _ ≤ ∑ _b ∈ Finset.range n, 1 := Finset.sum_le_sum fun b _ => countP_holds_le_one hapart s b
    _ = n := by simp

end

theorem Layout.totalSize_occupants_le {m : Layout}
    (hapart : m.vars.Pairwise fun v w => ¬ v.Overlaps w) (hstop : ∀ v ∈ m.vars, v.stop ≤ slotBytes)
    (s : Nat) : totalSize (m.occupants s) ≤ slotBytes :=
  totalSize_le (hapart.filter _) (fun _ hv => (mem_occupants.mp hv).2)
    fun v hv => hstop v (mem_occupants.mp hv).1

end StorageLayout
