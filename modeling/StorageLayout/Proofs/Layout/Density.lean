import Mathlib.Algebra.BigOperators.Intervals
import Mathlib.Data.Rat.Cast.Order
import StorageLayout.Layout.Usage
import StorageLayout.Proofs.Layout.Bytes
import StorageLayout.Proofs.Layout.Calculated

/-!
# How densely slots are used

The packing rule opens a slot only for a variable that the slot before has no room for. So two
neighbouring slots hold more bytes than one slot has, and all bytes in use are more than half of
those before the last slot. None are used twice, so used and unused bytes add up to the slots.
-/

namespace StorageLayout

theorem totalSize_eq_sum_slots {vs : List Variable} {n : Nat} (h : ∀ v ∈ vs, v.slot < n) :
    totalSize vs = ∑ s ∈ Finset.range n, totalSize (vs.filter (·.slot = s)) := by
  induction vs with
  | nil => exact Finset.sum_const_zero.symm
  | cons v vs ih =>
    rw [List.forall_mem_cons] at h
    have hcons : ∀ s, totalSize ((v :: vs).filter (·.slot = s)) =
        (if v.slot = s then v.size else 0) + totalSize (vs.filter (·.slot = s)) := by
      intro s
      by_cases hs : v.slot = s <;> simp [hs]
    simp only [hcons, Finset.sum_add_distrib, Finset.sum_ite_eq, Finset.mem_range, h.1, if_true,
      ← ih h.2]
    rfl

/-- Neighbours that add up to `b` make the double of a sum at least `b` for each pair of them, and
the two ends are counted on top. -/
theorem mul_add_le_two_mul_sum {f : Nat → Nat} {b n : Nat}
    (h : ∀ k < n, b ≤ f k + f (k + 1)) :
    b * n + f 0 + f n ≤ 2 * ∑ k ∈ Finset.range (n + 1), f k := by
  induction n with
  | zero => simp [Nat.two_mul]
  | succ n ih =>
    have hrest := ih fun k hk => h k (Nat.lt_succ_of_lt hk)
    have hlast := h n (Nat.lt_succ_self n)
    rw [Finset.sum_range_succ, Nat.mul_succ]
    omega

namespace Packed

variable {us vs : List Variable} {v w x : Variable} {k : Nat}

theorem of_append (h : Packed (us ++ vs)) : Packed us where
  first v hv := h.first v (List.mem_head?_append_of_mem_head? hv)
  next := (List.isChain_append.mp h.next).1

theorem follows_of_append (h : Packed (us ++ v :: w :: vs)) : v.Follows w :=
  (List.isChain_cons_cons.mp (List.isChain_append.mp h.next).2.1).1

theorem slot_le_last (h : Packed (us ++ [v])) (hx : x ∈ us ++ [v]) : x.slot ≤ v.slot := by
  rcases List.mem_append.mp hx with hx | hx
  · have hprecedes := (List.pairwise_append.mp h.pairwise_precedes).2.2 x hx v (by simp)
    simp only [Variable.Precedes] at hprecedes
    omega
  · rw [List.mem_singleton.mp hx]

/-- Up to the end of the last variable its slot is full. -/
theorem stop_eq_totalSize (h : Packed (us ++ [v])) :
    v.stop = totalSize ((us ++ [v]).filter (·.slot = v.slot)) := by
  induction us using List.reverseRecOn generalizing v with
  | nil =>
    have hoffset : v.offset = 0 := congrArg Cursor.offset (h.first v rfl)
    simp [Variable.stop, hoffset, totalSize]
  | append_singleton us u ih =>
    have hu : Packed (us ++ [u]) := h.of_append
    rw [List.append_assoc] at h
    rw [List.filter_append, totalSize_append]
    have huv : u.Follows v := h.follows_of_append
    rcases Variable.follows_iff.mp huv with ⟨-, hslot, hoffset⟩ | ⟨-, hslot, hoffset⟩
    · rw [hslot, ← ih hu]
      simp [Variable.stop, hslot, hoffset, totalSize]
    · -- The slot is a new one.
      have hbefore : (us ++ [u]).filter (·.slot = v.slot) = [] := by
        rw [List.filter_eq_nil_iff]
        intro x hx
        have hle := hu.slot_le_last hx
        rw [decide_eq_true_eq]
        omega
      simp [Variable.stop, hbefore, hoffset, totalSize]

/-- The variables of a slot and the first one of the next slot do not fit into one slot. -/
theorem lt_totalSize_add_first (h : Packed vs)
    (hw : (vs.filter (·.slot = k + 1)).head? = some w) :
    slotBytes < totalSize (vs.filter (·.slot = k)) + w.size := by
  rw [List.head?_filter, List.find?_eq_some_iff_append] at hw
  obtain ⟨hslot, us, ws, rfl, hbefore⟩ := hw
  rw [decide_eq_true_eq] at hslot
  rcases us.eq_nil_or_concat' with rfl | ⟨us, u, rfl⟩
  · have hfirst : w.slot = 0 := congrArg Cursor.slot (h.first w rfl)
    omega
  · have hu : u.stop = totalSize ((us ++ [u]).filter (·.slot = u.slot)) :=
      h.of_append.stop_eq_totalSize
    have hne : u.slot ≠ k + 1 := by simpa using hbefore u (by simp)
    rw [List.append_assoc] at h
    rcases Variable.follows_iff.mp h.follows_of_append with ⟨-, hsame, -⟩ | ⟨hlt, hnext, -⟩
    · omega
    · obtain rfl : u.slot = k := by omega
      rw [List.filter_append, totalSize_append, ← hu]
      omega

end Packed

namespace Contract

variable (c : Contract)

theorem bytesUsed_layout : c.layout.bytesUsed =
    ∑ s ∈ Finset.range c.layout.totalSlots, totalSize (c.layout.occupants s) :=
  totalSize_eq_sum_slots fun v hv => c.packed_layout.lt_slotCount_iff.mpr ⟨v, hv, rfl⟩

theorem bytesUsed_layout_le : c.layout.bytesUsed ≤ c.layout.bytesAllocated := by
  rw [bytesUsed_layout]
  calc ∑ s ∈ Finset.range c.layout.totalSlots, totalSize (c.layout.occupants s)
      ≤ ∑ _s ∈ Finset.range c.layout.totalSlots, slotBytes :=
        Finset.sum_le_sum fun s _ => Layout.totalSize_occupants_le c.layout_not_overlaps
          (fun _ hv => (fitsSlot_of_mem_layout hv).2) s
    _ = c.layout.bytesAllocated := by simp [Layout.bytesAllocated]

variable {c} {k : Nat}

theorem exists_first_occupant (hk : k < c.layout.totalSlots) :
    ∃ v, (c.layout.occupants k).head? = some v := by
  obtain ⟨v, hv, hslot⟩ := c.packed_layout.lt_slotCount_iff.mp hk
  have hne : c.layout.occupants k ≠ [] := List.ne_nil_of_mem (Layout.mem_occupants.mpr ⟨hv, hslot⟩)
  exact ⟨_, List.head?_eq_some_head hne⟩

theorem size_le_totalSize_occupants {v : Variable}
    (hv : (c.layout.occupants k).head? = some v) : v.size ≤ totalSize (c.layout.occupants k) := by
  obtain ⟨vs, hvs⟩ := List.head?_eq_some_iff.mp hv
  rw [hvs]
  exact Nat.le_add_right _ _

theorem slotBytes_le_neighbours (hk : k + 1 < c.layout.totalSlots) :
    slotBytes ≤ totalSize (c.layout.occupants k) + totalSize (c.layout.occupants (k + 1)) := by
  obtain ⟨v, hv⟩ := exists_first_occupant hk
  have hlt := c.packed_layout.lt_totalSize_add_first hv
  have hle : v.size ≤ totalSize (c.layout.occupants (k + 1)) := size_le_totalSize_occupants hv
  exact hlt.le.trans (Nat.add_le_add_left hle _)

theorem totalSize_occupants_pos (hk : k < c.layout.totalSlots) :
    0 < totalSize (c.layout.occupants k) := by
  obtain ⟨v, hv⟩ := exists_first_occupant hk
  have hmem : v ∈ c.layout.vars := (Layout.mem_occupants.mp (List.mem_of_mem_head? hv)).1
  exact (fitsSlot_of_mem_layout hmem).1.trans (size_le_totalSize_occupants hv)

theorem totalSlots_pos (h : c.layout.vars ≠ []) : 0 < c.layout.totalSlots := by
  obtain ⟨v, hv⟩ := List.exists_mem_of_ne_nil _ h
  exact lt_slotCount_iff.mpr ⟨v, hv, Nat.zero_le _⟩

theorem lt_two_mul_bytesUsed (h : c.layout.vars ≠ []) :
    slotBytes * (c.layout.totalSlots - 1) < 2 * c.layout.bytesUsed := by
  obtain ⟨n, hn⟩ := Nat.exists_eq_add_one.mpr (totalSlots_pos h)
  have hfirst : 0 < totalSize (c.layout.occupants 0) := totalSize_occupants_pos (totalSlots_pos h)
  have hneighbours : ∀ k < n, slotBytes ≤
      totalSize (c.layout.occupants k) + totalSize (c.layout.occupants (k + 1)) :=
    fun k hk => slotBytes_le_neighbours (by omega)
  have hsum := mul_add_le_two_mul_sum hneighbours
  rw [bytesUsed_layout, hn, Nat.add_sub_cancel]
  omega

/-- The bytes in use and those left over make up the slots of a calculated layout, so no more than
all of them are in use. No slot has room for the first variable of the next one, and if there is a
variable at all, the bytes in use are more than half of those before the last slot. -/
theorem layout_density (c : Contract) :
    c.layout.bytesUsed + c.layout.bytesWasted = slotBytes * c.layout.totalSlots ∧
      (c.layout.bytesUsed : ℚ) / c.layout.bytesAllocated * 100 ≤ 100 ∧
      (∀ k, k + 1 < c.layout.totalSlots → ∃ v, (c.layout.occupants (k + 1)).head? = some v ∧
        slotBytes < totalSize (c.layout.occupants k) + v.size) ∧
      (c.layout.vars ≠ [] →
        slotBytes * (c.layout.totalSlots - 1) < 2 * c.layout.bytesUsed) := by
  have hle : c.layout.bytesUsed ≤ c.layout.bytesAllocated := c.bytesUsed_layout_le
  refine ⟨?_, ?_, fun k hk => ?_, lt_two_mul_bytesUsed⟩
  · rw [Layout.bytesWasted, Nat.add_sub_cancel' hle, Layout.bytesAllocated, Nat.mul_comm]
  · have hratio : (c.layout.bytesUsed : ℚ) / c.layout.bytesAllocated ≤ 1 :=
      div_le_one_of_le₀ (Nat.cast_le.mpr hle) (Nat.cast_nonneg _)
    exact mul_le_of_le_one_left (by norm_num) hratio
  · obtain ⟨v, hv⟩ := exists_first_occupant hk
    exact ⟨v, hv, c.packed_layout.lt_totalSize_add_first hv⟩

/-- Two addresses do not share a slot, though each leaves some of its own unused. -/
theorem layout_density_addresses :
    let owner := Declaration.make .plain "owner" "address"
    let heir := Declaration.make .plain "heir" "address"
    let c : Contract := ⟨"Vault", [owner, heir]⟩
    0 + 1 < c.layout.totalSlots ∧ c.layout.vars ≠ [] ∧
      slotBytes < totalSize (c.layout.occupants 0) + heir.type.size ∧
      slotBytes * (c.layout.totalSlots - 1) < 2 * c.layout.bytesUsed := by
  intro owner heir c
  have hslots : 0 + 1 < c.layout.totalSlots := by decide +kernel
  have hvars : c.layout.vars ≠ [] := by decide +kernel
  have hfirst : (c.layout.occupants 1).head? = some (heir.placedAt ⟨1, 0⟩) := by decide +kernel
  obtain ⟨-, -, hneighbours, hhalf⟩ := layout_density c
  obtain ⟨v, hv, hlt⟩ := hneighbours 0 hslots
  obtain rfl : v = heir.placedAt ⟨1, 0⟩ := Option.some.inj (hv.symm.trans hfirst)
  exact ⟨hslots, hvars, hlt, hhalf hvars⟩

end Contract

end StorageLayout
