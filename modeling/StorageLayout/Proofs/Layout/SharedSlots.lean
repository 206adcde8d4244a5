import StorageLayout.Proofs.Layout.Calculated

/-!
# Shared slots

A variable is marked as packed when it is placed, before it is known what follows it, and the slots
with several variables are listed when all variables have their place. The two agree: a variable is
left unmarked exactly if it fills its slot, and no other variable is in such a slot.
-/

namespace StorageLayout

namespace Variable

/-- The variable takes all bytes of its slot. -/
def FillsSlot (v : Variable) : Prop :=
  v.offset = 0 ∧ v.size = slotBytes

variable {v w : Variable}

theorem FillsSlot.overlaps (hv : v.FillsSlot) (hw : w.FitsSlot) (hslot : v.slot = w.slot) :
    v.Overlaps w := by
  obtain ⟨hoffset, hsize⟩ := hv
  obtain ⟨hpos, hstop⟩ := hw
  unfold Overlaps
  unfold stop at hstop ⊢
  omega

end Variable

theorem filter_slot_eq_singleton {vs : List Variable} {v : Variable}
    (hapart : vs.Pairwise fun v w => ¬ v.Overlaps w) (hfits : ∀ w ∈ vs, w.FitsSlot) (hv : v ∈ vs)
    (hfills : v.FillsSlot) : vs.filter (·.slot = v.slot) = [v] := by
  induction vs with
  | nil => cases hv
  | cons u us ih =>
    obtain ⟨hu, hus⟩ := List.pairwise_cons.mp hapart
    rw [List.forall_mem_cons] at hfits
    rcases List.mem_cons.mp hv with rfl | hv
    · have hrest : us.filter (·.slot = v.slot) = [] := by
        apply List.filter_eq_nil_iff.mpr
        intro w hw hslot
        exact hu w hw (hfills.overlaps (hfits.2 w hw) (of_decide_eq_true hslot).symm)
      rw [List.filter_cons_of_pos (by simp), hrest]
    · have hslot : u.slot ≠ v.slot := by
        intro hslot
        exact hu v hv (hfills.overlaps hfits.1 hslot.symm).symm
      rw [List.filter_cons_of_neg (by simpa using hslot)]
      exact ih hus hfits.2 hv

/-- The mark is given for the place of the variable alone, whatever is placed behind it. -/
theorem Declaration.packed_placedAt (d : Declaration) (c : Cursor) : (d.placedAt c).packed =
    (decide (0 < (d.placedAt c).offset) || decide ((d.placedAt c).size < slotBytes)) := by
  unfold placedAt
  rfl

section

variable {c : Cursor} {ds : List Declaration} {v : Variable}

theorem packed_of_mem_placeFrom (h : v ∈ placeFrom c ds) :
    v.packed = (decide (0 < v.offset) || decide (v.size < slotBytes)) := by
  induction ds generalizing c with
  | nil => cases h
  | cons d ds ih =>
    unfold placeFrom at h
    split at h
    · rcases List.mem_cons.mp h with rfl | h
      · exact d.packed_placedAt _
      · exact ih h
    · exact ih h

theorem packed_eq_false_iff (h : v ∈ placeFrom c ds) : v.packed = false ↔ v.FillsSlot := by
  have hsize : v.size ≤ slotBytes := Nat.le_of_add_left_le (fitsSlot_of_mem_placeFrom h).2
  rw [packed_of_mem_placeFrom h, Bool.or_eq_false_iff, decide_eq_false_iff_not,
    decide_eq_false_iff_not]
  unfold Variable.FillsSlot
  omega

end

namespace Contract

variable {c : Contract} {s : Nat}

theorem mem_packedSlots_iff :
    s ∈ c.layout.packedSlots ↔ 2 ≤ c.layout.vars.countP (·.slot = s) := by
  rw [layout_packedSlots, List.mem_filter, mem_ascending, decide_eq_true_eq,
    ← Layout.length_occupants, Layout.occupants, ← List.countP_eq_length_filter]
  apply and_iff_right_of_imp
  intro hshared
  obtain ⟨v, hv, hslot⟩ := List.countP_pos_iff.mp (Nat.zero_lt_of_lt hshared)
  exact List.mem_map.mpr ⟨v, hv, of_decide_eq_true hslot⟩

theorem lt_totalSlots_of_mem_packedSlots (h : s ∈ c.layout.packedSlots) :
    s < c.layout.totalSlots := by
  rw [layout_packedSlots, List.mem_filter, mem_ascending, List.mem_map] at h
  exact c.packed_layout.lt_slotCount_iff.mpr h.1

theorem filter_slot_eq_singleton_of_unpacked {v : Variable} (hv : v ∈ c.layout.vars)
    (h : v.packed = false) : c.layout.vars.filter (·.slot = v.slot) = [v] :=
  filter_slot_eq_singleton c.layout_not_overlaps (fun _ => fitsSlot_of_mem_layout) hv
    ((packed_eq_false_iff hv).mp h)

theorem packed_of_slot_mem_packedSlots {v : Variable} (hv : v ∈ c.layout.vars)
    (h : v.slot ∈ c.layout.packedSlots) : v.packed = true := by
  by_contra hpacked
  rw [Bool.not_eq_true] at hpacked
  have hcount : 2 ≤ (c.layout.vars.filter (·.slot = v.slot)).length := by
    rw [← List.countP_eq_length_filter]
    exact mem_packedSlots_iff.mp h
  rw [filter_slot_eq_singleton_of_unpacked hv hpacked, List.length_singleton] at hcount
  omega

/-- A calculated layout lists in ascending order exactly the slots that hold two variables or more,
all of which are in use. A variable is not marked as packed if and only if it fills its slot, then no
other variable is there, and in the listed slots all variables are marked. -/
theorem layout_shared_slots (c : Contract) :
    c.layout.packedSlots.Pairwise (· < ·) ∧
      (∀ s, s ∈ c.layout.packedSlots ↔ 2 ≤ c.layout.vars.countP (·.slot = s)) ∧
      (∀ s ∈ c.layout.packedSlots, s < c.layout.totalSlots) ∧
      ∀ v ∈ c.layout.vars,
        (v.packed = false ↔ v.offset = 0 ∧ v.size = slotBytes) ∧
          (v.packed = false → c.layout.vars.filter (·.slot = v.slot) = [v]) ∧
          (v.slot ∈ c.layout.packedSlots → v.packed = true) := by
  refine ⟨?_, fun s => mem_packedSlots_iff, fun s => lt_totalSlots_of_mem_packedSlots, ?_⟩
  · rw [layout_packedSlots]
    exact (pairwise_ascending _).filter _
  · intro v hv
    exact ⟨packed_eq_false_iff hv, filter_slot_eq_singleton_of_unpacked hv,
      packed_of_slot_mem_packedSlots hv⟩

end Contract

end StorageLayout
