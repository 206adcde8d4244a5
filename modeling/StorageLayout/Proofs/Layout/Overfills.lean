import StorageLayout.Layout.Usage
import StorageLayout.Proofs.Layout.Bytes
import StorageLayout.Proofs.Layout.Calculated

/-!
# What the report of overfilled slots says

The report names every slot that is given more bytes than it has or that a variable runs out of, and
no other, with all its variables. It stays empty as long as variables keep apart and within their
slots, as those of a calculated layout do.
-/

namespace StorageLayout

namespace Layout

variable (m : Layout)

def overfillAt (s : Nat) : Overfill :=
  .ofOccupants s (m.occupants s)

variable {m} {s : Nat}

theorem exceeds_overfillAt_iff : (m.overfillAt s).Exceeds ↔
    slotBytes < totalSize (m.occupants s) ∨ ∃ v ∈ m.occupants s, v.Overruns := by
  simp [Overfill.Exceeds, overfillAt, Overfill.ofOccupants]

theorem mem_usedSlots_of_exceeds (h : (m.overfillAt s).Exceeds) : s ∈ m.usedSlots := by
  obtain ⟨v, hv⟩ : ∃ v, v ∈ m.occupants s := by
    rcases exceeds_overfillAt_iff.mp h with hsize | ⟨v, hv, -⟩
    · apply List.exists_mem_of_ne_nil
      intro hnil
      rw [hnil] at hsize
      exact Nat.not_lt_zero _ hsize
    · exact ⟨v, hv⟩
  exact mem_usedSlots.mpr ⟨v, mem_occupants.mp hv⟩

theorem overfills_eq (m : Layout) : m.overfills =
    (m.usedSlots.filter fun s => (m.overfillAt s).Exceeds).map m.overfillAt := by
  rw [overfills, occupancy, List.map_map, List.filter_map]
  rfl

theorem map_slot_overfills (m : Layout) : m.overfills.map (·.slot) =
    m.usedSlots.filter fun s => (m.overfillAt s).Exceeds := by
  rw [overfills_eq, List.map_map]
  exact List.map_id _

theorem mem_map_slot_overfills :
    s ∈ m.overfills.map (·.slot) ↔ (m.overfillAt s).Exceeds := by
  rw [map_slot_overfills, List.mem_filter, decide_eq_true_eq]
  exact and_iff_right_of_imp mem_usedSlots_of_exceeds

theorem eq_overfillAt_of_mem {o : Overfill} (h : o ∈ m.overfills) : o = m.overfillAt o.slot := by
  rw [overfills_eq, List.mem_map] at h
  obtain ⟨s, -, rfl⟩ := h
  rfl

theorem overfills_eq_nil (hapart : m.vars.Pairwise fun v w => ¬ v.Overlaps w)
    (hstop : ∀ v ∈ m.vars, v.stop ≤ slotBytes) : m.overfills = [] := by
  rw [← List.map_eq_nil_iff (f := (·.slot)), List.eq_nil_iff_forall_not_mem]
  intro s hs
  rcases exceeds_overfillAt_iff.mp (mem_map_slot_overfills.mp hs) with hsize | ⟨v, hv, hover⟩
  · exact Nat.not_lt.mpr (totalSize_occupants_le hapart hstop s) hsize
  · exact Nat.not_lt.mpr (hstop v (mem_occupants.mp hv).1) hover

end Layout

theorem Contract.overfills_layout (c : Contract) : c.layout.overfills = [] :=
  Layout.overfills_eq_nil c.layout_not_overlaps fun _ hv => (fitsSlot_of_mem_layout hv).2

namespace Layout

/-- The report lists, in ascending order, exactly the slots whose variables have more bytes together
than a slot or of which one runs past the end. Each is listed with its variables in the order of
declaration, the sum of their sizes, and the names of those that run past the end. Variables that
share no bytes and end within their slots are never reported, and calculated ones are of that
kind. -/
theorem overfills_exact (m : Layout) :
    (m.overfills.map (·.slot)).Pairwise (· < ·) ∧
      (∀ s, s ∈ m.overfills.map (·.slot) ↔
        slotBytes < ((m.vars.filter (·.slot = s)).map (·.size)).sum ∨
          ∃ v ∈ m.vars, v.slot = s ∧ slotBytes < v.offset + v.size) ∧
      (∀ o ∈ m.overfills,
        o.occupants = m.vars.filter (·.slot = o.slot) ∧
          o.totalBytes = (o.occupants.map (·.size)).sum ∧
          o.overruns =
            (o.occupants.filter fun v => slotBytes < v.offset + v.size).map (·.name)) ∧
      (m.vars.Pairwise (fun v w => ¬ v.Overlaps w) →
        (∀ v ∈ m.vars, v.offset + v.size ≤ slotBytes) → m.overfills = []) ∧
      ∀ c : Contract, c.layout.overfills = [] := by
  refine ⟨?_, fun s => ?_, fun o ho => ?_, overfills_eq_nil, Contract.overfills_layout⟩
  · rw [map_slot_overfills]
    exact (pairwise_ascending _).filter _
  · rw [mem_map_slot_overfills, exceeds_overfillAt_iff]
    simp only [mem_occupants, and_assoc]
    rfl
  · rw [eq_overfillAt_of_mem ho]
    exact ⟨rfl, rfl, rfl⟩

/-- Two halves that fill a slot are not reported, in whichever order they are declared. -/
theorem overfills_exact_halves :
    let high : Variable := ⟨"high", "uint128", 0, 16, 16, true, true⟩
    let low : Variable := ⟨"low", "uint128", 0, 0, 16, true, true⟩
    let m : Layout := ⟨"Vault", [high, low], 1, [0]⟩
    m.vars.Pairwise (fun v w => ¬ v.Overlaps w) ∧
      (∀ v ∈ m.vars, v.offset + v.size ≤ slotBytes) ∧ m.overfills = [] := by
  intro high low m
  have hapart : m.vars.Pairwise (fun v w => ¬ v.Overlaps w) := by decide
  have hstop : ∀ v ∈ m.vars, v.offset + v.size ≤ slotBytes := by decide
  exact ⟨hapart, hstop, (overfills_exact m).2.2.2.1 hapart hstop⟩

/-- An amount placed behind the owner of a slot runs past its end. -/
example :
    let owner : Variable := ⟨"owner", "address", 0, 0, 20, true, true⟩
    let amount : Variable := ⟨"amount", "uint128", 0, 20, 16, true, true⟩
    let total : Variable := ⟨"total", "uint256", 1, 0, 32, true, false⟩
    (Layout.mk "Vault" [owner, amount, total] 2 []).overfills =
      [⟨0, [owner, amount], 36, ["amount"]⟩] := by
  decide

end Layout

end StorageLayout
