import Mathlib.Data.Prod.Lex
import StorageLayout.Proofs.Comparison.Agreement
import StorageLayout.Proofs.Layout.Calculated
import StorageLayout.Proofs.Upgrade.Tally

/-!
# Versions without differences

Two contracts compare without differences exactly if their layouts list the same names and
types at the same places in the same order. The variables of a calculated layout ascend, so
pairing them by identity is pairing them by position. Nothing else is reported then, and the
upgrade is safe.
-/

namespace StorageLayout

theorem Layout.retypings_eq_nil_of_agree {old new : Layout}
    (h : old.vars.map Variable.anchor = new.vars.map Variable.anchor) :
    old.retypings new = [] := by
  have hname : old.vars.map Variable.name = new.vars.map Variable.name := map_comp_eq h Prod.fst
  have htype : old.vars.map Variable.canonicalType = new.vars.map Variable.canonicalType :=
    map_comp_eq h fun a => a.2.1
  rw [retypings_eq_nil_iff]
  intro c v w hv hw
  exact eq_of_copy?_of_map_eq hname htype hv hw

theorem Layout.map_slot_eq {old new : Layout}
    (h : old.vars.map Variable.anchor = new.vars.map Variable.anchor) :
    old.vars.map (·.slot) = new.vars.map (·.slot) :=
  map_comp_eq h fun a => a.2.2.1

namespace Contract

variable (a b : Contract)

theorem layout_anchors_ascend (c : Contract) : (c.layout.vars.map Variable.anchor).Pairwise
    fun x y => toLex x.2.2 < toLex y.2.2 := by
  rw [List.pairwise_map]
  apply c.packed_layout.pairwise_precedes.imp_of_mem
  intro v w hv _ h
  have hpos := (fitsSlot_of_mem_layout hv).1
  rw [Prod.Lex.toLex_lt_toLex]
  simp only [Variable.anchor, Variable.Precedes, Variable.stop] at h ⊢
  omega

theorem layout_anchors_eq_of_perm
    (h : (a.layout.vars.map Variable.anchor).Perm (b.layout.vars.map Variable.anchor)) :
    a.layout.vars.map Variable.anchor = b.layout.vars.map Variable.anchor :=
  h.eq_of_pairwise (fun _ _ _ _ hlt hgt => absurd hlt (lt_asymm hgt)) a.layout_anchors_ascend
    b.layout_anchors_ascend

theorem compare_isEmpty_iff_anchors : (a.layout.compare b.layout).isEmpty = true ↔
    a.layout.vars.map Variable.anchor = b.layout.vars.map Variable.anchor := by
  rw [Comparison.isEmpty_iff]
  constructor
  · rintro ⟨-, hmoved, hadded, hremoved⟩
    exact layout_anchors_eq_of_perm a b (Layout.perm_anchor hmoved hremoved hadded)
  · intro h
    exact ⟨Layout.compare_collisions_eq_nil_of_agree h a.packed_layout.pairwise_precedes
      b.packed_layout.pairwise_precedes, Layout.compare_moved_eq_nil_of_agree h,
      Layout.compare_added_eq_nil_of_agree h, Layout.compare_removed_eq_nil_of_agree h⟩

/-- Two contracts compare without differences if and only if their layouts agree, position by
position, on name, canonical type, slot and offset. Then the slots are used alike, no type is
reported as changed, and the upgrade is safe without any change, by every policy. -/
theorem layout_compare_isEmpty_iff :
    ((a.layout.compare b.layout).isEmpty = true ↔
      a.layout.vars.map (fun v => (v.name, v.canonicalType, v.slot, v.offset)) =
        b.layout.vars.map fun v => (v.name, v.canonicalType, v.slot, v.offset)) ∧
      ((a.layout.compare b.layout).isEmpty = true →
        a.layout.totalSlots = b.layout.totalSlots ∧
          a.layout.packedSlots = b.layout.packedSlots ∧
          a.layout.retypings b.layout = [] ∧
          ∀ policy : Policy,
            let u : Upgrade := ⟨a.layout, b.layout, policy⟩
            u.changes = [] ∧ u.score = 100 ∧ u.riskLevel = .safe) := by
  refine ⟨compare_isEmpty_iff_anchors a b, ?_⟩
  intro hempty
  have hanchors := (compare_isEmpty_iff_anchors a b).mp hempty
  have hslots := Layout.map_slot_eq hanchors
  have hretypings := Layout.retypings_eq_nil_of_agree hanchors
  refine ⟨slotCount_congr hslots, ?_, hretypings, ?_⟩
  · rw [layout_packedSlots, layout_packedSlots, hslots]
  · intro policy u
    obtain ⟨hcollisions, hmoved, hadded, hremoved⟩ := Comparison.isEmpty_iff.mp hempty
    have hchanges : u.changes = [] := by
      simp [u, Upgrade.changes, Upgrade.comparison, Comparison.changes, hcollisions, hmoved,
        hadded, hremoved, hretypings]
    have htally : u.tally = ⟨0, 0, 0⟩ := by
      rw [Upgrade.tally, hchanges]
      rfl
    refine ⟨hchanges, ?_, ?_⟩
    · simp [Upgrade.score, Tally.score, htally]
    · simp [Upgrade.riskLevel, Tally.riskLevel, htally]

/-- Types that are only spelled differently make no difference, even where the spelling changes
how many bytes are reserved. -/
theorem layout_compare_isEmpty_spelling :
    let a : Contract := ⟨"Vault", [.make .plain "owner" "address", .make .plain "total" "uint",
      .make .plain "limit" "uint+8"]⟩
    let b : Contract := ⟨"Vault", [.make .plain "owner" "address payable",
      .make .plain "total" "uint256", .make .plain "limit" "uint +8"]⟩
    a.layout.vars.map (·.size) = [20, 32, 1] ∧ b.layout.vars.map (·.size) = [20, 32, 32] ∧
      (a.layout.compare b.layout).isEmpty = true ∧
      (Upgrade.ofContracts a b).score = 100 := by
  intro a b
  have hempty : (a.layout.compare b.layout).isEmpty = true := by
    rw [(layout_compare_isEmpty_iff a b).1]
    decide +kernel
  obtain ⟨-, -, -, hpolicy⟩ := (layout_compare_isEmpty_iff a b).2 hempty
  exact ⟨by decide +kernel, by decide +kernel, hempty, (hpolicy .standard).2.1⟩

end Contract

end StorageLayout
