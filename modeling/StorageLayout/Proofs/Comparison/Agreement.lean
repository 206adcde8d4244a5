import StorageLayout.Proofs.Comparison.Partition
import StorageLayout.Proofs.Comparison.Verdict
import StorageLayout.Proofs.Layout.Packing

/-!
# Layouts that agree

A comparison sees the names, the canonical types and the first bytes of variables. Without
additions, removals and moves the two layouts hold the same of these, each as often. If they
hold the same in the same order, nothing is reported, whatever the sizes are.
-/

namespace StorageLayout

namespace Variable

/-- What a comparison matches a variable by, and where it starts. -/
def anchor (v : Variable) : String × String × Nat × Nat :=
  (v.name, v.canonicalType, v.slot, v.offset)

variable {v w x : Variable}

theorem anchor_eq_iff : v.anchor = w.anchor ↔ v.identity = w.identity ∧ v.SamePosition w := by
  simp [anchor, identity, SamePosition, and_assoc]

theorem samePosition_iff : v.SamePosition w ↔ v.position = w.position := by
  simp [SamePosition, position]

theorem Precedes.congr_right (h : v.Precedes w) (hw : w.position = x.position) :
    v.Precedes x := by
  obtain ⟨hslot, hoffset⟩ := Cursor.mk.inj hw
  rwa [Precedes, ← hslot, ← hoffset]

end Variable

namespace Layout

variable {old new : Layout}

theorem length_copiesOf (m : Layout) (k : Identity) :
    (m.copiesOf k).length = (m.vars.map Variable.identity).count k := by
  rw [copiesOf, ← List.countP_eq_length_filter, List.count, List.countP_map]
  rfl

theorem compare_removed_eq_nil_iff : (old.compare new).removed = [] ↔
    ∀ k, (old.vars.map Variable.identity).count k ≤ (new.vars.map Variable.identity).count k := by
  have hfilter : (old.compare new).removed = [] ↔
      ∀ k, (old.compare new).removed.filter (·.identity = k) = [] := by
    refine ⟨fun h k => by rw [h]; rfl, fun h => List.eq_nil_iff_forall_not_mem.mpr fun v hv => ?_⟩
    have hne := List.filter_eq_nil_iff.mp (h v.identity) v hv
    exact hne (decide_eq_true rfl)
  simp only [hfilter, compare_removed_copies, List.drop_eq_nil_iff, length_copiesOf]

theorem compare_added_eq_nil_iff : (old.compare new).added = [] ↔
    ∀ k, (new.vars.map Variable.identity).count k ≤ (old.vars.map Variable.identity).count k :=
  compare_removed_eq_nil_iff

theorem anchor_eq_of_counterparts (h : (old.compare new).moved = []) {c : Copy Identity}
    {v w : Variable} (hv : (c, v) ∈ old.numbered) (hw : (c, w) ∈ new.numbered) :
    v.anchor = w.anchor := by
  have hidentity : v.identity = w.identity :=
    (label_of_mem_withCopies hv).trans (label_of_mem_withCopies hw).symm
  have hposition : v.SamePosition w :=
    NumberedVariables.moves_eq_nil_iff.mp (List.map_eq_nil_iff.mp h) c v w
      (copy?_numbered_eq_some_iff.mpr hv) hw
  exact Variable.anchor_eq_iff.mpr ⟨hidentity, hposition⟩

/-- The occurrences of a layout, each with what a comparison sees of its variable. -/
def anchors (m : Layout) : List (Copy Identity × String × String × Nat × Nat) :=
  m.numbered.map (Prod.map id Variable.anchor)

theorem nodup_anchors (m : Layout) : m.anchors.Nodup := by
  apply List.Nodup.of_map Prod.fst
  rw [anchors, List.map_map]
  exact nodup_withCopies_map_fst m.vars

theorem anchors_map_snd (m : Layout) : m.anchors.map Prod.snd = m.vars.map Variable.anchor := by
  rw [anchors, ← numbered_map_snd, List.map_map, List.map_map]
  rfl

theorem perm_anchor (hmoved : (old.compare new).moved = [])
    (hremoved : (old.compare new).removed = []) (hadded : (old.compare new).added = []) :
    (old.vars.map Variable.anchor).Perm (new.vars.map Variable.anchor) := by
  rw [← anchors_map_snd, ← anchors_map_snd]
  refine List.Perm.map _ ((List.perm_ext_iff_of_nodup old.nodup_anchors new.nodup_anchors).mpr ?_)
  intro y
  simp only [anchors, List.mem_map]
  constructor
  · rintro ⟨⟨c, v⟩, hv, rfl⟩
    obtain ⟨w, hw⟩ := exists_counterpart hremoved hv
    exact ⟨(c, w), hw, congrArg (Prod.mk c) (anchor_eq_of_counterparts hmoved hv hw).symm⟩
  · rintro ⟨⟨c, w⟩, hw, rfl⟩
    obtain ⟨v, hv⟩ := exists_counterpart hadded hw
    exact ⟨(c, v), hv, congrArg (Prod.mk c) (anchor_eq_of_counterparts hmoved hv hw)⟩

theorem NthAt.of_map_identity_eq {k : Identity} {n i : Nat} {v w : Variable}
    (hv : old.NthAt k n i v)
    (hmap : old.vars.map Variable.identity = new.vars.map Variable.identity)
    (hw : new.vars[i]? = some w) : new.NthAt k n i w where
  getElem? := hw
  identity := by
    obtain ⟨v', hv', hvw⟩ := exists_at_of_map_eq hmap hw
    obtain rfl : v = v' := Option.some.inj (hv.getElem?.symm.trans hv')
    exact hvw.symm.trans hv.identity
  number := by
    rw [← hv.number, List.map_take, List.map_take]
    exact congrArg (fun ks => (ks.take i).count k) hmap.symm

section Agree

variable (h : old.vars.map Variable.anchor = new.vars.map Variable.anchor)

include h

theorem map_identity_eq : old.vars.map Variable.identity = new.vars.map Variable.identity :=
  map_comp_eq h fun a => Identity.mk a.1 a.2.1

theorem map_position_eq : old.vars.map Variable.position = new.vars.map Variable.position :=
  map_comp_eq h fun a => Cursor.mk a.2.2.1 a.2.2.2

theorem compare_moved_eq_nil_of_agree : (old.compare new).moved = [] := by
  apply List.map_eq_nil_iff.mpr
  rw [NumberedVariables.moves_eq_nil_iff]
  intro c v w hv hw
  rw [Variable.samePosition_iff]
  exact eq_of_copy?_of_map_eq (map_identity_eq h) (map_position_eq h) hv hw

theorem compare_removed_eq_nil_of_agree : (old.compare new).removed = [] :=
  compare_removed_eq_nil_iff.mpr fun k => by rw [map_identity_eq h]

theorem compare_added_eq_nil_of_agree : (old.compare new).added = [] :=
  compare_added_eq_nil_iff.mpr fun k => by rw [map_identity_eq h]

theorem compare_collisions_eq_nil_of_agree (hold : old.vars.Pairwise Variable.Precedes)
    (hnew : new.vars.Pairwise Variable.Precedes) : (old.compare new).collisions = [] := by
  rw [compare_collisions_of_moved_eq_nil (compare_moved_eq_nil_of_agree h),
    collisions_numbered_eq_nil_iff]
  intro i j v w hv hw ho
  obtain ⟨w', hw', hpos⟩ := exists_at_of_map_eq (map_position_eq h) hw
  obtain ⟨v', hv', hpos'⟩ := exists_at_of_map_eq (map_position_eq h).symm hv
  rcases Nat.lt_trichotomy i j with hlt | rfl | hlt
  · have hprecedes : v.Precedes w := (rel_of_lt hold hv hw' hlt).congr_right hpos
    exact absurd ho hprecedes.not_overlaps
  · obtain ⟨n, hn⟩ := exists_nthAt hv
    exact ⟨_, n, hn, hn.of_map_identity_eq (map_identity_eq h) hw⟩
  · have hprecedes : w.Precedes v := (rel_of_lt hnew hw hv' hlt).congr_right hpos'
    exact absurd ho.symm hprecedes.not_overlaps

end Agree

end Layout

end StorageLayout
