import StorageLayout.Proofs.Comparison.Lists

/-!
# The verdict of a comparison

An upgrade is safe exactly if every variable that stays keeps its place and no new variable
takes bytes of another old one. Variables that moved are left out of the scan for collisions;
as a move alone makes an upgrade unsafe, this hides nothing.
-/

namespace StorageLayout

namespace Layout

variable {old new : Layout}

theorem compare_moved_eq_nil_iff : (old.compare new).moved = [] ↔
    ∀ k n i j v w, old.NthAt k n i v → new.NthAt k n j w → v.SamePosition w := by
  have hmap : (old.compare new).moved = [] ↔ old.numbered.moves new.numbered = [] :=
    List.map_eq_nil_iff
  rw [hmap, NumberedVariables.moves_eq_nil_iff]
  constructor
  · intro h k n i j v w hv hw
    exact h ⟨k, n⟩ v w (copy?_numbered_eq_some_iff.mpr (mem_numbered.mpr ⟨i, hv⟩))
      (mem_numbered.mpr ⟨j, hw⟩)
  · intro h c v w hv hw
    obtain ⟨i, hi⟩ := mem_numbered.mp (copy?_numbered_eq_some_iff.mp hv)
    obtain ⟨j, hj⟩ := mem_numbered.mp hw
    exact h c.label c.number i j v w hi hj

theorem collisions_numbered_eq_nil_iff : old.numbered.collisions new.numbered = [] ↔
    ∀ i j v w, old.vars[i]? = some v → new.vars[j]? = some w → v.Overlaps w →
      ∃ k n, old.NthAt k n i v ∧ new.NthAt k n j w := by
  rw [NumberedVariables.collisions_eq_nil_iff]
  constructor
  · intro h i j v w hv hw ho
    obtain ⟨n, hn⟩ := exists_nthAt hv
    obtain ⟨l, hl⟩ := exists_nthAt hw
    have hc : Copy.mk v.identity n = Copy.mk w.identity l :=
      h (_, v) (mem_numbered.mpr ⟨i, hn⟩) (_, w) (mem_numbered.mpr ⟨j, hl⟩) ho
    obtain ⟨hk, rfl⟩ := Copy.mk.inj hc
    exact ⟨v.identity, n, hn, hk ▸ hl⟩
  · rintro h ⟨⟨k, n⟩, v⟩ hx ⟨⟨l, o⟩, w⟩ hy ho
    obtain ⟨i, hi⟩ := mem_numbered.mp hx
    obtain ⟨j, hj⟩ := mem_numbered.mp hy
    obtain ⟨k', n', hi', hj'⟩ := h i j v w hi.getElem? hj.getElem? ho
    obtain rfl : k = k' := hi.identity.symm.trans hi'.identity
    obtain rfl : l = k := hj.identity.symm.trans hj'.identity
    obtain rfl : n = n' := hi.number.symm.trans hi'.number
    obtain rfl : o = n := hj.number.symm.trans hj'.number
    rfl

theorem exists_counterpart (h : (old.compare new).removed = []) {c : Copy Identity}
    {v : Variable} (hv : (c, v) ∈ old.numbered) : ∃ w, (c, w) ∈ new.numbered := by
  cases hc : copy? c new.numbered with
  | none =>
    have hmem : v ∈ (old.compare new).removed :=
      NumberedVariables.mem_without.mpr ⟨c, hv, hc⟩
    rw [h] at hmem
    cases hmem
  | some w => exact ⟨w, copy?_numbered_eq_some_iff.mp hc⟩

/-- A variable that stays has bytes of its own in the new layout, so nothing collides with it
there if its size is the same as before. -/
theorem compare_collisions_eq_nil_of_size_eq (hremoved : (old.compare new).removed = [])
    (hapart : new.vars.Pairwise fun v w => ¬ v.Overlaps w)
    (hsize : ∀ c v w, (c, v) ∈ old.numbered → (c, w) ∈ new.numbered → v.size = w.size) :
    (old.compare new).collisions = [] := by
  rw [List.eq_nil_iff_forall_not_mem]
  intro r hr
  obtain ⟨⟨c, v⟩, hv, ⟨d, u⟩, hu, hne, ho, -⟩ := NumberedVariables.mem_collisions.mp hr
  obtain ⟨hv, hstays⟩ := NumberedVariables.mem_unmoved.mp hv
  have hu := (NumberedVariables.mem_unmoved.mp hu).1
  obtain ⟨w, hw⟩ := exists_counterpart hremoved hv
  have hposition : v.SamePosition w := by
    by_contra hmoved
    exact hstays (List.mem_map.mpr ⟨(c, ⟨v, w⟩), NumberedVariables.mem_moves.mpr
      ⟨hw, copy?_numbered_eq_some_iff.mpr hv, hmoved⟩, rfl⟩)
  have hwu : w.Overlaps u := ho.congr_left hposition (hsize c v w hv hw)
  have heq : (c, w) = (d, u) := eq_of_overlaps hapart hw hu hwu
  exact hne (Prod.mk.inj heq).1

theorem compare_collisions_of_moved_eq_nil (h : (old.compare new).moved = []) :
    (old.compare new).collisions = old.numbered.collisions new.numbered := by
  have hm : old.numbered.moves new.numbered = [] := List.map_eq_nil_iff.mp h
  simp [compare, hm]

/-- Leaving out the pairs with a moved variable never changes the verdict. -/
theorem compare_safe_iff_full_scan : (old.compare new).safe = true ↔
    (old.compare new).moved = [] ∧ old.numbered.collisions new.numbered = [] := by
  rw [Comparison.safe_iff]
  constructor
  · rintro ⟨hm, hc⟩
    exact ⟨hm, compare_collisions_of_moved_eq_nil hm ▸ hc⟩
  · rintro ⟨hm, hc⟩
    exact ⟨hm, (compare_collisions_of_moved_eq_nil hm).trans hc⟩

/-- An upgrade is safe if and only if the `n`-th variable of every identity stays where it was
and no old variable shares a byte with a new one that is not its counterpart. -/
theorem compare_safe_iff (old new : Layout) : (old.compare new).safe = true ↔
    (∀ k n i j v w, old.NthAt k n i v → new.NthAt k n j w →
        v.slot = w.slot ∧ v.offset = w.offset) ∧
      ∀ i j v w, old.vars[i]? = some v → new.vars[j]? = some w → v.Overlaps w →
        ∃ k n, old.NthAt k n i v ∧ new.NthAt k n j w := by
  rw [compare_safe_iff_full_scan, compare_moved_eq_nil_iff, collisions_numbered_eq_nil_iff]
  exact Iff.rfl

end Layout

end StorageLayout
