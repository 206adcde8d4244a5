import Mathlib.Tactic.ByContra
import StorageLayout.Proofs.Comparison.Copies
import StorageLayout.Proofs.Comparison.Scan

/-!
# The lists of a comparison

Which variables a comparison lists as removed, added, moved or colliding, said by the
occurrences of their identities alone. The scan for collisions goes slot by slot, yet it finds
every overlapping pair, as variables that overlap lie in one slot.
-/

namespace StorageLayout

/-- The variable at position `i` is `v`, the `n`-th of identity `k` in the order of declaration,
counted from zero. -/
structure Layout.NthAt (m : Layout) (k : Identity) (n i : Nat) (v : Variable) : Prop where
  getElem? : m.vars[i]? = some v
  identity : v.identity = k
  number : ((m.vars.take i).map (·.identity)).count k = n

namespace NumberedVariables

variable {xs ys before now : NumberedVariables} {c : Copy Identity} {v : Variable}

theorem mem_without : v ∈ xs.without ys ↔ ∃ c, (c, v) ∈ xs ∧ copy? c ys = none := by
  simp [without]

theorem mem_moves {m : Move} : (c, m) ∈ moves before now ↔
    (c, m.current) ∈ now ∧ copy? c before = some m.previous ∧
      ¬ m.previous.SamePosition m.current := by
  simp only [moves, List.mem_filterMap]
  constructor
  · rintro ⟨⟨d, w⟩, hw, h⟩
    split at h
    case h_1 previous hp =>
      split at h
      · cases h
      case isFalse hne =>
        cases h
        exact ⟨hw, hp, hne⟩
    case h_2 => cases h
  · rintro ⟨hw, hp, hne⟩
    exact ⟨(c, m.current), hw, by simp [hp, hne]⟩

theorem mem_unmoved {x : Copy Identity × Variable} {moved : List (Copy Identity)} :
    x ∈ xs.unmoved moved ↔ x ∈ xs ∧ x.1 ∉ moved := by
  simp [unmoved]

/-- The scan by slots finds the same pairs as a scan of all pairs. -/
theorem mem_collisions {r : Collision} : r ∈ before.collisions now ↔
    ∃ x ∈ before, ∃ y ∈ now, x.1 ≠ y.1 ∧ x.2.Overlaps y.2 ∧ r = ⟨x.2, y.2⟩ := by
  rw [collisions_eq_scan, List.mem_map]
  constructor
  · rintro ⟨⟨x, y⟩, h, rfl⟩
    obtain ⟨hx, hy, -, hclash⟩ := mem_scan.mp h
    obtain ⟨hne, ho⟩ := of_decide_eq_true hclash
    exact ⟨x, hx, y, hy, hne, ho, rfl⟩
  · rintro ⟨x, hx, y, hy, hne, ho, rfl⟩
    exact ⟨(x, y), mem_scan.mpr ⟨hx, hy, ho.1, decide_eq_true ⟨hne, ho⟩⟩, rfl⟩

theorem collisions_eq_nil_iff : before.collisions now = [] ↔
    ∀ x ∈ before, ∀ y ∈ now, x.2.Overlaps y.2 → x.1 = y.1 := by
  rw [List.eq_nil_iff_forall_not_mem]
  constructor
  · intro h x hx y hy ho
    by_contra hne
    exact h ⟨x.2, y.2⟩ (mem_collisions.mpr ⟨x, hx, y, hy, hne, ho, rfl⟩)
  · intro h r hr
    obtain ⟨x, hx, y, hy, hne, ho, -⟩ := mem_collisions.mp hr
    exact hne (h x hx y hy ho)

theorem moves_eq_nil_iff : moves before now = [] ↔
    ∀ c v w, copy? c before = some v → (c, w) ∈ now → v.SamePosition w := by
  rw [List.eq_nil_iff_forall_not_mem]
  constructor
  · intro h c v w hv hw
    by_contra hne
    exact h (c, ⟨v, w⟩) (mem_moves.mpr ⟨hw, hv, hne⟩)
  · rintro h ⟨c, m⟩ hm
    obtain ⟨hw, hv, hne⟩ := mem_moves.mp hm
    exact hne (h c _ _ hv hw)

@[simp] theorem unmoved_nil : xs.unmoved [] = xs := by
  simp [unmoved]

end NumberedVariables

namespace Layout

variable {m : Layout}

theorem getElem?_numbered_eq_some_iff {i n : Nat} {k : Identity} {v : Variable} :
    m.numbered[i]? = some (⟨k, n⟩, v) ↔ m.NthAt k n i v := by
  rw [numbered, getElem?_withCopies_eq_some_iff]
  exact ⟨fun ⟨h, hk, hn⟩ => ⟨h, hk, hn⟩, fun h => ⟨h.getElem?, h.identity, h.number⟩⟩

theorem mem_numbered {n : Nat} {k : Identity} {v : Variable} :
    (⟨k, n⟩, v) ∈ m.numbered ↔ ∃ i, m.NthAt k n i v := by
  simp only [List.mem_iff_getElem?, getElem?_numbered_eq_some_iff]

theorem copy?_numbered_eq_some_iff {c : Copy Identity} {v : Variable} :
    copy? c m.numbered = some v ↔ (c, v) ∈ m.numbered :=
  copy?_withCopies_eq_some_iff

theorem copy?_numbered_eq_some_iff_nthAt {n : Nat} {k : Identity} {v : Variable} :
    copy? ⟨k, n⟩ m.numbered = some v ↔ ∃ i, m.NthAt k n i v := by
  rw [copy?_numbered_eq_some_iff, mem_numbered]

theorem NthAt.unique {i j n : Nat} {k : Identity} {v w : Variable} (hv : m.NthAt k n i v)
    (hw : m.NthAt k n j w) : v = w :=
  Option.some.inj ((copy?_numbered_eq_some_iff_nthAt.mpr ⟨i, hv⟩).symm.trans
    (copy?_numbered_eq_some_iff_nthAt.mpr ⟨j, hw⟩))

theorem NthAt.copy_eq {i n o : Nat} {k l : Identity} {v : Variable} (hn : m.NthAt k n i v)
    (ho : m.NthAt l o i v) : Copy.mk k n = Copy.mk l o := by
  obtain rfl : k = l := hn.identity.symm.trans ho.identity
  rw [← hn.number, ← ho.number]

@[simp] theorem numbered_map_snd : m.numbered.map Prod.snd = m.vars :=
  withCopies_map_snd _

theorem eq_of_overlaps (h : m.vars.Pairwise fun v w => ¬ v.Overlaps w)
    {x y : Copy Identity × Variable} (hx : x ∈ m.numbered) (hy : y ∈ m.numbered)
    (ho : x.2.Overlaps y.2) : x = y := by
  rw [← numbered_map_snd, List.pairwise_map] at h
  have hforward : m.numbered.Pairwise fun x y => x.2.Overlaps y.2 → x = y :=
    h.imp fun hne ho => absurd ho hne
  have hbackward : m.numbered.Pairwise fun x y => y.2.Overlaps x.2 → y = x :=
    h.imp fun hne ho => absurd (Variable.Overlaps.symm ho) hne
  exact hforward.forall_of_forall_of_flip (fun _ _ _ => rfl) hbackward hx hy ho

theorem exists_nthAt {i : Nat} {v : Variable} (h : m.vars[i]? = some v) :
    ∃ n, m.NthAt v.identity n i v :=
  ⟨_, h, rfl, rfl⟩

end Layout

end StorageLayout
