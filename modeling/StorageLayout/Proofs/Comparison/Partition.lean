import StorageLayout.Proofs.Comparison.Lists
import StorageLayout.Proofs.Positions

/-!
# What becomes of each variable

A comparison pairs the first variables of every identity, as many as both layouts have. The
variables beyond are removed or added, a pair that starts at two bytes has moved, and nothing
else is listed. Each list keeps the order of declaration.
-/

namespace StorageLayout

section Positions

variable {α β : Type}

/-- The values of `xs` at the positions where `p` holds are `ys`, in order. -/
def SelectedAt (p : Nat → Prop) (xs ys : List α) : Prop :=
  ∃ zs : List (α × Nat), zs.Sublist xs.zipIdx ∧ zs.map Prod.fst = ys ∧
    ∀ z ∈ xs.zipIdx, z ∈ zs ↔ p z.2

theorem SelectedAt.of_filter {p : Nat → Prop} {xs : List β} {f : β → α} {q : β → Bool}
    (h : ∀ i x, xs[i]? = some x → (q x = true ↔ p i)) :
    SelectedAt p (xs.map f) ((xs.filter q).map f) := by
  refine ⟨(xs.zipIdx.filter (q ·.1)).map (Prod.map f id), ?_, ?_, ?_⟩
  · rw [List.zipIdx_map]
    exact List.filter_sublist.map _
  · rw [← map_fst_filter_zipIdx_fst q xs, List.map_map, List.map_map]
    rfl
  · rintro ⟨y, i⟩ hz
    rw [List.mk_mem_zipIdx_iff_getElem?, List.getElem?_map, Option.map_eq_some_iff] at hz
    obtain ⟨x, hx, rfl⟩ := hz
    rw [← h i x hx, List.mem_map]
    constructor
    · rintro ⟨⟨y, j⟩, hy, hyx⟩
      obtain ⟨hy, hq⟩ := List.mem_filter.mp hy
      obtain rfl : j = i := congrArg Prod.snd hyx
      rw [List.mk_mem_zipIdx_iff_getElem?, hx, Option.some.injEq] at hy
      exact hy ▸ hq
    · intro hq
      exact ⟨(x, i), List.mem_filter.mpr ⟨List.mk_mem_zipIdx_iff_getElem?.mpr hx, hq⟩, rfl⟩

end Positions

namespace NumberedVariables

variable (before now : NumberedVariables)

/-- The variables of `now` that have a counterpart in `before`, each with it, in order. -/
def pairs : List Move :=
  now.filterMap fun x => (copy? x.1 before).map (Move.mk · x.2)

theorem moves_map_snd : (before.moves now).map Prod.snd =
    (before.pairs now).filter fun m => ¬ m.previous.SamePosition m.current := by
  rw [moves, pairs, List.map_filterMap, List.filter_filterMap]
  apply List.filterMap_congr
  intro x _
  cases copy? x.1 before with
  | none => rfl
  | some v => by_cases h : v.SamePosition x.2 <;> simp [h, Option.filter]

end NumberedVariables

namespace Layout

/-- The variables of an identity, in the order of declaration. -/
def copiesOf (m : Layout) (k : Identity) : List Variable :=
  m.vars.filter (·.identity = k)

variable (old new m : Layout) (k : Identity)

theorem filter_numbered :
    m.numbered.filter (·.1.label = k) = (m.copiesOf k).zipIdx.map fun x => (⟨k, x.2⟩, x.1) :=
  filter_withCopies _ k

theorem filter_numbered_identity :
    m.numbered.filter (·.2.identity = k) = m.numbered.filter (·.1.label = k) := by
  apply List.filter_congr
  intro x hx
  rw [label_of_mem_withCopies hx]

theorem copy?_numbered (c : Copy Identity) :
    copy? c m.numbered = (m.copiesOf c.label)[c.number]? :=
  copy?_withCopies _ c

theorem isNone_copy?_numbered (c : Copy Identity) :
    (copy? c m.numbered).isNone = decide ((m.copiesOf c.label).length ≤ c.number) := by
  rw [Bool.eq_iff_iff, Option.isNone_iff_eq_none, decide_eq_true_iff, copy?_numbered,
    List.getElem?_eq_none_iff]

/-- Of each identity the variables without counterpart are those beyond the number of variables
that the other layout has of it. -/
theorem filter_without : (old.numbered.without new.numbered).filter (·.identity = k) =
    (old.copiesOf k).drop (new.copiesOf k).length := by
  calc (old.numbered.without new.numbered).filter (·.identity = k)
      = ((old.numbered.filter (·.1.label = k)).filter
          fun x => (copy? x.1 new.numbered).isNone).map Prod.snd := by
        rw [NumberedVariables.without, List.filter_map, List.filter_comm,
          ← filter_numbered_identity]
        rfl
    _ = ((old.copiesOf k).zipIdx.filter ((new.copiesOf k).length ≤ ·.2)).map Prod.fst := by
        rw [filter_numbered, List.filter_map, List.map_map]
        simp only [Function.comp_def, isNone_copy?_numbered]
    _ = (old.copiesOf k).drop (new.copiesOf k).length := map_fst_filter_zipIdx _ _ 0

/-- The first variables of an identity are paired in order, as many as both layouts have. -/
theorem filter_pairs : (old.numbered.pairs new.numbered).filter (·.current.identity = k) =
    List.zipWith Move.mk (old.copiesOf k) (new.copiesOf k) := by
  calc (old.numbered.pairs new.numbered).filter (·.current.identity = k)
      = (new.numbered.filter (·.2.identity = k)).filterMap
          fun x => (copy? x.1 old.numbered).map (Move.mk · x.2) := by
        rw [NumberedVariables.pairs, List.filter_filterMap, List.filterMap_filter]
        apply List.filterMap_congr
        intro x _
        cases copy? x.1 old.numbered <;> simp [Option.filter]
    _ = (new.copiesOf k).zipIdx.filterMap
          fun x => (old.copiesOf k)[x.2]?.map (Move.mk · x.1) := by
        rw [filter_numbered_identity, filter_numbered, List.filterMap_map]
        simp only [Function.comp_def, copy?_numbered]
    _ = List.zipWith Move.mk (old.copiesOf k) (new.copiesOf k) := filterMap_zipIdx _ _ _ 0

theorem length_shared :
    (old.numbered.filter fun x => (copy? x.1 new.numbered).isSome).length =
      (new.numbered.filter fun x => (copy? x.1 old.numbered).isSome).length := by
  have h := (perm_shared Variable.identity old.vars new.vars).length_eq
  rw [List.length_map, List.length_map] at h
  exact h

theorem length_without_add_shared : (old.numbered.without new.numbered).length +
    (old.numbered.filter fun x => (copy? x.1 new.numbered).isSome).length = old.vars.length := by
  rw [← numbered_map_snd (m := old), List.length_map, NumberedVariables.without, List.length_map,
    List.length_eq_length_filter_add (l := old.numbered) fun x => (copy? x.1 new.numbered).isNone]
  simp only [Option.not_isNone]

theorem compare_removed_copies : (old.compare new).removed.filter (·.identity = k) =
    (old.copiesOf k).drop (new.copiesOf k).length :=
  filter_without old new k

theorem compare_added_copies : (old.compare new).added.filter (·.identity = k) =
    (new.copiesOf k).drop (old.copiesOf k).length :=
  filter_without new old k

theorem compare_moved : (old.compare new).moved =
    (old.numbered.pairs new.numbered).filter fun m => ¬ m.previous.SamePosition m.current :=
  NumberedVariables.moves_map_snd _ _

theorem compare_moved_copies : (old.compare new).moved.filter (·.current.identity = k) =
    (List.zipWith Move.mk (old.copiesOf k) (new.copiesOf k)).filter
      fun m => m.previous.slot ≠ m.current.slot ∨ m.previous.offset ≠ m.current.offset := by
  rw [compare_moved, List.filter_comm, filter_pairs]
  simp only [Variable.not_samePosition_iff]

/-- The `n`-th variables of an identity start at different bytes. -/
def Moved (n : Nat) : Prop :=
  ∃ i j v w, old.NthAt k n i v ∧ new.NthAt k n j w ∧ (v.slot ≠ w.slot ∨ v.offset ≠ w.offset)

variable {old new m} in
theorem selectedAt_numbered {q : Copy Identity × Variable → Bool} {p : Identity → Nat → Prop}
    (h : ∀ k n v, (⟨k, n⟩, v) ∈ m.numbered → (q (⟨k, n⟩, v) = true ↔ p k n)) :
    SelectedAt (fun i => ∃ k n v, m.NthAt k n i v ∧ p k n) m.vars
      ((m.numbered.filter q).map Prod.snd) := by
  rw [← numbered_map_snd]
  apply SelectedAt.of_filter
  rintro i ⟨⟨k, n⟩, v⟩ hi
  rw [h k n v (List.mem_of_getElem? hi)]
  constructor
  · intro hp
    exact ⟨k, n, v, getElem?_numbered_eq_some_iff.mp hi, hp⟩
  · rintro ⟨k', n', v', hi', hp⟩
    rw [← getElem?_numbered_eq_some_iff, hi] at hi'
    cases hi'
    exact hp

theorem selectedAt_without :
    SelectedAt (fun i => ∃ k n v, old.NthAt k n i v ∧ (new.copiesOf k).length ≤ n) old.vars
      (old.numbered.without new.numbered) := by
  apply selectedAt_numbered
  intro k n v _
  rw [isNone_copy?_numbered, decide_eq_true_iff]

theorem compare_moved_map_current : (old.compare new).moved.map (·.current) =
    (new.numbered.filter fun x =>
      (copy? x.1 old.numbered).any fun v => ¬ v.SamePosition x.2).map Prod.snd := by
  rw [compare_moved, NumberedVariables.pairs, List.filter_filterMap, List.map_filterMap,
    ← List.filterMap_eq_filter, List.map_filterMap]
  apply List.filterMap_congr
  intro x _
  cases hv : copy? x.1 old.numbered with
  | none => simp [hv, Option.guard]
  | some v => by_cases h : v.SamePosition x.2 <;> simp [hv, h, Option.filter, Option.guard]

theorem selectedAt_moved :
    SelectedAt (fun j => ∃ k n w, new.NthAt k n j w ∧ old.Moved new k n) new.vars
      ((old.compare new).moved.map (·.current)) := by
  rw [compare_moved_map_current]
  apply selectedAt_numbered
  intro k n w hw
  obtain ⟨j, hj⟩ := mem_numbered.mp hw
  simp only [Option.any_eq_true, copy?_numbered_eq_some_iff_nthAt, decide_eq_true_iff]
  constructor
  · rintro ⟨v, ⟨i, hi⟩, hne⟩
    exact ⟨i, j, v, w, hi, hj, Variable.not_samePosition_iff.mp hne⟩
  · rintro ⟨i, _, v, w', hi, hw', hne⟩
    exact ⟨v, ⟨i, hi⟩, Variable.not_samePosition_iff.mpr (hj.unique hw' ▸ hne)⟩

/-- A comparison pairs the `n`-th variables of an identity for every `n` that both layouts have,
and lists a pair once as moved if its variables start at different bytes. The old variables
beyond are removed and the new ones beyond are added. Removed variables keep the order of the
old layout, added and moved ones that of the new layout. -/
theorem compare_partition :
    (∀ k : Identity,
      (old.compare new).removed.filter (·.identity = k) =
        (old.copiesOf k).drop (new.copiesOf k).length ∧
      (old.compare new).added.filter (·.identity = k) =
        (new.copiesOf k).drop (old.copiesOf k).length ∧
      (old.compare new).moved.filter (·.current.identity = k) =
        (List.zipWith Move.mk (old.copiesOf k) (new.copiesOf k)).filter
          fun m => m.previous.slot ≠ m.current.slot ∨ m.previous.offset ≠ m.current.offset) ∧
      SelectedAt (fun i => ∃ k n v, old.NthAt k n i v ∧ (new.copiesOf k).length ≤ n) old.vars
        (old.compare new).removed ∧
      SelectedAt (fun j => ∃ k n w, new.NthAt k n j w ∧ (old.copiesOf k).length ≤ n) new.vars
        (old.compare new).added ∧
      SelectedAt (fun j => ∃ k n w, new.NthAt k n j w ∧ old.Moved new k n) new.vars
        ((old.compare new).moved.map (·.current)) ∧
      old.vars.length - (old.compare new).removed.length =
        new.vars.length - (old.compare new).added.length := by
  refine ⟨fun k => ⟨compare_removed_copies old new k, compare_added_copies old new k,
    compare_moved_copies old new k⟩, selectedAt_without old new, selectedAt_without new old,
    selectedAt_moved old new, ?_⟩
  have hold := length_without_add_shared old new
  have hnew := length_without_add_shared new old
  have hshared := length_shared old new
  simp only [compare]
  omega

end Layout

end StorageLayout
