import StorageLayout.Proofs.Comparison.Partition

/-!
# The collisions of a comparison

The scan for collisions goes slot by slot and leaves out what moved. It reports what a search
through all pairs of an old and a new variable would, each pair of positions once, in the order
of the slots, then of the old variables, then of the new ones.
-/

namespace StorageLayout

/-- An old and a new variable with their positions in their layouts. -/
structure Encounter where
  previous : Variable
  previousAt : Nat
  current : Variable
  currentAt : Nat

namespace Encounter

def collision (e : Encounter) : Collision where
  previous := e.previous
  current := e.current

/-- Earlier by slot, then by the old variable, then by the new one. -/
def Precedes (e f : Encounter) : Prop :=
  e.previous.slot < f.previous.slot ∨ e.previous.slot = f.previous.slot ∧
    (e.previousAt < f.previousAt ∨ e.previousAt = f.previousAt ∧ e.currentAt < f.currentAt)

end Encounter

namespace NumberedVariables

def encounter (p : ((Copy Identity × Variable) × Nat) × ((Copy Identity × Variable) × Nat)) :
    Encounter where
  previous := p.1.1.2
  previousAt := p.1.2
  current := p.2.1.2
  currentAt := p.2.2

/-- The encounters that the scan for collisions reports if `moved` is left out. -/
def encounters (before now : NumberedVariables) (moved : List (Copy Identity)) : List Encounter :=
  (scan (·.1.2.slot) (·.1.2.slot) (fun x y => clash x.1 y.1)
    (before.zipIdx.filter (!moved.contains ·.1.1))
    (now.zipIdx.filter (!moved.contains ·.1.1))).map encounter

variable {before now : NumberedVariables} {moved : List (Copy Identity)} {e : Encounter}

theorem encounters_map_collision : (encounters before now moved).map (·.collision) =
    (before.unmoved moved).collisions (now.unmoved moved) := by
  rw [collisions_eq_scan, unmoved, unmoved, ← map_fst_filter_zipIdx_fst _ before,
    ← map_fst_filter_zipIdx_fst _ now, scan_map, encounters, List.map_map, List.map_map]
  rfl

theorem mem_encounters : e ∈ encounters before now moved ↔
    ∃ c d, before[e.previousAt]? = some (c, e.previous) ∧ c ∉ moved ∧
      now[e.currentAt]? = some (d, e.current) ∧ d ∉ moved ∧ c ≠ d ∧
      e.previous.Overlaps e.current := by
  rw [encounters, List.mem_map]
  constructor
  · rintro ⟨⟨x, y⟩, h, rfl⟩
    obtain ⟨hx, hy, -, hclash⟩ := mem_scan.mp h
    obtain ⟨hne, ho⟩ := of_decide_eq_true hclash
    rw [List.mem_filter, List.mem_zipIdx_iff_getElem?] at hx hy
    exact ⟨x.1.1, y.1.1, hx.1, by simpa using hx.2, hy.1, by simpa using hy.2, hne, ho⟩
  · rintro ⟨c, d, hx, hc, hy, hd, hne, ho⟩
    refine ⟨(((c, e.previous), e.previousAt), ((d, e.current), e.currentAt)), mem_scan.mpr
      ⟨?_, ?_, ho.1, decide_eq_true ⟨hne, ho⟩⟩, rfl⟩
    · exact List.mem_filter.mpr ⟨List.mem_zipIdx_iff_getElem?.mpr hx, by simpa using hc⟩
    · exact List.mem_filter.mpr ⟨List.mem_zipIdx_iff_getElem?.mpr hy, by simpa using hd⟩

theorem pairwise_encounters : (encounters before now moved).Pairwise Encounter.Precedes := by
  rw [encounters, List.pairwise_map]
  refine (pairwise_scan ((pairwise_zipIdx before 0).filter _)
    ((pairwise_zipIdx now 0).filter _)).imp ?_
  rintro p q (hslot | ⟨hslot, hold | ⟨hold, hnew⟩⟩)
  · exact .inl hslot
  · exact .inr ⟨hslot, .inl hold⟩
  · exact .inr ⟨hslot, .inr ⟨congrArg Prod.snd hold, hnew⟩⟩

end NumberedVariables

namespace Layout

variable {old new : Layout} {k : Identity} {n : Nat}

theorem mem_map_fst_moves :
    ⟨k, n⟩ ∈ (old.numbered.moves new.numbered).map Prod.fst ↔ old.Moved new k n := by
  rw [List.mem_map]
  constructor
  · rintro ⟨⟨_, m⟩, hm, rfl⟩
    obtain ⟨hw, hv, hne⟩ := NumberedVariables.mem_moves.mp hm
    obtain ⟨i, hi⟩ := copy?_numbered_eq_some_iff_nthAt.mp hv
    obtain ⟨j, hj⟩ := mem_numbered.mp hw
    exact ⟨i, j, _, _, hi, hj, Variable.not_samePosition_iff.mp hne⟩
  · rintro ⟨i, j, v, w, hi, hj, hne⟩
    exact ⟨(⟨k, n⟩, ⟨v, w⟩), NumberedVariables.mem_moves.mpr ⟨mem_numbered.mpr ⟨j, hj⟩,
      copy?_numbered_eq_some_iff_nthAt.mpr ⟨i, hi⟩, Variable.not_samePosition_iff.mpr hne⟩, rfl⟩

/-- The two variables share bytes, they are not counterparts, and neither has moved. -/
structure Collide (old new : Layout) (e : Encounter) : Prop where
  previous : old.vars[e.previousAt]? = some e.previous
  current : new.vars[e.currentAt]? = some e.current
  overlaps : e.previous.Overlaps e.current
  apart : ∀ k n, ¬ (old.NthAt k n e.previousAt e.previous ∧ new.NthAt k n e.currentAt e.current)
  previous_stays : ∀ k n, old.NthAt k n e.previousAt e.previous → ¬ old.Moved new k n
  current_stays : ∀ k n, new.NthAt k n e.currentAt e.current → ¬ old.Moved new k n

theorem mem_encounters_iff_collide {e : Encounter} :
    e ∈ old.numbered.encounters new.numbered
      ((old.numbered.moves new.numbered).map Prod.fst) ↔ old.Collide new e := by
  rw [NumberedVariables.mem_encounters]
  constructor
  · rintro ⟨⟨k, n⟩, ⟨l, o⟩, hv, hk, hw, hl, hne, ho⟩
    rw [getElem?_numbered_eq_some_iff] at hv hw
    rw [mem_map_fst_moves] at hk hl
    refine ⟨hv.getElem?, hw.getElem?, ho, ?_, ?_, ?_⟩
    · rintro k' n' ⟨hv', hw'⟩
      exact hne ((hv.copy_eq hv').trans (hw'.copy_eq hw))
    · intro k' n' hv'
      cases hv.copy_eq hv'
      exact hk
    · intro k' n' hw'
      cases hw.copy_eq hw'
      exact hl
  · intro h
    obtain ⟨n, hn⟩ := exists_nthAt h.previous
    obtain ⟨o, ho⟩ := exists_nthAt h.current
    refine ⟨⟨_, n⟩, ⟨_, o⟩, getElem?_numbered_eq_some_iff.mpr hn,
      mem_map_fst_moves.not.mpr (h.previous_stays _ _ hn), getElem?_numbered_eq_some_iff.mpr ho,
      mem_map_fst_moves.not.mpr (h.current_stays _ _ ho), ?_, h.overlaps⟩
    intro heq
    obtain ⟨hk, rfl⟩ := Copy.mk.inj heq
    exact h.apart _ n ⟨hn, hk ▸ ho⟩

/-- The collisions of a comparison are exactly the encounters of an old and a new variable that
share bytes, are not counterparts and have not moved, in ascending order. A collision is one of
types if and only if the names are equal. -/
theorem compare_collisions_all_pairs (old new : Layout) :
    (∃ es : List Encounter, (∀ e, e ∈ es ↔ old.Collide new e) ∧ es.Pairwise Encounter.Precedes ∧
      (old.compare new).collisions = es.map (·.collision)) ∧
      ∀ c ∈ (old.compare new).collisions,
        c.kind = .typeMismatch ↔ c.previous.name = c.current.name := by
  refine ⟨⟨_, fun e => mem_encounters_iff_collide, NumberedVariables.pairwise_encounters,
    NumberedVariables.encounters_map_collision.symm⟩, ?_⟩
  intro c _
  by_cases h : c.previous.name = c.current.name <;> simp [Collision.kind, h]

end Layout

end StorageLayout
