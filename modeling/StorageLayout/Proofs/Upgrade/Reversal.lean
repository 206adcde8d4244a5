import StorageLayout.Proofs.Comparison.Reversal
import StorageLayout.Proofs.Upgrade.Tally

/-!
# The upgrade back

An upgrade and the one back report the same changes with their sides exchanged. As a removal is
the only change that weighs differently in the two directions, an upgrade can be deployed if and
only if the one back can.
-/

namespace StorageLayout

/-- The same difference as the upgrade back reports it. -/
def Change.reverse : Change → Change
  | collision c => .collision c.reverse
  | moved m => .moved m.reverse
  | removed v => .added v
  | added v => .removed v
  | retyped previous current => .retyped current previous

namespace Layout

def retypingOf? (z : Copy String × Variable × Variable) : Option Change :=
  if z.2.1.canonicalType = z.2.2.canonicalType then none else some (.retyped z.2.1 z.2.2)

theorem retypings_eq_filterMap_counterparts (old new : Layout) :
    old.retypings new = (counterparts (withCopies Variable.name old.vars)
      (withCopies Variable.name new.vars)).filterMap retypingOf? := by
  rw [retypings, counterparts, List.filterMap_filterMap]
  apply List.filterMap_congr
  intro x _
  cases copy? x.1 (withCopies Variable.name old.vars) <;> rfl

theorem retypingOf?_exchangeSides (z : Copy String × Variable × Variable) :
    retypingOf? (exchangeSides z) = (retypingOf? z).map Change.reverse := by
  simp only [retypingOf?, exchangeSides, eq_comm (a := z.2.2.canonicalType)]
  split <;> rfl

theorem retypings_perm (old new : Layout) :
    (new.retypings old).Perm ((old.retypings new).map Change.reverse) := by
  rw [retypings_eq_filterMap_counterparts, retypings_eq_filterMap_counterparts]
  exact filterMap_counterparts_perm retypingOf?_exchangeSides Variable.name old.vars new.vars

end Layout

namespace Upgrade

def reverse (u : Upgrade) : Upgrade where
  old := u.new
  new := u.old
  policy := u.policy

variable (u : Upgrade)

/-- The changes that are critical are as many in both directions, and those that are not change
sides. -/
theorem tally_reverse :
    u.reverse.tally = ⟨u.tally.critical, u.tally.safe, u.tally.warning⟩ := by
  have hcollisions := (Layout.compare_collisions_perm u.old u.new).length_eq
  have hmoved := (Layout.compare_moved_perm u.old u.new).length_eq
  have hretypings := (Layout.retypings_perm u.old u.new).length_eq
  rw [List.length_map] at hcollisions hmoved hretypings
  rw [tally_eq, tally_eq]
  dsimp only [comparison, reverse]
  rw [hcollisions, hmoved, hretypings, Layout.compare_added_reverse,
    Layout.compare_removed_reverse]

theorem isDeployable_reverse : u.reverse.isDeployable = u.isDeployable := by
  have hcritical : u.reverse.riskLevel = .critical ↔ u.riskLevel = .critical := by
    rw [riskLevel, riskLevel, Tally.riskLevel_eq_critical_iff, Tally.riskLevel_eq_critical_iff,
      tally_reverse]
  simp only [isDeployable, ne_eq, hcritical]

end Upgrade

/-- An upgrade and the one back mirror each other. What one adds the other removes, in the same
order; their moves, collisions and retyped variables are the same with the sides exchanged, and
a collision keeps its slot, its bytes and its kind. So both are safe or neither is, and under
every policy both can be deployed or neither can, they have equally many critical changes, and
the warnings of one are the harmless changes of the other. -/
theorem Layout.compare_mirrored (old new : Layout) :
    (new.compare old).added = (old.compare new).removed ∧
      (new.compare old).removed = (old.compare new).added ∧
      (new.compare old).moved.Perm ((old.compare new).moved.map Move.reverse) ∧
      (new.compare old).collisions.Perm ((old.compare new).collisions.map Collision.reverse) ∧
      (∀ c ∈ (old.compare new).collisions, c.reverse.slot = c.slot ∧
        c.reverse.overlap = c.overlap ∧ c.reverse.kind = c.kind) ∧
      (new.retypings old).Perm ((old.retypings new).map Change.reverse) ∧
      (new.compare old).safe = (old.compare new).safe ∧
      ∀ policy : Policy,
        let u : Upgrade := ⟨old, new, policy⟩
        let back : Upgrade := ⟨new, old, policy⟩
        back.isDeployable = u.isDeployable ∧ back.tally.critical = u.tally.critical ∧
          back.tally.warning = u.tally.safe ∧ back.tally.safe = u.tally.warning := by
  refine ⟨compare_added_reverse old new, compare_removed_reverse old new,
    compare_moved_perm old new, compare_collisions_perm old new, ?_, retypings_perm old new,
    compare_safe_reverse old new, ?_⟩
  · intro c hc
    exact ⟨Collision.slot_reverse (overlaps_of_mem_collisions old new hc),
      Collision.overlap_reverse, Collision.kind_reverse⟩
  · intro policy u back
    have htally : back.tally = ⟨u.tally.critical, u.tally.safe, u.tally.warning⟩ :=
      u.tally_reverse
    refine ⟨u.isDeployable_reverse, ?_, ?_, ?_⟩
    · rw [htally]
    · rw [htally]
    · rw [htally]

end StorageLayout
