import StorageLayout.Proofs.Upgrade.Retyping
import StorageLayout.Upgrade.Basic

/-!
# The tally of an upgrade

The tally counts the entries of the comparison and the retyped variables: collisions, moves and
retyped variables are critical, removals are warnings, additions are safe.
-/

namespace StorageLayout

theorem Tally.ofChanges_append (xs ys : List Change) :
    Tally.ofChanges (xs ++ ys) =
      { critical := (Tally.ofChanges xs).critical + (Tally.ofChanges ys).critical
        warning := (Tally.ofChanges xs).warning + (Tally.ofChanges ys).warning
        safe := (Tally.ofChanges xs).safe + (Tally.ofChanges ys).safe } := by
  simp [Tally.ofChanges]

theorem Tally.ofChanges_comparison (r : Comparison) :
    Tally.ofChanges r.changes =
      { critical := r.collisions.length + r.moved.length
        warning := r.removed.length
        safe := r.added.length } := by
  simp [Tally.ofChanges, Comparison.changes, List.countP_map, Function.comp_def,
    Change.severity]

theorem Layout.countP_severity_retypings (old new : Layout) (s : Severity) :
    (old.retypings new).countP (·.severity = s) =
      if s = .critical then (old.retypings new).length else 0 := by
  split_ifs with hs
  · rw [List.countP_eq_length]
    intro x hx
    simp [severity_of_mem_retypings hx, hs]
  · rw [List.countP_eq_zero]
    intro x hx
    simp [severity_of_mem_retypings hx, Ne.symm hs]

theorem Tally.ofChanges_retypings (old new : Layout) :
    Tally.ofChanges (old.retypings new) =
      { critical := (old.retypings new).length, warning := 0, safe := 0 } := by
  simp [Tally.ofChanges, Layout.countP_severity_retypings]

namespace Upgrade

theorem tally_eq (u : Upgrade) : u.tally =
    { critical := u.comparison.collisions.length + u.comparison.moved.length +
        (u.old.retypings u.new).length
      warning := u.comparison.removed.length
      safe := u.comparison.added.length } := by
  rw [tally, changes, Tally.ofChanges_append, Tally.ofChanges_comparison,
    Tally.ofChanges_retypings]
  rfl

theorem isDeployable_iff (u : Upgrade) : u.isDeployable = true ↔
    u.comparison.collisions = [] ∧ u.comparison.moved = [] ∧ u.old.retypings u.new = [] := by
  rw [isDeployable, decide_eq_true_iff, riskLevel, Ne, Tally.riskLevel_eq_critical_iff, tally_eq,
    ← List.length_eq_zero_iff, ← List.length_eq_zero_iff, ← List.length_eq_zero_iff]
  dsimp only
  omega

end Upgrade

end StorageLayout
