import StorageLayout.Exchange.Layout
import StorageLayout.Proofs.Comparison.Agreement

/-!
# A layout compared with itself

Every variable is its own counterpart, so nothing is added, removed or moved. A layout written by
hand may let two of its variables share bytes, though. The scan for collisions takes them for an
old and a new variable then, once in each order.
-/

namespace StorageLayout.Layout

variable (m : Layout)

theorem collisions_numbered_self_eq_nil_iff : m.numbered.collisions m.numbered = [] ↔
    m.vars.Pairwise fun v w => ¬ v.Overlaps w := by
  rw [NumberedVariables.collisions_eq_nil_iff]
  constructor
  · intro h
    have hcopies : m.numbered.Pairwise (·.1 ≠ ·.1) := by
      rw [← List.pairwise_map]
      exact nodup_withCopies_map_fst m.vars
    rw [← numbered_map_snd (m := m), List.pairwise_map]
    apply hcopies.imp_of_mem
    intro x y hx hy hne ho
    exact hne (h x hx y hy ho)
  · intro h x hx y hy ho
    rw [eq_of_overlaps h hx hy ho]

/-- Compared with itself a layout has neither moves nor additions nor removals. It is safe, and
without any difference, if and only if no two of its variables share bytes. -/
theorem compare_self : (m.compare m).moved = [] ∧ (m.compare m).added = [] ∧
    (m.compare m).removed = [] ∧
    ((m.compare m).safe = true ↔ m.vars.Pairwise fun v w => ¬ v.Overlaps w) ∧
    ((m.compare m).isEmpty = true ↔ m.vars.Pairwise fun v w => ¬ v.Overlaps w) := by
  have hmoved : (m.compare m).moved = [] := compare_moved_eq_nil_of_agree rfl
  have hadded : (m.compare m).added = [] := compare_added_eq_nil_of_agree rfl
  have hremoved : (m.compare m).removed = [] := compare_removed_eq_nil_of_agree rfl
  have hcollisions : (m.compare m).collisions = [] ↔
      m.vars.Pairwise fun v w => ¬ v.Overlaps w := by
    rw [compare_collisions_of_moved_eq_nil hmoved, collisions_numbered_self_eq_nil_iff]
  refine ⟨hmoved, hadded, hremoved, ?_, ?_⟩
  · rw [Comparison.safe_iff, hcollisions]
    exact and_iff_right hmoved
  · rw [Comparison.isEmpty_iff, hcollisions]
    simp [hmoved, hadded, hremoved]

/-- A layout that is accepted although its two variables hold the same bytes is not safe to keep
as it is. -/
theorem compare_self_shared_slot :
    let a : Variable := ⟨"a", "uint256", 0, 0, 32, true, false⟩
    let b : Variable := ⟨"b", "uint256", 0, 0, 32, true, false⟩
    let m : Layout := ⟨"Vault", [a, b], 1, [0]⟩
    Layout.load m.toJson = .ok m ∧ (m.compare m).safe = false ∧
      (m.compare m).collisions = [⟨a, b⟩, ⟨b, a⟩] := by
  intro a b m
  have hload : Layout.load m.toJson = .ok m := by
    have hsome : (Layout.load m.toJson).toOption = some m := by decide +kernel
    cases h : Layout.load m.toJson with
    | error e => simp [h, Except.toOption] at hsome
    | ok m' => simpa [h, Except.toOption] using hsome
  exact ⟨hload, by decide +kernel, by decide +kernel⟩

end StorageLayout.Layout
