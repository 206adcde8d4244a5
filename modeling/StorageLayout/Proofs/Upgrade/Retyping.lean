import Mathlib.Tactic.ByContra
import StorageLayout.Change
import StorageLayout.Proofs.Comparison.Copies

/-!
# Retyped variables

Which variables are reported as retyped, said by the occurrences of their names alone.
-/

namespace StorageLayout.Layout

variable {old new : Layout}

/-- The report on a variable, if the old variable of its occurrence has another type. -/
def retyping? (old : Layout) (x : Copy String × Variable) : Option Change :=
  match copy? x.1 (withCopies Variable.name old.vars) with
  | some previous =>
    if previous.canonicalType = x.2.canonicalType then none else some (.retyped previous x.2)
  | none => none

theorem retypings_eq_filterMap :
    old.retypings new = (withCopies Variable.name new.vars).filterMap old.retyping? := rfl

theorem retyping?_eq_some_iff {x : Copy String × Variable} {y : Change} :
    old.retyping? x = some y ↔ ∃ v, copy? x.1 (withCopies Variable.name old.vars) = some v ∧
      v.canonicalType ≠ x.2.canonicalType ∧ y = .retyped v x.2 := by
  unfold retyping?
  cases copy? x.1 (withCopies Variable.name old.vars) with
  | none => simp
  | some v => by_cases h : v.canonicalType = x.2.canonicalType <;> simp [h, eq_comm]

theorem mem_retypings {x : Change} : x ∈ old.retypings new ↔
    ∃ c v w, copy? c (withCopies Variable.name old.vars) = some v ∧
      (c, w) ∈ withCopies Variable.name new.vars ∧ v.canonicalType ≠ w.canonicalType ∧
      x = .retyped v w := by
  simp only [retypings_eq_filterMap, List.mem_filterMap, retyping?_eq_some_iff]
  constructor
  · rintro ⟨⟨c, w⟩, hw, v, hv, hne, rfl⟩
    exact ⟨c, v, w, hv, hw, hne, rfl⟩
  · rintro ⟨c, v, w, hv, hw, hne, rfl⟩
    exact ⟨(c, w), hw, v, hv, hne, rfl⟩

theorem retypings_eq_nil_iff : old.retypings new = [] ↔
    ∀ c v w, copy? c (withCopies Variable.name old.vars) = some v →
      (c, w) ∈ withCopies Variable.name new.vars → v.canonicalType = w.canonicalType := by
  rw [List.eq_nil_iff_forall_not_mem]
  constructor
  · intro h c v w hv hw
    by_contra hne
    exact h (.retyped v w) (mem_retypings.mpr ⟨c, v, w, hv, hw, hne, rfl⟩)
  · intro h x hx
    obtain ⟨c, v, w, hv, hw, hne, -⟩ := mem_retypings.mp hx
    exact hne (h c v w hv hw)

theorem severity_of_mem_retypings {x : Change} (h : x ∈ old.retypings new) :
    x.severity = .critical := by
  obtain ⟨-, v, w, -, -, -, rfl⟩ := mem_retypings.mp h
  rfl

theorem nodup_retypings (h : new.vars.Nodup) : (old.retypings new).Nodup := by
  have hvalues : (withCopies Variable.name new.vars).Pairwise (·.2 ≠ ·.2) := by
    rw [← List.pairwise_map, withCopies_map_snd]
    exact h
  rw [retypings_eq_filterMap]
  apply hvalues.filterMap
  intro x y hxy a ha b hb hab
  obtain ⟨v, -, -, rfl⟩ := retyping?_eq_some_iff.mp ha
  obtain ⟨w, -, -, rfl⟩ := retyping?_eq_some_iff.mp hb
  exact hxy (Change.retyped.inj hab).2

end StorageLayout.Layout
