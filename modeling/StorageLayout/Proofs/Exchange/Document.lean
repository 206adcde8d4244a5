import Mathlib.Data.List.Nodup
import StorageLayout.Exchange.Document
import StorageLayout.Proofs.Positions

/-!
# Accepted documents

What a document that is accepted was read from: all its values are read one by one, and a
contract is refused if two of its declarations share a name. So the declarations of every
contract that is read from a document have distinct names.
-/

namespace StorageLayout

section Reading

variable {ε α β γ : Type}

theorem except_bind_eq_ok_iff {x : Except ε α} {f : α → Except ε β} {b : β} :
    x >>= f = .ok b ↔ ∃ a, x = .ok a ∧ f a = .ok b := by
  cases x <;> simp [bind, Except.bind]

theorem except_map_eq_ok_iff {x : Except ε α} {f : α → β} {b : β} :
    x.map f = .ok b ↔ ∃ a, x = .ok a ∧ f a = b := by
  cases x <;> simp [Except.map]

theorem mapM_eq_ok_iff {f : α → Except ε β} {xs : List α} {ys : List β} :
    xs.mapM f = .ok ys ↔ List.Forall₂ (fun x y => f x = .ok y) xs ys := by
  induction xs generalizing ys with
  | nil => cases ys <;> simp [pure, Except.pure]
  | cons x xs ih =>
    rw [List.mapM_cons, except_bind_eq_ok_iff, List.forall₂_cons_left_iff]
    constructor
    · rintro ⟨y, hy, h⟩
      obtain ⟨zs, hzs, heq⟩ := except_bind_eq_ok_iff.mp h
      cases heq
      exact ⟨y, zs, hy, ih.mp hzs, rfl⟩
    · rintro ⟨y, zs, hy, hzs, rfl⟩
      exact ⟨y, hy, except_bind_eq_ok_iff.mpr ⟨zs, ih.mpr hzs, rfl⟩⟩

end Reading

namespace Contract

theorem duplicateFrom?_eq_none_iff {seen : List String} {index : Nat} {ds : List Declaration} :
    duplicateFrom? seen index ds = none ↔
      (ds.map (·.name)).Nodup ∧ ∀ d ∈ ds, d.name ∉ seen := by
  induction ds generalizing seen index with
  | nil => simp [duplicateFrom?]
  | cons d ds ih =>
    by_cases h : d.name ∈ seen
    · simp [duplicateFrom?, h]
    · rw [duplicateFrom?, if_neg h, ih, List.map_cons, List.nodup_cons, List.forall_mem_cons]
      simp only [List.mem_cons, not_or, List.mem_map, not_exists, not_and]
      constructor
      · rintro ⟨hnodup, hnew⟩
        exact ⟨⟨fun e he => (hnew e he).1, hnodup⟩, h, fun e he => (hnew e he).2⟩
      · rintro ⟨⟨hne, hnodup⟩, -, hseen⟩
        exact ⟨hnodup, fun e he => ⟨hne e he, hseen e he⟩⟩

/-- A contract is accepted if it has a name, all its declarations are read, and no name is
repeated. -/
theorem ofDocument_eq_ok_iff {value : Json} {c : Contract} : Contract.ofDocument value = .ok c ↔
    (value.get? "name").bind Json.asString? = some c.name ∧
      (∃ values, declarationValues value c.name = .ok values ∧
        declarationsFrom c.name 0 values = .ok c.declarations) ∧
      (c.declarations.map (·.name)).Nodup := by
  have hnames : (c.declarations.map (·.name)).Nodup ↔
      duplicateFrom? [] 0 c.declarations = none := by
    simp [duplicateFrom?_eq_none_iff]
  rw [hnames]
  unfold Contract.ofDocument
  cases hname : (value.get? "name").bind Json.asString? with
  | none => simp
  | some name =>
    simp only [except_bind_eq_ok_iff, Option.some.injEq]
    constructor
    · rintro ⟨values, hvalues, ds, hds, h⟩
      split at h
      · cases h
      case h_2 hduplicate =>
        cases h
        exact ⟨rfl, ⟨values, hvalues, hds⟩, hduplicate⟩
    · rintro ⟨rfl, ⟨values, hvalues, hds⟩, hduplicate⟩
      refine ⟨values, hvalues, c.declarations, hds, ?_⟩
      rw [hduplicate]
      rfl

end Contract

theorem Document.exists_value_of_mem {value : Json} {d : Document}
    (h : Document.ofJson value = .ok d) {c : Contract} (hc : c ∈ d.contracts) :
    ∃ v, Contract.ofDocument v = .ok c := by
  unfold Document.ofJson at h
  split at h
  case h_1 values _ =>
    obtain ⟨cs, hcs, rfl⟩ := except_map_eq_ok_iff.mp h
    obtain ⟨v, -, hv⟩ := exists_of_forall₂_of_mem (mapM_eq_ok_iff.mp hcs) hc
    exact ⟨v, hv⟩
  case h_2 => cases h
  case h_3 =>
    obtain ⟨e, he, rfl⟩ := except_map_eq_ok_iff.mp h
    obtain rfl : c = e := List.mem_singleton.mp hc
    exact ⟨value, he⟩

theorem Document.nodup_names {value : Json} {d : Document} (h : Document.ofJson value = .ok d)
    {c : Contract} (hc : c ∈ d.contracts) : (c.declarations.map (·.name)).Nodup := by
  obtain ⟨v, hv⟩ := exists_value_of_mem h hc
  exact (Contract.ofDocument_eq_ok_iff.mp hv).2.2

end StorageLayout
