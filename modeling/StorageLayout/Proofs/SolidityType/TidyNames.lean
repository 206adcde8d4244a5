import StorageLayout.Proofs.SolidityType.Table

/-!
# Canonical spelling of tidy names

A type name is put into tidy spacing to learn what the type is, and into canonical spelling to learn
whether two variables have one type. Tidying takes no blank from between two words, so the canonical
spelling stays what it was, and the tidy name that is kept of an unknown type names the same type.
-/

namespace StorageLayout.SolidityType

open StorageLayout.TypeName

theorem canonical_ofList_tidy (name : String) :
    canonical (String.ofList (tidy name.toList)) = canonical name := by
  unfold canonical
  rw [String.toList_ofList, tokens_tidy]

theorem canonical_eq_of_tidy_eq {s t : String} (h : tidy s.toList = tidy t.toList) :
    canonical s = canonical t := by
  calc canonical s = canonical (String.ofList (tidy s.toList)) := (canonical_ofList_tidy s).symm
    _ = canonical (String.ofList (tidy t.toList)) := by rw [h]
    _ = canonical t := canonical_ofList_tidy t

theorem eq_tidy_of_ofName_eq_other {name tidied : String} (h : ofName name = other tidied) :
    tidied = String.ofList (tidy name.toList) := by
  have htidied : tidy name.toList = (String.ofList (tidy name.toList)).toList :=
    String.toList_ofList.symm
  rcases ofName_cases htidied with hmapping | harray | hlisted | hother
  · rw [hmapping] at h
    cases h
  · rw [harray] at h
    cases h
  · exact absurd h (ne_other_of_listed hlisted tidied)
  · rw [hother] at h
    exact (other.inj h).symm

/-- A name has the canonical spelling of its tidy form. So names with one tidy form have one
canonical spelling, and that of an unknown type is the same as that of the name kept for it. -/
theorem canonical_tidy (name : String) :
    canonical (String.ofList (tidy name.toList)) = canonical name ∧
      (∀ other : String, tidy other.toList = tidy name.toList →
        canonical other = canonical name) ∧
      ∀ tidied : String, ofName name = .other tidied → canonical tidied = canonical name := by
  refine ⟨canonical_ofList_tidy name, fun _ h => canonical_eq_of_tidy_eq h, ?_⟩
  intro tidied h
  rw [eq_tidy_of_ofName_eq_other h]
  exact canonical_ofList_tidy name

/-- The blanks of a fixed-size array of pairs are dropped around the brackets and kept elsewhere. -/
theorem canonical_tidy_array :
    let name := "  fixed\tpair [ 3 ] "
    let other := "fixed pair[3]"
    tidy other.toList = tidy name.toList ∧ canonical other = canonical name ∧
      ofName name = .other "fixed pair[3]" ∧ canonical "fixed pair[3]" = canonical name := by
  intro name other
  have htidy : tidy other.toList = tidy name.toList := by decide +kernel
  have hunknown : ofName name = .other "fixed pair[3]" := by decide +kernel
  obtain ⟨-, hspacing, hname⟩ := canonical_tidy name
  exact ⟨htidy, hspacing other htidy, hunknown, hname _ hunknown⟩

end StorageLayout.SolidityType
