import StorageLayout.Proofs.SolidityType.Table
import StorageLayout.Proofs.TypeName.Spacing

/-!
# Types written and read back

A type that was read from a name is shown by a name of its own: a width is written as a numeral,
and an unknown type keeps its name in tidy spacing. Only mappings and dynamic arrays are shown
without what they hold, by names that are unknown.
-/

namespace StorageLayout.SolidityType

open StorageLayout.TypeName

variable {name : String} {t : SolidityType}

theorem tidy_of_listed (h : Listed name t) : tidy name.toList = name.toList := by
  rcases h with hkeyword | ⟨stem, n, hwidened, rfl⟩
  · have hkeywords : ∀ entry ∈ keywords, tidy entry.1.toList = entry.1.toList := by
      decide +kernel
    exact hkeywords (name, t) hkeyword
  · have hstem : IsWord stem.toList := by cases hwidened <;> decide +kernel
    have hdigits : IsWord (Nat.toDigits 10 n) :=
      isWord_of_isDigit Nat.toDigits_ne_nil fun _ => Text.isDigit_of_mem_toDigits
    rw [String.toList_append, Nat.toString_eq_repr, Nat.toList_repr]
    exact tidy_of_tokens_eq_word (tokens_word (hstem.append hdigits))

theorem Widened.listed_render {stem : String} {n : Nat} (h : Widened stem n t) :
    Listed t.render t := by
  cases h with
  | uint hlow hhigh hmod => exact .inr ⟨_, _, .uint hlow hhigh hmod, rfl⟩
  | int hlow hhigh hmod => exact .inr ⟨_, _, .int hlow hhigh hmod, rfl⟩
  | fixedBytes hlow hhigh => exact .inr ⟨_, _, .fixedBytes hlow hhigh, rfl⟩

theorem listed_render_of_mem_keywords (h : (name, t) ∈ keywords) : Listed t.render t := by
  have hkeywords : ∀ entry ∈ keywords, (entry.2.render, entry.2) ∈ keywords ∨
      entry.2 = uint 256 ∨ entry.2 = int 256 := by decide +kernel
  have hcases : (t.render, t) ∈ keywords ∨ t = uint 256 ∨ t = int 256 := hkeywords (name, t) h
  rcases hcases with hrender | rfl | rfl
  · exact .inl hrender
  · exact Widened.listed_render (.uint (by decide) (by decide) rfl)
  · exact Widened.listed_render (.int (by decide) (by decide) rfl)

theorem listed_render (h : Listed name t ∨ Signed name t) : Listed t.render t := by
  rcases h with (hkeyword | ⟨stem, n, hwidened, -⟩) | ⟨stem, zeros, n, hwidened, -⟩
  · exact listed_render_of_mem_keywords hkeyword
  · exact hwidened.listed_render
  · exact hwidened.listed_render

theorem ofName_render_of_listed (h : Listed name t ∨ Signed name t) : ofName t.render = t :=
  ofName_of_listed (tidy_of_listed (listed_render h)) (.inl (listed_render h))

theorem ofName_tidy (name : String) : ofName (String.ofList (tidy name.toList)) = ofName name := by
  simp only [ofName, String.toList_ofList, tidy_tidy]

/-- A type that was read is read again from what it is shown as, unless it is a mapping or a dynamic
array. -/
theorem ofName_render_iff (name : String) : ofName (ofName name).render = ofName name ↔
    ofName name ≠ mapping ∧ ofName name ≠ dynamicArray := by
  constructor
  · intro h
    constructor
    · intro hmapping
      rw [hmapping] at h
      exact absurd h (by decide +kernel)
    · intro harray
      rw [harray] at h
      exact absurd h (by decide +kernel)
  · intro h
    have htidied : tidy name.toList = (String.ofList (tidy name.toList)).toList :=
      String.toList_ofList.symm
    rcases ofName_cases htidied with hmapping | harray | hlisted | hother
    · exact absurd hmapping h.1
    · exact absurd harray h.2
    · exact ofName_render_of_listed hlisted
    · rw [hother, render, ofName_tidy, hother]

end StorageLayout.SolidityType
