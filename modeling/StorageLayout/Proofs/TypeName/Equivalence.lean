import StorageLayout.Proofs.TypeName.Canonical

/-!
# Spellings of one type

The tokens of a name are its maximal words and its marks. Two names have one canonical spelling
exactly if their tokens agree in normal form, with every `payable` behind an `address` left out and
the abbreviated integer types spelled in full. The canonical spelling writes that normal form down,
and reading it back yields the normal form again.
-/

namespace StorageLayout.TypeName

open Text

/-- The text consists of the tokens: each word of it goes as far as it can, each other character
that is not blank stands alone, and blanks are left out. -/
inductive CutInto : List Char → List Token → Prop
  | nil : CutInto [] []
  | blank {c : Char} {s : List Char} {ts : List Token} :
      isBlank c = true → CutInto s ts → CutInto (c :: s) ts
  | mark {c : Char} {s : List Char} {ts : List Token} :
      isWordChar c = false → isBlank c = false → CutInto s ts → CutInto (c :: s) (.mark c :: ts)
  | word {w s : List Char} {ts : List Token} :
      IsWord w → s.head?.any isWordChar = false → CutInto s ts → CutInto (w ++ s) (.word w :: ts)

theorem CutInto.tokens_eq {s : List Char} {ts : List Token} (h : CutInto s ts) : tokens s = ts := by
  induction h with
  | nil => rfl
  | blank hblank _ ih => rw [tokens_cons_blank hblank, ih]
  | mark hword hblank _ ih => rw [tokens_cons_mark hword hblank, ih]
  | word hw hs _ ih => rw [tokens_word_append hw hs, ih]

theorem exists_cutInto (s : List Char) : ∃ ts, CutInto s ts := by
  induction s with
  | nil => exact ⟨[], .nil⟩
  | cons c cs ih =>
    obtain ⟨ts, h⟩ := ih
    by_cases hword : isWordChar c = true
    · by_cases hnext : cs.head?.any isWordChar = true
      · -- The word goes on with the one that the rest starts with.
        cases h with
        | nil => simp at hnext
        | blank hblank _ => simp [not_isWordChar_of_isBlank hblank] at hnext
        | mark hmark _ _ => simp [hmark] at hnext
        | word hw hs hrest => exact ⟨_, .word ((isWord_singleton hword).append hw) hs hrest⟩
      · exact ⟨_, .word (isWord_singleton hword) (Bool.not_eq_true _ ▸ hnext) h⟩
    · rw [Bool.not_eq_true] at hword
      by_cases hblank : isBlank c = true
      · exact ⟨ts, .blank hblank h⟩
      · exact ⟨_, .mark hword (Bool.not_eq_true _ ▸ hblank) h⟩

theorem tokens_eq_iff {s : List Char} {ts : List Token} : tokens s = ts ↔ CutInto s ts := by
  refine ⟨?_, CutInto.tokens_eq⟩
  rintro rfl
  obtain ⟨ts, h⟩ := exists_cutInto s
  rwa [h.tokens_eq]

def Token.address : Token :=
  word "address".toList

def Token.payable : Token :=
  word "payable".toList

/-- Leave out what follows an `address` as long as it is `payable`. -/
def dropPayables : List Token → List Token
  | [] => []
  | t :: ts =>
    if t = .address then t :: dropPayables (ts.dropWhile (· = .payable))
    else t :: dropPayables ts
termination_by ts => ts.length
decreasing_by
  · have := (List.dropWhile_sublist (· = Token.payable) (l := ts)).length_le
    simp only [List.length_cons]
    omega
  · simp

/-- The words `uint` and `int` stand for `uint256` and `int256`, every other token for itself. -/
def Token.expand (t : Token) : Token :=
  if t = word "uint".toList then word "uint256".toList
  else if t = word "int".toList then word "int256".toList
  else t

/-- What names of one type have in common. -/
def normalForm (ts : List Token) : List Token :=
  (dropPayables ts).map Token.expand

section Resolve

variable {before : Option (List Char)} {ts : List Token} {w : List Char}

theorem Token.word_eq_address_iff : Token.word w = .address ↔ w = "address".toList :=
  ⟨Token.word.inj, congrArg _⟩

theorem Token.word_eq_payable_iff : Token.word w = .payable ↔ w = "payable".toList :=
  ⟨Token.word.inj, congrArg _⟩

theorem Token.expand_mark (c : Char) : (Token.mark c).expand = .mark c := rfl

theorem Token.expand_word (w : List Char) : (Token.word w).expand = .word (unabbreviate w) := by
  simp only [expand, unabbreviate, Token.word.injEq, apply_ite word]

theorem resolveAfter_dropWhile_payable (ts : List Token) :
    resolveAfter (some "address".toList) (ts.dropWhile (· = .payable)) =
      resolveAfter (some "address".toList) ts := by
  induction ts with
  | nil => rfl
  | cons t ts ih =>
    by_cases h : t = .payable
    · have hskip : resolveAfter (some "address".toList) (t :: ts) =
          resolveAfter (some "address".toList) ts := h ▸ if_pos ⟨rfl, rfl⟩
      rw [List.dropWhile_cons, if_pos (decide_eq_true h), ih, hskip]
    · rw [List.dropWhile_cons, if_neg (mt of_decide_eq_true h)]

theorem head_dropWhile_payable_ne (ts : List Token) :
    (ts.dropWhile (· = .payable)).head? ≠ some .payable := by
  intro h
  have hnot := List.head?_dropWhile_not (· = Token.payable) ts
  simp [h] at hnot

/-- If no `payable` is left out at the front, resolving the aliases yields the normal form. -/
theorem resolveAfter_eq_normalForm
    (h : ts.head? = some .payable → before ≠ some "address".toList) :
    resolveAfter before ts = normalForm ts := by
  rw [normalForm]
  induction ts using dropPayables.induct generalizing before with
  | case1 => rw [resolveAfter, dropPayables, List.map_nil]
  | case2 ts ih =>
    have hkept : ¬("address".toList = "payable".toList ∧ before = some "address".toList) :=
      fun hdrop => absurd hdrop.1 (by decide)
    rw [dropPayables, if_pos rfl, List.map_cons,
      ← ih fun hhead => absurd hhead (head_dropWhile_payable_ne ts),
      resolveAfter_dropWhile_payable, Token.address, resolveAfter, if_neg hkept, Token.expand_word]
  | case3 t ts ht ih =>
    rw [dropPayables, if_neg ht, List.map_cons]
    cases t with
    | mark c => rw [resolveAfter, ih fun _ => (Option.some_ne_none _).symm, Token.expand_mark]
    | word w =>
      have hkept : ¬(w = "payable".toList ∧ before = some "address".toList) := fun hdrop =>
        h (congrArg some (Token.word_eq_payable_iff.mpr hdrop.1)) hdrop.2
      have hw : w ≠ "address".toList := mt Token.word_eq_address_iff.mpr ht
      rw [resolveAfter, if_neg hkept, Token.expand_word,
        ih fun _ hbefore => hw (Option.some.inj hbefore)]

theorem resolveAfter_none (ts : List Token) : resolveAfter none ts = normalForm ts :=
  resolveAfter_eq_normalForm fun _ => (Option.some_ne_none _).symm

end Resolve

section Render

/-- The text of tokens, with a space between two words. -/
def render (behindWord : Bool) : List Token → List Char
  | [] => []
  | .mark c :: ts => c :: render false ts
  | .word w :: ts => (if behindWord then [' '] else []) ++ w ++ render true ts

theorem spellAfter_eq_render (before : Option (List Char)) (ts : List Token) :
    spellAfter before ts = render before.isSome (resolveAfter before ts) := by
  induction ts generalizing before with
  | nil => rfl
  | cons t ts ih =>
    cases t with
    | mark c => rw [spellAfter, resolveAfter, render, ih none, Option.isSome_none]
    | word w =>
      rw [spellAfter, resolveAfter]
      by_cases hdropped : w = "payable".toList ∧ before = some "address".toList
      · rw [if_pos hdropped, if_pos hdropped, ih before]
      · rw [if_neg hdropped, if_neg hdropped, render, ih (some w), Option.isSome_some]

theorem canonical_eq_render (name : String) :
    canonical name = String.ofList (render false (normalForm (tokens name.toList))) := by
  rw [canonical, spell, spellAfter_eq_render, resolveAfter_none, Option.isSome_none]

end Render

section Idempotence

variable {before after : Option (List Char)} {v w : List Char}

theorem unabbreviate_unabbreviate (w : List Char) :
    unabbreviate (unabbreviate w) = unabbreviate w := by
  by_cases huint : w = "uint".toList
  · rw [huint]
    decide +kernel
  · by_cases hint : w = "int".toList
    · rw [hint]
      decide +kernel
    · have hself : unabbreviate w = w := by rw [unabbreviate, if_neg huint, if_neg hint]
      rw [hself, hself]

theorem unabbreviate_eq_iff (huint : unabbreviate "uint".toList ≠ v)
    (hint : unabbreviate "int".toList ≠ v) (hv : unabbreviate v = v) :
    unabbreviate w = v ↔ w = v := by
  refine ⟨fun h => ?_, fun h => h ▸ hv⟩
  by_cases hw : w = "uint".toList
  · exact absurd (hw ▸ h) huint
  · by_cases hw' : w = "int".toList
    · exact absurd (hw' ▸ h) hint
    · rwa [unabbreviate, if_neg hw, if_neg hw'] at h

theorem unabbreviate_eq_address_iff : unabbreviate w = "address".toList ↔ w = "address".toList :=
  unabbreviate_eq_iff (by decide) (by decide) (by decide)

theorem unabbreviate_eq_payable_iff : unabbreviate w = "payable".toList ↔ w = "payable".toList :=
  unabbreviate_eq_iff (by decide) (by decide) (by decide)

theorem resolveAfter_congr
    (h : before = some "address".toList ↔ after = some "address".toList) (ts : List Token) :
    resolveAfter before ts = resolveAfter after ts := by
  by_cases hbefore : before = some "address".toList
  · rw [hbefore, h.mp hbefore]
  · cases ts with
    | nil => rfl
    | cons t ts =>
      cases t with
      | mark c => rfl
      | word w =>
        have hafter := mt h.mpr hbefore
        rw [resolveAfter, resolveAfter, if_neg (mt And.right hbefore), if_neg (mt And.right hafter)]

theorem resolveAfter_resolveAfter (before : Option (List Char)) (ts : List Token) :
    resolveAfter before (resolveAfter before ts) = resolveAfter before ts := by
  induction ts generalizing before with
  | nil => rfl
  | cons t ts ih =>
    cases t with
    | mark c => rw [resolveAfter, resolveAfter, ih none]
    | word w =>
      rw [resolveAfter]
      split_ifs with hkept
      · exact ih before
      · have haddress : some (unabbreviate w) = some "address".toList ↔
            some w = some "address".toList := by
          rw [Option.some_inj, Option.some_inj, unabbreviate_eq_address_iff]
        rw [← unabbreviate_eq_payable_iff] at hkept
        rw [resolveAfter, if_neg hkept, unabbreviate_unabbreviate, resolveAfter_congr haddress,
          ih (some w)]

theorem normalForm_normalForm (ts : List Token) : normalForm (normalForm ts) = normalForm ts := by
  rw [← resolveAfter_none ts, ← resolveAfter_none, resolveAfter_resolveAfter]

end Idempotence

theorem tokens_canonical_eq_normalForm (name : String) :
    tokens (canonical name).toList = normalForm (tokens name.toList) := by
  rw [tokens_canonical, resolvedTokens, resolveAfter_none]

/-- Two names have one canonical spelling exactly if their tokens have one normal form. The
canonical spelling has the normal form as its tokens, and it is its own canonical spelling. -/
theorem canonical_eq_iff_normalForm_eq :
    (∀ s ts, tokens s = ts ↔ CutInto s ts) ∧
      (∀ name, tokens (canonical name).toList = normalForm (tokens name.toList)) ∧
      (∀ s t, canonical s = canonical t ↔
        normalForm (tokens s.toList) = normalForm (tokens t.toList)) ∧
      ∀ name, canonical (canonical name) = canonical name := by
  refine ⟨fun _ _ => tokens_eq_iff, tokens_canonical_eq_normalForm, fun s t => ?_, fun name => ?_⟩
  · constructor
    · intro h
      rw [← tokens_canonical_eq_normalForm, h, tokens_canonical_eq_normalForm]
    · intro h
      rw [canonical_eq_render, h, ← canonical_eq_render]
  · rw [canonical_eq_render, tokens_canonical_eq_normalForm, normalForm_normalForm,
      ← canonical_eq_render]

/-- Abbreviated integers and addresses with any number of `payable` have the canonical spelling of
the type they name, and no other type has it. -/
theorem canonical_eq_iff_normalForm_eq_aliases :
    canonical "uint" = canonical "uint256" ∧ canonical "int\t[ ]" = canonical "int256[]" ∧
      canonical "address payable payable" = canonical "address" ∧
      canonical "uint" ≠ canonical "int" ∧ canonical "uint" ≠ canonical "uint8" ∧
      canonical "payable address" ≠ canonical "address" ∧
      tokens (canonical "mapping(address payable=>$Lib.a_1 uint)").toList =
        [.word "mapping".toList, .mark '(', .word "address".toList, .mark '=', .mark '>',
          .word "$Lib.a_1".toList, .word "uint256".toList, .mark ')'] := by
  obtain ⟨-, htokens, hiff, -⟩ := canonical_eq_iff_normalForm_eq
  simp only [ne_eq, hiff, htokens, ← resolveAfter_none]
  decide +kernel

end StorageLayout.TypeName
