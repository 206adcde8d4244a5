import Mathlib.Data.List.Basic
import StorageLayout.TypeName.Canonical
import StorageLayout.TypeName.Spacing

/-!
# Tokens and spacing

Blanks part words and do nothing else: tidying a type name keeps its tokens. Names of the same
tokens may differ in their tidy spelling, but a name of words alone is tidied to those words with
a space between them.
-/

namespace StorageLayout.TypeName

open Text

theorem not_isAlphanumeric_of_isBlank {c : Char} (h : isBlank c = true) :
    isAlphanumeric c = false := by
  obtain ⟨b, hb, hlow, hhigh⟩ := CodeRanges.contains_iff.mp h
  unfold isAlphanumeric
  split_ifs with hascii
  · -- the ASCII blanks are the space and the five characters from the tab to the carriage return
    have hcode : c.toNat ∈ [0x9, 0xa, 0xb, 0xc, 0xd, 0x20] := by
      simp only [blankRanges, List.mem_cons, List.not_mem_nil, or_false] at hb ⊢
      rcases hb with rfl | rfl | rfl | rfl | rfl | rfl | rfl | rfl | rfl | rfl <;>
        dsimp only at hlow hhigh <;> omega
    have hnone : ∀ n ∈ [0x9, 0xa, 0xb, 0xc, 0xd, 0x20], (Char.ofNat n).isAlphanum = false := by
      decide
    rw [← Char.ofNat_toNat c]
    exact hnone c.toNat hcode
  · by_contra halpha
    obtain ⟨a, ha, halow, hahigh⟩ := CodeRanges.contains_iff.mp (Bool.not_eq_false _ ▸ halpha)
    have hapart : ∀ b ∈ blankRanges, ∀ a ∈ alphanumericRanges, a.2 < b.1 ∨ b.2 < a.1 := by
      decide +kernel
    have := hapart b hb a ha
    omega

theorem not_isWordChar_of_isBlank {c : Char} (h : isBlank c = true) : isWordChar c = false := by
  have hmarks : c ≠ '_' ∧ c ≠ '$' ∧ c ≠ '.' := by
    refine ⟨?_, ?_, ?_⟩ <;>
      rintro rfl <;> exact absurd h (by decide)
  simp [isWordChar, not_isAlphanumeric_of_isBlank h, hmarks]

theorem isWordChar_of_isDigit {c : Char} (h : c.isDigit = true) : isWordChar c = true := by
  have hascii : c.toNat < 128 := by
    have hval : c.val.toNat = c.toNat := rfl
    simp only [Char.isDigit, Bool.and_eq_true, decide_eq_true_eq, ge_iff_le,
      UInt32.le_iff_toNat_le, Char.reduceVal, UInt32.reduceToNat] at h
    omega
  simp [isWordChar, isAlphanumeric, hascii, Char.isAlphanum, h]

def IsWord (w : List Char) : Prop :=
  w ≠ [] ∧ w.all isWordChar = true

instance (w : List Char) : Decidable (IsWord w) :=
  inferInstanceAs (Decidable (_ ∧ _))

theorem IsWord.isWordChar_of_mem {w : List Char} {c : Char} (h : IsWord w) (hc : c ∈ w) :
    isWordChar c = true :=
  List.all_eq_true.mp h.2 c hc

theorem IsWord.append {v w : List Char} (hv : IsWord v) (hw : IsWord w) : IsWord (v ++ w) :=
  ⟨by simp [hv.1], by simp [List.all_append, hv.2, hw.2]⟩

theorem isWord_of_isDigit {digits : List Char} (hne : digits ≠ [])
    (h : ∀ c ∈ digits, c.isDigit = true) : IsWord digits :=
  ⟨hne, List.all_eq_true.mpr fun c hc => isWordChar_of_isDigit (h c hc)⟩

section Cons

variable {c : Char} {s cs w : List Char} {us : List Token}

theorem tokens_cons_blank (h : isBlank c = true) : tokens (c :: cs) = tokens cs := by
  simp [tokens, h, not_isWordChar_of_isBlank h]

theorem tokens_cons_mark (hword : isWordChar c = false) (hblank : isBlank c = false) :
    tokens (c :: cs) = .mark c :: tokens cs := by
  simp [tokens, hword, hblank]

theorem Token.consWord_ne_nil : Token.consWord c us ≠ [] := by
  unfold Token.consWord
  split <;> simp

theorem Token.consWord_append (h : us ≠ []) (vs : List Token) :
    Token.consWord c (us ++ vs) = Token.consWord c us ++ vs := by
  cases us with
  | nil => exact absurd rfl h
  | cons u us => cases u <;> rfl

theorem tokens_ne_nil_of_head (h : cs.head?.any isWordChar = true) : tokens cs ≠ [] := by
  cases cs with
  | nil => simp at h
  | cons d ds =>
    have hd : isWordChar d = true := by simpa using h
    unfold tokens
    rw [if_pos hd]
    split
    · exact Token.consWord_ne_nil
    · simp

/-- What a character adds to the tokens of a text depends on them and on whether the text starts
with a word. -/
theorem tokens_cons_append
    (hhead : isWordChar c = true → s.head?.any isWordChar = w.head?.any isWordChar)
    (htokens : tokens s = tokens w ++ us) : tokens (c :: s) = tokens (c :: w) ++ us := by
  unfold tokens
  by_cases hc : isWordChar c = true
  · rw [if_pos hc, if_pos hc, hhead hc, htokens]
    split_ifs with hw
    · exact Token.consWord_append (tokens_ne_nil_of_head hw) us
    · rfl
  · rw [if_neg hc, if_neg hc, htokens]
    split_ifs <;> rfl

theorem tokens_append_of_blank (h : isBlank c = true) :
    tokens (s ++ c :: cs) = tokens s ++ tokens cs := by
  induction s with
  | nil => exact tokens_cons_blank h
  | cons d ds ih =>
    apply tokens_cons_append _ ih
    intro _
    cases ds with
    | nil => simp [not_isWordChar_of_isBlank h]
    | cons e es => rfl

theorem tokens_word_append (hw : IsWord w) (hs : s.head?.any isWordChar = false) :
    tokens (w ++ s) = .word w :: tokens s := by
  induction w with
  | nil => exact absurd rfl hw.1
  | cons d ds ih =>
    have hd : isWordChar d = true := hw.isWordChar_of_mem List.mem_cons_self
    rw [List.cons_append, tokens, if_pos hd]
    cases ds with
    | nil => simp [hs]
    | cons e es =>
      obtain ⟨-, he⟩ : isWordChar d = true ∧ _ := by simpa using hw.2
      rw [ih ⟨by simp, by simpa using he⟩]
      simp [he.1, Token.consWord]

theorem tokens_word (hw : IsWord w) : tokens w = [.word w] := by
  simpa [tokens] using tokens_word_append (s := []) hw rfl

end Cons

section Words

variable {s w : List Char}

theorem not_isBlank_of_mem_words {c : Char} (hw : w ∈ words s) (hc : c ∈ w) :
    isBlank c = false := by
  induction s generalizing w with
  | nil => cases hw
  | cons d ds ih =>
    by_cases hblank : isBlank d = true
    · rw [words_cons_blank ds hblank] at hw
      exact ih hw hc
    · have hd : isBlank d = false := Bool.not_eq_true _ ▸ hblank
      rw [words, if_neg hblank] at hw
      split_ifs at hw with hnext
      · cases hds : words ds with
        | nil =>
          rw [hds, consFirst, List.mem_singleton] at hw
          rw [hw, List.mem_singleton] at hc
          exact hc ▸ hd
        | cons v vs =>
          rw [hds, consFirst, List.mem_cons] at hw
          rcases hw with rfl | hw
          · rcases List.mem_cons.mp hc with rfl | hc
            · exact hd
            · exact ih (hds ▸ List.mem_cons_self) hc
          · exact ih (hds ▸ List.mem_cons_of_mem _ hw) hc
      · rcases List.mem_cons.mp hw with rfl | hw
        · rw [List.mem_singleton.mp hc]
          exact hd
        · exact ih hw hc

theorem words_head (h : s.head?.any (!isBlank ·) = true) :
    ∃ w ws, words s = w :: ws ∧ w.head? = s.head? := by
  cases s with
  | nil => simp at h
  | cons c cs =>
    have hc : isBlank c = false := by simpa using h
    unfold words
    rw [if_neg (by simp [hc])]
    split_ifs with hnext
    · cases words cs with
      | nil => exact ⟨[c], [], rfl, rfl⟩
      | cons v vs => exact ⟨c :: v, vs, rfl, rfl⟩
    · exact ⟨[c], words cs, rfl, rfl⟩

/-- No token reaches over a blank. -/
theorem tokens_eq_flatMap_words (s : List Char) : tokens s = (words s).flatMap tokens := by
  induction s with
  | nil => rfl
  | cons c cs ih =>
    by_cases hc : isBlank c = true
    · rw [tokens_cons_blank hc, words_cons_blank cs hc, ih]
    · rw [words, if_neg hc]
      split_ifs with hcs
      · obtain ⟨w, ws, hwords, hhead⟩ := words_head hcs
        rw [hwords] at ih ⊢
        exact tokens_cons_append (fun _ => by rw [hhead]) ih
      · apply tokens_cons_append _ ih
        intro _
        cases cs with
        | nil => rfl
        | cons d ds =>
          have hd : isBlank d = true := by simpa using hcs
          simp [not_isWordChar_of_isBlank hd]

theorem tokens_intercalate_space (ws : List (List Char)) :
    tokens ([' '].intercalate ws) = ws.flatMap tokens := by
  induction ws with
  | nil => rfl
  | cons w ws ih =>
    cases ws with
    | nil => simp [List.intercalate]
    | cons v vs =>
      have hcons : [' '].intercalate (w :: v :: vs) = w ++ ' ' :: [' '].intercalate (v :: vs) := by
        simp [List.intercalate, List.intersperse]
      rw [hcons, tokens_append_of_blank (by decide), ih]
      rfl

theorem tokens_collapse (s : List Char) : tokens (collapse s) = tokens s := by
  rw [collapse, tokens_intercalate_space, ← tokens_eq_flatMap_words]

end Words

section Tidy

variable {c : Char} {cs s : List Char}

theorem not_isOpening_of_isWordChar (h : isWordChar c = true) : isOpening c = false := by
  by_contra hopen
  simp only [isOpening, Bool.or_eq_true, decide_eq_true_eq, Bool.not_eq_false] at hopen
  rcases hopen with rfl | rfl <;> exact absurd h (by decide)

theorem not_isWordChar_of_isBracket (h : isBracket c = true) : isWordChar c = false := by
  simp only [isBracket, Bool.or_eq_true, decide_eq_true_eq] at h
  rcases h with ((rfl | rfl) | rfl) | rfl <;> decide

/-- Behind anything but an opening bracket, a space is dropped only in front of a bracket, so a
word is not moved to where it was not before. -/
theorem head_tightenAfter (h : isOpening c = false) :
    (tightenAfter c cs).head?.any isWordChar = cs.head?.any isWordChar := by
  cases cs with
  | nil => rfl
  | cons d ds =>
    rw [tightenAfter, h, Bool.or_false]
    split_ifs with hdrop
    · obtain ⟨hspace, hds⟩ : d = ' ' ∧ ds.head?.any isBracket = true := by simpa using hdrop
      obtain ⟨b, bs, rfl⟩ : ∃ b bs, ds = b :: bs := by
        cases ds with
        | nil => simp at hds
        | cons b bs => exact ⟨b, bs, rfl⟩
      have hb : isBracket b = true := by simpa using hds
      have hbspace : b ≠ ' ' := by
        rintro rfl
        exact absurd hb (by decide)
      subst hspace
      simp [tightenAfter, hbspace, not_isWordChar_of_isBracket hb,
        not_isWordChar_of_isBlank (c := ' ') (by decide)]
    · rfl

theorem tokens_tightenAfter (before : Char) (s : List Char) :
    tokens (tightenAfter before s) = tokens s := by
  induction s generalizing before with
  | nil => rfl
  | cons c cs ih =>
    rw [tightenAfter]
    split_ifs with hdrop
    · obtain ⟨rfl, -⟩ : c = ' ' ∧ _ := by simpa using hdrop
      rw [ih, tokens_cons_blank (by decide)]
    · have hrest : tokens (tightenAfter c cs) = tokens cs ++ [] := by
        rw [ih, List.append_nil]
      have hcons : tokens (c :: tightenAfter c cs) = tokens (c :: cs) ++ [] :=
        tokens_cons_append (fun hc => head_tightenAfter (not_isOpening_of_isWordChar hc)) hrest
      rw [hcons, List.append_nil]

theorem tokens_tidy (s : List Char) : tokens (tidy s) = tokens s := by
  rw [tidy, tighten, tokens_tightenAfter, tokens_collapse]

theorem tightenAfter_eq_self (before : Char) (h : ' ' ∉ s) : tightenAfter before s = s := by
  induction s generalizing before with
  | nil => rfl
  | cons c cs ih =>
    rw [List.mem_cons, not_or] at h
    rw [tightenAfter, if_neg (by simp [Ne.symm h.1]), ih c h.2]

end Tidy

section WellFormed

def Token.chars : Token → List Char
  | word w => w
  | mark c => [c]

def Token.WellFormed : Token → Prop
  | word w => IsWord w
  | mark c => isWordChar c = false ∧ isBlank c = false

variable {c : Char} {s w : List Char}

theorem isWord_singleton (h : isWordChar c = true) : IsWord [c] :=
  ⟨by simp, by simpa using h⟩

theorem IsWord.cons (hc : isWordChar c = true) (h : IsWord w) : IsWord (c :: w) :=
  (isWord_singleton hc).append h

theorem Token.consWord_wellFormed {ts : List Token} (hc : isWordChar c = true)
    (h : ∀ t ∈ ts, t.WellFormed) : ∀ t ∈ Token.consWord c ts, t.WellFormed := by
  match ts with
  | .word w :: ts =>
    rw [List.forall_mem_cons] at h
    exact List.forall_mem_cons.mpr ⟨h.1.cons hc, h.2⟩
  | [] | .mark d :: ts => exact List.forall_mem_cons.mpr ⟨isWord_singleton hc, h⟩

theorem wellFormed_tokens (s : List Char) : ∀ t ∈ tokens s, t.WellFormed := by
  induction s with
  | nil => simp [tokens]
  | cons c cs ih =>
    unfold tokens
    split_ifs with hc hnext hblank
    · exact Token.consWord_wellFormed hc ih
    · exact List.forall_mem_cons.mpr ⟨isWord_singleton hc, ih⟩
    · exact ih
    · exact List.forall_mem_cons.mpr ⟨⟨by simpa using hc, by simpa using hblank⟩, ih⟩

theorem Token.flatMap_chars_consWord (ts : List Token) :
    (Token.consWord c ts).flatMap chars = c :: ts.flatMap chars := by
  match ts with
  | [] | .word w :: ts | .mark d :: ts => rfl

theorem flatMap_chars_tokens (h : ∀ c ∈ s, isBlank c = false) :
    (tokens s).flatMap Token.chars = s := by
  induction s with
  | nil => rfl
  | cons c cs ih =>
    have hc := h c List.mem_cons_self
    have ih := ih fun d hd => h d (List.mem_cons_of_mem _ hd)
    unfold tokens
    split_ifs with hword hnext hblank
    · rw [Token.flatMap_chars_consWord, ih]
    · rw [List.flatMap_cons, ih]
      rfl
    · simp [hc] at hblank
    · rw [List.flatMap_cons, ih]
      rfl

theorem tokens_eq_map_words (h : ∀ t ∈ tokens s, ∃ w, t = .word w) :
    tokens s = (words s).map .word := by
  rw [tokens_eq_flatMap_words] at h ⊢
  rw [List.map_eq_flatMap]
  apply List.flatMap_congr
  intro u hu
  have hchars : (tokens u).flatMap Token.chars = u :=
    flatMap_chars_tokens fun c hc => not_isBlank_of_mem_words hu hc
  refine tokens_word ⟨mem_words_ne_nil hu, List.all_eq_true.mpr fun c hc => ?_⟩
  rw [← hchars, List.mem_flatMap] at hc
  obtain ⟨t, ht, hct⟩ := hc
  obtain ⟨w, rfl⟩ := h t (List.mem_flatMap.mpr ⟨u, hu, ht⟩)
  exact (wellFormed_tokens u _ ht : IsWord w).isWordChar_of_mem hct

theorem tidy_of_tokens_eq_map_word {ws : List (List Char)} (h : tokens s = ws.map .word) :
    tidy s = tighten ([' '].intercalate ws) := by
  have hwords : (words s).map Token.word = ws.map .word := by
    rw [← h]
    refine (tokens_eq_map_words fun t ht => ?_).symm
    rw [h, List.mem_map] at ht
    obtain ⟨w, -, rfl⟩ := ht
    exact ⟨w, rfl⟩
  have hinj : Function.Injective Token.word := fun _ _ => Token.word.inj
  rw [tidy, collapse, List.map_injective_iff.mpr hinj hwords]

theorem tidy_of_tokens_eq_word (h : tokens s = [.word w]) : tidy s = w := by
  have htidy : tidy s = tighten ([' '].intercalate [w]) := tidy_of_tokens_eq_map_word h
  have hw : IsWord w := wellFormed_tokens s (.word w) (h ▸ List.mem_singleton_self _)
  have hspace : ' ' ∉ w := fun hmem => absurd (hw.isWordChar_of_mem hmem) (by decide)
  have hself : tighten w = w := tightenAfter_eq_self ' ' hspace
  simpa [htidy, List.intercalate] using hself

end WellFormed

end StorageLayout.TypeName
