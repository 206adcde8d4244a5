import StorageLayout.Proofs.TypeName.Tokens

/-!
# Tidy spacing

Between two neighbouring characters a tidy name has one space if they were apart, and none if they
were not or if one of them is a bracket that makes the space superfluous. `TidiedAfter` relates a
name to its tidy form by this rule alone. Every name has exactly one tidy form, and a tidy form is
its own.
-/

namespace StorageLayout.TypeName

open Text

/-- What is left of the blanks between two characters. At the front of a name, where there is no
character before them, and beside a bracket that needs none, it is nothing. -/
def tidyGap (before : Option Char) (blanks : List Char) (after : Char) : List Char :=
  if blanks = [] ∨ before.all (fun c => c = '(' ∨ c = '[') ∨
      after = '(' ∨ after = ')' ∨ after = '[' ∨ after = ']' then [] else [' ']

/-- The second text is the first in tidy spacing, where `before` is the character in front of it,
if there is one. -/
inductive TidiedAfter : Option Char → List Char → List Char → Prop
  | stop {before : Option Char} {blanks : List Char} :
      (∀ b ∈ blanks, isBlank b = true) → TidiedAfter before blanks []
  | char {before : Option Char} {blanks s t : List Char} {c : Char} :
      (∀ b ∈ blanks, isBlank b = true) → isBlank c = false → TidiedAfter (some c) s t →
      TidiedAfter before (blanks ++ c :: s) (tidyGap before blanks c ++ c :: t)

variable {before : Option Char} {c d : Char} {blanks cs s t : List Char}

section Collapse

theorem words_blanks_append (h : ∀ b ∈ blanks, isBlank b = true) (s : List Char) :
    words (blanks ++ s) = words s := by
  induction blanks with
  | nil => rfl
  | cons b bs ih =>
    rw [List.forall_mem_cons] at h
    rw [List.cons_append, words_cons_blank _ h.1, ih h.2]

theorem collapse_blanks_append (h : ∀ b ∈ blanks, isBlank b = true) (s : List Char) :
    collapse (blanks ++ s) = collapse s := by
  rw [collapse, words_blanks_append h, collapse]

theorem collapse_blanks (h : ∀ b ∈ blanks, isBlank b = true) : collapse blanks = [] := by
  rw [← List.append_nil blanks, collapse_blanks_append h]
  rfl

theorem words_cons_of_blank (hc : isBlank c = false) (hd : isBlank d = true) :
    words (c :: d :: cs) = [c] :: words cs := by
  rw [words, if_neg (by simp [hc]), if_neg (by simp [hd]), words_cons_blank cs hd]

theorem words_cons_cons (hc : isBlank c = false) (hd : isBlank d = false) :
    words (c :: d :: cs) = consFirst c (words (d :: cs)) := by
  rw [words, if_neg (by simp [hc]), if_pos (by simp [hd])]

theorem words_eq_cons (hc : isBlank c = false) (cs : List Char) :
    ∃ w ws, words (c :: cs) = (c :: w) :: ws := by
  obtain ⟨w, ws, hwords, hhead⟩ := words_head (s := c :: cs) (by simp [hc])
  obtain ⟨w, rfl⟩ := List.head?_eq_some_iff.mp hhead
  exact ⟨w, ws, hwords⟩

theorem head?_collapse_cons (hc : isBlank c = false) (cs : List Char) :
    (collapse (c :: cs)).head? = some c := by
  obtain ⟨w, ws, hwords⟩ := words_eq_cons hc cs
  rw [collapse, hwords]
  cases ws <;> simp [List.intercalate_cons_cons]

theorem collapse_cons_blanks (hc : isBlank c = false) (h : ∀ b ∈ blanks, isBlank b = true) :
    collapse (c :: blanks) = [c] := by
  cases blanks with
  | nil => simp [collapse, words, hc]
  | cons b bs =>
    rw [List.forall_mem_cons] at h
    rw [collapse, words_cons_of_blank hc h.1, ← List.append_nil bs, words_blanks_append h.2]
    simp [words]

theorem collapse_cons_blanks_cons (hc : isBlank c = false)
    (h : ∀ b ∈ blanks, isBlank b = true) (hd : isBlank d = false) :
    collapse (c :: (blanks ++ d :: cs)) =
      c :: ((if blanks = [] then [] else [' ']) ++ collapse (d :: cs)) := by
  obtain ⟨w, ws, hwords⟩ := words_eq_cons hd cs
  cases blanks with
  | nil =>
    rw [List.nil_append, collapse, collapse, words_cons_cons hc hd, hwords, consFirst]
    cases ws <;> simp [List.intercalate_cons_cons]
  | cons b bs =>
    rw [List.forall_mem_cons] at h
    rw [List.cons_append, collapse, collapse, words_cons_of_blank hc h.1,
      words_blanks_append h.2, hwords, List.intercalate_cons_cons]
    rfl

end Collapse

section Tidied

theorem tightenAfter_cons (hc : isBlank c = false) (before : Char) (cs : List Char) :
    tightenAfter before (c :: cs) = c :: tightenAfter c cs := by
  have hspace : c ≠ ' ' := by
    rintro rfl
    exact absurd hc (by decide)
  rw [tightenAfter, if_neg (by simp [hspace])]

/-- The space that is left of blanks stays in place unless a bracket makes it superfluous. -/
theorem tightenAfter_gap (hd : s.head? = some d) (hs : ∀ first, tightenAfter first s = t)
    (blanks : List Char) :
    tightenAfter c ((if blanks = [] then [] else [' ']) ++ s) = tidyGap (some c) blanks d ++ t := by
  by_cases hblanks : blanks = []
  · rw [if_pos hblanks, List.nil_append, hs, tidyGap, if_pos (.inl hblanks), List.nil_append]
  · have hbrackets : (decide (' ' = ' ') && (s.head?.any isBracket || isOpening c)) = true ↔
        blanks = [] ∨ (some c).all (fun c => c = '(' ∨ c = '[') ∨
          d = '(' ∨ d = ')' ∨ d = '[' ∨ d = ']' := by
      simp [hblanks, hd, isBracket, isOpening, or_comm, or_assoc]
    rw [if_neg hblanks, List.singleton_append, tightenAfter, hs, tidyGap]
    by_cases hdrop : (decide (' ' = ' ') && (s.head?.any isBracket || isOpening c)) = true
    · rw [if_pos hdrop, if_pos (hbrackets.mp hdrop), List.nil_append]
    · rw [if_neg hdrop, if_neg (mt hbrackets.mpr hdrop), List.singleton_append]

/-- Behind the character in front of it, the text is spelled as the relation says. That character is
kept, whichever one stands before it. -/
theorem TidiedAfter.tightenAfter_collapse (h : TidiedAfter before s t) :
    ∀ c first, before = some c → isBlank c = false →
      tightenAfter first (collapse (c :: s)) = c :: t := by
  induction h with
  | stop hblanks =>
    rintro c first - hc
    rw [collapse_cons_blanks hc hblanks, tightenAfter_cons hc]
    rfl
  | char hblanks hd _ ih =>
    rintro c first rfl hc
    rw [collapse_cons_blanks_cons hc hblanks hd, tightenAfter_cons hc,
      tightenAfter_gap (head?_collapse_cons hd _) (fun first => ih _ first rfl hd)]

theorem exists_tidiedAfter (before : Option Char) (s : List Char) :
    ∃ t, TidiedAfter before s t := by
  induction s generalizing before with
  | nil => exact ⟨[], .stop (List.forall_mem_nil _)⟩
  | cons c cs ih =>
    by_cases hc : isBlank c = true
    · obtain ⟨t, h⟩ := ih before
      cases h with
      | stop hblanks => exact ⟨[], .stop (List.forall_mem_cons.mpr ⟨hc, hblanks⟩)⟩
      | @char _ blanks s t d hblanks hd hrest =>
        have hblanks : ∀ b ∈ c :: blanks, isBlank b = true := List.forall_mem_cons.mpr ⟨hc, hblanks⟩
        exact ⟨tidyGap before (c :: blanks) d ++ d :: t, .char hblanks hd hrest⟩
    · obtain ⟨t, h⟩ := ih (some c)
      rw [Bool.not_eq_true] at hc
      exact ⟨tidyGap before [] c ++ c :: t, .char (List.forall_mem_nil _) hc h⟩

theorem TidiedAfter.tidy_eq (h : TidiedAfter none s t) : tidy s = t := by
  cases h with
  | stop hblanks =>
    rw [tidy, collapse_blanks hblanks]
    rfl
  | char hblanks hc hrest =>
    rw [tidy, collapse_blanks_append hblanks, tighten,
      hrest.tightenAfter_collapse _ _ rfl hc]
    simp [tidyGap]

/-- The tidy form is the one that the rule of spacing gives. -/
theorem tidy_eq_iff : tidy s = t ↔ TidiedAfter none s t := by
  refine ⟨?_, TidiedAfter.tidy_eq⟩
  rintro rfl
  obtain ⟨t, h⟩ := exists_tidiedAfter none s
  rwa [h.tidy_eq]

theorem tidyGap_tidyGap (before : Option Char) (blanks : List Char) (after : Char) :
    tidyGap before (tidyGap before blanks after) after = tidyGap before blanks after := by
  unfold tidyGap
  split_ifs <;> simp_all

theorem isBlank_of_mem_tidyGap (before : Option Char) (blanks : List Char) (after : Char) :
    ∀ b ∈ tidyGap before blanks after, isBlank b = true := by
  unfold tidyGap
  split_ifs
  · exact List.forall_mem_nil _
  · exact List.forall_mem_singleton.mpr (by decide)

theorem TidiedAfter.self (h : TidiedAfter before s t) : TidiedAfter before t t := by
  induction h with
  | stop _ => exact .stop (List.forall_mem_nil _)
  | @char before blanks s t c _ hc _ ih =>
    have h : TidiedAfter before (tidyGap before blanks c ++ c :: t)
        (tidyGap before (tidyGap before blanks c) c ++ c :: t) :=
      .char (isBlank_of_mem_tidyGap before blanks c) hc ih
    rwa [tidyGap_tidyGap] at h

theorem tidy_tidy (s : List Char) : tidy (tidy s) = tidy s :=
  (tidy_eq_iff.mp rfl).self.tidy_eq

end Tidied

end StorageLayout.TypeName
