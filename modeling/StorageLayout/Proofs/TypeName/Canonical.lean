import StorageLayout.Proofs.TypeName.Tokens

/-!
# Tokens of a canonical name

A canonical name has the tokens of the name with the aliases resolved: no two words run together
where a `payable` is left out or an integer type is spelled in full. So names with one canonical
spelling have the same resolved tokens.
-/

namespace StorageLayout.TypeName

open Text

/-- The tokens with their aliases resolved, where `before` is the word in front of them, if there
is one. A `payable` that is left out is not in front of anything. -/
def resolveAfter (before : Option (List Char)) : List Token → List Token
  | [] => []
  | .mark c :: ts => .mark c :: resolveAfter none ts
  | .word w :: ts =>
    if w = "payable".toList ∧ before = some "address".toList then resolveAfter before ts
    else .word (unabbreviate w) :: resolveAfter (some w) ts

def resolvedTokens (name : String) : List Token :=
  resolveAfter none (tokens name.toList)

theorem isWord_unabbreviate {w : List Char} (h : IsWord w) : IsWord (unabbreviate w) := by
  unfold unabbreviate
  split_ifs
  · decide +kernel
  · decide +kernel
  · exact h

/-- What is written behind a word does not go on with it. -/
theorem head_spellAfter_some {w : List Char} {ts : List Token} (h : ∀ t ∈ ts, t.WellFormed) :
    (spellAfter (some w) ts).head?.any isWordChar = false := by
  induction ts with
  | nil => rfl
  | cons t ts ih =>
    rw [List.forall_mem_cons] at h
    cases t with
    | mark c => simpa [spellAfter] using h.1.1
    | word v =>
      rw [spellAfter]
      by_cases hpayable : v = "payable".toList ∧ some w = some "address".toList
      · rw [if_pos hpayable, ih h.2]
      · rw [if_neg hpayable]
        simpa using not_isWordChar_of_isBlank (c := ' ') (by decide)

/-- Reading back what is written yields the resolved tokens. -/
theorem tokens_spellAfter (before : Option (List Char)) {ts : List Token}
    (h : ∀ t ∈ ts, t.WellFormed) : tokens (spellAfter before ts) = resolveAfter before ts := by
  induction ts generalizing before with
  | nil => rfl
  | cons t ts ih =>
    rw [List.forall_mem_cons] at h
    cases t with
    | mark c => rw [spellAfter, resolveAfter, tokens_cons_mark h.1.1 h.1.2, ih none h.2]
    | word w =>
      rw [spellAfter, resolveAfter]
      by_cases hpayable : w = "payable".toList ∧ before = some "address".toList
      · rw [if_pos hpayable, if_pos hpayable, ih before h.2]
      · rw [if_neg hpayable, if_neg hpayable]
        have hword : tokens (unabbreviate w ++ spellAfter (some w) ts) =
            .word (unabbreviate w) :: resolveAfter (some w) ts := by
          rw [tokens_word_append (isWord_unabbreviate h.1) (head_spellAfter_some h.2),
            ih (some w) h.2]
        cases before with
        | none => simpa using hword
        | some v => simpa [tokens_cons_blank (c := ' ') (by decide)] using hword

theorem tokens_canonical (name : String) :
    tokens (canonical name).toList = resolvedTokens name := by
  rw [canonical, String.toList_ofList, spell, tokens_spellAfter none (wellFormed_tokens _)]
  rfl

theorem resolvedTokens_eq_of_canonical_eq {s t : String} (h : canonical s = canonical t) :
    resolvedTokens s = resolvedTokens t := by
  rw [← tokens_canonical, ← tokens_canonical, h]

theorem resolveAfter_eq_nil_iff {w : List Char} {ts : List Token} :
    resolveAfter (some w) ts = [] ↔
      ∃ n, ts = List.replicate n (.word "payable".toList) ∧ (n = 0 ∨ w = "address".toList) := by
  induction ts with
  | nil => simp [resolveAfter]
  | cons t ts ih =>
    cases t with
    | mark c =>
      refine iff_of_false (by simp [resolveAfter]) ?_
      rintro ⟨n, hn, -⟩
      cases n <;> cases hn
    | word v =>
      rw [resolveAfter]
      split_ifs with hpayable
      · obtain ⟨rfl, hw⟩ := hpayable
        obtain rfl := Option.some.inj hw
        rw [ih]
        constructor
        · rintro ⟨n, rfl, -⟩
          exact ⟨n + 1, rfl, .inr rfl⟩
        · rintro ⟨n, hn, -⟩
          cases n with
          | zero => cases hn
          | succ n => exact ⟨n, (List.cons.inj hn).2, .inr rfl⟩
      · refine iff_of_false (by simp) ?_
        rintro ⟨n, hn, hw⟩
        cases n with
        | zero => cases hn
        | succ n =>
          have hv : v = "payable".toList := Token.word.inj (List.cons.inj hn).1
          exact hpayable ⟨hv, congrArg some (hw.resolve_left (by simp))⟩

/-- The names that are one word once the aliases are resolved: a word, and `address` with any
number of `payable` behind it. -/
theorem resolvedTokens_eq_word_iff {name : String} {w : List Char} :
    resolvedTokens name = [.word w] ↔ ∃ v n,
      tokens name.toList = .word v :: List.replicate n (.word "payable".toList) ∧
        (n = 0 ∨ v = "address".toList) ∧ unabbreviate v = w := by
  rw [resolvedTokens]
  cases tokens name.toList with
  | nil => simp [resolveAfter]
  | cons t ts =>
    cases t with
    | mark c => simp [resolveAfter]
    | word v =>
      rw [resolveAfter, if_neg (by simp), List.cons.injEq, Token.word.injEq,
        resolveAfter_eq_nil_iff]
      constructor
      · rintro ⟨hv, n, rfl, hn⟩
        exact ⟨v, n, rfl, hn, hv⟩
      · rintro ⟨_, n, heq, hn, hv⟩
        obtain ⟨hword, rfl⟩ := List.cons.inj heq
        obtain rfl := Token.word.inj hword
        exact ⟨hv, n, rfl, hn⟩

end StorageLayout.TypeName
