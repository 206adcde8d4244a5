import Mathlib.Data.List.Basic
import StorageLayout.Text.Basic

/-!
# Decimal numerals

Every number has one decimal numeral without zeros in front. Any other text of digits that denotes
the number is that numeral with zeros in front of it.
-/

namespace StorageLayout.Text

variable {c : Char} {digits : List Char} {n : Nat}

theorem digit_bounds (h : c.isDigit = true) : '0'.toNat ≤ c.toNat ∧ c.toNat ≤ '9'.toNat := by
  simpa [Char.isDigit, UInt32.le_iff_toNat_le] using h

theorem numeral_eq_ofDigitChars (h : ∀ c ∈ digits, c.isDigit = true) :
    numeral 10 digits = Nat.ofDigitChars 10 digits 0 := by
  rw [numeral, Nat.ofDigitChars_eq_foldl]
  apply List.foldl_ext
  intro n c hc
  rw [digitValue, digit?, if_pos (h c hc), Option.getD_some]

theorem isDigit_of_mem_toDigits (h : c ∈ Nat.toDigits 10 n) : c.isDigit = true :=
  Nat.isDigit_of_mem_toDigits (by decide) (by decide) h

@[simp] theorem numeral_toDigits (n : Nat) : numeral 10 (Nat.toDigits 10 n) = n := by
  rw [numeral_eq_ofDigitChars fun _ => isDigit_of_mem_toDigits, Nat.ofDigitChars_ten_toDigits]

@[simp] theorem numeral_zeros_append (zeros : Nat) (digits : List Char) :
    numeral 10 (List.replicate zeros '0' ++ digits) = numeral 10 digits := by
  induction zeros with
  | zero => rfl
  | succ zeros ih => exact ih

theorem toDigits_digit (h : c.isDigit = true) : Nat.toDigits 10 (c.toNat - '0'.toNat) = [c] := by
  obtain ⟨hlow, hhigh⟩ := digit_bounds h
  have hlt : c.toNat - '0'.toNat < 10 := by
    have hnine : '9'.toNat = '0'.toNat + 9 := rfl
    omega
  have hchar : (c.toNat - '0'.toNat).digitChar = c := by
    apply Char.toNat_inj.mp
    rw [Nat.toNat_digitChar_of_lt_ten hlt]
    exact Nat.add_sub_cancel' hlow
  rw [Nat.toDigits_of_lt_base hlt, hchar]

/-- Digits behind the numeral of a positive number make up a longer numeral. -/
theorem toDigits_append (h : ∀ c ∈ digits, c.isDigit = true) (hn : 0 < n) :
    Nat.toDigits 10 n ++ digits = Nat.toDigits 10 (Nat.ofDigitChars 10 digits n) := by
  induction digits generalizing n with
  | nil => simp
  | cons c cs ih =>
    rw [List.forall_mem_cons] at h
    have hlt : c.toNat - '0'.toNat < 10 := by
      obtain ⟨-, hhigh⟩ := digit_bounds h.1
      have hnine : '9'.toNat = '0'.toNat + 9 := rfl
      omega
    have hstep := Nat.toDigits_append_toDigits (by decide) hn hlt
    rw [toDigits_digit h.1] at hstep
    rw [Nat.ofDigitChars_cons, ← ih h.2 (by omega), ← hstep, List.append_assoc,
      List.singleton_append]

/-- Digits that denote a positive number are its numeral, with zeros in front. -/
theorem exists_zeros_append_toDigits (h : ∀ c ∈ digits, c.isDigit = true)
    (hn : numeral 10 digits = n) (hpos : 0 < n) :
    ∃ zeros, digits = List.replicate zeros '0' ++ Nat.toDigits 10 n := by
  rw [numeral_eq_ofDigitChars h] at hn
  induction digits with
  | nil =>
    rw [Nat.ofDigitChars_nil] at hn
    omega
  | cons c cs ih =>
    rw [List.forall_mem_cons] at h
    rw [Nat.ofDigitChars_cons, Nat.mul_zero, Nat.zero_add] at hn
    by_cases hc : c = '0'
    · subst hc
      obtain ⟨zeros, hcs⟩ := ih h.2 hn
      exact ⟨zeros + 1, congrArg _ hcs⟩
    · have hvalue : 0 < c.toNat - '0'.toNat := by
        have hne : c.toNat ≠ '0'.toNat := mt Char.toNat_inj.mp hc
        have hlow := (digit_bounds h.1).1
        omega
      have happend := toDigits_append h.2 hvalue
      rw [toDigits_digit h.1, hn] at happend
      exact ⟨0, happend⟩

theorem head?_toDigits_ne_zero (hpos : 0 < n) : (Nat.toDigits 10 n).head? ≠ some '0' := by
  intro hhead
  obtain ⟨cs, hcs⟩ := List.head?_eq_some_iff.mp hhead
  have hdigits : ∀ c ∈ cs, c.isDigit = true := by
    intro c hc
    apply isDigit_of_mem_toDigits (n := n)
    rw [hcs]
    exact List.mem_cons_of_mem _ hc
  have hn : numeral 10 ('0' :: cs) = n := hcs ▸ numeral_toDigits n
  -- Without its zero the numeral would still denote `n`, and so it would be part of itself.
  obtain ⟨zeros, happend⟩ := exists_zeros_append_toDigits hdigits hn hpos
  have hlength := congrArg List.length happend
  rw [hcs, List.length_append, List.length_cons] at hlength
  omega

end StorageLayout.Text
