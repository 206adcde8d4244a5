import StorageLayout.Proofs.SolidityType.Size
import StorageLayout.Proofs.TypeName.Tokens

/-!
# Names with a width

The names that take less than a slot are `bool`, the two names of an address, and an integer or
byte type with a width behind its stem. Digits may have a plus sign in front of them.
-/

namespace StorageLayout.SolidityType

open StorageLayout.TypeName

theorem numeral?_eq_some_iff {s : List Char} {n : Nat} : numeral? s = some n ↔
    ∃ digits, (s = digits ∨ s = '+' :: digits) ∧ digits ≠ [] ∧
      (∀ c ∈ digits, c.isDigit = true) ∧ Text.numeral 10 digits = n := by
  have hdigits : ∀ digits : List Char,
      (if digits ≠ [] ∧ digits.all Char.isDigit then some (Text.numeral 10 digits) else none) =
        some n ↔ digits ≠ [] ∧ (∀ c ∈ digits, c.isDigit = true) ∧ Text.numeral 10 digits = n := by
    intro digits
    rw [Option.ite_none_right_eq_some, List.all_eq_true, Option.some.injEq, and_assoc]
  rw [numeral?]
  by_cases hplus : s.head? = some '+'
  · rw [if_pos hplus]
    obtain ⟨digits, rfl⟩ : ∃ digits, s = '+' :: digits := by
      cases s with
      | nil => simp at hplus
      | cons c cs => exact ⟨cs, by simpa using hplus⟩
    rw [List.tail_cons, hdigits]
    constructor
    · intro h
      exact ⟨digits, .inr rfl, h⟩
    · rintro ⟨ds, rfl | hds, h⟩
      · exact absurd (h.2.1 '+' List.mem_cons_self) (by decide)
      · exact (List.cons.inj hds).2 ▸ h
  · rw [if_neg hplus, hdigits]
    constructor
    · intro h
      exact ⟨s, .inl rfl, h⟩
    · rintro ⟨ds, rfl | rfl, h⟩
      · exact h
      · exact absurd rfl hplus

/-- `width` is a width that gives the types of this stem so many bytes. -/
def IsWidth (stem width : List Char) (size : Nat) : Prop :=
  (stem = "uint".toList ∨ stem = "int".toList) ∧ integerWidth? width = some (8 * size) ∨
    stem = "bytes".toList ∧ byteWidth? width = some size

namespace IsWidth

variable {stem width : List Char} {size : Nat}

theorem stem_cases (h : IsWidth stem width size) :
    stem = "uint".toList ∨ stem = "int".toList ∨ stem = "bytes".toList := by
  rcases h with ⟨h | h, -⟩ | ⟨h, -⟩
  · exact .inl h
  · exact .inr (.inl h)
  · exact .inr (.inr h)

theorem exists_digits (h : IsWidth stem width size) :
    ∃ digits, (width = digits ∨ width = '+' :: digits) ∧ digits ≠ [] ∧
      ∀ c ∈ digits, c.isDigit = true := by
  have hnumeral : ∃ n, numeral? width = some n := by
    rcases h with ⟨-, h⟩ | ⟨-, h⟩
    · exact ⟨_, (integerWidth?_eq_some_iff.mp h).1⟩
    · exact ⟨_, (byteWidth?_eq_some_iff.mp h).1⟩
  obtain ⟨n, hn⟩ := hnumeral
  obtain ⟨digits, hwidth, hne, hdigits, -⟩ := numeral?_eq_some_iff.mp hn
  exact ⟨digits, hwidth, hne, hdigits⟩

theorem digits_of_plus {digits : List Char} (h : IsWidth stem ('+' :: digits) size) :
    digits ≠ [] ∧ ∀ c ∈ digits, c.isDigit = true := by
  obtain ⟨ds, rfl | hds, hne, hdigits⟩ := h.exists_digits
  · exact absurd (hdigits '+' List.mem_cons_self) (by decide)
  · obtain rfl := (List.cons.inj hds).2
    exact ⟨hne, hdigits⟩

theorem exists_digit (h : IsWidth stem width size) : ∃ c ∈ width, c.isDigit = true := by
  obtain ⟨digits, hwidth, hne, hdigits⟩ := h.exists_digits
  obtain ⟨c, hc⟩ := List.exists_mem_of_ne_nil digits hne
  refine ⟨c, ?_, hdigits c hc⟩
  rcases hwidth with rfl | rfl
  · exact hc
  · exact List.mem_cons_of_mem _ hc

theorem isWord_stem (h : IsWidth stem width size) : IsWord stem := by
  rcases h.stem_cases with rfl | rfl | rfl <;> decide +kernel

theorem bracket_notMem (h : IsWidth stem width size) {c : Char} (hc : isBracket c = true) :
    c ∉ stem ++ width := by
  have hword : isWordChar c = false := not_isWordChar_of_isBracket hc
  obtain ⟨digits, hwidth, -, hdigits⟩ := h.exists_digits
  have hdigit : c ∉ digits := by
    intro hmem
    simp [isWordChar_of_isDigit (hdigits c hmem)] at hword
  rw [List.mem_append, not_or]
  constructor
  · intro hmem
    simp [h.isWord_stem.isWordChar_of_mem hmem] at hword
  · rcases hwidth with rfl | rfl
    · exact hdigit
    · rw [List.mem_cons, not_or]
      refine ⟨?_, hdigit⟩
      rintro rfl
      exact absurd hc (by decide)

end IsWidth

theorem ofName_eq_ofElementaryName {name : String}
    (h : ∀ c ∈ tidy name.toList, isBracket c = false) :
    ofName name = ofElementaryName (tidy name.toList) := by
  have hmapping : ¬ "mapping(".toList.isPrefixOf (tidy name.toList) := by
    rw [List.isPrefixOf_iff_prefix]
    intro hstart
    exact absurd (h '(' (hstart.subset (by decide))) (by decide)
  have harray : ¬ "[]".toList.isSuffixOf (tidy name.toList) := by
    rw [List.isSuffixOf_iff_suffix]
    intro hstop
    exact absurd (h ']' (hstop.subset (by decide))) (by decide)
  unfold ofName
  dsimp only
  rw [if_neg hmapping, if_neg harray]

theorem dropStem?_append (stem : String) (width : List Char) :
    dropStem? stem (stem.toList ++ width) = some width := by
  simp [dropStem?, ← String.length_toList]

theorem exists_width_of_bind_eq_some {stem : String} {s : List Char} {n : Nat}
    {width? : List Char → Option Nat} (h : (dropStem? stem s).bind width? = some n) :
    ∃ width, s = stem.toList ++ width ∧ width? width = some n := by
  obtain ⟨width, hdrop, hwidth⟩ := Option.bind_eq_some_iff.mp h
  rw [dropStem?, Option.ite_none_right_eq_some] at hdrop
  obtain ⟨hstart, hrest⟩ := hdrop
  obtain ⟨rest, rfl⟩ := List.isPrefixOf_iff_prefix.mp hstart
  exact ⟨width, by simpa [← String.length_toList] using hrest, hwidth⟩

/-- The names of the fixed table, none of which has a width. -/
def keywords : List (String × SolidityType) :=
  [("bool", bool), ("address", address), ("address payable", address), ("bytes", bytes),
    ("string", string), ("uint", uint 256), ("int", int 256)]

inductive HasWidth : String → List Char → SolidityType → Prop
  | uint {width : List Char} {bits : Nat} :
      integerWidth? width = some bits → HasWidth "uint" width (uint bits)
  | int {width : List Char} {bits : Nat} :
      integerWidth? width = some bits → HasWidth "int" width (int bits)
  | fixedBytes {width : List Char} {n : Nat} :
      byteWidth? width = some n → HasWidth "bytes" width (fixedBytes n)

section Elementary

variable {stem : String} {width s : List Char} {t : SolidityType} {n : Nat}

theorem integerWidth?_eq_eight_mul {bits : Nat} (h : integerWidth? width = some bits) :
    integerWidth? width = some (8 * (uint bits).size) := by
  obtain ⟨-, -, hhigh, hmod, -⟩ := integerWidth?_eq_some_iff.mp h
  rw [h, Option.some.injEq, size]
  omega

theorem HasWidth.isWidth (h : HasWidth stem width t) : IsWidth stem.toList width t.size := by
  cases h with
  | uint h => exact .inl ⟨.inl rfl, integerWidth?_eq_eight_mul h⟩
  | int h => exact .inl ⟨.inr rfl, integerWidth?_eq_eight_mul h⟩
  | fixedBytes h => exact .inr ⟨rfl, h⟩

theorem ofElementaryName_of_hasWidth (h : HasWidth stem width t) :
    ofElementaryName (stem.toList ++ width) = t := by
  obtain ⟨c, hc, hdigit⟩ := h.isWidth.exists_digit
  -- the names of the fixed table have no digits
  have hkeyword : ∀ keyword : List Char, keyword.all (!·.isDigit) = true →
      stem.toList ++ width ≠ keyword := by
    rintro keyword hkeyword rfl
    have hno := List.all_eq_true.mp hkeyword c (List.mem_append_right _ hc)
    simp [hdigit] at hno
  unfold ofElementaryName
  rw [if_neg (hkeyword _ (by decide)),
    if_neg (not_or.mpr ⟨hkeyword _ (by decide), hkeyword _ (by decide)⟩),
    if_neg (hkeyword _ (by decide)), if_neg (hkeyword _ (by decide)),
    if_neg (hkeyword _ (by decide)), if_neg (hkeyword _ (by decide))]
  cases h with
  | uint hwidth => rw [dropStem?_append, Option.bind_some, hwidth]
  | int hwidth =>
    have huint : dropStem? "uint" ("int".toList ++ width) = none := by simp [dropStem?]
    rw [huint, Option.bind_none, dropStem?_append, Option.bind_some, hwidth]
  | fixedBytes hwidth =>
    have huint : dropStem? "uint" ("bytes".toList ++ width) = none := by simp [dropStem?]
    have hint : dropStem? "int" ("bytes".toList ++ width) = none := by simp [dropStem?]
    rw [huint, hint, Option.bind_none, dropStem?_append, Option.bind_some, hwidth]

theorem size_ofElementaryName_of_isWidth {stem : List Char} (h : IsWidth stem width n) :
    (ofElementaryName (stem ++ width)).size = n := by
  rcases h with ⟨rfl | rfl, hwidth⟩ | ⟨rfl, hwidth⟩
  · have := (integerWidth?_eq_some_iff.mp hwidth).2.2.1
    rw [ofElementaryName_of_hasWidth (.uint hwidth), size]
    omega
  · have := (integerWidth?_eq_some_iff.mp hwidth).2.2.1
    rw [ofElementaryName_of_hasWidth (.int hwidth), size]
    omega
  · rw [ofElementaryName_of_hasWidth (.fixedBytes hwidth), size]

/-- A name in tidy spacing is in the fixed table, or it ends in a width, or it is unknown. -/
theorem ofElementaryName_cases (s : List Char) :
    (String.ofList s, ofElementaryName s) ∈ keywords ∨
      (∃ stem width, s = stem.toList ++ width ∧ HasWidth stem width (ofElementaryName s)) ∨
      ofElementaryName s = other (String.ofList s) := by
  unfold ofElementaryName
  split_ifs with hbool haddress hbytes hstring huint hint
  · exact .inl (by simp [hbool, keywords])
  · rcases haddress with rfl | rfl
    · exact .inl (by simp [keywords])
    · exact .inl (by simp [keywords])
  · exact .inl (by simp [hbytes, keywords])
  · exact .inl (by simp [hstring, keywords])
  · exact .inl (by simp [huint, keywords])
  · exact .inl (by simp [hint, keywords])
  · right
    cases hunsigned : (dropStem? "uint" s).bind integerWidth? with
    | some bits =>
      obtain ⟨width, hs, hwidth⟩ := exists_width_of_bind_eq_some hunsigned
      exact .inl ⟨_, width, hs, .uint hwidth⟩
    | none =>
      cases hsigned : (dropStem? "int" s).bind integerWidth? with
      | some bits =>
        obtain ⟨width, hs, hwidth⟩ := exists_width_of_bind_eq_some hsigned
        exact .inl ⟨_, width, hs, .int hwidth⟩
      | none =>
        cases hfixed : (dropStem? "bytes" s).bind byteWidth? with
        | some n =>
          obtain ⟨width, hs, hwidth⟩ := exists_width_of_bind_eq_some hfixed
          exact .inl ⟨_, width, hs, .fixedBytes hwidth⟩
        | none => exact .inr rfl

theorem mem_of_mem_keywords_of_size_ne (h : (String.ofList s, t) ∈ keywords)
    (hsize : t.size ≠ slotBytes) :
    s ∈ ["bool".toList, "address".toList, "address payable".toList] := by
  have hsmall : ∀ entry ∈ keywords, entry.2.size ≠ slotBytes →
      entry.1 ∈ ["bool", "address", "address payable"] := by decide
  have hmem := hsmall _ h hsize
  simpa [String.ext_iff] using hmem

end Elementary

theorem sizeOfName_eq_of_isWidth {name : String} {stem width : List Char} {size : Nat}
    (htidy : tidy name.toList = stem ++ width) (h : IsWidth stem width size) :
    sizeOfName name = size := by
  have hbracket : ∀ c ∈ tidy name.toList, isBracket c = false := by
    intro c hc
    by_contra hcontra
    rw [htidy] at hc
    exact h.bracket_notMem (by simpa using hcontra) hc
  rw [sizeOfName, ofName_eq_ofElementaryName hbracket, htidy, size_ofElementaryName_of_isWidth h]

theorem elementary_cases_of_size_ne {s : List Char}
    (h : (ofElementaryName s).size ≠ slotBytes) :
    s ∈ ["bool".toList, "address".toList, "address payable".toList] ∨
      ∃ stem width n, s = stem ++ width ∧ IsWidth stem width n := by
  rcases ofElementaryName_cases s with hkeyword | ⟨stem, width, hs, hwidth⟩ | hother
  · exact .inl (mem_of_mem_keywords_of_size_ne hkeyword h)
  · exact .inr ⟨_, width, _, hs, hwidth.isWidth⟩
  · rw [hother] at h
    exact absurd rfl h

theorem tidy_cases_of_size_ne {name : String} (h : sizeOfName name ≠ slotBytes) :
    tidy name.toList ∈ ["bool".toList, "address".toList, "address payable".toList] ∨
      ∃ stem width, tidy name.toList = stem ++ width ∧ IsWidth stem width (sizeOfName name) := by
  have helementary : (ofElementaryName (tidy name.toList)).size ≠ slotBytes := by
    unfold sizeOfName ofName at h
    dsimp only at h
    split_ifs at h
    · exact absurd rfl h
    · exact absurd rfl h
    · exact h
  rcases elementary_cases_of_size_ne helementary with hfixed | ⟨stem, width, n, htidy, hwidth⟩
  · exact .inl hfixed
  · obtain rfl := sizeOfName_eq_of_isWidth htidy hwidth
    exact .inr ⟨stem, width, htidy, hwidth⟩

end StorageLayout.SolidityType
