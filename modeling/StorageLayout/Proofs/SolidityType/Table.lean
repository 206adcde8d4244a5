import StorageLayout.Proofs.SolidityType.Widths
import StorageLayout.Proofs.Text.Numerals
import StorageLayout.Proofs.TypeName.Spacing

/-!
# The table of types

Which names denote which types. The table gives the width of an integer or of fixed bytes as a
decimal numeral, and every name that it does not list is unknown and takes a slot. Reading a name
follows the table with one exception: a plus sign in front of a width is passed over, with any
zeros behind it, so such a name takes no more bytes than the type it resembles.
-/

namespace StorageLayout.SolidityType

open StorageLayout.TypeName

/-- The types with a width, the stems of their names, and the widths there are. -/
inductive Widened : String → Nat → SolidityType → Prop
  | uint {bits : Nat} : 8 ≤ bits → bits ≤ 256 → bits % 8 = 0 → Widened "uint" bits (uint bits)
  | int {bits : Nat} : 8 ≤ bits → bits ≤ 256 → bits % 8 = 0 → Widened "int" bits (int bits)
  | fixedBytes {width : Nat} : 1 ≤ width → width ≤ slotBytes →
      Widened "bytes" width (fixedBytes width)

/-- The table lists the name: as a whole, or as a stem with a width. -/
def Listed (name : String) (t : SolidityType) : Prop :=
  (name, t) ∈ keywords ∨ ∃ stem width, Widened stem width t ∧ name = stem ++ toString width

/-- The name would be listed without the plus sign in front of its width and the zeros behind
the sign. -/
def Signed (name : String) (t : SolidityType) : Prop :=
  ∃ stem zeros width, Widened stem width t ∧
    name = stem ++ "+" ++ String.ofList (List.replicate zeros '0') ++ toString width

/-- The type that the table gives to a name in tidy spacing. -/
def Tabled (name : String) (t : SolidityType) : Prop :=
  if "mapping(".toList <+: name.toList then t = mapping
  else if "[]".toList <:+ name.toList then t = dynamicArray
  else Listed name t ∨ t = other name ∧ ∀ u, ¬ Listed name u

section Widths

variable {stem name : String} {s width : List Char} {t : SolidityType} {n : Nat}

/-- The text is read as `n`: it is the numeral, or a plus sign and digits that may start with
zeros. -/
def ReadAs (s : List Char) (n : Nat) : Prop :=
  s = Nat.toDigits 10 n ∨ ∃ zeros, s = '+' :: (List.replicate zeros '0' ++ Nat.toDigits 10 n)

theorem readAs_iff (hpos : 0 < n) :
    ReadAs s n ↔ numeral? s = some n ∧ s.head? ≠ some '0' := by
  rw [numeral?_eq_some_iff]
  constructor
  · intro h
    rcases h with rfl | ⟨zeros, rfl⟩
    · exact ⟨⟨_, .inl rfl, Nat.toDigits_ne_nil, fun _ => Text.isDigit_of_mem_toDigits,
        Text.numeral_toDigits n⟩, Text.head?_toDigits_ne_zero hpos⟩
    · have hdigits : ∀ c ∈ List.replicate zeros '0' ++ Nat.toDigits 10 n, c.isDigit = true := by
        intro c hc
        rcases List.mem_append.mp hc with hc | hc
        · rw [List.eq_of_mem_replicate hc]
          decide
        · exact Text.isDigit_of_mem_toDigits hc
      exact ⟨⟨_, .inr rfl, by simp [Nat.toDigits_ne_nil], hdigits, by simp⟩, by simp⟩
  · intro h
    obtain ⟨⟨digits, hs, -, hdigits, hn⟩, hhead⟩ := h
    obtain ⟨zeros, hzeros⟩ := Text.exists_zeros_append_toDigits hdigits hn hpos
    rcases hs with rfl | rfl
    · cases zeros with
      | zero => exact .inl hzeros
      | succ zeros =>
        rw [hzeros] at hhead
        exact absurd rfl hhead
    · exact .inr ⟨zeros, congrArg _ hzeros⟩

theorem integerWidth?_iff {bits : Nat} : integerWidth? width = some bits ↔
    8 ≤ bits ∧ bits ≤ 256 ∧ bits % 8 = 0 ∧ ReadAs width bits := by
  rw [integerWidth?_eq_some_iff]
  constructor
  · intro h
    obtain ⟨hn, hlow, hhigh, hmod, hhead⟩ := h
    exact ⟨hlow, hhigh, hmod, (readAs_iff (by omega)).mpr ⟨hn, hhead⟩⟩
  · intro h
    obtain ⟨hlow, hhigh, hmod, hread⟩ := h
    obtain ⟨hn, hhead⟩ := (readAs_iff (by omega)).mp hread
    exact ⟨hn, hlow, hhigh, hmod, hhead⟩

theorem byteWidth?_iff : byteWidth? width = some n ↔
    1 ≤ n ∧ n ≤ slotBytes ∧ ReadAs width n := by
  rw [byteWidth?_eq_some_iff]
  constructor
  · intro h
    obtain ⟨hn, hlow, hhigh, hhead⟩ := h
    exact ⟨hlow, hhigh, (readAs_iff hlow).mpr ⟨hn, hhead⟩⟩
  · intro h
    obtain ⟨hlow, hhigh, hread⟩ := h
    obtain ⟨hn, hhead⟩ := (readAs_iff hlow).mp hread
    exact ⟨hn, hlow, hhigh, hhead⟩

theorem hasWidth_iff : HasWidth stem width t ↔ ∃ n, Widened stem n t ∧ ReadAs width n := by
  constructor
  · intro h
    cases h with
    | uint h =>
      obtain ⟨hlow, hhigh, hmod, hread⟩ := integerWidth?_iff.mp h
      exact ⟨_, .uint hlow hhigh hmod, hread⟩
    | int h =>
      obtain ⟨hlow, hhigh, hmod, hread⟩ := integerWidth?_iff.mp h
      exact ⟨_, .int hlow hhigh hmod, hread⟩
    | fixedBytes h =>
      obtain ⟨hlow, hhigh, hread⟩ := byteWidth?_iff.mp h
      exact ⟨_, .fixedBytes hlow hhigh, hread⟩
  · intro h
    obtain ⟨n, hwidened, hread⟩ := h
    cases hwidened with
    | uint hlow hhigh hmod => exact .uint (integerWidth?_iff.mpr ⟨hlow, hhigh, hmod, hread⟩)
    | int hlow hhigh hmod => exact .int (integerWidth?_iff.mpr ⟨hlow, hhigh, hmod, hread⟩)
    | fixedBytes hlow hhigh => exact .fixedBytes (byteWidth?_iff.mpr ⟨hlow, hhigh, hread⟩)

theorem eq_append_toString_iff :
    name = stem ++ toString n ↔ name.toList = stem.toList ++ Nat.toDigits 10 n := by
  rw [← String.toList_inj, String.toList_append, Nat.toString_eq_repr, Nat.toList_repr]

theorem eq_append_plus_iff {zeros : Nat} :
    name = stem ++ "+" ++ String.ofList (List.replicate zeros '0') ++ toString n ↔
      name.toList = stem.toList ++ '+' :: (List.replicate zeros '0' ++ Nat.toDigits 10 n) := by
  rw [← String.toList_inj]
  simp [Nat.toString_eq_repr]

/-- A name ends in a width exactly if it is listed with it, or would be without the sign. -/
theorem exists_hasWidth_iff :
    (∃ stem width, name.toList = stem.toList ++ width ∧ HasWidth stem width t) ↔
      (∃ stem n, Widened stem n t ∧ name = stem ++ toString n) ∨ Signed name t := by
  simp only [hasWidth_iff]
  constructor
  · intro h
    obtain ⟨stem, width, hname, n, hwidened, rfl | ⟨zeros, rfl⟩⟩ := h
    · exact .inl ⟨stem, n, hwidened, eq_append_toString_iff.mpr hname⟩
    · exact .inr ⟨stem, zeros, n, hwidened, eq_append_plus_iff.mpr hname⟩
  · intro h
    rcases h with ⟨stem, n, hwidened, hname⟩ | ⟨stem, zeros, n, hwidened, hname⟩
    · exact ⟨stem, _, eq_append_toString_iff.mp hname, n, hwidened, .inl rfl⟩
    · exact ⟨stem, _, eq_append_plus_iff.mp hname, n, hwidened, .inr ⟨zeros, rfl⟩⟩

end Widths

section Reading

variable {name tidied : String} {t : SolidityType}

theorem listed_or_signed_iff : Listed name t ∨ Signed name t ↔ (name, t) ∈ keywords ∨
    ∃ stem width, name.toList = stem.toList ++ width ∧ HasWidth stem width t := by
  rw [exists_hasWidth_iff, Listed, or_assoc]

theorem ofElementaryName_of_mem_keywords (h : (name, t) ∈ keywords) :
    ofElementaryName name.toList = t := by
  have hkeywords : ∀ entry ∈ keywords, ofElementaryName entry.1.toList = entry.2 := by
    decide +kernel
  exact hkeywords (name, t) h

theorem ofElementaryName_of_listed (h : Listed name t ∨ Signed name t) :
    ofElementaryName name.toList = t := by
  rcases listed_or_signed_iff.mp h with hkeyword | ⟨stem, width, hname, hwidth⟩
  · exact ofElementaryName_of_mem_keywords hkeyword
  · rw [hname, ofElementaryName_of_hasWidth hwidth]

theorem ne_other_of_listed (h : Listed name t ∨ Signed name t) (text : String) :
    t ≠ other text := by
  rcases listed_or_signed_iff.mp h with hkeyword | ⟨stem, width, -, hwidth⟩
  · have hkeywords : ∀ entry ∈ keywords, entry.2.isUnknown = false := by decide
    have hknown := hkeywords (name, t) hkeyword
    intro hother
    rw [hother] at hknown
    cases hknown
  · cases hwidth <;> simp

/-- A name without brackets is read by the table, once plus signs are passed over. -/
theorem ofElementaryName_eq_iff : ofElementaryName name.toList = t ↔
    Listed name t ∨ Signed name t ∨ t = other name ∧ ∀ u, ¬ (Listed name u ∨ Signed name u) := by
  constructor
  · intro h
    rw [← or_assoc, listed_or_signed_iff]
    rcases ofElementaryName_cases name.toList with hkeyword | hwidth | hother
    · rw [String.ofList_toList, h] at hkeyword
      exact .inl (.inl hkeyword)
    · rw [h] at hwidth
      exact .inl (.inr hwidth)
    · rw [String.ofList_toList, h] at hother
      refine .inr ⟨hother, fun u hu => ?_⟩
      have hut : u = t := (ofElementaryName_of_listed hu).symm.trans h
      exact ne_other_of_listed hu name (hut.trans hother)
  · intro h
    rw [← or_assoc] at h
    rcases h with hlisted | ⟨rfl, hnone⟩
    · exact ofElementaryName_of_listed hlisted
    · rcases ofElementaryName_cases name.toList with hkeyword | hwidth | hother
      · rw [String.ofList_toList] at hkeyword
        exact absurd (listed_or_signed_iff.mpr (.inl hkeyword)) (hnone _)
      · exact absurd (listed_or_signed_iff.mpr (.inr hwidth)) (hnone _)
      · rw [hother, String.ofList_toList]

theorem not_isBracket_of_listed (h : Listed name t ∨ Signed name t) :
    ∀ c ∈ name.toList, isBracket c = false := by
  rcases listed_or_signed_iff.mp h with hkeyword | ⟨stem, width, hname, hwidth⟩
  · have hkeywords : ∀ entry ∈ keywords, entry.1.toList.all (!isBracket ·) = true := by decide
    simpa using hkeywords (name, t) hkeyword
  · intro c hc
    rw [hname] at hc
    rw [← Bool.not_eq_true]
    exact fun hbracket => hwidth.isWidth.bracket_notMem hbracket hc

theorem not_listed_of_isBracket (c : Char) (hbracket : isBracket c = true)
    (hc : c ∈ name.toList) : ¬ (Listed name t ∨ Signed name t) := by
  intro h
  rw [not_isBracket_of_listed h c hc] at hbracket
  cases hbracket

theorem plus_mem_of_signed (h : Signed name t) : '+' ∈ name.toList := by
  obtain ⟨stem, zeros, n, -, rfl⟩ := h
  simp

theorem plus_notMem_of_listed (h : Listed name t) : '+' ∉ name.toList := by
  rcases h with hkeyword | ⟨stem, n, hwidened, rfl⟩
  · have hkeywords : ∀ entry ∈ keywords, '+' ∉ entry.1.toList := by decide
    exact hkeywords (name, t) hkeyword
  · have hstem : '+' ∉ stem.toList := by cases hwidened <;> decide
    have hdigits : '+' ∉ Nat.toDigits 10 n := fun hmem =>
      absurd (Text.isDigit_of_mem_toDigits hmem) (by decide)
    rw [String.toList_append, Nat.toString_eq_repr, Nat.toList_repr, List.mem_append, not_or]
    exact ⟨hstem, hdigits⟩

theorem ofName_eq_of_tidy (h : tidy name.toList = tidied.toList) : ofName name =
    if "mapping(".toList <+: tidied.toList then mapping
    else if "[]".toList <:+ tidied.toList then dynamicArray
    else ofElementaryName tidied.toList := by
  simp only [ofName, h, List.isPrefixOf_iff_prefix, List.isSuffixOf_iff_suffix]

theorem ofName_of_listed (h : tidy name.toList = tidied.toList)
    (hlisted : Listed tidied t ∨ Signed tidied t) : ofName name = t := by
  have hbracket := not_isBracket_of_listed hlisted
  rw [← h] at hbracket
  rw [ofName_eq_ofElementaryName hbracket, h, ofElementaryName_of_listed hlisted]

theorem ofName_eq_iff (h : tidy name.toList = tidied.toList) :
    ofName name = t ↔ Signed tidied t ∨ (∀ u, ¬ Signed tidied u) ∧ Tabled tidied t := by
  rw [ofName_eq_of_tidy h, Tabled]
  split_ifs with hmapping harray
  · have hnone : ∀ u, ¬ Signed tidied u := fun u hu =>
      not_listed_of_isBracket '(' rfl (hmapping.subset (by decide)) (.inr hu)
    simp [hnone, eq_comm]
  · have hnone : ∀ u, ¬ Signed tidied u := fun u hu =>
      not_listed_of_isBracket ']' rfl (harray.subset (by decide)) (.inr hu)
    simp [hnone, eq_comm]
  · rw [ofElementaryName_eq_iff]
    constructor
    · intro ht
      rcases ht with hlisted | hsigned | ⟨hother, hnone⟩
      · exact .inr ⟨fun u hu => plus_notMem_of_listed hlisted (plus_mem_of_signed hu),
          .inl hlisted⟩
      · exact .inl hsigned
      · exact .inr ⟨fun u hu => hnone u (.inr hu), .inr ⟨hother, fun u hu => hnone u (.inl hu)⟩⟩
    · intro ht
      rcases ht with hsigned | ⟨hunsigned, hlisted | ⟨hother, hnone⟩⟩
      · exact .inr (.inl hsigned)
      · exact .inl hlisted
      · exact .inr (.inr ⟨hother, fun u hu => hu.elim (hnone u) (hunsigned u)⟩)

theorem ofName_cases (h : tidy name.toList = tidied.toList) :
    ofName name = mapping ∨ ofName name = dynamicArray ∨
      (Listed tidied (ofName name) ∨ Signed tidied (ofName name)) ∨
      ofName name = other tidied := by
  rw [ofName_eq_of_tidy h]
  split_ifs
  · exact .inl rfl
  · exact .inr (.inl rfl)
  · rcases ofElementaryName_eq_iff.mp rfl with hlisted | hsigned | ⟨hother, -⟩
    · exact .inr (.inr (.inl (.inl hlisted)))
    · exact .inr (.inr (.inl (.inr hsigned)))
    · exact .inr (.inr (.inr hother))

theorem size_ofName_lt_iff (h : tidy name.toList = tidied.toList) :
    (ofName name).size < slotBytes ↔
      ∃ t, (Listed tidied t ∨ Signed tidied t) ∧ t.size < slotBytes := by
  constructor
  · intro hsize
    have hslot : ∀ t : SolidityType, t.size = slotBytes → ofName name ≠ t := fun t ht hname =>
      absurd ht (hname ▸ Nat.ne_of_lt hsize)
    rcases ofName_cases h with hmapping | harray | hlisted | hother
    · exact absurd hmapping (hslot _ rfl)
    · exact absurd harray (hslot _ rfl)
    · exact ⟨_, hlisted, hsize⟩
    · exact absurd hother (hslot _ rfl)
  · intro hlisted
    obtain ⟨t, ht, hsize⟩ := hlisted
    rwa [ofName_of_listed h ht]

end Reading

/-- Reading a name follows the table but for plus signs. A name has one tidy spelling. If its width
has a sign there, it is read as if the sign and the zeros behind it were not there; every other
name is read as the type that the table gives to its tidy spelling. So nothing takes less than a
slot that is not listed, with or without a sign. -/
theorem ofName_eq_iff_tabled (name : String) :
    let tidied := String.ofList (tidy name.toList)
    (∀ w : String, w = tidied ↔ TidiedAfter none name.toList w.toList) ∧
      (∀ t, ofName name = t ↔
      Signed tidied t ∨ (∀ u, ¬ Signed tidied u) ∧ Tabled tidied t) ∧
      ((ofName name).size < slotBytes ↔
        ∃ t, (Listed tidied t ∨ Signed tidied t) ∧ t.size < slotBytes) := by
  intro tidied
  have htidied : tidy name.toList = tidied.toList := String.toList_ofList.symm
  refine ⟨fun w => ?_, fun t => ofName_eq_iff htidied, size_ofName_lt_iff htidied⟩
  rw [← tidy_eq_iff, htidied, String.toList_inj]
  exact eq_comm

/-- The table does not list a width with a plus sign, so the name is unknown by it and takes a
slot. It is read as an integer of one byte. -/
theorem plus_sign_undersizes :
    Tabled "uint+8" (other "uint+8") ∧ (other "uint+8").size = slotBytes ∧
      String.ofList (tidy "uint+8".toList) = "uint+8" ∧ ¬ Tabled "uint+8" (ofName "uint+8") ∧
      ofName "uint+8" = uint 8 ∧ (ofName "uint+8").size = 1 := by
  have hnone : ∀ u, ¬ Listed "uint+8" u := fun u hu => plus_notMem_of_listed hu (by decide)
  have hread : ofName "uint+8" = uint 8 := by decide +kernel
  have hother : ∀ t, Tabled "uint+8" t ↔ t = other "uint+8" := by
    intro t
    rw [Tabled, if_neg (by decide), if_neg (by decide)]
    simp [hnone]
  refine ⟨(hother _).mpr rfl, rfl, by decide +kernel, ?_, hread, by rw [hread]; rfl⟩
  rw [hother, hread]
  decide

end StorageLayout.SolidityType
