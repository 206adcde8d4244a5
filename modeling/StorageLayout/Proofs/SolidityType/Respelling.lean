import Mathlib.Data.List.Forall2
import StorageLayout.Proofs.Layout.Calculated
import StorageLayout.Proofs.SolidityType.Widths
import StorageLayout.Proofs.TypeName.Canonical

/-!
# Sizes of respelled types

Names with one canonical spelling name one type, but they are read as a type by another path, and
that path is not blind to spelling in two places. A plus sign in front of a width is passed over
when it follows the stem at once and makes the name an unknown type otherwise. And an address with
more than one `payable` is an unknown type, while its canonical spelling is that of an address. In
all other respects names with one canonical spelling take the same number of bytes.
-/

namespace StorageLayout

namespace SolidityType

open StorageLayout.TypeName

/-- The name is a stem with a plus sign and a width that takes less than a slot. -/
def SignedWidth (name : String) : Prop :=
  ∃ stem digits size, tidy name.toList = stem ++ '+' :: digits ∧
    IsWidth stem ('+' :: digits) size ∧ size < slotBytes

/-- The name is `address` with more than one `payable` behind it. -/
def RepeatsPayable (name : String) : Prop :=
  ∃ n, tokens name.toList =
    .word "address".toList :: List.replicate (n + 2) (.word "payable".toList)

/-- The names do not differ in what the reading of a type sees and a canonical spelling does
not. -/
def ReadsLike (s t : String) : Prop :=
  (SignedWidth s ↔ SignedWidth t) ∧ (RepeatsPayable s ↔ RepeatsPayable t)

/-- The size that resolved tokens suggest: that of the type their only word names, or a slot. -/
def sizeOfTokens : List Token → Nat
  | [.word w] => sizeOfName (String.ofList w)
  | _ => slotBytes

section

variable {name s t : String} {w : List Char}

theorem sizeOfName_congr (h : tidy s.toList = tidy t.toList) : sizeOfName s = sizeOfName t := by
  rw [sizeOfName, sizeOfName, ofName, ofName, h]

theorem sizeOfName_of_tokens_eq_word (h : tokens name.toList = [.word w]) :
    sizeOfName name = sizeOfName (String.ofList (unabbreviate w)) := by
  have hself : sizeOfName name = sizeOfName (String.ofList w) := by
    apply sizeOfName_congr
    have htidy : tidy name.toList = w := tidy_of_tokens_eq_word h
    have htokens : tokens w = [.word w] := by rw [← h, ← tokens_tidy name.toList, htidy]
    rw [htidy, String.toList_ofList, tidy_of_tokens_eq_word htokens]
  rw [hself, unabbreviate]
  split_ifs with huint hint
  · rw [huint]
    decide +kernel
  · rw [hint]
    decide +kernel
  · rfl

theorem sizeOfName_of_tokens_eq_payable
    (h : tokens name.toList = [.word "address".toList, .word "payable".toList]) :
    sizeOfName name = sizeOfName "address payable" := by
  apply sizeOfName_congr
  have htidy : tidy name.toList =
      tighten ([' '].intercalate ["address".toList, "payable".toList]) :=
    tidy_of_tokens_eq_map_word h
  rw [htidy]
  decide +kernel

theorem tokens_cases_of_size_ne (h : sizeOfName name ≠ slotBytes) :
    (∃ w, tokens name.toList = [.word w]) ∨
      tokens name.toList = [.word "address".toList, .word "payable".toList] ∨
      SignedWidth name := by
  rcases tidy_cases_of_size_ne h with hfixed | ⟨stem, width, htidy, hwidth⟩
  · rw [← tokens_tidy name.toList]
    simp only [List.mem_cons, List.not_mem_nil, or_false] at hfixed
    rcases hfixed with hbool | haddress | hpayable
    · rw [hbool]
      exact .inl ⟨_, tokens_word (by decide +kernel)⟩
    · rw [haddress]
      exact .inl ⟨_, tokens_word (by decide +kernel)⟩
    · rw [hpayable]
      exact .inr (.inl (by decide +kernel))
  · obtain ⟨digits, rfl | rfl, hne, hdigits⟩ := hwidth.exists_digits
    · left
      rw [← tokens_tidy name.toList, htidy]
      exact ⟨_, tokens_word (hwidth.isWord_stem.append (isWord_of_isDigit hne hdigits))⟩
    · have hle : sizeOfName name ≤ slotBytes := (fitsSlot_ofName name).2
      exact .inr (.inr ⟨stem, digits, _, htidy, hwidth, by omega⟩)

/-- Apart from the two exceptions the canonical spelling decides the size. -/
theorem sizeOfName_eq_sizeOfTokens (hsigned : ¬ SignedWidth name)
    (hrepeats : ¬ RepeatsPayable name) :
    sizeOfName name = sizeOfTokens (resolvedTokens name) := by
  by_cases hword : ∃ w, resolvedTokens name = [.word w]
  · obtain ⟨w, hw⟩ := hword
    rw [hw, sizeOfTokens]
    obtain ⟨v, n, htokens, hpayable, rfl⟩ := resolvedTokens_eq_word_iff.mp hw
    match n with
    | 0 => exact sizeOfName_of_tokens_eq_word htokens
    | 1 =>
      obtain rfl := hpayable.resolve_left (by decide)
      rw [sizeOfName_of_tokens_eq_payable htokens]
      decide +kernel
    | n + 2 =>
      obtain rfl := hpayable.resolve_left (by simp)
      exact absurd ⟨n, htokens⟩ hrepeats
  · have hslot : sizeOfTokens (resolvedTokens name) = slotBytes := by
      match htokens : resolvedTokens name with
      | [.word w] => exact absurd ⟨w, htokens⟩ hword
      | [] | .mark _ :: _ | .word _ :: _ :: _ => rfl
    rw [hslot]
    by_contra hsize
    apply hword
    rcases tokens_cases_of_size_ne hsize with ⟨w, hw⟩ | hpayable | h
    · exact ⟨_, resolvedTokens_eq_word_iff.mpr ⟨w, 0, hw, .inl rfl, rfl⟩⟩
    · exact ⟨_, resolvedTokens_eq_word_iff.mpr ⟨_, 1, hpayable, .inr rfl, rfl⟩⟩
    · exact absurd h hsigned

theorem RepeatsPayable.resolvedTokens_eq (h : RepeatsPayable name) :
    resolvedTokens name = [.word "address".toList] := by
  obtain ⟨n, hn⟩ := h
  exact resolvedTokens_eq_word_iff.mpr ⟨_, n + 2, hn, .inr rfl, by decide⟩

theorem SignedWidth.size_lt (h : SignedWidth name) : sizeOfName name < slotBytes := by
  obtain ⟨stem, digits, size, htidy, hwidth, hlt⟩ := h
  rw [sizeOfName_eq_of_isWidth htidy hwidth]
  exact hlt

theorem unabbreviate_digits {digits : List Char} (h : ∀ c ∈ digits, c.isDigit = true) :
    unabbreviate digits = digits := by
  have hletter : ∀ keyword : List Char, keyword.any (!·.isDigit) = true → digits ≠ keyword := by
    rintro keyword hkeyword rfl
    obtain ⟨c, hc, hdigit⟩ := List.any_eq_true.mp hkeyword
    simp [h c hc] at hdigit
  rw [unabbreviate, if_neg (hletter _ (by decide)), if_neg (hletter _ (by decide))]

theorem resolvedTokens_of_plus {stem digits : List Char} {n : Nat}
    (htidy : tidy name.toList = stem ++ '+' :: digits) (h : IsWidth stem ('+' :: digits) n) :
    resolvedTokens name = [.word (unabbreviate stem), .mark '+', .word digits] := by
  obtain ⟨hne, hdigits⟩ := h.digits_of_plus
  have hplus : ('+' :: digits).head?.any isWordChar = false := by
    change isWordChar '+' = false
    decide
  have hword : IsWord digits := isWord_of_isDigit hne hdigits
  have htokens : tokens name.toList = [.word stem, .mark '+', .word digits] := by
    rw [← tokens_tidy name.toList, htidy,
      tokens_word_append h.isWord_stem hplus, tokens_cons_mark (by decide) (by decide),
      tokens_word hword]
  simp [resolvedTokens, htokens, resolveAfter, unabbreviate_digits hdigits]

theorem SignedWidth.not_repeatsPayable (h : SignedWidth s)
    (ht : resolvedTokens s = resolvedTokens t) : ¬ RepeatsPayable t := by
  intro hrepeats
  obtain ⟨stem, digits, size, htidy, hwidth, -⟩ := h
  rw [hrepeats.resolvedTokens_eq, resolvedTokens_of_plus htidy hwidth] at ht
  simp at ht

theorem RepeatsPayable.size_eq (h : RepeatsPayable name) : sizeOfName name = slotBytes := by
  by_contra hsize
  rcases tokens_cases_of_size_ne hsize with ⟨w, hw⟩ | hpayable | hsigned
  · obtain ⟨n, hn⟩ := h
    have hlength := congrArg List.length (hn.symm.trans hw)
    simp at hlength
  · obtain ⟨n, hn⟩ := h
    have hlength := congrArg List.length (hn.symm.trans hpayable)
    simp at hlength
  · exact hsigned.not_repeatsPayable rfl h

theorem IsWidth.stem_eq_of_unabbreviate_eq {stem stem' width width' : List Char} {n n' : Nat}
    (h : IsWidth stem width n) (h' : IsWidth stem' width' n')
    (heq : unabbreviate stem = unabbreviate stem') : stem = stem' := by
  have hstems : ∀ v ∈ ["uint".toList, "int".toList, "bytes".toList],
      ∀ w ∈ ["uint".toList, "int".toList, "bytes".toList],
        unabbreviate v = unabbreviate w → v = w := by decide
  exact hstems stem (by simpa using h.stem_cases) stem' (by simpa using h'.stem_cases) heq

theorem SignedWidth.size_eq (hs : SignedWidth s) (ht : SignedWidth t)
    (h : resolvedTokens s = resolvedTokens t) : sizeOfName s = sizeOfName t := by
  obtain ⟨stem, digits, size, htidy, hwidth, -⟩ := hs
  obtain ⟨stem', digits', size', htidy', hwidth', -⟩ := ht
  rw [resolvedTokens_of_plus htidy hwidth, resolvedTokens_of_plus htidy' hwidth'] at h
  obtain ⟨hstem, hdigits⟩ : unabbreviate stem = unabbreviate stem' ∧ digits = digits' := by
    simpa using h
  apply sizeOfName_congr
  rw [htidy, htidy', hwidth.stem_eq_of_unabbreviate_eq hwidth' hstem, hdigits]

theorem SignedWidth.size_ne (hs : SignedWidth s) (ht : ¬ SignedWidth t)
    (h : resolvedTokens s = resolvedTokens t) : sizeOfName s ≠ sizeOfName t := by
  have hplain : sizeOfName t = sizeOfTokens (resolvedTokens t) :=
    sizeOfName_eq_sizeOfTokens ht (hs.not_repeatsPayable h)
  have hlt := hs.size_lt
  obtain ⟨stem, digits, size, htidy, hwidth, -⟩ := hs
  rw [← h, resolvedTokens_of_plus htidy hwidth] at hplain
  rw [hplain]
  exact hlt.ne

theorem RepeatsPayable.size_ne (hs : RepeatsPayable s) (ht : ¬ RepeatsPayable t)
    (h : resolvedTokens s = resolvedTokens t) : sizeOfName s ≠ sizeOfName t := by
  have hunsigned : ¬ SignedWidth t := fun hsigned => hsigned.not_repeatsPayable h.symm hs
  rw [hs.size_eq, sizeOfName_eq_sizeOfTokens hunsigned ht, ← h, hs.resolvedTokens_eq]
  decide +kernel

theorem sizeOfName_eq_iff (h : canonical s = canonical t) :
    sizeOfName s = sizeOfName t ↔ ReadsLike s t := by
  have htokens := resolvedTokens_eq_of_canonical_eq h
  constructor
  · intro hsize
    refine ⟨⟨fun hs => ?_, fun ht => ?_⟩, ⟨fun hs => ?_, fun ht => ?_⟩⟩
    · by_contra ht
      exact hs.size_ne ht htokens hsize
    · by_contra hs
      exact ht.size_ne hs htokens.symm hsize.symm
    · by_contra ht
      exact hs.size_ne ht htokens hsize
    · by_contra hs
      exact ht.size_ne hs htokens.symm hsize.symm
  · rintro ⟨hsigned, hrepeats⟩
    by_cases hs : SignedWidth s
    · exact hs.size_eq (hsigned.mp hs) htokens
    · by_cases hr : RepeatsPayable s
      · rw [hr.size_eq, (hrepeats.mp hr).size_eq]
      · have ht : ¬ SignedWidth t := fun ht => hs (hsigned.mpr ht)
        have hrt : ¬ RepeatsPayable t := fun hrt => hr (hrepeats.mpr hrt)
        rw [sizeOfName_eq_sizeOfTokens hs hr, sizeOfName_eq_sizeOfTokens ht hrt, htokens]

end

end SolidityType

open StorageLayout.TypeName SolidityType

/-- The declarations differ at most in how their type is spelled. -/
def Declaration.Respells (d e : Declaration) : Prop :=
  d.name = e.name ∧ d.isConstant = e.isConstant ∧ d.isImmutable = e.isImmutable ∧
    canonical d.typeName = canonical e.typeName

namespace Contract

variable (a b : Contract)

theorem size_eq_of_mem_layout {c : Contract} {v : Variable} (h : v ∈ c.layout.vars) :
    v.size = sizeOfName v.typeName := by
  obtain ⟨d, -, -, htype, hsize⟩ := exists_declaration_of_mem_layout h
  rw [← hsize, htype]

variable {a b} in
theorem storageDeclarations_respell
    (h : List.Forall₂ Declaration.Respells a.declarations b.declarations) :
    List.Forall₂ Declaration.Respells a.storageDeclarations b.storageDeclarations := by
  apply List.rel_filter _ h
  rintro d e ⟨-, hconstant, himmutable, -⟩
  simp [Declaration.occupiesStorage, hconstant, himmutable]

theorem map_size_eq_iff_of_respells {ds es : List Declaration}
    (h : List.Forall₂ Declaration.Respells ds es) :
    ds.map (sizeOfName ·.typeName) = es.map (sizeOfName ·.typeName) ↔
      List.Forall₂ (fun d e => ReadsLike d.typeName e.typeName) ds es := by
  induction h with
  | nil => simp
  | cons hrespells _ ih =>
    rw [List.map_cons, List.map_cons, List.cons.injEq, List.forall₂_cons, ih,
      sizeOfName_eq_iff hrespells.2.2.2]

/-- Two names with one canonical spelling take equally many bytes if and only if they read alike,
and so do two variables of one identity. Where types are respelled, no variable is resized if and
only if all types read alike, and then none is moved and the slots are used as before. -/
theorem respelling_keeps_layout :
    (∀ s t, canonical s = canonical t → (sizeOfName s = sizeOfName t ↔ ReadsLike s t)) ∧
      (∀ v ∈ a.layout.vars, ∀ w ∈ b.layout.vars, v.identity = w.identity →
        (v.size = w.size ↔ ReadsLike v.typeName w.typeName)) ∧
      (List.Forall₂ Declaration.Respells a.declarations b.declarations →
        (a.layout.vars.map (·.size) = b.layout.vars.map (·.size) ↔
          List.Forall₂ (fun d e => ReadsLike d.typeName e.typeName) a.storageDeclarations
            b.storageDeclarations) ∧
        (a.layout.vars.map (·.size) = b.layout.vars.map (·.size) →
          a.layout.vars.map (·.position) = b.layout.vars.map (·.position) ∧
            a.layout.totalSlots = b.layout.totalSlots ∧
            a.layout.packedSlots = b.layout.packedSlots)) := by
  refine ⟨fun s t h => sizeOfName_eq_iff h, ?_, ?_⟩
  · intro v hv w hw hidentity
    rw [size_eq_of_mem_layout hv, size_eq_of_mem_layout hw]
    exact sizeOfName_eq_iff (congrArg Identity.typeName hidentity)
  · intro hrespells
    constructor
    · rw [layout_map_size, layout_map_size]
      exact map_size_eq_iff_of_respells (storageDeclarations_respell hrespells)
    · intro hsizes
      have hpositions := a.packed_layout.positions_eq b.packed_layout hsizes
      have hslots : a.layout.vars.map (·.slot) = b.layout.vars.map (·.slot) :=
        map_comp_eq hpositions Cursor.slot
      refine ⟨hpositions, slotCount_congr hslots, ?_⟩
      rw [layout_packedSlots, layout_packedSlots, hslots]

/-- Aliases read alike, so spelling them out moves nothing. A space in front of the sign of a width
is no such change. -/
theorem respelling_keeps_layout_aliases :
    let a : Contract := ⟨"Vault", [.make .plain "total" "uint",
      .make .plain "owner" "address payable", .make .plain "open" "bool"]⟩
    let b : Contract := ⟨"Vault", [.make .plain "total" "uint256",
      .make .plain "owner" "address", .make .plain "open" "bool"]⟩
    List.Forall₂ Declaration.Respells a.declarations b.declarations ∧
      ¬ ReadsLike "uint+8" "uint +8" ∧ ReadsLike "address payable" "address" ∧
      List.Forall₂ (fun d e => ReadsLike d.typeName e.typeName) a.storageDeclarations
        b.storageDeclarations ∧
      a.layout.vars.map (·.position) = b.layout.vars.map (·.position) ∧
      a.layout.totalSlots = b.layout.totalSlots ∧ a.layout.packedSlots = b.layout.packedSlots := by
  intro a b
  obtain ⟨hnames, hvariables, hcontracts⟩ := respelling_keeps_layout a b
  have hrespells : List.Forall₂ Declaration.Respells a.declarations b.declarations :=
    .cons ⟨rfl, rfl, rfl, by decide +kernel⟩ (.cons ⟨rfl, rfl, rfl, by decide +kernel⟩
      (.cons ⟨rfl, rfl, rfl, rfl⟩ .nil))
  obtain ⟨hreads, hkeeps⟩ := hcontracts hrespells
  have hsizes : a.layout.vars.map (·.size) = b.layout.vars.map (·.size) := by decide +kernel
  have hsign : sizeOfName "uint+8" ≠ sizeOfName "uint +8" := by decide +kernel
  have howner : ReadsLike "address payable" "address" :=
    (hvariables ⟨"owner", "address payable", 1, 0, 20, true, true⟩ (by decide +kernel)
      ⟨"owner", "address", 1, 0, 20, true, true⟩ (by decide +kernel) (by decide +kernel)).mp rfl
  exact ⟨hrespells, mt (hnames _ _ (by decide +kernel)).mpr hsign, howner, hreads.mp hsizes,
    hkeeps hsizes⟩

end Contract

/-- A plus sign that follows the stem at once is read as part of the width. Behind a space it is
not, so one identity takes one byte or a whole slot, and the variable behind it moves. -/
theorem respelled_sign_moves :
    let a : Contract := ⟨"Vault", [.make .plain "limit" "uint+8", .make .plain "open" "bool"]⟩
    let b : Contract := ⟨"Vault", [.make .plain "limit" "uint +8", .make .plain "open" "bool"]⟩
    canonical "uint+8" = canonical "uint +8" ∧
      sizeOfName "uint+8" = 1 ∧ sizeOfName "uint +8" = slotBytes ∧
      a.layout.vars.map (·.identity) = b.layout.vars.map (·.identity) ∧
      a.layout.vars.map (fun v => (v.slot, v.offset, v.size)) = [(0, 0, 1), (0, 1, 1)] ∧
      b.layout.vars.map (fun v => (v.slot, v.offset, v.size)) = [(0, 0, 32), (1, 0, 1)] := by
  decide +kernel

end StorageLayout
