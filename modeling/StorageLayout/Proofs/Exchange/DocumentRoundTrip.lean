import StorageLayout.Proofs.Exchange.Decoding

/-!
# Documents written and read back

Writing checks nothing, reading does: a document is read back as it was exactly if each of its
contracts keeps the rules of reading, whatever the order in which members are written. What was
read from any value keeps them.
-/

namespace StorageLayout

open Json

namespace Declaration

variable {value : Json} {d : Declaration}

/-- The declaration has a name, and a type that is more than blanks. -/
def WellFormed (d : Declaration) : Prop :=
  d.name ≠ "" ∧ Text.allBlank d.typeName = false

instance (d : Declaration) : Decidable d.WellFormed :=
  inferInstanceAs (Decidable (_ ∧ _))

theorem textMember?_eq_some_iff {field s : String} {check : String → Bool} :
    textMember? value field check = some s ↔
      value.get? field = some (.string s) ∧ check s = true := by
  have hstring : ∀ x : Json, x.asString? = some s ↔ x = .string s := by
    intro x
    cases x <;> simp [Json.asString?]
  simp only [textMember?, Option.filter_eq_some_iff, Option.bind_eq_some_iff, hstring]
  simp

theorem ofDocument_eq_ok_iff : Declaration.ofDocument value = .ok d ↔
    textMember? value "name" (· ≠ "") = some d.name ∧
      textMember? value (typeKey value) (!Text.allBlank ·) = some d.typeName ∧
      flagOf value "isConstant" = .ok d.isConstant ∧
      flagOf value "isImmutable" = .ok d.isImmutable := by
  unfold Declaration.ofDocument
  cases textMember? value "name" (· ≠ "") with
  | none => simp
  | some name =>
    cases textMember? value (typeKey value) (!Text.allBlank ·) with
    | none => simp
    | some typeName =>
      simp only [except_bind_eq_ok_iff, Option.some.injEq]
      constructor
      · rintro ⟨isConstant, hconstant, isImmutable, himmutable, heq⟩
        cases heq
        exact ⟨rfl, rfl, hconstant, himmutable⟩
      · rintro ⟨rfl, rfl, hconstant, himmutable⟩
        exact ⟨d.isConstant, hconstant, d.isImmutable, himmutable, rfl⟩

theorem textMember?_sortKeys (value : Json) (field : String) (check : String → Bool) :
    textMember? value.sortKeys field check = textMember? value field check := by
  rw [textMember?, get?_sortKeys, Option.bind_map, textMember?]
  simp only [Function.comp_def, asString?_sortKeys]

theorem typeKey_sortKeys (value : Json) : typeKey value.sortKeys = typeKey value := by
  rw [typeKey, get?_sortKeys, Option.isSome_map, typeKey]

theorem flagOf_sortKeys_eq_ok_iff {field : String} {b : Bool} :
    flagOf value.sortKeys field = .ok b ↔ flagOf value field = .ok b := by
  rw [flagOf, get?_sortKeys, flagOf]
  cases value.get? field with
  | none => rfl
  | some got => cases got <;> simp [sortKeys]

theorem ignoresOrder_ofDocument : IgnoresOrder Declaration.ofDocument := by
  intro value d
  simp only [ofDocument_eq_ok_iff, textMember?_sortKeys, typeKey_sortKeys,
    flagOf_sortKeys_eq_ok_iff]

theorem wellFormed_of_ofDocument (h : Declaration.ofDocument value = .ok d) : d.WellFormed := by
  obtain ⟨hname, htype, -⟩ := ofDocument_eq_ok_iff.mp h
  have hnonempty := (textMember?_eq_some_iff.mp hname).2
  have hnonblank := (textMember?_eq_some_iff.mp htype).2
  exact ⟨of_decide_eq_true hnonempty, by simpa using hnonblank⟩

theorem ofDocument_toJson_iff : Declaration.ofDocument d.toJson = .ok d ↔ d.WellFormed := by
  refine ⟨wellFormed_of_ofDocument, fun h => ofDocument_eq_ok_iff.mpr ⟨?_, ?_, rfl, rfl⟩⟩
  · exact textMember?_eq_some_iff.mpr ⟨rfl, decide_eq_true h.1⟩
  · exact textMember?_eq_some_iff.mpr ⟨rfl, by simpa using h.2⟩

end Declaration

namespace Contract

variable {value : Json} {c : Contract}

/-- All declarations are well formed, and no two of them share a name. -/
def WellFormed (c : Contract) : Prop :=
  (∀ d ∈ c.declarations, d.WellFormed) ∧ (c.declarations.map (·.name)).Nodup

instance (c : Contract) : Decidable c.WellFormed :=
  inferInstanceAs (Decidable (_ ∧ _))

/-- The index counts along for the errors only. -/
theorem declarationsFrom_eq_ok_iff {contract : String} {index : Nat} {values : List Json}
    {ds : List Declaration} : declarationsFrom contract index values = .ok ds ↔
      List.Forall₂ (fun x d => Declaration.ofDocument x = .ok d) values ds := by
  induction values generalizing index ds with
  | nil => cases ds <;> simp [declarationsFrom]
  | cons x xs ih =>
    rw [declarationsFrom, List.forall₂_cons_left_iff]
    cases hx : Declaration.ofDocument x with
    | error fault => simp
    | ok d =>
      simp only [except_map_eq_ok_iff, ih, Except.ok.injEq]
      constructor
      · rintro ⟨es, hes, rfl⟩
        exact ⟨d, es, rfl, hes, rfl⟩
      · rintro ⟨e, es, rfl, hes, rfl⟩
        exact ⟨es, hes, rfl⟩

theorem declarationValues_sortKeys (contract : String) :
    declarationValues value.sortKeys contract =
      (declarationValues value contract).map (List.map sortKeys) := by
  rw [declarationValues, get?_sortKeys, declarationValues]
  cases value.get? "variables" with
  | none => rfl
  | some got => cases got <;> simp [sortKeys, sortKeysList_eq_map, Except.map]

theorem ignoresOrder_ofDocument : IgnoresOrder Contract.ofDocument := by
  intro value c
  have hname : (value.sortKeys.get? "name").bind Json.asString? =
      (value.get? "name").bind Json.asString? := by
    rw [get?_sortKeys, Option.bind_map]
    simp only [Function.comp_def, asString?_sortKeys]
  have hvalues : ∀ values, declarationsFrom c.name 0 (values.map sortKeys) = .ok c.declarations ↔
      declarationsFrom c.name 0 values = .ok c.declarations := by
    intro values
    rw [declarationsFrom_eq_ok_iff, declarationsFrom_eq_ok_iff,
      Declaration.ignoresOrder_ofDocument.forall₂]
  rw [ofDocument_eq_ok_iff, ofDocument_eq_ok_iff, hname, declarationValues_sortKeys]
  cases declarationValues value c.name with
  | error e => simp [Except.map]
  | ok values => simp [Except.map, hvalues]

theorem wellFormed_of_ofDocument (h : Contract.ofDocument value = .ok c) :
    c.WellFormed := by
  obtain ⟨-, ⟨values, -, hvalues⟩, hnodup⟩ := ofDocument_eq_ok_iff.mp h
  refine ⟨fun d hd => ?_, hnodup⟩
  obtain ⟨x, -, hx⟩ := exists_of_forall₂_of_mem (declarationsFrom_eq_ok_iff.mp hvalues) hd
  exact Declaration.wellFormed_of_ofDocument hx

theorem ofDocument_toJson_iff : Contract.ofDocument c.toJson = .ok c ↔ c.WellFormed := by
  refine ⟨wellFormed_of_ofDocument, fun ⟨hdeclarations, hnodup⟩ => ?_⟩
  refine ofDocument_eq_ok_iff.mpr ⟨rfl, ⟨c.declarations.map (·.toJson), rfl, ?_⟩, hnodup⟩
  rw [declarationsFrom_eq_ok_iff, List.forall₂_map_left_iff, List.forall₂_same]
  exact fun d hd => Declaration.ofDocument_toJson_iff.mpr (hdeclarations d hd)

end Contract

namespace Document

variable {value : Json} {d : Document}

/-- In every contract the declarations have names of their own and types that are not blank. -/
def WellFormed (d : Document) : Prop :=
  ∀ c ∈ d.contracts, c.WellFormed

instance (d : Document) : Decidable d.WellFormed :=
  inferInstanceAs (Decidable (∀ c ∈ d.contracts, _))

theorem wellFormed_of_ofJson (h : Document.ofJson value = .ok d) : d.WellFormed := by
  intro c hc
  obtain ⟨v, hv⟩ := exists_value_of_mem h hc
  exact Contract.wellFormed_of_ofDocument hv

theorem ignoresOrder_ofJson : IgnoresOrder Document.ofJson := by
  intro value d
  rw [Document.ofJson, get?_sortKeys, Document.ofJson]
  cases value.get? "contracts" with
  | none => simp only [Option.map_none, except_map_eq_ok_iff, Contract.ignoresOrder_ofDocument _ _]
  | some got =>
    cases got <;> simp only [Option.map_some, sortKeys, sortKeysList_eq_map, except_map_eq_ok_iff,
      Contract.ignoresOrder_ofDocument.mapM]

theorem ofJson_toJson_of_wellFormed (h : d.WellFormed) :
    Document.ofJson d.toJson = .ok d := by
  have hcontracts : (d.contracts.map (·.toJson)).mapM Contract.ofDocument = .ok d.contracts := by
    rw [mapM_eq_ok_iff, List.forall₂_map_left_iff, List.forall₂_same]
    exact fun c hc => Contract.ofDocument_toJson_iff.mpr (h c hc)
  change ((d.contracts.map (·.toJson)).mapM Contract.ofDocument).map Document.mk = .ok d
  rw [hcontracts]
  rfl

/-- A document that is written, with members in any order, is read back if and only if in every
contract no name is empty or repeated and no type is blank. Every document that is read is such
a document, and so it is read back once it is written. -/
theorem ofJson_toJson_iff :
    (∀ d : Document, Document.ofJson d.toJson = .ok d ↔ d.WellFormed) ∧
      (∀ d : Document, Document.ofJson d.toJson.sortKeys = .ok d ↔ d.WellFormed) ∧
      ∀ value d, Document.ofJson value = .ok d →
        d.WellFormed ∧ Document.ofJson d.toJson = .ok d := by
  have hwritten : ∀ d : Document, Document.ofJson d.toJson = .ok d ↔ d.WellFormed := fun d =>
    ⟨wellFormed_of_ofJson, ofJson_toJson_of_wellFormed⟩
  refine ⟨hwritten, fun d => ?_, fun value d h => ?_⟩
  · rw [ignoresOrder_ofJson, hwritten]
  · have hwellFormed := wellFormed_of_ofJson h
    exact ⟨hwellFormed, ofJson_toJson_of_wellFormed hwellFormed⟩

/-- A lone contract whose declarations are spelled loosely. -/
theorem ofJson_toJson_iff_lone :
    let value : Json :=
      .object [("name", .string "Vault"), ("variables", .array
        [.object [("type", .string "address"), ("name", .string "owner")],
          .object [("name", .string "FEE"), ("typeName", .string " uint16"),
            ("isConstant", .bool true), ("isImmutable", .null)]])]
    let d : Document := ⟨[⟨"Vault", [.make .plain "owner" "address",
      .make .constant "FEE" " uint16"]⟩]⟩
    Document.ofJson value = .ok d ∧ Document.ofJson d.toJson = .ok d := by
  intro value d
  have hread : Document.ofJson value = .ok d := by rfl
  exact ⟨hread, (ofJson_toJson_iff.2.2 value d hread).2⟩

end Document

end StorageLayout
