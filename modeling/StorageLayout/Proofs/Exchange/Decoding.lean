import StorageLayout.Proofs.Exchange.Document

/-!
# What the decoders accept

Members of an object are looked up by their keys, so reading a value does not depend on the order
in which its members are written. Only what an error says of the value may show it.

A decoder of a record asks for its fields one after the other, and for those of an object in
another order than for those of an array. The order decides which error comes first, but not what
is accepted: a record is read if and only if each of its fields is there and is read.
-/

namespace StorageLayout.Json

section MemberOrder

variable {ε α : Type}

theorem lookup_sortKeysMembers (key : String) (members : List (String × Json)) :
    (sortKeysMembers members).lookup key = (members.lookup key).map sortKeys := by
  induction members with
  | nil => rfl
  | cons m ms ih =>
    obtain ⟨k, value⟩ := m
    rw [sortKeysMembers, lookup_insertMember, ih]
    by_cases h : key = k
    · simp [h]
    · have hk : (key == k) = false := beq_eq_false_iff_ne.mpr h
      rw [if_neg h, List.lookup_cons, hk]

theorem get?_sortKeys (value : Json) (key : String) :
    value.sortKeys.get? key = (value.get? key).map sortKeys := by
  cases value <;> simp [sortKeys, get?, lookup_sortKeysMembers]

theorem asString?_sortKeys (value : Json) : value.sortKeys.asString? = value.asString? := by
  cases value <;> simp [sortKeys, asString?]

/-- What is read from a value is read from it with its members in any order. -/
def IgnoresOrder (read : Json → Except ε α) : Prop :=
  ∀ value a, read value.sortKeys = .ok a ↔ read value = .ok a

theorem IgnoresOrder.forall₂ {read : Json → Except ε α} (h : IgnoresOrder read)
    {values : List Json} {as : List α} :
    List.Forall₂ (fun x a => read x = .ok a) (values.map sortKeys) as ↔
      List.Forall₂ (fun x a => read x = .ok a) values as := by
  simp only [List.forall₂_map_left_iff, h _ _]

theorem IgnoresOrder.mapM {read : Json → Except ε α} (h : IgnoresOrder read)
    {values : List Json} {as : List α} :
    (values.map sortKeys).mapM read = .ok as ↔ values.mapM read = .ok as := by
  rw [mapM_eq_ok_iff, mapM_eq_ok_iff, h.forall₂]

end MemberOrder

variable {α : Type} {value : Json}

theorem decodeNat_eq_ok_iff {bits n : Nat} :
    decodeNat bits value = .ok n ↔ value = .int n ∧ n < Nat.pow 2 bits := by
  cases value with
  | int k =>
    rw [decodeNat, int.injEq]
    split
    · rw [Except.ok.injEq]
      omega
    · simp only [reduceCtorEq, false_iff]
      omega
  | _ => simp [decodeNat]

theorem decodeList_eq_ok_iff {decode : Decoder α} {as : List α} :
    decodeList decode value = .ok as ↔
      ∃ values, value = .array values ∧ List.Forall₂ (fun x a => decode x = .ok a) values as := by
  cases value <;> simp [decodeList, mapM_eq_ok_iff]

theorem decodeList_map {decode : Decoder α} {encode : α → Json} {as : List α}
    (h : ∀ a ∈ as, decode (encode a) = .ok a) :
    decodeList decode (.array (as.map encode)) = .ok as := by
  refine decodeList_eq_ok_iff.mpr ⟨_, rfl, ?_⟩
  rw [List.forall₂_map_left_iff, List.forall₂_same]
  exact h

theorem ignoresOrder_decodeText : IgnoresOrder decodeText := by
  intro value s
  cases value <;> simp [sortKeys, decodeText]

theorem ignoresOrder_decodeBool : IgnoresOrder decodeBool := by
  intro value b
  cases value <;> simp [sortKeys, decodeBool]

theorem ignoresOrder_decodeNat (bits : Nat) : IgnoresOrder (decodeNat bits) := by
  intro value n
  cases value <;> simp [sortKeys, decodeNat]

theorem IgnoresOrder.decodeList {decode : Decoder α} (h : IgnoresOrder decode) :
    IgnoresOrder (decodeList decode) := by
  intro value as
  cases value with
  | array values => simpa only [sortKeys, sortKeysList_eq_map, Json.decodeList] using h.mapM
  | _ => simp [sortKeys, Json.decodeList]

/-- The value of a field of a record: an object has it under the name, an array at the index. -/
def field? (name : String) (index : Nat) : Json → Option Json
  | object members => members.lookup name
  | array items => items[index]?
  | _ => none

def HasField (value : Json) (name : String) (index : Nat) (decode : Decoder α) (a : α) : Prop :=
  ∃ x, value.field? name index = some x ∧ decode x = .ok a

/-- An object, or an array without items past the fields. -/
def IsRecord (fields : Nat) : Json → Prop
  | object _ => True
  | array items => items.length ≤ fields
  | _ => False

section Fields

variable {field name : String} {index : Nat} {decode : Decoder α} {a : α}

theorem required_eq_ok_iff {o : Option α} : required field o = .ok a ↔ o = some a := by
  cases o <;> simp [required]

theorem member?_eq_some_iff {members : List (String × Json)} :
    member? members name decode = .ok (some a) ↔
      (object members).HasField name index decode a := by
  rw [member?, HasField, field?]
  cases members.lookup name <;> simp [except_map_eq_ok_iff]

theorem item_eq_ok_iff {shape : RecordShape} {items : List Json} :
    item shape items index decode = .ok a ↔ (array items).HasField name index decode a := by
  rw [item, HasField, field?]
  cases items[index]? <;> simp

theorem HasField.lt {bits n : Nat} (h : value.HasField name index (decodeNat bits) n) :
    n < Nat.pow 2 bits := by
  obtain ⟨x, -, hx⟩ := h
  exact (decodeNat_eq_ok_iff.mp hx).2

theorem HasField.exists_item {as : List α}
    (h : value.HasField name index (decodeList decode) as) (ha : a ∈ as) :
    ∃ x, decode x = .ok a := by
  obtain ⟨list, -, hlist⟩ := h
  obtain ⟨values, -, hvalues⟩ := decodeList_eq_ok_iff.mp hlist
  obtain ⟨x, -, hx⟩ := exists_of_forall₂_of_mem hvalues ha
  exact ⟨x, hx⟩

theorem hasField_sortKeys (h : IgnoresOrder decode) :
    value.sortKeys.HasField name index decode a ↔ value.HasField name index decode a := by
  have hfield : value.sortKeys.field? name index = (value.field? name index).map sortKeys := by
    cases value <;> simp [sortKeys, field?, lookup_sortKeysMembers, sortKeysList_eq_map]
  rw [HasField, hfield, HasField]
  cases value.field? name index <;> simp [h _ a]

theorem isRecord_sortKeys {fields : Nat} :
    value.sortKeys.IsRecord fields ↔ value.IsRecord fields := by
  cases value <;> simp [sortKeys, IsRecord, sortKeysList_eq_map]

/-- If the members of objects and the items of arrays are read as the same fields, so is a record
of either form. -/
theorem decodeRecord_eq_ok_iff {shape : RecordShape}
    {ofMembers : List (String × Json) → Except ShapeError α}
    {ofItems : List Json → Except ShapeError α} {Written : Json → Prop}
    (hmembers : ∀ members, ofMembers members = .ok a ↔ Written (.object members))
    (hitems : ∀ items, ofItems items = .ok a ↔ Written (.array items)) :
    decodeRecord shape ofMembers ofItems value = .ok a ↔
      value.IsRecord shape.fields ∧ Written value := by
  cases value with
  | object members => simp [decodeRecord, decodeRecordWith, IsRecord, hmembers]
  | array items =>
    have hsurplus : checkSurplus .refused shape items = .ok () ↔
        items.length ≤ shape.fields := by
      simp [checkSurplus]
    simp only [decodeRecord, decodeRecordWith, except_bind_eq_ok_iff, IsRecord]
    constructor
    · rintro ⟨b, hb, u, hu, heq⟩
      cases heq
      exact ⟨hsurplus.mp hu, (hitems items).mp hb⟩
    · rintro ⟨hlength, hwritten⟩
      exact ⟨a, (hitems items).mpr hwritten, (), hsurplus.mpr hlength, rfl⟩
  | _ => simp [decodeRecord, decodeRecordWith, IsRecord]

end Fields

end StorageLayout.Json
