import StorageLayout.Exchange.Layout
import StorageLayout.Proofs.Exchange.Decoding
import StorageLayout.Proofs.Layout.Calculated

/-!
# Layouts written and read back

A layout is read back as it was written if its figures fit the words that hold them, whatever
sense they make together. Reading for use asks for no more than variables within range. What was
calculated from a contract has both properties, and so has what was read.
-/

namespace StorageLayout

open Json

namespace Variable

variable {v : Variable} {value : Json}

/-- Each field of the variable stands in the value. -/
@[mk_iff]
structure WrittenIn (v : Variable) (value : Json) : Prop where
  name : value.HasField "name" 0 decodeText v.name
  typeName : value.HasField "type" 1 decodeText v.typeName
  slot : value.HasField "slot" 2 (decodeNat 64) v.slot
  offset : value.HasField "offset" 3 (decodeNat 8) v.offset
  size : value.HasField "size" 4 (decodeNat 8) v.size
  isStateVariable : value.HasField "isStateVariable" 5 decodeBool v.isStateVariable
  packed : value.HasField "packed" 6 decodeBool v.packed

theorem ofMembers_eq_ok_iff {members : List (String × Json)} :
    ofMembers members = .ok v ↔ v.WrittenIn (.object members) := by
  constructor
  · intro h
    simp only [ofMembers, except_bind_eq_ok_iff, required_eq_ok_iff] at h
    -- What is read in the order of keys is then asked for in the order of fields.
    obtain ⟨_, hstate, _, hname, _, hoffset, _, hpacked, _, hsize, _, hslot, _, htype, hread⟩ := h
    obtain ⟨_, rfl, _, rfl, _, rfl, _, rfl, _, rfl, _, rfl, _, rfl, heq⟩ := hread
    cases heq
    constructor <;> apply member?_eq_some_iff.mp <;> assumption
  · rintro ⟨hname, htype, hslot, hoffset, hsize, hstate, hpacked⟩
    rw [ofMembers, member?_eq_some_iff.mpr hname, member?_eq_some_iff.mpr htype,
      member?_eq_some_iff.mpr hslot, member?_eq_some_iff.mpr hoffset,
      member?_eq_some_iff.mpr hsize, member?_eq_some_iff.mpr hstate,
      member?_eq_some_iff.mpr hpacked]
    rfl

theorem ofItems_eq_ok_iff {items : List Json} :
    ofItems items = .ok v ↔ v.WrittenIn (.array items) := by
  constructor
  · intro h
    simp only [ofItems, except_bind_eq_ok_iff] at h
    obtain ⟨_, hname, _, htype, _, hslot, _, hoffset, _, hsize, _, hstate, _, hpacked, heq⟩ := h
    cases heq
    constructor <;> apply item_eq_ok_iff.mp <;> assumption
  · rintro ⟨hname, htype, hslot, hoffset, hsize, hstate, hpacked⟩
    rw [ofItems, item_eq_ok_iff.mpr hname, item_eq_ok_iff.mpr htype, item_eq_ok_iff.mpr hslot,
      item_eq_ok_iff.mpr hoffset, item_eq_ok_iff.mpr hsize, item_eq_ok_iff.mpr hstate,
      item_eq_ok_iff.mpr hpacked]
    rfl

theorem decode_eq_ok_iff :
    decode value = .ok v ↔ value.IsRecord shape.fields ∧ v.WrittenIn value :=
  decodeRecord_eq_ok_iff (fun _ => ofMembers_eq_ok_iff) (fun _ => ofItems_eq_ok_iff)

theorem ignoresOrder_decode : IgnoresOrder decode := by
  intro value v
  simp only [decode_eq_ok_iff, isRecord_sortKeys, writtenIn_iff,
    hasField_sortKeys ignoresOrder_decodeText, hasField_sortKeys ignoresOrder_decodeBool,
    hasField_sortKeys (ignoresOrder_decodeNat _)]

/-- The slot fits a word of 64 bits, the offset and the size fit a byte each. -/
def FitsWords (v : Variable) : Prop :=
  v.slot < UInt64.size ∧ v.offset < UInt8.size ∧ v.size < UInt8.size

instance (v : Variable) : Decidable v.FitsWords :=
  inferInstanceAs (Decidable (_ ∧ _ ∧ _))

theorem fitsWords_of_decode (h : decode value = .ok v) : v.FitsWords := by
  obtain ⟨-, hwritten⟩ := decode_eq_ok_iff.mp h
  exact ⟨hwritten.slot.lt, hwritten.offset.lt, hwritten.size.lt⟩

theorem decode_toJson (h : v.FitsWords) : decode v.toJson = .ok v := by
  refine decode_eq_ok_iff.mpr ⟨trivial, ?_⟩
  obtain ⟨hslot, hoffset, hsize⟩ := h
  constructor
  case slot => exact ⟨_, rfl, decodeNat_eq_ok_iff.mpr ⟨rfl, hslot⟩⟩
  case offset => exact ⟨_, rfl, decodeNat_eq_ok_iff.mpr ⟨rfl, hoffset⟩⟩
  case size => exact ⟨_, rfl, decodeNat_eq_ok_iff.mpr ⟨rfl, hsize⟩⟩
  all_goals exact ⟨_, rfl, rfl⟩

/-- What is wrong with a variable that is out of range: its size only if not its offset. -/
inductive OutOfRange (v : Variable) : LayoutError → Prop
  | offset : slotBytes ≤ v.offset → OutOfRange v (.offsetOutside v.name v.offset)
  | size : v.offset < slotBytes → ¬ (1 ≤ v.size ∧ v.size ≤ slotBytes) →
      OutOfRange v (.sizeOutside v.name v.size)

theorem rangeError?_eq_some_iff {e : LayoutError} : v.rangeError? = some e ↔ v.OutOfRange e := by
  unfold rangeError?
  constructor
  · intro h
    split at h
    case isTrue hoffset =>
      cases h
      exact .offset hoffset
    case isFalse hoffset =>
      split at h
      case isTrue hsize =>
        cases h
        exact .size (Nat.not_le.mp hoffset) (by omega)
      case isFalse => cases h
  · rintro (hoffset | ⟨hoffset, hsize⟩)
    · rw [if_pos hoffset]
    · rw [if_neg (Nat.not_le.mpr hoffset), if_pos (by omega)]

end Variable

namespace Layout

variable {m : Layout} {value : Json}

/-- Each field of the layout stands in the value. -/
@[mk_iff]
structure WrittenIn (m : Layout) (value : Json) : Prop where
  contractName : value.HasField "contractName" 0 decodeText m.contractName
  vars : value.HasField "variables" 1 (decodeList Variable.decode) m.vars
  totalSlots : value.HasField "totalSlots" 2 (decodeNat 64) m.totalSlots
  packedSlots : value.HasField "packedSlots" 3 (decodeList (decodeNat 64)) m.packedSlots

theorem ofMembers_eq_ok_iff {members : List (String × Json)} :
    ofMembers members = .ok m ↔ m.WrittenIn (.object members) := by
  constructor
  · intro h
    simp only [ofMembers, except_bind_eq_ok_iff, required_eq_ok_iff] at h
    obtain ⟨_, hname, _, hpacked, _, htotal, _, hvars, hread⟩ := h
    obtain ⟨_, rfl, _, rfl, _, rfl, _, rfl, heq⟩ := hread
    cases heq
    constructor <;> apply member?_eq_some_iff.mp <;> assumption
  · rintro ⟨hname, hvars, htotal, hpacked⟩
    rw [ofMembers, member?_eq_some_iff.mpr hname, member?_eq_some_iff.mpr hvars,
      member?_eq_some_iff.mpr htotal, member?_eq_some_iff.mpr hpacked]
    rfl

theorem ofItems_eq_ok_iff {items : List Json} :
    ofItems items = .ok m ↔ m.WrittenIn (.array items) := by
  constructor
  · intro h
    simp only [ofItems, except_bind_eq_ok_iff] at h
    obtain ⟨_, hname, _, hvars, _, htotal, _, hpacked, heq⟩ := h
    cases heq
    constructor <;> apply item_eq_ok_iff.mp <;> assumption
  · rintro ⟨hname, hvars, htotal, hpacked⟩
    rw [ofItems, item_eq_ok_iff.mpr hname, item_eq_ok_iff.mpr hvars, item_eq_ok_iff.mpr htotal,
      item_eq_ok_iff.mpr hpacked]
    rfl

theorem decode_eq_ok_iff :
    decode value = .ok m ↔ value.IsRecord shape.fields ∧ m.WrittenIn value :=
  decodeRecord_eq_ok_iff (fun _ => ofMembers_eq_ok_iff) (fun _ => ofItems_eq_ok_iff)

theorem ignoresOrder_decode : IgnoresOrder decode := by
  intro value m
  simp only [decode_eq_ok_iff, isRecord_sortKeys, writtenIn_iff,
    hasField_sortKeys ignoresOrder_decodeText, hasField_sortKeys (ignoresOrder_decodeNat _),
    hasField_sortKeys Variable.ignoresOrder_decode.decodeList,
    hasField_sortKeys (ignoresOrder_decodeNat _).decodeList]

def FitsWords (m : Layout) : Prop :=
  (∀ v ∈ m.vars, v.FitsWords) ∧ m.totalSlots < UInt64.size ∧ ∀ s ∈ m.packedSlots, s < UInt64.size

instance (m : Layout) : Decidable m.FitsWords :=
  inferInstanceAs (Decidable (_ ∧ _ ∧ _))

theorem fitsWords_of_decode (h : decode value = .ok m) : m.FitsWords := by
  obtain ⟨-, hwritten⟩ := decode_eq_ok_iff.mp h
  refine ⟨fun v hv => ?_, hwritten.totalSlots.lt, fun s hs => ?_⟩
  · obtain ⟨x, hx⟩ := hwritten.vars.exists_item hv
    exact Variable.fitsWords_of_decode hx
  · obtain ⟨x, hx⟩ := hwritten.packedSlots.exists_item hs
    exact (decodeNat_eq_ok_iff.mp hx).2

theorem decode_toJson (h : m.FitsWords) : decode m.toJson = .ok m := by
  refine decode_eq_ok_iff.mpr ⟨trivial, ?_⟩
  obtain ⟨hvars, htotal, hpacked⟩ := h
  constructor
  case contractName => exact ⟨_, rfl, rfl⟩
  case vars => exact ⟨_, rfl, decodeList_map fun v hv => Variable.decode_toJson (hvars v hv)⟩
  case totalSlots => exact ⟨_, rfl, decodeNat_eq_ok_iff.mpr ⟨rfl, htotal⟩⟩
  case packedSlots =>
    exact ⟨_, rfl, decodeList_map fun s hs => decodeNat_eq_ok_iff.mpr ⟨rfl, hpacked s hs⟩⟩

/-- What is wrong with the first variable that is out of range. -/
def OutOfRange (m : Layout) (e : LayoutError) : Prop :=
  ∃ before v after, m.vars = before ++ v :: after ∧ (∀ w ∈ before, w.InRange) ∧ v.OutOfRange e

theorem findSome?_rangeError?_eq_none_iff :
    m.vars.findSome? (·.rangeError?) = none ↔ ∀ v ∈ m.vars, v.InRange := by
  simp only [List.findSome?_eq_none_iff, Variable.rangeError?_eq_none_iff]

theorem findSome?_rangeError?_eq_some_iff {e : LayoutError} :
    m.vars.findSome? (·.rangeError?) = some e ↔ m.OutOfRange e := by
  simp only [List.findSome?_eq_some_iff, Variable.rangeError?_eq_none_iff,
    Variable.rangeError?_eq_some_iff]
  constructor
  · rintro ⟨before, v, after, hsplit, hv, hbefore⟩
    exact ⟨before, v, after, hsplit, hbefore, hv⟩
  · rintro ⟨before, v, after, hsplit, hbefore, hv⟩
    exact ⟨before, v, after, hsplit, hv, hbefore⟩

theorem load_eq_ok_iff :
    load value = .ok m ↔ decode value = .ok m ∧ ∀ v ∈ m.vars, v.InRange := by
  rw [← findSome?_rangeError?_eq_none_iff]
  unfold load
  cases decode value with
  | error cause => simp
  | ok n =>
    simp only [Except.ok.injEq]
    cases h : n.vars.findSome? (·.rangeError?) with
    | none =>
      simp only [Except.ok.injEq, iff_self_and]
      rintro rfl
      exact h
    | some e =>
      simp only [reduceCtorEq, false_iff, not_and]
      rintro rfl hnone
      rw [h] at hnone
      cases hnone

theorem exists_load_eq_error (h : decode value = .ok m) (hrange : ¬ ∀ v ∈ m.vars, v.InRange) :
    ∃ e, m.OutOfRange e ∧ load value = .error e := by
  rw [← findSome?_rangeError?_eq_none_iff] at hrange
  obtain ⟨e, he⟩ := Option.ne_none_iff_exists'.mp hrange
  refine ⟨e, findSome?_rangeError?_eq_some_iff.mp he, ?_⟩
  simp only [load, h, he]

theorem load_sortKeys (h : decode value = .ok m) : load value.sortKeys = load value := by
  rw [load, (ignoresOrder_decode value m).mpr h, load, h]

end Layout

section Calculated

variable {c : Contract}

theorem Contract.slot_lt_totalSlots {v : Variable} (h : v ∈ c.layout.vars) :
    v.slot < c.layout.totalSlots :=
  c.packed_layout.lt_slotCount_iff.mpr ⟨v, h, rfl⟩

theorem Contract.inRange_of_mem_layout {v : Variable} (h : v ∈ c.layout.vars) : v.InRange := by
  obtain ⟨hpos, hstop⟩ := fitsSlot_of_mem_layout h
  simp only [Variable.stop] at hstop
  exact ⟨by omega, hpos, by omega⟩

theorem Contract.fitsWords_layout (h : c.declarations.length < UInt64.size) :
    c.layout.FitsWords := by
  have htotal : c.layout.totalSlots < UInt64.size := c.totalSlots_le.trans_lt h
  refine ⟨fun v hv => ?_, htotal, fun s hs => ?_⟩
  · obtain ⟨hoffset, -, hsize⟩ := inRange_of_mem_layout hv
    have hbyte : slotBytes < UInt8.size := by decide
    exact ⟨(slot_lt_totalSlots hv).trans htotal, hoffset.trans hbyte, hsize.trans_lt hbyte⟩
  · rw [layout_packedSlots, List.mem_filter, mem_ascending, List.mem_map] at hs
    obtain ⟨⟨v, hv, rfl⟩, -⟩ := hs
    exact (slot_lt_totalSlots hv).trans htotal

end Calculated

namespace Layout

/-- A layout that is written, with members in any order, is loaded again if and only if its
variables are in range; else the error is that of the first variable that is not, about its
offset if that is outside the slot. Every layout that is loaded is in range, and so it is loaded
again once it is written, and so is every layout that is calculated. -/
theorem load_toJson :
    (∀ m : Layout, m.FitsWords →
      ((∀ v ∈ m.vars, v.InRange) → load m.toJson = .ok m) ∧
      ((¬ ∀ v ∈ m.vars, v.InRange) → ∃ e, m.OutOfRange e ∧ load m.toJson = .error e) ∧
      load m.toJson.sortKeys = load m.toJson) ∧
    (∀ value m, load value = .ok m →
      m.FitsWords ∧ (∀ v ∈ m.vars, v.InRange) ∧ load m.toJson = .ok m) ∧
    ∀ c : Contract, c.declarations.length < UInt64.size → load c.layout.toJson = .ok c.layout := by
  have hwritten : ∀ m : Layout, m.FitsWords → (∀ v ∈ m.vars, v.InRange) →
      load m.toJson = .ok m := fun m hwords hrange =>
    load_eq_ok_iff.mpr ⟨decode_toJson hwords, hrange⟩
  refine ⟨fun m hwords => ⟨hwritten m hwords, ?_, ?_⟩, fun value m h => ?_, fun c hc => ?_⟩
  · exact exists_load_eq_error (decode_toJson hwords)
  · exact load_sortKeys (decode_toJson hwords)
  · obtain ⟨hdecode, hrange⟩ := load_eq_ok_iff.mp h
    have hwords := fitsWords_of_decode hdecode
    exact ⟨hwords, hrange, hwritten m hwords hrange⟩
  · exact hwritten c.layout (Contract.fitsWords_layout hc) fun v =>
      Contract.inRange_of_mem_layout

/-- The layout with `b` is refused for the offset of `b`, whose size is no better. That of `a`
alone is read from an array as well. -/
theorem load_toJson_outside :
    let a : Variable := ⟨"a", "uint256", 0, 31, 32, true, false⟩
    let b : Variable := ⟨"b", "bytes4", 1, 32, 0, true, true⟩
    let m : Layout := ⟨"Vault", [a, b], 2, []⟩
    let lone : Layout := ⟨"Vault", [a], 1, []⟩
    let value : Json := .array [.string "Vault", .array [.array [.string "a", .string "uint256",
      .int 0, .int 31, .int 32, .bool true, .bool false]], .int 1, .array []]
    let c : Contract := ⟨"Vault", [.make .plain "owner" "address", .make .plain "fee" "uint16"]⟩
    (∃ e, m.OutOfRange e ∧ load m.toJson = .error e) ∧
      load m.toJson = .error (.offsetOutside "b" 32) ∧
      load value = .ok lone ∧ load lone.toJson = .ok lone ∧
      load c.layout.toJson = .ok c.layout := by
  intro a b m lone value c
  have hread : load value = .ok lone := by rfl
  have hwords : m.FitsWords := by decide
  refine ⟨?_, ?_, hread, ?_, load_toJson.2.2 c (by decide)⟩
  · exact (load_toJson.1 m hwords).2.1 (by decide)
  · rw [load, decode_toJson hwords]
    rfl
  · obtain ⟨hwords, hrange, -⟩ := load_toJson.2.1 value lone hread
    exact (load_toJson.1 lone hwords).1 hrange

end Layout

end StorageLayout
