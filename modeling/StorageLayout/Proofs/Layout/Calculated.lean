import StorageLayout.Proofs.Layout.Placement
import StorageLayout.Proofs.Positions

/-!
# Calculated layouts

The layout of a contract follows the packing rule. Hence its variables lie within their slots,
in ascending order and apart from each other, no slot before the last is empty, and nothing but
the sizes of the storage declarations decides where they are. Offsets are kept in bytes, and no
sum of an offset and a size passes the greatest byte.
-/

namespace StorageLayout

/-- Placement with offsets that are bytes: it fails if the end of a variable is no byte. -/
def placeInBytes? (c : Cursor) : List Declaration → Option (List Variable)
  | [] => some []
  | d :: ds =>
    if d.occupiesStorage then
      let seat := c.seat d.type.size
      if seat.offset + d.type.size < UInt8.size then
        (placeInBytes? (seat.after d.type.size) ds).map (d.placedAt seat :: ·)
      else none
    else placeInBytes? c ds

theorem placeInBytes?_eq_some (c : Cursor) (ds : List Declaration) :
    placeInBytes? c ds = some (placeFrom c ds) := by
  induction ds generalizing c with
  | nil => rfl
  | cons d ds ih =>
    cases h : d.occupiesStorage with
    | true =>
      have hstop : (c.seat d.type.size).offset + d.type.size ≤ slotBytes :=
        Cursor.seat_fits d.fitsSlot_type.2
      have hbyte : (c.seat d.type.size).offset + d.type.size < UInt8.size :=
        hstop.trans_lt (by decide)
      simp only [placeInBytes?, placeFrom, h, if_true, if_pos hbyte, ih, Option.map_some]
    | false => simp [placeInBytes?, placeFrom, h, ih]

theorem Layout.length_occupants (m : Layout) (s : Nat) :
    (m.occupants s).length = (m.vars.map (·.slot)).count s := by
  rw [occupants, ← List.countP_eq_length_filter, List.count, List.countP_map]
  rfl

theorem slotCount_congr {vs ws : List Variable} (h : vs.map (·.slot) = ws.map (·.slot)) :
    slotCount vs = slotCount ws := by
  have hmap : ∀ us : List Variable,
      slotCount us = (us.map (·.slot)).foldl (fun n s => max n (s + 1)) 0 := by
    intro us
    rw [List.foldl_map]
    rfl
  rw [hmap, hmap, h]

namespace Contract

variable (c : Contract)

theorem storageDeclarations_eq_filter : c.storageDeclarations =
    c.declarations.filter fun d => d.isConstant = false ∧ d.isImmutable = false := by
  simp only [storageDeclarations, Declaration.occupiesStorage, Bool.decide_and,
    Bool.decide_eq_false]

theorem layout_vars : c.layout.vars = placeFrom .start c.declarations := rfl

theorem layout_packedSlots : c.layout.packedSlots =
    (ascending (c.layout.vars.map (·.slot))).filter
      fun s => 1 < (c.layout.vars.map (·.slot)).count s := by
  simp only [← Layout.length_occupants]
  rfl

theorem packed_layout : Packed c.layout.vars :=
  .of_placement _

variable {c} in
theorem fitsSlot_of_mem_layout {v : Variable} (h : v ∈ c.layout.vars) : v.FitsSlot :=
  fitsSlot_of_mem_placeFrom h

theorem layout_vars_congr {c d : Contract}
    (h : d.storageDeclarations = c.storageDeclarations) : d.layout.vars = c.layout.vars := by
  rw [layout_vars, layout_vars, ← placeFrom_filter _ d.declarations,
    ← placeFrom_filter _ c.declarations]
  exact congrArg (placeFrom .start) h

theorem layout_congr {c d : Contract} (hname : d.name = c.name)
    (h : d.storageDeclarations = c.storageDeclarations) : d.layout = c.layout := by
  have hvars : placeFrom .start d.declarations = placeFrom .start c.declarations :=
    layout_vars_congr h
  simp only [layout, hname, hvars]

theorem layout_map_size : c.layout.vars.map (·.size) =
    c.storageDeclarations.map (SolidityType.sizeOfName ·.typeName) :=
  map_comp_eq (placeFrom_map_declared .start c.declarations) fun x => x.2.2

theorem layout_map_name_type : c.layout.vars.map (fun v => (v.name, v.typeName)) =
    c.storageDeclarations.map fun d => (d.name, d.typeName) :=
  map_comp_eq (placeFrom_map_declared .start c.declarations) fun x => (x.1, x.2.1)

theorem layout_map_name : c.layout.vars.map (·.name) = c.storageDeclarations.map (·.name) :=
  map_comp_eq c.layout_map_name_type Prod.fst

variable {c} in
theorem exists_declaration_of_mem_layout {v : Variable} (h : v ∈ c.layout.vars) :
    ∃ d ∈ c.storageDeclarations, d.name = v.name ∧ d.typeName = v.typeName ∧
      SolidityType.sizeOfName d.typeName = v.size := by
  have hmem := List.mem_map_of_mem (f := fun v : Variable => (v.name, v.typeName, v.size)) h
  rw [layout_vars, placeFrom_map_declared] at hmem
  obtain ⟨d, hd, heq⟩ := List.mem_map.mp hmem
  obtain ⟨hname, hrest⟩ := Prod.mk.inj heq
  obtain ⟨htype, hsize⟩ := Prod.mk.inj hrest
  exact ⟨d, hd, hname, htype, hsize⟩

theorem layout_not_overlaps : c.layout.vars.Pairwise fun v w => ¬ v.Overlaps w :=
  c.packed_layout.pairwise_precedes.imp Variable.Precedes.not_overlaps

theorem length_layout_le : c.layout.vars.length ≤ c.declarations.length := by
  have h := congrArg List.length c.layout_map_size
  rw [List.length_map, List.length_map] at h
  exact h.trans_le (List.length_filter_le _ _)

theorem totalSlots_le : c.layout.totalSlots ≤ c.declarations.length :=
  c.packed_layout.slotCount_le_length.trans c.length_layout_le

/-- In a calculated layout every variable lies within its slot, the variables ascend and do not
overlap, and all slots up to that of the last variable are used. -/
theorem layout_ascending_dense :
    (∀ v ∈ c.layout.vars, 1 ≤ v.size ∧ v.size ≤ slotBytes ∧ v.offset + v.size ≤ slotBytes) ∧
      c.layout.vars.Pairwise (fun v w =>
        (v.slot < w.slot ∨ v.slot = w.slot ∧ v.offset < w.offset) ∧ ¬ v.Overlaps w) ∧
      (∀ s < c.layout.totalSlots, ∃ v ∈ c.layout.vars, v.slot = s) ∧
      c.layout.totalSlots = (c.layout.vars.getLast?.map (·.slot + 1)).getD 0 := by
  refine ⟨?_, ?_, ?_, c.packed_layout.slotCount_eq⟩
  · intro v hv
    obtain ⟨hpos, hstop⟩ := fitsSlot_of_mem_layout hv
    exact ⟨hpos, Nat.le_of_add_left_le hstop, hstop⟩
  · apply c.packed_layout.pairwise_precedes.imp_of_mem
    intro v w hv _ h
    refine ⟨?_, h.not_overlaps⟩
    have hpos := (fitsSlot_of_mem_layout hv).1
    simp only [Variable.Precedes, Variable.stop] at h
    omega
  · intro s hs
    exact c.packed_layout.lt_slotCount_iff.mp hs

/-- A calculated layout holds the storage declarations in order, which are those that are neither
constant nor immutable, at the only places that follow the packing rule. Declarations that take no
storage may come and go, and no offset passes the greatest byte while the layout is calculated. -/
theorem layout_packing_rule :
    (∀ d : Contract, d.storageDeclarations =
        d.declarations.filter fun e => e.isConstant = false ∧ e.isImmutable = false) ∧
      c.layout.vars.map (fun v => (v.name, v.typeName, v.size)) =
        c.storageDeclarations.map (fun d =>
          (d.name, d.typeName, SolidityType.sizeOfName d.typeName)) ∧
      Packed c.layout.vars ∧
      (∀ vs : List Variable, Packed vs →
        vs.map (·.size) = c.storageDeclarations.map (SolidityType.sizeOfName ·.typeName) →
        vs.map (·.position) = c.layout.vars.map (·.position)) ∧
      (∀ d : Contract,
        d.storageDeclarations.map (SolidityType.sizeOfName ·.typeName) =
          c.storageDeclarations.map (SolidityType.sizeOfName ·.typeName) →
        d.layout.vars.map (·.position) = c.layout.vars.map (·.position)) ∧
      (∀ ds : List Declaration,
        (ds.filter fun e => e.isConstant = false ∧ e.isImmutable = false) =
          c.storageDeclarations →
        { c with declarations := ds }.layout = c.layout) ∧
      placeInBytes? .start c.declarations = some c.layout.vars := by
  refine ⟨storageDeclarations_eq_filter, placeFrom_map_declared _ _, c.packed_layout, ?_, ?_, ?_,
    placeInBytes?_eq_some _ _⟩
  · intro vs hvs h
    exact hvs.positions_eq c.packed_layout (h.trans c.layout_map_size.symm)
  · intro d h
    apply d.packed_layout.positions_eq c.packed_layout
    rw [layout_map_size, layout_map_size, h]
  · intro ds h
    exact layout_congr rfl ((storageDeclarations_eq_filter _).trans h)

/-- An address and a flag share a slot in whichever contract, and the declarations that take no
storage leave them where they are. -/
theorem layout_packing_rule_shared_slot :
    let c : Contract := ⟨"Vault", [.make .plain "owner" "address",
      .make .constant "LIMIT" "uint256", .make .plain "open" "bool",
      .make .plain "total" "uint256"]⟩
    let d : Contract := ⟨"Purse", [.make .immutable "born" "uint64", .make .plain "id" "bytes20",
      .make .plain "kind" "uint8", .make .plain "coins" "uint256[]"]⟩
    let vs : List Variable := [⟨"id", "bytes20", 0, 0, 20, true, true⟩,
      ⟨"kind", "uint8", 0, 20, 1, true, true⟩, ⟨"coins", "uint256[]", 1, 0, 32, true, false⟩]
    let ds : List Declaration := [.make .plain "owner" "address", .make .plain "open" "bool",
      .make .immutable "born" "uint64", .make .plain "total" "uint256"]
    vs.map (·.position) = c.layout.vars.map (·.position) ∧
      d.layout.vars.map (·.position) = c.layout.vars.map (·.position) ∧
      { c with declarations := ds }.layout = c.layout := by
  intro c d vs ds
  obtain ⟨-, -, -, hunique, hsizes, hstorage, -⟩ := c.layout_packing_rule
  have hvs : vs.map (·.size) =
      c.storageDeclarations.map (SolidityType.sizeOfName ·.typeName) := by decide +kernel
  have hd : d.storageDeclarations.map (SolidityType.sizeOfName ·.typeName) =
      c.storageDeclarations.map (SolidityType.sizeOfName ·.typeName) := by decide +kernel
  exact ⟨hunique vs (by decide) hvs, hsizes d hd, hstorage ds (by decide)⟩

end Contract

end StorageLayout
