import StorageLayout.Proofs.Layout.Packing
import StorageLayout.Proofs.SolidityType.Size

/-!
# Placement follows the packing rule

The cursor of the placement leaves a slot in two ways, as soon as the slot is full and when a
variable does not fit. Together they amount to the packing rule, whatever declarations that
take no storage stand in between.
-/

namespace StorageLayout

namespace Cursor

variable {c : Cursor} {size next : Nat}

theorem seat_start (h : size ≤ slotBytes) : start.seat size = start := by
  have hle : start.offset + size ≤ slotBytes := by simpa [start] using h
  exact if_neg (Nat.not_lt.mpr hle)

theorem seat_fits (h : size ≤ slotBytes) : (c.seat size).offset + size ≤ slotBytes := by
  unfold seat
  split_ifs with hc
  · simpa [nextSlot] using h
  · exact Nat.not_lt.mp hc

/-- Leaving a full slot at once or only for the next variable makes no difference. -/
theorem seat_after (hc : c.offset + size ≤ slotBytes) (hpos : 1 ≤ next)
    (hle : next ≤ slotBytes) : (c.after size).seat next = c.behind size next := by
  unfold after behind
  split_ifs with hfull hfits hfits
  · omega
  · have hn : c.nextSlot.offset + next ≤ slotBytes := by simpa [nextSlot] using hle
    exact if_neg (Nat.not_lt.mpr hn)
  · exact if_neg (Nat.not_lt.mpr hfits)
  · exact if_pos (Nat.not_le.mp hfits)

def past (c : Cursor) : List Declaration → Cursor
  | [] => c
  | d :: ds =>
    if d.occupiesStorage then ((c.seat d.type.size).after d.type.size).past ds else c.past ds

end Cursor

namespace Declaration

variable (d : Declaration) (c : Cursor)

theorem fitsSlot_type : d.type.FitsSlot :=
  SolidityType.fitsSlot_ofName d.typeName

@[simp] theorem size_placedAt : (d.placedAt c).size = d.type.size := rfl

@[simp] theorem position_placedAt : (d.placedAt c).position = c := rfl

theorem fitsSlot_placedAt_seat : (d.placedAt (c.seat d.type.size)).FitsSlot := by
  rw [Variable.FitsSlot, Variable.stop, size_placedAt]
  exact ⟨d.fitsSlot_type.1, Cursor.seat_fits d.fitsSlot_type.2⟩

end Declaration

theorem placeFrom_append (c : Cursor) (ds es : List Declaration) :
    placeFrom c (ds ++ es) = placeFrom c ds ++ placeFrom (c.past ds) es := by
  induction ds generalizing c with
  | nil => rfl
  | cons d ds ih => cases h : d.occupiesStorage <;> simp [placeFrom, Cursor.past, h, ih]

theorem placeFrom_filter (c : Cursor) (ds : List Declaration) :
    placeFrom c (ds.filter (·.occupiesStorage)) = placeFrom c ds := by
  induction ds generalizing c with
  | nil => rfl
  | cons d ds ih => cases h : d.occupiesStorage <;> simp [placeFrom, h, ih]

theorem placeFrom_map_declared (c : Cursor) (ds : List Declaration) :
    (placeFrom c ds).map (fun v => (v.name, v.typeName, v.size)) =
      (ds.filter (·.occupiesStorage)).map
        fun d => (d.name, d.typeName, SolidityType.sizeOfName d.typeName) := by
  fun_induction placeFrom c ds with
  | case1 c => rfl
  | case2 c d ds hd seat ih =>
    rw [List.filter_cons_of_pos hd, List.map_cons, List.map_cons, ih, Declaration.size_placedAt]
    rfl
  | case3 c d ds hd ih => rw [List.filter_cons_of_neg hd, ih]

section

variable {c : Cursor} {ds : List Declaration} {v : Variable}

theorem fitsSlot_of_mem_placeFrom (h : v ∈ placeFrom c ds) : v.FitsSlot := by
  fun_induction placeFrom c ds with
  | case1 c => cases h
  | case2 c d ds hd seat ih =>
    rcases List.mem_cons.mp h with rfl | h
    · exact d.fitsSlot_placedAt_seat c
    · exact ih h
  | case3 c d ds hd ih => exact ih h

theorem position_of_mem_head?_placeFrom (h : v ∈ (placeFrom c ds).head?) :
    v.position = c.seat v.size := by
  fun_induction placeFrom c ds with
  | case1 c => cases h
  | case2 c d ds hd seat ih =>
    obtain rfl : d.placedAt seat = v := Option.some.inj h
    rw [d.position_placedAt, d.size_placedAt]
  | case3 c d ds hd ih => exact ih h

theorem isChain_placeFrom : (placeFrom c ds).IsChain Variable.Follows := by
  fun_induction placeFrom c ds with
  | case1 c => exact .nil
  | case2 c d ds hd seat ih =>
    rw [List.isChain_cons]
    constructor
    · intro w hw
      obtain ⟨hpos, hstop⟩ := fitsSlot_of_mem_placeFrom (List.mem_of_mem_head? hw)
      have hfits : seat.offset + d.type.size ≤ slotBytes := Cursor.seat_fits d.fitsSlot_type.2
      rw [Variable.Follows, position_of_mem_head?_placeFrom hw, d.position_placedAt,
        d.size_placedAt]
      exact Cursor.seat_after hfits hpos (Nat.le_of_add_left_le hstop)
    · exact ih
  | case3 c d ds hd ih => exact ih

end

theorem Packed.of_placement (ds : List Declaration) : Packed (placeFrom .start ds) where
  first v hv := by
    have hstop := (fitsSlot_of_mem_placeFrom (List.mem_of_mem_head? hv)).2
    rw [position_of_mem_head?_placeFrom hv]
    exact Cursor.seat_start (Nat.le_of_add_left_le hstop)
  next := isChain_placeFrom

end StorageLayout
