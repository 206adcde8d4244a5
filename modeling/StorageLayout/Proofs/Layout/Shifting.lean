import StorageLayout.Proofs.Layout.Calculated

/-!
# Placement from a later slot

A placement looks at the offset of its cursor only. Started one slot later, it puts every variable
one slot later; started at the first slot without a variable, it changes nothing if the next
variable starts a slot anyway. So a variable that takes a whole slot shifts what is placed behind
it by that slot, wherever the variables before it end.
-/

namespace StorageLayout

namespace Cursor

/-- The same place in the next slot. -/
def later (c : Cursor) : Cursor where
  slot := c.slot + 1
  offset := c.offset

/-- The slots that hold bytes before the cursor. -/
def opened (c : Cursor) : Nat :=
  if c.offset = 0 then c.slot else c.slot + 1

/-- The start of the first slot that is still empty. -/
def fresh (c : Cursor) : Cursor where
  slot := c.opened
  offset := 0

variable {c : Cursor} {size : Nat}

theorem seat_later : c.later.seat size = (c.seat size).later := by
  by_cases h : slotBytes < c.offset + size <;> simp [seat, later, nextSlot, h]

theorem after_later : c.later.after size = (c.after size).later := by
  by_cases h : slotBytes ≤ c.offset + size <;> simp [after, later, nextSlot, h]

theorem seat_fresh (h : size ≤ slotBytes) : c.fresh.seat size = c.fresh := by
  have hle : c.fresh.offset + size ≤ slotBytes := by simpa [fresh] using h
  exact if_neg (Nat.not_lt.mpr hle)

theorem seat_eq_fresh (hle : size ≤ slotBytes) (h : (c.seat size).offset = 0) :
    c.seat size = c.fresh := by
  obtain ⟨slot, offset⟩ := c
  simp only [seat, fresh, opened, nextSlot] at *
  split_ifs at h ⊢ <;> grind

theorem seat_slotBytes : c.seat slotBytes = c.fresh := by
  have hfits : (c.seat slotBytes).offset + slotBytes ≤ slotBytes := seat_fits (Nat.le_refl _)
  exact seat_eq_fresh (Nat.le_refl _) (by omega)

theorem after_slotBytes_fresh : c.fresh.after slotBytes = c.fresh.later :=
  if_pos (Nat.le_add_left _ _)

theorem opened_after (hpos : 1 ≤ size) : (c.after size).opened = c.slot + 1 := by
  simp only [after, opened, nextSlot]
  split_ifs <;> grind

theorem opened_le_seat : c.opened ≤ (c.seat size).slot + 1 := by
  simp only [opened, seat, nextSlot]
  split_ifs <;> grind

end Cursor

def Variable.later (v : Variable) : Variable :=
  { v with slot := v.slot + 1 }

theorem Declaration.placedAt_later (d : Declaration) (c : Cursor) :
    d.placedAt c.later = (d.placedAt c).later := rfl

theorem placeFrom_later (c : Cursor) (ds : List Declaration) :
    placeFrom c.later ds = (placeFrom c ds).map Variable.later := by
  induction ds generalizing c with
  | nil => rfl
  | cons d ds ih =>
    cases h : d.occupiesStorage with
    | true => simp [placeFrom, h, Cursor.seat_later, Cursor.after_later, d.placedAt_later, ih]
    | false => simp [placeFrom, h, ih]

/-- Where the first variable starts a slot, nothing changes if the cursor is moved to one. -/
theorem placeFrom_fresh {c : Cursor} {ds : List Declaration}
    (h : ∀ v ∈ (placeFrom c ds).head?, v.offset = 0) :
    placeFrom c.fresh ds = placeFrom c ds := by
  fun_induction placeFrom c ds with
  | case1 c => rfl
  | case2 c d ds hd seat ih =>
    have hsize : d.type.size ≤ slotBytes := d.fitsSlot_type.2
    have hseat : seat = c.fresh := Cursor.seat_eq_fresh hsize (h _ rfl)
    simp only [placeFrom, hd, if_true, Cursor.seat_fresh hsize, hseat]
  | case3 c d ds hd ih => simpa [placeFrom, hd] using ih h

theorem placeFrom_cons_slotBytes {d : Declaration} (hd : d.occupiesStorage = true)
    (hsize : d.type.size = slotBytes) (c : Cursor) (ds : List Declaration) :
    placeFrom c (d :: ds) = d.placedAt c.fresh :: placeFrom c.fresh.later ds := by
  simp only [placeFrom, hd, if_true, hsize, Cursor.seat_slotBytes, Cursor.after_slotBytes_fresh]

theorem slotCount_cons (v : Variable) (vs : List Variable) :
    slotCount (v :: vs) = max (v.slot + 1) (slotCount vs) := by
  apply eq_of_forall_lt_iff
  intro s
  have hmax : s < max (v.slot + 1) (slotCount vs) ↔ s ≤ v.slot ∨ s < slotCount vs := by omega
  rw [hmax, lt_slotCount_iff, lt_slotCount_iff, List.exists_mem_cons_iff]

/-- The slots in use behind a placement are those its cursor has left or begun. -/
theorem max_opened_slotCount (c : Cursor) (ds : List Declaration) :
    max c.opened (slotCount (placeFrom c ds)) = (c.past ds).opened := by
  induction ds generalizing c with
  | nil => exact Nat.max_zero _
  | cons d ds ih =>
    cases h : d.occupiesStorage with
    | true =>
      have hle : c.opened ≤ (c.seat d.type.size).slot + 1 := Cursor.opened_le_seat
      have hslot : (d.placedAt (c.seat d.type.size)).slot = (c.seat d.type.size).slot := rfl
      simp only [placeFrom, Cursor.past, h, if_true, slotCount_cons, hslot, ← ih,
        Cursor.opened_after d.fitsSlot_type.1, ← max_assoc, max_eq_right hle]
    | false => simpa [placeFrom, Cursor.past, h] using ih c

theorem Contract.totalSlots_eq_opened (c : Contract) :
    c.layout.totalSlots = (Cursor.start.past c.declarations).opened := by
  rw [← max_opened_slotCount]
  exact (Nat.zero_max _).symm

end StorageLayout
