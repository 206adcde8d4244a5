import Mathlib.Algebra.GroupWithZero.Nat
import StorageLayout.Proofs.Layout.Calculated

/-!
# The lowest slots

Variables that keep their order could be put into slots in other ways, as long as no slot takes
more bytes than it has. The packing rule is one of these ways, and it stays ahead of every other:
counted in bytes from the start of storage, no variable ends later than it does there. So a
calculated layout gives each variable the lowest slot that any such assignment can give it.
-/

namespace StorageLayout

/-- The bytes in slot `s` if things of these sizes lie in these slots. -/
def slotLoad (sizes slots : List Nat) (s : Nat) : Nat :=
  (((sizes.zip slots).filter (·.2 = s)).map (·.1)).sum

@[simp] theorem slotLoad_cons (n t : Nat) (sizes slots : List Nat) (s : Nat) :
    slotLoad (n :: sizes) (t :: slots) s = (if t = s then n else 0) + slotLoad sizes slots s := by
  by_cases h : t = s <;> simp [slotLoad, h]

/-- A slot for each size, none before that of its predecessor, so that every slot can hold what
is put into it. -/
structure SlotAssignment (sizes : List Nat) where
  slots : List Nat
  length_eq : slots.length = sizes.length
  ascending : slots.Pairwise (· ≤ ·)
  fits : ∀ s, slotLoad sizes slots s ≤ slotBytes

namespace Variable

/-- The variable ends no later than `fill` bytes into slot `t`. -/
def EndsBy (v : Variable) (t fill : Nat) : Prop :=
  v.slot * slotBytes + v.stop ≤ t * slotBytes + fill

/-- The bytes of slot `s` that lie behind the variable. -/
def room (v : Variable) (s : Nat) : Nat :=
  if s < v.slot then 0 else if s = v.slot then slotBytes - v.stop else slotBytes

variable {v w : Variable}

/-- The packing rule stays ahead: whichever slot the next variable is assigned to, it starts
there or before, and ends no later than the bytes assigned so far. -/
theorem Follows.endsBy {t t' fill : Nat} (h : v.Follows w) (hw : w.FitsSlot)
    (hv : v.EndsBy t fill) (ht : t ≤ t') (hfill : fill ≤ slotBytes)
    (hnext : w.size + (if t = t' then fill else 0) ≤ slotBytes) :
    w.slot ≤ t' ∧ w.EndsBy t' (w.size + if t = t' then fill else 0) := by
  obtain ⟨hpos, hstop⟩ := hw
  simp only [EndsBy, stop, slotBytes] at *
  rcases follows_iff.mp h with ⟨hle, hslot, hoffset⟩ | ⟨hlt, hslot, hoffset⟩
  all_goals
    simp only [stop, slotBytes] at *
    split_ifs at hnext ⊢ <;> omega

theorem Follows.room_le (h : v.Follows w) (hv : v.FitsSlot) (hw : w.FitsSlot) (s : Nat) :
    (if w.slot = s then w.size else 0) + w.room s ≤ v.room s := by
  obtain ⟨-, hvstop⟩ := hv
  obtain ⟨-, hwstop⟩ := hw
  rcases follows_iff.mp h with ⟨hle, hslot, hoffset⟩ | ⟨hlt, hslot, hoffset⟩
  all_goals
    simp only [room, stop, slotBytes] at *
    split_ifs <;> omega

end Variable

namespace Packed

variable {vs : List Variable} {slots : List Nat}

/-- Variables that follow the packing rule behind `v` stay ahead of an assignment that has
reached `fill` bytes of slot `t`. -/
theorem forall₂_slot_le_of_follows {v : Variable} {t fill : Nat}
    (hchain : (v :: vs).IsChain Variable.Follows) (hfits : ∀ w ∈ vs, w.FitsSlot)
    (hlength : slots.length = vs.length) (hascending : (t :: slots).Pairwise (· ≤ ·))
    (hload : ∀ s, (if t = s then fill else 0) + slotLoad (vs.map (·.size)) slots s ≤ slotBytes)
    (hv : v.EndsBy t fill) : List.Forall₂ (· ≤ ·) (vs.map (·.slot)) slots := by
  induction vs generalizing v t fill slots with
  | nil =>
    obtain rfl : slots = [] := List.length_eq_zero_iff.mp hlength
    exact .nil
  | cons w vs ih =>
    cases slots with
    | nil => simp at hlength
    | cons t' slots =>
      obtain ⟨hvw, hchain⟩ := List.isChain_cons_cons.mp hchain
      obtain ⟨ht, hascending⟩ := List.pairwise_cons.mp hascending
      simp only [List.map_cons, slotLoad_cons] at hload
      -- What slot `t'` holds once `w` is put into it.
      have hnext := hload t'
      have hfill := hload t
      simp only [if_true] at hnext hfill
      obtain ⟨hslot, hw⟩ := hvw.endsBy (hfits w List.mem_cons_self) hv (ht t' List.mem_cons_self)
        (by omega) (by omega)
      refine .cons hslot (ih hchain (fun x hx => hfits x (List.mem_cons_of_mem _ hx))
        (by simpa using hlength) hascending (fun s => ?_) hw)
      have hs := hload s
      split_ifs at hs ⊢ <;> omega

variable (h : Packed vs) (hfits : ∀ v ∈ vs, v.FitsSlot)

include h hfits

theorem forall₂_slot_le (a : SlotAssignment (vs.map (·.size))) :
    List.Forall₂ (· ≤ ·) (vs.map (·.slot)) a.slots := by
  obtain ⟨slots, hlength, hascending, hload⟩ := a
  cases vs with
  | nil =>
    obtain rfl : slots = [] := List.length_eq_zero_iff.mp hlength
    exact .nil
  | cons v vs =>
    cases slots with
    | nil => simp at hlength
    | cons t slots =>
      obtain ⟨hslot, hoffset⟩ := Cursor.mk.inj (h.first v rfl)
      have hends : v.EndsBy t v.size := by
        simp only [Variable.EndsBy, Variable.stop, hslot, hoffset]
        omega
      simp only [List.map_cons, slotLoad_cons] at hload
      refine .cons (hslot.trans_le (Nat.zero_le t)) (forall₂_slot_le_of_follows h.next
        (fun x hx => hfits x (List.mem_cons_of_mem _ hx)) (by simpa using hlength) hascending
        hload hends)

end Packed

/-- Behind a variable, every slot is given the bytes that are left of it at most. -/
theorem slotLoad_le_room {v : Variable} {vs : List Variable}
    (hchain : (v :: vs).IsChain Variable.Follows) (hfits : ∀ w ∈ v :: vs, w.FitsSlot) (s : Nat) :
    slotLoad (vs.map (·.size)) (vs.map (·.slot)) s ≤ v.room s := by
  induction vs generalizing v with
  | nil => exact Nat.zero_le _
  | cons w vs ih =>
    obtain ⟨hvw, hchain⟩ := List.isChain_cons_cons.mp hchain
    have hv : v.FitsSlot := hfits v List.mem_cons_self
    have hrest : ∀ x ∈ w :: vs, x.FitsSlot := fun x hx => hfits x (List.mem_cons_of_mem _ hx)
    have hw : w.FitsSlot := hrest w List.mem_cons_self
    rw [List.map_cons, List.map_cons, slotLoad_cons]
    exact (Nat.add_le_add_left (ih hchain hrest) _).trans (hvw.room_le hv hw s)

theorem Packed.slotLoad_le {vs : List Variable} (h : Packed vs) (hfits : ∀ v ∈ vs, v.FitsSlot)
    (s : Nat) : slotLoad (vs.map (·.size)) (vs.map (·.slot)) s ≤ slotBytes := by
  cases vs with
  | nil => exact Nat.zero_le _
  | cons v vs =>
    have hroom := slotLoad_le_room h.next hfits s
    have hoffset : v.offset = 0 := congrArg Cursor.offset (h.first v rfl)
    have hstop : v.stop ≤ slotBytes := (hfits v List.mem_cons_self).2
    rw [List.map_cons, List.map_cons, slotLoad_cons]
    simp only [Variable.room, Variable.stop] at hroom hstop
    split_ifs at hroom ⊢ <;> omega

theorem Packed.pairwise_slot_le {vs : List Variable} (h : Packed vs) :
    (vs.map (·.slot)).Pairwise (· ≤ ·) := by
  rw [List.pairwise_map]
  apply h.pairwise_precedes.imp
  intro v w hvw
  simp only [Variable.Precedes] at hvw
  omega

def Packed.assignment {vs : List Variable} (h : Packed vs) (hfits : ∀ v ∈ vs, v.FitsSlot) :
    SlotAssignment (vs.map (·.size)) where
  slots := vs.map (·.slot)
  length_eq := (List.length_map _).trans (List.length_map _).symm
  ascending := h.pairwise_slot_le
  fits := h.slotLoad_le hfits

namespace Contract

variable (c : Contract)

def storageSizes : List Nat :=
  c.storageDeclarations.map (SolidityType.sizeOfName ·.typeName)

variable {c} in
theorem totalSlots_le_of_forall₂ {slots : List Nat}
    (h : List.Forall₂ (· ≤ ·) (c.layout.vars.map (·.slot)) slots) :
    c.layout.totalSlots ≤ (slots.max?.map (· + 1)).getD 0 := by
  by_contra hlt
  obtain ⟨v, hv, hslot⟩ := lt_slotCount_iff.mp (Nat.not_le.mp hlt)
  obtain ⟨s, hs, hle⟩ : ∃ s ∈ slots, v.slot ≤ s :=
    exists_of_forall₂_of_mem h.flip (List.mem_map_of_mem hv)
  cases hmax : slots.max? with
  | none => simp_all
  | some top =>
    have htop : s ≤ top := (List.max?_eq_some_iff.mp hmax).2 s hs
    simp only [hmax, Option.map_some, Option.getD_some] at hslot
    omega

/-- The slots of a calculated layout are the lowest ones that keep the order of the storage
declarations and split none of them. -/
theorem layout_slots_least :
    (∃ a : SlotAssignment c.storageSizes, a.slots = c.layout.vars.map (·.slot)) ∧
      ∀ a : SlotAssignment c.storageSizes,
        List.Forall₂ (· ≤ ·) (c.layout.vars.map (·.slot)) a.slots ∧
          c.layout.totalSlots ≤ (a.slots.max?.map (· + 1)).getD 0 := by
  have hfits : ∀ v ∈ c.layout.vars, v.FitsSlot := fun v => fitsSlot_of_mem_layout
  have hsizes : c.layout.vars.map (·.size) = c.storageSizes := c.layout_map_size
  rw [← hsizes]
  refine ⟨⟨c.packed_layout.assignment hfits, rfl⟩, fun a => ?_⟩
  have hslots := c.packed_layout.forall₂_slot_le hfits a
  exact ⟨hslots, totalSlots_le_of_forall₂ hslots⟩

end Contract

end StorageLayout
