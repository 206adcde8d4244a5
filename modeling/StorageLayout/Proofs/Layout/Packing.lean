import Mathlib.Data.List.Chain
import Mathlib.Data.List.Perm.Subperm
import Mathlib.Tactic.SplitIfs
import StorageLayout.Layout.Placement

/-!
# The packing rule

The rule that fixes where variables are stored: the first one starts at the first byte of
storage, and each other one starts right behind its predecessor if it fits there and at the
next slot if not. Variables that follow the rule ascend without overlapping and leave no slot
empty, and their sizes alone decide where they are.
-/

namespace StorageLayout

/-- Where a variable of `next` bytes starts that follows one of `size` bytes at this place. -/
def Cursor.behind (c : Cursor) (size next : Nat) : Cursor :=
  if c.offset + size + next ≤ slotBytes then { c with offset := c.offset + size } else c.nextSlot

namespace Variable

/-- The first byte of the variable. -/
def position (v : Variable) : Cursor where
  slot := v.slot
  offset := v.offset

/-- The variable has a byte and lies within its slot. -/
def FitsSlot (v : Variable) : Prop :=
  1 ≤ v.size ∧ v.stop ≤ slotBytes

/-- The variable starts where the packing rule puts it behind `v`. -/
def Follows (v w : Variable) : Prop :=
  w.position = v.position.behind v.size w.size

instance (v w : Variable) : Decidable (v.Follows w) :=
  inferInstanceAs (Decidable (_ = _))

/-- The variable ends before `w` starts. -/
def Precedes (v w : Variable) : Prop :=
  v.slot < w.slot ∨ v.slot = w.slot ∧ v.stop ≤ w.offset

variable {v w x : Variable}

theorem follows_iff : v.Follows w ↔
    (v.stop + w.size ≤ slotBytes ∧ w.slot = v.slot ∧ w.offset = v.stop) ∨
      (slotBytes < v.stop + w.size ∧ w.slot = v.slot + 1 ∧ w.offset = 0) := by
  simp only [Follows, position, Cursor.behind, Cursor.nextSlot, stop]
  split_ifs with h
  · simp [h, Nat.not_lt.mpr h]
  · simp [h, Nat.not_le.mp h]

theorem Follows.precedes (h : v.Follows w) : v.Precedes w := by
  rcases follows_iff.mp h with ⟨-, hs, ho⟩ | ⟨-, hs, -⟩
  · exact .inr ⟨hs.symm, ho.ge⟩
  · exact .inl (by omega)

theorem Precedes.trans (h : v.Precedes w) (k : w.Precedes x) : v.Precedes x := by
  simp only [Precedes, stop] at *
  omega

instance : Trans Precedes Precedes Precedes where
  trans := Precedes.trans

theorem Precedes.not_overlaps (h : v.Precedes w) : ¬ v.Overlaps w := by
  simp only [Precedes, Overlaps] at *
  omega

end Variable

/-- The packing rule for variables in the order of declaration. -/
structure Packed (vs : List Variable) : Prop where
  first : ∀ v ∈ vs.head?, v.position = .start
  next : vs.IsChain Variable.Follows

instance (vs : List Variable) : Decidable (Packed vs) :=
  decidable_of_iff ((∀ v ∈ vs.head?, v.position = .start) ∧ vs.IsChain Variable.Follows)
    ⟨fun h => ⟨h.1, h.2⟩, fun h => ⟨h.first, h.next⟩⟩

namespace Packed

variable {vs ws : List Variable}

theorem positions_eq_of_follows {v w : Variable} (hv : (v :: vs).IsChain Variable.Follows)
    (hw : (w :: ws).IsChain Variable.Follows) (hp : v.position = w.position)
    (h : (v :: vs).map (·.size) = (w :: ws).map (·.size)) :
    (v :: vs).map (·.position) = (w :: ws).map (·.position) := by
  induction vs generalizing v w ws with
  | nil => simp_all
  | cons v' vs ih =>
    cases ws with
    | nil => simp at h
    | cons w' ws =>
      obtain ⟨hvs, hv⟩ := List.isChain_cons_cons.mp hv
      obtain ⟨hws, hw⟩ := List.isChain_cons_cons.mp hw
      obtain ⟨hsize, hrest⟩ := List.cons.inj h
      have hsize' : v'.size = w'.size := (List.cons.inj hrest).1
      have hp' : v'.position = w'.position := by
        rw [hvs, hws, hp, hsize', show v.size = w.size from hsize]
      rw [List.map_cons, ih hv hw hp' hrest, hp]
      rfl

/-- The sizes alone decide where variables are stored. -/
theorem positions_eq (hv : Packed vs) (hw : Packed ws)
    (h : vs.map (·.size) = ws.map (·.size)) : vs.map (·.position) = ws.map (·.position) := by
  cases vs with
  | nil => simp_all
  | cons v vs =>
    cases ws with
    | nil => simp at h
    | cons w ws =>
      have hp : v.position = w.position := (hv.first v rfl).trans (hw.first w rfl).symm
      exact positions_eq_of_follows hv.next hw.next hp h

theorem pairwise_precedes (h : Packed vs) : vs.Pairwise Variable.Precedes :=
  (h.next.imp fun _ _ => Variable.Follows.precedes).pairwise

theorem exists_slot_eq_of_follows {v w : Variable} {s : Nat}
    (h : (v :: vs).IsChain Variable.Follows) (hw : w ∈ v :: vs) (hv : v.slot ≤ s)
    (hs : s ≤ w.slot) : ∃ x ∈ v :: vs, x.slot = s := by
  induction vs generalizing v with
  | nil =>
    obtain rfl := List.mem_singleton.mp hw
    exact ⟨w, hw, Nat.le_antisymm hv hs⟩
  | cons u us ih =>
    obtain ⟨hvu, hchain⟩ := List.isChain_cons_cons.mp h
    rcases hv.eq_or_lt with rfl | hlt
    · exact ⟨v, List.mem_cons_self, rfl⟩
    · have hu : u.slot ≤ s := by
        rcases Variable.follows_iff.mp hvu with ⟨-, hslot, -⟩ | ⟨-, hslot, -⟩ <;> omega
      have hw' : w ∈ u :: us := by
        rcases List.mem_cons.mp hw with rfl | hw
        · omega
        · exact hw
      obtain ⟨x, hx, hxs⟩ := ih hchain hw' hu
      exact ⟨x, List.mem_cons_of_mem _ hx, hxs⟩

theorem exists_slot_eq (h : Packed vs) {v : Variable} {s : Nat} (hv : v ∈ vs)
    (hs : s ≤ v.slot) : ∃ w ∈ vs, w.slot = s := by
  cases vs with
  | nil => cases hv
  | cons u us =>
    have hu : u.slot = 0 := congrArg Cursor.slot (h.first u rfl)
    exact exists_slot_eq_of_follows h.next hv (by omega) hs

end Packed

section SlotCount

variable {vs : List Variable} {s : Nat}

theorem lt_slotCount_iff : s < slotCount vs ↔ ∃ v ∈ vs, s ≤ v.slot := by
  suffices h : ∀ n, s < vs.foldl (fun n v => max n (v.slot + 1)) n ↔
      s < n ∨ ∃ v ∈ vs, s ≤ v.slot by
    simpa [slotCount] using h 0
  induction vs with
  | nil => simp
  | cons v vs ih =>
    intro n
    have hmax : s < max n (v.slot + 1) ↔ s < n ∨ s ≤ v.slot := by omega
    rw [List.foldl_cons, ih, List.exists_mem_cons_iff, hmax, or_assoc]

theorem slotCount_mono {ws : List Variable} (h : vs ⊆ ws) : slotCount vs ≤ slotCount ws := by
  by_contra hlt
  obtain ⟨v, hv, hs⟩ := lt_slotCount_iff.mp (Nat.not_le.mp hlt)
  exact Nat.lt_irrefl _ (lt_slotCount_iff.mpr ⟨v, h hv, hs⟩)

theorem slotCount_append_singleton (v : Variable) :
    slotCount (vs ++ [v]) = max (slotCount vs) (v.slot + 1) := by
  simp [slotCount]

theorem Packed.lt_slotCount_iff (h : Packed vs) : s < slotCount vs ↔ ∃ v ∈ vs, v.slot = s := by
  rw [StorageLayout.lt_slotCount_iff]
  constructor
  · rintro ⟨v, hv, hs⟩
    exact h.exists_slot_eq hv hs
  · rintro ⟨v, hv, rfl⟩
    exact ⟨v, hv, Nat.le_refl _⟩

theorem Packed.slotCount_eq (h : Packed vs) :
    slotCount vs = (vs.getLast?.map (·.slot + 1)).getD 0 := by
  rcases vs.eq_nil_or_concat' with rfl | ⟨us, v, rfl⟩
  · rfl
  · have hle : slotCount us ≤ v.slot + 1 := by
      by_contra hlt
      obtain ⟨u, hu, hs⟩ := StorageLayout.lt_slotCount_iff.mp (Nat.not_le.mp hlt)
      have hp := (List.pairwise_append.mp h.pairwise_precedes).2.2 u hu v (by simp)
      simp only [Variable.Precedes] at hp
      omega
    simp [slotCount_append_singleton, hle]

theorem Packed.slotCount_le_length (h : Packed vs) : slotCount vs ≤ vs.length := by
  have hsub : List.range (slotCount vs) ⊆ vs.map (·.slot) := by
    intro s hs
    exact List.mem_map.mpr (h.lt_slotCount_iff.mp (List.mem_range.mp hs))
  simpa using (List.nodup_range.subperm hsub).length_le

end SlotCount

end StorageLayout
