import Mathlib.Data.Option.Basic
import Mathlib.Tactic.SplitIfs
import StorageLayout.SolidityType

/-!
# Sizes of named types

Whatever a declaration gives as its type, the variable takes at least one byte and at most a
slot: the widths that are read from a name are bounded, and all other sizes are fixed.
-/

namespace StorageLayout.SolidityType

def FitsSlot (t : SolidityType) : Prop :=
  1 ≤ t.size ∧ t.size ≤ slotBytes

instance (t : SolidityType) : Decidable t.FitsSlot :=
  inferInstanceAs (Decidable (_ ∧ _))

theorem bind_guard_eq_some_iff {o : Option Nat} {p : Nat → Prop} [DecidablePred p] {n : Nat} :
    (do let m ← o; guard (p m); return m) = some n ↔ o = some n ∧ p n := by
  simp only [Option.bind_eq_bind, Option.bind_eq_some_iff, Option.guard_eq_some',
    Option.pure_def, Option.some.injEq]
  constructor
  · rintro ⟨m, hm, _, hp, rfl⟩
    exact ⟨hm, hp⟩
  · rintro ⟨hn, hp⟩
    exact ⟨n, hn, (), hp, rfl⟩

theorem integerWidth?_eq_some_iff {s : List Char} {bits : Nat} :
    integerWidth? s = some bits ↔ numeral? s = some bits ∧
      8 ≤ bits ∧ bits ≤ 256 ∧ bits % 8 = 0 ∧ s.head? ≠ some '0' :=
  bind_guard_eq_some_iff

theorem byteWidth?_eq_some_iff {s : List Char} {width : Nat} :
    byteWidth? s = some width ↔ numeral? s = some width ∧
      1 ≤ width ∧ width ≤ slotBytes ∧ s.head? ≠ some '0' :=
  bind_guard_eq_some_iff

theorem fitsSlot_of_size_eq_slotBytes {t : SolidityType} (h : t.size = slotBytes) :
    t.FitsSlot := by
  rw [FitsSlot, h]
  decide

theorem fitsSlot_uint {s : List Char} {bits : Nat} (h : integerWidth? s = some bits) :
    (uint bits).FitsSlot := by
  obtain ⟨-, hlow, hhigh, -⟩ := integerWidth?_eq_some_iff.mp h
  simp only [FitsSlot, size, slotBytes]
  omega

theorem fitsSlot_int {s : List Char} {bits : Nat} (h : integerWidth? s = some bits) :
    (int bits).FitsSlot :=
  fitsSlot_uint h

theorem fitsSlot_fixedBytes {s : List Char} {width : Nat} (h : byteWidth? s = some width) :
    (fixedBytes width).FitsSlot := by
  obtain ⟨-, hlow, hhigh, -⟩ := byteWidth?_eq_some_iff.mp h
  exact ⟨hlow, hhigh⟩

theorem fitsSlot_ofElementaryName (s : List Char) : (ofElementaryName s).FitsSlot := by
  unfold ofElementaryName
  split_ifs
  any_goals decide
  split
  case h_1 bits hu =>
    obtain ⟨_, -, hw⟩ := Option.bind_eq_some_iff.mp hu
    exact fitsSlot_uint hw
  case h_2 bits _ hi =>
    obtain ⟨_, -, hw⟩ := Option.bind_eq_some_iff.mp hi
    exact fitsSlot_int hw
  case h_3 width _ _ hb =>
    obtain ⟨_, -, hw⟩ := Option.bind_eq_some_iff.mp hb
    exact fitsSlot_fixedBytes hw
  case h_4 => exact fitsSlot_of_size_eq_slotBytes rfl

theorem fitsSlot_ofName (name : String) : (ofName name).FitsSlot := by
  unfold ofName
  dsimp only
  split_ifs
  · decide
  · decide
  · exact fitsSlot_ofElementaryName _

end StorageLayout.SolidityType
