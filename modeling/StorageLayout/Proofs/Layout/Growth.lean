import Mathlib.Tactic.SplitIfs
import StorageLayout.Layout.Usage
import StorageLayout.Proofs.Exchange.LayoutRoundTrip
import StorageLayout.Proofs.Layout.Bytes

/-!
# Growth in words

Slots and bytes are counted in words of 64 bits, and the growth compares the counts as words with a
sign. Slots are few enough for that, but the unused bytes may be so many that their count turns
negative. The change of the unused bytes is exact if that happens to both layouts or to neither. If
it happens to one of them, the change has the wrong sign or is no word at all.
-/

namespace StorageLayout

/-- The number, if a word of 64 bits holds it. -/
def word? (n : Nat) : Option Nat :=
  if n < UInt64.size then some n else none

/-- A word of 64 bits with a sign holds the number. -/
def IsSignedWord (n : Int) : Prop :=
  -2 ^ 63 ≤ n ∧ n < 2 ^ 63

instance (n : Int) : Decidable (IsSignedWord n) :=
  inferInstanceAs (Decidable (_ ∧ _))

def signedWord? (n : Int) : Option Int :=
  if IsSignedWord n then some n else none

section Words

variable {m n : Nat}

theorem signedWord_eq (h : n < UInt64.size) :
    signedWord n = if n < 2 ^ 63 then (n : Int) else n - 2 ^ 64 := by
  unfold signedWord
  rw [Int.bmod_def]
  simp only [UInt64.size] at h ⊢
  split_ifs <;> omega

theorem signedWord_eq_iff (h : n < UInt64.size) : signedWord n = n ↔ n < 2 ^ 63 := by
  rw [signedWord_eq h]
  split_ifs <;> omega

/-- What a sign takes off a number does not show in a difference if it is taken off both. -/
theorem signedWord_sub_eq_iff (hm : m < UInt64.size) (hn : n < UInt64.size) :
    signedWord n - signedWord m = n - m ↔ (m < 2 ^ 63 ↔ n < 2 ^ 63) := by
  rw [signedWord_eq hm, signedWord_eq hn]
  split_ifs <;> omega

theorem signedWord_sub_neg_iff (hm : m < UInt64.size) (hn : n < UInt64.size)
    (h : ¬ (m < 2 ^ 63 ↔ n < 2 ^ 63)) : signedWord n - signedWord m < 0 ↔ m < n := by
  unfold UInt64.size at hm hn
  rw [signedWord_eq hm, signedWord_eq hn]
  split_ifs <;> omega

theorem isSignedWord_sub (hm : m < UInt64.size) (hn : n < UInt64.size)
    (h : m < 2 ^ 63 ↔ n < 2 ^ 63) : IsSignedWord (n - m) := by
  unfold UInt64.size at hm hn
  unfold IsSignedWord
  omega

end Words

/-- The sizes of the variables added to `n` in words. -/
def totalSizeInWords? (n : Nat) : List Variable → Option Nat
  | [] => some n
  | v :: vs => (word? (n + v.size)).bind fun sum => totalSizeInWords? sum vs

/-- The sum passes the greatest word on the way exactly if it does so in the end. -/
theorem totalSizeInWords?_eq {n : Nat} (h : n < UInt64.size) (vs : List Variable) :
    totalSizeInWords? n vs = word? (n + totalSize vs) := by
  induction vs generalizing n with
  | nil => exact (if_pos h).symm
  | cons v vs ih =>
    rw [totalSizeInWords?, totalSize_cons, ← Nat.add_assoc]
    by_cases hsum : n + v.size < UInt64.size
    · rw [word?, if_pos hsum, Option.bind_some, ih hsum]
    · have htotal : ¬ n + v.size + totalSize vs < UInt64.size := by omega
      rw [word?, if_neg hsum, word?, if_neg htotal, Option.bind_none]

namespace Layout

/-- The bytes of the slots and those of the variables can be counted in words. -/
def CountsInWords (m : Layout) : Prop :=
  m.totalSlots < 2 ^ 59 ∧ (m.vars.map (·.size)).sum < 2 ^ 64

instance (m : Layout) : Decidable m.CountsInWords :=
  inferInstanceAs (Decidable (_ ∧ _))

/-- The bytes of the slots less the sizes of the variables, none if these are larger. -/
def unusedBytes (m : Layout) : Int :=
  max 0 (slotBytes * m.totalSlots - (m.vars.map (·.size)).sum)

/-- The count of the unused bytes stays what it is in a word with a sign. -/
def KeepsSign (m : Layout) : Prop :=
  m.unusedBytes < 2 ^ 63

instance (m : Layout) : Decidable m.KeepsSign :=
  inferInstanceAs (Decidable (_ < _))

def bytesWastedInWords? (m : Layout) : Option Nat := do
  let allocated ← word? (m.totalSlots * slotBytes)
  let used ← totalSizeInWords? 0 m.vars
  return allocated - used

/-- The added slots and the change of the unused bytes, counted in words. A sum, a product or a
difference may be no word, but giving a count a sign always yields one. -/
def growthInWords? (old new : Layout) : Option (Int × Int) := do
  let slotsAdded ← signedWord? (signedWord new.totalSlots - signedWord old.totalSlots)
  let oldWasted ← old.bytesWastedInWords?
  let newWasted ← new.bytesWastedInWords?
  let bytesWasted ← signedWord? (signedWord newWasted - signedWord oldWasted)
  return (slotsAdded, bytesWasted)

section Wasted

variable {m : Layout}

theorem bytesWasted_eq_unusedBytes (m : Layout) : (m.bytesWasted : Int) = m.unusedBytes := by
  rw [bytesWasted, bytesUsed, bytesAllocated, unusedBytes, totalSize, slotBytes]
  omega

theorem keepsSign_iff (m : Layout) : m.KeepsSign ↔ m.bytesWasted < 2 ^ 63 := by
  rw [KeepsSign, ← bytesWasted_eq_unusedBytes]
  exact_mod_cast Iff.rfl

namespace CountsInWords

theorem totalSlots_lt (h : m.CountsInWords) : m.totalSlots < UInt64.size / 2 :=
  h.1.trans (by decide)

theorem bytesAllocated_lt (h : m.CountsInWords) : m.bytesAllocated < UInt64.size := by
  have hslots : m.totalSlots < 2 ^ 59 := h.1
  simp only [bytesAllocated, slotBytes, UInt64.size]
  omega

theorem bytesWasted_lt (h : m.CountsInWords) : m.bytesWasted < UInt64.size :=
  (Nat.sub_le _ _).trans_lt h.bytesAllocated_lt

theorem bytesWastedInWords?_eq (h : m.CountsInWords) :
    m.bytesWastedInWords? = some m.bytesWasted := by
  have hallocated : word? (m.totalSlots * slotBytes) = some m.bytesAllocated :=
    if_pos h.bytesAllocated_lt
  have hused : totalSizeInWords? 0 m.vars = some m.bytesUsed := by
    have hsum : totalSize m.vars < UInt64.size := h.2
    rw [totalSizeInWords?_eq (by decide), Nat.zero_add, word?, if_pos hsum, bytesUsed]
  rw [bytesWastedInWords?, hallocated, hused]
  rfl

theorem signedWord_bytesWasted_eq_iff (h : m.CountsInWords) :
    signedWord m.bytesWasted = m.unusedBytes ↔ m.KeepsSign := by
  rw [keepsSign_iff, ← bytesWasted_eq_unusedBytes, signedWord_eq_iff h.bytesWasted_lt]

end CountsInWords

end Wasted

section Growth

variable {old new : Layout}

theorem growthInWords?_eq (hold : old.CountsInWords) (hnew : new.CountsInWords) :
    old.growthInWords? new =
      (signedWord? (old.growth new).bytesWasted).map ((old.growth new).slotsAdded, ·) := by
  have hslots : signedWord? (signedWord new.totalSlots - signedWord old.totalSlots) =
      some (old.growth new).slotsAdded := by
    apply if_pos
    rw [signedWord_of_lt hold.totalSlots_lt, signedWord_of_lt hnew.totalSlots_lt]
    exact isSignedWord_sub (hold.totalSlots_lt.trans (by decide))
      (hnew.totalSlots_lt.trans (by decide)) (iff_of_true hold.totalSlots_lt hnew.totalSlots_lt)
  have hwasted : (old.growth new).bytesWasted =
      signedWord new.bytesWasted - signedWord old.bytesWasted := by rw [growth]
  rw [growthInWords?, hslots, hold.bytesWastedInWords?_eq, hnew.bytesWastedInWords?_eq, hwasted,
    Option.map_eq_bind, Option.bind_eq_bind, Option.bind_some, Option.bind_eq_bind,
    Option.bind_some, Option.bind_some]
  rfl

theorem growthInWords?_eq_some_iff (hold : old.CountsInWords) (hnew : new.CountsInWords)
    {slotsAdded bytesWasted : Int} : old.growthInWords? new = some (slotsAdded, bytesWasted) ↔
      IsSignedWord (old.growth new).bytesWasted ∧
        (old.growth new).slotsAdded = slotsAdded ∧ (old.growth new).bytesWasted = bytesWasted := by
  rw [growthInWords?_eq hold hnew, signedWord?]
  split_ifs with h
  · rw [Option.map_some, Option.some_inj, Prod.mk.injEq]
    exact (and_iff_right h).symm
  · rw [Option.map_none]
    exact iff_of_false (Option.some_ne_none _).symm fun hword => h hword.1

/-- The number of added slots is exact. The change of the unused bytes is exact if and only if the
counts of both layouts or of neither keep their value when they get a sign, and then it is a word.
Otherwise it has the wrong sign. Whatever it is, all other numbers that the growth is computed from
are words. -/
theorem growth_exact_iff (hold : old.CountsInWords) (hnew : new.CountsInWords) :
    (old.growth new).slotsAdded = (new.totalSlots : Int) - old.totalSlots ∧
      (signedWord old.bytesWasted = old.unusedBytes ↔ old.KeepsSign) ∧
      (signedWord new.bytesWasted = new.unusedBytes ↔ new.KeepsSign) ∧
      ((old.growth new).bytesWasted = new.unusedBytes - old.unusedBytes ↔
        (old.KeepsSign ↔ new.KeepsSign)) ∧
      ((old.KeepsSign ↔ new.KeepsSign) → IsSignedWord (old.growth new).bytesWasted) ∧
      (¬ (old.KeepsSign ↔ new.KeepsSign) →
        ((old.growth new).bytesWasted < 0 ↔ old.unusedBytes < new.unusedBytes)) ∧
      ∀ slotsAdded bytesWasted, old.growthInWords? new = some (slotsAdded, bytesWasted) ↔
        IsSignedWord (old.growth new).bytesWasted ∧
          (old.growth new).slotsAdded = slotsAdded ∧
          (old.growth new).bytesWasted = bytesWasted := by
  have hexact : (old.growth new).bytesWasted = new.unusedBytes - old.unusedBytes ↔
      (old.KeepsSign ↔ new.KeepsSign) := by
    rw [growth, keepsSign_iff, keepsSign_iff, ← bytesWasted_eq_unusedBytes,
      ← bytesWasted_eq_unusedBytes]
    exact signedWord_sub_eq_iff hold.bytesWasted_lt hnew.bytesWasted_lt
  refine ⟨slotsAdded_growth hold.totalSlots_lt hnew.totalSlots_lt,
    hold.signedWord_bytesWasted_eq_iff, hnew.signedWord_bytesWasted_eq_iff, hexact, ?_, ?_,
    fun _ _ => growthInWords?_eq_some_iff hold hnew⟩
  · intro h
    rw [hexact.mpr h, ← bytesWasted_eq_unusedBytes, ← bytesWasted_eq_unusedBytes]
    rw [keepsSign_iff, keepsSign_iff] at h
    exact isSignedWord_sub hold.bytesWasted_lt hnew.bytesWasted_lt h
  · intro h
    rw [keepsSign_iff, keepsSign_iff] at h
    rw [growth, ← bytesWasted_eq_unusedBytes, ← bytesWasted_eq_unusedBytes, Int.ofNat_lt]
    exact signedWord_sub_neg_iff hold.bytesWasted_lt hnew.bytesWasted_lt h

/-- Two layouts with nearly as many slots as can be counted are compared exactly, although neither
count of unused bytes keeps its value. Compared with an empty layout, one of them seems to save. -/
theorem growth_exact_iff_sparse :
    let full : Layout := ⟨"Vault", [⟨"a", "uint256", 0, 0, 32, true, false⟩], 2 ^ 59 - 1, []⟩
    let fewer : Layout := ⟨"Vault", [], 2 ^ 59 - 3, []⟩
    let empty : Layout := .empty "Vault"
    full.CountsInWords ∧ fewer.CountsInWords ∧ empty.CountsInWords ∧
      (¬ full.KeepsSign ∧ ¬ fewer.KeepsSign ∧ full.growthInWords? fewer = some (-2, -32)) ∧
      empty.KeepsSign ∧ (empty.growth full).bytesWasted < 0 := by
  intro full fewer empty
  obtain ⟨hfull, hfewer, hempty⟩ :
      full.CountsInWords ∧ fewer.CountsInWords ∧ empty.CountsInWords := by decide +kernel
  have hlarge : ¬ full.KeepsSign ∧ ¬ fewer.KeepsSign := by decide +kernel
  have hsmall : empty.KeepsSign := by decide +kernel
  have hgrowth : full.growthInWords? fewer = some (-2, -32) := by
    obtain ⟨hslots, -, -, hexact, hword, -, hwords⟩ := growth_exact_iff hfull hfewer
    have hboth : full.KeepsSign ↔ fewer.KeepsSign := iff_of_false hlarge.1 hlarge.2
    rw [hwords, hslots, hexact.mpr hboth]
    exact ⟨hexact.mpr hboth ▸ hword hboth, by decide +kernel⟩
  have hseems : (empty.growth full).bytesWasted < 0 := by
    obtain ⟨-, -, -, -, -, hwrong, -⟩ := growth_exact_iff hempty hfull
    apply (hwrong fun h => hlarge.1 (h.mp hsmall)).mpr
    decide +kernel
  exact ⟨hfull, hfewer, hempty, ⟨hlarge.1, hlarge.2, hgrowth⟩, hsmall, hseems⟩

/-- A layout that leaves unused nearly as many bytes as can be counted is accepted, and growing to it
from an empty one seems to leave 32 bytes less unused than before. -/
theorem growth_mistakes_waste_for_saving :
    let m : Layout := ⟨"Vault", [], 2 ^ 59 - 1, []⟩
    let empty : Layout := .empty "Vault"
    Layout.load m.toJson = .ok m ∧ m.CountsInWords ∧ empty.CountsInWords ∧
      m.unusedBytes - empty.unusedBytes = 2 ^ 64 - 32 ∧ (empty.growth m).bytesWasted = -32 := by
  intro m empty
  have hload : Layout.load m.toJson = .ok m :=
    load_eq_ok_iff.mpr ⟨decode_toJson (by decide +kernel), by decide⟩
  refine ⟨hload, ?_, ?_, ?_, ?_⟩ <;> decide +kernel

end Growth

end Layout

end StorageLayout
