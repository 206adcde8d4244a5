import StorageLayout.Proofs.Comparison.Encounters
import StorageLayout.Proofs.Comparison.Reversal
import StorageLayout.Proofs.Exchange.LayoutRoundTrip
import StorageLayout.Proofs.Layout.Bytes

/-!
# The bytes that collisions share

A collision is reported with the bytes of the slot that belong to both of its variables, however far
these run past the end. Calculated layouts give a byte to one variable at most, so there a byte that
goes from one variable to another is in the overlap of one collision, and no other byte is in any.
-/

namespace StorageLayout

/-- The end of the variable in a word of 16 bits, added up from an offset and a size of 8 bits. -/
def Variable.stopWord (v : Variable) : UInt16 :=
  (UInt8.ofNat v.offset).toUInt16 + (UInt8.ofNat v.size).toUInt16

theorem Variable.toNat_stopWord {v : Variable} (h : v.FitsWords) : v.stopWord.toNat = v.stop := by
  obtain ⟨-, hoffset, hsize⟩ := h
  simp only [UInt8.size] at hoffset hsize
  simp only [stopWord, stop, UInt16.toNat_add, UInt8.toNat_toUInt16, UInt8.toNat_ofNat']
  omega

namespace Collision

variable {c : Collision} {s b : Nat}

/-- The overlap in words of 8 bits, cut down from the ends in words of 16 bits. -/
def overlapWords (c : Collision) : UInt8 × UInt8 :=
  (max (UInt8.ofNat c.previous.offset) (UInt8.ofNat c.current.offset),
    (min (min c.previous.stopWord c.current.stopWord) (UInt16.ofNat slotBytes)).toUInt8)

/-- Nothing is lost in the words, since the slot ends before the greatest byte. -/
theorem toNat_overlapWords (hp : c.previous.FitsWords) (hc : c.current.FitsWords) :
    c.overlapWords.1.toNat = c.overlap.start ∧ c.overlapWords.2.toNat = c.overlap.stop := by
  constructor
  · simp only [overlapWords, overlap, UInt8.toNat_max, UInt8.toNat_ofNat_of_lt' hp.2.1,
      UInt8.toNat_ofNat_of_lt' hc.2.1]
  · simp only [overlapWords, overlap, UInt16.toNat_toUInt8, UInt16.toNat_min,
      Variable.toNat_stopWord hp, Variable.toNat_stopWord hc, UInt16.toNat_ofNat', slotBytes]
    omega

/-- Byte `b` of slot `s` is in the overlap. -/
def Covers (c : Collision) (s b : Nat) : Prop :=
  c.slot = s ∧ c.overlap.start ≤ b ∧ b < c.overlap.stop

instance (c : Collision) (s b : Nat) : Decidable (c.Covers s b) :=
  inferInstanceAs (Decidable (_ ∧ _ ∧ _))

theorem mem_overlap_iff : c.overlap.start ≤ b ∧ b < c.overlap.stop ↔
    b < slotBytes ∧ (c.previous.offset ≤ b ∧ b < c.previous.stop) ∧
      (c.current.offset ≤ b ∧ b < c.current.stop) := by
  simp only [overlap]
  omega

theorem covers_iff (h : c.previous.Overlaps c.current) :
    c.Covers s b ↔ b < slotBytes ∧ c.previous.Holds s b ∧ c.current.Holds s b := by
  rw [Covers, mem_overlap_iff, slot, Variable.Holds, Variable.Holds, ← h.1]
  constructor
  · rintro ⟨hs, hb, hp, hc⟩
    exact ⟨hb, ⟨hs, hp⟩, hs, hc⟩
  · rintro ⟨hb, ⟨hs, hp⟩, -, hc⟩
    exact ⟨hs, hb, hp, hc⟩

theorem overlap_nonempty (ho : c.previous.Overlaps c.current) (hp : c.previous.InRange)
    (hc : c.current.InRange) : c.overlap.start < c.overlap.stop := by
  obtain ⟨-, hpc, hcp⟩ := ho
  obtain ⟨hpstart, hpsize, -⟩ := hp
  obtain ⟨hcstart, hcsize, -⟩ := hc
  simp only [overlap, Variable.stop] at *
  omega

end Collision

namespace Layout

variable {old new : Layout} {s b : Nat}

theorem mem_vars_of_mem_collisions {c : Collision} (h : c ∈ (old.compare new).collisions) :
    c.previous ∈ old.vars ∧ c.current ∈ new.vars := by
  obtain ⟨x, hx, y, hy, -, -, rfl⟩ := NumberedVariables.mem_collisions.mp h
  exact ⟨mem_of_mem_withCopies (NumberedVariables.mem_unmoved.mp hx).1,
    mem_of_mem_withCopies (NumberedVariables.mem_unmoved.mp hy).1⟩

/-- The byte belongs to an old and to a new variable that are not counterparts and that have not
moved. -/
def Disputed (old new : Layout) (s b : Nat) : Prop :=
  ∃ k n i v l o j w, (old.NthAt k n i v ∧ ¬ old.Moved new k n ∧ v.Holds s b) ∧
    (new.NthAt l o j w ∧ ¬ old.Moved new l o ∧ w.Holds s b) ∧ Copy.mk k n ≠ Copy.mk l o

theorem mem_unmoved_numbered {m : Layout} {k : Identity} {n : Nat} {v : Variable} :
    (⟨k, n⟩, v) ∈ m.numbered.unmoved ((old.numbered.moves new.numbered).map Prod.fst) ↔
      (∃ i, m.NthAt k n i v) ∧ ¬ old.Moved new k n := by
  rw [NumberedVariables.mem_unmoved, mem_numbered, mem_map_fst_moves]

theorem exists_covers_iff : (∃ c ∈ (old.compare new).collisions, c.Covers s b) ↔
    b < slotBytes ∧ old.Disputed new s b := by
  constructor
  · rintro ⟨c, hc, hcovers⟩
    have ho : c.previous.Overlaps c.current := overlaps_of_mem_collisions old new hc
    obtain ⟨hb, hv, hw⟩ := (Collision.covers_iff ho).mp hcovers
    obtain ⟨⟨⟨k, n⟩, v⟩, hx, ⟨⟨l, o⟩, w⟩, hy, hne, -, rfl⟩ :=
      NumberedVariables.mem_collisions.mp hc
    obtain ⟨⟨i, hi⟩, hvstays⟩ := mem_unmoved_numbered.mp hx
    obtain ⟨⟨j, hj⟩, hwstays⟩ := mem_unmoved_numbered.mp hy
    exact ⟨hb, k, n, i, v, l, o, j, w, ⟨hi, hvstays, hv⟩, ⟨hj, hwstays, hw⟩, hne⟩
  · rintro ⟨hb, k, n, i, v, l, o, j, w, ⟨hi, hvstays, hv⟩, ⟨hj, hwstays, hw⟩, hne⟩
    have ho : v.Overlaps w := hv.overlaps hw
    have hc : ⟨v, w⟩ ∈ (old.compare new).collisions :=
      NumberedVariables.mem_collisions.mpr ⟨_, mem_unmoved_numbered.mpr ⟨⟨i, hi⟩, hvstays⟩, _,
        mem_unmoved_numbered.mpr ⟨⟨j, hj⟩, hwstays⟩, hne, ho, rfl⟩
    exact ⟨_, hc, (Collision.covers_iff ho).mpr ⟨hb, hv, hw⟩⟩

theorem countP_covers_le_one (hold : old.vars.Pairwise fun v w => ¬ v.Overlaps w)
    (hnew : new.vars.Pairwise fun v w => ¬ v.Overlaps w) (s b : Nat) :
    (old.compare new).collisions.countP (·.Covers s b) ≤ 1 := by
  simp only [compare, NumberedVariables.collisions_eq_scan, List.countP_map]
  refine countP_le_one (nodup_scan (old.nodup_numbered.filter _) (new.nodup_numbered.filter _)) ?_
  rintro ⟨x, y⟩ hp ⟨x', y'⟩ hp' hcovers hcovers'
  obtain ⟨hx, hy, -, hclash⟩ := mem_scan.mp hp
  obtain ⟨hx', hy', -, hclash'⟩ := mem_scan.mp hp'
  obtain ⟨-, hv, hw⟩ :=
    (Collision.covers_iff (of_decide_eq_true hclash).2).mp (of_decide_eq_true hcovers)
  obtain ⟨-, hv', hw'⟩ :=
    (Collision.covers_iff (of_decide_eq_true hclash').2).mp (of_decide_eq_true hcovers')
  have hxx' : x = x' := eq_of_overlaps hold (List.mem_of_mem_filter hx) (List.mem_of_mem_filter hx')
    (hv.overlaps hv')
  have hyy' : y = y' := eq_of_overlaps hnew (List.mem_of_mem_filter hy) (List.mem_of_mem_filter hy')
    (hw.overlaps hw')
  exact not_not_intro (congrArg₂ Prod.mk hxx' hyy')

theorem Disputed.lt_slotBytes (h : old.Disputed new s b)
    (hstop : ∀ v ∈ old.vars, v.stop ≤ slotBytes) : b < slotBytes := by
  obtain ⟨_, _, _, v, _, _, _, _, ⟨hi, -, hv⟩, -⟩ := h
  exact hv.2.2.trans_le (hstop v (List.mem_of_getElem? hi.getElem?))

/-- The overlap of a collision are the bytes of the slot that belong to both variables, also if it
is computed in words, and there are such bytes if the variables are within range. From a calculated
layout to another, every byte that belongs to an old and to a new variable that are not counterparts
and have not moved is in the overlap of one collision, and no other byte is in any. -/
theorem compare_collisions_bytes (old new : Layout) :
    (∀ c ∈ (old.compare new).collisions,
      (∀ b, c.overlap.start ≤ b ∧ b < c.overlap.stop ↔ b < slotBytes ∧
        (c.previous.offset ≤ b ∧ b < c.previous.offset + c.previous.size) ∧
        (c.current.offset ≤ b ∧ b < c.current.offset + c.current.size)) ∧
      (c.previous.FitsWords → c.current.FitsWords →
        c.overlapWords.1.toNat = c.overlap.start ∧ c.overlapWords.2.toNat = c.overlap.stop)) ∧
      ((∀ v ∈ old.vars, v.InRange) → (∀ v ∈ new.vars, v.InRange) →
        ∀ c ∈ (old.compare new).collisions, c.overlap.start < c.overlap.stop) ∧
      ∀ (a z : Contract) (s b : Nat),
        (a.layout.Disputed z.layout s b →
          (a.layout.compare z.layout).collisions.countP (·.Covers s b) = 1) ∧
        (¬ a.layout.Disputed z.layout s b →
          (a.layout.compare z.layout).collisions.countP (·.Covers s b) = 0) := by
  refine ⟨fun c _ => ⟨fun b => c.mem_overlap_iff, c.toNat_overlapWords⟩, ?_, ?_⟩
  · intro hold hnew c hc
    obtain ⟨hp, hn⟩ := mem_vars_of_mem_collisions hc
    exact Collision.overlap_nonempty (overlaps_of_mem_collisions old new hc) (hold _ hp) (hnew _ hn)
  · intro a z s b
    constructor
    · intro h
      have hb : b < slotBytes := h.lt_slotBytes fun _ hv => (Contract.fitsSlot_of_mem_layout hv).2
      obtain ⟨c, hc, hcovers⟩ := exists_covers_iff.mpr ⟨hb, h⟩
      apply Nat.le_antisymm (countP_covers_le_one a.layout_not_overlaps z.layout_not_overlaps s b)
      exact List.countP_pos_iff.mpr ⟨c, hc, decide_eq_true hcovers⟩
    · intro h
      refine List.countP_eq_zero.mpr fun c hc hcovers => h ?_
      exact (exists_covers_iff.mp ⟨c, hc, of_decide_eq_true hcovers⟩).2

/-- A half makes way for two quarters, each of which takes some of its bytes. -/
theorem compare_collisions_bytes_quarters :
    let total := Declaration.make .plain "total" "uint128"
    let low := Declaration.make .plain "low" "uint64"
    let high := Declaration.make .plain "high" "uint64"
    let a : Contract := ⟨"Vault", [total]⟩
    let z : Contract := ⟨"Vault", [low, high]⟩
    let c : Collision := ⟨total.placedAt ⟨0, 0⟩, high.placedAt ⟨0, 8⟩⟩
    (c ∈ (a.layout.compare z.layout).collisions ∧ c.previous.FitsWords ∧ c.current.FitsWords ∧
      c.overlapWords.1.toNat = 8 ∧ c.overlapWords.2.toNat = 16) ∧
      ((∀ v ∈ a.layout.vars, v.InRange) ∧ (∀ v ∈ z.layout.vars, v.InRange) ∧
        c.overlap.start < c.overlap.stop) ∧
      (a.layout.Disputed z.layout 0 12 ∧
        (a.layout.compare z.layout).collisions.countP (·.Covers 0 12) = 1) ∧
      ¬ a.layout.Disputed z.layout 0 16 ∧
        (a.layout.compare z.layout).collisions.countP (·.Covers 0 16) = 0 := by
  intro total low high a z c
  have hc : c ∈ (a.layout.compare z.layout).collisions := by decide +kernel
  have hfits : c.previous.FitsWords ∧ c.current.FitsWords := by decide +kernel
  have hold : ∀ v ∈ a.layout.vars, v.InRange := by decide +kernel
  have hnew : ∀ v ∈ z.layout.vars, v.InRange := by decide +kernel
  have hshared : a.layout.Disputed z.layout 0 12 :=
    (exists_covers_iff.mp ⟨c, hc, by decide +kernel⟩).2
  have hfree : ¬ a.layout.Disputed z.layout 0 16 := fun h =>
    absurd (exists_covers_iff.mpr ⟨by decide, h⟩) (by decide +kernel)
  obtain ⟨hoverlap, hnonempty, hbytes⟩ := compare_collisions_bytes a.layout z.layout
  obtain ⟨hstart, hstop⟩ := (hoverlap c hc).2 hfits.1 hfits.2
  have hrange : c.overlap = ⟨8, 16⟩ := by decide +kernel
  rw [hrange] at hstart hstop
  exact ⟨⟨hc, hfits.1, hfits.2, hstart, hstop⟩, ⟨hold, hnew, hnonempty hold hnew c hc⟩,
    ⟨hshared, (hbytes a z 0 12).1 hshared⟩, hfree, (hbytes a z 0 16).2 hfree⟩

end Layout

end StorageLayout
