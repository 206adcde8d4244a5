import StorageLayout.Proofs.Comparison.Verdict
import StorageLayout.Layout.Placement

/-!
# Chains of versions

A version keeps the one before if the upgrade to it is safe and removes nothing. Then every
variable still starts at its byte, so along a chain of such versions nothing is ever put into the
bytes of an early variable, as long as variables of one identity are of one size.
-/

namespace StorageLayout.Layout

/-- The upgrade to the new layout is safe and removes no variable. -/
def KeptBy (old new : Layout) : Prop :=
  (old.compare new).safe = true ∧ (old.compare new).removed = []

instance (old new : Layout) : Decidable (old.KeptBy new) :=
  inferInstanceAs (Decidable (_ ∧ _))

/-- A variable of one layout and one of the other are of one size if they have one identity. -/
def SizesAgree (old new : Layout) : Prop :=
  ∀ v ∈ old.vars, ∀ w ∈ new.vars, v.identity = w.identity → v.size = w.size

instance (old new : Layout) : Decidable (old.SizesAgree new) :=
  inferInstanceAs (Decidable (∀ v ∈ old.vars, ∀ w ∈ new.vars, _ → _))

variable {old new : Layout}

theorem compare_removed_eq_nil_of_counterparts
    (h : ∀ c v, (c, v) ∈ old.numbered → ∃ w, (c, w) ∈ new.numbered) :
    (old.compare new).removed = [] := by
  rw [List.eq_nil_iff_forall_not_mem]
  intro v hv
  obtain ⟨c, hc, hnone⟩ := NumberedVariables.mem_without.mp hv
  obtain ⟨w, hw⟩ := h c v hc
  rw [copy?_numbered_eq_some_iff.mpr hw] at hnone
  cases hnone

/-- A layout is kept exactly if each of its variables has a counterpart at the same byte and
shares bytes with nothing else. -/
theorem keptBy_iff : old.KeptBy new ↔
    (∀ c v, (c, v) ∈ old.numbered → ∃ w, (c, w) ∈ new.numbered ∧ v.SamePosition w) ∧
      ∀ x ∈ old.numbered, ∀ y ∈ new.numbered, x.2.Overlaps y.2 → x.1 = y.1 := by
  have hmoved : (old.compare new).moved = [] ↔ old.numbered.moves new.numbered = [] :=
    List.map_eq_nil_iff
  rw [KeptBy, compare_safe_iff_full_scan, hmoved, NumberedVariables.moves_eq_nil_iff,
    NumberedVariables.collisions_eq_nil_iff]
  simp only [copy?_numbered_eq_some_iff]
  constructor
  · rintro ⟨⟨hstays, hapart⟩, hremoved⟩
    refine ⟨fun c v hv => ?_, hapart⟩
    obtain ⟨w, hw⟩ := exists_counterpart hremoved hv
    exact ⟨w, hw, hstays c v w hv hw⟩
  · rintro ⟨hkept, hapart⟩
    refine ⟨⟨fun c v w hv hw => ?_, hapart⟩, compare_removed_eq_nil_of_counterparts ?_⟩
    · obtain ⟨w', hw', hposition⟩ := hkept c v hv
      rw [← copy?_numbered_eq_some_iff] at hw hw'
      obtain rfl : w = w' := Option.some.inj (hw.symm.trans hw')
      exact hposition
    · intro c v hv
      obtain ⟨w, hw, -⟩ := hkept c v hv
      exact ⟨w, hw⟩

/-- The middle version holds the bytes of the first one for it. -/
theorem KeptBy.trans {a b c : Layout} (hab : a.KeptBy b) (hbc : b.KeptBy c)
    (hsizes : a.SizesAgree b) : a.KeptBy c := by
  rw [keptBy_iff] at hab hbc ⊢
  constructor
  · intro k v hv
    obtain ⟨w, hw, hvw⟩ := hab.1 k v hv
    obtain ⟨x, hx, hwx⟩ := hbc.1 k w hw
    exact ⟨x, hx, hvw.trans hwx⟩
  · rintro ⟨k, v⟩ hv y hy ho
    obtain ⟨w, hw, hvw⟩ := hab.1 k v hv
    have hidentity : v.identity = w.identity :=
      (label_of_mem_withCopies hv).trans (label_of_mem_withCopies hw).symm
    have hsize : v.size = w.size :=
      hsizes v (mem_of_mem_withCopies hv) w (mem_of_mem_withCopies hw) hidentity
    exact hbc.2 (k, w) hw y hy (ho.congr_left hvw hsize)

/-- If each version of a chain is kept by the next, the first is kept by the last, provided that
no two variables of one identity differ in size. -/
theorem keptBy_getLast {first : Layout} {later : List Layout} (hne : later ≠ [])
    (hsteps : (first :: later).IsChain fun old new =>
      (old.compare new).safe = true ∧ (old.compare new).removed = [])
    (hsizes : ∀ a ∈ first :: later, ∀ b ∈ first :: later, ∀ v ∈ a.vars, ∀ w ∈ b.vars,
      v.identity = w.identity → v.size = w.size) :
    (first.compare (later.getLast hne)).safe = true ∧
      (first.compare (later.getLast hne)).removed = [] := by
  induction later generalizing first with
  | nil => exact absurd rfl hne
  | cons next rest ih =>
    obtain ⟨hstep, hsteps⟩ := List.isChain_cons_cons.mp hsteps
    cases rest with
    | nil => exact hstep
    | cons second rest =>
      -- The induction has closed the chain behind the first version.
      have hkept : next.KeptBy ((second :: rest).getLast (List.cons_ne_nil _ _)) :=
        ih (List.cons_ne_nil _ _) hsteps fun a ha b hb =>
          hsizes a (List.mem_cons_of_mem _ ha) b (List.mem_cons_of_mem _ hb)
      have hagree : first.SizesAgree next :=
        hsizes first List.mem_cons_self next (List.mem_cons_of_mem _ List.mem_cons_self)
      exact KeptBy.trans hstep hkept hagree

/-- A second copy of a flag and then an owner are put behind the first flag. -/
theorem keptBy_getLast_flags :
    let flag := Declaration.make .plain "flag" "bool"
    let one : Layout := Contract.layout ⟨"Vault", [flag]⟩
    let two : Layout := Contract.layout ⟨"Vault", [flag, flag]⟩
    let three : Layout :=
      Contract.layout ⟨"Vault", [flag, flag, .make .plain "owner" "address"]⟩
    one.KeptBy two ∧ two.KeptBy three ∧
      (∀ a ∈ [one, two, three], ∀ b ∈ [one, two, three], a.SizesAgree b) ∧
      (one.compare three).added.length = 2 ∧
      (one.compare three).safe = true ∧ (one.compare three).removed = [] := by
  intro flag one two three
  have hfirst : one.KeptBy two := by decide +kernel
  have hsecond : two.KeptBy three := by decide +kernel
  have hsizes : ∀ a ∈ [one, two, three], ∀ b ∈ [one, two, three], a.SizesAgree b := by
    decide +kernel
  have hsteps : [one, two, three].IsChain KeptBy :=
    .cons_cons hfirst (.cons_cons hsecond (.singleton _))
  exact ⟨hfirst, hsecond, hsizes, by decide +kernel,
    keptBy_getLast (List.cons_ne_nil two [three]) hsteps hsizes⟩

/-- A variable that shrinks gives bytes away that the version before still held. -/
example :
    let total (size : Nat) : Variable := ⟨"total", "Amount", 0, 0, size, true, true⟩
    let paused : Variable := ⟨"paused", "bool", 0, 16, 1, true, true⟩
    let wide : Layout := ⟨"Vault", [total 32], 1, []⟩
    let narrow : Layout := ⟨"Vault", [total 16], 1, []⟩
    let shared : Layout := ⟨"Vault", [total 16, paused], 1, [0]⟩
    wide.KeptBy narrow ∧ narrow.KeptBy shared ∧ ¬ wide.KeptBy shared := by
  decide +kernel

end StorageLayout.Layout
