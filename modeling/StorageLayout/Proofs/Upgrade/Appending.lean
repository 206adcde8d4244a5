import StorageLayout.Proofs.Comparison.Verdict
import StorageLayout.Proofs.Layout.Calculated
import StorageLayout.Proofs.Upgrade.Tally

/-!
# Appending declarations

New declarations behind all existing ones never endanger what is stored: the old variables stay
where they are, the new ones get fresh occurrences of their identities and fresh bytes, even in
a slot that the last old variable leaves open.
-/

namespace StorageLayout

namespace Layout

variable {old new : Layout} {rest : List Variable}

theorem numbered_of_append (h : new.vars = old.vars ++ rest) :
    new.numbered = old.numbered ++
      (copiesAfter (old.vars.map Variable.identity).reverse (rest.map Variable.identity)).zip
        rest := by
  rw [numbered, h, withCopies_append]
  rfl

theorem compare_moved_of_append (h : new.vars = old.vars ++ rest) :
    (old.compare new).moved = [] := by
  have hmoves : old.numbered.moves new.numbered = [] := by
    rw [NumberedVariables.moves_eq_nil_iff]
    intro c v w hv hw
    rw [numbered, h] at hw
    obtain rfl := eq_of_copy?_of_mem_append hv hw
    exact ⟨rfl, rfl⟩
  exact List.map_eq_nil_iff.mpr hmoves

theorem compare_removed_of_append (h : new.vars = old.vars ++ rest) :
    (old.compare new).removed = [] := by
  rw [List.eq_nil_iff_forall_not_mem]
  intro v hv
  obtain ⟨c, hc, hnone⟩ := NumberedVariables.mem_without.mp hv
  have hsome : copy? c new.numbered = some v := by
    rw [numbered, h]
    exact copy?_withCopies_append (copy?_numbered_eq_some_iff.mpr hc)
  rw [hsome] at hnone
  cases hnone

theorem compare_added_of_append (h : new.vars = old.vars ++ rest) :
    (old.compare new).added = rest := by
  change NumberedVariables.without new.numbered old.numbered = rest
  have hold : old.numbered.filter (fun x => (copy? x.1 old.numbered).isNone) = [] := by
    rw [List.filter_eq_nil_iff]
    intro x hx
    simp [copy?_numbered_eq_some_iff.mpr hx]
  rw [numbered_of_append h, NumberedVariables.without, List.filter_append, hold, List.nil_append,
    List.filter_eq_self.mpr]
  · exact List.map_snd_zip (by simp [length_copiesAfter])
  · intro x hx
    rw [Option.isNone_iff_eq_none]
    exact copy?_eq_none_of_mem_zip_copiesAfter hx

theorem retypings_of_append (h : new.vars = old.vars ++ rest) : old.retypings new = [] := by
  rw [retypings_eq_nil_iff]
  intro c v w hv hw
  rw [h] at hw
  rw [eq_of_copy?_of_mem_append hv hw]

theorem compare_collisions_of_append (h : new.vars = old.vars ++ rest)
    (hne : new.vars.Pairwise fun v w => ¬ v.Overlaps w) :
    (old.compare new).collisions = [] := by
  apply compare_collisions_eq_nil_of_size_eq (compare_removed_of_append h) hne
  intro c v w hv hw
  rw [numbered, h] at hw
  rw [eq_of_copy?_of_mem_append (copy?_numbered_eq_some_iff.mpr hv) hw]

end Layout

def Contract.extend (c : Contract) (ds : List Declaration) : Contract :=
  { c with declarations := c.declarations ++ ds }

namespace Contract

variable (base : Contract) (extra : List Declaration)

theorem layout_extend_vars : (base.extend extra).layout.vars =
    base.layout.vars ++ placeFrom (Cursor.start.past base.declarations) extra :=
  placeFrom_append _ _ _

theorem slotsAdded_extend (h : (base.declarations ++ extra).length < UInt64.size / 2) :
    (base.layout.growth (base.extend extra).layout).slotsAdded =
      ((base.extend extra).layout.totalSlots : Int) - base.layout.totalSlots := by
  have hnew : (base.extend extra).layout.totalSlots < UInt64.size / 2 :=
    (totalSlots_le _).trans_lt h
  have hold : base.layout.totalSlots < UInt64.size / 2 := by
    rw [List.length_append] at h
    exact base.totalSlots_le.trans_lt (by omega)
  exact Layout.slotsAdded_growth hold hnew

theorem totalSlots_le_extend : base.layout.totalSlots ≤ (base.extend extra).layout.totalSlots := by
  have hsub : base.layout.vars ⊆ (base.extend extra).layout.vars := by
    rw [layout_extend_vars]
    exact List.subset_append_left _ _
  exact slotCount_mono hsub

/-- Declarations added behind all others leave the old layout as it is, only add variables, and
make an upgrade without a critical change or a warning, so it is safe by every policy. It takes
no slots away: they are counted in signed words of 64 bits, and a list in memory never has more
declarations than such a word can count. -/
theorem layout_extend_safe : base.layout.vars <+: (base.extend extra).layout.vars ∧
    (base.layout.compare (base.extend extra).layout).safe = true ∧
    (base.layout.compare (base.extend extra).layout).moved = [] ∧
    (base.layout.compare (base.extend extra).layout).removed = [] ∧
    (base.layout.compare (base.extend extra).layout).collisions = [] ∧
    (base.layout.compare (base.extend extra).layout).added =
      (base.extend extra).layout.vars.drop base.layout.vars.length ∧
    base.layout.retypings (base.extend extra).layout = [] ∧
    ∀ policy : Policy,
      let u : Upgrade := ⟨base.layout, (base.extend extra).layout, policy⟩
      u.score = 100 ∧ u.riskLevel = .safe ∧ u.isDeployable = true ∧
        ((base.declarations ++ extra).length < UInt64.size / 2 → 0 ≤ u.growth.slotsAdded) := by
  have hvars := base.layout_extend_vars extra
  have hmoved := Layout.compare_moved_of_append hvars
  have hremoved := Layout.compare_removed_of_append hvars
  have hcollisions := Layout.compare_collisions_of_append hvars (layout_not_overlaps _)
  have hretypings := Layout.retypings_of_append hvars
  refine ⟨?_, Comparison.safe_iff.mpr ⟨hmoved, hcollisions⟩, hmoved, hremoved, hcollisions, ?_,
    hretypings, ?_⟩
  · rw [hvars]
    exact List.prefix_append _ _
  · rw [Layout.compare_added_of_append hvars, hvars, List.drop_left]
  · intro policy u
    have htally : u.tally.critical = 0 ∧ u.tally.warning = 0 := by
      rw [u.tally_eq]
      simp [u, Upgrade.comparison, hmoved, hremoved, hcollisions, hretypings]
    have hlevel : u.riskLevel = .safe := by
      simp [Upgrade.riskLevel, Tally.riskLevel, htally]
    refine ⟨?_, hlevel, ?_, ?_⟩
    · simp [Upgrade.score, Tally.score, htally]
    · simp [Upgrade.isDeployable, hlevel]
    · intro h
      have hle := base.totalSlots_le_extend extra
      have hgrowth : u.growth.slotsAdded =
          ((base.extend extra).layout.totalSlots : Int) - base.layout.totalSlots :=
        base.slotsAdded_extend extra h
      omega

/-- A copy of an old variable, appended to the slot that holds the old one. -/
theorem layout_extend_safe_copy :
    let flag := Declaration.make .plain "flag" "bool"
    let base : Contract := ⟨"Vault", [flag, flag]⟩
    let u : Upgrade := ⟨base.layout, (base.extend [flag]).layout, .standard⟩
    (base.declarations ++ [flag]).length < UInt64.size / 2 ∧ u.score = 100 ∧
      0 ≤ u.growth.slotsAdded := by
  intro flag base u
  have hlength : (base.declarations ++ [flag]).length < UInt64.size / 2 := by decide
  obtain ⟨-, -, -, -, -, -, -, hpolicy⟩ := layout_extend_safe base [flag]
  obtain ⟨hscore, -, -, hgrowth⟩ := hpolicy .standard
  exact ⟨hlength, hscore, hgrowth hlength⟩

end Contract

end StorageLayout
