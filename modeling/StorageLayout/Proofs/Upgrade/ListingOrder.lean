import StorageLayout.Proofs.Comparison.DistinctNames
import StorageLayout.Proofs.Upgrade.Tally

/-!
# The order in which variables are listed

Variables are matched by the order in which equal ones are listed, and reports follow the lists.
Where no name is repeated, the order of the lists decides nothing but the order of the reports:
the verdict depends on what is stored where.
-/

namespace StorageLayout

section Lists

variable {κ α β : Type} [DecidableEq κ]

theorem withCopies_relisted {label : α → κ} {xs xs' : List α} (h : (xs.map label).Nodup)
    (hxs : xs'.Perm xs) : (withCopies label xs').Perm (withCopies label xs) := by
  have h' : (xs'.map label).Nodup := (hxs.map label).nodup_iff.mpr h
  rw [withCopies_eq_map h, withCopies_eq_map h']
  exact hxs.map _

theorem copy?_relisted {xs xs' : List (Copy κ × α)} (h : (xs.map Prod.fst).Nodup)
    (hxs : xs'.Perm xs) (c : Copy κ) : copy? c xs' = copy? c xs := by
  have h' : (xs'.map Prod.fst).Nodup := (hxs.map Prod.fst).nodup_iff.mpr h
  apply Option.ext
  intro x
  rw [copy?_eq_some_iff h', copy?_eq_some_iff h, hxs.mem_iff]

/-- A scan goes by the order of the slots and of both lists, but it finds the same pairs. -/
theorem scan_relisted {slot : α → Nat} {slot' : β → Nat} {clash : α → β → Bool}
    {xs xs' : List α} {ys ys' : List β} (hxs : xs.Nodup) (hys : ys.Nodup) (hxs' : xs'.Perm xs)
    (hys' : ys'.Perm ys) :
    (scan slot slot' clash xs' ys').Perm (scan slot slot' clash xs ys) := by
  rw [List.perm_ext_iff_of_nodup
    (nodup_scan (hxs'.nodup_iff.mpr hxs) (hys'.nodup_iff.mpr hys)) (nodup_scan hxs hys)]
  intro p
  obtain ⟨x, y⟩ := p
  rw [mem_scan, mem_scan, hxs'.mem_iff, hys'.mem_iff]

end Lists

namespace NumberedVariables

variable {before before' now now' : NumberedVariables} {moved moved' : List (Copy Identity)}

theorem without_relisted (h : (now.map Prod.fst).Nodup) (hbefore : before'.Perm before)
    (hnow : now'.Perm now) : (before'.without now').Perm (before.without now) := by
  unfold without
  simp only [copy?_relisted h hnow]
  exact (hbefore.filter _).map _

theorem moves_relisted (h : (before.map Prod.fst).Nodup) (hbefore : before'.Perm before)
    (hnow : now'.Perm now) : (before'.moves now').Perm (before.moves now) := by
  unfold moves
  simp only [copy?_relisted h hbefore]
  exact hnow.filterMap _

theorem unmoved_relisted (hnow : now'.Perm now) (hmoved : moved'.Perm moved) :
    (now'.unmoved moved').Perm (now.unmoved moved) := by
  rw [unmoved_congr fun c => hmoved.mem_iff]
  exact hnow.filter _

theorem collisions_relisted (hbefore : before.Nodup) (hnow : now.Nodup)
    (hbefore' : before'.Perm before) (hnow' : now'.Perm now) :
    (before'.collisions now').Perm (before.collisions now) := by
  rw [collisions_eq_scan, collisions_eq_scan]
  exact (scan_relisted hbefore hnow hbefore' hnow').map _

end NumberedVariables

namespace Layout

variable {old old' new new' m m' : Layout}

theorem NamesDistinct.numbered_relisted (h : m.NamesDistinct) (hvars : m'.vars.Perm m.vars) :
    m'.numbered.Perm m.numbered :=
  withCopies_relisted h.nodup_identities hvars

section Relisted

variable (hold : old.NamesDistinct) (hnew : new.NamesDistinct)
  (hold' : old'.vars.Perm old.vars) (hnew' : new'.vars.Perm new.vars)

include hold hnew hold' hnew'

theorem compare_removed_relisted :
    (old'.compare new').removed.Perm (old.compare new).removed :=
  NumberedVariables.without_relisted (nodup_withCopies_map_fst new.vars)
    (hold.numbered_relisted hold') (hnew.numbered_relisted hnew')

theorem compare_added_relisted : (old'.compare new').added.Perm (old.compare new).added :=
  compare_removed_relisted hnew hold hnew' hold'

theorem moves_relisted :
    (old'.numbered.moves new'.numbered).Perm (old.numbered.moves new.numbered) :=
  NumberedVariables.moves_relisted (nodup_withCopies_map_fst old.vars)
    (hold.numbered_relisted hold') (hnew.numbered_relisted hnew')

theorem compare_moved_relisted : (old'.compare new').moved.Perm (old.compare new).moved :=
  (moves_relisted hold hnew hold' hnew').map Prod.snd

theorem compare_collisions_relisted :
    (old'.compare new').collisions.Perm (old.compare new).collisions := by
  have hmoved := (moves_relisted hold hnew hold' hnew').map Prod.fst
  exact NumberedVariables.collisions_relisted (old.nodup_numbered.filter _)
    (new.nodup_numbered.filter _)
    (NumberedVariables.unmoved_relisted (hold.numbered_relisted hold') hmoved)
    (NumberedVariables.unmoved_relisted (hnew.numbered_relisted hnew') hmoved)

theorem compare_safe_relisted : (old'.compare new').safe = (old.compare new).safe := by
  have hmoved := compare_moved_relisted hold hnew hold' hnew'
  have hcollisions := compare_collisions_relisted hold hnew hold' hnew'
  rw [Comparison.safe, Comparison.safe, hmoved.isEmpty_eq, hcollisions.isEmpty_eq]

theorem retypings_relisted : (old'.retypings new').Perm (old.retypings new) := by
  have hreport : old'.retyping? = old.retyping? := by
    funext x
    unfold retyping?
    rw [copy?_relisted (nodup_withCopies_map_fst old.vars) (withCopies_relisted hold hold')]
  rw [retypings_eq_filterMap, retypings_eq_filterMap, hreport]
  exact (withCopies_relisted hnew hnew').filterMap _

theorem tally_relisted (policy : Policy) :
    (Upgrade.mk old' new' policy).tally = (Upgrade.mk old new policy).tally := by
  rw [Upgrade.tally_eq, Upgrade.tally_eq]
  dsimp only [Upgrade.comparison]
  rw [(compare_collisions_relisted hold hnew hold' hnew').length_eq,
    (compare_moved_relisted hold hnew hold' hnew').length_eq,
    (retypings_relisted hold hnew hold' hnew').length_eq,
    (compare_removed_relisted hold hnew hold' hnew').length_eq,
    (compare_added_relisted hold hnew hold' hnew').length_eq]

/-- If no name is repeated, variables may be listed in any order: the same variables are removed,
added, moved and retyped, the same collide, and every policy judges the upgrade alike. -/
theorem compare_relisted :
    (old'.compare new').removed.Perm (old.compare new).removed ∧
      (old'.compare new').added.Perm (old.compare new).added ∧
      (old'.compare new').moved.Perm (old.compare new).moved ∧
      (old'.compare new').collisions.Perm (old.compare new).collisions ∧
      (old'.retypings new').Perm (old.retypings new) ∧
      (old'.compare new').safe = (old.compare new).safe ∧
      ∀ policy : Policy,
        let u : Upgrade := ⟨old, new, policy⟩
        let u' : Upgrade := ⟨old', new', policy⟩
        u'.tally = u.tally ∧ u'.score = u.score ∧ u'.riskLevel = u.riskLevel ∧
          u'.isDeployable = u.isDeployable := by
  refine ⟨compare_removed_relisted hold hnew hold' hnew',
    compare_added_relisted hold hnew hold' hnew', compare_moved_relisted hold hnew hold' hnew',
    compare_collisions_relisted hold hnew hold' hnew', retypings_relisted hold hnew hold' hnew',
    compare_safe_relisted hold hnew hold' hnew', ?_⟩
  intro policy u u'
  have htally : u'.tally = u.tally := tally_relisted hold hnew hold' hnew' policy
  have hlevel : u'.riskLevel = u.riskLevel := by rw [Upgrade.riskLevel, htally, Upgrade.riskLevel]
  refine ⟨htally, ?_, hlevel, ?_⟩
  · rw [Upgrade.score, htally, Upgrade.score]
  · rw [Upgrade.isDeployable, hlevel, Upgrade.isDeployable]

end Relisted

/-- Both layouts listed backwards: a variable whose type became smaller collides all the same. -/
theorem compare_relisted_backwards :
    let owner := (Declaration.make .plain "owner" "address").placedAt ⟨0, 0⟩
    let wide := (Declaration.make .plain "total" "uint256").placedAt ⟨1, 0⟩
    let narrow := (Declaration.make .plain "total" "uint128").placedAt ⟨1, 0⟩
    let flag := (Declaration.make .plain "flag" "bool").placedAt ⟨0, 20⟩
    let old : Layout := ⟨"Vault", [owner, wide], 2, []⟩
    let new : Layout := ⟨"Vault", [owner, flag, narrow], 2, [0]⟩
    let old' : Layout := ⟨"Vault", [wide, owner], 2, []⟩
    let new' : Layout := ⟨"Vault", [narrow, flag, owner], 2, [0]⟩
    let u : Upgrade := ⟨old, new, .standard⟩
    let u' : Upgrade := ⟨old', new', .standard⟩
    old.NamesDistinct ∧ new.NamesDistinct ∧ old'.vars.Perm old.vars ∧ new'.vars.Perm new.vars ∧
      ⟨wide, narrow⟩ ∈ (old'.compare new').collisions ∧ u.score = 5 ∧ u'.score = 5 ∧
      u'.isDeployable = false := by
  intro owner wide narrow flag old new old' new' u u'
  have hold : old.NamesDistinct := by decide
  have hnew : new.NamesDistinct := by decide
  have hold' : old'.vars.Perm old.vars := List.reverse_perm old.vars
  have hnew' : new'.vars.Perm new.vars := List.reverse_perm new.vars
  have hcollision : ⟨wide, narrow⟩ ∈ (old.compare new).collisions := by decide +kernel
  have hscore : u.score = 5 := by decide +kernel
  have hcritical : u.isDeployable = false := by decide +kernel
  obtain ⟨-, -, -, hcollisions, -, -, hpolicy⟩ := compare_relisted hold hnew hold' hnew'
  obtain ⟨-, hscore', -, hdeployable⟩ := hpolicy .standard
  exact ⟨hold, hnew, hold', hnew', hcollisions.mem_iff.mpr hcollision, hscore,
    hscore'.trans hscore, hdeployable.trans hcritical⟩

-- Where a name is repeated the order counts: both variables seem to have changed places.
example :
    let low := (Declaration.make .plain "gap" "uint256").placedAt ⟨0, 0⟩
    let high := (Declaration.make .plain "gap" "uint256").placedAt ⟨1, 0⟩
    let m : Layout := ⟨"Vault", [low, high], 2, []⟩
    let m' : Layout := ⟨"Vault", [high, low], 2, []⟩
    (m.compare m).safe = true ∧ (m.compare m').safe = false := by decide +kernel

end Layout

end StorageLayout
