import StorageLayout.Proofs.Comparison.DistinctNames
import StorageLayout.Proofs.Upgrade.Unchanged

/-!
# Reordering declarations

If the declarations of a contract are put into another order, its variables are neither added
nor removed nor retyped. Those that end up elsewhere are reported as moved, and only those: the
bytes they vacate may go to others. As the sizes fix the places and the places the order, only
the old order of the storage declarations leaves every variable where it was.
-/

namespace StorageLayout.Contract

variable {c d : Contract}

section

variable (hperm : d.declarations.Perm c.declarations)

include hperm

theorem storageDeclarations_perm : d.storageDeclarations.Perm c.storageDeclarations :=
  hperm.filter _

theorem layout_identities_perm :
    (d.layout.vars.map Variable.identity).Perm (c.layout.vars.map Variable.identity) := by
  have hmap : ∀ e : Contract, e.layout.vars.map Variable.identity =
      e.storageDeclarations.map fun x => ⟨x.name, TypeName.canonical x.typeName⟩ := fun e =>
    map_comp_eq e.layout_map_name_type fun x => Identity.mk x.1 (TypeName.canonical x.2)
  rw [hmap, hmap]
  exact (storageDeclarations_perm hperm).map _

theorem compare_removed_of_perm : (c.layout.compare d.layout).removed = [] :=
  Layout.compare_removed_eq_nil_iff.mpr fun k =>
    ((layout_identities_perm hperm).count_eq k).ge

theorem compare_added_of_perm : (c.layout.compare d.layout).added = [] :=
  Layout.compare_added_eq_nil_iff.mpr fun k =>
    ((layout_identities_perm hperm).count_eq k).le

variable (hnames : (c.declarations.map (·.name)).Nodup)

include hnames

theorem declared_alike {v w : Variable} (hv : v ∈ c.layout.vars) (hw : w ∈ d.layout.vars)
    (h : v.name = w.name) : v.typeName = w.typeName ∧ v.size = w.size := by
  obtain ⟨e, he, hename, hetype, hesize⟩ := exists_declaration_of_mem_layout hv
  obtain ⟨f, hf, hfname, hftype, hfsize⟩ := exists_declaration_of_mem_layout hw
  have hf' : f ∈ c.storageDeclarations := (storageDeclarations_perm hperm).mem_iff.mp hf
  obtain rfl : e = f := List.inj_on_of_nodup_map hnames (List.mem_of_mem_filter he)
    (List.mem_of_mem_filter hf') (hename.trans (h.trans hfname.symm))
  exact ⟨hetype.symm.trans hftype, hesize.symm.trans hfsize⟩

theorem compare_collisions_of_perm : (c.layout.compare d.layout).collisions = [] := by
  apply Layout.compare_collisions_eq_nil_of_size_eq (compare_removed_of_perm hperm)
    d.layout_not_overlaps
  intro k v w hv hw
  have hidentity : v.identity = w.identity :=
    (label_of_mem_withCopies hv).trans (label_of_mem_withCopies hw).symm
  exact (declared_alike hperm hnames (mem_of_mem_withCopies hv) (mem_of_mem_withCopies hw)
    (Identity.mk.inj hidentity).1).2

theorem retypings_of_perm : c.layout.retypings d.layout = [] := by
  rw [Layout.retypings_eq_nil_iff]
  intro k v w hv hw
  rw [copy?_withCopies_eq_some_iff] at hv
  have hname : v.name = w.name :=
    (label_of_mem_withCopies hv).trans (label_of_mem_withCopies hw).symm
  exact congrArg TypeName.canonical (declared_alike hperm hnames (mem_of_mem_withCopies hv)
    (mem_of_mem_withCopies hw) hname).1

theorem mem_compare_moved_of_perm {v w : Variable} :
    ⟨v, w⟩ ∈ (c.layout.compare d.layout).moved ↔
      v ∈ c.layout.vars ∧ w ∈ d.layout.vars ∧ v.name = w.name ∧ ¬ v.SamePosition w := by
  have hnames' : (d.declarations.map (·.name)).Nodup := (hperm.map _).nodup_iff.mpr hnames
  have hmoved : ⟨v, w⟩ ∈ (c.layout.compare d.layout).moved ↔
      ∃ k, (k, ⟨v, w⟩) ∈ c.layout.numbered.moves d.layout.numbered := by
    simp [Layout.compare]
  simp only [hmoved, Layout.mem_moves_of_namesDistinct (layout_namesDistinct hnames)
    (layout_namesDistinct hnames')]
  constructor
  · rintro ⟨k, hv, hw, hidentity, -, hmoved⟩
    exact ⟨hv, hw, (Identity.mk.inj hidentity).1, hmoved⟩
  · rintro ⟨hv, hw, hname, hmoved⟩
    have htype := (declared_alike hperm hnames hv hw hname).1
    have hidentity : v.identity = w.identity :=
      congrArg₂ Identity.mk hname (congrArg TypeName.canonical htype)
    exact ⟨_, hv, hw, hidentity, rfl, hmoved⟩

theorem nodup_compare_moved_of_perm : (c.layout.compare d.layout).moved.Nodup := by
  have hnew : (d.layout.vars.map Variable.identity).Nodup :=
    (layout_identities_perm hperm).nodup_iff.mpr (layout_namesDistinct hnames).nodup_identities
  apply List.Nodup.of_map (·.current)
  rw [Layout.compare_moved_map_current]
  refine List.Nodup.sublist ?_ hnew.of_map
  rw [← Layout.numbered_map_snd (m := d.layout)]
  exact List.filter_sublist.map _

theorem storageDeclarations_eq_of_map_name
    (h : d.layout.vars.map (·.name) = c.layout.vars.map (·.name)) :
    d.storageDeclarations = c.storageDeclarations := by
  rw [layout_map_name, layout_map_name] at h
  have hlength := congrArg List.length h
  rw [List.length_map, List.length_map] at hlength
  apply List.ext_getElem hlength
  intro i hi hi'
  have hname : d.storageDeclarations[i].name = c.storageDeclarations[i].name := by
    simpa [hi, hi'] using congrArg (·[i]?) h
  have hmem := (storageDeclarations_perm hperm).mem_iff.mp (List.getElem_mem hi)
  exact List.inj_on_of_nodup_map hnames (List.mem_of_mem_filter hmem)
    (List.mem_of_mem_filter (List.getElem_mem hi')) hname

/-- Nothing but the old order leaves every variable where it was. -/
theorem compare_moved_eq_nil_iff_of_perm : (c.layout.compare d.layout).moved = [] ↔
    d.storageDeclarations = c.storageDeclarations := by
  constructor
  · intro hmoved
    have hempty : (c.layout.compare d.layout).isEmpty = true :=
      Comparison.isEmpty_iff.mpr ⟨compare_collisions_of_perm hperm hnames, hmoved,
        compare_added_of_perm hperm, compare_removed_of_perm hperm⟩
    have hanchors := (compare_isEmpty_iff_anchors c d).mp hempty
    apply storageDeclarations_eq_of_map_name hperm hnames
    exact map_comp_eq hanchors.symm Prod.fst
  · intro h
    apply Layout.compare_moved_eq_nil_of_agree
    rw [layout_vars_congr h]

/-- If the declarations of a contract are reordered, all that is reported are the variables that
start elsewhere, each once. The upgrade is safe, and can be deployed, if and only if the storage
declarations are still in the old order. -/
theorem layout_reorder :
    (c.layout.compare d.layout).added = [] ∧
      (c.layout.compare d.layout).removed = [] ∧
      (c.layout.compare d.layout).collisions = [] ∧
      c.layout.retypings d.layout = [] ∧
      (c.layout.compare d.layout).moved.Nodup ∧
      (∀ v w, ⟨v, w⟩ ∈ (c.layout.compare d.layout).moved ↔
        v ∈ c.layout.vars ∧ w ∈ d.layout.vars ∧ v.name = w.name ∧ ¬ v.SamePosition w) ∧
      ((c.layout.compare d.layout).safe = true ↔
        d.storageDeclarations = c.storageDeclarations) ∧
      ∀ policy : Policy,
        let u : Upgrade := ⟨c.layout, d.layout, policy⟩
        u.isDeployable = true ↔ d.storageDeclarations = c.storageDeclarations := by
  have hcollisions := compare_collisions_of_perm hperm hnames
  have hretypings := retypings_of_perm hperm hnames
  have hmoved := compare_moved_eq_nil_iff_of_perm hperm hnames
  refine ⟨compare_added_of_perm hperm, compare_removed_of_perm hperm, hcollisions, hretypings,
    nodup_compare_moved_of_perm hperm hnames,
    fun v w => mem_compare_moved_of_perm hperm hnames, ?_, ?_⟩
  · rw [Comparison.safe_iff, hmoved]
    exact and_iff_left hcollisions
  · intro policy u
    rw [Upgrade.isDeployable_iff, ← hmoved]
    simp [u, Upgrade.comparison, hcollisions, hretypings]

end

/-- Two variables of one slot change places, each into bytes that the other held. -/
theorem layout_reorder_swap :
    let owner := Declaration.make .plain "owner" "address"
    let paused := Declaration.make .plain "paused" "bool"
    let c : Contract := ⟨"Vault", [owner, paused]⟩
    let d : Contract := ⟨"Vault", [paused, owner]⟩
    d.declarations.Perm c.declarations ∧ (c.declarations.map (·.name)).Nodup ∧
      (c.layout.compare d.layout).collisions = [] ∧
      (Upgrade.ofContracts c d).isDeployable = false := by
  intro owner paused c d
  have hperm : d.declarations.Perm c.declarations := List.Perm.swap owner paused []
  have hnames : (c.declarations.map (·.name)).Nodup := by decide
  obtain ⟨-, -, hcollisions, -, -, -, -, hpolicy⟩ := layout_reorder hperm hnames
  have hne : d.storageDeclarations ≠ c.storageDeclarations := by decide
  refine ⟨hperm, hnames, hcollisions, ?_⟩
  exact Bool.eq_false_iff.mpr fun h => hne ((hpolicy .standard).mp h)

end StorageLayout.Contract
