import StorageLayout.Proofs.Comparison.DistinctNames
import StorageLayout.Proofs.Layout.Shifting
import StorageLayout.Proofs.Upgrade.Appending

/-!
# Inserting a declaration

A new declaration that takes a whole slot, put among the others, shifts all variables declared
behind it by one slot. They are reported as moved, all of them and in order. The new variable is
reported as added, and as nothing else, though it takes bytes that a shifted one held.
-/

namespace StorageLayout

@[simp] theorem Variable.identity_later (v : Variable) : v.later.identity = v.identity := rfl

@[simp] theorem Variable.name_later (v : Variable) : v.later.name = v.name := rfl

theorem Variable.not_samePosition_later (v : Variable) : ¬ v.SamePosition v.later := by
  simp [SamePosition, later]

namespace Layout

section

variable {old new : Layout} {front back : List Variable} {u : Variable}
  (hnames : new.NamesDistinct) (hold : old.vars = front ++ back)
  (hnew : new.vars = front ++ u :: back.map Variable.later)

include hold hnew

theorem exists_kept_of_insert {v : Variable} (hv : v ∈ old.vars) :
    ∃ w ∈ new.vars, w.identity = v.identity ∧ w.size = v.size := by
  rw [hold, List.mem_append] at hv
  rw [hnew]
  rcases hv with hv | hv
  · exact ⟨v, List.mem_append_left _ hv, rfl, rfl⟩
  · refine ⟨v.later, List.mem_append_right _ (List.mem_cons_of_mem _ ?_), rfl, rfl⟩
    exact List.mem_map_of_mem hv

include hnames

theorem namesDistinct_of_insert : old.NamesDistinct := by
  have hback : back.map (·.name) = (back.map Variable.later).map (·.name) := by simp
  rw [NamesDistinct, hnew, List.map_append, List.map_cons] at hnames
  rw [NamesDistinct, hold, List.map_append, hback]
  exact hnames.sublist ((List.Sublist.refl _).append (List.sublist_cons_self ..))

theorem identity_ne_of_insert {v : Variable} (hv : v ∈ old.vars) : v.identity ≠ u.identity := by
  rw [hold, List.mem_append] at hv
  rcases hv with hv | hv
  · exact hnames.identity_ne_of_split hnew (List.mem_append_left _ hv)
  · rw [← v.identity_later]
    exact hnames.identity_ne_of_split hnew
      (List.mem_append_right _ (List.mem_map_of_mem hv))

theorem compare_removed_of_insert : (old.compare new).removed = [] := by
  rw [List.eq_nil_iff_forall_not_mem]
  intro v hv
  obtain ⟨hv, hgone⟩ := (namesDistinct_of_insert hnames hold hnew).mem_removed.mp hv
  obtain ⟨w, hw, hidentity, -⟩ := exists_kept_of_insert hold hnew hv
  exact hgone w hw hidentity

theorem compare_added_of_insert : (old.compare new).added = [u] := by
  refine eq_singleton_of_mem_iff hnames.nodup_added fun w => ?_
  rw [hnames.mem_added]
  constructor
  · rintro ⟨hw, hunmatched⟩
    rw [hnew, List.mem_append, List.mem_cons, List.mem_map] at hw
    rcases hw with hw | rfl | ⟨v, hv, rfl⟩
    · exact absurd rfl (hunmatched w (by simp [hold, hw]))
    · rfl
    · exact absurd rfl (hunmatched v (by simp [hold, hv]))
  · rintro rfl
    exact ⟨by simp [hnew], fun v hv => identity_ne_of_insert hnames hold hnew hv⟩

theorem compare_moved_of_insert :
    (old.compare new).moved = back.map fun v => ⟨v, v.later⟩ := by
  have hcopy : ∀ v ∈ old.vars, copy? ⟨v.identity, 0⟩ old.numbered = some v := fun v =>
    (namesDistinct_of_insert hnames hold hnew).copy?_numbered_eq_some
  have hu : copy? ⟨u.identity, 0⟩ old.numbered = none :=
    copy?_first_eq_none_iff.mpr fun v hv => identity_ne_of_insert hnames hold hnew hv
  rw [hnames.moved_eq, hnew, List.filterMap_append, List.filterMap_cons_none (by simp [hu]),
    List.filterMap_map, List.filterMap_eq_nil_iff.mpr, List.nil_append, ← List.filterMap_eq_map]
  · apply List.filterMap_congr
    intro v hv
    simp [hcopy v (by simp [hold, hv]), v.not_samePosition_later]
  · intro v hv
    simp [hcopy v (by simp [hold, hv]), Variable.SamePosition]

theorem compare_collisions_of_insert (hapart : new.vars.Pairwise fun v w => ¬ v.Overlaps w) :
    (old.compare new).collisions = [] := by
  have hnamesOld := namesDistinct_of_insert hnames hold hnew
  refine compare_collisions_eq_nil_of_size_eq (compare_removed_of_insert hnames hold hnew) hapart
    fun c v w hv hw => ?_
  obtain ⟨hvold, rfl⟩ := hnamesOld.mem_numbered.mp hv
  obtain ⟨hwnew, hc⟩ := hnames.mem_numbered.mp hw
  obtain ⟨x, hx, hidentity, hsize⟩ := exists_kept_of_insert hold hnew hvold
  have hname : x.name = w.name :=
    congrArg Identity.name (hidentity.trans (congrArg Copy.label hc))
  rw [← hsize, hnames.eq_of_name_eq hx hwnew hname]

end

end Layout

namespace Contract

section

variable {c : Contract} {x : Declaration} {ds : List Declaration}
  (hx : x.occupiesStorage = true) (hsize : SolidityType.sizeOfName x.typeName = slotBytes)
  (hfirst : ∀ v ∈ ((c.extend ds).layout.vars.drop c.layout.vars.length).head?, v.offset = 0)

include hx hsize hfirst

/-- The new variable starts the first empty slot, and the placement goes on as without it. -/
theorem layout_insert_vars : (c.extend (x :: ds)).layout.vars =
    c.layout.vars ++ x.placedAt ⟨c.layout.totalSlots, 0⟩ ::
      ((c.extend ds).layout.vars.drop c.layout.vars.length).map Variable.later := by
  rw [layout_extend_vars, List.drop_left] at hfirst
  rw [layout_extend_vars, layout_extend_vars, List.drop_left, placeFrom_cons_slotBytes hx hsize,
    placeFrom_later, placeFrom_fresh hfirst, c.totalSlots_eq_opened]
  rfl

/-- A declaration of a whole slot is inserted behind the declarations of a contract and before
others, of which the first would start a slot anyway. Then the variables before it keep their
places, it takes the first slot that they leave empty, and those behind it are shifted by one slot.
The comparison reports the new variable as added and each shifted one, in order, as moved. Nothing
is removed and nothing collides, so the upgrade is safe only if no variable is shifted. -/
theorem layout_insert
    (hnames : ((c.extend (x :: ds)).storageDeclarations.map (·.name)).Nodup) :
    let old := (c.extend ds).layout
    let new := (c.extend (x :: ds)).layout
    let inserted := x.placedAt ⟨c.layout.totalSlots, 0⟩
    let rest := old.vars.drop c.layout.vars.length
    old.vars = c.layout.vars ++ rest ∧
      new.vars = c.layout.vars ++ inserted :: rest.map Variable.later ∧
      rest.map (fun v => (v.name, v.typeName)) =
        (ds.filter (·.occupiesStorage)).map (fun d => (d.name, d.typeName)) ∧
      (old.compare new).added = [inserted] ∧
      (old.compare new).removed = [] ∧
      (old.compare new).collisions = [] ∧
      (old.compare new).moved = rest.map (fun v => ⟨v, v.later⟩) ∧
      ((old.compare new).safe = true ↔ ds.filter (·.occupiesStorage) = []) := by
  intro old new inserted rest
  have hrest : rest = placeFrom (Cursor.start.past c.declarations) ds := by
    simp only [rest, old, layout_extend_vars, List.drop_left]
  have hold : old.vars = c.layout.vars ++ rest := by
    rw [hrest]
    exact c.layout_extend_vars ds
  have hnew : new.vars = c.layout.vars ++ inserted :: rest.map Variable.later :=
    layout_insert_vars hx hsize hfirst
  have hdeclared : rest.map (fun v => (v.name, v.typeName)) =
      (ds.filter (·.occupiesStorage)).map fun d => (d.name, d.typeName) := by
    rw [hrest]
    exact map_comp_eq (placeFrom_map_declared _ ds) fun x => (x.1, x.2.1)
  have hdistinct : new.NamesDistinct := layout_namesDistinct_iff.mpr hnames
  have hmoved := Layout.compare_moved_of_insert hdistinct hold hnew
  have hcollisions :=
    Layout.compare_collisions_of_insert hdistinct hold hnew (layout_not_overlaps _)
  refine ⟨hold, hnew, hdeclared, Layout.compare_added_of_insert hdistinct hold hnew,
    Layout.compare_removed_of_insert hdistinct hold hnew, hcollisions, hmoved, ?_⟩
  rw [Comparison.safe_iff, hcollisions, hmoved, List.map_eq_nil_iff, and_iff_left rfl,
    ← List.map_eq_nil_iff, hdeclared, List.map_eq_nil_iff]

end

/-- A balance goes behind an owner that leaves its slot open, and the supply is shifted. -/
theorem layout_insert_behind_owner :
    let owner := Declaration.make .plain "owner" "address"
    let balance := Declaration.make .plain "balance" "uint256"
    let supply := Declaration.make .plain "supply" "uint256"
    let c : Contract := ⟨"Vault", [owner]⟩
    let old := (c.extend [supply]).layout
    let new := (c.extend [balance, supply]).layout
    balance.occupiesStorage = true ∧
      SolidityType.sizeOfName balance.typeName = slotBytes ∧
      (∀ v ∈ (old.vars.drop c.layout.vars.length).head?, v.offset = 0) ∧
      ((c.extend [balance, supply]).storageDeclarations.map (·.name)).Nodup ∧
      (old.compare new).added = [balance.placedAt ⟨1, 0⟩] ∧
      (old.compare new).safe = false := by
  intro owner balance supply c old new
  have hx : balance.occupiesStorage = true := rfl
  have hsize : SolidityType.sizeOfName balance.typeName = slotBytes := by decide +kernel
  have hfirst : ∀ v ∈ (old.vars.drop c.layout.vars.length).head?, v.offset = 0 := by
    decide +kernel
  have hnames : ((c.extend [balance, supply]).storageDeclarations.map (·.name)).Nodup := by
    decide
  have hslots : c.layout.totalSlots = 1 := by decide +kernel
  obtain ⟨-, -, -, hadded, -, -, -, hsafe⟩ := layout_insert hx hsize hfirst hnames
  rw [hslots] at hadded
  refine ⟨hx, hsize, hfirst, hnames, hadded, Bool.eq_false_iff.mpr fun h => ?_⟩
  exact absurd (hsafe.mp h) (by decide)

end Contract

end StorageLayout
