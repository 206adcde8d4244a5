import StorageLayout.Proofs.Comparison.Reversal
import StorageLayout.Proofs.Layout.Calculated
import StorageLayout.Proofs.Upgrade.Retyping

/-!
# Layouts with distinct names

Where no name is repeated, every variable is the only one of its identity and of its name. The
lists of a comparison and the retyped variables can then be told from the variables alone.
-/

namespace StorageLayout

namespace Layout

def NamesDistinct (m : Layout) : Prop :=
  (m.vars.map Variable.name).Nodup

instance (m : Layout) : Decidable m.NamesDistinct :=
  inferInstanceAs (Decidable (List.Nodup _))

namespace NamesDistinct

variable {m : Layout} (h : m.NamesDistinct)

include h

theorem eq_of_name_eq {v w : Variable} (hv : v ∈ m.vars) (hw : w ∈ m.vars)
    (hname : v.name = w.name) : v = w :=
  List.inj_on_of_nodup_map h hv hw hname

theorem nodup_identities : (m.vars.map Variable.identity).Nodup := by
  apply List.Nodup.of_map Identity.name
  rw [List.map_map]
  exact h

theorem mem_numbered {c : Copy Identity} {v : Variable} :
    (c, v) ∈ m.numbered ↔ v ∈ m.vars ∧ c = ⟨v.identity, 0⟩ :=
  mem_withCopies_of_nodup h.nodup_identities

theorem eq_of_mem_of_overlaps (hapart : m.vars.Pairwise fun v w => ¬ v.Overlaps w)
    {v w : Variable} (hv : v ∈ m.vars) (hw : w ∈ m.vars) (ho : v.Overlaps w) : v = w :=
  congrArg Prod.snd (eq_of_overlaps hapart (h.mem_numbered.mpr ⟨hv, rfl⟩)
    (h.mem_numbered.mpr ⟨hw, rfl⟩) ho)

theorem eq_of_mem_numbered {x y : Copy Identity × Variable} (hx : x ∈ m.numbered)
    (hy : y ∈ m.numbered) (hxy : x.2 = y.2) : x = y := by
  have hvars : (m.numbered.map Prod.snd).Nodup := by
    rw [numbered_map_snd]
    exact h.of_map
  exact List.inj_on_of_nodup_map hvars hx hy hxy

theorem numbered_eq : m.numbered = m.vars.map fun v => (⟨v.identity, 0⟩, v) :=
  withCopies_eq_map h.nodup_identities

theorem copy?_numbered_eq_some {v : Variable} (hv : v ∈ m.vars) :
    copy? ⟨v.identity, 0⟩ m.numbered = some v :=
  copy?_numbered_eq_some_iff.mpr (h.mem_numbered.mpr ⟨hv, rfl⟩)

theorem named?_eq_some {v : Variable} (hv : v ∈ m.vars) : m.named? v.name = some v := by
  cases hn : m.named? v.name with
  | none => simpa using List.find?_eq_none.mp hn v hv
  | some w =>
    have hname : w.name = v.name := by simpa using List.find?_some hn
    rw [h.eq_of_name_eq (List.mem_of_find?_eq_some hn) hv hname]

theorem identity_ne_of_split {front back : List Variable} {v w : Variable}
    (hm : m.vars = front ++ w :: back) (hv : v ∈ front ++ back) : v.identity ≠ w.identity := by
  have hidentities := h.nodup_identities
  rw [hm, List.map_append, List.map_cons, List.nodup_middle, List.nodup_cons,
    ← List.map_append] at hidentities
  intro heq
  exact hidentities.1 (heq ▸ List.mem_map_of_mem hv)

theorem mem_withCopies_name {c : Copy String} {v : Variable} :
    (c, v) ∈ withCopies Variable.name m.vars ↔ v ∈ m.vars ∧ c = ⟨v.name, 0⟩ :=
  mem_withCopies_of_nodup h

end NamesDistinct

variable {old new : Layout} (hold : old.NamesDistinct) (hnew : new.NamesDistinct)

include hold in
theorem NamesDistinct.mem_removed {v : Variable} : v ∈ (old.compare new).removed ↔
    v ∈ old.vars ∧ ∀ w ∈ new.vars, w.identity ≠ v.identity := by
  have hwithout : v ∈ (old.compare new).removed ↔
      ∃ c, (c, v) ∈ old.numbered ∧ copy? c new.numbered = none :=
    NumberedVariables.mem_without
  simp only [hwithout, hold.mem_numbered]
  constructor
  · rintro ⟨c, ⟨hv, rfl⟩, hnone⟩
    exact ⟨hv, copy?_first_eq_none_iff.mp hnone⟩
  · rintro ⟨hv, hne⟩
    exact ⟨_, ⟨hv, rfl⟩, copy?_first_eq_none_iff.mpr hne⟩

include hnew in
theorem NamesDistinct.mem_added {w : Variable} : w ∈ (old.compare new).added ↔
    w ∈ new.vars ∧ ∀ v ∈ old.vars, v.identity ≠ w.identity :=
  hnew.mem_removed

include hold in
theorem NamesDistinct.nodup_removed : (old.compare new).removed.Nodup := by
  have hsub : (old.compare new).removed.Sublist (old.numbered.map Prod.snd) :=
    List.filter_sublist.map _
  rw [numbered_map_snd] at hsub
  exact hold.of_map.sublist hsub

include hnew in
theorem NamesDistinct.nodup_added : (old.compare new).added.Nodup :=
  hnew.nodup_removed

include hnew in
theorem NamesDistinct.moved_eq : (old.compare new).moved = new.vars.filterMap fun w =>
    (copy? ⟨w.identity, 0⟩ old.numbered).bind fun v =>
      if v.SamePosition w then none else some ⟨v, w⟩ := by
  change (old.numbered.moves new.numbered).map Prod.snd = _
  rw [NumberedVariables.moves, List.map_filterMap, hnew.numbered_eq, List.filterMap_map]
  apply List.filterMap_congr
  intro w _
  cases hv : copy? ⟨w.identity, 0⟩ old.numbered with
  | none => simp [hv]
  | some v => by_cases h : v.SamePosition w <;> simp [hv, h]

include hold hnew

theorem mem_moves_of_namesDistinct {c : Copy Identity} {m : Move} :
    (c, m) ∈ old.numbered.moves new.numbered ↔ m.previous ∈ old.vars ∧ m.current ∈ new.vars ∧
      m.previous.identity = m.current.identity ∧ c = ⟨m.current.identity, 0⟩ ∧
      ¬ m.previous.SamePosition m.current := by
  rw [NumberedVariables.mem_moves, copy?_numbered_eq_some_iff, hold.mem_numbered,
    hnew.mem_numbered]
  constructor
  · rintro ⟨⟨hw, rfl⟩, ⟨hv, hc⟩, hmoved⟩
    exact ⟨hv, hw, (congrArg Copy.label hc).symm, rfl, hmoved⟩
  · rintro ⟨hv, hw, heq, rfl, hmoved⟩
    exact ⟨⟨hw, rfl⟩, ⟨hv, by rw [heq]⟩, hmoved⟩

theorem mem_collisions_of_unmatched {v w : Variable} (hv : v ∈ (old.compare new).removed)
    (hw : w ∈ (old.compare new).added) :
    ⟨v, w⟩ ∈ (old.compare new).collisions ↔ v.Overlaps w := by
  obtain ⟨hv, hvnew⟩ := hold.mem_removed.mp hv
  obtain ⟨hw, hwold⟩ := hnew.mem_added.mp hw
  have hvstays : ⟨v.identity, 0⟩ ∉ (old.numbered.moves new.numbered).map Prod.fst := by
    intro hmem
    obtain ⟨⟨c, m⟩, hm, rfl⟩ := List.mem_map.mp hmem
    obtain ⟨-, hcurrent, -, hc, -⟩ := (mem_moves_of_namesDistinct hold hnew).mp hm
    exact hvnew m.current hcurrent (congrArg Copy.label hc).symm
  have hwstays : ⟨w.identity, 0⟩ ∉ (old.numbered.moves new.numbered).map Prod.fst := by
    intro hmem
    obtain ⟨⟨c, m⟩, hm, rfl⟩ := List.mem_map.mp hmem
    obtain ⟨hprevious, -, heq, hc, -⟩ := (mem_moves_of_namesDistinct hold hnew).mp hm
    exact hwold m.previous hprevious (heq.trans (congrArg Copy.label hc).symm)
  constructor
  · intro h
    obtain ⟨x, -, y, -, -, ho, heq⟩ := NumberedVariables.mem_collisions.mp h
    cases heq
    exact ho
  · intro ho
    refine NumberedVariables.mem_collisions.mpr ⟨(⟨v.identity, 0⟩, v), ?_, (⟨w.identity, 0⟩, w),
      ?_, ?_, ho, rfl⟩
    · exact NumberedVariables.mem_unmoved.mpr ⟨hold.mem_numbered.mpr ⟨hv, rfl⟩, hvstays⟩
    · exact NumberedVariables.mem_unmoved.mpr ⟨hnew.mem_numbered.mpr ⟨hw, rfl⟩, hwstays⟩
    · intro heq
      exact hwold v hv (congrArg Copy.label heq)

theorem identity_ne_of_mem_collisions {c : Collision}
    (hc : c ∈ (old.compare new).collisions) : c.previous ∈ old.vars ∧ c.current ∈ new.vars ∧
      c.previous.identity ≠ c.current.identity := by
  obtain ⟨⟨a, v⟩, hx, ⟨b, w⟩, hy, hne, -, rfl⟩ := NumberedVariables.mem_collisions.mp hc
  obtain ⟨hv, rfl⟩ := hold.mem_numbered.mp (NumberedVariables.mem_unmoved.mp hx).1
  obtain ⟨hw, rfl⟩ := hnew.mem_numbered.mp (NumberedVariables.mem_unmoved.mp hy).1
  exact ⟨hv, hw, fun heq => hne (congrArg (Copy.mk · 0) heq)⟩

theorem nodup_collisions_of_namesDistinct : (old.compare new).collisions.Nodup := by
  simp only [compare, NumberedVariables.collisions_eq_scan]
  refine List.Nodup.map_on ?_ (nodup_scan (old.nodup_numbered.filter _)
    (new.nodup_numbered.filter _))
  rintro ⟨x, y⟩ hp ⟨x', y'⟩ hp' heq
  obtain ⟨hx, hy, -⟩ := mem_scan.mp hp
  obtain ⟨hx', hy', -⟩ := mem_scan.mp hp'
  obtain ⟨hprevious, hcurrent⟩ := Collision.mk.inj heq
  rw [hold.eq_of_mem_numbered (List.mem_of_mem_filter hx) (List.mem_of_mem_filter hx') hprevious,
    hnew.eq_of_mem_numbered (List.mem_of_mem_filter hy) (List.mem_of_mem_filter hy') hcurrent]

theorem mem_retypings_of_namesDistinct {v w : Variable} :
    .retyped v w ∈ old.retypings new ↔ v ∈ old.vars ∧ w ∈ new.vars ∧ v.name = w.name ∧
      v.canonicalType ≠ w.canonicalType := by
  rw [mem_retypings]
  simp only [copy?_withCopies_eq_some_iff, hold.mem_withCopies_name, hnew.mem_withCopies_name]
  constructor
  · rintro ⟨c, v', w', ⟨hv, rfl⟩, ⟨hw, hc⟩, hne, heq⟩
    cases heq
    exact ⟨hv, hw, congrArg Copy.label hc, hne⟩
  · rintro ⟨hv, hw, hname, hne⟩
    exact ⟨_, v, w, ⟨hv, rfl⟩, ⟨hw, by rw [hname]⟩, hne, rfl⟩

end Layout

theorem Contract.layout_namesDistinct_iff {c : Contract} :
    c.layout.NamesDistinct ↔ (c.storageDeclarations.map (·.name)).Nodup := by
  rw [Layout.NamesDistinct, layout_map_name]

theorem Contract.layout_namesDistinct {c : Contract} (h : (c.declarations.map (·.name)).Nodup) :
    c.layout.NamesDistinct :=
  layout_namesDistinct_iff.mpr (h.sublist (List.filter_sublist.map _))

end StorageLayout
