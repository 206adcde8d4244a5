import StorageLayout.Proofs.Upgrade.Signals
import StorageLayout.Proofs.Upgrade.Tally

/-!
# Replacing a declaration

A declaration that is replaced by one of the same size leaves every position as it was, so nothing
moves. What shows the change are the identities: the old variable is gone, the new one has no
counterpart, and it takes the bytes of the old one. No other variable is involved, not even one in
the same slot.
-/

namespace StorageLayout

namespace Layout

/-- The new layout has `w` instead of `v`, which are two variables, and keeps all others. -/
structure Substituted (old new : Layout) (v w : Variable) : Prop where
  mem_old : v ∈ old.vars
  mem_new : w ∈ new.vars
  eq_or_kept : ∀ u ∈ old.vars, u = v ∨ u ∈ new.vars
  eq_or_known : ∀ u ∈ new.vars, u = w ∨ u ∈ old.vars
  gone : ∀ u ∈ new.vars, u.identity ≠ v.identity
  fresh : ∀ u ∈ old.vars, u.identity ≠ w.identity

namespace Substituted

variable {old new : Layout} {v w : Variable}

theorem of_split {front back : List Variable} (hold : old.vars = front ++ v :: back)
    (hnew : new.vars = front ++ w :: back) (hnames : old.NamesDistinct)
    (hnames' : new.NamesDistinct) (hne : v.identity ≠ w.identity) : Substituted old new v w where
  mem_old := by simp [hold]
  mem_new := by simp [hnew]
  eq_or_kept := by
    rw [hold, hnew, forall_mem_middle]
    exact ⟨.inl rfl, fun u hu => .inr (mem_middle_of_mem hu)⟩
  eq_or_known := by
    rw [hold, hnew, forall_mem_middle]
    exact ⟨.inl rfl, fun u hu => .inr (mem_middle_of_mem hu)⟩
  gone := by
    rw [hnew, forall_mem_middle]
    exact ⟨hne.symm, fun u => hnames.identity_ne_of_split hold⟩
  fresh := by
    rw [hold, forall_mem_middle]
    exact ⟨hne, fun u => hnames'.identity_ne_of_split hnew⟩

variable (h : Substituted old new v w)

include h

theorem symm : Substituted new old w v where
  mem_old := h.mem_new
  mem_new := h.mem_old
  eq_or_kept := h.eq_or_known
  eq_or_known := h.eq_or_kept
  gone := h.fresh
  fresh := h.gone

theorem removed_eq (hold : old.NamesDistinct) : (old.compare new).removed = [v] := by
  refine eq_singleton_of_mem_iff hold.nodup_removed fun u => ?_
  rw [hold.mem_removed]
  constructor
  · intro ⟨hu, hgone⟩
    rcases h.eq_or_kept u hu with rfl | hkept
    · rfl
    · exact absurd rfl (hgone u hkept)
  · rintro rfl
    exact ⟨h.mem_old, h.gone⟩

theorem added_eq (hnew : new.NamesDistinct) : (old.compare new).added = [w] :=
  h.symm.removed_eq hnew

variable (hold : old.NamesDistinct) (hnew : new.NamesDistinct)

include hold hnew

theorem moves_eq_nil : old.numbered.moves new.numbered = [] := by
  rw [List.eq_nil_iff_forall_not_mem]
  intro ⟨c, m⟩ hm
  obtain ⟨hprevious, hcurrent, heq, -, hne⟩ := (mem_moves_of_namesDistinct hold hnew).mp hm
  rcases h.eq_or_kept _ hprevious with rfl | hkept
  · exact h.gone _ hcurrent heq.symm
  · have hsame : m.previous = m.current :=
      hnew.eq_of_name_eq hkept hcurrent (congrArg Identity.name heq)
    exact hne (hsame ▸ ⟨rfl, rfl⟩)

theorem moved_eq_nil : (old.compare new).moved = [] :=
  List.map_eq_nil_iff.mpr (h.moves_eq_nil hold hnew)

theorem mem_retypings_iff {x : Change} :
    x ∈ old.retypings new ↔ v.name = w.name ∧ x = .retyped v w := by
  constructor
  · intro hx
    obtain ⟨-, a, b, -, -, -, rfl⟩ := mem_retypings.mp hx
    obtain ⟨ha, hb, hname, hne⟩ := (mem_retypings_of_namesDistinct hold hnew).mp hx
    rcases h.eq_or_kept a ha with rfl | hkept
    · rcases h.eq_or_known b hb with rfl | hknown
      · exact ⟨hname, rfl⟩
      · exact absurd (congrArg Variable.canonicalType (hold.eq_of_name_eq ha hknown hname)) hne
    · exact absurd (congrArg Variable.canonicalType (hnew.eq_of_name_eq hkept hb hname)) hne
  · rintro ⟨hname, rfl⟩
    rw [mem_retypings_of_namesDistinct hold hnew]
    exact ⟨h.mem_old, h.mem_new, hname, fun htype =>
      h.fresh v h.mem_old (Variable.identity_eq_iff.mpr ⟨hname, htype⟩)⟩

theorem retypings_eq :
    old.retypings new = if v.name = w.name then [.retyped v w] else [] := by
  split_ifs with hname
  · refine eq_singleton_of_mem_iff (nodup_retypings hnew.of_map) fun x => ?_
    rw [h.mem_retypings_iff hold hnew, and_iff_right hname]
  · rw [List.eq_nil_iff_forall_not_mem]
    exact fun x hx => hname ((h.mem_retypings_iff hold hnew).mp hx).1

/-- If the two variables share bytes, nothing else collides: variables that stay are apart. -/
theorem collisions_eq (hapart : old.vars.Pairwise fun v w => ¬ v.Overlaps w)
    (hapart' : new.vars.Pairwise fun v w => ¬ v.Overlaps w) (hoverlaps : v.Overlaps w) :
    (old.compare new).collisions = [⟨v, w⟩] := by
  refine eq_singleton_of_mem_iff (nodup_collisions_of_namesDistinct hold hnew) fun r => ?_
  constructor
  · intro hr
    obtain ⟨hprevious, hcurrent, hne⟩ := identity_ne_of_mem_collisions hold hnew hr
    have ho : r.previous.Overlaps r.current := overlaps_of_mem_collisions old new hr
    rcases h.eq_or_kept _ hprevious with hv | hkept
    · rcases h.eq_or_known _ hcurrent with hw | hknown
      · exact congrArg₂ Collision.mk hv hw
      · have hsame := hold.eq_of_mem_of_overlaps hapart hprevious hknown ho
        exact absurd (congrArg Variable.identity hsame) hne
    · have hsame := hnew.eq_of_mem_of_overlaps hapart' hkept hcurrent ho
      exact absurd (congrArg Variable.identity hsame) hne
  · rintro rfl
    have hremoved : v ∈ (old.compare new).removed := hold.mem_removed.mpr ⟨h.mem_old, h.gone⟩
    have hadded : w ∈ (old.compare new).added := hnew.mem_added.mpr ⟨h.mem_new, h.fresh⟩
    exact (mem_collisions_of_unmatched hold hnew hremoved hadded).mpr hoverlaps

end Substituted

end Layout

theorem Variable.SamePosition.overlaps {v w : Variable} (h : v.SamePosition w)
    (hv : v.FitsSlot) (hw : w.FitsSlot) : v.Overlaps w := by
  refine ⟨h.1, ?_, ?_⟩
  · rw [h.2]
    exact Nat.lt_add_of_pos_right hw.1
  · rw [← h.2]
    exact Nat.lt_add_of_pos_right hv.1

theorem Collision.overlap_of_samePosition {v w : Variable} (hv : v.FitsSlot)
    (h : v.SamePosition w) (hsize : v.size = w.size) :
    (Collision.mk v w).overlap = ⟨v.offset, v.offset + v.size⟩ := by
  have hstop : w.stop = v.stop := by rw [Variable.stop, Variable.stop, h.2, hsize]
  simp only [overlap, hstop, ← h.2, max_self, min_self, min_eq_left hv.2]
  rfl

def Contract.replace (c : Contract) (i : Nat) (d : Declaration) : Contract :=
  { c with declarations := c.declarations.set i d }

namespace Contract

theorem layout_vars_of_split {c : Contract} {front back : List Declaration} {d : Declaration}
    (hc : c.declarations = front ++ d :: back) (hd : d.occupiesStorage = true) :
    let seat := (Cursor.start.past front).seat d.type.size
    c.layout.vars = placeFrom .start front ++
      d.placedAt seat :: placeFrom (seat.after d.type.size) back := by
  simp only [layout_vars, hc, placeFrom_append, placeFrom, hd, if_true]

theorem exists_split_of_replace {c : Contract} {i : Nat} {d : Declaration}
    (hd : c.declarations[i]? = some d) (e : Declaration) : ∃ front back,
      c.declarations = front ++ d :: back ∧ (c.replace i e).declarations = front ++ e :: back := by
  obtain ⟨hi, rfl⟩ := List.getElem?_eq_some_iff.mp hd
  obtain ⟨front, back, hold, -, hnew⟩ := List.exists_of_set hi
  exact ⟨front, back, hold, hnew⟩

section

variable {c : Contract} {i : Nat} {d e : Declaration}
  (hnames : (c.declarations.map (·.name)).Nodup) (hd : c.declarations[i]? = some d)
  (hname : (∀ x ∈ c.declarations, x.name ≠ e.name) ∨
    e.name = d.name ∧ TypeName.canonical e.typeName ≠ TypeName.canonical d.typeName)

include hnames hd hname

theorem nodup_names_replace : ((c.replace i e).declarations.map (·.name)).Nodup := by
  obtain ⟨front, back, hold, hnew⟩ := exists_split_of_replace hd e
  rw [hold, List.map_append, List.map_cons] at hnames
  rw [hnew, List.map_append, List.map_cons]
  rcases hname with hfresh | ⟨hkept, -⟩
  · rw [hold, forall_mem_middle] at hfresh
    rw [List.nodup_middle, List.nodup_cons] at hnames ⊢
    refine ⟨fun hmem => ?_, hnames.2⟩
    rw [← List.map_append, List.mem_map] at hmem
    obtain ⟨x, hx, heq⟩ := hmem
    exact hfresh.2 x hx heq
  · rwa [hkept]

/-- The new variable starts where the old one did, and all others stay the same. -/
theorem exists_substituted (hdstored : d.occupiesStorage = true)
    (hestored : e.occupiesStorage = true) (hsize : e.type.size = d.type.size) : ∃ seat,
    c.layout.Substituted (c.replace i e).layout (d.placedAt seat) (e.placedAt seat) := by
  obtain ⟨front, back, hold, hnew⟩ := exists_split_of_replace hd e
  have hnew' := layout_vars_of_split hnew hestored
  rw [hsize] at hnew'
  refine ⟨_, .of_split (layout_vars_of_split hold hdstored) hnew' (layout_namesDistinct hnames)
    (layout_namesDistinct (nodup_names_replace hnames hd hname)) fun heq => ?_⟩
  obtain ⟨hsame, htype⟩ := Variable.identity_eq_iff.mp heq
  rcases hname with hfresh | ⟨-, hretyped⟩
  · exact hfresh d (List.mem_of_getElem? hd) hsame
  · exact hretyped htype.symm

/-- A storage declaration is replaced by another one of the same size, which has a name of its own
or gives the name another type. The comparison reports the old variable as removed, the new one as
added, and that these two collide over all bytes of the old one; nothing else collides and nothing
moves. The collision is one of types, and the name is reported as retyped, if and only if the name
was kept. By no policy can the upgrade be deployed. -/
theorem layout_replace (hdstored : d.occupiesStorage = true)
    (hestored : e.occupiesStorage = true)
    (hsize : SolidityType.sizeOfName e.typeName = SolidityType.sizeOfName d.typeName) :
    let old := c.layout
    let new := (c.replace i e).layout
    ∃ v w, old.named? d.name = some v ∧ new.named? e.name = some w ∧
      v.typeName = d.typeName ∧ w.typeName = e.typeName ∧
      (old.compare new).removed = [v] ∧
      (old.compare new).added = [w] ∧
      (old.compare new).moved = [] ∧
      (old.compare new).collisions = [⟨v, w⟩] ∧
      (Collision.mk v w).overlap = ⟨v.offset, v.offset + v.size⟩ ∧
      ((Collision.mk v w).kind = .typeMismatch ↔ e.name = d.name) ∧
      old.retypings new = (if e.name = d.name then [.retyped v w] else []) ∧
      ∀ policy, (⟨old, new, policy⟩ : Upgrade).isDeployable = false := by
  intro old new
  have hdistinct : old.NamesDistinct := layout_namesDistinct hnames
  have hdistinct' : new.NamesDistinct :=
    layout_namesDistinct (nodup_names_replace hnames hd hname)
  obtain ⟨seat, h⟩ := exists_substituted hnames hd hname hdstored hestored hsize
  have hv : (d.placedAt seat).FitsSlot := fitsSlot_of_mem_layout h.mem_old
  have hw : (e.placedAt seat).FitsSlot := fitsSlot_of_mem_layout h.mem_new
  have hsame : (d.placedAt seat).SamePosition (e.placedAt seat) := ⟨rfl, rfl⟩
  have hcollisions : (old.compare new).collisions = [⟨d.placedAt seat, e.placedAt seat⟩] :=
    h.collisions_eq hdistinct hdistinct' (layout_not_overlaps _) (layout_not_overlaps _)
      (hsame.overlaps hv hw)
  have hkept : (d.placedAt seat).name = (e.placedAt seat).name ↔ e.name = d.name := eq_comm
  refine ⟨d.placedAt seat, e.placedAt seat, hdistinct.named?_eq_some h.mem_old,
    hdistinct'.named?_eq_some h.mem_new, rfl, rfl, h.removed_eq hdistinct, h.added_eq hdistinct',
    h.moved_eq_nil hdistinct hdistinct', hcollisions,
    Collision.overlap_of_samePosition hv hsame hsize.symm,
    Collision.kind_eq_typeMismatch_iff.trans hkept, ?_, fun policy => ?_⟩
  · simp only [← hkept]
    exact h.retypings_eq hdistinct hdistinct'
  · rw [Bool.eq_false_iff, Ne, Upgrade.isDeployable_iff]
    simp [Upgrade.comparison, hcollisions]

end

/-- A flag becomes a counter of one byte under its old name, in the slot of an owner. -/
theorem layout_replace_flag :
    let owner := Declaration.make .plain "owner" "address"
    let flag := Declaration.make .plain "state" "bool"
    let counter := Declaration.make .plain "state" "uint8"
    let c : Contract := ⟨"Vault", [owner, flag]⟩
    (c.declarations.map (·.name)).Nodup ∧ c.declarations[1]? = some flag ∧
      flag.occupiesStorage = true ∧ counter.occupiesStorage = true ∧
      SolidityType.sizeOfName counter.typeName = SolidityType.sizeOfName flag.typeName ∧
      TypeName.canonical counter.typeName ≠ TypeName.canonical flag.typeName ∧
      (c.layout.compare (c.replace 1 counter).layout).moved = [] ∧
      (Upgrade.ofContracts c (c.replace 1 counter)).isDeployable = false := by
  intro owner flag counter c
  have hnames : (c.declarations.map (·.name)).Nodup := by decide
  have hsize : SolidityType.sizeOfName counter.typeName =
      SolidityType.sizeOfName flag.typeName := by decide +kernel
  have htype : TypeName.canonical counter.typeName ≠ TypeName.canonical flag.typeName := by
    decide +kernel
  obtain ⟨v, w, -, -, -, -, -, -, hmoved, -, -, -, -, hpolicy⟩ :=
    layout_replace (i := 1) (d := flag) (e := counter) hnames rfl (.inr ⟨rfl, htype⟩) rfl rfl hsize
  exact ⟨hnames, rfl, rfl, rfl, hsize, htype, hmoved, hpolicy .standard⟩

end Contract

end StorageLayout
