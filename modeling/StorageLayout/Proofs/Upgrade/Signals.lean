import StorageLayout.Proofs.Comparison.DistinctNames
import StorageLayout.Proofs.Exchange.Document

/-!
# Two signals of a retyped variable

A variable that gets another type is seen twice: a comparison lists the old variable as removed
and the new one as added, and the name is reported as retyped. Where names are distinct, as they
are in every contract read from a document, the two signals never disagree, and a collision of
types is always one of a retyped variable with itself.
-/

namespace StorageLayout

theorem Variable.identity_eq_iff {v w : Variable} :
    v.identity = w.identity ↔ v.name = w.name ∧ v.canonicalType = w.canonicalType := by
  simp [identity]

theorem Collision.kind_eq_typeMismatch_iff {c : Collision} :
    c.kind = .typeMismatch ↔ c.previous.name = c.current.name := by
  by_cases h : c.previous.name = c.current.name <;> simp [kind, h]

namespace Layout

section

variable {old new : Layout} (hold : old.NamesDistinct) (hnew : new.NamesDistinct)
  {v w : Variable} (hv : v ∈ old.vars) (hw : w ∈ new.vars) (hname : v.name = w.name)

include hold hnew hv hw hname

/-- Only the variable of its name can be the counterpart of an old variable. -/
theorem mem_removed_iff_retyped :
    v ∈ (old.compare new).removed ↔ v.canonicalType ≠ w.canonicalType := by
  rw [hold.mem_removed]
  constructor
  · rintro ⟨-, hne⟩ htype
    exact hne w hw (Variable.identity_eq_iff.mpr ⟨hname.symm, htype.symm⟩)
  · intro htype
    refine ⟨hv, fun x hx heq => ?_⟩
    obtain ⟨hxname, hxtype⟩ := Variable.identity_eq_iff.mp heq
    obtain rfl : x = w := hnew.eq_of_name_eq hx hw (hxname.trans hname)
    exact htype hxtype.symm

theorem mem_added_iff_retyped :
    w ∈ (old.compare new).added ↔ v.canonicalType ≠ w.canonicalType := by
  have h : w ∈ (new.compare old).removed ↔ w.canonicalType ≠ v.canonicalType :=
    mem_removed_iff_retyped hnew hold hw hv hname.symm
  exact h.trans ne_comm

theorem count_retypings_eq_one_iff :
    (old.retypings new).count (.retyped v w) = 1 ↔ v.canonicalType ≠ w.canonicalType := by
  have hnodup : (old.retypings new).Nodup := nodup_retypings (List.Nodup.of_map _ hnew)
  have hmem : .retyped v w ∈ old.retypings new ↔ v.canonicalType ≠ w.canonicalType := by
    simp [mem_retypings_of_namesDistinct hold hnew, hv, hw, hname]
  rw [hnodup.count, ← hmem]
  simp

theorem name_ne_of_type_eq (htype : v.canonicalType = w.canonicalType) :
    (∀ x ∈ (old.compare new).removed, x.name ≠ v.name) ∧
      (∀ x ∈ (old.compare new).added, x.name ≠ v.name) ∧
      ∀ x y, .retyped x y ∈ old.retypings new → x.name ≠ v.name ∧ y.name ≠ v.name := by
  refine ⟨?_, ?_, ?_⟩
  · intro x hx hxname
    obtain rfl : x = v := hold.eq_of_name_eq (hold.mem_removed.mp hx).1 hv hxname
    exact (mem_removed_iff_retyped hold hnew hv hw hname).mp hx htype
  · intro x hx hxname
    obtain rfl : x = w := hnew.eq_of_name_eq (hnew.mem_added.mp hx).1 hw (hxname.trans hname)
    exact (mem_added_iff_retyped hold hnew hv hw hname).mp hx htype
  · intro x y hxy
    obtain ⟨hx, hy, hxyname, hne⟩ := (mem_retypings_of_namesDistinct hold hnew).mp hxy
    have hxne : x.name ≠ v.name := by
      intro hxname
      obtain rfl : x = v := hold.eq_of_name_eq hx hv hxname
      obtain rfl : y = w := hnew.eq_of_name_eq hy hw (hxyname.symm.trans hname)
      exact hne htype
    exact ⟨hxne, hxyname ▸ hxne⟩

end

/-- The contracts of documents have distinct names. Between layouts with distinct names, a name
has another type exactly if it is reported as retyped, once, and exactly if its old variable is
removed and its new one added; these two collide, as variables of one name, exactly if they
share bytes. Only retyped names collide with themselves, and names that keep their type are not
reported at all. -/
theorem retypings_agree_compare :
    (∀ value d, Document.ofJson value = .ok d → ∀ c ∈ d.contracts, c.layout.NamesDistinct) ∧
      ∀ old new : Layout, old.NamesDistinct → new.NamesDistinct →
        (∀ v ∈ old.vars, ∀ w ∈ new.vars, v.name = w.name →
          (v.canonicalType ≠ w.canonicalType ↔
            (old.retypings new).count (.retyped v w) = 1) ∧
          (v.canonicalType ≠ w.canonicalType ↔
            v ∈ (old.compare new).removed ∧ w ∈ (old.compare new).added) ∧
          (v.canonicalType ≠ w.canonicalType →
            (⟨v, w⟩ ∈ (old.compare new).collisions.filter (·.kind = .typeMismatch) ↔
              v.Overlaps w)) ∧
          (v.canonicalType = w.canonicalType →
            (∀ x ∈ (old.compare new).removed, x.name ≠ v.name) ∧
            (∀ x ∈ (old.compare new).added, x.name ≠ v.name) ∧
            ∀ x y, .retyped x y ∈ old.retypings new → x.name ≠ v.name ∧ y.name ≠ v.name)) ∧
        ∀ c ∈ (old.compare new).collisions, c.kind = .typeMismatch →
          c.previous ∈ old.vars ∧ c.current ∈ new.vars ∧ c.previous.name = c.current.name ∧
            c.previous.canonicalType ≠ c.current.canonicalType := by
  refine ⟨fun value d hd c hc => Contract.layout_namesDistinct (Document.nodup_names hd hc),
    fun old new hold hnew => ⟨fun v hv w hw hname => ?_, fun c hc hkind => ?_⟩⟩
  · have hremoved := mem_removed_iff_retyped hold hnew hv hw hname
    have hadded := mem_added_iff_retyped hold hnew hv hw hname
    refine ⟨(count_retypings_eq_one_iff hold hnew hv hw hname).symm, ?_, fun htype => ?_,
      name_ne_of_type_eq hold hnew hv hw hname⟩
    · rw [hremoved, hadded, and_self]
    · have hkind : (Collision.mk v w).kind = .typeMismatch :=
        Collision.kind_eq_typeMismatch_iff.mpr hname
      rw [List.mem_filter, decide_eq_true hkind, eq_self, and_true]
      exact mem_collisions_of_unmatched hold hnew (hremoved.mpr htype) (hadded.mpr htype)
  · obtain ⟨hprevious, hcurrent, hne⟩ := identity_ne_of_mem_collisions hold hnew hc
    have hname := Collision.kind_eq_typeMismatch_iff.mp hkind
    exact ⟨hprevious, hcurrent, hname, fun htype =>
      hne (Variable.identity_eq_iff.mpr ⟨hname, htype⟩)⟩

/-- A wide counter becomes a narrow one in its old slot, beside an owner that keeps its type. -/
theorem retypings_agree_compare_narrowed :
    let declaration (name type : String) : Json :=
      .object [("name", .string name), ("typeName", .string type)]
    let vault (type : String) : Json :=
      .object [("name", .string "Vault"),
        ("variables", .array [declaration "total" type, declaration "owner" "address"])]
    let a : Contract := ⟨"Vault", [.make .plain "total" "uint256", .make .plain "owner" "address"]⟩
    let b : Contract := ⟨"Vault", [.make .plain "total" "uint96", .make .plain "owner" "address"]⟩
    let total (type : String) (size : Nat) (packed : Bool) : Variable :=
      ⟨"total", type, 0, 0, size, true, packed⟩
    Document.ofJson (vault "uint256") = .ok ⟨[a]⟩ ∧ Document.ofJson (vault "uint96") = .ok ⟨[b]⟩ ∧
      (a.layout.retypings b.layout).count
        (.retyped (total "uint256" 32 false) (total "uint96" 12 true)) = 1 ∧
      total "uint256" 32 false ∈ (a.layout.compare b.layout).removed := by
  intro declaration vault a b total
  have ha : Document.ofJson (vault "uint256") = .ok ⟨[a]⟩ := by rfl
  have hb : Document.ofJson (vault "uint96") = .ok ⟨[b]⟩ := by rfl
  obtain ⟨hdistinct, hagree⟩ := retypings_agree_compare
  have hold := hdistinct _ _ ha a (List.mem_singleton_self a)
  have hnew := hdistinct _ _ hb b (List.mem_singleton_self b)
  have hv : total "uint256" 32 false ∈ a.layout.vars := by decide +kernel
  have hw : total "uint96" 12 true ∈ b.layout.vars := by decide +kernel
  obtain ⟨hcount, hlists, -, -⟩ := (hagree _ _ hold hnew).1 _ hv _ hw rfl
  have htype : (total "uint256" 32 false).canonicalType ≠
      (total "uint96" 12 true).canonicalType := by decide +kernel
  exact ⟨ha, hb, hcount.mp htype, (hlists.mp htype).1⟩

end Layout

end StorageLayout
