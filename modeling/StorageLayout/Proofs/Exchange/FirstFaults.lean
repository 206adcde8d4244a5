import Mathlib.Order.Bounds.Basic
import StorageLayout.Proofs.Exchange.DocumentRoundTrip

/-!
# The fault that is reported

Of all that may be wrong with a document one fault is reported. It is that of the first contract
that cannot be read. In a contract the declarations are read before their names are compared, so
the first malformed declaration is reported even behind a repeated name.
-/

namespace StorageLayout

section Places

variable {α β : Type} {xs before after : List α} {x : α} {i : Nat}

/-- The place holds an entry with the property. -/
def HoldsAt (P : α → Prop) (xs : List α) (i : Nat) : Prop :=
  ∃ x, xs[i]? = some x ∧ P x

/-- The entry at the place stands at an earlier place too. -/
def RepeatedAt (xs : List α) (i : Nat) : Prop :=
  ∃ j < i, ∃ x, xs[j]? = some x ∧ xs[i]? = some x

theorem forall_not_holdsAt_iff {P : α → Prop} : (∀ i, ¬ HoldsAt P xs i) ↔ ∀ x ∈ xs, ¬ P x := by
  simp only [HoldsAt, List.mem_iff_getElem?]
  constructor
  · intro h y hy hP
    obtain ⟨i, hi⟩ := hy
    exact h i ⟨y, hi, hP⟩
  · intro h i hi
    obtain ⟨y, hy, hP⟩ := hi
    exact h y ⟨i, hy⟩ hP

theorem forall_not_repeatedAt_iff : (∀ i, ¬ RepeatedAt xs i) ↔ xs.Nodup := by
  rw [List.nodup_iff_getElem?_ne_getElem?]
  constructor
  · intro h i j hij hj heq
    have hx := List.getElem?_eq_getElem hj
    exact h j ⟨i, hij, xs[j], heq.trans hx, hx⟩
  · intro h j hj
    obtain ⟨i, hij, y, hi, hy⟩ := hj
    exact h i j hij (List.getElem?_eq_some_iff.mp hy).1 (hi.trans hy.symm)

theorem isLeast_holdsAt {P : α → Prop} (hbefore : ∀ y ∈ before, ¬ P y) (hx : P x) :
    IsLeast {i | HoldsAt P (before ++ x :: after) i} before.length := by
  constructor
  · exact ⟨x, by simp, hx⟩
  · intro i h
    obtain ⟨y, hy, hP⟩ := h
    by_contra! hlt
    rw [List.getElem?_append_left hlt] at hy
    exact hbefore y (List.mem_of_getElem? hy) hP

theorem isLeast_repeatedAt (hbefore : before.Nodup) (hx : x ∈ before) :
    IsLeast {i | RepeatedAt (before ++ x :: after) i} before.length := by
  constructor
  · obtain ⟨j, hj⟩ := List.mem_iff_getElem?.mp hx
    have hlt := (List.getElem?_eq_some_iff.mp hj).1
    exact ⟨j, hlt, x, by rwa [List.getElem?_append_left hlt], by simp⟩
  · intro i h
    obtain ⟨j, hji, y, hj, hi⟩ := h
    by_contra! hlt
    rw [List.getElem?_append_left (hji.trans hlt)] at hj
    rw [List.getElem?_append_left hlt] at hi
    exact forall_not_repeatedAt_iff.mpr hbefore i ⟨j, hji, y, hj, hi⟩

theorem repeatedAt_map_iff {f : α → β} (hf : f.Injective) :
    RepeatedAt (xs.map f) i ↔ RepeatedAt xs i := by
  simp only [RepeatedAt, List.getElem?_map, Option.map_eq_some_iff]
  constructor
  · intro h
    obtain ⟨j, hji, -, ⟨x, hj, rfl⟩, y, hi, hxy⟩ := h
    exact ⟨j, hji, x, hj, hf hxy ▸ hi⟩
  · intro h
    obtain ⟨j, hji, x, hj, hi⟩ := h
    exact ⟨j, hji, f x, ⟨x, hj, rfl⟩, x, hi, rfl⟩

/-- The first entry that fails is the head, or it comes behind a head that does not fail. -/
theorem exists_first_cons_iff {P : α → Prop} {Q : Nat → α → Prop} :
    (∃ before y after, x :: xs = before ++ y :: after ∧ (∀ z ∈ before, P z) ∧
        Q before.length y) ↔
      Q 0 x ∨ P x ∧ ∃ before y after, xs = before ++ y :: after ∧ (∀ z ∈ before, P z) ∧
        Q (before.length + 1) y := by
  constructor
  · intro h
    obtain ⟨before, y, after, heq, hbefore, hy⟩ := h
    cases before with
    | nil =>
      obtain ⟨rfl, rfl⟩ := List.cons.inj heq
      exact .inl hy
    | cons z before =>
      obtain ⟨rfl, rfl⟩ := List.cons.inj heq
      obtain ⟨hx, hbefore⟩ := List.forall_mem_cons.mp hbefore
      exact .inr ⟨hx, before, y, after, rfl, hbefore, hy⟩
  · intro h
    rcases h with hx | ⟨hx, before, y, after, rfl, hbefore, hy⟩
    · exact ⟨[], x, xs, rfl, by simp, hx⟩
    · exact ⟨x :: before, y, after, rfl, List.forall_mem_cons.mpr ⟨hx, hbefore⟩, hy⟩

end Places

section Reading

variable {ε α β : Type} {x : Except ε α} {e : ε}

theorem except_bind_eq_error_iff {f : α → Except ε β} :
    x >>= f = .error e ↔ x = .error e ∨ ∃ a, x = .ok a ∧ f a = .error e := by
  cases x <;> simp [bind, Except.bind]

theorem except_map_eq_error_iff {f : α → β} : x.map f = .error e ↔ x = .error e := by
  cases x <;> simp [Except.map]

/-- Reading a list fails by the first value that cannot be read, whatever comes behind it. -/
theorem mapM_eq_error_iff {f : α → Except ε β} {xs : List α} : xs.mapM f = .error e ↔
    ∃ before x after, xs = before ++ x :: after ∧ (∀ y ∈ before, ∃ b, f y = .ok b) ∧
      f x = .error e := by
  induction xs with
  | nil => simp [pure, Except.pure]
  | cons x xs ih =>
    have hrest : ∀ b, (xs.mapM f >>= fun bs => .ok (b :: bs)) = .error e ↔
        xs.mapM f = .error e := by
      intro b
      simp [except_bind_eq_error_iff]
    rw [exists_first_cons_iff (Q := fun _ y => f y = .error e), ← ih, List.mapM_cons,
      except_bind_eq_error_iff]
    simp only [pure, Except.pure, hrest, exists_and_right]

end Reading

namespace Declaration

variable {value : Json} {field : String}

/-- The flag is there, and it is neither null nor a truth value. -/
def MalformedFlag (value : Json) (field : String) : Prop :=
  ∃ got, value.get? field = some got ∧ got ≠ .null ∧ ∀ b, got ≠ .bool b

/-- The name is missing, no string or empty; the type, which stands under `typeName`, and under
`type` only where that key is absent, is missing, no string or blank; or a flag is malformed. -/
def Malformed (value : Json) : Prop :=
  (∀ s, value.get? "name" = some (.string s) → s = "") ∨
    (∀ s, (value.get? "typeName").or (value.get? "type") = some (.string s) →
      Text.allBlank s = true) ∨
    MalformedFlag value "isConstant" ∨ MalformedFlag value "isImmutable"

theorem get?_typeKey (value : Json) :
    value.get? (typeKey value) = (value.get? "typeName").or (value.get? "type") := by
  rw [typeKey]
  cases h : value.get? "typeName" <;> simp [h]

theorem exists_textMember?_eq_some_iff {check : String → Bool} :
    (∃ s, textMember? value field check = some s) ↔
      ¬ ∀ s, value.get? field = some (.string s) → check s = false := by
  simp [textMember?_eq_some_iff]

theorem exists_flagOf_eq_ok_iff :
    (∃ b, flagOf value field = .ok b) ↔ ¬ MalformedFlag value field := by
  rw [flagOf, MalformedFlag]
  cases value.get? field with
  | none => simp
  | some got => cases got <;> simp

theorem exists_ofDocument_eq_ok_iff :
    (∃ d, Declaration.ofDocument value = .ok d) ↔ ¬ Malformed value := by
  have hmalformed : Malformed value ↔
      (∀ s, value.get? "name" = some (.string s) → decide (s ≠ "") = false) ∨
        (∀ s, value.get? (typeKey value) = some (.string s) → (!Text.allBlank s) = false) ∨
        MalformedFlag value "isConstant" ∨ MalformedFlag value "isImmutable" := by
    simp [Malformed, get?_typeKey]
  rw [hmalformed, not_or, not_or, not_or, ← exists_textMember?_eq_some_iff,
    ← exists_textMember?_eq_some_iff, ← exists_flagOf_eq_ok_iff, ← exists_flagOf_eq_ok_iff]
  simp only [ofDocument_eq_ok_iff]
  constructor
  · intro h
    obtain ⟨d, hname, htype, hconstant, himmutable⟩ := h
    exact ⟨⟨_, hname⟩, ⟨_, htype⟩, ⟨_, hconstant⟩, ⟨_, himmutable⟩⟩
  · intro h
    obtain ⟨⟨name, hname⟩, ⟨typeName, htype⟩, ⟨isConstant, hconstant⟩, isImmutable,
      himmutable⟩ := h
    exact ⟨⟨name, typeName, isConstant, isImmutable⟩, hname, htype, hconstant, himmutable⟩

theorem malformed_iff :
    Malformed value ↔ ∃ fault, Declaration.ofDocument value = .error fault := by
  rw [← not_iff_not, ← exists_ofDocument_eq_ok_iff]
  cases Declaration.ofDocument value <;> simp

end Declaration

namespace Contract

variable {contract name : String} {index : Nat} {values : List Json} {ds : List Declaration}

theorem declarationsFrom_eq_error_iff {e : DocumentError} :
    declarationsFrom contract index values = .error e ↔
      ∃ before x after, values = before ++ x :: after ∧
        (∀ y ∈ before, ∃ d, Declaration.ofDocument y = .ok d) ∧
        ∃ fault, Declaration.ofDocument x = .error fault ∧
          e = .invalidDeclaration contract (index + before.length) fault := by
  induction values generalizing index with
  | nil => simp [declarationsFrom]
  | cons x xs ih =>
    rw [exists_first_cons_iff (Q := fun n y => ∃ fault, Declaration.ofDocument y = .error fault ∧
      e = .invalidDeclaration contract (index + n) fault), declarationsFrom]
    cases hx : Declaration.ofDocument x with
    | error fault => simp [eq_comm]
    | ok d => simp [except_map_eq_error_iff, ih, Nat.add_assoc, Nat.add_comm 1]

theorem duplicateFrom?_eq_some {seen : List String} {i : Nat} {s : String}
    (h : duplicateFrom? seen index ds = some (i, s)) :
    ∃ before d after, ds = before ++ d :: after ∧ duplicateFrom? seen index before = none ∧
      i = index + before.length ∧ s = d.name ∧ (d.name ∈ seen ∨ d.name ∈ before.map (·.name)) := by
  induction ds generalizing seen index with
  | nil => cases h
  | cons d ds ih =>
    rw [duplicateFrom?] at h
    split at h
    case isTrue hseen =>
      cases h
      exact ⟨[], d, ds, rfl, rfl, rfl, rfl, .inl hseen⟩
    case isFalse hseen =>
      obtain ⟨before, e, after, rfl, hbefore, rfl, rfl, he⟩ := ih h
      refine ⟨d :: before, e, after, rfl, ?_, ?_, rfl, ?_⟩
      · rw [duplicateFrom?, if_neg hseen, hbefore]
      · rw [List.length_cons, Nat.add_right_comm, Nat.add_assoc]
      · rw [List.mem_cons, or_assoc] at he
        rw [List.map_cons, List.mem_cons]
        exact or_left_comm.mp he

/-- What reading a contract of this name and with these declarations comes to. -/
inductive Outcome (name : String) (values : List Json) : Except DocumentError Contract → Prop
  /-- A malformed declaration is reported with what is wrong with it. -/
  | malformed {i : Nat} {x : Json} {fault : DeclarationFault} :
      IsLeast {i | HoldsAt Declaration.Malformed values i} i → values[i]? = some x →
      Declaration.ofDocument x = .error fault →
      Outcome name values (.error (.invalidDeclaration name i fault))
  /-- Where none is malformed, a repeated name is reported. -/
  | repeated {i : Nat} {x : Json} {s : String} :
      (∀ i, ¬ HoldsAt Declaration.Malformed values i) →
      IsLeast {i | RepeatedAt (values.map (·.get? "name")) i} i → values[i]? = some x →
      x.get? "name" = some (.string s) →
      Outcome name values (.error (.invalidDeclaration name i (.duplicateName s)))
  /-- Otherwise every value is read as a declaration. -/
  | accepted {ds : List Declaration} : (∀ i, ¬ HoldsAt Declaration.Malformed values i) →
      (∀ i, ¬ RepeatedAt (values.map (·.get? "name")) i) →
      List.Forall₂ (fun x d => Declaration.ofDocument x = .ok d) values ds →
      Outcome name values (.ok ⟨name, ds⟩)

section Declarations

variable (h : List.Forall₂ (fun x d => Declaration.ofDocument x = .ok d) values ds)

include h

theorem forall_not_malformed : ∀ i, ¬ HoldsAt Declaration.Malformed values i := by
  rw [forall_not_holdsAt_iff]
  intro x hx
  obtain ⟨d, -, hd⟩ := exists_of_forall₂_of_mem h.flip hx
  exact Declaration.exists_ofDocument_eq_ok_iff.mp ⟨d, hd⟩

theorem map_get?_name :
    values.map (·.get? "name") = (ds.map (·.name)).map fun s => some (.string s) := by
  induction h with
  | nil => rfl
  | cons hd _ ih =>
    have hname := Declaration.textMember?_eq_some_iff.mp
      (Declaration.ofDocument_eq_ok_iff.mp hd).1
    rw [List.map_cons, List.map_cons, List.map_cons, hname.1, ih]

theorem repeatedAt_get?_name_iff {i : Nat} : RepeatedAt (values.map (·.get? "name")) i ↔
    RepeatedAt (ds.map (·.name)) i := by
  rw [map_get?_name h, repeatedAt_map_iff]
  intro s t hst
  simpa using hst

end Declarations

variable {value : Json} {result result' : Except DocumentError Contract}

theorem Outcome.unique (h : Outcome name values result) (h' : Outcome name values result') :
    result = result' := by
  cases h with
  | malformed hi hx hfault =>
    cases h' with
    | malformed hj hy hfault' =>
      obtain rfl := hi.unique hj
      obtain rfl := Option.some.inj (hx.symm.trans hy)
      obtain rfl := Except.error.inj (hfault.symm.trans hfault')
      rfl
    | repeated hnone => exact absurd hi.1 (hnone _)
    | accepted hnone => exact absurd hi.1 (hnone _)
  | repeated hnone hi hx hs =>
    cases h' with
    | malformed hj => exact absurd hj.1 (hnone _)
    | repeated _ hj hy ht =>
      obtain rfl := hi.unique hj
      obtain rfl := Option.some.inj (hx.symm.trans hy)
      obtain rfl := Json.string.inj (Option.some.inj (hs.symm.trans ht))
      rfl
    | accepted _ hdistinct => exact absurd hi.1 (hdistinct _)
  | accepted hnone hdistinct hds =>
    cases h' with
    | malformed hj => exact absurd hj.1 (hnone _)
    | repeated _ hj => exact absurd hj.1 (hdistinct _)
    | accepted _ _ hds' =>
      have hread : declarationsFrom name 0 values = .ok _ := declarationsFrom_eq_ok_iff.mpr hds
      have hread' : declarationsFrom name 0 values = .ok _ := declarationsFrom_eq_ok_iff.mpr hds'
      obtain rfl := Except.ok.inj (hread.symm.trans hread')
      rfl

theorem ofDocument_eq_bind (hname : value.get? "name" = some (.string name))
    (hvalues : value.get? "variables" = some (.array values)) :
    Contract.ofDocument value = declarationsFrom name 0 values >>= fun ds =>
      match duplicateFrom? [] 0 ds with
      | some (i, s) => .error (.invalidDeclaration name i (.duplicateName s))
      | none => .ok ⟨name, ds⟩ := by
  simp only [Contract.ofDocument, hname, declarationValues, hvalues]
  rfl

theorem outcome_ofDocument (hname : value.get? "name" = some (.string name))
    (hvalues : value.get? "variables" = some (.array values)) :
    Outcome name values (Contract.ofDocument value) := by
  rw [ofDocument_eq_bind hname hvalues]
  cases hread : declarationsFrom name 0 values with
  | error e =>
    obtain ⟨before, x, after, rfl, hbefore, fault, hfault, rfl⟩ :=
      declarationsFrom_eq_error_iff.mp hread
    rw [Nat.zero_add]
    exact .malformed
      (isLeast_holdsAt (fun y hy => Declaration.exists_ofDocument_eq_ok_iff.mp (hbefore y hy))
        (Declaration.malformed_iff.mpr ⟨fault, hfault⟩))
      (by simp) hfault
  | ok ds =>
    have hds := declarationsFrom_eq_ok_iff.mp hread
    change Outcome name values (match duplicateFrom? [] 0 ds with
      | some (i, s) => .error (.invalidDeclaration name i (.duplicateName s))
      | none => .ok ⟨name, ds⟩)
    cases hduplicate : duplicateFrom? [] 0 ds with
    | none =>
      refine .accepted (forall_not_malformed hds) ?_ hds
      simp only [repeatedAt_get?_name_iff hds]
      exact forall_not_repeatedAt_iff.mpr (duplicateFrom?_eq_none_iff.mp hduplicate).1
    | some found =>
      obtain ⟨i, s⟩ := found
      obtain ⟨before, d, after, rfl, hbefore, hi, rfl, hd⟩ := duplicateFrom?_eq_some hduplicate
      rw [Nat.zero_add] at hi
      subst hi
      have hplace : (values.map (·.get? "name"))[before.length]? = some (some (.string d.name)) := by
        rw [map_get?_name hds]
        simp
      obtain ⟨x, hx, hxname⟩ := by rwa [List.getElem?_map, Option.map_eq_some_iff] at hplace
      have hnames : (before.map (·.name)).Nodup := (duplicateFrom?_eq_none_iff.mp hbefore).1
      have hleast : IsLeast
          {i | RepeatedAt (before.map (·.name) ++ d.name :: after.map (·.name)) i}
          (before.map (·.name)).length :=
        isLeast_repeatedAt hnames (hd.resolve_left List.not_mem_nil)
      refine .repeated (forall_not_malformed hds) ?_ hx hxname
      simpa only [repeatedAt_get?_name_iff hds, List.map_append, List.map_cons,
        List.length_map] using hleast

theorem ofDocument_eq_iff (hname : value.get? "name" = some (.string name))
    (hvalues : value.get? "variables" = some (.array values)) :
    Contract.ofDocument value = result ↔ Outcome name values result := by
  have houtcome := outcome_ofDocument hname hvalues
  constructor
  · intro h
    exact h ▸ houtcome
  · exact houtcome.unique

end Contract

namespace Document

/-- The document of a list of contracts. -/
def listing (values : List Json) : Json :=
  .object [("contracts", .array values)]

theorem ofJson_listing (values : List Json) :
    ofJson (listing values) = (values.mapM Contract.ofDocument).map Document.mk := rfl

theorem ofJson_listing_eq_ok_iff {values : List Json} {d : Document} :
    ofJson (listing values) = .ok d ↔
      List.Forall₂ (fun x c => Contract.ofDocument x = .ok c) values d.contracts := by
  rw [ofJson_listing, except_map_eq_ok_iff, ← mapM_eq_ok_iff]
  constructor
  · intro h
    obtain ⟨cs, hcs, rfl⟩ := h
    exact hcs
  · intro h
    exact ⟨d.contracts, h, rfl⟩

theorem ofJson_listing_eq_error_iff {values : List Json} {e : DocumentError} :
    ofJson (listing values) = .error e ↔
      ∃ before x after, values = before ++ x :: after ∧
        (∀ y ∈ before, ∃ c, Contract.ofDocument y = .ok c) ∧ Contract.ofDocument x = .error e := by
  rw [ofJson_listing, except_map_eq_error_iff, mapM_eq_error_iff]

theorem exists_ofJson_listing_eq_ok_iff {values : List Json} :
    (∃ d, ofJson (listing values) = .ok d) ↔ ∀ x ∈ values, ∃ c, Contract.ofDocument x = .ok c := by
  constructor
  · intro h x hx
    obtain ⟨d, hd⟩ := h
    obtain ⟨c, -, hc⟩ := exists_of_forall₂_of_mem (ofJson_listing_eq_ok_iff.mp hd).flip hx
    exact ⟨c, hc⟩
  · intro h
    cases hread : ofJson (listing values) with
    | ok d => exact ⟨d, rfl⟩
    | error e =>
      obtain ⟨before, x, after, rfl, -, hx⟩ := ofJson_listing_eq_error_iff.mp hread
      obtain ⟨c, hc⟩ := h x (by simp)
      rw [hx] at hc
      cases hc

theorem ofJson_of_get?_contracts {value : Json} (h : value.get? "contracts" = none) :
    ofJson value = ofJson (listing [value]) := by
  rw [ofJson, h, ofJson_listing, List.mapM_cons]
  cases Contract.ofDocument value <;> rfl

/-- A list of contracts is read if and only if each of them is read by itself, with the contracts
in order, and the fault that is reported otherwise is that of the first that is not. For one
contract with a name and a list of declarations the outcome is the one that the places of malformed
declarations and of repeated names determine. A document without a list is read like the list of
just this value. -/
theorem ofJson_reports_first :
    (∀ values, (∃ d, ofJson (listing values) = .ok d) ↔
        ∀ x ∈ values, ∃ c, Contract.ofDocument x = .ok c) ∧
      (∀ values d, ofJson (listing values) = .ok d ↔
        List.Forall₂ (fun x c => Contract.ofDocument x = .ok c) values d.contracts) ∧
      (∀ values e, ofJson (listing values) = .error e ↔
        ∃ before x after, values = before ++ x :: after ∧
          (∀ y ∈ before, ∃ c, Contract.ofDocument y = .ok c) ∧
          Contract.ofDocument x = .error e) ∧
      (∀ value name values, value.get? "name" = some (.string name) →
        value.get? "variables" = some (.array values) →
        ∀ result, Contract.ofDocument value = result ↔ Contract.Outcome name values result) ∧
      ∀ value, value.get? "contracts" = none → ofJson value = ofJson (listing [value]) :=
  ⟨fun _ => exists_ofJson_listing_eq_ok_iff, fun _ _ => ofJson_listing_eq_ok_iff,
    fun _ _ => ofJson_listing_eq_error_iff,
    fun _ _ _ hname hvalues _ => Contract.ofDocument_eq_iff hname hvalues,
    fun _ => ofJson_of_get?_contracts⟩

/-- The name of the second declaration is repeated, but it is the third that is reported: its type
is null, and the other key is not looked at. -/
theorem ofJson_reports_first_malformed :
    let first : Json := .object [("name", .string "owner"), ("type", .string "address")]
    let last : Json :=
      .object [("name", .string "fee"), ("typeName", .null), ("type", .string "uint16")]
    let values := [first, first, last]
    let value : Json := .object [("name", .string "Vault"), ("variables", .array values)]
    RepeatedAt (values.map (·.get? "name")) 1 ∧
      Contract.Outcome "Vault" values
        (.error (.invalidDeclaration "Vault" 2 (.missingType "fee"))) ∧
      ofJson value = ofJson (listing [value]) := by
  intro first last values value
  have hread : Contract.ofDocument value =
      .error (.invalidDeclaration "Vault" 2 (.missingType "fee")) := by rfl
  obtain ⟨-, -, -, houtcome, hlone⟩ := ofJson_reports_first
  exact ⟨⟨0, Nat.zero_lt_one, _, rfl, rfl⟩, (houtcome value "Vault" values rfl rfl _).mp hread,
    hlone value rfl⟩

end Document

end StorageLayout
