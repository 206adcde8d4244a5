import Mathlib.Data.List.Nodup
import StorageLayout.Comparison.Copy

/-!
# Occurrences of labels

An occurrence is its label together with the number of equal labels in front of it, so no
occurrence is listed twice, and looking up number `n` of a label finds the `n`-th value that
carries the label.
-/

namespace StorageLayout

variable {κ α : Type} [DecidableEq κ]

theorem getElem?_copiesAfter (seen ks : List κ) (i : Nat) :
    (copiesAfter seen ks)[i]? =
      ks[i]?.map fun k => ⟨k, seen.count k + (ks.take i).count k⟩ := by
  induction ks generalizing seen i with
  | nil => simp [copiesAfter]
  | cons k ks ih =>
    cases i with
    | zero => simp [copiesAfter]
    | succ i =>
      simp only [copiesAfter, List.getElem?_cons_succ, List.take_succ_cons, ih]
      congr 1
      funext l
      simp only [List.count_cons]
      congr 1
      omega

theorem getElem?_copies (ks : List κ) (i : Nat) :
    (copies ks)[i]? = ks[i]?.map fun k => ⟨k, (ks.take i).count k⟩ := by
  simp [copies, getElem?_copiesAfter]

theorem copies_append (ks ls : List κ) :
    copies (ks ++ ls) = copies ks ++ copiesAfter ks.reverse ls := by
  suffices h : ∀ seen, copiesAfter seen (ks ++ ls) =
      copiesAfter seen ks ++ copiesAfter (ks.reverse ++ seen) ls by
    simpa [copies] using h []
  induction ks with
  | nil => simp [copiesAfter]
  | cons k ks ih => simp [copiesAfter, ih]

theorem count_le_number_of_mem_copiesAfter {seen ks : List κ} {c : Copy κ}
    (h : c ∈ copiesAfter seen ks) : seen.count c.label ≤ c.number := by
  obtain ⟨i, hi⟩ := List.mem_iff_getElem?.mp h
  rw [getElem?_copiesAfter] at hi
  obtain ⟨k, hk, rfl⟩ := Option.map_eq_some_iff.mp hi
  exact Nat.le_add_right _ _

theorem nodup_copiesAfter (seen ks : List κ) : (copiesAfter seen ks).Nodup := by
  induction ks generalizing seen with
  | nil => exact List.nodup_nil
  | cons k ks ih =>
    rw [copiesAfter, List.nodup_cons]
    constructor
    · intro h
      have hle : (k :: seen).count k ≤ seen.count k := count_le_number_of_mem_copiesAfter h
      rw [List.count_cons_self] at hle
      omega
    · exact ih (k :: seen)

theorem nodup_copies (ks : List κ) : (copies ks).Nodup :=
  nodup_copiesAfter [] ks

variable {label : α → κ}

@[simp] theorem withCopies_map_fst (xs : List α) :
    (withCopies label xs).map Prod.fst = copies (xs.map label) :=
  List.map_fst_zip (by simp [length_copies])

theorem nodup_withCopies_map_fst (xs : List α) : ((withCopies label xs).map Prod.fst).Nodup := by
  rw [withCopies_map_fst]
  exact nodup_copies _

@[simp] theorem withCopies_map_snd (xs : List α) : (withCopies label xs).map Prod.snd = xs :=
  List.map_snd_zip (by simp [length_copies])

theorem withCopies_append (xs ys : List α) :
    withCopies label (xs ++ ys) = withCopies label xs ++
      (copiesAfter (xs.map label).reverse (ys.map label)).zip ys := by
  rw [withCopies, List.map_append, copies_append, List.zip_append (by simp [length_copies])]
  rfl

theorem getElem?_withCopies_eq_some_iff {xs : List α} {i : Nat} {c : Copy κ} {x : α} :
    (withCopies label xs)[i]? = some (c, x) ↔
      xs[i]? = some x ∧ label x = c.label ∧ ((xs.take i).map label).count c.label = c.number := by
  rw [withCopies, List.getElem?_zip_eq_some, getElem?_copies, List.getElem?_map,
    Option.map_map, Option.map_eq_some_iff, ← List.map_take]
  constructor
  · rintro ⟨⟨y, hy, rfl⟩, hx⟩
    obtain rfl : y = x := Option.some.inj (hy.symm.trans hx)
    exact ⟨hx, rfl, rfl⟩
  · rintro ⟨hx, hl, hn⟩
    obtain ⟨k, n⟩ := c
    subst hl
    exact ⟨⟨x, hx, congrArg (Copy.mk _) hn⟩, hx⟩

theorem copy?_cons (c d : Copy κ) (x : α) (xs : List (Copy κ × α)) :
    copy? c ((d, x) :: xs) = if d = c then some x else copy? c xs := by
  by_cases h : d = c <;> simp [copy?, h]

theorem isSome_copy?_iff {xs : List (Copy κ × α)} {c : Copy κ} :
    (copy? c xs).isSome = true ↔ c ∈ xs.map Prod.fst := by
  simp [copy?]

theorem copy?_zip_copiesAfter (seen : List κ) (xs : List α) (c : Copy κ) :
    copy? c ((copiesAfter seen (xs.map label)).zip xs) =
      if seen.count c.label ≤ c.number then
        (xs.filter (label · = c.label))[c.number - seen.count c.label]?
      else none := by
  induction xs generalizing seen with
  | nil => simp [copy?, copiesAfter]
  | cons x xs ih =>
    obtain ⟨k, n⟩ := c
    simp only [List.map_cons, copiesAfter, List.zip_cons_cons, copy?_cons, ih, Copy.mk.injEq]
    by_cases hk : label x = k
    · subst hk
      have hc : (label x :: seen).count (label x) = seen.count (label x) + 1 :=
        List.count_cons_self
      rcases Nat.lt_trichotomy (seen.count (label x)) n with hn | hn | hn
      · -- the value searched for lies behind `x`
        obtain ⟨m, rfl⟩ := Nat.exists_eq_add_of_lt hn
        rw [hc, if_neg (by omega), if_pos (by omega), if_pos (by omega),
          List.filter_cons_of_pos (by simp), Nat.add_assoc, Nat.add_sub_cancel_left,
          List.getElem?_cons_succ, ← Nat.add_assoc, Nat.add_right_comm, Nat.add_sub_cancel_left]
      · simp [hn]
      · rw [hc, if_neg (by omega), if_neg (by omega), if_neg (by omega)]
    · simp [hk]

/-- Occurrence number `n` of a label is the `n`-th value that carries it. -/
theorem copy?_withCopies (xs : List α) (c : Copy κ) :
    copy? c (withCopies label xs) = (xs.filter (label · = c.label))[c.number]? := by
  simpa [withCopies, copies] using copy?_zip_copiesAfter [] xs c

theorem copy?_eq_none_iff {xs : List α} {c : Copy κ} :
    copy? c (withCopies label xs) = none ↔ (xs.map label).count c.label ≤ c.number := by
  rw [copy?_withCopies, List.getElem?_eq_none_iff, ← List.countP_eq_length_filter, List.count,
    List.countP_map]
  rfl

theorem copy?_first_eq_none_iff {xs : List α} {k : κ} :
    copy? ⟨k, 0⟩ (withCopies label xs) = none ↔ ∀ x ∈ xs, label x ≠ k := by
  rw [copy?_eq_none_iff, Nat.le_zero, List.count_eq_zero]
  simp

theorem copy?_eq_some_iff {xs : List (Copy κ × α)} (h : (xs.map Prod.fst).Nodup) {c : Copy κ}
    {x : α} : copy? c xs = some x ↔ (c, x) ∈ xs := by
  induction xs with
  | nil => simp [copy?]
  | cons y ys ih =>
    obtain ⟨d, y⟩ := y
    have hd := List.nodup_cons.mp h
    rw [copy?_cons, List.mem_cons, Prod.mk.injEq, ← ih hd.2]
    by_cases hc : d = c
    · subst hc
      have hn : copy? d ys ≠ some x := fun hx =>
        hd.1 (List.mem_map.mpr ⟨(d, x), (ih hd.2).mp hx, rfl⟩)
      simp [hn, eq_comm]
    · simp [hc, Ne.symm hc]

theorem copy?_withCopies_eq_some_iff {xs : List α} {c : Copy κ} {x : α} :
    copy? c (withCopies label xs) = some x ↔ (c, x) ∈ withCopies label xs :=
  copy?_eq_some_iff (nodup_withCopies_map_fst xs)

theorem copy?_withCopies_append {xs ys : List α} {c : Copy κ} {x : α}
    (h : copy? c (withCopies label xs) = some x) :
    copy? c (withCopies label (xs ++ ys)) = some x := by
  rw [copy?_withCopies_eq_some_iff] at h ⊢
  rw [withCopies_append]
  exact List.mem_append_left _ h

theorem eq_of_copy?_of_mem_append {xs ys : List α} {c : Copy κ} {x y : α}
    (hx : copy? c (withCopies label xs) = some x) (hy : (c, y) ∈ withCopies label (xs ++ ys)) :
    x = y :=
  Option.some.inj ((copy?_withCopies_append hx).symm.trans (copy?_withCopies_eq_some_iff.mpr hy))

theorem copy?_eq_none_of_mem_zip_copiesAfter {xs ys : List α} {z : Copy κ × α}
    (h : z ∈ (copiesAfter (xs.map label).reverse (ys.map label)).zip ys) :
    copy? z.1 (withCopies label xs) = none := by
  rw [copy?_eq_none_iff]
  simpa using count_le_number_of_mem_copiesAfter (List.of_mem_zip h).1

theorem filter_zip_copiesAfter (seen : List κ) (xs : List α) (k : κ) :
    ((copiesAfter seen (xs.map label)).zip xs).filter (·.1.label = k) =
      ((xs.filter (label · = k)).zipIdx (seen.count k)).map fun x => (⟨k, x.2⟩, x.1) := by
  induction xs generalizing seen with
  | nil => rfl
  | cons x xs ih =>
    rw [List.map_cons, copiesAfter, List.zip_cons_cons]
    by_cases h : label x = k
    · subst h
      rw [List.filter_cons_of_pos (by simp), ih, List.filter_cons_of_pos (by simp),
        List.zipIdx_cons, List.map_cons, List.count_cons_self]
    · rw [List.filter_cons_of_neg (by simpa), ih, List.filter_cons_of_neg (by simpa),
        List.count_cons_of_ne h]

/-- The occurrences of one label carry the numbers from zero on. -/
theorem filter_withCopies (xs : List α) (k : κ) :
    (withCopies label xs).filter (·.1.label = k) =
      (xs.filter (label · = k)).zipIdx.map fun x => (⟨k, x.2⟩, x.1) :=
  filter_zip_copiesAfter [] xs k

theorem label_of_mem_withCopies {xs : List α} {z : Copy κ × α} (h : z ∈ withCopies label xs) :
    label z.2 = z.1.label := by
  obtain ⟨i, hi⟩ := List.mem_iff_getElem?.mp h
  exact (getElem?_withCopies_eq_some_iff.mp hi).2.1

theorem mem_of_mem_withCopies {xs : List α} {z : Copy κ × α} (h : z ∈ withCopies label xs) :
    z.2 ∈ xs :=
  (List.of_mem_zip h).2

theorem mem_map_fst_filter_isSome {xs ys : List (Copy κ × α)} {c : Copy κ} :
    c ∈ (xs.filter fun x => (copy? x.1 ys).isSome).map Prod.fst ↔
      c ∈ xs.map Prod.fst ∧ c ∈ ys.map Prod.fst := by
  simp only [List.mem_map, List.mem_filter, isSome_copy?_iff]
  constructor
  · rintro ⟨x, ⟨hx, hy⟩, rfl⟩
    exact ⟨⟨x, hx, rfl⟩, hy⟩
  · rintro ⟨⟨x, hx, rfl⟩, hy⟩
    exact ⟨x, ⟨hx, hy⟩, rfl⟩

/-- The occurrences that two lists share are the same ones, seen from either list. -/
theorem perm_shared (label : α → κ) (xs ys : List α) :
    (((withCopies label xs).filter fun x => (copy? x.1 (withCopies label ys)).isSome).map
      Prod.fst).Perm
      (((withCopies label ys).filter fun y => (copy? y.1 (withCopies label xs)).isSome).map
        Prod.fst) := by
  have hnodup : ∀ (zs : List α) (p : Copy κ × α → Bool),
      (((withCopies label zs).filter p).map Prod.fst).Nodup := fun zs p =>
    (nodup_withCopies_map_fst zs).sublist (List.filter_sublist.map Prod.fst)
  rw [List.perm_ext_iff_of_nodup (hnodup xs _) (hnodup ys _)]
  intro c
  rw [mem_map_fst_filter_isSome, mem_map_fst_filter_isSome, and_comm]

theorem map_withCopies {β : Type} (f : α → β) (xs : List α) :
    (withCopies label xs).map (Prod.map id f) = (copies (xs.map label)).zip (xs.map f) := by
  rw [withCopies, ← List.zip_map, List.map_id]

theorem eq_of_copy?_of_map_eq {β : Type} {f : α → β} {xs ys : List α} {c : Copy κ} {x y : α}
    (hlabel : xs.map label = ys.map label) (hf : xs.map f = ys.map f)
    (hx : copy? c (withCopies label xs) = some x) (hy : (c, y) ∈ withCopies label ys) :
    f x = f y := by
  have hmap : (withCopies label xs).map (Prod.map id f) =
      (withCopies label ys).map (Prod.map id f) := by
    rw [map_withCopies, map_withCopies, hlabel, hf]
  have hx' : (c, f x) ∈ (withCopies label ys).map (Prod.map id f) := by
    rw [← hmap]
    exact List.mem_map.mpr ⟨(c, x), copy?_withCopies_eq_some_iff.mp hx, rfl⟩
  obtain ⟨⟨d, z⟩, hz, hzx⟩ := List.mem_map.mp hx'
  obtain ⟨rfl, hfz⟩ : d = c ∧ f z = f x := Prod.mk.inj hzx
  rw [← copy?_withCopies_eq_some_iff] at hy hz
  obtain rfl : y = z := Option.some.inj (hy.symm.trans hz)
  exact hfz.symm

theorem mem_withCopies_of_nodup {xs : List α} (h : (xs.map label).Nodup) {c : Copy κ} {x : α} :
    (c, x) ∈ withCopies label xs ↔ x ∈ xs ∧ c = ⟨label x, 0⟩ := by
  simp only [List.mem_iff_getElem?, getElem?_withCopies_eq_some_iff]
  have hcount : ∀ i : Nat, xs[i]? = some x → ((xs.take i).map label).count (label x) = 0 := by
    intro i hi
    obtain ⟨hlt, rfl⟩ := List.getElem?_eq_some_iff.mp hi
    rw [← List.take_append_drop i xs, List.map_append, List.drop_eq_getElem_cons hlt,
      List.map_cons] at h
    exact List.count_eq_zero.mpr fun hmem =>
      (List.nodup_append.mp h).2.2 _ hmem _ List.mem_cons_self rfl
  constructor
  · rintro ⟨i, hi, hl, hn⟩
    refine ⟨⟨i, hi⟩, ?_⟩
    rw [← hl, hcount i hi] at hn
    exact congrArg₂ Copy.mk hl.symm hn.symm
  · rintro ⟨⟨i, hi⟩, rfl⟩
    exact ⟨i, hi, rfl, hcount i hi⟩

theorem withCopies_eq_map {xs : List α} (h : (xs.map label).Nodup) :
    withCopies label xs = xs.map fun x => (⟨label x, 0⟩, x) := by
  have hvalues : (withCopies label xs).map Prod.snd = xs := withCopies_map_snd xs
  conv_lhs => rw [← List.map_id (withCopies label xs)]
  conv_rhs => rw [← hvalues, List.map_map]
  apply List.map_congr_left
  intro z hz
  obtain ⟨c, x⟩ := z
  rw [((mem_withCopies_of_nodup h).mp hz).2]
  rfl

end StorageLayout
