import Mathlib.Data.List.Basic
import Mathlib.Data.List.Forall2
import Mathlib.Data.List.Nodup

/-!
# Lists by position

What lists whose images agree hold at equal positions, and what becomes of the positions that
`zipIdx` writes beside the values of a list.
-/

namespace StorageLayout

variable {α β γ δ : Type}

/-- Lists that look alike still do if less of them is seen. -/
theorem map_comp_eq {f : α → γ} {g : β → γ} {xs : List α} {ys : List β}
    (h : xs.map f = ys.map g) (k : γ → δ) : xs.map (k ∘ f) = ys.map (k ∘ g) := by
  rw [← List.map_map, h, List.map_map]

theorem exists_at_of_map_eq {f : α → β} {xs ys : List α}
    (hmap : xs.map f = ys.map f) {i : Nat} {y : α} (hy : ys[i]? = some y) :
    ∃ x, xs[i]? = some x ∧ f x = f y := by
  have hi := congrArg (·[i]?) hmap
  simpa [hy] using hi

theorem exists_of_forall₂_of_mem {r : α → β → Prop} {xs : List α} {ys : List β}
    (h : List.Forall₂ r xs ys) {y : β} (hy : y ∈ ys) : ∃ x ∈ xs, r x y := by
  induction h with
  | nil => cases hy
  | cons hxy _ ih =>
    rcases List.mem_cons.mp hy with rfl | hy
    · exact ⟨_, List.mem_cons_self, hxy⟩
    · obtain ⟨x, hx, hr⟩ := ih hy
      exact ⟨x, List.mem_cons_of_mem _ hx, hr⟩

theorem forall_mem_middle {p : α → Prop} {xs ys : List α} {a : α} :
    (∀ x ∈ xs ++ a :: ys, p x) ↔ p a ∧ ∀ x ∈ xs ++ ys, p x := by
  simp only [List.perm_middle.mem_iff, List.forall_mem_cons]

theorem mem_middle_of_mem {xs ys : List α} {a x : α} (h : x ∈ xs ++ ys) : x ∈ xs ++ a :: ys :=
  List.perm_middle.mem_iff.mpr (List.mem_cons_of_mem a h)

theorem eq_singleton_of_mem_iff {xs : List α} {a : α} (hxs : xs.Nodup)
    (h : ∀ x, x ∈ xs ↔ x = a) : xs = [a] := by
  apply List.perm_singleton.mp
  rw [List.perm_ext_iff_of_nodup hxs (List.nodup_singleton a)]
  intro x
  rw [h, List.mem_singleton]

theorem rel_of_lt {R : α → α → Prop} {xs : List α} (hxs : xs.Pairwise R) {i j : Nat}
    {x y : α} (hx : xs[i]? = some x) (hy : xs[j]? = some y) (hij : i < j) : R x y := by
  obtain ⟨hi, rfl⟩ := List.getElem?_eq_some_iff.mp hx
  obtain ⟨hj, rfl⟩ := List.getElem?_eq_some_iff.mp hy
  exact List.pairwise_iff_getElem.mp hxs i j hi hj hij

theorem countP_le_one {R : α → α → Prop} {p : α → Bool} {xs : List α} (hxs : xs.Pairwise R)
    (h : ∀ x ∈ xs, ∀ y ∈ xs, p x = true → p y = true → ¬ R x y) : xs.countP p ≤ 1 := by
  induction xs with
  | nil => exact Nat.zero_le 1
  | cons x xs ih =>
    obtain ⟨hx, hxs⟩ := List.pairwise_cons.mp hxs
    by_cases hp : p x = true
    · have hrest : xs.countP p = 0 := List.countP_eq_zero.mpr fun y hy hpy =>
        h x List.mem_cons_self y (List.mem_cons_of_mem x hy) hp hpy (hx y hy)
      exact Nat.le_of_eq (by rw [List.countP_cons_of_pos hp, hrest])
    · rw [List.countP_cons_of_neg hp]
      exact ih hxs fun y hy z hz => h y (List.mem_cons_of_mem x hy) z (List.mem_cons_of_mem x hz)

theorem pairwise_zipIdx (xs : List α) (start : Nat) : (xs.zipIdx start).Pairwise (·.2 < ·.2) := by
  induction xs generalizing start with
  | nil => exact .nil
  | cons x xs ih =>
    rw [List.zipIdx_cons, List.pairwise_cons]
    exact ⟨fun y hy => List.le_snd_of_mem_zipIdx hy, ih (start + 1)⟩

theorem map_fst_filter_zipIdx (xs : List α) (n start : Nat) :
    ((xs.zipIdx start).filter (n ≤ ·.2)).map Prod.fst = xs.drop (n - start) := by
  induction xs generalizing start with
  | nil => simp
  | cons x xs ih =>
    rw [List.zipIdx_cons]
    rcases Nat.lt_or_ge start n with h | h
    · rw [List.filter_cons_of_neg (by simpa), ih]
      obtain ⟨m, rfl⟩ := Nat.exists_eq_add_of_lt h
      rw [Nat.add_assoc, Nat.add_sub_cancel_left, List.drop_succ_cons, Nat.add_comm m,
        ← Nat.add_assoc, Nat.add_sub_cancel_left]
    · rw [List.filter_cons_of_pos (by simpa), List.map_cons, ih, Nat.sub_eq_zero_of_le h,
        Nat.sub_eq_zero_of_le (Nat.le_succ_of_le h)]
      rfl

theorem filterMap_zipIdx (f : β → α → γ) (xs : List α) (ys : List β) (start : Nat) :
    (xs.zipIdx start).filterMap (fun x => ys[x.2]?.map (f · x.1)) =
      List.zipWith f (ys.drop start) xs := by
  induction xs generalizing start with
  | nil => simp
  | cons x xs ih =>
    rw [List.zipIdx_cons, List.filterMap_cons, ih]
    rcases Nat.lt_or_ge start ys.length with h | h
    · rw [List.drop_eq_getElem_cons h, List.zipWith_cons_cons, List.getElem?_eq_getElem h]
      rfl
    · rw [List.drop_eq_nil_of_le h, List.drop_eq_nil_of_le (Nat.le_succ_of_le h),
        List.getElem?_eq_none h]
      rfl

theorem map_fst_filter_zipIdx_fst (q : α → Bool) (xs : List α) :
    (xs.zipIdx.filter (q ·.1)).map Prod.fst = xs.filter q := by
  rw [← Function.comp_def q, ← List.filter_map, List.zipIdx_map_fst]

end StorageLayout
