import StorageLayout.Comparison.Basic

/-!
# Scanning two lists by slot

A scan looks for pairs from two lists slot by slot. It finds the same pairs as a search through
all of them if only values of one slot can be paired, and it finds them in the order of the
slots, then of the first list, then of the second.
-/

namespace StorageLayout

variable {α β γ δ : Type}

def scanAt (slot : α → Nat) (slot' : β → Nat) (clash : α → β → Bool) (xs : List α) (ys : List β)
    (s : Nat) : List (α × β) :=
  (xs.filter (slot · = s)).flatMap fun x =>
    ((ys.filter (slot' · = s)).filter (clash x)).map fun y => (x, y)

/-- The pairs of one slot that clash, by ascending slot, then in the order of the lists. -/
def scan (slot : α → Nat) (slot' : β → Nat) (clash : α → β → Bool) (xs : List α) (ys : List β) :
    List (α × β) :=
  (ascending (xs.map slot)).flatMap (scanAt slot slot' clash xs ys)

section

variable {slot : α → Nat} {slot' : β → Nat} {clash : α → β → Bool} {xs : List α} {ys : List β}
  {R : α → α → Prop} {S : β → β → Prop}

theorem mem_scanAt {x : α} {y : β} {s : Nat} : (x, y) ∈ scanAt slot slot' clash xs ys s ↔
    (x ∈ xs ∧ slot x = s) ∧ (y ∈ ys ∧ slot' y = s) ∧ clash x y = true := by
  simp only [scanAt, List.mem_flatMap, List.mem_map, List.mem_filter, decide_eq_true_eq,
    Prod.mk.injEq]
  constructor
  · rintro ⟨x, hx, y, hy, rfl, rfl⟩
    exact ⟨hx, hy⟩
  · rintro ⟨hx, hy⟩
    exact ⟨x, hx, y, hy, rfl, rfl⟩

/-- The scan by slots finds the same pairs as a search through all of them. -/
theorem mem_scan {x : α} {y : β} : (x, y) ∈ scan slot slot' clash xs ys ↔
    x ∈ xs ∧ y ∈ ys ∧ slot x = slot' y ∧ clash x y = true := by
  simp only [scan, List.mem_flatMap, mem_ascending, List.mem_map, mem_scanAt]
  constructor
  · rintro ⟨s, -, ⟨hx, hs⟩, ⟨hy, hs'⟩, hclash⟩
    exact ⟨hx, hy, hs.trans hs'.symm, hclash⟩
  · rintro ⟨hx, hy, hs, hclash⟩
    exact ⟨slot x, ⟨x, hx, rfl⟩, ⟨hx, rfl⟩, ⟨hy, hs.symm⟩, hclash⟩

theorem pairwise_scanAt (hxs : xs.Pairwise R) (hys : ys.Pairwise S) (s : Nat) :
    (scanAt slot slot' clash xs ys s).Pairwise fun p q =>
      R p.1 q.1 ∨ p.1 = q.1 ∧ S p.2 q.2 := by
  rw [scanAt, List.pairwise_flatMap]
  constructor
  · intro x _
    rw [List.pairwise_map]
    exact ((hys.filter _).filter _).imp fun h => .inr ⟨rfl, h⟩
  · apply (hxs.filter _).imp
    intro x x' h p hp q hq
    obtain ⟨y, -, rfl⟩ := List.mem_map.mp hp
    obtain ⟨y', -, rfl⟩ := List.mem_map.mp hq
    exact .inl h

theorem pairwise_scan (hxs : xs.Pairwise R) (hys : ys.Pairwise S) :
    (scan slot slot' clash xs ys).Pairwise fun p q =>
      slot p.1 < slot q.1 ∨ slot p.1 = slot q.1 ∧ (R p.1 q.1 ∨ p.1 = q.1 ∧ S p.2 q.2) := by
  rw [scan, List.pairwise_flatMap]
  constructor
  · intro s _
    apply (pairwise_scanAt hxs hys s).imp_of_mem
    intro p q hp hq h
    exact .inr ⟨(mem_scanAt.mp hp).1.2.trans (mem_scanAt.mp hq).1.2.symm, h⟩
  · apply (pairwise_ascending _).imp
    intro s t hst p hp q hq
    refine .inl ?_
    rwa [(mem_scanAt.mp hp).1.2, (mem_scanAt.mp hq).1.2]

theorem scanAt_map (f : γ → α) (g : δ → β) (zs : List γ) (ws : List δ) (s : Nat) :
    scanAt slot slot' clash (zs.map f) (ws.map g) s =
      (scanAt (slot ∘ f) (slot' ∘ g) (fun z w => clash (f z) (g w)) zs ws s).map
        (Prod.map f g) := by
  simp only [scanAt, List.map_flatMap, List.flatMap_map, List.filter_map, List.map_map,
    Function.comp_def]
  rfl

theorem scan_map (f : γ → α) (g : δ → β) (zs : List γ) (ws : List δ) :
    scan slot slot' clash (zs.map f) (ws.map g) =
      (scan (slot ∘ f) (slot' ∘ g) (fun z w => clash (f z) (g w)) zs ws).map (Prod.map f g) := by
  rw [scan, scan, List.map_flatMap, List.map_map]
  congr 1
  funext s
  exact scanAt_map f g zs ws s

end

/-- Two variables that are not counterparts share bytes. -/
def NumberedVariables.clash (x y : Copy Identity × Variable) : Bool :=
  x.1 ≠ y.1 ∧ x.2.Overlaps y.2

theorem NumberedVariables.collisions_eq_scan (before now : NumberedVariables) :
    before.collisions now =
      (scan (·.2.slot) (·.2.slot) clash before now).map fun p => ⟨p.1.2, p.2.2⟩ := by
  simp only [collisions, collisionsOf, atSlot, scan, scanAt, List.map_flatMap, List.map_map,
    Function.comp_def]
  rfl

end StorageLayout
