import Mathlib.Data.Prod.Basic
import StorageLayout.Proofs.Comparison.Lists

/-!
# Comparing in the other direction

Seen from the new version, what was added is missing and what was removed is new, while pairs of
counterparts, moves and collisions are the same ones with their sides exchanged. Only their order
differs, since moves are listed in the order of the new version and collisions in that of the
old one.
-/

namespace StorageLayout

section Counterparts

variable {κ α β : Type}

/-- A pair of counterparts seen from the other list. -/
def exchangeSides (z : Copy κ × α × α) : Copy κ × α × α :=
  (z.1, z.2.2, z.2.1)

theorem exchangeSides_injective : Function.Injective (exchangeSides (κ := κ) (α := α)) := by
  rintro ⟨c, x, y⟩ ⟨d, u, v⟩ h
  simp only [exchangeSides, Prod.mk.injEq] at h ⊢
  exact ⟨h.1, h.2.2, h.2.1⟩

variable [DecidableEq κ] {label : α → κ} {xs ys : List α}

/-- The occurrences of `ys` that `xs` has too, each with the value it has there and its own. -/
def counterparts (xs ys : List (Copy κ × α)) : List (Copy κ × α × α) :=
  ys.filterMap fun y => (copy? y.1 xs).map fun x => (y.1, x, y.2)

theorem mem_counterparts {z : Copy κ × α × α} :
    z ∈ counterparts (withCopies label xs) (withCopies label ys) ↔
      (z.1, z.2.1) ∈ withCopies label xs ∧ (z.1, z.2.2) ∈ withCopies label ys := by
  simp only [counterparts, List.mem_filterMap, Option.map_eq_some_iff,
    copy?_withCopies_eq_some_iff]
  constructor
  · rintro ⟨y, hy, x, hx, rfl⟩
    exact ⟨hx, hy⟩
  · rintro ⟨hx, hy⟩
    exact ⟨(z.1, z.2.2), hy, z.2.1, hx, rfl⟩

theorem nodup_counterparts (label : α → κ) (xs ys : List α) :
    (counterparts (withCopies label xs) (withCopies label ys)).Nodup := by
  have hcopies : (withCopies label ys).Pairwise (·.1 ≠ ·.1) := by
    rw [← List.pairwise_map]
    exact nodup_withCopies_map_fst ys
  apply hcopies.filterMap
  intro y y' hne z hz z' hz' heq
  obtain ⟨x, -, rfl⟩ := Option.map_eq_some_iff.mp hz
  obtain ⟨x', -, rfl⟩ := Option.map_eq_some_iff.mp hz'
  exact hne (Prod.mk.inj heq).1

/-- Either list has the other's counterparts. -/
theorem counterparts_perm (label : α → κ) (xs ys : List α) :
    (counterparts (withCopies label ys) (withCopies label xs)).Perm
      ((counterparts (withCopies label xs) (withCopies label ys)).map exchangeSides) := by
  -- Neither list repeats a pair, so they need only have the same ones.
  rw [List.perm_ext_iff_of_nodup (nodup_counterparts label ys xs)
    ((nodup_counterparts label xs ys).map exchangeSides_injective)]
  intro z
  rw [mem_counterparts, List.mem_map]
  constructor
  · rintro ⟨hy, hx⟩
    exact ⟨exchangeSides z, mem_counterparts.mpr ⟨hx, hy⟩, rfl⟩
  · rintro ⟨w, hw, rfl⟩
    obtain ⟨hx, hy⟩ := mem_counterparts.mp hw
    exact ⟨hy, hx⟩

theorem filterMap_counterparts_perm {report : Copy κ × α × α → Option β} {reverse : β → β}
    (h : ∀ z, report (exchangeSides z) = (report z).map reverse) (label : α → κ)
    (xs ys : List α) :
    ((counterparts (withCopies label ys) (withCopies label xs)).filterMap report).Perm
      (((counterparts (withCopies label xs) (withCopies label ys)).filterMap report).map
        reverse) := by
  have hmap : report ∘ exchangeSides = fun z => (report z).map reverse := funext h
  rw [List.map_filterMap, ← hmap, ← List.filterMap_map]
  exact (counterparts_perm label xs ys).filterMap report

end Counterparts

section Scan

variable {α β : Type} {slot : α → Nat} {slot' : β → Nat} {clash : α → β → Bool}
  {clash' : β → α → Bool} {xs : List α} {ys : List β}

theorem nodup_scan (hxs : xs.Nodup) (hys : ys.Nodup) :
    (scan slot slot' clash xs ys).Nodup := by
  refine (pairwise_scan hxs hys).imp ?_
  rintro p q (hslot | ⟨-, hne | ⟨-, hne⟩⟩) rfl
  · exact Nat.lt_irrefl _ hslot
  · exact hne rfl
  · exact hne rfl

theorem scan_perm (h : ∀ x y, clash' y x = clash x y) (hxs : xs.Nodup) (hys : ys.Nodup) :
    (scan slot' slot clash' ys xs).Perm ((scan slot slot' clash xs ys).map Prod.swap) := by
  rw [List.perm_ext_iff_of_nodup (nodup_scan hys hxs)
    ((nodup_scan hxs hys).map Prod.swap_injective)]
  rintro ⟨y, x⟩
  rw [mem_scan, List.mem_map]
  constructor
  · rintro ⟨hy, hx, hslot, hclash⟩
    exact ⟨(x, y), mem_scan.mpr ⟨hx, hy, hslot.symm, h x y ▸ hclash⟩, rfl⟩
  · rintro ⟨⟨x', y'⟩, hmem, heq⟩
    obtain ⟨rfl, rfl⟩ := Prod.mk.inj heq
    obtain ⟨hx, hy, hslot, hclash⟩ := mem_scan.mp hmem
    exact ⟨hy, hx, hslot.symm, (h _ _).trans hclash⟩

end Scan

def Move.reverse (m : Move) : Move where
  previous := m.current
  current := m.previous

def Collision.reverse (c : Collision) : Collision where
  previous := c.current
  current := c.previous

namespace Collision

variable {c : Collision}

theorem slot_reverse (h : c.previous.Overlaps c.current) : c.reverse.slot = c.slot :=
  h.1.symm

@[simp] theorem overlap_reverse : c.reverse.overlap = c.overlap := by
  simp only [overlap, reverse, Nat.max_comm c.current.offset, Nat.min_comm c.current.stop]

@[simp] theorem kind_reverse : c.reverse.kind = c.kind := by
  simp only [kind, reverse, eq_comm]

end Collision

namespace NumberedVariables

def moveOf? (z : Copy Identity × Variable × Variable) : Option (Copy Identity × Move) :=
  if z.2.1.SamePosition z.2.2 then none else some (z.1, ⟨z.2.1, z.2.2⟩)

theorem moves_eq_filterMap (before now : NumberedVariables) :
    before.moves now = (counterparts before now).filterMap moveOf? := by
  rw [moves, counterparts, List.filterMap_filterMap]
  apply List.filterMap_congr
  intro x _
  cases copy? x.1 before <;> rfl

theorem moveOf?_exchangeSides (z : Copy Identity × Variable × Variable) :
    moveOf? (exchangeSides z) = (moveOf? z).map (Prod.map id Move.reverse) := by
  have hsame : z.2.2.SamePosition z.2.1 ↔ z.2.1.SamePosition z.2.2 :=
    ⟨Variable.SamePosition.symm, Variable.SamePosition.symm⟩
  simp only [moveOf?, exchangeSides, hsame]
  split <;> rfl

theorem clash_comm (x y : Copy Identity × Variable) : clash y x = clash x y := by
  have hoverlaps : y.2.Overlaps x.2 ↔ x.2.Overlaps y.2 :=
    ⟨Variable.Overlaps.symm, Variable.Overlaps.symm⟩
  simp only [clash, hoverlaps, ne_comm]

theorem unmoved_congr {xs : NumberedVariables} {moved moved' : List (Copy Identity)}
    (h : ∀ c, c ∈ moved' ↔ c ∈ moved) : xs.unmoved moved' = xs.unmoved moved := by
  simp [unmoved, h]

theorem collisions_perm {before now : NumberedVariables} (hbefore : before.Nodup)
    (hnow : now.Nodup) :
    (now.collisions before).Perm ((before.collisions now).map Collision.reverse) := by
  rw [collisions_eq_scan, collisions_eq_scan, List.map_map]
  have hscan : (scan (·.2.slot) (·.2.slot) clash now before).Perm
      ((scan (·.2.slot) (·.2.slot) clash before now).map Prod.swap) :=
    scan_perm clash_comm hbefore hnow
  have hmap := hscan.map fun p => Collision.mk p.1.2 p.2.2
  rw [List.map_map] at hmap
  exact hmap

end NumberedVariables

namespace Layout

variable (old new : Layout)

theorem moves_perm : (new.numbered.moves old.numbered).Perm
    ((old.numbered.moves new.numbered).map (Prod.map id Move.reverse)) := by
  rw [NumberedVariables.moves_eq_filterMap, NumberedVariables.moves_eq_filterMap]
  exact filterMap_counterparts_perm NumberedVariables.moveOf?_exchangeSides Variable.identity
    old.vars new.vars

theorem mem_moved_comm (c : Copy Identity) :
    c ∈ (new.numbered.moves old.numbered).map Prod.fst ↔
      c ∈ (old.numbered.moves new.numbered).map Prod.fst := by
  have h := ((moves_perm old new).map Prod.fst).mem_iff (a := c)
  rwa [List.map_map] at h

theorem nodup_numbered (m : Layout) : m.numbered.Nodup :=
  List.Nodup.of_map _ (nodup_withCopies_map_fst m.vars)

theorem compare_moved_perm : (new.compare old).moved.Perm
    ((old.compare new).moved.map Move.reverse) := by
  have h := (moves_perm old new).map Prod.snd
  rw [List.map_map] at h
  simp only [compare, List.map_map]
  exact h

theorem compare_collisions_perm : (new.compare old).collisions.Perm
    ((old.compare new).collisions.map Collision.reverse) := by
  simp only [compare, NumberedVariables.unmoved_congr (mem_moved_comm old new)]
  exact NumberedVariables.collisions_perm (old.nodup_numbered.filter _)
    (new.nodup_numbered.filter _)

theorem compare_added_reverse : (new.compare old).added = (old.compare new).removed := rfl

theorem compare_removed_reverse : (new.compare old).removed = (old.compare new).added := rfl

theorem compare_safe_reverse : (new.compare old).safe = (old.compare new).safe := by
  rw [Comparison.safe, Comparison.safe, (compare_moved_perm old new).isEmpty_eq,
    (compare_collisions_perm old new).isEmpty_eq, List.isEmpty_map, List.isEmpty_map]

theorem overlaps_of_mem_collisions {c : Collision} (h : c ∈ (old.compare new).collisions) :
    c.previous.Overlaps c.current := by
  obtain ⟨x, -, y, -, -, ho, rfl⟩ := NumberedVariables.mem_collisions.mp h
  exact ho

end Layout

end StorageLayout
