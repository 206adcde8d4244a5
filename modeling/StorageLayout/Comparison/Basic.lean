import StorageLayout.Comparison.Collision
import StorageLayout.Comparison.Copy
import StorageLayout.Layout.Basic

/-!
# Comparison of two layouts

The n-th variable of an identity in the old layout is the n-th variable of that identity in the
new one. What has no counterpart was removed or added, what starts elsewhere has moved, and
what overlaps a variable other than its counterpart collides. Removing and adding variables
alone is safe: stale bytes stay untouched and new variables take unused ones.
-/

namespace StorageLayout

/-- A variable that starts at another byte than before. -/
structure Move where
  previous : Variable
  current : Variable
  deriving DecidableEq, Repr

structure Comparison where
  contractName : String
  collisions : List Collision
  moved : List Move
  added : List Variable
  removed : List Variable
  deriving DecidableEq, Repr

/-- Variables, each with the occurrence of its identity. -/
abbrev NumberedVariables := List (Copy Identity × Variable)

/-- The variables of a layout, numbered by identity. -/
def Layout.numbered (m : Layout) : NumberedVariables :=
  withCopies Variable.identity m.vars

namespace NumberedVariables

/-- The variables of `xs` without counterpart in `ys`, in order. -/
def without (xs ys : NumberedVariables) : List Variable :=
  (xs.filter fun x => (copy? x.1 ys).isNone).map (·.2)

/-- The variables of `now` whose counterpart in `before` starts elsewhere, in order, each with
the occurrence that moved. -/
def moves (before now : NumberedVariables) : List (Copy Identity × Move) :=
  now.filterMap fun x =>
    match copy? x.1 before with
    | some previous =>
      if previous.SamePosition x.2 then none else some (x.1, ⟨previous, x.2⟩)
    | none => none

def unmoved (xs : NumberedVariables) (moved : List (Copy Identity)) : NumberedVariables :=
  xs.filter (!moved.contains ·.1)

/-- The collisions of an old variable: with each new variable of another occurrence that
shares bytes with it. -/
def collisionsOf (x : Copy Identity × Variable) (now : NumberedVariables) : List Collision :=
  (now.filter fun y => x.1 ≠ y.1 ∧ x.2.Overlaps y.2).map fun y => ⟨x.2, y.2⟩

def atSlot (xs : NumberedVariables) (slot : Nat) : NumberedVariables :=
  xs.filter (·.2.slot = slot)

/-- The collisions of all old variables with new ones, by ascending slot, then in the order of
the old variables, then in that of the new ones. -/
def collisions (before now : NumberedVariables) : List Collision :=
  (ascending (before.map (·.2.slot))).flatMap fun slot =>
    (before.atSlot slot).flatMap fun x => collisionsOf x (now.atSlot slot)

end NumberedVariables

/-- What changed from the old layout to the new one. A variable that moved collides with
nothing: its move is reported, and it leaves the bytes it held. -/
def Layout.compare (old new : Layout) : Comparison :=
  let before := old.numbered
  let now := new.numbered
  let moves := before.moves now
  let moved := moves.map (·.1)
  { contractName := new.contractName
    collisions := (before.unmoved moved).collisions (now.unmoved moved)
    moved := moves.map (·.2)
    added := now.without before
    removed := before.without now }

namespace Comparison

/-- Nothing moved and nothing collides. -/
def safe (r : Comparison) : Bool :=
  r.moved.isEmpty && r.collisions.isEmpty

/-- The layouts do not differ in any way that is reported. -/
def isEmpty (r : Comparison) : Bool :=
  r.collisions.isEmpty && r.moved.isEmpty && r.added.isEmpty && r.removed.isEmpty

theorem safe_iff {r : Comparison} : r.safe = true ↔ r.moved = [] ∧ r.collisions = [] := by
  simp [safe]

theorem isEmpty_iff {r : Comparison} :
    r.isEmpty = true ↔ r.collisions = [] ∧ r.moved = [] ∧ r.added = [] ∧ r.removed = [] := by
  simp [isEmpty, and_assoc]

def headline (r : Comparison) : String :=
  s!"{r.contractName}: " ++ (if r.safe then "SAFE" else "UNSAFE") ++
    s!" ({r.collisions.length} collision(s), {r.moved.length} moved, " ++
    s!"{r.added.length} added, {r.removed.length} removed)"

/-- A line on a variable that only one layout has. -/
def presenceLine (sign : String) (v : Variable) : String :=
  s!"  {sign} {v.typeName} {v.name} at slot {v.slot} offset {v.offset}"

def collisionLine (c : Collision) : String :=
  s!"  ! slot {c.slot} bytes {c.overlap.start}..{c.overlap.stop}: {c.reason}"

def moveLine (m : Move) : String :=
  s!"  ~ {m.current.typeName} {m.current.name}: slot {m.previous.slot} " ++
    s!"offset {m.previous.offset} -> slot {m.current.slot} offset {m.current.offset}"

def render (r : Comparison) : String :=
  "\n".intercalate (r.headline :: r.collisions.map collisionLine ++ r.moved.map moveLine ++
    r.added.map (presenceLine "+") ++ r.removed.map (presenceLine "-"))

end Comparison

end StorageLayout
