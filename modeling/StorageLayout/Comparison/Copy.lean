/-!
# Numbered copies of a label

A label may occur several times in a list. The n-th occurrence in one list is matched with the
n-th occurrence in another, so each occurrence is known by its label and the number of equal
labels in front of it.
-/

namespace StorageLayout

/-- One occurrence of a label. -/
structure Copy (κ : Type) where
  label : κ
  /-- How many equal labels stand in front of it. -/
  number : Nat
  deriving DecidableEq, Repr

variable {κ : Type} [DecidableEq κ]

/-- The occurrences in a list of labels that follows the labels `seen`. -/
def copiesAfter (seen : List κ) : List κ → List (Copy κ)
  | [] => []
  | k :: ks => ⟨k, seen.count k⟩ :: copiesAfter (k :: seen) ks

def copies (ks : List κ) : List (Copy κ) :=
  copiesAfter [] ks

theorem length_copiesAfter (seen ks : List κ) : (copiesAfter seen ks).length = ks.length := by
  induction ks generalizing seen with
  | nil => rfl
  | cons k ks ih => simp [copiesAfter, ih]

theorem length_copies (ks : List κ) : (copies ks).length = ks.length :=
  length_copiesAfter [] ks

/-- Each value with the occurrence of its label. -/
def withCopies {α : Type} (label : α → κ) (xs : List α) : List (Copy κ × α) :=
  (copies (xs.map label)).zip xs

/-- The value of an occurrence, if the list has it. -/
def copy? {α : Type} (c : Copy κ) (xs : List (Copy κ × α)) : Option α :=
  (xs.find? (·.1 = c)).map (·.2)

end StorageLayout
