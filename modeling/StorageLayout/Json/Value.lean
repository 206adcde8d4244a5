/-!
# JSON values

Whole numbers and floating-point numbers are told apart by how they are written, and an object
keeps its members in a list, since their order shows when it is printed.
-/

namespace StorageLayout

inductive Json where
  | null
  | bool (value : Bool)
  /-- A number written without fraction and exponent. -/
  | int (value : Int)
  | float (value : Float)
  | string (value : String)
  | array (items : List Json)
  | object (members : List (String × Json))

namespace Json

instance : Inhabited Json := ⟨null⟩

/-- The value of a key in an object; other values have no keys. -/
def get? (key : String) : Json → Option Json
  | object members => members.lookup key
  | _ => none

def asString? : Json → Option String
  | string s => some s
  | _ => none

/-- The members with one more, in ascending order of keys; it takes the place of a member with
its key. -/
def insertMember (key : String) (value : Json) : List (String × Json) → List (String × Json)
  | [] => [(key, value)]
  | m :: ms =>
    if key < m.1 then (key, value) :: m :: ms
    else if key = m.1 then (key, value) :: ms
    else m :: insertMember key value ms

mutual

def sortKeys : Json → Json
  | array items => array (sortKeysList items)
  | object members => object (sortKeysMembers members)
  | other => other

def sortKeysList : List Json → List Json
  | [] => []
  | x :: xs => x.sortKeys :: sortKeysList xs

def sortKeysMembers : List (String × Json) → List (String × Json)
  | [] => []
  | (key, value) :: ms => insertMember key value.sortKeys (sortKeysMembers ms)

end

theorem sortKeysList_eq_map (xs : List Json) : sortKeysList xs = xs.map sortKeys := by
  induction xs with
  | nil => rfl
  | cons x xs ih => rw [sortKeysList, ih, List.map_cons]

theorem lookup_insertMember (key k : String) (value : Json) (ms : List (String × Json)) :
    (insertMember key value ms).lookup k = if k = key then some value else ms.lookup k := by
  induction ms with
  | nil =>
    by_cases h : k = key
    · simp [insertMember, h]
    · have hk : (k == key) = false := beq_eq_false_iff_ne.mpr h
      simp [insertMember, List.lookup_cons, hk, h]
  | cons m ms ih =>
    by_cases h : k = key
    · subst h
      by_cases hfront : k < m.1
      · simp [insertMember, hfront]
      · by_cases hsame : k = m.1
        · simp [insertMember, hsame]
        · have hm : (k == m.1) = false := beq_eq_false_iff_ne.mpr hsame
          rw [insertMember, if_neg hfront, if_neg hsame, List.lookup_cons, hm, ih]
          simp
    · have hk : (k == key) = false := beq_eq_false_iff_ne.mpr h
      rw [if_neg h] at ih ⊢
      by_cases hfront : key < m.1
      · rw [insertMember, if_pos hfront, List.lookup_cons, hk]
      · by_cases hsame : key = m.1
        · rw [insertMember, if_neg hfront, if_pos hsame, List.lookup_cons, List.lookup_cons,
            ← hsame, hk]
        · rw [insertMember, if_neg hfront, if_neg hsame, List.lookup_cons, List.lookup_cons, ih]

end Json

end StorageLayout
