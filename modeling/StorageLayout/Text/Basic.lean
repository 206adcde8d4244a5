/-!
# Characters, words and numerals

A character class of the Unicode standard is a table of inclusive code point ranges; `isBlank` is
the property White_Space. `words` cuts a text at its blanks; no word is empty and no word holds a
blank. A numeral in a base of up to sixteen is read from its first digit to its last.
-/

namespace StorageLayout.Text

section Ranges

/-- Inclusive ranges of code points. -/
abbrev CodeRanges := List (Nat × Nat)

def CodeRanges.contains (ranges : CodeRanges) (c : Char) : Bool :=
  ranges.any fun r => r.1 ≤ c.toNat && c.toNat ≤ r.2

theorem CodeRanges.contains_iff {ranges : CodeRanges} {c : Char} :
    ranges.contains c = true ↔ ∃ r ∈ ranges, r.1 ≤ c.toNat ∧ c.toNat ≤ r.2 := by
  simp [contains]

end Ranges

section Words

def blankRanges : CodeRanges :=
  [(0x9, 0xd), (0x20, 0x20), (0x85, 0x85), (0xa0, 0xa0), (0x1680, 0x1680), (0x2000, 0x200a),
    (0x2028, 0x2029), (0x202f, 0x202f), (0x205f, 0x205f), (0x3000, 0x3000)]

def isBlank (c : Char) : Bool :=
  blankRanges.contains c

/-- Put `c` in front of the first word, or alone when there is no word. -/
def consFirst (c : Char) : List (List Char) → List (List Char)
  | [] => [[c]]
  | w :: ws => (c :: w) :: ws

/-- The text cut at its blanks. -/
def words : List Char → List (List Char)
  | [] => []
  | c :: cs =>
    if isBlank c then words cs
    else if cs.head?.any (!isBlank ·) then consFirst c (words cs)
    else [c] :: words cs

/-- Nothing but blanks, or nothing at all. -/
def allBlank (s : String) : Bool :=
  s.toList.all isBlank

theorem words_cons_blank {c : Char} (cs : List Char) (h : isBlank c = true) :
    words (c :: cs) = words cs := by
  simp [words, h]

theorem mem_words_ne_nil {w s : List Char} (h : w ∈ words s) : w ≠ [] := by
  induction s generalizing w with
  | nil => simp [words] at h
  | cons c cs ih =>
    unfold words at h
    split at h
    · exact ih h
    · split at h
      · cases hw : words cs with
        | nil => simp_all [consFirst]
        | cons v vs =>
          rw [hw, consFirst, List.mem_cons] at h
          rcases h with rfl | h
          · simp
          · exact ih (hw ▸ List.mem_cons_of_mem _ h)
      · rw [List.mem_cons] at h
        rcases h with rfl | h
        · simp
        · exact ih h

end Words

section Numerals

/-- The value of a digit, hexadecimal ones in either case included. -/
def digit? (c : Char) : Option Nat :=
  if c.isDigit then some (c.toNat - '0'.toNat)
  else if 'a' ≤ c ∧ c ≤ 'f' then some (c.toNat - 'a'.toNat + 10)
  else if 'A' ≤ c ∧ c ≤ 'F' then some (c.toNat - 'A'.toNat + 10)
  else none

def digitValue (c : Char) : Nat :=
  (digit? c).getD 0

def numeral (base : Nat) (digits : List Char) : Nat :=
  digits.foldl (fun n c => base * n + digitValue c) 0

end Numerals

end StorageLayout.Text
