import StorageBackends.Text.Characters

namespace StorageBackends.Text

/-!
# Sets of characters

A class of characters that no short rule describes is a table: words of
hexadecimal code points, each a single one or the two ends of a range.
-/

/-- The number that a run of hexadecimal digits denotes. -/
def hexadecimalValue (digits : List Char) : Nat :=
  digits.foldl (fun value digit => 16 * value + hexValue digit) 0

/-- The words of a line. -/
def wordsOf (line : String) : List (List Char) :=
  line.toList.splitOn ' '

/-- The words of some lines. -/
def wordsOfLines (lines : List String) : List (List Char) :=
  lines.flatMap wordsOf

/-- A range of code points, both ends included. -/
structure CodeRange where
  first : Nat
  last : Nat
deriving DecidableEq, Repr

namespace CodeRange

/-- The range that a word denotes. -/
def ofWord (word : List Char) : CodeRange :=
  let first := word.takeWhile (· != '-')
  let last := word.drop (first.length + 1)
  { first := hexadecimalValue first
    last := hexadecimalValue (if last.isEmpty then first else last) }

/-- Whether a character lies in a range. -/
def contains (range : CodeRange) (c : Char) : Bool :=
  range.first ≤ c.toNat && c.toNat ≤ range.last

theorem contains_eq_true_iff {range : CodeRange} {c : Char} :
    range.contains c = true ↔ range.first ≤ c.toNat ∧ c.toNat ≤ range.last := by
  simp [contains]

end CodeRange

/-- Characters given by ranges of their code points. -/
structure CodeSet where
  ranges : List CodeRange
deriving DecidableEq, Repr

namespace CodeSet

/-- The characters of a table. -/
def ofLines (lines : List String) : CodeSet where
  ranges := (wordsOfLines lines).map CodeRange.ofWord

/-- Whether a character is in a set. -/
def contains (set : CodeSet) (c : Char) : Bool :=
  set.ranges.any (·.contains c)

theorem contains_eq_true_iff_exists {set : CodeSet} {c : Char} :
    set.contains c = true ↔
      ∃ range ∈ set.ranges, range.first ≤ c.toNat ∧ c.toNat ≤ range.last := by
  simp [contains, CodeRange.contains_eq_true_iff]

end CodeSet

end StorageBackends.Text
