import Mathlib.Data.List.DropRight
import StorageBackends.Url.Location

namespace StorageBackends.Url

open StorageBackends.Text

/-!
# Kept URLs

A URL is kept without the white space at its ends and without the characters
that are dropped anywhere. Keeping it once more changes nothing, and what is
kept is a URL whenever the text was: all that is taken away would have been
taken away by the reader as well.
-/

/-- A text without the characters of a class at its two ends. -/
def stripped (atEnd : Char → Bool) (text : List Char) : List Char :=
  (text.dropWhile atEnd).rdropWhile atEnd

theorem trim_eq_stripped (text : List Char) :
    trim text = stripped isBlank text := rfl

theorem cleaned_eq_stripped (text : List Char) :
    cleaned text = (stripped isEdge text).filter fun c => !isDropped c := rfl

/-- Nothing is left to be taken from the ends. -/
theorem stripped_stripped (atEnd : Char → Bool) (text : List Char) :
    stripped atEnd (stripped atEnd text) = stripped atEnd text := by
  have opened :
      (stripped atEnd text).dropWhile atEnd = stripped atEnd text := by
    rw [List.dropWhile_eq_self_iff]
    intro someLength
    have isPrefix := List.rdropWhile_prefix atEnd (text.dropWhile atEnd)
    have someBefore : 0 < (text.dropWhile atEnd).length :=
      Nat.lt_of_lt_of_le someLength isPrefix.length_le
    have first : (stripped atEnd text)[0] = (text.dropWhile atEnd)[0] :=
      isPrefix.getElem someLength
    rw [first]
    exact List.dropWhile_eq_self_iff.1 (List.dropWhile_idempotent atEnd text) _
  conv_lhs => rw [stripped, opened]
  exact List.rdropWhile_idempotent atEnd (text.dropWhile atEnd)

/-- Characters that are taken from the ends may be dropped before or after. -/
theorem stripped_filter
    {atEnd dropped : Char → Bool}
    (covered : ∀ c, dropped c = true → atEnd c = true)
    (text : List Char) :
    stripped atEnd (text.filter fun c => !dropped c) =
      (stripped atEnd text).filter fun c => !dropped c := by
  have either : ∀ c, (!!dropped c || atEnd c) = atEnd c := by
    intro c
    cases isDropped : dropped c with
    | true => simp [covered c isDropped]
    | false => rfl
  have dropWhile_filter :
      ∀ text : List Char,
        (text.filter fun c => !dropped c).dropWhile atEnd =
          (text.dropWhile atEnd).filter fun c => !dropped c := by
    intro text
    rw [List.dropWhile_filter]
    simp only [either]
  unfold stripped List.rdropWhile
  rw [dropWhile_filter, ← List.filter_reverse, dropWhile_filter,
    List.filter_reverse]

theorem isBlank_of_isDropped
    (c : Char)
    (dropped : isDropped c = true) :
    isBlank c = true := by
  simp only [isDropped, Bool.or_eq_true, beq_iff_eq] at dropped
  rcases dropped with (rfl | rfl) | rfl <;> decide

theorem isEdge_of_isDropped
    (c : Char)
    (dropped : isDropped c = true) :
    isEdge c = true := by
  simp only [isDropped, Bool.or_eq_true, beq_iff_eq] at dropped
  rcases dropped with (rfl | rfl) | rfl <;> decide

/-- What is kept has no white space at its ends. -/
theorem trim_kept (text : String) :
    trim (kept text).toList = (kept text).toList := by
  rw [kept, String.toList_ofList, trim_eq_stripped,
    stripped_filter isBlank_of_isDropped, trim_eq_stripped, stripped_stripped]

/-- A kept URL is kept as it stands. -/
theorem kept_kept (text : String) : kept (kept text) = kept text := by
  have again :
      kept (kept text) =
        String.ofList
          ((trim (kept text).toList).filter fun c => !isDropped c) := rfl
  rw [again, trim_kept, kept, String.toList_ofList, List.filter_filter]
  simp only [Bool.and_self]

/-- What is kept of a text is a URL exactly if the text is one. -/
theorem isUrl_kept (text : String) : isUrl (kept text) = isUrl text := by
  have same : cleaned (kept text).toList = cleaned (trim text.toList) := by
    rw [kept, String.toList_ofList, cleaned_eq_stripped,
      stripped_filter isEdge_of_isDropped, List.filter_filter,
      cleaned_eq_stripped]
    simp only [Bool.and_self]
  rw [isUrl, isUrl, trim_kept, isAbsolute, isAbsolute, same]

end StorageBackends.Url
