import Mathlib.Data.List.Basic
import StorageBackends.Host.Basic
import StorageBackends.Proofs.Text.Splitting

namespace StorageBackends.Host

open StorageBackends.Text

/-!
# Labels of domain names

A label begins and ends with a letter or a digit, so a text of labels between
dots does not end in a dot, and a dot that stands behind it is the one that
may end a name.
-/

/-- What the check of a label asks for. -/
theorem isLabel_eq_true_iff (text : List Char) :
    isLabel text = true ↔
      text ≠ [] ∧
        text.length ≤ maxLabel ∧
          (∀ c ∈ text, isLabelChar c = true) ∧
            text.head? ≠ some '-' ∧ text.getLast? ≠ some '-' := by
  simp [isLabel, and_assoc]

/-- The hyphen is the only character of a label that may not end one. -/
theorem isLabelChar_and_ne_iff (c : Char) :
    isLabelChar c = true ∧ c ≠ '-' ↔ isLetterOrDigit c = true := by
  simp only [isLabelChar, Bool.or_eq_true, beq_iff_eq]
  constructor
  · rintro ⟨alphanumeric | hyphen, notHyphen⟩
    · exact alphanumeric
    · exact absurd hyphen notHyphen
  · intro alphanumeric
    refine ⟨Or.inl alphanumeric, ?_⟩
    rintro rfl
    exact absurd alphanumeric (by decide)

theorem withoutFinalDot_concat (front : List Char) :
    withoutFinalDot (front ++ ['.']) = front := by
  simp [withoutFinalDot]

/-- A name is left alone unless a dot ends it. -/
theorem withoutFinalDot_of_ne
    {text : List Char}
    (undotted : text.getLast? ≠ some '.') :
    withoutFinalDot text = text := by
  simp [withoutFinalDot, undotted]

/-- At most one dot is taken from a name, and it stood at the end. -/
theorem eq_withoutFinalDot (text : List Char) :
    text = withoutFinalDot text ∨ text = withoutFinalDot text ++ ['.'] := by
  rcases List.eq_nil_or_concat text with rfl | ⟨front, last, rfl⟩
  · exact Or.inl rfl
  · rw [List.concat_eq_append]
    by_cases dotted : last = '.'
    · rw [dotted, withoutFinalDot_concat]
      exact Or.inr rfl
    · rw [withoutFinalDot_of_ne (by simpa using dotted)]
      exact Or.inl rfl

theorem length_withoutFinalDot_le (text : List Char) :
    (withoutFinalDot text).length ≤ text.length := by
  unfold withoutFinalDot
  split
  · simp
  · exact Nat.le_refl text.length

/--
Between labels no dot ends a text, for an empty piece would stand behind it.
-/
theorem getLast?_ne_of_labels
    {text : List Char}
    (labels : ∀ piece ∈ text.splitOn '.', isLabel piece = true) :
    text.getLast? ≠ some '.' := by
  intro dotted
  have joined : text.dropLast ++ ['.'] = text :=
    List.dropLast_append_getLast? '.' (by simpa using dotted)
  rw [← joined] at labels
  exact absurd (labels [] (nil_mem_splitOn_concat '.' text.dropLast))
    (by decide)

end StorageBackends.Host
