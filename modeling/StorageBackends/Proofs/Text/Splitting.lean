import StorageBackends.Text.Characters

namespace StorageBackends

/-!
# Splitting texts

A text is its last piece, or a piece, a joint and a text that is split in its
turn. Splitting follows this shape, and so does the induction on it.
-/

/-- A joint is found again in front of which its character does not occur. -/
theorem append_cons_inj_of_not_mem
    {joint : Char}
    {left right leftRest rightRest : List Char}
    (notLeft : joint ∉ left)
    (notRight : joint ∉ right) :
    left ++ joint :: leftRest = right ++ joint :: rightRest ↔
      left = right ∧ leftRest = rightRest := by
  induction left generalizing right with
  | nil =>
      cases right with
      | nil => simp
      | cons first rest =>
          have unequal : joint ≠ first := fun same => notRight (by simp [same])
          simp [unequal]
  | cons first rest inductionHypothesis =>
      have unequal : joint ≠ first := fun same => notLeft (by simp [same])
      have notRest : joint ∉ rest := fun listed => notLeft (by simp [listed])
      cases right with
      | nil => simp [Ne.symm unequal]
      | cons other others =>
          have notOthers : joint ∉ others :=
            fun listed => notRight (by simp [listed])
          simp [inductionHypothesis notRest notOthers, and_assoc]

namespace Text

variable {joint : Char}

/-- Characters that are no joint belong to the first piece of what follows. -/
theorem splitOn_append
    {front : List Char}
    (whole : joint ∉ front)
    {text first : List Char}
    {others : List (List Char)}
    (split : text.splitOn joint = first :: others) :
    (front ++ text).splitOn joint = (front ++ first) :: others := by
  induction front with
  | nil => exact split
  | cons c rest inductionHypothesis =>
      obtain ⟨unequal, remaining⟩ :=
        List.ne_and_not_mem_of_not_mem_cons whole
      simp [List.splitOn_cons_eq_if_modifyHead,
        inductionHypothesis remaining, Ne.symm unequal]

/-- Induction on the pieces of a text, from the last one to the first. -/
@[elab_as_elim]
theorem pieces_induction
    (joint : Char)
    {motive : List Char → Prop}
    (last : ∀ piece, joint ∉ piece → motive piece)
    (step :
      ∀ piece rest,
        joint ∉ piece → motive rest → motive (piece ++ joint :: rest))
    (text : List Char) :
    motive text := by
  suffices ∀ front, joint ∉ front → motive (front ++ text) from
    this [] (by simp)
  induction text with
  | nil =>
      intro front whole
      simpa using last front whole
  | cons c rest inductionHypothesis =>
      intro front whole
      by_cases isJoint : c = joint
      · rw [isJoint]
        exact step front rest whole (inductionHypothesis [] (by simp))
      · have joined : joint ∉ front ++ [c] := by
          simp [whole, Ne.symm isJoint]
        simpa using inductionHypothesis (front ++ [c]) joined

/-- What stands in a piece stands in the text. -/
theorem mem_of_mem_splitOn
    {text piece : List Char}
    (isPiece : piece ∈ text.splitOn joint)
    {c : Char}
    (inPiece : c ∈ piece) :
    c ∈ text := by
  induction text using pieces_induction joint with
  | last last whole =>
      rw [List.splitOn_eq_singleton whole, List.mem_singleton] at isPiece
      exact isPiece ▸ inPiece
  | step first rest whole inductionHypothesis =>
      rw [List.splitOn_append_cons_self_of_not_mem whole] at isPiece
      rcases List.mem_cons.1 isPiece with isFirst | later
      · exact List.mem_append_left _ (isFirst ▸ inPiece)
      · exact List.mem_append_right first
          (List.mem_cons_of_mem joint (inductionHypothesis later))

/-- A character of a text is a joint or stands in one of the pieces. -/
theorem eq_or_mem_piece
    (joint : Char)
    {text : List Char}
    {c : Char}
    (listed : c ∈ text) :
    c = joint ∨ ∃ piece ∈ text.splitOn joint, c ∈ piece := by
  induction text using pieces_induction joint with
  | last piece whole =>
      exact Or.inr ⟨piece, by simp [List.splitOn_eq_singleton whole], listed⟩
  | step piece rest whole inductionHypothesis =>
      rw [List.splitOn_append_cons_self_of_not_mem whole]
      simp only [List.mem_append, List.mem_cons] at listed
      rcases listed with inPiece | isJoint | inRest
      · exact Or.inr ⟨piece, by simp, inPiece⟩
      · exact Or.inl isJoint
      · refine (inductionHypothesis inRest).imp_right ?_
        rintro ⟨other, later, inOther⟩
        exact ⟨other, List.mem_cons_of_mem _ later, inOther⟩

/-- Nothing stands behind a joint that ends a text. -/
theorem nil_mem_splitOn_concat (joint : Char) (front : List Char) :
    [] ∈ (front ++ [joint]).splitOn joint := by
  simp [List.splitOn_append_cons_self]

end Text

end StorageBackends
