namespace StorageBackends.Text

/-!
# Message templates

A template is a text with holes, each written as a percent sign and an `s`.
Holes take the arguments in order and verbatim: an argument is never scanned
for holes itself. A hole without an argument stays, and arguments without a
hole follow the text, each after a space.
-/

/-- Fill the holes of a template from left to right. -/
def fillCharacters : List Char → List String → List Char
  | '%' :: 's' :: rest, argument :: arguments =>
      argument.toList ++ fillCharacters rest arguments
  | c :: rest, arguments =>
      c :: fillCharacters rest arguments
  | [], arguments =>
      arguments.flatMap fun argument => ' ' :: argument.toList

/-- The text of a template for its arguments. -/
def fill
    (template : String)
    (arguments : List String) :
    String :=
  String.ofList (fillCharacters template.toList arguments)

/-- A text without a percent sign stays in front of what is filled. -/
theorem fillCharacters_append
    {front : List Char}
    (noHole : '%' ∉ front)
    (rest : List Char)
    (arguments : List String) :
    fillCharacters (front ++ rest) arguments =
      front ++ fillCharacters rest arguments := by
  induction front with
  | nil => rfl
  | cons c others inductionHypothesis =>
      rw [List.mem_cons, not_or] at noHole
      obtain ⟨notHere, noneBehind⟩ := noHole
      rw [List.cons_append, List.cons_append, ← inductionHypothesis noneBehind,
        fillCharacters]
      exact fun _ _ _ _ isHole _ => notHere isHole.symm

/-- Two holes take two arguments, each in its place. -/
theorem fill_pair
    {front middle : String}
    (noHole : '%' ∉ front.toList)
    (noHoleBetween : '%' ∉ middle.toList)
    (first second : String) :
    fill (front ++ "%s" ++ middle ++ "%s") [first, second] =
      front ++ first ++ middle ++ second := by
  have hole : "%s".toList = ['%', 's'] := rfl
  rw [← String.toList_inj]
  simp only [fill, String.toList_ofList, String.toList_append, hole,
    List.append_assoc]
  rw [fillCharacters_append noHole, List.cons_append, List.cons_append,
    fillCharacters, List.nil_append, fillCharacters_append noHoleBetween,
    fillCharacters, fillCharacters, List.flatMap_nil, List.append_nil]

end StorageBackends.Text
