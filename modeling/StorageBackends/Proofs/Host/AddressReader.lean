import StorageBackends.Host.Ipv6
import StorageBackends.Proofs.Host.DottedReader

namespace StorageBackends.Host

open StorageBackends.Text

/-!
# Reading colon-separated addresses

A colon-separated address is recognized by cutting it at its double colon and
by counting the groups on both sides. A reader that goes through the text once
recognizes the same addresses. It knows how many groups it has behind it,
whether one of them was the double colon, and the digits of the group it is
in. A dot sends it back to the start of that group, which it then reads as the
start of a dotted address.
-/

/-- Read the rest of an address whose double colon may be behind. -/
def readGroups : Nat → Bool → List Char → List Char → Bool
  | count, gapped, [], [] => gapped || count == 8
  | count, gapped, _ :: _, [] => gapped || count + 1 == 8
  | count, gapped, [], c :: rest =>
      count != 8 &&
        if c == ':' then
          !gapped && readGroups (count + 1) true [] rest
        else
          isHexDigit c && readGroups count gapped [c] rest
  | count, gapped, first :: digits, c :: rest =>
      if isHexDigit c then
        (first :: digits).length < 4 &&
          readGroups count gapped (first :: digits ++ [c]) rest
      else if c == '.' then
        count ≤ 6 && readNumbers 0 none (first :: digits ++ c :: rest) &&
          (gapped || count + 2 == 8)
      else
        c == ':' && !rest.isEmpty && readGroups (count + 1) gapped [] rest

/-- Read an address: a colon at its start must be a double one. -/
def readAddress : List Char → Bool
  | ':' :: ':' :: rest => readGroups 1 true [] rest
  | ':' :: _ => false
  | text => readGroups 0 false [] text

/-- What makes a group: one to four hexadecimal digits. -/
theorem isGroup_eq_true_iff (text : List Char) :
    isGroup text = true ↔
      text ≠ [] ∧ text.length ≤ 4 ∧ ∀ c ∈ text, isHexDigit c = true := by
  simp [isGroup, and_assoc]

/-- What a group begins with is a group. -/
theorem isGroup_of_append
    {front rest : List Char}
    (notEmpty : front ≠ [])
    (group : isGroup (front ++ rest) = true) :
    isGroup front = true := by
  rw [isGroup_eq_true_iff] at group ⊢
  obtain ⟨-, short, digits⟩ := group
  rw [List.length_append] at short
  exact ⟨notEmpty, by omega,
    fun c listed => digits c (List.mem_append_left _ listed)⟩

/-- A group stays one if a digit follows and there is room for it. -/
theorem isGroup_append_singleton
    {digits : List Char}
    (group : isGroup digits = true)
    (c : Char) :
    isGroup (digits ++ [c]) = (isHexDigit c && decide (digits.length < 4)) := by
  obtain ⟨-, -, allDigits⟩ := (isGroup_eq_true_iff digits).1 group
  rw [Bool.eq_iff_iff, isGroup_eq_true_iff]
  simp only [List.mem_append, List.mem_singleton]
  grind

/--
One step of the reader within a group. A digit goes on, a dot turns to the
numbers of a dotted end, and a colon ends the group.
-/
theorem readGroups_cons
    (count : Nat)
    (gapped : Bool)
    {digits : List Char}
    (inGroup : digits ≠ [])
    (c : Char)
    (rest : List Char) :
    readGroups count gapped digits (c :: rest) =
      if isHexDigit c then
        digits.length < 4 && readGroups count gapped (digits ++ [c]) rest
      else if c == '.' then
        count ≤ 6 && readNumbers 0 none (digits ++ c :: rest) &&
          (gapped || count + 2 == 8)
      else
        c == ':' && !rest.isEmpty && readGroups (count + 1) gapped [] rest := by
  obtain ⟨first, more, rfl⟩ := List.exists_cons_of_ne_nil inGroup
  rw [readGroups]

theorem isHexDigit_of_isDigit
    {c : Char}
    (digit : isDigit c = true) :
    isHexDigit c = true := by
  simp [isHexDigit, digit]

/-- A group holds no dot. -/
theorem whole_of_isGroup
    {text : List Char}
    (group : isGroup text = true) :
    '.' ∉ text := by
  intro listed
  obtain ⟨-, -, digits⟩ := (isGroup_eq_true_iff text).1 group
  exact absurd (digits '.' listed) (by decide)

/--
Inside a group, the reader goes on to the end of the piece: the piece is a
group, or a dotted address that ends the text.
-/
theorem readGroups_append
    (count : Nat)
    (gapped : Bool)
    {digits piece : List Char}
    (group : isGroup digits = true)
    (whole : ':' ∉ piece)
    {rest : List Char}
    (ends : ∀ c ∈ rest.head?, c = ':') :
    readGroups count gapped digits (piece ++ rest) =
      (isGroup (digits ++ piece) &&
          readGroups count gapped (digits ++ piece) rest ||
        count ≤ 6 && isIpv4 (digits ++ piece ++ rest) &&
          (gapped || count + 2 == 8)) := by
  induction piece generalizing digits with
  | nil =>
      have notDotted : isIpv4 (digits ++ [] ++ rest) = false := by
        cases rest with
        | nil =>
            simpa using isIpv4_eq_false_of_whole (whole_of_isGroup group)
        | cons c others =>
            obtain rfl : c = ':' := ends c rfl
            rw [Bool.eq_false_iff]
            intro dotted
            have colon := isDigit_or_dot_of_isIpv4 dotted (c := ':') (by simp)
            exact absurd colon (by decide)
      rw [notDotted]
      simp [group]
  | cons c others inductionHypothesis =>
      obtain ⟨notColon, remaining⟩ :=
        List.ne_and_not_mem_of_not_mem_cons whole
      have notEmpty : digits ≠ [] := ((isGroup_eq_true_iff _).1 group).1
      have grown : digits ++ c :: others = digits ++ [c] ++ others := by simp
      cases longer : isGroup (digits ++ [c]) with
      | true =>
          obtain ⟨digit, short⟩ :
              isHexDigit c = true ∧ digits.length < 4 := by
            simpa [isGroup_append_singleton group] using longer
          rw [grown, ← inductionHypothesis longer remaining,
            List.cons_append, readGroups_cons _ _ notEmpty]
          simp [digit, short]
      | false =>
          have refused : isGroup (digits ++ c :: others) = false := by
            rw [Bool.eq_false_iff, grown]
            intro whole
            rw [isGroup_of_append (by simp) whole] at longer
            cases longer
          rw [refused, Bool.false_and, Bool.false_or, List.cons_append,
            readGroups_cons _ _ notEmpty, List.append_assoc, List.cons_append]
          split
          · -- A fifth digit, which no octet of a dotted address has either.
            rename_i digit
            have long : ¬ digits.length < 4 := fun short => by
              simp [isGroup_append_singleton group, digit, short] at longer
            rw [isIpv4_append_eq_false (whole_of_isGroup group) (by omega)]
            simp [long]
          · rename_i notDigit
            split
            · rw [readNumbers_eq_isIpv4]
            · rename_i notDot
              have notDotted :
                  isIpv4 (digits ++ c :: (others ++ rest)) = false := by
                rw [Bool.eq_false_iff]
                intro dotted
                rcases isDigit_or_dot_of_isIpv4 dotted (c := c) (by simp) with
                  digit | dot
                · exact notDigit (isHexDigit_of_isDigit digit)
                · exact notDot (by simp [dot])
              rw [notDotted]
              simp [Ne.symm notColon]

/-- Between two groups, the reader takes the whole piece that follows. -/
theorem readGroups_nil_append
    (count : Nat)
    (gapped : Bool)
    {piece : List Char}
    (notEmpty : piece ≠ [])
    (whole : ':' ∉ piece)
    (rest : List Char)
    (ends : ∀ c ∈ rest.head?, c = ':') :
    readGroups count gapped [] (piece ++ rest) =
      (count != 8 &&
        (isGroup piece && readGroups count gapped piece rest ||
          count ≤ 6 && isIpv4 (piece ++ rest) &&
            (gapped || count + 2 == 8))) := by
  obtain ⟨c, others, rfl⟩ := List.exists_cons_of_ne_nil notEmpty
  obtain ⟨notColon, remaining⟩ := List.ne_and_not_mem_of_not_mem_cons whole
  rw [List.cons_append, readGroups]
  cases digit : isHexDigit c with
  | true =>
      have group : isGroup [c] = true := by simp [isGroup, digit]
      have read := readGroups_append count gapped group remaining ends
      simp only [List.cons_append, List.nil_append] at read
      simp [Ne.symm notColon, read]
  | false =>
      have notGroup : isGroup (c :: others) = false := by
        simp [isGroup, digit]
      have notDotted : isIpv4 (c :: (others ++ rest)) = false := by
        rw [Bool.eq_false_iff]
        intro dotted
        rcases isDigit_or_dot_of_isIpv4 dotted (c := c) (by simp) with
          isDecimal | rfl
        · simp [isHexDigit_of_isDigit isDecimal] at digit
        · simp [← readNumbers_eq_isIpv4, readNumbers, isDigit] at dotted
      simp [Ne.symm notColon, notGroup, notDotted]

/--
A group that a colon follows, and what the colon leads to. Only a reader that
has not met the double colon takes a colon without a group before it.
-/
theorem readGroups_group
    (count : Nat)
    {gapped : Bool}
    {piece : List Char}
    (expected : gapped = true ∨ piece ≠ [])
    (whole : ':' ∉ piece)
    (rest : List Char) :
    readGroups count gapped [] (piece ++ ':' :: rest) =
      (count != 8 && (isGroup piece && !rest.isEmpty) &&
        readGroups (count + 1) gapped [] rest) := by
  by_cases notEmpty : piece = []
  · subst notEmpty
    obtain rfl : gapped = true := expected.resolve_right (by simp)
    simp [readGroups, isGroup]
  · have notDotted : isIpv4 (piece ++ ':' :: rest) = false := by
      rw [Bool.eq_false_iff]
      intro dotted
      have colon := isDigit_or_dot_of_isIpv4 dotted (c := ':') (by simp)
      exact absurd colon (by decide)
    have notDigit : isHexDigit ':' = false := rfl
    rw [readGroups_nil_append _ _ notEmpty whole _ (by simp), notDotted,
      readGroups_cons _ _ notEmpty, notDigit]
    simp [Bool.and_assoc]

/-- The last piece of an address. -/
theorem readGroups_last
    (count : Nat)
    (gapped : Bool)
    {piece : List Char}
    (notEmpty : piece ≠ [])
    (whole : ':' ∉ piece) :
    readGroups count gapped [] piece =
      (count != 8 &&
        (isGroup piece && (gapped || count + 1 == 8) ||
          count ≤ 6 && isIpv4 piece && (gapped || count + 2 == 8))) := by
  have read :=
    readGroups_nil_append count gapped notEmpty whole [] (by simp)
  obtain ⟨c, others, rfl⟩ := List.exists_cons_of_ne_nil notEmpty
  simpa [readGroups] using read

theorem groupCount?_cons (piece : List Char) (others : List (List Char)) :
    groupCount? (piece :: others) =
      if isGroup piece then (groupCount? others).map (· + 1) else none := by
  cases first : isGroup piece with
  | true => cases rest : others.all isGroup <;> simp [groupCount?, first, rest]
  | false => simp [groupCount?, first]

/-- The last piece may be a dotted address, which stands for two groups. -/
theorem finalGroupCount?_singleton (piece : List Char) :
    finalGroupCount? [piece] =
      if isIpv4 piece then some 2
      else if isGroup piece then some 1
      else none := by
  simp [finalGroupCount?, groupCount?]

/-- Before the last piece only groups are counted. -/
theorem finalGroupCount?_cons
    (piece : List Char)
    {others : List (List Char)}
    (more : others ≠ []) :
    finalGroupCount? (piece :: others) =
      if isGroup piece then (finalGroupCount? others).map (· + 1)
      else none := by
  obtain ⟨last, isLast⟩ : ∃ last, others.getLast? = some last :=
    ⟨_, List.getLast?_eq_some_getLast more⟩
  have isLastToo : (piece :: others).getLast? = some last := by
    rw [List.getLast?_cons, isLast, Option.getD_some]
  simp only [finalGroupCount?, isLast, isLastToo,
    List.dropLast_cons_of_ne_nil more, groupCount?_cons]
  cases isIpv4 last <;> cases isGroup piece <;>
    simp [Option.map_map, Function.comp_def]

theorem colonPieces_of_whole
    {text : List Char}
    (notEmpty : text ≠ [])
    (whole : ':' ∉ text) :
    colonPieces text = [text] := by
  rw [colonPieces, if_neg (by simpa using notEmpty), List.splitOn_eq_singleton whole]

/-- The first piece ends at the first colon that something follows. -/
theorem colonPieces_append_cons
    {piece : List Char}
    (whole : ':' ∉ piece)
    {rest : List Char}
    (notEmpty : rest ≠ []) :
    colonPieces (piece ++ ':' :: rest) = piece :: colonPieces rest := by
  rw [colonPieces, if_neg (by simp), List.splitOn_append_cons_self_of_not_mem whole,
    colonPieces, if_neg (by simpa using notEmpty)]

/-- The groups of a text are counted piece by piece; no colon ends a text. -/
theorem finalGroupCount?_append_cons
    {piece : List Char}
    (whole : ':' ∉ piece)
    (rest : List Char) :
    finalGroupCount? (colonPieces (piece ++ ':' :: rest)) =
      if isGroup piece && !rest.isEmpty then
        (finalGroupCount? (colonPieces rest)).map (· + 1)
      else
        none := by
  by_cases notEmpty : rest = []
  · subst notEmpty
    have pieces : colonPieces (piece ++ [':']) = [piece, []] := by
      rw [colonPieces, if_neg (by simp), List.splitOn_append_cons_self_of_not_mem whole]
      rfl
    have ending : finalGroupCount? [[]] = none := rfl
    simp [pieces, finalGroupCount?_cons, ending]
  · have more : colonPieces rest ≠ [] := by
      rw [colonPieces, if_neg (by simpa using notEmpty)]
      exact List.splitOn_ne_nil ':' rest
    rw [colonPieces_append_cons whole notEmpty, finalGroupCount?_cons _ more]
    simp [notEmpty]

/-- A group is not a dotted address. -/
theorem isIpv4_eq_false_of_isGroup
    {text : List Char}
    (group : isGroup text = true) :
    isIpv4 text = false :=
  isIpv4_eq_false_of_whole (whole_of_isGroup group)

/-- A rest without a colon is no group, or one, or a dotted address. -/
theorem readGroups_whole
    {count : Nat}
    (room : count ≤ 8)
    (gapped : Bool)
    {piece : List Char}
    (whole : ':' ∉ piece) :
    readGroups count gapped [] piece =
      (finalGroupCount? (colonPieces piece)).any fun right =>
        if gapped then count + right ≤ 8 else count + right == 8 := by
  by_cases notEmpty : piece = []
  · subst notEmpty
    cases gapped with
    | true => simpa [readGroups, colonPieces, finalGroupCount?] using room
    | false => simp [readGroups, colonPieces, finalGroupCount?]
  · rw [readGroups_last _ _ notEmpty whole,
      colonPieces_of_whole notEmpty whole, finalGroupCount?_singleton,
      Bool.eq_iff_iff]
    cases group : isGroup piece with
    | true =>
        rw [isIpv4_eq_false_of_isGroup group]
        cases gapped <;> simp <;> omega
    | false =>
        cases isIpv4 piece with
        | true => cases gapped <;> simp <;> omega
        | false => simp

/-- Behind the double colon, at most eight groups may come together. -/
theorem readGroups_gapped
    {count : Nat}
    (room : count ≤ 8)
    (text : List Char) :
    readGroups count true [] text =
      (finalGroupCount? (colonPieces text)).any (count + · ≤ 8) := by
  induction text using pieces_induction ':' generalizing count with
  | last piece whole => simpa using readGroups_whole room true whole
  | step piece rest whole inductionHypothesis =>
      rw [readGroups_group count (.inl rfl) whole,
        finalGroupCount?_append_cons whole]
      cases isGroup piece && !rest.isEmpty with
      | false => simp
      | true =>
          by_cases full : count = 8
          · subst full
            cases finalGroupCount? (colonPieces rest) <;> simp
          · rw [inductionHypothesis (by omega)]
            cases finalGroupCount? (colonPieces rest) with
            | none => simp
            | some right =>
                rw [Bool.eq_iff_iff]
                simp
                omega

/-- A text without a colon has no double one. -/
theorem splitAtGap?_of_whole
    {text : List Char}
    (whole : ':' ∉ text) :
    splitAtGap? text = none := by
  induction text with
  | nil => rfl
  | cons c rest inductionHypothesis =>
      obtain ⟨notColon, remaining⟩ :=
        List.ne_and_not_mem_of_not_mem_cons whole
      rw [splitAtGap?, inductionHypothesis remaining]
      · rfl
      · rintro others isColon -
        exact notColon isColon.symm

/-- A double colon stands behind the first colon or further on. -/
theorem splitAtGap?_append_cons
    {piece : List Char}
    (whole : ':' ∉ piece)
    {rest : List Char}
    (single : rest.head? ≠ some ':') :
    splitAtGap? (piece ++ ':' :: rest) =
      (splitAtGap? rest).map fun parts =>
        (piece ++ ':' :: parts.1, parts.2) := by
  induction piece with
  | nil =>
      rw [List.nil_append, splitAtGap?]
      · rfl
      · rintro others - rfl
        exact single rfl
  | cons c others inductionHypothesis =>
      obtain ⟨notColon, remaining⟩ :=
        List.ne_and_not_mem_of_not_mem_cons whole
      rw [List.cons_append, splitAtGap?, inductionHypothesis remaining,
        Option.map_map]
      · rfl
      · rintro more isColon -
        exact notColon isColon.symm

/-- The first double colon is where a text is cut. -/
theorem splitAtGap?_append_gap
    {piece : List Char}
    (whole : ':' ∉ piece)
    (rest : List Char) :
    splitAtGap? (piece ++ ':' :: ':' :: rest) = some (piece, rest) := by
  induction piece with
  | nil => rfl
  | cons c others inductionHypothesis =>
      obtain ⟨notColon, remaining⟩ :=
        List.ne_and_not_mem_of_not_mem_cons whole
      rw [List.cons_append, splitAtGap?, inductionHypothesis remaining]
      · rfl
      · rintro more isColon -
        exact notColon isColon.symm

/-- What stands before a later double colon has a first character. -/
theorem before_ne_nil_of_splitAtGap?
    {text before after : List Char}
    (opened : text.head? ≠ some ':')
    (cut : splitAtGap? text = some (before, after)) :
    before ≠ [] := by
  rintro rfl
  cases text with
  | nil => cases cut
  | cons c rest =>
      rw [splitAtGap?] at cut
      · obtain ⟨parts, -, same⟩ := Option.map_eq_some_iff.1 cut
        cases same
      · rintro others rfl
        exact absurd rfl opened

/--
The groups of a text without a double colon are eight together with those
before it; those on both sides of a double colon are at most seven.
-/
def fitsBehind (count : Nat) (text : List Char) : Bool :=
  match splitAtGap? text with
  | none => (finalGroupCount? (colonPieces text)).any (count + · == 8)
  | some (before, after) =>
      (groupCount? (colonPieces before)).any fun left =>
        (finalGroupCount? (colonPieces after)).any (count + left + · ≤ 7)

/-- With no group in front the rest is an address of its own. -/
theorem fitsBehind_zero (text : List Char) :
    fitsBehind 0 text = isIpv6 text := by
  cases cut : splitAtGap? text with
  | none =>
      simp only [fitsBehind, isIpv6, cut]
      cases finalGroupCount? (colonPieces text) <;> simp
  | some parts =>
      simp only [fitsBehind, isIpv6, cut]
      cases groupCount? (colonPieces parts.1) <;>
        cases finalGroupCount? (colonPieces parts.2) <;> simp

/-- Nothing fits behind more groups than an address has. -/
theorem fitsBehind_of_lt
    {count : Nat}
    (full : 8 < count)
    (text : List Char) :
    fitsBehind count text = false := by
  rw [Bool.eq_false_iff]
  intro fits
  unfold fitsBehind at fits
  split at fits
  · obtain ⟨right, -, exactly⟩ := (Option.any_eq_true _ _).1 fits
    simp at exactly
    omega
  · obtain ⟨left, -, rest⟩ := (Option.any_eq_true _ _).1 fits
    obtain ⟨right, -, atMost⟩ := (Option.any_eq_true _ _).1 rest
    simp at atMost
    omega

/-- A whole group in front of a single colon moves to the groups that count. -/
theorem fitsBehind_append_cons
    (count : Nat)
    {piece : List Char}
    (whole : ':' ∉ piece)
    {rest : List Char}
    (single : rest.head? ≠ some ':') :
    fitsBehind count (piece ++ ':' :: rest) =
      (isGroup piece && !rest.isEmpty && fitsBehind (count + 1) rest) := by
  cases cut : splitAtGap? rest with
  | none =>
      simp only [fitsBehind, splitAtGap?_append_cons whole single, cut,
        Option.map_none, finalGroupCount?_append_cons whole]
      cases isGroup piece && !rest.isEmpty with
      | false => simp
      | true =>
          simp [Option.any_map, Nat.add_assoc, Nat.add_comm 1]
  | some parts =>
      obtain ⟨before, after⟩ := parts
      have someBefore : before ≠ [] := before_ne_nil_of_splitAtGap? single cut
      have someRest : rest ≠ [] := by
        rintro rfl
        cases cut
      simp only [fitsBehind, splitAtGap?_append_cons whole single, cut,
        Option.map_some, colonPieces_append_cons whole someBefore,
        groupCount?_cons]
      cases isGroup piece with
      | false => simp
      | true =>
          simp [Option.any_map, someRest, Nat.add_assoc, Nat.add_comm 1]

/--
Behind a gap the groups are counted once more, and one place is kept for it.
-/
theorem fitsBehind_append_gap
    (count : Nat)
    {piece : List Char}
    (notEmpty : piece ≠ [])
    (whole : ':' ∉ piece)
    (rest : List Char) :
    fitsBehind count (piece ++ ':' :: ':' :: rest) =
      (isGroup piece &&
        (finalGroupCount? (colonPieces rest)).any (count + 1 + · ≤ 7)) := by
  have pieces : groupCount? [piece] = if isGroup piece then some 1 else none := by
    simp [groupCount?]
  simp only [fitsBehind, splitAtGap?_append_gap whole,
    colonPieces_of_whole notEmpty whole, pieces]
  cases isGroup piece <;> simp

/-- Before any double colon, the text ahead is judged as a whole. -/
theorem readGroups_ungapped
    {count : Nat}
    (room : count ≤ 8)
    {text : List Char}
    (opened : text.head? ≠ some ':') :
    readGroups count false [] text = fitsBehind count text := by
  induction text using pieces_induction ':' generalizing count with
  | last piece whole =>
      rw [fitsBehind, splitAtGap?_of_whole whole]
      simpa using readGroups_whole room false whole
  | step piece rest whole inductionHypothesis =>
      have notEmpty : piece ≠ [] := by
        rintro rfl
        exact opened rfl
      rw [readGroups_group count (.inr notEmpty) whole]
      by_cases double : rest.head? = some ':'
      · obtain ⟨after, rfl⟩ := List.head?_eq_some_iff.1 double
        rw [fitsBehind_append_gap count notEmpty whole]
        simp only [readGroups]
        cases isGroup piece with
        | false => simp
        | true =>
            by_cases more : count + 2 ≤ 8
            · have notLast : (count != 8) = true ∧ (count != 7) = true := by
                simp only [bne_iff_ne]
                omega
              have moved :
                  ∀ right, count + 2 + right ≤ 8 ↔ count + 1 + right ≤ 7 := by
                omega
              simp [readGroups_gapped more, notLast, moved]
            · have filled : ∀ right, ¬ count + 1 + right ≤ 7 := by omega
              have last : count = 7 ∨ count = 8 := by omega
              simp only [filled]
              rcases last with rfl | rfl <;> simp
      · rw [fitsBehind_append_cons count whole double]
        by_cases full : count = 8
        · subst full
          rw [fitsBehind_of_lt (by omega), Bool.and_false]
          rfl
        · have notFull : (count != 8) = true := by simpa using full
          rw [inductionHypothesis (by omega) double, notFull, Bool.true_and]

/-- The reader takes exactly the colon-separated addresses. -/
theorem readAddress_eq_isIpv6 (text : List Char) :
    readAddress text = isIpv6 text := by
  rw [← fitsBehind_zero]
  by_cases opened : text.head? = some ':'
  · obtain ⟨rest, rfl⟩ := List.head?_eq_some_iff.1 opened
    by_cases double : rest.head? = some ':'
    · obtain ⟨after, rfl⟩ := List.head?_eq_some_iff.1 double
      have left : groupCount? (colonPieces []) = some 0 := rfl
      have moved : ∀ right, 1 + right ≤ 8 ↔ 0 + 0 + right ≤ 7 := by omega
      have room : 1 ≤ 8 := by omega
      simp [readAddress, readGroups_gapped room, fitsBehind, splitAtGap?,
        left, moved]
    · have refused : fitsBehind 0 ([] ++ ':' :: rest) = false := by
        rw [fitsBehind_append_cons 0 (by simp) double]
        rfl
      rw [readAddress]
      · exact refused.symm
      · rintro others rfl
        exact double rfl
  · rw [readAddress]
    · exact readGroups_ungapped (by omega) opened
    · rintro others rfl
      exact opened rfl
    · rintro others rfl
      exact opened rfl

end StorageBackends.Host
