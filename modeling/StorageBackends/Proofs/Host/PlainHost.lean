import StorageBackends.Proofs.Host.Pattern

namespace StorageBackends.Host

open StorageBackends.Text

/-!
# Plain hosts

A host in plain characters, which are letters, digits, dots, hyphens and
underscores, is one of two things: four numbers in decimal between dots, or a
name of two or more labels. The last label tells them apart, so an address
with a wrong number in it is no name either. The grammar is stated here with
written numbers and labels; neither the recognizers nor the patterns occur in
it.
-/

/-- A letter, a digit, a dot, a hyphen or an underscore. -/
def isPlainChar (c : Char) : Bool :=
  isLetterOrDigit c || c == '.' || c == '-' || c == '_'

/-- Four numbers up to 255 in decimal, with dots between them. -/
def IsDottedQuad (text : String) : Prop :=
  ∃ octets : List Nat,
    octets.length = 4 ∧
      (∀ octet ∈ octets, octet ≤ 255) ∧
        text = String.intercalate "." (octets.map toString)

/-- One to 63 letters, digits and hyphens, no hyphen at either end. -/
structure IsDomainLabel (label : String) : Prop where
  notEmpty : 1 ≤ label.length
  short : label.length ≤ 63
  characters : ∀ c ∈ label.toList, isLetterOrDigit c = true ∨ c = '-'
  opens : label.toList.head? ≠ some '-'
  closes : label.toList.getLast? ≠ some '-'

/--
Two or more labels with dots between them, the last one not of digits only, in
at most 253 characters; one more dot may stand behind them.
-/
def IsQualifiedName (text : String) : Prop :=
  ∃ labels : List String,
    2 ≤ labels.length ∧
      (∀ label ∈ labels, IsDomainLabel label) ∧
        (∀ last ∈ labels.getLast?, ∃ c ∈ last.toList, isDigit c = false) ∧
          (String.intercalate "." labels).length ≤ 253 ∧
            (text = String.intercalate "." labels ∨
              text = String.intercalate "." labels ++ ".")

/-- The octets are the decimals of the numbers up to 255. -/
theorem isOctet_iff_toDigits (text : List Char) :
    isOctet text = true ↔ ∃ value ≤ 255, text = Nat.toDigits 10 value := by
  constructor
  · intro octet
    obtain ⟨notEmpty, -, digits, canonical, bounded⟩ :=
      (isOctet_eq_true_iff text).1 octet
    refine ⟨decimalValue text, bounded, ?_⟩
    obtain ⟨first, rest, rfl⟩ := List.exists_cons_of_ne_nil notEmpty
    by_cases leading : first = '0'
    · have alone : rest = [] := by simpa [leading] using canonical
      rw [leading, alone]
      rfl
    · rw [toDigits_decimalValue leading digits]
  · rintro ⟨value, small, rfl⟩
    induction value using Nat.strongRecOn with
    | ind value inductionHypothesis =>
        by_cases large : 10 ≤ value
        · have shorter :=
            inductionHypothesis (value / 10) (by omega) (by omega)
          have lastSmall : value % 10 < 10 := Nat.mod_lt value (by omega)
          rw [toDigits_eq_append large, isOctet_append_singleton_iff shorter,
            decimalValue_toDigits, digitValue_digitChar lastSmall]
          exact ⟨isDigit_digitChar lastSmall, by omega, by omega⟩
        · rw [Nat.toDigits_of_lt_base (by omega)]
          exact isOctet_singleton (isDigit_digitChar (by omega))

theorem toList_toString (value : Nat) :
    (toString value).toList = Nat.toDigits 10 value :=
  Nat.toList_repr

/-- A decimal holds no dot. -/
theorem whole_toString (value : Nat) : '.' ∉ (toString value).toList := by
  intro listed
  rw [toList_toString] at listed
  exact absurd
    (Nat.isDigit_of_mem_toDigits (by omega) (by omega) listed) (by decide)

/-- Parts without dots are found again between the dots. -/
theorem splitOn_toList_intercalate
    {parts : List String}
    (whole : ∀ part ∈ parts, '.' ∉ part.toList)
    (notEmpty : parts ≠ []) :
    (String.intercalate "." parts).toList.splitOn '.' =
      parts.map String.toList := by
  have pieces : ∀ piece ∈ parts.map String.toList, '.' ∉ piece := by
    intro piece listed
    obtain ⟨part, isPart, rfl⟩ := List.mem_map.1 listed
    exact whole part isPart
  rw [String.toList_intercalate]
  exact List.splitOn_intercalate '.' pieces (by simpa using notEmpty)

theorem map_toList_map_ofList (pieces : List (List Char)) :
    (pieces.map String.ofList).map String.toList = pieces := by
  rw [List.map_map]
  exact (List.map_congr_left fun piece _ =>
    String.toList_ofList).trans (List.map_id pieces)

/-- A text is made up of what stands between its dots. -/
theorem intercalate_map_ofList (text : List Char) :
    String.intercalate "." ((text.splitOn '.').map String.ofList) =
      String.ofList text := by
  rw [← String.toList_inj, String.toList_intercalate,
    map_toList_map_ofList]
  exact (List.intercalate_splitOn '.').trans String.toList_ofList.symm

/-- Dotted addresses are four numbers in decimal. -/
theorem isIpv4_iff_isDottedQuad (text : String) :
    isIpv4 text.toList = true ↔ IsDottedQuad text := by
  simp only [isIpv4, Bool.and_eq_true, beq_iff_eq, List.all_eq_true]
  constructor
  · rintro ⟨four, octets⟩
    have written :
        ((text.toList.splitOn '.').map decimalValue).map toString =
          (text.toList.splitOn '.').map String.ofList := by
      rw [List.map_map]
      refine List.map_congr_left fun piece isPiece => ?_
      obtain ⟨value, -, rfl⟩ := (isOctet_iff_toDigits piece).1
        (octets piece isPiece)
      rw [← String.toList_inj, String.toList_ofList, Function.comp_apply,
        decimalValue_toDigits, toList_toString]
    refine ⟨(text.toList.splitOn '.').map decimalValue,
      by simpa using four, ?_, ?_⟩
    · intro octet listed
      obtain ⟨piece, isPiece, rfl⟩ := List.mem_map.1 listed
      obtain ⟨-, -, -, -, bounded⟩ :=
        (isOctet_eq_true_iff piece).1 (octets piece isPiece)
      exact bounded
    · rw [written, intercalate_map_ofList, String.ofList_toList]
  · rintro ⟨octets, four, small, rfl⟩
    have whole :
        ∀ part ∈ octets.map toString, '.' ∉ part.toList := by
      intro part isPart
      obtain ⟨octet, -, rfl⟩ := List.mem_map.1 isPart
      exact whole_toString octet
    have notEmpty : octets.map toString ≠ [] :=
      List.ne_nil_of_length_pos (by rw [List.length_map]; omega)
    rw [splitOn_toList_intercalate whole notEmpty]
    refine ⟨by simpa using four, ?_⟩
    intro piece isPiece
    simp only [List.mem_map] at isPiece
    obtain ⟨-, ⟨octet, listed, rfl⟩, rfl⟩ := isPiece
    rw [toList_toString]
    exact (isOctet_iff_toDigits _).2 ⟨octet, small octet listed, rfl⟩

/-- The grammar of labels is the check of labels. -/
theorem isDomainLabel_iff (label : String) :
    IsDomainLabel label ↔ isLabel label.toList = true := by
  have characters (c : Char) :
      isLabelChar c = true ↔ isLetterOrDigit c = true ∨ c = '-' := by
    simp only [isLabelChar, Bool.or_eq_true, beq_iff_eq]
  have someLength : 1 ≤ label.length ↔ label.toList ≠ [] :=
    List.length_pos_iff
  rw [isLabel_eq_true_iff]
  simp only [characters, ← someLength]
  constructor
  · rintro ⟨notEmpty, short, characters, opens, closes⟩
    exact ⟨notEmpty, short, characters, opens, closes⟩
  · rintro ⟨notEmpty, short, characters, opens, closes⟩
    exact ⟨notEmpty, short, characters, opens, closes⟩

/-- A label holds no dot. -/
theorem IsDomainLabel.whole
    {label : String}
    (sound : IsDomainLabel label) :
    '.' ∉ label.toList := fun listed =>
  absurd (sound.characters '.' listed) (by decide)

/-- The last label of a name is no numeral if one of its characters is no digit. -/
theorem isQualified_iff
    {labels : List String}
    (several : 2 ≤ labels.length) :
    isQualified (labels.map String.toList) = true ↔
      ∀ last ∈ labels.getLast?, ∃ c ∈ last.toList, isDigit c = false := by
  have notEmpty : labels ≠ [] := List.ne_nil_of_length_pos (by omega)
  simp [isQualified, several, List.getLast?_eq_some_getLast notEmpty]

/-- Domain names are qualified names. -/
theorem isDomainName_iff_isQualifiedName (text : String) :
    isDomainName text.toList = true ↔ IsQualifiedName text := by
  simp only [isDomainName, Bool.and_eq_true, decide_eq_true_eq,
    List.all_eq_true]
  constructor
  · rintro ⟨⟨short, labels⟩, qualified⟩
    have joined := intercalate_map_ofList (withoutFinalDot text.toList)
    have pieces := map_toList_map_ofList
      ((withoutFinalDot text.toList).splitOn '.')
    have several :
        2 ≤ ((withoutFinalDot text.toList).splitOn '.').length := by
      simp only [isQualified, Bool.and_eq_true, decide_eq_true_eq] at qualified
      exact qualified.1
    refine ⟨((withoutFinalDot text.toList).splitOn '.').map
      String.ofList, by simpa using several, ?_, ?_, ?_, ?_⟩
    · intro label listed
      obtain ⟨piece, isPiece, rfl⟩ := List.mem_map.1 listed
      rw [isDomainLabel_iff, String.toList_ofList]
      exact labels piece isPiece
    · rw [← isQualified_iff (by simpa using several), pieces]
      exact qualified
    · rw [joined, String.length_ofList]
      exact short
    · rw [joined]
      refine (eq_withoutFinalDot text.toList).imp (fun same => ?_)
        fun dotted => ?_
      · rw [← same, String.ofList_toList]
      · rw [← String.toList_inj, String.toList_append, String.toList_ofList]
        exact dotted
  · rintro ⟨labels, several, sound, top, short, shape⟩
    have whole : ∀ label ∈ labels, '.' ∉ label.toList :=
      fun label listed => (sound label listed).whole
    have notEmpty : labels ≠ [] := List.ne_nil_of_length_pos (by omega)
    have split := splitOn_toList_intercalate whole notEmpty
    have allLabels :
        ∀ piece ∈ (String.intercalate "." labels).toList.splitOn '.',
          isLabel piece = true := by
      intro piece isPiece
      rw [split] at isPiece
      obtain ⟨label, listed, rfl⟩ := List.mem_map.1 isPiece
      exact (isDomainLabel_iff label).1 (sound label listed)
    have name :
        withoutFinalDot text.toList =
          (String.intercalate "." labels).toList := by
      rcases shape with rfl | rfl
      · exact withoutFinalDot_of_ne (getLast?_ne_of_labels allLabels)
      · rw [String.toList_append]
        exact withoutFinalDot_concat _
    rw [name]
    exact ⟨⟨short, allLabels⟩, split ▸ (isQualified_iff several).2 top⟩

/-- An address in colon-separated form has a colon. -/
theorem isIpv6_eq_false_of_whole
    {text : List Char}
    (whole : ':' ∉ text) :
    isIpv6 text = false := by
  simp only [isIpv6, splitAtGap?_of_whole whole]
  by_cases empty : text = []
  · rw [empty]
    rfl
  · rw [colonPieces_of_whole empty whole, finalGroupCount?_singleton]
    cases isIpv4 text <;> cases isGroup text <;> rfl

/-- A colon is not plain, so no address with colons is. -/
theorem colonless_of_plain
    {text : List Char}
    (plain : ∀ c ∈ text, isPlainChar c = true) :
    ':' ∉ text := fun listed =>
  absurd (plain ':' listed) (by decide)

/-- What is made of digits and dots is no name: its last label is a number. -/
theorem not_isQualifiedName_of_numeric
    {text : String}
    (numeric : ∀ c ∈ text.toList, isDigit c = true ∨ c = '.') :
    ¬IsQualifiedName text := by
  rintro ⟨labels, several, sound, top, -, shape⟩
  have notEmpty : labels ≠ [] := List.ne_nil_of_length_pos (by omega)
  have isLast := List.getLast?_eq_some_getLast notEmpty
  obtain ⟨c, inLast, notDigit⟩ := top _ isLast
  have listed := List.mem_of_getLast? isLast
  have inText : c ∈ text.toList := by
    have split :=
      splitOn_toList_intercalate
        (fun label member => (sound label member).whole) notEmpty
    have isPiece :
        (labels.getLast notEmpty).toList ∈
          (String.intercalate "." labels).toList.splitOn '.' :=
      split ▸ List.mem_map_of_mem listed
    have inName := mem_of_mem_splitOn isPiece inLast
    rcases shape with rfl | rfl
    · exact inName
    · rw [String.toList_append]
      exact List.mem_append_left _ inName
  rcases numeric c inText with digit | rfl
  · rw [digit] at notDigit
    cases notDigit
  · exact absurd ((sound _ listed).characters '.' inLast) (by decide)

/-- What becomes of a text of plain characters where a host is asked for. -/
structure PlainHostLaw (text : String) : Prop where
  /-- The patterns, and a look at the last label, decide. -/
  patterns :
    isHost text = true ↔
      text.toList ∈ Pattern.address ∨
        (text.toList ∈ Pattern.name ∧ text.toList ∈ Pattern.bounded) ∧
          Pattern.Qualified text.toList
  /-- The hosts are the dotted addresses and the qualified names. -/
  grammar : isHost text = true ↔ IsDottedQuad text ∨ IsQualifiedName text
  /-- Digits and dots alone are a host as an address only. -/
  numeric :
    (∀ c ∈ text.toList, isDigit c = true ∨ c = '.') →
      (isHost text = true ↔ IsDottedQuad text)
  /-- A field takes the hosts, and takes them as they stand. -/
  unchanged :
    ∀ accepted,
      (FieldKind.text (some .host)).accept? (.str text) = some accepted ↔
        isHost text = true ∧ accepted = .text text

/-- The hosts among the texts of plain characters. -/
theorem plainHostLaw
    {text : String}
    (plain : ∀ c ∈ text.toList, isPlainChar c = true) :
    PlainHostLaw text := by
  have noColons :
      isHost text = true ↔
        isIpv4 text.toList = true ∨ isDomainName text.toList = true := by
    simp [isHost, isAddressText_eq_isIpv6,
      isIpv6_eq_false_of_whole (colonless_of_plain plain)]
  have grammar :
      isHost text = true ↔ IsDottedQuad text ∨ IsQualifiedName text := by
    rw [noColons, isIpv4_iff_isDottedQuad, isDomainName_iff_isQualifiedName]
  refine ⟨?_, grammar, ?_, ?_⟩
  · rw [noColons, ← Pattern.mem_address_iff, Pattern.isDomainName_iff]
  · intro numeric
    rw [grammar, or_iff_left (not_isQualifiedName_of_numeric numeric)]
  · intro accepted
    rw [FieldKind.accept?_eq_some_iff]
    constructor
    · rintro (_ | ⟨content, host⟩)
      exact ⟨host, rfl⟩
    · rintro ⟨host, rfl⟩
      exact .host text host

/-- A number that is too great makes no address, and a numeric end no name. -/
theorem plainHostLaw_mistyped :
    (∀ c ∈ "10.0.0.300".toList, isPlainChar c = true) ∧
      PlainHostLaw "10.0.0.300" := by
  have plain : ∀ c ∈ "10.0.0.300".toList, isPlainChar c = true :=
    List.all_eq_true.1 (by decide)
  exact ⟨plain, plainHostLaw plain⟩

example : isHost "10.0.0.300" = false := by
  decide

end StorageBackends.Host
