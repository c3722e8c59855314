import Mathlib.Computability.Language
import StorageBackends.Proofs.Host.HostText

namespace StorageBackends.Host

open Computability StorageBackends.Text

/-!
# Hosts as patterns

Dotted addresses and the names of hosts are also given as patterns: classes of
characters that follow one another, stand side by side as alternatives or are
repeated. A pattern is the language of the texts that it matches as a whole.
The recognizers, which split a text and look at its pieces, accept exactly the
texts that the patterns match.
-/

namespace Pattern

/-- One character of a class. -/
def one (test : Char → Bool) : Language Char :=
  {text | ∃ c, test c = true ∧ text = [c]}

/-- One certain character. -/
def char (expected : Char) : Language Char :=
  one (· == expected)

/-- One character between two others. -/
def between (least greatest : Char) : Language Char :=
  one fun c => least ≤ c && c ≤ greatest

/-- A part that may be left out. -/
def optional (part : Language Char) : Language Char :=
  1 + part

/-- A part up to some number of times. -/
def atMost (count : Nat) (part : Language Char) : Language Char :=
  optional part ^ count

/-- The end of a line, which no wildcard matches. -/
def isLineEnd (c : Char) : Bool :=
  c == '\n' || c == '\r' || c.toNat == 0x2028 || c.toNat == 0x2029

/-- `25[0-5]|2[0-4][0-9]|1[0-9][0-9]|[1-9][0-9]|[0-9]` -/
def octet : Language Char :=
  char '2' * char '5' * between '0' '5' +
    char '2' * between '0' '4' * between '0' '9' +
    char '1' * between '0' '9' * between '0' '9' +
    between '1' '9' * between '0' '9' +
    between '0' '9'

/-- `(octet\.){3}octet` -/
def address : Language Char :=
  (octet * char '.') ^ 3 * octet

/-- `[a-zA-Z0-9]([a-zA-Z0-9-]{0,61}[a-zA-Z0-9])?` -/
def label : Language Char :=
  one isLetterOrDigit *
    optional (atMost 61 (one isLabelChar) * one isLetterOrDigit)

/-- `label(\.label)*\.?` -/
def name : Language Char :=
  label * (char '.' * label)∗ * optional (char '.')

/-- `.{1,253}\.?`, which looks ahead of a name to the end of the text. -/
def bounded : Language Char :=
  one (!isLineEnd ·) * atMost 252 (one (!isLineEnd ·)) * optional (char '.')

/-- `[0-9]+` -/
def numeral : Language Char :=
  one isDigit * (one isDigit)∗

variable {test : Char → Bool} {part : Language Char}

theorem cons_mem_one_iff (c : Char) (rest : List Char) :
    c :: rest ∈ one test ↔ test c = true ∧ rest = [] := by
  constructor
  · rintro ⟨other, passes, same⟩
    cases same
    exact ⟨passes, rfl⟩
  · rintro ⟨passes, rfl⟩
    exact ⟨c, passes, rfl⟩

theorem nil_not_mem_one : [] ∉ one test := by
  rintro ⟨c, -, same⟩
  cases same

/--
A pattern that starts with one character takes it from the front of a text.
-/
theorem cons_mem_one_mul_iff (c : Char) (rest : List Char) :
    c :: rest ∈ one test * part ↔ test c = true ∧ rest ∈ part := by
  rw [Language.mem_mul]
  constructor
  · rintro ⟨_, ⟨other, passes, rfl⟩, behind, inPart, joined⟩
    cases joined
    exact ⟨passes, inPart⟩
  · rintro ⟨passes, inPart⟩
    exact ⟨[c], ⟨c, passes, rfl⟩, rest, inPart, rfl⟩

theorem nil_not_mem_one_mul : [] ∉ one test * part := by
  rw [Language.mem_mul]
  rintro ⟨_, ⟨c, -, rfl⟩, behind, -, joined⟩
  cases joined

/-- A pattern that ends with one character takes it from the end of a text. -/
theorem append_singleton_mem_mul_one_iff (front : List Char) (c : Char) :
    front ++ [c] ∈ part * one test ↔ front ∈ part ∧ test c = true := by
  rw [Language.mem_mul]
  constructor
  · rintro ⟨before, inPart, _, ⟨other, passes, rfl⟩, joined⟩
    obtain ⟨sameFront, sameLast⟩ := List.append_inj' joined rfl
    cases sameLast
    exact ⟨sameFront ▸ inPart, passes⟩
  · rintro ⟨inPart, passes⟩
    exact ⟨front, inPart, [c], ⟨c, passes, rfl⟩, rfl⟩

theorem mem_optional_iff (text : List Char) :
    text ∈ optional part ↔ text = [] ∨ text ∈ part := by
  rw [optional, Language.mem_add, Language.mem_one]

/-- What may end in one more character. -/
theorem mem_mul_optional_char_iff (last : Char) (text : List Char) :
    text ∈ part * optional (char last) ↔
      ∃ front ∈ part, text = front ∨ text = front ++ [last] := by
  rw [Language.mem_mul]
  constructor
  · rintro ⟨front, inPart, behind, ending, rfl⟩
    refine ⟨front, inPart, ?_⟩
    rcases (mem_optional_iff behind).1 ending with rfl | ⟨c, isLast, rfl⟩
    · exact Or.inl (List.append_nil front)
    · exact Or.inr (by rw [beq_iff_eq.1 isLast])
  · rintro ⟨front, inPart, rfl | rfl⟩
    · exact ⟨text, inPart, [], (mem_optional_iff []).2 (Or.inl rfl),
        List.append_nil text⟩
    · exact ⟨front, inPart, [last],
        (mem_optional_iff _).2 (Or.inr ⟨last, beq_self_eq_true last, rfl⟩),
        rfl⟩

/-- A bounded repetition of a class bounds the length. -/
theorem mem_atMost_one_iff (count : Nat) (text : List Char) :
    text ∈ atMost count (one test) ↔
      text.length ≤ count ∧ ∀ c ∈ text, test c = true := by
  induction count generalizing text with
  | zero =>
      rw [atMost, pow_zero, Language.mem_one, Nat.le_zero,
        List.length_eq_zero_iff]
      constructor
      · rintro rfl
        simp
      · exact And.left
  | succ count inductionHypothesis =>
      have unrolled :
          atMost (count + 1) (one test) =
            atMost count (one test) + one test * atMost count (one test) := by
        rw [atMost, pow_succ', optional, add_mul, one_mul]
        rfl
      rw [unrolled, Language.mem_add, inductionHypothesis]
      cases text with
      | nil => simp
      | cons c rest =>
          rw [cons_mem_one_mul_iff, inductionHypothesis, List.length_cons,
            List.forall_mem_cons]
          constructor
          · rintro (⟨short, passes⟩ | ⟨passes, short, others⟩)
            · exact ⟨by omega, passes⟩
            · exact ⟨by omega, passes, others⟩
          · rintro ⟨short, passes, others⟩
            exact Or.inr ⟨passes, by omega, others⟩

/-! Parts that hold no separator are found again between separators. -/

section Separated

variable {separator : Char}

/-- The first separator ends the first part. -/
theorem append_cons_mem_mul_iff
    {item : Language Char}
    (whole : ∀ text ∈ item, separator ∉ text)
    {piece : List Char}
    (wholePiece : separator ∉ piece)
    (rest : List Char) :
    piece ++ separator :: rest ∈ item * (char separator * part) ↔
      piece ∈ item ∧ rest ∈ part := by
  rw [Language.mem_mul]
  constructor
  · rintro ⟨first, inItem, behind, continues, joined⟩
    cases behind with
    | nil => exact absurd continues nil_not_mem_one_mul
    | cons c others =>
        obtain ⟨isSeparator, inPart⟩ := (cons_mem_one_mul_iff c others).1 continues
        rw [beq_iff_eq.1 isSeparator,
          append_cons_inj_of_not_mem (whole first inItem) wholePiece] at joined
        exact ⟨joined.1 ▸ inItem, joined.2 ▸ inPart⟩
  · rintro ⟨inItem, inPart⟩
    exact ⟨piece, inItem, separator :: rest,
      (cons_mem_one_mul_iff separator rest).2
        ⟨beq_self_eq_true separator, inPart⟩, rfl⟩

/-- A text without the separator matches no pattern that asks for one. -/
theorem not_mem_mul_of_whole
    {item : Language Char}
    {piece : List Char}
    (wholePiece : separator ∉ piece) :
    piece ∉ item * (char separator * part) := by
  rw [Language.mem_mul]
  rintro ⟨first, -, behind, continues, rfl⟩
  cases behind with
  | nil => exact nil_not_mem_one_mul continues
  | cons c others =>
      obtain ⟨isSeparator, -⟩ := (cons_mem_one_mul_iff c others).1 continues
      exact wholePiece (by simp [beq_iff_eq.1 isSeparator])

/-- A counted repetition behind separators counts the pieces. -/
theorem mem_counted_iff
    {item : Language Char}
    (whole : ∀ text ∈ item, separator ∉ text)
    (count : Nat)
    (text : List Char) :
    text ∈ (item * char separator) ^ count * item ↔
      (text.splitOn separator).length = count + 1 ∧
        ∀ piece ∈ text.splitOn separator, piece ∈ item := by
  induction count generalizing text with
  | zero =>
      rw [pow_zero, one_mul]
      constructor
      · intro inItem
        simpa [List.splitOn_eq_singleton (whole text inItem)] using inItem
      · rintro ⟨single, items⟩
        obtain ⟨piece, split⟩ := List.length_eq_one_iff.1 single
        have joined := (List.intercalate_splitOn separator : _ = text)
        rw [split, List.intercalate_singleton] at joined
        rw [← joined]
        exact items piece (by simp [split])
  | succ count inductionHypothesis =>
      have unrolled :
          (item * char separator) ^ (count + 1) * item =
            item * (char separator *
              ((item * char separator) ^ count * item)) := by
        rw [pow_succ', mul_assoc, mul_assoc]
      rw [unrolled]
      induction text using pieces_induction separator with
      | last piece wholePiece =>
          simp [List.splitOn_eq_singleton wholePiece,
            not_mem_mul_of_whole wholePiece]
      | step piece rest wholePiece _ =>
          rw [append_cons_mem_mul_iff whole wholePiece, inductionHypothesis,
            List.splitOn_append_cons_self_of_not_mem wholePiece,
            List.length_cons, List.forall_mem_cons, Nat.add_right_cancel_iff]
          tauto

/-- A free repetition behind separators takes any number of pieces. -/
theorem mem_separated_iff
    {item : Language Char}
    (whole : ∀ text ∈ item, separator ∉ text)
    (text : List Char) :
    text ∈ item * (char separator * item)∗ ↔
      ∀ piece ∈ text.splitOn separator, piece ∈ item := by
  have unrolled :
      item * (char separator * item)∗ =
        item + item * (char separator *
          (item * (char separator * item)∗)) := by
    conv_lhs => rw [← Language.one_add_self_mul_kstar_eq_kstar]
    rw [mul_add, mul_one, mul_assoc]
  induction text using pieces_induction separator with
  | last piece wholePiece =>
      rw [unrolled, Language.mem_add, List.splitOn_eq_singleton wholePiece]
      simp [not_mem_mul_of_whole wholePiece]
  | step piece rest wholePiece inductionHypothesis =>
      have notItem : piece ++ separator :: rest ∉ item := fun inItem =>
        whole _ inItem (by simp)
      have behind :
          rest ∈ item * (char separator * item)∗ ↔
            ∀ other ∈ rest.splitOn separator, other ∈ item :=
        inductionHypothesis
      rw [unrolled, Language.mem_add,
        append_cons_mem_mul_iff whole wholePiece, behind,
        List.splitOn_append_cons_self_of_not_mem wholePiece,
        List.forall_mem_cons]
      simp [notItem]

end Separated

theorem le_iff_toNat_le (c other : Char) :
    c ≤ other ↔ c.toNat ≤ other.toNat :=
  UInt32.le_iff_toNat_le

/-- The alternatives are the numbers of three, two and one digits. -/
theorem mem_octet_iff (text : List Char) :
    text ∈ octet ↔ isOctet text = true := by
  have codes :
      '0'.toNat = 48 ∧ '1'.toNat = 49 ∧ '2'.toNat = 50 ∧ '4'.toNat = 52 ∧
        '5'.toNat = 53 ∧ '9'.toNat = 57 := by
    decide
  obtain ⟨zero, one, two, four, five, nine⟩ := codes
  have digitValue_eq : ∀ c, digitValue c = c.toNat - 48 := fun _ => rfl
  rw [isOctet_eq_true_iff]
  simp only [octet, char, between, mul_assoc, Language.mem_add]
  -- By length: the bounds on the codes of the digits decide each of the cases.
  rcases text with _ | ⟨first, _ | ⟨second, _ | ⟨third, _ | ⟨fourth, rest⟩⟩⟩⟩
  · simp [nil_not_mem_one, nil_not_mem_one_mul]
  all_goals
    simp [cons_mem_one_mul_iff, cons_mem_one_iff, nil_not_mem_one,
      nil_not_mem_one_mul, isDigit, le_iff_toNat_le, ← Char.toNat_inj,
      decimalValue, digitValue_eq, zero, one, two, four, five, nine,
      -List.mem_cons, List.forall_mem_cons]
  all_goals omega

/-- Dotted addresses are the texts of their pattern. -/
theorem mem_address_iff (text : List Char) :
    text ∈ address ↔ isIpv4 text = true := by
  have dotless : ∀ text ∈ octet, '.' ∉ text := by
    intro text inOctet listed
    obtain ⟨-, -, digits, -⟩ :=
      (isOctet_eq_true_iff text).1 ((mem_octet_iff text).1 inOctet)
    exact absurd (digits '.' listed) (by decide)
  rw [address, mem_counted_iff dotless, isIpv4, Bool.and_eq_true, beq_iff_eq,
    List.all_eq_true]
  simp only [mem_octet_iff]

/-- Labels are the texts of their pattern. -/
theorem mem_label_iff (text : List Char) :
    text ∈ label ↔ isLabel text = true := by
  cases text with
  | nil => simp [label, nil_not_mem_one_mul, isLabel]
  | cons first rest =>
      rw [label, cons_mem_one_mul_iff, mem_optional_iff,
        ← isLabelChar_and_ne_iff first, isLabel_eq_true_iff]
      rcases List.eq_nil_or_concat rest with rfl | ⟨inner, last, rfl⟩
      · simp [maxLabel, and_comm]
      · have ends : (first :: (inner ++ [last])).getLast? = some last := by
          rw [← List.cons_append, List.getLast?_concat]
        have fits :
            (first :: (inner ++ [last])).length ≤ maxLabel ↔
              inner.length ≤ 61 := by
          rw [List.length_cons, List.length_append, List.length_singleton,
            maxLabel]
          omega
        have characters :
            (∀ c ∈ first :: (inner ++ [last]), isLabelChar c = true) ↔
              isLabelChar first = true ∧
                (∀ c ∈ inner, isLabelChar c = true) ∧
                  isLabelChar last = true := by
          rw [List.forall_mem_cons, List.forall_mem_append,
            List.forall_mem_singleton]
        have notEmpty :
            first :: (inner ++ [last]) ≠ [] ∧ inner ++ [last] ≠ [] := by
          simp
        rw [List.concat_eq_append, append_singleton_mem_mul_one_iff,
          mem_atMost_one_iff, ← isLabelChar_and_ne_iff last, ends, fits,
          characters, List.head?_cons]
        simp only [ne_eq, Option.some.injEq] at notEmpty ⊢
        tauto

/-- Labels between dots. -/
theorem mem_labels_iff (text : List Char) :
    text ∈ label * (char '.' * label)∗ ↔
      ∀ piece ∈ text.splitOn '.', isLabel piece = true := by
  have dotless : ∀ text ∈ label, '.' ∉ text := by
    intro text inLabel listed
    obtain ⟨-, -, characters, -⟩ :=
      (isLabel_eq_true_iff text).1 ((mem_label_iff text).1 inLabel)
    exact absurd (characters '.' listed) (by decide)
  rw [mem_separated_iff dotless]
  simp only [mem_label_iff]

/-- Names are labels between dots, with or without one more dot. -/
theorem mem_name_iff (text : List Char) :
    text ∈ name ↔
      ∀ piece ∈ (withoutFinalDot text).splitOn '.',
        isLabel piece = true := by
  rw [name, mem_mul_optional_char_iff]
  constructor
  · rintro ⟨front, inLabels, shape⟩
    have labels := (mem_labels_iff front).1 inLabels
    rcases shape with rfl | rfl
    · rwa [withoutFinalDot_of_ne (getLast?_ne_of_labels labels)]
    · rwa [withoutFinalDot_concat]
  · intro labels
    exact ⟨withoutFinalDot text, (mem_labels_iff _).2 labels,
      eq_withoutFinalDot text⟩

/--
What the look ahead asks for: a length within bounds, the final dot not
counted, and no end of a line.
-/
theorem mem_bounded_iff (text : List Char) :
    text ∈ bounded ↔
      ∃ front,
        (front ≠ [] ∧ front.length ≤ maxName ∧
            ∀ c ∈ front, isLineEnd c = false) ∧
          (text = front ∨ text = front ++ ['.']) := by
  rw [bounded, mem_mul_optional_char_iff]
  refine exists_congr fun front => and_congr_left fun _ => ?_
  cases front with
  | nil => simp [nil_not_mem_one_mul]
  | cons c rest =>
      have length : rest.length ≤ 252 ↔ (c :: rest).length ≤ maxName :=
        Nat.succ_le_succ_iff.symm
      rw [cons_mem_one_mul_iff, mem_atMost_one_iff, List.forall_mem_cons,
        length]
      simp only [Bool.not_eq_true', ne_eq, reduceCtorEq, not_false_eq_true,
        true_and]
      tauto

/--
Host characters end no line, so the look ahead reaches the end of a host.
-/
theorem isLineEnd_of_isHostChar
    {c : Char}
    (allowed : isHostChar c = true) :
    isLineEnd c = false := by
  obtain ⟨least, greatest⟩ := bounds_of_isHostChar allowed
  have noBreak : c ≠ '\n' ∧ c ≠ '\r' := by
    constructor <;>
    · rintro rfl
      exact absurd allowed (by decide)
  simp only [isLineEnd, Bool.or_eq_false_iff, beq_eq_false_iff_ne]
  exact ⟨⟨noBreak, by omega⟩, by omega⟩

/-- A name that ends in time is one whose labels end in time. -/
theorem mem_name_and_bounded_iff (text : List Char) :
    text ∈ name ∧ text ∈ bounded ↔
      (withoutFinalDot text).length ≤ maxName ∧
        ∀ piece ∈ (withoutFinalDot text).splitOn '.',
          isLabel piece = true := by
  rw [mem_name_iff, mem_bounded_iff]
  refine and_comm.trans (and_congr_left fun labels => ?_)
  constructor
  · rintro ⟨front, ⟨-, short, -⟩, rfl | rfl⟩
    · exact Nat.le_trans (length_withoutFinalDot_le text) short
    · rwa [withoutFinalDot_concat]
  · intro short
    refine ⟨withoutFinalDot text, ⟨?_, short, ?_⟩, eq_withoutFinalDot text⟩
    · intro empty
      rw [empty] at labels
      exact absurd (labels [] (by simp)) (by decide)
    · intro c listed
      exact isLineEnd_of_isHostChar (isHostChar_of_labels labels c listed)

/-- A repeated character takes the texts that are made of such characters. -/
theorem mem_kstar_one_iff (text : List Char) :
    text ∈ (one test)∗ ↔ ∀ c ∈ text, test c = true := by
  rw [Language.mem_kstar]
  constructor
  · rintro ⟨parts, rfl, inClass⟩ c listed
    obtain ⟨part, isPart, inPart⟩ := List.mem_flatten.1 listed
    obtain ⟨other, passes, rfl⟩ := inClass part isPart
    rwa [List.mem_singleton.1 inPart]
  · intro passes
    refine ⟨text.map fun c => [c], by simp [← List.flatMap_def], ?_⟩
    intro part isPart
    obtain ⟨c, listed, rfl⟩ := List.mem_map.1 isPart
    exact ⟨c, passes c listed, rfl⟩

/-- A numeral is one digit or more. -/
theorem mem_numeral_iff (text : List Char) :
    text ∈ numeral ↔ text ≠ [] ∧ ∀ c ∈ text, isDigit c = true := by
  cases text with
  | nil => simp [numeral, nil_not_mem_one_mul]
  | cons c rest =>
      rw [numeral, cons_mem_one_mul_iff, mem_kstar_one_iff,
        List.forall_mem_cons]
      simp

/-- Two labels or more, the last of which is no numeral. -/
structure Qualified (text : List Char) : Prop where
  labels : 2 ≤ ((withoutFinalDot text).splitOn '.').length
  top :
    ∀ last ∈ ((withoutFinalDot text).splitOn '.').getLast?,
      last ∉ numeral

/-- Qualified domain names are the names of bounded length that are qualified. -/
theorem isDomainName_iff (text : List Char) :
    isDomainName text = true ↔
      (text ∈ name ∧ text ∈ bounded) ∧ Qualified text := by
  rw [mem_name_and_bounded_iff]
  simp only [isDomainName, Bool.and_eq_true, decide_eq_true_eq,
    List.all_eq_true]
  refine and_congr_right fun named => ?_
  have labels := named.2
  generalize isTop : (withoutFinalDot text).splitOn '.' = pieces
    at labels
  have qualified :
      isQualified pieces = true ↔
        2 ≤ pieces.length ∧ ∀ last ∈ pieces.getLast?, last ∉ numeral := by
    cases last : pieces.getLast? with
    | none =>
        rw [List.getLast?_eq_none_iff.1 last]
        simp [isQualified]
    | some top =>
        have notEmpty : top ≠ [] :=
          ((isLabel_eq_true_iff top).1
            (labels top (List.mem_of_getLast? last))).1
        simp [isQualified, last, mem_numeral_iff, notEmpty]
  rw [qualified]
  constructor
  · rintro ⟨several, top⟩
    exact ⟨isTop ▸ several, isTop ▸ top⟩
  · rintro ⟨several, top⟩
    exact ⟨isTop ▸ several, isTop ▸ top⟩

end Pattern

end StorageBackends.Host
