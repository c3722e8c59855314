import StorageBackends.Host.Ipv4
import StorageBackends.Proofs.Text.Decimal
import StorageBackends.Proofs.Text.Splitting

namespace StorageBackends

/-!
# Reading dotted addresses

A dotted address is recognized by splitting it at its dots and by looking at
each octet as a whole. A reader that goes through the text once, with the
number it is in as its only memory, recognizes the same addresses.
-/

namespace Host

open StorageBackends.Text

/--
What makes a number of a dotted address: no zero in front, and 255 at most.
-/
theorem isOctet_eq_true_iff (text : List Char) :
    isOctet text = true ↔
      text ≠ [] ∧
        text.length ≤ 3 ∧
          (∀ c ∈ text, isDigit c = true) ∧
            (text.length = 1 ∨ text.head? ≠ some '0') ∧
              decimalValue text ≤ 255 := by
  simp [isOctet, and_assoc]

theorem isOctet_singleton
    {c : Char}
    (digit : isDigit c = true) :
    isOctet [c] = true := by
  have bounds : c.toNat ≤ '9'.toNat := by
    simp only [isDigit, Bool.and_eq_true, decide_eq_true_eq] at digit
    exact digit.2
  have value : decimalValue [c] ≤ 255 := by
    have nine : '9'.toNat = 57 := rfl
    simp only [decimalValue, List.foldl_cons, List.foldl_nil, digitValue]
    omega
  simpa [isOctet, digit] using value

/-- What an octet begins with is an octet. -/
theorem isOctet_of_append
    {front rest : List Char}
    (notEmpty : front ≠ [])
    (octet : isOctet (front ++ rest) = true) :
    isOctet front = true := by
  rw [isOctet_eq_true_iff] at octet ⊢
  obtain ⟨-, short, digits, canonical, bounded⟩ := octet
  have length : (front ++ rest).length = front.length + rest.length :=
    List.length_append
  have someLength : 0 < front.length := List.length_pos_iff.2 notEmpty
  refine ⟨notEmpty, by omega, ?_, ?_, ?_⟩
  · exact fun c listed => digits c (List.mem_append_left _ listed)
  · rw [List.head?_append_of_ne_nil _ notEmpty] at canonical
    exact canonical.imp_left fun single => by omega
  · exact Nat.le_trans (decimalValue_le_append front rest) bounded

/--
One more digit makes an octet of an octet that is not zero, as long as the
value stays in its bounds; that there are no four digits follows.
-/
theorem isOctet_append_singleton_iff
    {digits : List Char}
    (octet : isOctet digits = true)
    (c : Char) :
    isOctet (digits ++ [c]) = true ↔
      isDigit c = true ∧
        decimalValue digits ≠ 0 ∧
          10 * decimalValue digits + digitValue c ≤ 255 := by
  obtain ⟨notEmpty, short, allDigits, canonical, -⟩ :=
    (isOctet_eq_true_iff digits).1 octet
  obtain ⟨first, rest, rfl⟩ := List.exists_cons_of_ne_nil notEmpty
  have firstDigit : isDigit first = true := allDigits first (by simp)
  rw [isOctet_eq_true_iff, decimalValue_append_singleton]
  constructor
  · rintro ⟨-, -, digitsToo, canonicalToo, bounded⟩
    have nonzero : first ≠ '0' := by simpa using canonicalToo
    have positive := pow_length_le_decimalValue firstDigit nonzero rest
    have power : 0 < 10 ^ rest.length := Nat.pos_of_ne_zero (by simp)
    exact ⟨digitsToo c (by simp), by omega, bounded⟩
  · rintro ⟨digit, notZero, bounded⟩
    have nonzero : first ≠ '0' := by
      rintro rfl
      rcases canonical with single | leads
      · have alone : rest = [] := by simpa using single
        exact notZero (by rw [alone]; rfl)
      · exact leads rfl
    have small : rest.length < 2 := by
      by_contra long
      have power : 10 ^ 2 ≤ 10 ^ rest.length :=
        Nat.pow_le_pow_right (by omega) (by omega)
      have least := pow_length_le_decimalValue firstDigit nonzero rest
      omega
    refine ⟨by simp, by simp; omega, ?_, Or.inr (by simpa using nonzero),
      bounded⟩
    simp only [List.mem_append, List.mem_singleton]
    rintro other (inDigits | rfl)
    · exact allDigits other inDigits
    · exact digit

/-- The characters of a dotted address are digits and dots. -/
theorem isDigit_or_dot_of_isIpv4
    {text : List Char}
    (dotted : isIpv4 text = true)
    {c : Char}
    (listed : c ∈ text) :
    isDigit c = true ∨ c = '.' := by
  simp only [isIpv4, Bool.and_eq_true, List.all_eq_true] at dotted
  rcases eq_or_mem_piece '.' listed with isDot | ⟨octet, isPiece, inOctet⟩
  · exact Or.inr isDot
  · obtain ⟨-, -, digits, -⟩ :=
      (isOctet_eq_true_iff octet).1 (dotted.2 octet isPiece)
    exact Or.inl (digits c inOctet)

/-- The first octet of a dotted address has at most three digits. -/
theorem isIpv4_append_eq_false
    {front : List Char}
    (whole : '.' ∉ front)
    (long : 3 < front.length)
    (rest : List Char) :
    isIpv4 (front ++ rest) = false := by
  rw [Bool.eq_false_iff]
  intro dotted
  obtain ⟨first, others, split⟩ :=
    List.exists_cons_of_ne_nil (List.splitOn_ne_nil '.' rest)
  simp only [isIpv4, Bool.and_eq_true, splitOn_append whole split,
    List.all_cons, isOctet_eq_true_iff, List.length_append] at dotted
  omega

/-- A dotted address has dots. -/
theorem isIpv4_eq_false_of_whole
    {text : List Char}
    (whole : '.' ∉ text) :
    isIpv4 text = false := by
  simp [isIpv4, List.splitOn_eq_singleton whole]

/--
Read the rest of a dotted address: how many numbers ended before, and the
value of the number that the reader is in, if it has a digit.
-/
def readNumbers : Nat → Option Nat → List Char → Bool
  | seen, number, [] => number.isSome && seen + 1 == 4
  | seen, number, c :: rest =>
      if isDigit c then
        match number with
        | none => readNumbers seen (some (digitValue c)) rest
        | some value =>
            value != 0 && 10 * value + digitValue c ≤ 255 &&
              readNumbers seen (some (10 * value + digitValue c)) rest
      else
        c == '.' && number.isSome && seen + 1 < 4 &&
          readNumbers (seen + 1) none rest

/-- Inside a number, the reader goes on to the end of the octet. -/
theorem readNumbers_some_append
    (seen : Nat)
    {digits piece : List Char}
    (octet : isOctet digits = true)
    (whole : '.' ∉ piece)
    (rest : List Char) :
    readNumbers seen (some (decimalValue digits)) (piece ++ rest) =
      (isOctet (digits ++ piece) &&
        readNumbers seen (some (decimalValue (digits ++ piece))) rest) := by
  induction piece generalizing digits with
  | nil => simp [octet]
  | cons c others inductionHypothesis =>
      obtain ⟨notDot, remaining⟩ :=
        List.ne_and_not_mem_of_not_mem_cons whole
      have grown : digits ++ c :: others = digits ++ [c] ++ others := by simp
      cases longer : isOctet (digits ++ [c]) with
      | true =>
          obtain ⟨digit, notZero, bounded⟩ :=
            (isOctet_append_singleton_iff octet c).1 longer
          rw [grown, ← inductionHypothesis longer remaining,
            decimalValue_append_singleton]
          simp [readNumbers, digit, notZero, bounded]
      | false =>
          have refused : isOctet (digits ++ c :: others) = false := by
            rw [Bool.eq_false_iff, grown]
            intro whole
            rw [isOctet_of_append (by simp) whole] at longer
            cases longer
          rw [refused, Bool.false_and, List.cons_append, readNumbers]
          split
          · rename_i digit
            have stops :
                ¬(decimalValue digits ≠ 0 ∧
                  10 * decimalValue digits + digitValue c ≤ 255) := fun goesOn =>
              Bool.eq_false_iff.1 longer
                ((isOctet_append_singleton_iff octet c).2 ⟨digit, goesOn⟩)
            rw [Bool.and_eq_false_imp]
            intro goesOn
            exact absurd (by simpa using goesOn) stops
          · simp [Ne.symm notDot]

/-- At the start of a number, the reader takes the whole octet. -/
theorem readNumbers_none_append
    (seen : Nat)
    {piece : List Char}
    (whole : '.' ∉ piece)
    (rest : List Char)
    (ends : ∀ c ∈ rest.head?, c = '.') :
    readNumbers seen none (piece ++ rest) =
      (isOctet piece &&
        readNumbers seen (some (decimalValue piece)) rest) := by
  cases piece with
  | nil =>
      cases rest with
      | nil => rfl
      | cons c others =>
          obtain rfl : c = '.' := ends c rfl
          rfl
  | cons c others =>
      obtain ⟨notDot, remaining⟩ :=
        List.ne_and_not_mem_of_not_mem_cons whole
      rw [List.cons_append, readNumbers]
      split
      · rename_i digit
        have value : digitValue c = decimalValue [c] := by simp [decimalValue]
        rw [value]
        exact readNumbers_some_append seen (isOctet_singleton digit)
          remaining rest
      · rename_i notDigit
        have refused : isOctet (c :: others) = false := by
          simp [isOctet, notDigit]
        simp [refused]

/-- The reader counts octets, and nothing else stands between the dots. -/
theorem readNumbers_none (seen : Nat) (text : List Char) :
    readNumbers seen none text =
      ((text.splitOn '.').all isOctet &&
        (text.splitOn '.').length + seen == 4) := by
  induction text using pieces_induction '.' generalizing seen with
  | last piece whole =>
      rw [List.splitOn_eq_singleton whole]
      simpa [readNumbers, Nat.add_comm] using
        readNumbers_none_append seen whole [] (by simp)
  | step piece rest whole inductionHypothesis =>
      have someLength : 0 < (rest.splitOn '.').length :=
        List.length_pos_iff.2 (List.splitOn_ne_nil '.' rest)
      rw [List.splitOn_append_cons_self_of_not_mem whole,
        readNumbers_none_append seen whole _ (by simp), readNumbers,
        inductionHypothesis]
      have notDigit : isDigit '.' = false := rfl
      rw [Bool.eq_iff_iff]
      simp only [notDigit, List.all_cons, List.length_cons]
      grind

/-- The reader takes exactly the dotted addresses. -/
theorem readNumbers_eq_isIpv4 (text : List Char) :
    readNumbers 0 none text = isIpv4 text := by
  rw [readNumbers_none, isIpv4, Nat.add_zero, Bool.and_comm]

end Host

end StorageBackends
