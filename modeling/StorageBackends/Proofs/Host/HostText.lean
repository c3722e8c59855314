import StorageBackends.Proofs.Host.AddressText
import StorageBackends.Proofs.Host.Labels
import StorageBackends.Proofs.Schema.Finding

namespace StorageBackends

open StorageBackends.Text

/-!
# The text of a host

What a host field takes holds nothing but letters, digits, dots, colons and
hyphens, whichever of its three forms it has. No character in it can end a
host within a longer address or be dropped when such an address is read.
-/

namespace Host

/-- A character of a host. -/
def isHostChar (c : Char) : Bool :=
  isLetterOrDigit c || c == '.' || c == ':' || c == '-'

/-- A control character. -/
def isControl (c : Char) : Bool :=
  c.toNat < 0x20 || (0x7F ≤ c.toNat && c.toNat ≤ 0x9F)

/-- The characters that end a host in an address or put something before it. -/
def delimiters : List Char :=
  ['/', '@', '?', '#', '%', '[', ']']

/-- The characters of a host lie between the hyphen and the letter z. -/
theorem bounds_of_isHostChar
    {c : Char}
    (allowed : isHostChar c = true) :
    0x2D ≤ c.toNat ∧ c.toNat ≤ 0x7A := by
  simp only [isHostChar, isLetterOrDigit, isLower, isUpper, isDigit,
    Bool.or_eq_true, Bool.and_eq_true, decide_eq_true_eq, beq_iff_eq,
    Char.le_def, UInt32.le_iff_toNat_le] at allowed
  change
    (((((97 ≤ c.toNat ∧ c.toNat ≤ 122) ∨ (65 ≤ c.toNat ∧ c.toNat ≤ 90)) ∨
      (48 ≤ c.toNat ∧ c.toNat ≤ 57)) ∨ c = '.') ∨ c = ':') ∨ c = '-' at allowed
  rcases allowed with
    (((((lower | upper) | digit) | rfl) | rfl) | rfl)
  · omega
  · omega
  · omega
  · decide
  · decide
  · decide

/-- No white space lies between the bounds of host characters. -/
theorem isBlank_of_isHostChar
    {c : Char}
    (allowed : isHostChar c = true) :
    isBlank c = false := by
  obtain ⟨least, greatest⟩ := bounds_of_isHostChar allowed
  simp only [isBlank, Bool.or_eq_false_iff, Bool.and_eq_false_iff,
    decide_eq_false_iff_not, beq_eq_false_iff_ne]
  omega

/-- No control character lies between the bounds of host characters. -/
theorem isControl_of_isHostChar
    {c : Char}
    (allowed : isHostChar c = true) :
    isControl c = false := by
  obtain ⟨least, greatest⟩ := bounds_of_isHostChar allowed
  simp only [isControl, Bool.or_eq_false_iff, Bool.and_eq_false_iff,
    decide_eq_false_iff_not]
  omega

/-- A character of a host delimits nothing. -/
theorem not_mem_delimiters_of_isHostChar
    {c : Char}
    (allowed : isHostChar c = true) :
    c ∉ delimiters := by
  intro listed
  simp only [delimiters, List.mem_cons, List.not_mem_nil, or_false] at listed
  rcases listed with rfl | rfl | rfl | rfl | rfl | rfl | rfl <;>
    exact absurd allowed (by decide)

theorem isLetterOrDigit_of_isHexDigit
    {c : Char}
    (digit : isHexDigit c = true) :
    isLetterOrDigit c = true := by
  simp only [isHexDigit, isLetterOrDigit, isLower, isUpper, Bool.or_eq_true,
    Bool.and_eq_true, decide_eq_true_eq] at digit ⊢
  have lower : 'f' ≤ 'z' := by decide
  have upper : 'F' ≤ 'Z' := by decide
  rcases digit with (decimal | ⟨least, greatest⟩) | ⟨least, greatest⟩
  · exact Or.inr decimal
  · exact Or.inl (Or.inl ⟨least, Char.le_trans greatest lower⟩)
  · exact Or.inl (Or.inr ⟨least, Char.le_trans greatest upper⟩)

/--
The hexadecimal digits are letters and digits, so addresses add no character.
-/
theorem isHostChar_of_isAddressChar
    {c : Char}
    (allowed : isAddressChar c = true) :
    isHostChar c = true := by
  simp only [isAddressChar, Bool.or_eq_true] at allowed
  rcases allowed with (digit | dot) | colon
  · simp [isHostChar, isLetterOrDigit_of_isHexDigit digit]
  · simp [isHostChar, dot]
  · simp [isHostChar, colon]

theorem isHostChar_of_isLabelChar
    {c : Char}
    (allowed : isLabelChar c = true) :
    isHostChar c = true := by
  simp only [isLabelChar, Bool.or_eq_true] at allowed
  rcases allowed with alphanumeric | hyphen
  · simp [isHostChar, alphanumeric]
  · simp [isHostChar, hyphen]

/--
The addresses that the check accepts, told without the URL they are read in:
the reader of addresses takes them, and no other character than theirs stands
in them.
-/
theorem isAddressText_iff_read (text : List Char) :
    isAddressText text = true ↔
      (∀ c ∈ text, isAddressChar c = true) ∧ readAddress text = true := by
  rw [isAddressText_eq_isIpv6, readAddress_eq_isIpv6]
  exact ⟨fun address => ⟨isAddressChar_of_isIpv6 address, address⟩, And.right⟩

/-- The characters of a text whose pieces between dots are labels. -/
theorem isHostChar_of_labels
    {text : List Char}
    (labels : ∀ piece ∈ text.splitOn '.', isLabel piece = true) :
    ∀ c ∈ text, isHostChar c = true := by
  intro c listed
  rcases eq_or_mem_piece '.' listed with rfl | ⟨piece, isPiece, inPiece⟩
  · rfl
  · obtain ⟨-, -, characters, -⟩ :=
      (isLabel_eq_true_iff piece).1 (labels piece isPiece)
    exact isHostChar_of_isLabelChar (characters c inPiece)

/-- The characters of a domain name. -/
theorem isHostChar_of_isDomainName
    {text : List Char}
    (domain : isDomainName text = true) :
    ∀ c ∈ text, isHostChar c = true := by
  have named : ∀ c ∈ withoutFinalDot text, isHostChar c = true := by
    simp only [isDomainName, Bool.and_eq_true, List.all_eq_true] at domain
    exact isHostChar_of_labels domain.1.2
  intro c listed
  rcases eq_withoutFinalDot text with same | dotted
  · exact named c (same ▸ listed)
  · rw [dotted] at listed
    rcases List.mem_append.1 listed with inName | isLast
    · exact named c inName
    · rw [List.mem_singleton.1 isLast]
      rfl

/-- Each of the three forms of a host has host characters only. -/
theorem isHostChar_of_isHost
    {text : String}
    (host : isHost text = true) :
    ∀ c ∈ text.toList, isHostChar c = true := by
  simp only [isHost, Bool.or_eq_true] at host
  intro c listed
  rcases host with (dotted | address) | domain
  · exact isHostChar_of_isAddressChar (isAddressChar_of_isIpv4 dotted c listed)
  · rw [isAddressText_eq_isIpv6] at address
    exact isHostChar_of_isAddressChar (isAddressChar_of_isIpv6 address c listed)
  · exact isHostChar_of_isDomainName domain c listed

/-- A text that may stand for a host, and what cannot stand in it. -/
structure HostText (text : String) : Prop where
  notEmpty : text ≠ ""
  characters : ∀ c ∈ text.toList, isHostChar c = true
  undelimited : ∀ c ∈ text.toList, c ∉ delimiters
  unblank : ∀ c ∈ text.toList, isBlank c = false
  uncontrolled : ∀ c ∈ text.toList, isControl c = false
  form :
    isIpv4 text.toList = true ∨
      ((∀ c ∈ text.toList, isAddressChar c = true) ∧
        readAddress text.toList = true) ∨
      isDomainName text.toList = true

/-- The check of a host accepts host text and nothing else. -/
theorem hostText_iff (text : String) :
    HostText text ↔ isHost text = true := by
  constructor
  · intro host
    rw [isHost, Bool.or_eq_true, Bool.or_eq_true, isAddressText_iff_read,
      or_assoc]
    exact host.form
  · intro host
    have characters := isHostChar_of_isHost host
    refine ⟨?_, characters, ?_, ?_, ?_, ?_⟩
    · rintro rfl
      exact absurd host (by decide)
    · exact fun c listed =>
        not_mem_delimiters_of_isHostChar (characters c listed)
    · exact fun c listed => isBlank_of_isHostChar (characters c listed)
    · exact fun c listed => isControl_of_isHostChar (characters c listed)
    · rwa [isHost, Bool.or_eq_true, Bool.or_eq_true, isAddressText_iff_read,
        or_assoc] at host

end Host

namespace FieldKind

/--
A host field takes the texts that may stand for a host, as they stand, and no
other value. For addresses this rests on the look at their characters: the
reader of URLs alone would take whatever `Host.isAbsolute_bracketed_path` puts
behind an address.
-/
theorem accept?_host_eq_some_iff
    (value : Json)
    (accepted : ConfigValue) :
    (FieldKind.text (some .host)).accept? value = some accepted ↔
      ∃ text,
        value = .str text ∧ accepted = .text text ∧ Host.HostText text := by
  rw [accept?_eq_some_iff]
  constructor
  · rintro (_ | ⟨content, isHost⟩)
    exact ⟨content, rfl, rfl, (Host.hostText_iff content).2 isHost⟩
  · rintro ⟨text, rfl, rfl, host⟩
    exact .host text ((Host.hostText_iff text).1 host)

example :
    (FieldKind.text (some .host)).accept? (.str "::1/64") = none := by
  decide

end FieldKind

end StorageBackends
