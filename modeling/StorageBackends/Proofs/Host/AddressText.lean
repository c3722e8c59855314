import Mathlib.Data.List.TakeWhile
import StorageBackends.Host.Basic
import StorageBackends.Proofs.Host.AddressReader

namespace StorageBackends.Host

open StorageBackends.Text
open StorageBackends.Url (Location SchemeKind)

/-!
# Addresses as the reader of URLs takes them

The check of an address puts the text between the brackets of a URL and has
that read. A text of address characters fills the brackets, for none of them
ends a host, opens a port or is dropped, and then the reader judges it by the
grammar of addresses. Other texts can leave the brackets: whatever stands
behind an address, a closing bracket and a slash is a path to the reader. The
look at the characters keeps them out.
-/

/-- A character of an address differs from all that cannot stand in one. -/
theorem ne_of_isAddressChar
    {c : Char}
    (allowed : isAddressChar c = true)
    (other : Char)
    (foreign : isAddressChar other = false) :
    c ≠ other := by
  rintro rfl
  rw [allowed] at foreign
  cases foreign

theorem isAddressChar_of_isDigit
    {c : Char}
    (digit : isDigit c = true) :
    isAddressChar c = true := by
  simp [isAddressChar, isHexDigit_of_isDigit digit]

/-- A dotted address is digits and dots, which stand in the longer form too. -/
theorem isAddressChar_of_isIpv4
    {text : List Char}
    (dotted : isIpv4 text = true) :
    ∀ c ∈ text, isAddressChar c = true := by
  intro c listed
  rcases isDigit_or_dot_of_isIpv4 dotted listed with digit | rfl
  · exact isAddressChar_of_isDigit digit
  · rfl

theorem isAddressChar_of_isGroup
    {text : List Char}
    (group : isGroup text = true) :
    ∀ c ∈ text, isAddressChar c = true := by
  intro c listed
  obtain ⟨-, -, digits⟩ := (isGroup_eq_true_iff text).1 group
  simp [isAddressChar, digits c listed]

/-- A text is made of address characters if its pieces between colons are. -/
theorem isAddressChar_of_colonPieces
    {text : List Char}
    (pieces :
      ∀ piece ∈ colonPieces text, ∀ c ∈ piece, isAddressChar c = true) :
    ∀ c ∈ text, isAddressChar c = true := by
  intro c listed
  have notEmpty : text ≠ [] := List.ne_nil_of_mem listed
  rw [colonPieces, if_neg (by simpa using notEmpty)] at pieces
  rcases eq_or_mem_piece ':' listed with isColon | ⟨piece, isPiece, inPiece⟩
  · simp [isAddressChar, isColon]
  · exact pieces piece isPiece c inPiece

/-- Pieces can be counted only if every one of them is a group. -/
theorem all_isGroup_of_groupCount?
    {pieces : List (List Char)}
    {count : Nat}
    (counted : groupCount? pieces = some count) :
    ∀ piece ∈ pieces, isGroup piece = true := by
  unfold groupCount? at counted
  split at counted
  · rename_i groups
    exact List.all_eq_true.1 groups
  · cases counted

/-- Only the last of the counted pieces may be a dotted address. -/
theorem isGroup_or_isIpv4_of_finalGroupCount?
    {pieces : List (List Char)}
    {count : Nat}
    (counted : finalGroupCount? pieces = some count) :
    ∀ piece ∈ pieces, isGroup piece = true ∨ isIpv4 piece = true := by
  cases isLast : pieces.getLast? with
  | none =>
      rw [List.getLast?_eq_none_iff.1 isLast]
      simp
  | some last =>
      have joined : pieces.dropLast ++ [last] = pieces :=
        List.dropLast_append_getLast? last isLast
      simp only [finalGroupCount?, isLast] at counted
      split at counted
      · rename_i dotted
        obtain ⟨others, counted, -⟩ := Option.map_eq_some_iff.1 counted
        rw [← joined]
        intro piece listed
        rcases List.mem_append.1 listed with isOther | isLast
        · exact Or.inl (all_isGroup_of_groupCount? counted piece isOther)
        · rw [List.mem_singleton.1 isLast]
          exact Or.inr dotted
      · exact fun piece listed =>
          Or.inl (all_isGroup_of_groupCount? counted piece listed)

/-- A double colon stands between what is before and what is behind it. -/
theorem eq_append_of_splitAtGap?
    {text before after : List Char}
    (cut : splitAtGap? text = some (before, after)) :
    text = before ++ ':' :: ':' :: after := by
  fun_induction splitAtGap? text generalizing before with
  | case1 rest =>
      cases cut
      rfl
  | case2 c rest notGap inductionHypothesis =>
      obtain ⟨parts, cutBehind, same⟩ := Option.map_eq_some_iff.1 cut
      cases same
      rw [inductionHypothesis cutBehind, List.cons_append]
  | case3 => cases cut

/-- The grammar of addresses has no other characters. -/
theorem isAddressChar_of_isIpv6
    {text : List Char}
    (address : isIpv6 text = true) :
    ∀ c ∈ text, isAddressChar c = true := by
  have ofFinal :
      ∀ {part : List Char} {count : Nat},
        finalGroupCount? (colonPieces part) = some count →
        ∀ c ∈ part, isAddressChar c = true := by
    intro part count counted
    refine isAddressChar_of_colonPieces fun piece isPiece => ?_
    rcases isGroup_or_isIpv4_of_finalGroupCount? counted piece isPiece with
      group | dotted
    · exact isAddressChar_of_isGroup group
    · exact isAddressChar_of_isIpv4 dotted
  cases cut : splitAtGap? text with
  | none =>
      simp only [isIpv6, cut, beq_iff_eq] at address
      exact ofFinal address
  | some parts =>
      obtain ⟨before, after⟩ := parts
      rw [isIpv6, cut] at address
      cases left : groupCount? (colonPieces before) with
      | none => simp [left] at address
      | some leftCount =>
          cases right : finalGroupCount? (colonPieces after) with
          | none => simp [left, right] at address
          | some rightCount =>
              rw [eq_append_of_splitAtGap? cut]
              intro c listed
              simp only [List.mem_append, List.mem_cons] at listed
              rcases listed with inBefore | rfl | rfl | inAfter
              · refine isAddressChar_of_colonPieces (fun piece isPiece => ?_)
                  c inBefore
                exact isAddressChar_of_isGroup
                  (all_isGroup_of_groupCount? left piece isPiece)
              · rfl
              · rfl
              · exact ofFinal right c inAfter

/-- What stands in front of the text. -/
def opening : List Char :=
  ['h', 't', 't', 'p', ':', '/', '/', '[']

theorem bracketed_eq (text : List Char) :
    bracketed text = opening ++ text ++ [']'] := rfl

/-- The ends of a bracketed text are its own, so only its inside is cleaned. -/
theorem cleaned_bracketed (text : List Char) :
    Url.cleaned (bracketed text) =
      bracketed (text.filter fun c => !Url.isDropped c) := by
  have opens :
      (opening ++ text ++ [']']).dropWhile Url.isEdge =
        opening ++ text ++ [']'] := rfl
  have closes :
      (opening ++ text ++ [']']).reverse.dropWhile Url.isEdge =
        (opening ++ text ++ [']']).reverse := by
    rw [List.reverse_append]
    rfl
  rw [bracketed_eq, bracketed_eq, Url.cleaned, opens, closes,
    List.reverse_reverse, List.filter_append, List.filter_append]
  rfl

/-- Nothing is dropped from a text of address characters. -/
theorem filter_of_isAddressChar
    {text : List Char}
    (plain : ∀ c ∈ text, isAddressChar c = true) :
    (text.filter fun c => !Url.isDropped c) = text := by
  refine List.filter_eq_self.2 fun c listed => ?_
  have allowed := plain c listed
  simp [Url.isDropped, ne_of_isAddressChar allowed '\t' rfl,
    ne_of_isAddressChar allowed '\n' rfl,
    ne_of_isAddressChar allowed '\r' rfl]

/-- A bracketed text is read as the host of a web URL, from its slashes on. -/
theorem ofAbsolute?_bracketed (text : List Char) :
    Location.ofAbsolute? (bracketed text) =
      Location.ofWeb? ('/' :: '/' :: '[' :: (text ++ [']'])) := by
  have scheme :
      Url.splitScheme? (bracketed text) =
        some ("http", '/' :: '/' :: '[' :: (text ++ [']'])) := by
    have tail :
        ('t' :: 't' :: 'p' :: ':' :: '/' :: '/' :: '[' ::
          (text ++ [']'])).takeWhile Url.isSchemeChar = ['t', 't', 'p'] := rfl
    have letter : (isLower 'h' || isUpper 'h') = true := rfl
    have lower : toLower (String.ofList ['h', 't', 't', 'p']) = "http" := by
      decide
    simp [bracketed_eq, opening, Url.splitScheme?, tail, letter, lower]
  have web : SchemeKind.ofScheme "http" = .web := by decide
  simp only [Location.ofAbsolute?, scheme, Option.bind_some,
    Location.ofScheme?, web]

/-- The authority of a bracketed text reaches to the end of the brackets. -/
theorem authority_bracketed
    {text rest : List Char}
    (plain : ∀ c ∈ text, isAddressChar c = true)
    (ends : ∀ c ∈ rest.head?, SchemeKind.web.endsAuthority c = true) :
    Location.authority .web ('[' :: (text ++ ']' :: rest)) =
      '[' :: (text ++ [']']) := by
  have inside : ∀ c ∈ text, (!SchemeKind.web.endsAuthority c) = true := by
    intro c listed
    have allowed := plain c listed
    simp [SchemeKind.endsAuthority, SchemeKind.separates, Url.isSlash,
      ne_of_isAddressChar allowed '/' rfl,
      ne_of_isAddressChar allowed '\\' rfl,
      ne_of_isAddressChar allowed '?' rfl,
      ne_of_isAddressChar allowed '#' rfl]
  have stop :
      (rest.takeWhile fun c => !SchemeKind.web.endsAuthority c) = [] := by
    cases rest with
    | nil => rfl
    | cons c others => simp [ends c rfl]
  have opens : SchemeKind.web.endsAuthority '[' = false := rfl
  have closes : SchemeKind.web.endsAuthority ']' = false := rfl
  simp [Location.authority, opens, closes, stop,
    List.takeWhile_append_of_pos inside]

/-- Brackets with address characters in them hold no user and no port. -/
theorem isAuthority_bracketed
    {text : List Char}
    (plain : ∀ c ∈ text, isAddressChar c = true)
    (mayBeEmpty : Bool)
    (test : List Char → Bool) :
    Url.isAuthority mayBeEmpty test ('[' :: (text ++ [']'])) =
      isIpv6 text := by
  have userless :
      Url.behindUser ('[' :: (text ++ [']'])) = '[' :: (text ++ [']']) := by
    have noAt :
        ∀ c ∈ ('[' :: (text ++ [']'])).reverse, (c != '@') = true := by
      intro c listed
      simp only [List.mem_reverse, List.mem_cons, List.mem_append,
        List.not_mem_nil, or_false] at listed
      rcases listed with rfl | inText | rfl
      · rfl
      · simpa using ne_of_isAddressChar (plain c inText) '@' rfl
      · rfl
    rw [Url.behindUser, List.takeWhile_eq_self_iff.2 noAt,
      List.reverse_reverse]
  have inside : ∀ c ∈ text, (c != ']') = true := fun c listed => by
    simpa using ne_of_isAddressChar (plain c listed) ']' rfl
  have split :
      Url.splitPort ('[' :: (text ++ [']'])) =
        ('[' :: (text ++ [']']), none) := by
    simp [Url.splitPort, Url.splitPort.splitPortAfter,
      List.takeWhile_append_of_pos inside]
  simp [Url.isAuthority, userless, split, Url.isBracketedOr]

/--
The reader takes address characters in brackets if they are an address,
whatever stands behind the end of the host.
-/
theorem isSome_ofWeb?_bracketed
    {text rest : List Char}
    (plain : ∀ c ∈ text, isAddressChar c = true)
    (ends : ∀ c ∈ rest.head?, SchemeKind.web.endsAuthority c = true) :
    (Location.ofWeb? ('/' :: '/' :: '[' :: (text ++ ']' :: rest))).isSome =
      isIpv6 text := by
  have slashes :
      ('/' :: '/' :: '[' :: (text ++ ']' :: rest)).dropWhile Url.isSlash =
        '[' :: (text ++ ']' :: rest) := rfl
  simp only [Location.ofWeb?, slashes, authority_bracketed plain ends,
    isAuthority_bracketed plain]
  cases isIpv6 text <;> rfl

/-- The check of addresses accepts the grammar of addresses. -/
theorem isAddressText_eq_isIpv6 (text : List Char) :
    isAddressText text = isIpv6 text := by
  by_cases plain : ∀ c ∈ text, isAddressChar c = true
  · rw [isAddressText, List.all_eq_true.2 plain, Bool.true_and,
      Url.isAbsolute, cleaned_bracketed, filter_of_isAddressChar plain,
      ofAbsolute?_bracketed]
    exact isSome_ofWeb?_bracketed plain (by simp)
  · have refused : isIpv6 text = false := by
      rw [Bool.eq_false_iff]
      exact fun address => plain (isAddressChar_of_isIpv6 address)
    have notAll : text.all isAddressChar = false := by
      rw [Bool.eq_false_iff]
      exact fun all => plain (List.all_eq_true.1 all)
    rw [isAddressText, notAll, refused, Bool.false_and]

/-- The reader alone drops tabs and line ends from an address. -/
theorem isAbsolute_bracketed_filter (text : List Char) :
    Url.isAbsolute (bracketed text) =
      Url.isAbsolute (bracketed (text.filter fun c => !Url.isDropped c)) := by
  simp only [Url.isAbsolute, cleaned_bracketed, List.filter_filter,
    Bool.and_self]

/-- The reader alone takes every path behind an address. -/
theorem isAbsolute_bracketed_path
    {text : List Char}
    (address : isIpv6 text = true)
    (path : List Char) :
    Url.isAbsolute (bracketed (text ++ ']' :: '/' :: path)) = true := by
  have plain := isAddressChar_of_isIpv6 address
  have dropped :
      ((text ++ ']' :: '/' :: path).filter fun c => !Url.isDropped c) =
        text ++ ']' :: '/' :: path.filter fun c => !Url.isDropped c := by
    rw [List.filter_append, filter_of_isAddressChar plain]
    rfl
  have joined :
      (text ++ ']' :: '/' :: path.filter fun c => !Url.isDropped c) ++ [']'] =
        text ++ ']' :: ('/' :: path.filter fun c => !Url.isDropped c) ++
          [']'] := by
    simp
  rw [Url.isAbsolute, cleaned_bracketed, dropped, ofAbsolute?_bracketed,
    joined, List.append_assoc, List.cons_append,
    isSome_ofWeb?_bracketed plain (by simp [SchemeKind.endsAuthority,
      SchemeKind.separates, Url.isSlash]), address]

example : Url.isAbsolute (bracketed "::1]/x?[".toList) = true := by
  decide +kernel

example : isHost "::1]/x?[" = false := by
  decide

end StorageBackends.Host
