import Mathlib.Tactic.SplitIfs
import StorageBackends.Json.Printer
import StorageBackends.Json.Reader

namespace StorageBackends.Json

/-!
# Reading what was written

A written value is read back as it was, in either layout and with white space
behind it, if it holds no numbers and its objects list their members as
objects do. The reader is a fold, so each part of a text is followed on its
own: a value completes itself in whatever container waits for it.
-/

mutual

/-- A value without numbers whose objects are listed as objects list themselves. -/
def IsWritable : Json → Prop
  | .num _ => False
  | .arr elements => AreWritable elements
  | .obj members => Record.ofList members = members ∧ MembersAreWritable members
  | _ => True

/-- All elements of a list are writable. -/
def AreWritable : List Json → Prop
  | [] => True
  | element :: rest => IsWritable element ∧ AreWritable rest

/-- The values of all members are writable. -/
def MembersAreWritable : List (String × Json) → Prop
  | [] => True
  | (_, value) :: rest => IsWritable value ∧ MembersAreWritable rest

end

/-- Take the characters of a text one after the other. -/
def follow (state : ReaderState) (characters : List Char) : ReaderState :=
  characters.foldl ReaderState.step state

@[simp] theorem follow_nil (state : ReaderState) :
    follow state [] = state := rfl

@[simp] theorem follow_cons
    (state : ReaderState)
    (c : Char)
    (rest : List Char) :
    follow state (c :: rest) = follow (state.step c) rest := rfl

@[simp] theorem follow_append
    (state : ReaderState)
    (first second : List Char) :
    follow state (first ++ second) = follow (follow state first) second :=
  List.foldl_append

/-- The reader waits for a token and skips white space. -/
def Skips (state : ReaderState) : Prop :=
  ∀ c, isSpace c = true → state.step c = state

theorem Skips.follow
    {state : ReaderState}
    (skips : Skips state)
    {spaces : List Char}
    (blank : ∀ c ∈ spaces, isSpace c = true) :
    follow state spaces = state := by
  induction spaces with
  | nil => rfl
  | cons c rest inductionHypothesis =>
      obtain ⟨first, others⟩ := List.forall_mem_cons.1 blank
      rw [follow_cons, skips c first]
      exact inductionHypothesis others

theorem isSpace_of_mem_lineBreak
    {layout : Layout}
    {level : Nat}
    {c : Char}
    (listed : c ∈ lineBreak layout level) :
    isSpace c = true := by
  cases layout with
  | compact => cases listed
  | indented =>
      rcases List.mem_cons.1 listed with rfl | inIndent
      · rfl
      · rw [List.eq_of_mem_replicate inIndent]
        rfl

/-- The line break in front of a token is skipped. -/
theorem Skips.lineBreak
    {state : ReaderState}
    (skips : Skips state)
    (layout : Layout)
    (level : Nat) :
    Json.follow state (Json.lineBreak layout level) = state :=
  skips.follow fun _ => isSpace_of_mem_lineBreak

theorem skips_value (stack : List Frame) :
    Skips (.reading stack .value) := fun c blank => by
  simp [ReaderState.step, blank]

theorem skips_firstElement (stack : List Frame) :
    Skips (.reading stack .firstElement) := fun c blank => by
  simp [ReaderState.step, blank]

theorem skips_nextElement (stack : List Frame) (reversed : List Json) :
    Skips (.reading stack (.nextElement reversed)) := fun c blank => by
  simp [ReaderState.step, ReaderState.afterValue, blank]

theorem skips_firstKey (stack : List Frame) :
    Skips (.reading stack .firstKey) := fun c blank => by
  simp [ReaderState.step, blank]

theorem skips_key (stack : List Frame) (members : Record Json) :
    Skips (.reading stack (.key members)) := fun c blank => by
  simp [ReaderState.step, blank]

theorem skips_nextMember (stack : List Frame) (members : Record Json) :
    Skips (.reading stack (.nextMember members)) := fun c blank => by
  simp [ReaderState.step, ReaderState.afterValue, blank]

theorem skips_nothing (value : Json) :
    Skips (.reading [] (.nothing value)) := fun c blank => by
  simp [ReaderState.step, ReaderState.afterValue, blank]

/-- The digit of a value is a digit of that value. -/
theorem hexValue_hexDigit :
    ∀ value < 16,
      Text.isHexDigit (hexDigit value) = true ∧
        Text.hexValue (hexDigit value) = value := by
  decide

/-- The state inside a text of which some characters have been read. -/
def insideText
    (stack : List Frame)
    (usage : TextUse)
    (reversed : List Char) :
    ReaderState :=
  .reading stack
    (.text usage { reversed := reversed, high := none, escape := .outside })

/-- The four digits of a control character are read as that character. -/
private theorem follow_controlCode
    (stack : List Frame)
    (usage : TextUse)
    (reversed : List Char)
    {c : Char}
    (control : c.toNat < 0x20) :
    follow (insideText stack usage reversed)
        ['\\', 'u', '0', '0', hexDigit (c.toNat / 16),
          hexDigit (c.toNat % 16)] =
      insideText stack usage (c :: reversed) := by
  obtain ⟨isHigh, high⟩ := hexValue_hexDigit (c.toNat / 16) (by omega)
  obtain ⟨isLow, low⟩ := hexValue_hexDigit (c.toNat % 16) (by omega)
  have zero : Text.isHexDigit '0' = true ∧ Text.hexValue '0' = 0 := by decide
  have code : 16 * (c.toNat / 16) + c.toNat % 16 = c.toNat := by omega
  have notHigh : ¬(0xD800 ≤ c.toNat ∧ c.toNat < 0xDC00) := by omega
  have notLow : ¬(0xDC00 ≤ c.toNat ∧ c.toNat < 0xE000) := by omega
  simp [insideText, ReaderState.step, ReaderState.continueText, isHigh, high,
    isLow, low, zero, code, OpenText.pushCode, notHigh, notLow,
    OpenText.push, OpenText.settled]

/-- An escaped character is read as that character. -/
theorem follow_escapeChar
    (stack : List Frame)
    (usage : TextUse)
    (reversed : List Char)
    (c : Char) :
    follow (insideText stack usage reversed) (escapeChar c) =
      insideText stack usage (c :: reversed) := by
  have coded : ∀ {code : Nat}, c.toNat = code → c = Char.ofNat code := by
    rintro code rfl
    exact (Char.ofNat_toNat c).symm
  unfold escapeChar
  split_ifs with quoted escape backspace tab newline feed carriage control
  · rw [quoted]
    rfl
  · rw [escape]
    rfl
  · rw [coded backspace]
    rfl
  · rw [coded tab]
    rfl
  · rw [coded newline]
    rfl
  · rw [coded feed]
    rfl
  · rw [coded carriage]
    rfl
  · exact follow_controlCode stack usage reversed control
  · simp [insideText, ReaderState.step, ReaderState.continueText, quoted,
      escape, control, OpenText.push, OpenText.settled]

/-- The characters of a text are read one by one. -/
theorem follow_escaped
    (stack : List Frame)
    (usage : TextUse)
    (reversed characters : List Char) :
    follow (insideText stack usage reversed)
        (characters.flatMap escapeChar) =
      insideText stack usage (characters.reverse ++ reversed) := by
  induction characters generalizing reversed with
  | nil => rfl
  | cons c rest inductionHypothesis =>
      rw [List.flatMap_cons, follow_append, follow_escapeChar,
        inductionHypothesis, List.reverse_cons, List.append_assoc]
      rfl

/-- The state behind a text, which is a value or a key. -/
def behindText (stack : List Frame) (text : String) :
    TextUse → ReaderState
  | .value => ReaderState.complete stack (.str text)
  | .key members => .reading stack (.colon members text)

/-- A quoted text is read from its first quote to its last. -/
theorem follow_quote
    {state : ReaderState}
    {stack : List Frame}
    {usage : TextUse}
    (opens : state.step '"' = insideText stack usage [])
    (text : String) :
    follow state (quote text) = behindText stack text usage := by
  have read :
      OpenText.toText
          { reversed := text.toList.reverse, high := none
            escape := .outside } = text := by
    simp [OpenText.toText, OpenText.settled]
  rw [quote, List.cons_append, follow_cons, opens, follow_append,
    follow_escaped, List.append_nil]
  cases usage <;>
    simp [insideText, ReaderState.step, ReaderState.continueText, read,
      behindText]

/-- The key of a member and what stands behind it. -/
private theorem follow_key
    {state : ReaderState}
    {stack : List Frame}
    {members : Record Json}
    (opens : state.step '"' = insideText stack (.key members) [])
    (layout : Layout)
    (key : String) :
    follow state (quote key ++ keySeparator layout) =
      .reading (.object members key :: stack) .value := by
  rw [follow_append, follow_quote opens]
  cases layout <;> rfl

/-- A written value starts like a value and not like the end of a list. -/
private theorem render_head
    (layout : Layout)
    (level : Nat)
    {value : Json}
    (writable : IsWritable value) :
    ∃ first rest,
      render layout level value = first :: rest ∧
        isSpace first = false ∧ first ≠ ']' := by
  cases value with
  | null => exact ⟨'n', _, by rw [render]; rfl, by decide, by decide⟩
  | bool on =>
      cases on with
      | true => exact ⟨'t', _, by rw [render]; rfl, by decide, by decide⟩
      | false => exact ⟨'f', _, by rw [render]; rfl, by decide, by decide⟩
  | num number => exact writable.elim
  | str text => exact ⟨'"', _, by rw [render]; rfl, by decide, by decide⟩
  | arr elements =>
      cases elements with
      | nil => exact ⟨'[', _, by rw [render], by decide, by decide⟩
      | cons first rest =>
          exact ⟨'[', _, by rw [render]; rfl, by decide, by decide⟩
  | obj members =>
      cases members with
      | nil => exact ⟨'{', _, by rw [render], by decide, by decide⟩
      | cons first rest =>
          exact ⟨'{', _, by rw [render]; rfl, by decide, by decide⟩

/-- The first element is read like any value. -/
private theorem follow_firstElement
    (stack : List Frame)
    (layout : Layout)
    (level : Nat)
    {value : Json}
    (writable : IsWritable value) :
    follow (.reading stack .firstElement) (render layout level value) =
      follow (.reading (.array [] :: stack) .value)
        (render layout level value) := by
  obtain ⟨first, rest, written, notSpace, notEnd⟩ :=
    render_head layout level writable
  rw [written, follow_cons, follow_cons]
  simp [ReaderState.step, notSpace, notEnd]

/-- A value goes into the list that waits for it. -/
private theorem complete_array
    (reversed : List Json)
    (stack : List Frame)
    (value : Json) :
    ReaderState.complete (.array reversed :: stack) value =
      .reading stack (.nextElement (value :: reversed)) := rfl

/-- A value goes under the key that waits for it. -/
private theorem complete_object
    (members : Record Json)
    (key : String)
    (stack : List Frame)
    (value : Json) :
    ReaderState.complete (.object members key :: stack) value =
      .reading stack (.nextMember (Record.insert key value members)) := rfl

mutual

/-- A written value is read and goes to the container that waits for it. -/
theorem follow_render
    (layout : Layout)
    (level : Nat)
    (stack : List Frame) :
    ∀ {value : Json},
      IsWritable value →
      follow (.reading stack .value) (render layout level value) =
        ReaderState.complete stack value
  | .null, _ => by rw [render]; rfl
  | .bool true, _ => by rw [render]; rfl
  | .bool false, _ => by rw [render]; rfl
  | .str text, _ => by
      have opens :
          (ReaderState.reading stack .value).step '"' =
            insideText stack .value [] := rfl
      rw [render, follow_quote opens]
      rfl
  | .arr [], _ => by rw [render]; rfl
  | .arr (first :: rest), writable => by
      have element := follow_render layout (level + 1) (.array [] :: stack)
        writable.1
      have elements := follow_renderElements layout (level + 1) stack [first]
        writable.2
      have opened :
          (ReaderState.reading stack .value).step '[' =
            .reading stack .firstElement := rfl
      rw [render, List.cons_append, List.cons_append, List.cons_append,
        List.cons_append, follow_cons, opened, follow_append, follow_append,
        follow_append, follow_append, (skips_firstElement stack).lineBreak,
        follow_firstElement stack layout (level + 1) writable.1, element,
        complete_array, elements, (skips_nextElement _ _).lineBreak]
      simp [ReaderState.step, ReaderState.afterValue, isSpace]
  | .obj [], _ => by rw [render]; rfl
  | .obj ((key, first) :: rest), writable => by
      have member :=
        follow_render layout (level + 1) (.object [] key :: stack)
          writable.2.1
      have members :=
        follow_renderMembers layout (level + 1) stack
          (Record.insert key first []) writable.2.2
      have opened :
          (ReaderState.reading stack .value).step '{' =
            .reading stack .firstKey := rfl
      have opensKey :
          (ReaderState.reading stack .firstKey).step '"' =
            insideText stack (.key []) [] := rfl
      have listed :
          rest.foldl
              (fun record member => Record.insert member.1 member.2 record)
              (Record.insert key first []) =
            (key, first) :: rest := writable.1
      have closed :
          ∀ record,
            (ReaderState.reading stack (.nextMember record)).step '}' =
              ReaderState.complete stack (.obj record) := fun _ => rfl
      rw [render, List.cons_append, List.cons_append, List.cons_append,
        List.cons_append, List.cons_append, List.cons_append, follow_cons,
        opened, List.append_assoc (lineBreak layout (level + 1)),
        follow_append, follow_append, follow_append, follow_append,
        follow_append, (skips_firstKey stack).lineBreak,
        follow_key opensKey, member, complete_object, members, listed,
        (skips_nextMember _ _).lineBreak, follow_cons, closed, follow_nil]

/-- Written elements are read one after the other. -/
theorem follow_renderElements
    (layout : Layout)
    (level : Nat)
    (stack : List Frame)
    (reversed : List Json) :
    ∀ {elements : List Json},
      AreWritable elements →
      follow (.reading stack (.nextElement reversed))
          (renderElements layout level elements) =
        .reading stack (.nextElement (elements.reverse ++ reversed))
  | [], _ => by rw [renderElements]; rfl
  | element :: rest, writable => by
      have first := follow_render layout level (.array reversed :: stack)
        writable.1
      have others := follow_renderElements layout level stack
        (element :: reversed) writable.2
      have opened :
          (ReaderState.reading stack (.nextElement reversed)).step ',' =
            .reading (.array reversed :: stack) .value := rfl
      simp only [renderElements, List.cons_append, follow_cons, follow_append,
        opened, (skips_value _).lineBreak, first, ReaderState.complete,
        others, List.reverse_cons, List.append_assoc, List.nil_append]

/-- Written members are inserted one after the other. -/
theorem follow_renderMembers
    (layout : Layout)
    (level : Nat)
    (stack : List Frame)
    (before : Record Json) :
    ∀ {members : List (String × Json)},
      MembersAreWritable members →
      follow (.reading stack (.nextMember before))
          (renderMembers layout level members) =
        .reading stack
          (.nextMember
            (members.foldl
              (fun record member => Record.insert member.1 member.2 record)
              before))
  | [], _ => by rw [renderMembers]; rfl
  | (key, value) :: rest, writable => by
      have member :=
        follow_render layout level (.object before key :: stack) writable.1
      have others := follow_renderMembers layout level stack
        (Record.insert key value before) writable.2
      have opened :
          (ReaderState.reading stack (.nextMember before)).step ',' =
            .reading stack (.key before) := rfl
      have opensKey :
          (ReaderState.reading stack (.key before)).step '"' =
            insideText stack (.key before) [] := rfl
      rw [renderMembers, List.cons_append, List.cons_append,
        List.cons_append, List.cons_append, follow_cons, opened,
        List.append_assoc (lineBreak layout level), follow_append,
        follow_append, follow_append, (skips_key _ _).lineBreak,
        follow_key opensKey, member, complete_object, others,
        List.foldl_cons]

end

/-- The text of a file holds the value that was written. -/
theorem parse?_fileText
    {value : Json}
    (writable : IsWritable value) :
    parse? (fileText value) = some value := by
  have read :
      follow readerStart (render .indented 0 value ++ ['\n']) =
        .reading [] (.nothing value) := by
    rw [follow_append]
    unfold readerStart
    rw [follow_render .indented 0 [] writable]
    exact skips_nothing value '\n' rfl
  unfold follow at read
  rw [parse?, fileText, String.toList_ofList, ofChars?, read]
  rfl

end StorageBackends.Json
