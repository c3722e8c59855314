import StorageBackends.Proofs.Record
import StorageBackends.Document.Decoder

namespace StorageBackends.Document

/-!
# Reading again, and filling in

A decoder rereads a way of writing if the value that it reads from some part
is read from the written value too. It lets its defaults be filled in if a
member that is absent may be written out as a successful reading shows it, in
any object that lacks the member. An object of two optional members does both
as soon as each default passes the check of its own member.
-/

variable {α β γ : Type}

namespace Decoder

/-- What a decoder reads, it also reads from what is written for it. -/
def Rereads (decoder : Decoder α) (encode : α → Json) : Prop :=
  ∀ ⦃part : Option Json⦄ ⦃value : α⦄,
    decoder part = .valid value →
      decoder (some (encode value)) = .valid value

/-- What is shown for an absent member may be written where it is absent. -/
def Fillable (decoder : Decoder α) (encode : α → Json) : Prop :=
  ∀ ⦃part : Option Json⦄ ⦃value : α⦄ ⦃key : String⦄ ⦃written : Json⦄,
    decoder part = .valid value →
    part.bind (Json.member? key) = none →
    (encode value).member? key = some written →
      ∀ ⦃members : Record Json⦄,
        Record.get? key members = none →
          decoder (some (.obj (Record.insert key written members))) =
            decoder (some (.obj members))

/-- A choice reads the text of one of its values and nothing else. -/
theorem choice_eq_valid_iff
    {written : α → String}
    {choices : List α}
    {part : Option Json}
    {value : α} :
    choice written choices part = .valid value ↔
      ∃ content,
        part = some (.str content) ∧
          choices.find? (fun choice => written choice == content) =
            some value := by
  unfold choice
  cases part with
  | none => simp [Checked.complain]
  | some document =>
      cases document with
      | str content =>
          cases found :
            choices.find? fun choice => written choice == content <;>
            simp [found, Checked.complain]
      | _ => simp [Checked.complain]

/--
An integer is read from a whole number about which there are no complaints.
-/
theorem integer_eq_valid_iff
    {least : Nat}
    {greatest : Option Nat}
    {part : Option Json}
    {value : Nat} :
    integer least greatest part = .valid value ↔
      ∃ number whole,
        part = some (.num number) ∧
          number.toInt? = some whole ∧
            integerComplaints least greatest whole = [] ∧
              whole.toNat = value := by
  unfold integer
  split
  · simp [Checked.refuse, Checked.complain, Number.toInt?]
  · rename_i number _
    cases isWhole : number.toInt? with
    | none => simp [isWhole, Checked.refuse, Checked.complain]
    | some whole =>
        cases complaints : integerComplaints least greatest whole <;>
          simp [isWhole, complaints]
  · rename_i notNumber
    constructor
    · intro read
      cases read
    · rintro ⟨number, _, isNumber, _⟩
      exact (notNumber number isNumber).elim

/-- A number without complaints is not below the least. -/
theorem least_le_of_noComplaints
    {least : Nat}
    {greatest : Option Nat}
    {value : Int}
    (noComplaints : integerComplaints least greatest value = []) :
    (least : Int) ≤ value := by
  unfold integerComplaints at noComplaints
  simp only [List.append_eq_nil_iff, ite_eq_right_iff, reduceCtorEq,
    imp_false] at noComplaints
  omega

namespace Rereads

theorem text : Rereads .text .str := by
  intro part value _
  rfl

theorem nonEmptyText : Rereads .nonEmptyText .str := by
  intro part value read
  unfold Decoder.nonEmptyText at read
  split at read
  · split at read
    · cases read
    · rename_i notEmpty
      cases read
      exact if_neg notEmpty
  · cases read

theorem flag : Rereads .flag .bool := by
  intro part value _
  rfl

/-- The written form of a choice is the text that it was found under. -/
theorem choice (written : α → String) (choices : List α) :
    Rereads (.choice written choices) fun value => .str (written value) := by
  intro part value read
  obtain ⟨content, _, found⟩ := choice_eq_valid_iff.1 read
  have same : written value = content := by
    simpa using List.find?_some found
  exact choice_eq_valid_iff.2 ⟨written value, rfl, by rwa [same]⟩

/-- The bounds leave no negative number, so nothing of it is cut off. -/
theorem integer (least : Nat) (greatest : Option Nat) :
    Rereads (.integer least greatest) Json.ofNat := by
  intro part value read
  obtain ⟨number, whole, _, _, noComplaints, rfl⟩ :=
    integer_eq_valid_iff.1 read
  have atLeast := least_le_of_noComplaints noComplaints
  have kept : (whole.toNat : Int) = whole := by omega
  have again : (Number.ofNat whole.toNat).toInt? = some whole := by
    simp [Number.ofNat, Number.toInt?, kept]
  exact integer_eq_valid_iff.2 ⟨_, whole, rfl, again, noComplaints, rfl⟩

theorem fraction : Rereads .fraction .num := by
  intro part value read
  have same : part = some (.num value) := by
    unfold Decoder.fraction at read
    split at read
    · cases read
    · split at read
      · cases read
      · split at read
        · cases read
        · cases read
          rfl
    · cases read
  rwa [same] at read

variable {decoder : Decoder α} {encode : α → Json}

/-- A default is reread if it passes the check of the part. -/
theorem withDefault
    (rereads : Rereads decoder encode)
    {default : α}
    (passes : decoder (some (encode default)) = .valid default) :
    Rereads (.withDefault default decoder) encode := by
  intro part value read
  cases part with
  | none =>
      cases read
      exact passes
  | some content => exact rereads read

end Rereads

/-- What is absent is read as the default. -/
theorem eq_default_of_absent
    {default value : α}
    {decoder : Decoder α}
    {part : Option Json}
    (read : withDefault default decoder part = .valid value)
    (absent : part = none) :
    value = default := by
  subst absent
  cases read
  rfl

/-- What an optional part holds, the part itself is read as. -/
theorem valid_of_optional
    {decoder : Decoder α}
    {part : Option Json}
    {value : α}
    (read : optional decoder part = .valid (some value)) :
    decoder part = .valid value := by
  cases part with
  | none => cases read
  | some content =>
      obtain ⟨_, valid, same⟩ := (Checked.map_eq_valid_iff _ _ _).1 read
      cases same
      exact valid

/-- What may be absent is written only where it was there. -/
theorem Rereads.optional
    {decoder : Decoder α}
    {encode : α → Json}
    (rereads : Rereads decoder encode)
    {part : Option Json}
    {value : Option α}
    (read : decoder.optional part = .valid value) :
    decoder.optional (value.map encode) = .valid value := by
  cases value with
  | none => rfl
  | some content =>
      exact (Checked.map_eq_valid_iff _ _ _).2
        ⟨content, rereads (valid_of_optional read), rfl⟩

/-- An optional part that is present can be filled like the part itself. -/
theorem Fillable.optional
    {decoder : Decoder α}
    {encode : α → Json}
    (fillable : Fillable decoder encode)
    {part : Option Json}
    {value : Option α}
    {key : String}
    {written : Json}
    {members : Record Json}
    (read : decoder.optional part = .valid value)
    (absent : part.bind (Json.member? key) = none)
    (shown : (value.map encode).bind (Json.member? key) = some written)
    (missing : Record.get? key members = none) :
    decoder.optional (some (.obj (Record.insert key written members))) =
      decoder.optional (some (.obj members)) := by
  cases value with
  | none => cases shown
  | some content =>
      have same := fillable (valid_of_optional read) absent shown missing
      rw [Decoder.optional, Decoder.optional, same] <;> simp

/-- An object is read through its members. -/
theorem object_eq_valid_iff
    {body : Record Json → Checked α}
    {part : Option Json}
    {value : α} :
    object body part = .valid value ↔
      ∃ members, part = some (.obj members) ∧ body members = .valid value := by
  unfold object
  split
  · simp
  · rename_i notObject
    constructor
    · intro read
      cases read
    · rintro ⟨members, isObject, _⟩
      exact (notObject members isObject).elim

end Decoder

namespace Checked

/-- A member is read from what stands under its own key. -/
theorem member_congr
    {key : String}
    {decoder : Decoder α}
    {members others : Record Json}
    (alike :
      decoder (Record.get? key members) = decoder (Record.get? key others)) :
    member key decoder members = member key decoder others := by
  rw [member, member, alike]

/-- A member is read past all that is written under other keys. -/
theorem member_insert_of_ne
    {key other : String}
    (apart : key ≠ other)
    (decoder : Decoder α)
    (written : Json)
    (members : Record Json) :
    member key decoder (Record.insert other written members) =
      member key decoder members := by
  rw [member, Record.get?_insert, if_neg apart, member]

/-- Writing out a missing member as its default changes nothing. -/
theorem member_insert_default
    {key : String}
    {default : α}
    {decoder : Decoder α}
    {written : Json}
    {members : Record Json}
    (passes : decoder (some written) = .valid default)
    (missing : Record.get? key members = none) :
    member key (.withDefault default decoder)
        (Record.insert key written members) =
      member key (.withDefault default decoder) members := by
  refine member_congr ?_
  rw [Record.get?_insert, if_pos rfl, missing]
  exact passes

end Checked

namespace Decoder

/-- A member whose default is read from the way in which it is written. -/
structure OptionalMember.Sound
    (member : OptionalMember α)
    (encode : α → Json) : Prop where
  rereads : Rereads member.decoder encode
  passes : member.decoder (some (encode member.default)) = .valid member.default

/-- A section that reads alike however much of its defaults is written out. -/
structure Coherent
    (default : α)
    (decoder : Decoder α)
    (encode : α → Json) : Prop where
  rereads : Rereads (.withDefault default decoder) encode
  empty : decoder (some (.obj [])) = .valid default
  fillable : Fillable (.withDefault default decoder) encode

section Pair

variable {make : α → β → γ} {encode : γ → Json}
  {first : OptionalMember α} {firstForm : α → Json}
  {second : OptionalMember β} {secondForm : β → Json}

/-- A pair is read from its two members, each with its default. -/
theorem pair_eq_valid_iff
    {part : Option Json}
    {value : γ} :
    pair make first second part = .valid value ↔
      ∃ members left right,
        part = some (.obj members) ∧
          withDefault first.default first.decoder
              (Record.get? first.key members) = .valid left ∧
            withDefault second.default second.decoder
                (Record.get? second.key members) = .valid right ∧
              make left right = value := by
  simp only [pair, object_eq_valid_iff, Checked.map_eq, Checked.seq_eq,
    Checked.apply_eq_valid_iff, Checked.map_eq_valid_iff, Checked.member,
    Checked.under_eq_valid_iff]
  constructor
  · rintro ⟨members, isObject, _, right, ⟨left, leftRead, rfl⟩, rightRead, rfl⟩
    exact ⟨members, left, right, isObject, leftRead, rightRead, rfl⟩
  · rintro ⟨members, left, right, isObject, leftRead, rightRead, rfl⟩
    exact ⟨members, isObject, _, right, ⟨left, leftRead, rfl⟩, rightRead, rfl⟩

/-- A member that is absent from a section stands for its default. -/
theorem default_of_absent
    {member : OptionalMember α}
    {part : Option Json}
    {members : Record Json}
    {value : α}
    (isObject : part = some (.obj members))
    (read :
      withDefault member.default member.decoder
        (Record.get? member.key members) = .valid value)
    (absent : part.bind (Json.member? member.key) = none) :
    value = member.default := by
  have missing : Record.get? member.key members = none := by
    simpa [isObject, Json.member?] using absent
  exact eq_default_of_absent read missing

/-- The values of the two members, and what they are if they are absent. -/
theorem exists_of_withDefault_pair
    {part : Option Json}
    {value : γ}
    (read :
      withDefault (make first.default second.default) (pair make first second)
        part = .valid value) :
    ∃ left right,
      value = make left right ∧
        (part.bind (Json.member? first.key) = none → left = first.default) ∧
          (part.bind (Json.member? second.key) = none →
            right = second.default) := by
  cases part with
  | none =>
      cases read
      exact ⟨_, _, rfl, fun _ => rfl, fun _ => rfl⟩
  | some document =>
      obtain ⟨members, left, right, isObject, leftRead, rightRead, rfl⟩ :=
        pair_eq_valid_iff.1 read
      exact ⟨left, right, rfl, default_of_absent isObject leftRead,
        default_of_absent isObject rightRead⟩

/-- Two members as they are written give the value that they make. -/
theorem pair_written
    (firstSound : first.Sound firstForm)
    (secondSound : second.Sound secondForm)
    (apart : first.key ≠ second.key)
    {leftPart rightPart : Option Json}
    {left : α}
    {right : β}
    (leftRead :
      withDefault first.default first.decoder leftPart = .valid left)
    (rightRead :
      withDefault second.default second.decoder rightPart = .valid right) :
    pair make first second
        (some
          (.obj
            [(first.key, firstForm left), (second.key, secondForm right)])) =
      .valid (make left right) := by
  refine pair_eq_valid_iff.2 ⟨_, left, right, rfl, ?_, ?_, rfl⟩
  · rw [Record.get?_cons, if_pos rfl]
    exact firstSound.rereads.withDefault firstSound.passes leftRead
  · rw [Record.get?_cons, if_neg apart.symm, Record.get?_cons, if_pos rfl]
    exact secondSound.rereads.withDefault secondSound.passes rightRead

/-- The first member of a pair may be written out as its default. -/
theorem pair_insert_first
    (firstSound : first.Sound firstForm)
    (apart : first.key ≠ second.key)
    {members : Record Json}
    (missing : Record.get? first.key members = none) :
    pair make first second
        (some
          (.obj
            (Record.insert first.key (firstForm first.default) members))) =
      pair make first second (some (.obj members)) := by
  simp only [pair, object]
  rw [Checked.member_insert_default firstSound.passes missing,
    Checked.member_insert_of_ne apart.symm]

/-- The second member of a pair may be written out as its default. -/
theorem pair_insert_second
    (secondSound : second.Sound secondForm)
    (apart : first.key ≠ second.key)
    {members : Record Json}
    (missing : Record.get? second.key members = none) :
    pair make first second
        (some
          (.obj
            (Record.insert second.key (secondForm second.default) members))) =
      pair make first second (some (.obj members)) := by
  simp only [pair, object]
  rw [Checked.member_insert_default secondSound.passes missing,
    Checked.member_insert_of_ne apart]

/-- A pair rereads what it wrote if its members do. -/
theorem rereads_pair
    (firstSound : first.Sound firstForm)
    (secondSound : second.Sound secondForm)
    (apart : first.key ≠ second.key)
    (written :
      ∀ left right,
        encode (make left right) =
          .obj [(first.key, firstForm left), (second.key, secondForm right)]) :
    Rereads
      (.withDefault (make first.default second.default)
        (.pair make first second))
      encode := by
  refine Rereads.withDefault ?_ ?_
  · intro part value read
    obtain ⟨_, left, right, _, leftRead, rightRead, rfl⟩ :=
      pair_eq_valid_iff.1 read
    rw [written]
    exact pair_written firstSound secondSound apart leftRead rightRead
  · have leftRead :
        withDefault first.default first.decoder none =
          .valid first.default := rfl
    have rightRead :
        withDefault second.default second.decoder none =
          .valid second.default := rfl
    rw [written]
    exact pair_written firstSound secondSound apart leftRead rightRead

/-- A pair can be filled if its members can. -/
theorem fillable_pair
    (firstSound : first.Sound firstForm)
    (secondSound : second.Sound secondForm)
    (apart : first.key ≠ second.key)
    (written :
      ∀ left right,
        encode (make left right) =
          .obj [(first.key, firstForm left), (second.key, secondForm right)]) :
    Fillable
      (.withDefault (make first.default second.default)
        (.pair make first second))
      encode := by
  intro part value key text read absent shown members missing
  obtain ⟨left, right, rfl, leftDefault, rightDefault⟩ :=
    exists_of_withDefault_pair read
  rw [written, Json.member?, Record.get?_cons, Record.get?_cons] at shown
  by_cases isFirst : key = first.key
  · subst isFirst
    rw [leftDefault absent, if_pos rfl] at shown
    cases shown
    exact pair_insert_first firstSound apart missing
  by_cases isSecond : key = second.key
  · subst isSecond
    rw [rightDefault absent, if_neg isFirst, if_pos rfl] at shown
    cases shown
    exact pair_insert_second secondSound apart missing
  · rw [if_neg isFirst, if_neg isSecond] at shown
    cases shown

/-- A section of two members is coherent if its members are sound. -/
theorem coherent_of_pair
    {default : γ}
    {decoder : Decoder γ}
    (isPair : decoder = pair make first second)
    (isDefault : default = make first.default second.default)
    (firstSound : first.Sound firstForm)
    (secondSound : second.Sound secondForm)
    (apart : first.key ≠ second.key)
    (written :
      ∀ left right,
        encode (make left right) =
          .obj [(first.key, firstForm left), (second.key, secondForm right)]) :
    Coherent default decoder encode := by
  subst isPair isDefault
  exact
    { rereads := rereads_pair firstSound secondSound apart written
      empty := pair_eq_valid_iff.2 ⟨[], _, _, rfl, rfl, rfl, rfl⟩
      fillable := fillable_pair firstSound secondSound apart written }

end Pair

end Decoder

end StorageBackends.Document
