import StorageBackends.Document.Checked

namespace StorageBackends.Document

/-!
# Decoders

A decoder reads a part of a document, which may be absent, into a value of
the type that the part describes. Objects lose the members that nobody asks
for, and a part with a default may be absent but not null.
-/

/-- Reads a part, which may be absent. -/
abbrev Decoder (α : Type) :=
  Option Json → Checked α

/-- The complaint about a part of the wrong shape. -/
def Checked.refuse {α : Type} (expected : Shape) (part : Option Json) :
    Checked α :=
  .complain (.wrongShape expected (receivedName part))

/-- The member of an object under a key. -/
def Checked.member
    {α : Type}
    (key : String)
    (decoder : Decoder α)
    (members : Record Json) :
    Checked α :=
  (decoder (Record.get? key members)).under (.key key)

namespace Decoder

variable {α β : Type}

/-- Apply a function to what a decoder reads. -/
def map (f : α → β) (decoder : Decoder α) : Decoder β :=
  fun part => (decoder part).map f

/-- A text. -/
def text : Decoder String
  | some (.str content) => .valid content
  | part => .refuse .text part

/-- A text that is not empty. -/
def nonEmptyText : Decoder String
  | some (.str content) =>
      if content = "" then .complain .emptyText else .valid content
  | part => .refuse .text part

/-- True or false. -/
def flag : Decoder Bool
  | some (.bool on) => .valid on
  | part => .refuse .flag part

/-- One of the two flags only. -/
def onlyFlag (expected : Bool) : Decoder Unit
  | some (.bool on) =>
      if on = expected then .valid () else .complain (.notFlag expected)
  | _ => .complain (.notFlag expected)

/-- The null value. -/
def null : Decoder Unit
  | some .null => .valid ()
  | part => .refuse .null part

/-- Any part that is there. -/
def anything : Decoder Json
  | some value => .valid value
  | none => .valid .null

/-- A part that may be null. -/
def nullable (decoder : Decoder α) : Decoder (Option α)
  | some .null => .valid none
  | part => (decoder part).map some

/-- A part that may be absent. -/
def optional (decoder : Decoder α) : Decoder (Option α)
  | none => .valid none
  | part => (decoder part).map some

/-- A part that stands for some value when it is absent. -/
def withDefault (value : α) (decoder : Decoder α) : Decoder α
  | none => .valid value
  | part => decoder part

/-- One of some values, each under its written form. -/
def choice (written : α → String) (choices : List α) : Decoder α :=
  fun part =>
    let found :=
      match part with
      | some (.str content) =>
          choices.find? fun choice => written choice == content
      | _ => none
    match found with
    | some choice => .valid choice
    | none => .complain (.notAmong (choices.map written))

/-- The complaints about an integer between two bounds. -/
def integerComplaints
    (least : Nat)
    (greatest : Option Nat)
    (value : Int) :
    List Complaint :=
  (if (Number.maxSafeInteger : Int) < value then [.integerAboveRange] else []) ++
    (if value < -(Number.maxSafeInteger : Int) then [.integerBelowRange]
      else []) ++
    (if value < least then [.numberBelow least] else []) ++
    match greatest with
    | some bound => if (bound : Int) < value then [.numberAbove bound] else []
    | none => []

/-- An integer that is at least some bound, and at most another if there is one. -/
def integer (least : Nat) (greatest : Option Nat) : Decoder Nat
  | some (.num (.infinite negative)) =>
      .refuse .number (some (.num (.infinite negative)))
  | some (.num number) =>
      match number.toInt? with
      | none => .refuse .integer (some (.num number))
      | some value =>
          match integerComplaints least greatest value with
          | [] => .valid value.toNat
          | complaints => .invalid (complaints.map fun complaint => ⟨[], complaint⟩)
  | part => .refuse .number part

/-- A number from zero to one. -/
def fraction : Decoder Number
  | some (.num (.infinite negative)) =>
      .refuse .number (some (.num (.infinite negative)))
  | some (.num number) =>
      if !number.nonnegative then
        .complain (.numberBelow 0)
      else if !number.leNat 1 then
        .complain (.numberAbove 1)
      else
        .valid number
  | part => .refuse .number part

/-- A list of parts of one kind. -/
def list (decoder : Decoder α) : Decoder (List α)
  | some (.arr elements) =>
      .all (elements.zipIdx.map fun element =>
        (decoder (some element.1)).under (.index element.2))
  | part => .refuse .list part

/-- A record of parts of one kind; the ancestor key is no member of it. -/
def record (decoder : Decoder α) : Decoder (Record α)
  | some (.obj members) =>
      .all ((members.filter fun member => member.1 != Record.ancestorKey).map
        fun member =>
          ((decoder (some member.2)).map fun value => (member.1, value)).under
            (.key member.1))
  | part => .refuse .record part

/-- An object whose members are read one by one. -/
def object (body : Record Json → Checked α) : Decoder α
  | some (.obj members) => body members
  | part => .refuse .object part

/-- A member that stands for some value when it is absent. -/
structure OptionalMember (α : Type) where
  key : String
  default : α
  decoder : Decoder α

/-- An object of two members that may be absent. -/
def pair
    {γ : Type}
    (make : α → β → γ)
    (first : OptionalMember α)
    (second : OptionalMember β) :
    Decoder γ :=
  .object fun members =>
    make
      <$> .member first.key (.withDefault first.default first.decoder) members
      <*> .member second.key
        (.withDefault second.default second.decoder) members

/-- What the first of two decoders reads, or else the second. -/
def either (first : Decoder α) (second : Decoder β) : Decoder (α ⊕ β) :=
  fun part =>
    match first part, second part with
    | .valid value, _ => .valid (.inl value)
    | .invalid _, .valid value => .valid (.inr value)
    | .invalid _, .invalid _ => .complain .noAlternative

end Decoder

end StorageBackends.Document
