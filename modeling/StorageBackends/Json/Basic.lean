import StorageBackends.Number.Basic
import StorageBackends.Record

namespace StorageBackends

/-!
# JSON values

Objects keep their members in the listing order of records, so two objects
that list their members differently are different values.
-/

/-- A JSON value. -/
inductive Json where
  | null
  | bool (value : Bool)
  | num (value : Number)
  | str (text : String)
  | arr (elements : List Json)
  | obj (members : List (String × Json))
deriving Repr, Inhabited

namespace Json

/-- Whether a value is the null value. -/
def isNull : Json → Bool
  | .null => true
  | _ => false

/-- The text of a text value. -/
def text? : Json → Option String
  | .str text => some text
  | _ => none

/-- The members of an object. -/
def members? : Json → Option (Record Json)
  | .obj members => some members
  | _ => none

/-- The member of an object under a key. -/
def member? (key : String) : Json → Option Json
  | .obj members => Record.get? key members
  | _ => none

/-- A text, or null for its absence. -/
def ofText? : Option String → Json
  | some text => .str text
  | none => .null

/-- A natural number as a value. -/
def ofNat (value : Nat) : Json :=
  .num (Number.ofNat value)

/-- An integer as a value. -/
def ofInt (value : Int) : Json :=
  .num (Number.ofInt value)

/-- A list of texts as a value. -/
def ofTexts (texts : List String) : Json :=
  .arr (texts.map .str)

/-- An object of text members. -/
def ofTextRecord (record : Record String) : Json :=
  .obj (Record.mapValues .str record)

mutual

/-- Whether some object inside a value satisfies a test on its members. -/
def anyObject (test : Record Json → Bool) : Json → Bool
  | .arr elements => anyObjectIn test elements
  | .obj members => test members || anyObjectUnder test members
  | _ => false

/-- Whether some object inside one of the elements satisfies a test. -/
def anyObjectIn (test : Record Json → Bool) : List Json → Bool
  | [] => false
  | element :: rest =>
      anyObject test element || anyObjectIn test rest

/-- Whether some object inside one of the members satisfies a test. -/
def anyObjectUnder
    (test : Record Json → Bool) :
    List (String × Json) → Bool
  | [] => false
  | (_, value) :: rest =>
      anyObject test value || anyObjectUnder test rest

end

end Json

end StorageBackends
