namespace StorageBackends

/-!
# Declared fields

A field declaration says what values a configuration option takes, whether it
is required, and under which key it arrives. Markers classify a field without
touching validation; the one kind of marker in use makes the field a secret
and names the key of its value inside the secret.
-/

/-- A further check on the values of a text field. -/
inductive TextFormat where
  | host
deriving DecidableEq, Repr

/-- The values a field takes. -/
inductive FieldKind where
  | text (format : Option TextFormat)
  | flag
  | choice (values : List String)
deriving DecidableEq, Repr

/-- A classification of a field. -/
structure Marker where
  kind : String
  key : String
deriving DecidableEq, Repr

namespace Marker

/-- The marker kind of secret fields. -/
def secretKind : String :=
  "secret"

/-- The marker that keeps a value in the secret under a key. -/
def secret (key : String) : Marker where
  kind := secretKind
  key := key

/-- Whether a marker makes a field secret. -/
def isSecret (marker : Marker) : Bool :=
  marker.kind == secretKind

/-- The key of the first secret marker. -/
def secretKey? (markers : List Marker) : Option String :=
  (markers.find? isSecret).map Marker.key

end Marker

/-- A field as its schema declares it. -/
structure FieldSpec where
  kind : FieldKind
  description : String
  required : Bool
  key : Option String
  markers : List Marker
deriving DecidableEq, Repr

namespace FieldSpec

/-- A text field. -/
def text
    (description : String)
    (required : Bool)
    (format : Option TextFormat)
    (key : Option String) :
    FieldSpec where
  kind := .text format
  description := description
  required := required
  key := key
  markers := []

/-- A field that is true or false. -/
def flag
    (description : String)
    (required : Bool)
    (key : Option String) :
    FieldSpec where
  kind := .flag
  description := description
  required := required
  key := key
  markers := []

/-- A field that takes one of some texts. -/
def choice
    (values : List String)
    (description : String)
    (required : Bool)
    (key : Option String) :
    FieldSpec where
  kind := .choice values
  description := description
  required := required
  key := key
  markers := []

/-- Mark a field as secret under a key; earlier markers stay in front. -/
def markSecret (spec : FieldSpec) (key : String) : FieldSpec :=
  { spec with markers := spec.markers ++ [Marker.secret key] }

end FieldSpec

/-- The wire key of a field name: a hyphen for every underscore. -/
def externalKey (name : String) : String :=
  String.ofList (name.toList.map fun c => if c = '_' then '-' else c)

end StorageBackends
