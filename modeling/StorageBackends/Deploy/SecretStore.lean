import StorageBackends.Record

namespace StorageBackends

/-!
# The secret store

A secret has a name and a content, and is handed out under a reference. Each
time a name is written a new reference is issued, and no reference is issued
twice. Where references come from is left open: a store has a supply of them
that never runs out and never repeats itself. A reference whose secret was
replaced or removed leads nowhere.
-/

/-- A supply of references, one for each place in the order of issue. -/
structure ReferenceSupply where
  referenceAt : Nat → String
  distinct :
    ∀ {place other}, referenceAt place = referenceAt other → place = other

namespace ReferenceSupply

/-- The start of the references that are numbered. -/
def numberedStart : String :=
  "secret:#"

/-- The supply that numbers its references. -/
def numbered : ReferenceSupply where
  referenceAt place := numberedStart ++ toString place
  distinct := by
    intro place other same
    have digits : place.repr = other.repr := by
      simpa [String.append_right_inj] using same
    have readBack : ∀ number : Nat,
        Nat.ofDigitChars 10 number.repr.toList 0 = number := by
      intro number
      simp
    rw [← readBack place, digits, readBack]

end ReferenceSupply

/-- A stored secret and the reference that leads to it. -/
structure StoredSecret where
  reference : String
  content : Record String
deriving DecidableEq, Repr

/-- The secrets by name, and how many references of the supply were issued. -/
structure SecretStore where
  supply : ReferenceSupply
  issued : Nat
  secrets : Record StoredSecret

namespace SecretStore

/-- The store without secrets. -/
def empty (supply : ReferenceSupply) : SecretStore where
  supply := supply
  issued := 0
  secrets := []

/-- The reference that the next write will issue. -/
def nextReference (store : SecretStore) : String :=
  store.supply.referenceAt (store.issued + 1)

/-- Store or replace a secret under a reference that is issued for it. -/
def putUnder
    (store : SecretStore)
    (reference name : String)
    (content : Record String) :
    SecretStore where
  supply := store.supply
  issued := store.issued + 1
  secrets := Record.insert name ⟨reference, content⟩ store.secrets

/-- Store or replace a secret; the new reference and the new store. -/
def put
    (store : SecretStore)
    (name : String)
    (content : Record String) :
    String × SecretStore :=
  (store.nextReference, store.putUnder store.nextReference name content)

/-- Remove a secret; an unknown name changes nothing. -/
def remove (store : SecretStore) (name : String) : SecretStore :=
  { store with secrets := Record.erase name store.secrets }

/-- The content under a reference. -/
def resolve? (store : SecretStore) (reference : String) :
    Option (Record String) :=
  (store.secrets.find? fun secret => secret.2.reference == reference).map
    fun secret => secret.2.content

/-- Whether a secret of a name is stored. -/
def has (store : SecretStore) (name : String) : Bool :=
  Record.contains name store.secrets

/-- The names of the stored secrets. -/
def names (store : SecretStore) : List String :=
  Record.keys store.secrets

end SecretStore

end StorageBackends
