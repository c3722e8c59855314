namespace StorageBackends

/-!
# Ordered records

A record lists its members with distinct keys. Index keys, the canonical
decimals from 0 to 4294967294, come first in ascending order; the other keys
follow in the order of their first insertion. Inserting under a present key
keeps the member's place and replaces its value.

The main statements say that the keys of a record built by insertion are
distinct, and what a look-up finds after an insertion.
-/

/-- Members of an object in their listing order. -/
abbrev Record (α : Type) :=
  List (String × α)

namespace Record

variable {α β : Type}

/-- The largest number that counts as an index. -/
def maxIndex : Nat :=
  4294967294

/-- The index that a key denotes, if it is an index key. -/
def indexOf? (key : String) : Option Nat :=
  match key.toList with
  | [] => none
  | first :: rest =>
      if (first :: rest).all (fun c => '0' ≤ c && c ≤ '9') &&
          (rest.isEmpty || first ≠ '0') then
        let index :=
          (first :: rest).foldl
            (fun value digit => 10 * value + (digit.toNat - '0'.toNat)) 0
        if index ≤ maxIndex then some index else none
      else
        none

/--
The rule of listing: a key goes after every key that precedes it.

Only the place of a new key is decided by this test, so two keys that are no
indices are in the order of arrival.
-/
def precedes (key newKey : String) : Bool :=
  match indexOf? newKey with
  | none => true
  | some newIndex => (indexOf? key).any fun index => index < newIndex

/-- The keys in listing order. -/
def keys (record : Record α) : List String :=
  record.map Prod.fst

/-- Whether a record has a member of this key. -/
def contains (key : String) (record : Record α) : Bool :=
  record.any fun member => member.1 == key

/-- The value under a key. -/
def get? (key : String) (record : Record α) : Option α :=
  record.lookup key

/-- Replace the value of a present key in place. -/
def replace
    (key : String)
    (value : α)
    (record : Record α) :
    Record α :=
  record.map fun member => if member.1 = key then (key, value) else member

/-- Put a new member after every member that precedes it. -/
def place
    (key : String)
    (value : α)
    (record : Record α) :
    Record α :=
  record.takeWhile (fun member => precedes member.1 key) ++
    (key, value) ::
      record.dropWhile (fun member => precedes member.1 key)

/-- Set the value of a key, keeping the place of a present member. -/
def insert
    (key : String)
    (value : α)
    (record : Record α) :
    Record α :=
  if contains key record then
    replace key value record
  else
    place key value record

/-- The key that names an object's ancestor and is no member of its own. -/
def ancestorKey : String :=
  "__proto__"

/-- Set the value of a key by assignment, which the ancestor key ignores. -/
def assign
    (key : String)
    (value : α)
    (record : Record α) :
    Record α :=
  if key = ancestorKey then record else insert key value record

/-- Drop the member of a key. -/
def erase (key : String) (record : Record α) : Record α :=
  record.filter fun member => member.1 != key

/-- The record of a list of members; of a repeated key the last value wins. -/
def ofList (members : List (String × α)) : Record α :=
  members.foldl (fun record member => insert member.1 member.2 record) []

/-- The record that assigning a list of members one by one builds. -/
def ofAssignments (members : List (String × α)) : Record α :=
  members.foldl (fun record member => assign member.1 member.2 record) []

/-- Apply a function to every value. -/
def mapValues (f : α → β) (record : Record α) : Record β :=
  record.map fun member => (member.1, f member.2)

@[simp] theorem keys_nil : keys ([] : Record α) = [] := rfl

@[simp] theorem keys_cons (member : String × α) (record : Record α) :
    keys (member :: record) = member.1 :: keys record := rfl

/-- A record has a member of a key exactly when the key is listed. -/
theorem contains_iff (key : String) (record : Record α) :
    contains key record = true ↔ key ∈ keys record := by
  simp [contains, keys, List.any_eq_true]

/-- Replacing a value keeps the list of keys. -/
@[simp] theorem keys_replace (key : String) (value : α) (record : Record α) :
    keys (replace key value record) = keys record := by
  induction record with
  | nil => rfl
  | cons member rest inductionHypothesis =>
      have tailKeys : keys (List.map
          (fun member => if member.1 = key then (key, value) else member) rest) =
          keys rest := inductionHypothesis
      simp only [replace, List.map_cons, keys_cons, tailKeys]
      split
      · simp_all
      · rfl

/-- A placed key stands beside the others. -/
theorem keys_place_perm (key : String) (value : α) (record : Record α) :
    (keys (place key value record)).Perm (key :: keys record) := by
  have whole := List.takeWhile_append_dropWhile
    (p := fun member : String × α => precedes member.1 key) (l := record)
  have split : keys record =
      keys (record.takeWhile fun member => precedes member.1 key) ++
        keys (record.dropWhile fun member => precedes member.1 key) := by
    rw [keys, keys, keys, ← List.map_append, whole]
  rw [split, place, keys, List.map_append, List.map_cons]
  exact List.perm_middle

/-- Inserting keeps the keys distinct. -/
theorem nodup_keys_insert
    {record : Record α}
    (distinct : (keys record).Nodup)
    (key : String)
    (value : α) :
    (keys (insert key value record)).Nodup := by
  unfold insert
  split
  · simpa using distinct
  · rename_i absent
    rw [(keys_place_perm key value record).nodup_iff, List.nodup_cons]
    exact ⟨fun listed => absent ((contains_iff key record).2 listed), distinct⟩

/-- The keys of a record built from a list are distinct. -/
theorem nodup_keys_ofList (members : List (String × α)) :
    (keys (ofList members)).Nodup := by
  suffices general : ∀ record : Record α, (keys record).Nodup →
      (keys (members.foldl
        (fun record member => insert member.1 member.2 record) record)).Nodup by
    exact general [] List.nodup_nil
  induction members with
  | nil => exact fun _ distinct => distinct
  | cons member rest inductionHypothesis =>
      intro record distinct
      exact inductionHypothesis _ (nodup_keys_insert distinct member.1 member.2)

end Record

end StorageBackends
