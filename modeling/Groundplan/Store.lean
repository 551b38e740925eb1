import Groundplan.Failure

/-!
# Record collections

Named collections of plain records by key. A record is kept as it was when it was written.

## Main definitions

* `collectionNames`: the collections that there are
* `Store`: the records by collection and key
* `Store.put`, `Store.get`, `Store.delete`, `Store.list`
-/

namespace Groundplan

/-- The collections that there are. -/
def collectionNames : List String :=
  ["policies", "templates", "connections", "credentials", "deployments", "states"]

/-- Records by collection and key, in order of first insertion. -/
abbrev Store := Entries (Entries Data)

namespace Store

/-- The records of a collection. -/
def collection (s : Store) (name : String) : Answer (Entries Data) :=
  if collectionNames.contains name then .ok ((Entries.get? name s).getD [])
  else .error (.missingKey (Text.quoted ("Unknown collection: " ++ name)))

/-- Writes a record. -/
def put (s : Store) (name key : String) (record : Data) : Answer Unit × Store :=
  match s.collection name with
  | .error f => (.error f, s)
  | .ok rs => (.ok (), Entries.set name (Entries.set key record rs) s)

/-- The record under a key, null if there is none. -/
def get (s : Store) (name key : String) : Answer Data :=
  (s.collection name).map fun rs => (Entries.get? key rs).getD .null

/-- Drops the record under a key; whether there was one that is not null. -/
def delete (s : Store) (name key : String) : Answer Bool × Store :=
  match s.collection name with
  | .error f => (.error f, s)
  | .ok rs =>
    (.ok (match Entries.get? key rs with
      | none => false
      | some .null => false
      | some _ => true), Entries.set name (Entries.erase key rs) s)

/-- The records that pass a test, in order of first insertion. -/
def list (s : Store) (name : String) (test : Data → Bool) : Answer (List Data) :=
  (s.collection name).map fun rs => (rs.map (·.2)).filter test

end Store

end Groundplan
