import RelayClient.Dictionary
import RelayClient.Pack.Value

/-!
# Containers

A container keeps packed values by key. Lists under a key can be extended,
capped at their newest entries, and edited entry by entry, where entries are
told apart by their id.
-/

namespace RelayClient.Replica

open Pack (Value)

abbrev Container := Dictionary Value

/-- The id of a list entry. -/
def entryId? (entry : Value) : Option Value :=
  entry.get? "id"

/-- Whether a list entry has a given id. -/
def hasId (id entry : Value) : Bool :=
  match entryId? entry with
  | some found => found.same id
  | none => false

/-- Replaces the first entry with a given id, or adds an entry at the end. -/
def replaceOrAppend (id value : Value) : List Value → List Value
  | [] => [value]
  | entry :: rest => if hasId id entry then value :: rest else entry :: replaceOrAppend id value rest

/-- A list with an entry put in place of the one with its id, or at the end. -/
def upsert (value : Value) (entries : List Value) : List Value :=
  match entryId? value with
  | some id => replaceOrAppend id value entries
  | none => entries ++ [value]

/-- A list without the entries of a given id. -/
def without (id : Value) (entries : List Value) : List Value :=
  entries.filter fun entry => !hasId id entry

/-- The last entries of a list, at most `max` of them. -/
def newest (max : Nat) (entries : List Value) : List Value :=
  entries.drop (entries.length - max)

namespace Container

/-- The list under a key; another value, or none, counts as the empty list. -/
def listAt (container : Container) (key : String) : List Value :=
  ((container.get? key).bind Value.list?).getD []

def extend (container : Container) (key : String) (values : List Value) : Container :=
  container.insert key (.list (container.listAt key ++ values))

/-- Appends to the list under a key and keeps its newest entries. -/
def extendCapped (container : Container) (key : String) (values : List Value) (max : Nat) : Container :=
  container.insert key (.list (newest max (container.listAt key ++ values)))

/-- Puts an entry into the list under a key. A value that is no list stays as it is. -/
def upsertIn (container : Container) (key : String) (value : Value) : Container :=
  match container.get? key with
  | none => container.insert key (.list (upsert value []))
  | some (.list entries) => container.insert key (.list (upsert value entries))
  | some _ => container

/-- Removes the entries of an id from the list under a key and tells whether there were any. -/
def removeFrom (container : Container) (key : String) (id : Value) : Container × Bool :=
  match container.get? key with
  | some (.list entries) =>
      (container.insert key (.list (without id entries)), entries.any (hasId id))
  | _ => (container, false)

end Container

def receiverKey (type id : String) : String :=
  type ++ ":" ++ id

end RelayClient.Replica
