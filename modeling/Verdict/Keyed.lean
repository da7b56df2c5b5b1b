/-!
# Entries under keys

A list of entries with text keys, in the order in which the keys were first written. Writing a key that is present replaces its value where it stands, writing a new key appends, so lists built by `put` hold every key once and never move an entry. Documents and JSON objects are both such lists.
-/

namespace Verdict.Keyed

variable {α : Type u}

/-- The value under a key. -/
def find? (key : String) : List (String × α) → Option α
  | [] => none
  | (k, v) :: rest => if k = key then some v else find? key rest

def contains (key : String) (entries : List (String × α)) : Bool := (find? key entries).isSome

/-- Writes a value under a key: in place if the key is present, else at the end. -/
def put (key : String) (value : α) : List (String × α) → List (String × α)
  | [] => [(key, value)]
  | (k, v) :: rest => if k = key then (k, value) :: rest else (k, v) :: put key value rest

/-- Writes a value under a key as `put` does, and gives the value that it replaces. -/
def insert (key : String) (value : α) : List (String × α) → Option α × List (String × α)
  | [] => (none, [(key, value)])
  | (k, v) :: rest =>
    if k = key then (some v, (k, value) :: rest)
    else
      let (replaced?, written) := insert key value rest
      (replaced?, (k, v) :: written)

/-- Writes the entries one after the other into an empty list. -/
def ofList (entries : List (String × α)) : List (String × α) :=
  entries.foldl (fun written entry => put entry.1 entry.2 written) []

def keys (entries : List (String × α)) : List String := entries.map Prod.fst

end Verdict.Keyed
