/-!
# Ordered maps

A finite map from names that remembers in which order the names first came. Writing a name again keeps its place and replaces its value; erasing a name forgets its place. The view of a map is `entries`, its list of pairs, in which every name stands once.
-/

namespace Outlining

/-- Pairs of a name and a value, each name once, in the order in which the names came. -/
structure OrderedMap (α : Type) where
  entries : List (String × α)
  keys_nodup : (entries.map Prod.fst).Nodup
  deriving DecidableEq

namespace OrderedMap

variable {α : Type}

/-- The pairs after `key` is set to `value`: at its old place if it is there, else at the end. -/
def insertEntry (key : String) (value : α) : List (String × α) → List (String × α)
  | [] => [(key, value)]
  | entry :: rest => if entry.1 = key then (key, value) :: rest else entry :: insertEntry key value rest

theorem keys_insertEntry (key : String) (value : α) (entries : List (String × α)) :
    (insertEntry key value entries).map Prod.fst =
      if key ∈ entries.map Prod.fst then entries.map Prod.fst else entries.map Prod.fst ++ [key] := by
  induction entries with
  | nil => simp [insertEntry]
  | cons entry rest ih =>
    by_cases hkey : entry.1 = key
    · simp [insertEntry, hkey]
    · have hne : key ≠ entry.1 := fun h => hkey h.symm
      by_cases hmem : key ∈ rest.map Prod.fst <;> simp_all [insertEntry]

theorem keys_insertEntry_nodup {key : String} {value : α} {entries : List (String × α)}
    (h : (entries.map Prod.fst).Nodup) : ((insertEntry key value entries).map Prod.fst).Nodup := by
  rw [keys_insertEntry]
  split
  · exact h
  · rename_i hmem
    refine List.nodup_append.2 ⟨h, by simp, ?_⟩
    intro name hname other hother heq
    simp only [List.mem_singleton] at hother
    exact hmem (hother ▸ heq ▸ hname)

def empty : OrderedMap α :=
  ⟨[], by simp⟩

instance : EmptyCollection (OrderedMap α) :=
  ⟨empty⟩

/-- Sets `key` to `value`; a name that is already there keeps its place. -/
def insert (map : OrderedMap α) (key : String) (value : α) : OrderedMap α :=
  ⟨insertEntry key value map.entries, keys_insertEntry_nodup map.keys_nodup⟩

def singleton (key : String) (value : α) : OrderedMap α :=
  empty.insert key value

/-- Sets each name of the pairs in turn. -/
def insertMany (map : OrderedMap α) (pairs : List (String × α)) : OrderedMap α :=
  pairs.foldl (fun built pair => built.insert pair.1 pair.2) map

/-- The map that the pairs build up: each name at its first place, with its last value. -/
def ofList (pairs : List (String × α)) : OrderedMap α :=
  empty.insertMany pairs

/-- The first map overwritten and extended by the second. -/
def merge (first second : OrderedMap α) : OrderedMap α :=
  first.insertMany second.entries

/-- Takes `key` and its value out; the other names keep their order. -/
def erase (map : OrderedMap α) (key : String) : OrderedMap α :=
  ⟨map.entries.filter (fun entry => entry.1 != key),
    (List.filter_sublist.map Prod.fst).nodup map.keys_nodup⟩

def get? (map : OrderedMap α) (key : String) : Option α :=
  map.entries.lookup key

/-- The names, in the order in which they came. -/
def keys (map : OrderedMap α) : List String :=
  map.entries.map Prod.fst

def size (map : OrderedMap α) : Nat :=
  map.entries.length

def isEmpty (map : OrderedMap α) : Bool :=
  map.entries.isEmpty

end OrderedMap

end Outlining
