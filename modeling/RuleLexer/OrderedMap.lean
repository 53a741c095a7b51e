/-!
# Maps in order of insertion

A map from names to values that remembers the order in which names were first used. Names are
distinct, which the type records, so a name has one position and one value.
-/

namespace RuleLexer

/-- A map from names to values, in order of insertion. -/
structure OrderedMap (α : Type) where
  entries : List (String × α)
  nodup_keys : (entries.map Prod.fst).Nodup
  deriving DecidableEq, Repr

namespace OrderedMap

variable {α β ε : Type}

def empty : OrderedMap α := ⟨[], by simp⟩

instance : Inhabited (OrderedMap α) := ⟨empty⟩

/-- The names, in order. -/
def keys (map : OrderedMap α) : List String :=
  map.entries.map Prod.fst

/-- The values, in order. -/
def values (map : OrderedMap α) : List α :=
  map.entries.map Prod.snd

def size (map : OrderedMap α) : Nat :=
  map.entries.length

/-- The value of a name. -/
def find? (map : OrderedMap α) (key : String) : Option α :=
  map.entries.lookup key

/-- The position of a name. -/
def indexOf? (map : OrderedMap α) (key : String) : Option Nat :=
  map.entries.findIdx? (·.1 == key)

/-- The entry at a position. -/
def get? (map : OrderedMap α) (index : Nat) : Option (String × α) :=
  map.entries[index]?

/-- Changes the value of a name in place, or adds the name at the end. -/
def alterEntries (key : String) (change : Option α → α) : List (String × α) → List (String × α)
  | [] => [(key, change none)]
  | (name, value) :: rest =>
    if name = key then (name, change (some value)) :: rest
    else (name, value) :: alterEntries key change rest

theorem keys_alterEntries (key : String) (change : Option α → α) (entries : List (String × α)) :
    (alterEntries key change entries).map Prod.fst =
      if key ∈ entries.map Prod.fst then entries.map Prod.fst
      else entries.map Prod.fst ++ [key] := by
  induction entries with
  | nil => simp [alterEntries]
  | cons entry rest ih =>
    by_cases same : entry.1 = key
    · simp [alterEntries, same]
    · have different : key ≠ entry.1 := fun equal => same equal.symm
      by_cases present : key ∈ rest.map Prod.fst <;> simp_all [alterEntries]

/-- Changes the value of a name in place, or adds the name at the end. -/
def alter (map : OrderedMap α) (key : String) (change : Option α → α) : OrderedMap α where
  entries := alterEntries key change map.entries
  nodup_keys := by
    rw [keys_alterEntries]
    split
    · exact map.nodup_keys
    · rename_i absent
      rw [List.nodup_append]
      exact ⟨map.nodup_keys, by simp, by grind⟩

/-- Sets the value of a name. -/
def insert (map : OrderedMap α) (key : String) (value : α) : OrderedMap α :=
  map.alter key fun _ => value

/-- The map of a list of entries; of entries with the same name the last one counts. -/
def ofList (entries : List (String × α)) : OrderedMap α :=
  entries.foldl (fun map entry => map.insert entry.1 entry.2) empty

/-- Applies an operation that may fail to every value, in order. -/
def traverseEntries (f : String → α → Except ε β) :
    List (String × α) → Except ε (List (String × β))
  | [] => .ok []
  | (name, value) :: rest =>
    match f name value with
    | .error failure => .error failure
    | .ok result =>
      match traverseEntries f rest with
      | .error failure => .error failure
      | .ok results => .ok ((name, result) :: results)

theorem keys_traverseEntries {f : String → α → Except ε β} {entries : List (String × α)}
    {results : List (String × β)} (traversed : traverseEntries f entries = .ok results) :
    results.map Prod.fst = entries.map Prod.fst := by
  induction entries generalizing results with
  | nil => cases traversed; rfl
  | cons entry rest ih =>
    simp only [traverseEntries] at traversed
    split at traversed
    · cases traversed
    · split at traversed
      · cases traversed
      · rename_i restTraversed
        cases traversed
        simp [ih restTraversed]

/-- Applies an operation that may fail to every value, in order; the first failure counts. -/
def traverse (map : OrderedMap α) (f : String → α → Except ε β) : Except ε (OrderedMap β) :=
  match traversed : traverseEntries f map.entries with
  | .error failure => .error failure
  | .ok results => .ok ⟨results, by rw [keys_traverseEntries traversed]; exact map.nodup_keys⟩

/-- Whether two maps have the same names with the same values, in whatever order. -/
def sameEntries [DecidableEq α] (first second : OrderedMap α) : Bool :=
  first.size == second.size &&
    first.entries.all fun entry => second.find? entry.1 == some entry.2

end OrderedMap

end RuleLexer
