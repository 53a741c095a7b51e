import RuleLexer.Number.Double
import RuleLexer.OrderedMap

/-!
# Values of TOML documents

A value is a scalar, an array or a table. A table keeps its entries in order, and it remembers how
it was written, because that decides what may still be added to it. Adding an entry never replaces
one: a name is given a value once.
-/

namespace RuleLexer.Toml

/-- How a table was written. -/
inductive TableForm
  | inline
  /-- Under a header of its own, or at the top of the document. -/
  | headed
  /-- Only as a part of longer headers. -/
  | implied
  /-- Only as a part of dotted keys. -/
  | dotted
  deriving DecidableEq, Repr

/-- How an array was written. -/
inductive ArrayForm
  | inline
  /-- As a sequence of headers in double brackets. -/
  | headed
  deriving DecidableEq, Repr

/-- A value of a document. -/
inductive Value
  | string (text : String)
  | integer (value : Int)
  | float (value : Double)
  | boolean (value : Bool)
  /-- A date, a time of day, or both, in its usual form. -/
  | moment (text : String)
  | array (form : ArrayForm) (items : List Value)
  | table (form : TableForm) (entries : List (String × Value))
  deriving Repr, Inhabited

/-- The entries of a table, in order. -/
abbrev Entries := List (String × Value)

namespace Entries

/-- Sets the value of a name, in place if the name has one already. -/
def set (entries : Entries) (key : String) (value : Value) : Entries :=
  OrderedMap.alterEntries key (fun _ => value) entries

/-- Adds a name with its value at the end; fails if the name has a value already. -/
def add? (entries : Entries) (key : String) (value : Value) : Option Entries :=
  if (entries.lookup key).isSome then none else some (entries ++ [(key, value)])

/-- Follows a path of names through tables and changes the entries of the table at its end. Tables
that are missing on the way are made in the given form; of an array of headed tables the last one is
meant. A dotted key does not lead into a table with a header, and nothing leads into a value. -/
def change? (made : TableForm) (change : TableForm → Entries → Option Entries) :
    List String → TableForm → Entries → Option Entries
  | [], form, entries => change form entries
  | key :: path, _, entries =>
    match entries.lookup key with
    | none =>
      (change? made change path made []).map fun inner => entries ++ [(key, .table made inner)]
    | some (.table form inner) =>
      if form = .inline ∨ (made = .dotted ∧ form = .headed) then none
      else
        (change? made change path form inner).map fun inner => entries.set key (.table form inner)
    | some (.array .headed items) =>
      match items.getLast? with
      | some (.table form inner) =>
        (change? made change path form inner).map fun inner =>
          entries.set key (.array .headed (items.dropLast ++ [.table form inner]))
      | _ => none
    | some _ => none

/-- Gives a value to a dotted key. The tables on the way are those of dotted keys only. -/
def assign? (entries : Entries) (path : List String) (key : String) (value : Value) :
    Option Entries :=
  change? .dotted
    (fun form inner =>
      if decide (form = .dotted) = path.isEmpty then none else add? inner key value)
    path .headed entries

end Entries

end RuleLexer.Toml
