import RuleLexer.Regex.Assertion
import RuleLexer.Regex.CharClass

/-!
# Regular expressions

The expressions that matching works on. Choices are ordered: the left branch of an alternative is
preferred, and a greedy repetition prefers one more round to leaving. Bounded repetitions are
spelled out as sequences and options, and `star` is an optional `plus`, so a loop is always entered
through its body.
-/

namespace RuleLexer.Regex

/-- A regular expression with ordered choice and numbered groups. -/
inductive Expr
  | empty
  | set (chars : CharClass)
  /-- The empty text where an assertion holds. -/
  | look (assertion : Assertion)
  | seq (first second : Expr)
  | alt (preferred other : Expr)
  /-- One round or more; a greedy loop prefers another round. -/
  | plus (greedy : Bool) (body : Expr)
  | group (index : Nat) (body : Expr)
  deriving DecidableEq, Repr

namespace Expr

/-- At most one round. -/
def optional (greedy : Bool) (body : Expr) : Expr :=
  if greedy then alt body empty else alt empty body

/-- Any number of rounds. -/
def star (greedy : Bool) (body : Expr) : Expr :=
  optional greedy (plus greedy body)

/-- A number of rounds, followed by a further expression. -/
def times : Nat → Expr → Expr → Expr
  | 0, _, rest => rest
  | count + 1, body, rest => seq body (times count body rest)

/-- Up to a number of rounds, each one entered only after the one before. -/
def upTo (greedy : Bool) : Nat → Expr → Expr
  | 0, _ => empty
  | 1, body => optional greedy body
  | count + 1, body => optional greedy (seq body (upTo greedy count body))

/-- Whether the expression can match only the empty text. -/
def matchesOnlyEmpty : Expr → Bool
  | empty | look _ => true
  | set _ => false
  | seq first second => first.matchesOnlyEmpty && second.matchesOnlyEmpty
  | alt preferred other => preferred.matchesOnlyEmpty && other.matchesOnlyEmpty
  | plus _ body | group _ body => body.matchesOnlyEmpty

/-- Between `least` and `most` rounds; a body that matches only the empty text makes at most one. -/
def repeated (greedy : Bool) (least : Nat) (most : Option Nat) (body : Expr) : Expr :=
  let (least, most) :=
    if body.matchesOnlyEmpty then (min least 1, some (min (most.getD 1) 1)) else (least, most)
  match most with
  | some 0 => empty
  | some bound =>
    if bound ≤ least then times (least - 1) body body
    else times least body (upTo greedy (bound - least) body)
  | none =>
    match least with
    | 0 => star greedy body
    | count + 1 => times count body (plus greedy body)

/-- The greatest number of a group in the expression; zero if it has none. -/
def groupCount : Expr → Nat
  | empty | set _ | look _ => 0
  | seq first second => max first.groupCount second.groupCount
  | alt preferred other => max preferred.groupCount other.groupCount
  | plus _ body => body.groupCount
  | group index body => max index body.groupCount

end Expr

end RuleLexer.Regex
