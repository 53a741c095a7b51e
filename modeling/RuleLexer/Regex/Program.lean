import RuleLexer.Regex.Expr

/-!
# Programs

An expression is laid out as a list of instructions with numbered addresses. Each part of an
expression occupies consecutive addresses and leaves at the address right after it, so the layout of
a sequence is the layouts of its parts side by side. Only the group that bounds a token, the first
one, is recorded.
-/

namespace RuleLexer.Regex

/-- The number of the group whose span is recorded. -/
def bodyGroup : Nat := 1

/-- An end of the recorded group. -/
inductive Edge
  | start
  | stop
  deriving DecidableEq, Repr

/-- One step of a program. -/
inductive Instr
  | consume (chars : CharClass)
  | require (assertion : Assertion)
  /-- Tries one address and then the other. -/
  | split (preferred other : Nat)
  | jump (target : Nat)
  /-- Records an end of the group and goes on to the next address. -/
  | record (edge : Edge)
  | accept
  deriving DecidableEq, Repr

namespace Expr

/-- The instructions of an expression whose first address is `base`. -/
def layout (base : Nat) : Expr → List Instr
  | .empty => []
  | .set chars => [.consume chars]
  | .look assertion => [.require assertion]
  | .seq first second =>
    let firstPart := first.layout base
    firstPart ++ second.layout (base + firstPart.length)
  | .alt preferred other =>
    let preferredPart := preferred.layout (base + 1)
    let otherBase := base + 1 + preferredPart.length + 1
    let otherPart := other.layout otherBase
    .split (base + 1) otherBase :: preferredPart ++
      .jump (otherBase + otherPart.length) :: otherPart
  | .plus greedy body =>
    let bodyPart := body.layout base
    let exit := base + bodyPart.length + 1
    bodyPart ++ [if greedy then .split base exit else .split exit base]
  | .group index body =>
    if index = bodyGroup then
      .record .start :: body.layout (base + 1) ++ [.record .stop]
    else body.layout base

end Expr

/-- A compiled expression. -/
structure Program where
  /-- Instructions, entered at address zero. -/
  code : Array Instr
  groupCount : Nat
  deriving DecidableEq, Repr

namespace Expr

def toProgram (expr : Expr) : Program where
  code := (expr.layout 0 ++ [Instr.accept]).toArray
  groupCount := expr.groupCount

end Expr

end RuleLexer.Regex
