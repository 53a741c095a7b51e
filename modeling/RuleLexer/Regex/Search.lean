import RuleLexer.Regex.Program

/-!
# Matching

A program runs over a text as an ordered list of threads that advance together, one character at a
time. The order is that of preference: the first thread is the one that a search by trial and error
would follow first. At each position an address is entered at most once, by the most preferred
thread that reaches it, which bounds the work by the product of the lengths of program and text and
ends every loop that consumes nothing. A thread that accepts discards all threads after it.

Positions count characters from the place where matching began.
-/

namespace RuleLexer.Regex

/-- The recorded ends of the group. -/
structure Marks where
  start : Option Nat := none
  stop : Option Nat := none
  deriving DecidableEq, Repr

namespace Marks

/-- Records an end of the group. -/
def record (marks : Marks) (position : Nat) : Edge → Marks
  | .start => { marks with start := some position }
  | .stop => { marks with stop := some position }

end Marks

/-- A way of matching under way. -/
structure Thread where
  address : Nat
  marks : Marks
  deriving DecidableEq, Repr

/-- A match: its length and the span of the recorded group, in characters. -/
structure Match where
  length : Nat
  /-- Start and end of the recorded group, if it took part. -/
  body : Option (Nat × Nat)
  deriving DecidableEq, Repr

/-- The threads that wait at a position, the most preferred one last, and the addresses entered. -/
structure Frontier where
  entered : Array Bool
  /-- Threads waiting at an instruction that takes a character or accepts, in reverse order. -/
  waiting : List Thread
  deriving DecidableEq, Repr

namespace Program

/-- Follows the instructions that consume nothing, in order of preference. -/
def explore (program : Program) (around : Surroundings) (position : Nat) :
    Nat → Thread → Frontier → Frontier
  | 0, _, frontier => frontier
  | fuel + 1, ⟨address, marks⟩, ⟨entered, waiting⟩ =>
    if entered.getD address true then ⟨entered, waiting⟩
    else
      let entered := entered.setIfInBounds address true
      match program.code[address]? with
      | none => ⟨entered, waiting⟩
      | some (.consume _) | some .accept => ⟨entered, ⟨address, marks⟩ :: waiting⟩
      | some (.require assertion) =>
        if assertion.holds around then
          program.explore around position fuel ⟨address + 1, marks⟩ ⟨entered, waiting⟩
        else ⟨entered, waiting⟩
      | some (.split preferred other) =>
        program.explore around position fuel ⟨other, marks⟩
          (program.explore around position fuel ⟨preferred, marks⟩ ⟨entered, waiting⟩)
      | some (.jump target) =>
        program.explore around position fuel ⟨target, marks⟩ ⟨entered, waiting⟩
      | some (.record edge) =>
        program.explore around position fuel ⟨address + 1, marks.record position edge⟩
          ⟨entered, waiting⟩

/-- The threads that wait at a position when the given ones arrive there, in order of preference. -/
def frontier (program : Program) (around : Surroundings) (position : Nat)
    (arrivals : List Thread) : List Thread :=
  let explored := arrivals.foldl
    (fun frontier thread =>
      program.explore around position (program.code.size + 1) thread frontier)
    ⟨Array.replicate program.code.size false, []⟩
  explored.waiting.reverse

/-- The threads before the first accepting one, and that one. -/
def untilAccept (program : Program) : List Thread → List Thread × Option Thread
  | [] => ([], none)
  | thread :: rest =>
    if program.code[thread.address]? = some .accept then ([], some thread)
    else
      let (before, accepting) := program.untilAccept rest
      (thread :: before, accepting)

/-- The threads that go on after a character. -/
def advance (program : Program) (char : Char) (threads : List Thread) : List Thread :=
  threads.filterMap fun thread =>
    match (program.code[thread.address]? : Option Instr) with
    | some (.consume chars) =>
      if chars.contains char then some { thread with address := thread.address + 1 } else none
    | _ => none

/-- The match that ends at a position with the given marks. -/
def matchAt (position : Nat) (marks : Marks) : Match where
  length := position
  body := marks.start.bind fun start => marks.stop.map fun stop => (start, stop)

/-- Runs threads over the rest of a text; `best` is the match found so far. -/
def run (program : Program) (following : Option Char) :
    Option Char → List Char → Nat → List Thread → Option Match → Option Match
  | previous, rest, position, arrivals, best =>
    let next := rest.head?.or following
    let (live, accepting) :=
      program.untilAccept (program.frontier ⟨previous, next⟩ position arrivals)
    let best := (accepting.map fun thread => matchAt position thread.marks).or best
    match rest with
    | [] => best
    | char :: rest =>
      match program.advance char live with
      | [] => best
      | arrivals => program.run following (some char) rest (position + 1) arrivals best

/-- The preferred match at the start of `text`, which stands between the characters `previous` and
`following` of a larger text. -/
def match? (program : Program) (previous : Option Char) (text : List Char)
    (following : Option Char) : Option Match :=
  program.run following previous text 0 [⟨0, {}⟩] none

end Program

end RuleLexer.Regex
