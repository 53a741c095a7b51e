import Mathlib.Data.Nat.Find
import RuleLexer.Proofs.Bundled.Atomic
import RuleLexer.Proofs.Token.Tiles

/-!
# Where comments end

A comment is the shortest text between two rows of three backticks: its loop is lazy, so that it
stops at the first row that can close it, also where that row overlaps a longer run of backticks.
-/

namespace RuleLexer.Bundled

open Regex Expr

variable {before rest body inside back : List Char} {rule : Rule} {index count : Nat} {token : Token}
  {text : String}

theorem exists_fenceAfter (closes : ∃ place, backticks <+: body.drop place) :
    ∃ count, FenceAfter body count :=
  ⟨Nat.find closes, Nat.find_spec closes, fun _ less => Nat.find_min closes less⟩

theorem FenceAfter.exists_parts (fence : FenceAfter body count) :
    ∃ inside rest, body = inside ++ (backticks ++ rest) ∧ inside.length = count := by
  rcases fence.closes with ⟨rest, parts⟩
  refine ⟨body.take count, rest, ?_, ?_⟩
  · rw [parts, List.take_append_drop]
  · apply List.length_take_of_le
    have length := congrArg List.length parts
    simp only [backticks, List.length_append, List.length_cons, List.length_drop] at length
    omega

/-- What the rule for comments takes has three backticks at its start and three more after them. -/
theorem exists_fences_of_takes (program : rule.program = comment.toProgram)
    (takes : rule.Takes before rest count) :
    ∃ body, rest = backticks ++ body ∧ ∃ place, backticks <+: body.drop place := by
  rcases ((Rule.takes_iff program rfl).mp takes).2.1 with ⟨after, first, -⟩
  have mem := List.mem_of_mem_head? first
  rw [comment_eq, ways_fence, mem_ways_seq_iff] at mem
  rcases mem with ⟨middle, front, closing⟩
  rcases mem_ways_seq_iff.mp front with ⟨opened, opening, loop⟩
  simp only [ways_literal, List.mem_ite_nil_right, List.mem_singleton] at opening closing
  rcases opening with ⟨⟨body, parts⟩, rfl⟩
  rcases closing with ⟨closes, -⟩
  rcases reaches_of_mem_ways _ loop with ⟨taken, remains, -, -⟩
  rw [Reading.rest_skip, ← parts, List.drop_left] at remains
  refine ⟨body, parts.symm, taken.length, ?_⟩
  rwa [remains, List.drop_left]

theorem takes_comment_iff (present : splCompiled[15]? = some rule) :
    rule.Takes before rest count ↔ ∃ inside back, rest = backticks ++ (inside ++ (backticks ++ back)) ∧
      FenceAfter (inside ++ (backticks ++ back)) inside.length ∧ count = inside.length + 6 := by
  cases present
  constructor
  · intro takes
    rcases exists_fences_of_takes rfl takes with ⟨body, rfl, closes⟩
    rcases exists_fenceAfter closes with ⟨length, fence⟩
    rcases fence.exists_parts with ⟨inside, back, rfl, rfl⟩
    exact ⟨inside, back, rfl, fence, takes.unique (takes_comment rfl rfl rfl fence)⟩
  · rintro ⟨inside, back, rfl, fence, rfl⟩
    exact takes_comment rfl rfl rfl fence

/-- Three backticks in the text after the opening ones of a comment begin at its closing ones or
behind them. -/
theorem FenceAfter.closing_le (fence : FenceAfter (inside ++ (backticks ++ rest)) inside.length)
    {front : List Char}
    (parts : before ++ (backticks ++ (inside ++ (backticks ++ rest))) = front ++ (backticks ++ back))
    (behind : Text.byteLength before + 3 ≤ Text.byteLength front) :
    Text.byteLength before + 3 + Text.byteLength inside ≤ Text.byteLength front := by
  have opened : Text.byteLength (before ++ backticks) = Text.byteLength before + 3 := by
    rw [Text.byteLength_append]
    rfl
  rw [← List.append_assoc] at parts
  rcases Text.exists_append_of_byteLength_le parts (by omega) with ⟨between, rfl, later⟩
  rcases List.append_eq_append_iff.mp later with ⟨part, rfl, -⟩ | ⟨part, inside_eq, remains⟩
  · simp only [Text.byteLength_append] at opened ⊢
    omega
  · have nothing : part = [] := by
      by_contra some
      have less : between.length < inside.length := by
        rw [inside_eq, List.length_append]
        have := List.length_pos_of_ne_nil some
        omega
      apply fence.first between.length less
      rw [later, List.drop_left]
      exact List.prefix_append backticks back
    rw [inside_eq, nothing]
    simp only [Text.byteLength_append, List.append_nil] at opened ⊢
    omega

/-- A comment reaches from three backticks to the first three backticks after these. So no place in
it could have closed it before, and no other token begins in it. -/
theorem comment_is_shortest {table : RuleTable} (built : RuleTable.build spl = .ok table)
    (mem : token ∈ table.tokenize text) (comment : token.category = .commentMultiline) :
    ∃ before inside rest, text.toList = before ++ (backticks ++ (inside ++ (backticks ++ rest))) ∧
      token.start = Text.byteLength before ∧
      token.text.toList = backticks ++ (inside ++ backticks) ∧
      FenceAfter (inside ++ (backticks ++ rest)) inside.length ∧
      (∀ front back, text.toList = front ++ (backticks ++ back) →
        token.start + 3 ≤ Text.byteLength front → token.stop ≤ Text.byteLength front + 3) ∧
      ∀ other ∈ table.tokenize text, token.start < other.start → token.stop ≤ other.start := by
  cases eq_splTable built
  rcases List.mem_iff_getElem?.mp mem with ⟨place, present⟩
  rcases exists_step_of_tokenize present with ⟨cursor, after, stack, source, step, -⟩
  rcases exists_firstTakes_of_category stack step (by rw [comment]; decide)
    (by rw [comment]; rfl) with ⟨rule, count, first, text_eq⟩
  rcases (takes_comment_iff first.present).mp first.takes with ⟨inside, rest, remains, fence, rfl⟩
  have parts : text.toList = cursor.before ++
      (backticks ++ (inside ++ (backticks ++ rest))) := by
    rw [← source, Cursor.source_eq, remains]
  have start : token.start = Text.byteLength cursor.before := by
    rw [RuleTable.start_of_next? step, Cursor.offset_eq_before]
  have text_eq : token.text.toList = backticks ++ (inside ++ backticks) := by
    rw [text_eq, remains]
    simp [backticks, List.take_append]
  have stop : token.stop = Text.byteLength cursor.before + 3 + Text.byteLength inside + 3 := by
    rw [RuleTable.stop_of_next? step, Cursor.offset_eq_before, RuleTable.before_of_next? step,
      text_eq]
    simp only [Text.byteLength_append, ← Nat.add_assoc]
    rfl
  refine ⟨cursor.before, inside, rest, parts, start, text_eq, fence, ?_, ?_⟩
  · intro front back parts' behind
    rw [start] at behind
    have le := fence.closing_le (parts.symm.trans parts') behind
    omega
  · intro other other_mem earlier
    exact (splTable.tiles_tokenize text).stop_le_start mem other_mem earlier

theorem comment_is_shortest_overlapping :
    ∃ table token, RuleTable.build spl = .ok table ∧
      token ∈ table.tokenize "\x60\x60\x60\x60a\x60\x60\x60 \x60\x60\x60" ∧
      token.category = .commentMultiline ∧
      ∃ before inside rest, "\x60\x60\x60\x60a\x60\x60\x60 \x60\x60\x60".toList =
          before ++ (backticks ++ (inside ++ (backticks ++ rest))) ∧
        token.start = Text.byteLength before ∧
        token.text.toList = backticks ++ (inside ++ backticks) ∧
        FenceAfter (inside ++ (backticks ++ rest)) inside.length := by
  have fence : FenceAfter ['\x60', 'a', '\x60', '\x60', '\x60', ' ', '\x60', '\x60', '\x60'] 2 := by
    constructor
    · decide
    · decide
  obtain ⟨index, rule, first, category⟩ : ∃ index rule, Rule.FirstTakes splCompiled []
      "\x60\x60\x60\x60a\x60\x60\x60 \x60\x60\x60".toList index rule 8 ∧
        rule.category = .commentMultiline :=
    exists_firstTakes_encloses (.comment fence) not_standsAsParameter_nil
  have mem := List.mem_of_getElem? (getElem?_zero_of_firstTakes first)
  refine ⟨splTable, _, build_spl, mem, category, ?_⟩
  rcases comment_is_shortest build_spl mem category with
    ⟨before, inside, rest, parts, start, text_eq, closes, -⟩
  exact ⟨before, inside, rest, parts, start, text_eq, closes⟩

end RuleLexer.Bundled
