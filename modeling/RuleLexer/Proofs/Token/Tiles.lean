import RuleLexer.Proofs.Scan.Partition

/-!
# Tokens side by side

Tokens tile a piece of a text if each one begins where the one before it ends, none is empty, and
they cover the piece. The tokens of a scan tile the rest of the text, and merging neighbours of the
same category keeps a tiling.
-/

namespace RuleLexer

namespace Token

/-- The token is the given part of a text, after the given front. -/
structure Covers (token : Token) (front part : List Char) : Prop where
  nonempty : part ≠ []
  start_eq : token.start = Text.byteLength front
  stop_eq : token.stop = Text.byteLength front + Text.byteLength part
  text_eq : token.text = String.ofList part

/-- The tokens lie side by side after the front and cover a piece of the text. -/
inductive Tiles : List Char → List Token → List Char → Prop
  | nil {front : List Char} : Tiles front [] []
  | cons {front part piece : List Char} {token : Token} {tokens : List Token}
    (first : token.Covers front part) (later : Tiles (front ++ part) tokens piece) :
    Tiles front (token :: tokens) (part ++ piece)

variable {front part part' piece : List Char} {token last : Token} {tokens : List Token}

/-- Two parts side by side make one part. -/
theorem Covers.append (first : last.Covers front part)
    (second : token.Covers (front ++ part) part') :
    (last.append token).Covers front (part ++ part') := by
  refine ⟨?_, first.start_eq, ?_, ?_⟩
  · exact List.append_ne_nil_of_left_ne_nil first.nonempty part'
  · rw [Token.append, second.stop_eq, Text.byteLength_append, Text.byteLength_append, Nat.add_assoc]
  · rw [Token.append, first.text_eq, second.text_eq, String.ofList_append]

theorem Tiles.coalesceAfter (first : last.Covers front part)
    (later : Tiles (front ++ part) tokens piece) :
    Tiles front (coalesceAfter last tokens) (part ++ piece) := by
  induction tokens generalizing front last part piece with
  | nil =>
      cases later
      exact Tiles.cons first Tiles.nil
  | cons token tokens ih =>
      cases later with
      | cons next rest =>
          rw [Token.coalesceAfter]
          split
          · rw [← List.append_assoc]
            refine ih (first.append next) ?_
            rw [← List.append_assoc]
            exact rest
          · exact Tiles.cons first (ih next rest)

theorem Tiles.coalesce (tiles : Tiles front tokens piece) : Tiles front (coalesce tokens) piece := by
  cases tiles with
  | nil => exact Tiles.nil
  | cons first later => exact later.coalesceAfter first

theorem Tiles.le_start (tiles : Tiles front tokens piece) (mem : token ∈ tokens) :
    Text.byteLength front ≤ token.start := by
  induction tiles with
  | nil => cases mem
  | cons first later ih =>
      rcases List.mem_cons.mp mem with rfl | inner
      · exact Nat.le_of_eq first.start_eq.symm
      · have le := ih inner
        rw [Text.byteLength_append] at le
        omega

/-- A token does not begin before an earlier one ends. -/
theorem Tiles.stop_le_start {other : Token} (tiles : Tiles front tokens piece)
    (mem : token ∈ tokens) (other_mem : other ∈ tokens) (earlier : token.start < other.start) :
    token.stop ≤ other.start := by
  induction tiles with
  | nil => cases mem
  | cons first later ih =>
      rcases List.mem_cons.mp mem with rfl | inner
      · rcases List.mem_cons.mp other_mem with rfl | behind
        · exact absurd earlier (Nat.lt_irrefl _)
        · have le := later.le_start behind
          rwa [Text.byteLength_append, ← first.stop_eq] at le
      · rcases List.mem_cons.mp other_mem with rfl | behind
        · have le := later.le_start inner
          have start := first.start_eq
          rw [Text.byteLength_append] at le
          omega
        · exact ih inner behind

end Token

namespace RuleTable

/-- The tokens of a scan tile the text after the cursor. -/
theorem tiles_steps (table : RuleTable) (cursor : Cursor) :
    Token.Tiles cursor.before ((table.steps cursor).map Prod.fst) cursor.rest := by
  apply steps_induction
    (motive := fun cursor steps => Token.Tiles cursor.before (steps.map Prod.fst) cursor.rest)
  · intro cursor ended
    rw [ended]
    exact Token.Tiles.nil
  · intro cursor token after step ih
    rcases next?_eq_some_iff.mp step with ⟨taken, remains, passed, token_eq, made⟩
    rw [passed] at ih
    rw [remains, List.map_cons]
    refine Token.Tiles.cons ⟨made.taken_ne_nil, ?_, ?_, ?_⟩ ih
    · rw [token_eq, tokenOf, Cursor.offset_eq_before]
    · rw [token_eq, tokenOf, Cursor.offset_eq_before]
    · rw [token_eq, tokenOf]

theorem tiles_tokenize (table : RuleTable) (text : String) :
    Token.Tiles [] (table.tokenize text) text.toList := by
  rw [tokens_tokenize]
  exact table.tiles_steps (table.cursor text)

/-- The tokens of a text tile it, whether or not they are merged. -/
theorem tiles_merged (table : RuleTable) (merge : Bool) (text : String) :
    Token.Tiles [] (if merge then Token.coalesce (table.tokenize text) else table.tokenize text)
      text.toList := by
  have tiles := table.tiles_tokenize text
  cases merge with
  | false => exact tiles
  | true => exact tiles.coalesce

end RuleTable

end RuleLexer
