import Mathlib.Data.List.Chain
import Mathlib.Data.List.Forall2
import RuleLexer.Proofs.Scan.Offsets

/-!
# Merging tokens of a text

Merging works on any pieces of a text, in any order: there may be gaps between them, they may
overlap or repeat, and they may be empty. Each merged token is made up of a group of consecutive
ones that lie side by side and have its category, and no two neighbours of the outcome could be
merged again. Merging the outcome changes nothing, and tokens at the front may be merged beforehand.

Merging puts texts together. It can also be done by byte offsets, where every merged token is cut
out of the text anew; on pieces of the text no cut fails, and the outcome is the same.
-/

namespace RuleLexer

namespace OffsetScan

/-- Adds a token to merged ones: if it continues the last of them, the two become one token, cut out
of the text from the start of the one to the end of the other. -/
def addMerged (text : List Char) (merged : Array Token) (token : Token) :
    Except OffsetFault (Array Token) :=
  match merged.back? with
  | some last =>
    if token.continues last then do
      let whole ← tokenBetween last.category text last.start token.stop
      return merged.pop.push whole
    else .ok (merged.push token)
  | none => .ok (merged.push token)

/-- Merges neighbouring tokens of the same category over a text. -/
def coalesce (text : List Char) (tokens : List Token) : Except OffsetFault (List Token) := do
  let merged ← tokens.foldlM (addMerged text) #[]
  return merged.toList

end OffsetScan

namespace Token

variable {text : List Char} {token last : Token} {tokens : List Token}

theorem continues_iff {previous : Token} :
    token.continues previous ↔
      token.category = previous.category ∧ previous.stop = token.start := by
  simp [continues]

/-- The token does not continue the one before it. -/
def Apart (previous token : Token) : Prop :=
  ¬token.continues previous

/-- Merging keeps the category and the start of the first token. -/
theorem exists_coalesceAfter_eq_cons (last : Token) (tokens : List Token) :
    ∃ first rest, coalesceAfter last tokens = first :: rest ∧
      first.category = last.category ∧ first.start = last.start := by
  induction tokens generalizing last with
  | nil => exact ⟨last, [], rfl, rfl, rfl⟩
  | cons token tokens ih =>
      rw [coalesceAfter]
      split
      · exact ih (last.append token)
      · exact ⟨last, coalesceAfter token tokens, rfl, rfl, rfl⟩

/-- The first token of the outcome stands apart from what the first of the merged ones does. -/
theorem exists_coalesceAfter_apart (apart : Apart last token) (tokens : List Token) :
    ∃ first rest, coalesceAfter token tokens = first :: rest ∧ Apart last first := by
  rcases exists_coalesceAfter_eq_cons token tokens with ⟨first, rest, eq, category_eq, start_eq⟩
  refine ⟨first, rest, eq, ?_⟩
  rw [Apart, continues_iff] at apart ⊢
  rwa [category_eq, start_eq]

theorem isChain_coalesceAfter (last : Token) (tokens : List Token) :
    (coalesceAfter last tokens).IsChain Apart := by
  induction tokens generalizing last with
  | nil => exact List.IsChain.singleton last
  | cons token tokens ih =>
      rw [coalesceAfter]
      split
      · exact ih (last.append token)
      · rename_i apart
        have later := ih token
        rcases exists_coalesceAfter_apart apart tokens with ⟨first, rest, eq, firstApart⟩
        rw [eq] at later ⊢
        exact List.IsChain.cons_cons firstApart later

theorem isChain_coalesce (tokens : List Token) : (coalesce tokens).IsChain Apart := by
  cases tokens with
  | nil => exact List.IsChain.nil
  | cons token tokens => exact isChain_coalesceAfter token tokens

theorem coalesce_coalesceAfter_append (last : Token) (tokens later : List Token) :
    coalesce (coalesceAfter last tokens ++ later) = coalesceAfter last (tokens ++ later) := by
  induction tokens generalizing last with
  | nil => rfl
  | cons token tokens ih =>
      rw [List.cons_append, coalesceAfter, coalesceAfter]
      split
      · exact ih (last.append token)
      · rename_i apart
        have merged := ih token
        -- Merging the rest beforehand does not make its first token continue `last`.
        rcases exists_coalesceAfter_apart apart tokens with ⟨first, rest, eq, firstApart⟩
        rw [eq] at merged ⊢
        rw [List.cons_append, List.cons_append, coalesce, coalesceAfter, if_neg firstApart, ← merged]
        rfl

theorem coalesce_coalesce_append (tokens later : List Token) :
    coalesce (coalesce tokens ++ later) = coalesce (tokens ++ later) := by
  cases tokens with
  | nil => rfl
  | cons token tokens => exact coalesce_coalesceAfter_append token tokens later

theorem coalesce_coalesce (tokens : List Token) : coalesce (coalesce tokens) = coalesce tokens := by
  simpa using coalesce_coalesce_append tokens []

/-- The token is a piece of the text, maybe an empty one, with the offsets of its ends. -/
def IsPieceOf (token : Token) (text : List Char) : Prop :=
  Text.slice? token.start token.stop text = some token.text.toList

instance (token : Token) (text : List Char) : Decidable (token.IsPieceOf text) :=
  inferInstanceAs (Decidable (_ = _))

theorem IsPieceOf.append (first : last.IsPieceOf text) (second : token.IsPieceOf text)
    (adjacent : last.stop = token.start) : (last.append token).IsPieceOf text := by
  rw [IsPieceOf] at first second ⊢
  rw [← adjacent] at second
  rw [Token.append, String.toList_append]
  exact Text.slice?_slice first second

/-- A group of tokens makes up a token of a text: they lie side by side from its start to its end
and have its category. -/
structure MakesUp (text : List Char) (group : List Token) (whole : Token) : Prop where
  category_eq : ∀ token ∈ group, token.category = whole.category
  adjacent : group.IsChain fun previous token => previous.stop = token.start
  start_eq : group.head?.map start = some whole.start
  stop_eq : group.getLast?.map stop = some whole.stop
  piece : whole.IsPieceOf text

theorem MakesUp.singleton (piece : token.IsPieceOf text) : MakesUp text [token] token where
  category_eq := by simp
  adjacent := List.IsChain.singleton token
  start_eq := rfl
  stop_eq := rfl
  piece := piece

theorem MakesUp.concat {group : List Token} (made : MakesUp text group last)
    (piece : token.IsPieceOf text) (continued : token.continues last) :
    MakesUp text (group ++ [token]) (last.append token) := by
  rcases continues_iff.mp continued with ⟨sameCategory, adjacent⟩
  refine ⟨?_, ?_, ?_, ?_, made.piece.append piece adjacent⟩
  · intro member mem
    rcases List.mem_append.mp mem with inside | added
    · exact made.category_eq member inside
    · rw [List.mem_singleton.mp added]
      exact sameCategory
  · refine List.isChain_append.mpr ⟨made.adjacent, List.IsChain.singleton token, ?_⟩
    intro final final_mem first first_mem
    have final_stop := made.stop_eq
    rw [Option.mem_def.mp final_mem] at final_stop
    cases first_mem
    rw [← adjacent]
    exact Option.some.inj final_stop
  · have start_eq := made.start_eq
    rcases group with _ | ⟨first, group⟩
    · cases start_eq
    · exact start_eq
  · rw [List.getLast?_concat]
    rfl

theorem exists_groups_coalesceAfter {group : List Token} (made : MakesUp text group last)
    (pieces : ∀ token ∈ tokens, token.IsPieceOf text) :
    ∃ groups : List (List Token), groups.flatten = group ++ tokens ∧
      List.Forall₂ (MakesUp text) groups (coalesceAfter last tokens) := by
  induction tokens generalizing group last with
  | nil =>
      refine ⟨[group], by simp, ?_⟩
      exact List.Forall₂.cons made List.Forall₂.nil
  | cons token tokens ih =>
      rw [List.forall_mem_cons] at pieces
      rw [coalesceAfter]
      split
      · rename_i continued
        rcases ih (made.concat pieces.1 continued) pieces.2 with ⟨groups, flatten_eq, all⟩
        exact ⟨groups, by simp [flatten_eq], all⟩
      · rcases ih (MakesUp.singleton pieces.1) pieces.2 with ⟨groups, flatten_eq, all⟩
        refine ⟨group :: groups, by simp [flatten_eq], ?_⟩
        exact List.Forall₂.cons made all

theorem exists_groups_coalesce (pieces : ∀ token ∈ tokens, token.IsPieceOf text) :
    ∃ groups : List (List Token), groups.flatten = tokens ∧
      List.Forall₂ (MakesUp text) groups (coalesce tokens) := by
  cases tokens with
  | nil => exact ⟨[], rfl, List.Forall₂.nil⟩
  | cons token tokens =>
      rw [List.forall_mem_cons] at pieces
      exact exists_groups_coalesceAfter (MakesUp.singleton pieces.1) pieces.2

theorem isPieceOf_of_makesUp {groups : List (List Token)}
    (all : List.Forall₂ (MakesUp text) groups tokens) : ∀ token ∈ tokens, token.IsPieceOf text := by
  induction all with
  | nil => simp
  | cons made _ ih => exact List.forall_mem_cons.mpr ⟨made.piece, ih⟩

theorem isPieceOf_of_mem_coalesce (pieces : ∀ token ∈ tokens, token.IsPieceOf text) :
    ∀ token ∈ coalesce tokens, token.IsPieceOf text := by
  rcases exists_groups_coalesce pieces with ⟨groups, -, all⟩
  exact isPieceOf_of_makesUp all

end Token

namespace OffsetScan

variable {text : List Char} {token last : Token} {tokens : List Token}

theorem tokenBetween_of_isPieceOf (piece : token.IsPieceOf text) :
    tokenBetween token.category text token.start token.stop = .ok token := by
  rw [Token.IsPieceOf] at piece
  simp only [tokenBetween, slice, piece, bind, Except.bind, pure, Except.pure]
  rw [String.ofList_toList]

theorem addMerged_push (merged : Array Token) (lastPiece : last.IsPieceOf text)
    (piece : token.IsPieceOf text) :
    addMerged text (merged.push last) token =
      .ok (if token.continues last then merged.push (last.append token)
        else (merged.push last).push token) := by
  rw [addMerged, Array.back?_push]
  by_cases continued : token.continues last
  · have whole := tokenBetween_of_isPieceOf
      (lastPiece.append piece (Token.continues_iff.mp continued).2)
    simp only [Token.append] at whole
    simp only [continued, if_true, whole, Array.pop_push]
    rfl
  · simp only [continued]
    rfl

theorem foldlM_addMerged (merged : Array Token) (lastPiece : last.IsPieceOf text)
    (pieces : ∀ token ∈ tokens, token.IsPieceOf text) :
    tokens.foldlM (addMerged text) (merged.push last) =
      .ok (merged ++ (Token.coalesceAfter last tokens).toArray) := by
  induction tokens generalizing merged last with
  | nil => simp [Token.coalesceAfter, pure, Except.pure]
  | cons token tokens ih =>
      rw [List.forall_mem_cons] at pieces
      rw [List.foldlM_cons, addMerged_push merged lastPiece pieces.1, Token.coalesceAfter]
      by_cases continued : token.continues last
      · have whole := lastPiece.append pieces.1 (Token.continues_iff.mp continued).2
        simp only [continued, if_true]
        exact ih merged whole pieces.2
      · simp only [continued]
        refine (ih (merged.push last) pieces.1 pieces.2).trans ?_
        simp

/-- Merging pieces of a text by offsets never fails, and puts their texts together. -/
theorem coalesce_eq (pieces : ∀ token ∈ tokens, token.IsPieceOf text) :
    coalesce text tokens = .ok (Token.coalesce tokens) := by
  cases tokens with
  | nil => rfl
  | cons token tokens =>
      rw [List.forall_mem_cons] at pieces
      have first : addMerged text #[] token = .ok ((#[] : Array Token).push token) := rfl
      have run := foldlM_addMerged #[] pieces.1 pieces.2
      rw [coalesce, List.foldlM_cons, first]
      simp only [bind, Except.bind, run]
      simp [Token.coalesce, pure, Except.pure]

/-- Merging pieces of a text never fails. Its outcome comes from cutting the pieces into consecutive
groups, each of which makes up one token, and no two neighbours of the outcome could be merged
again. Merging the outcome changes nothing, and pieces at the front may be merged beforehand. -/
theorem coalesce_pieces (text : List Char) (tokens : List Token)
    (pieces : ∀ token ∈ tokens, token.IsPieceOf text) :
    coalesce text tokens = .ok (Token.coalesce tokens) ∧
      (∃ groups : List (List Token), groups.flatten = tokens ∧
        List.Forall₂ (Token.MakesUp text) groups (Token.coalesce tokens)) ∧
      (Token.coalesce tokens).IsChain Token.Apart ∧
      coalesce text (Token.coalesce tokens) = .ok (Token.coalesce tokens) ∧
      ∀ front later, tokens = front ++ later →
        coalesce text front = .ok (Token.coalesce front) ∧
          coalesce text (Token.coalesce front ++ later) = .ok (Token.coalesce tokens) := by
  refine ⟨coalesce_eq pieces, Token.exists_groups_coalesce pieces,
    Token.isChain_coalesce tokens, ?_, ?_⟩
  · rw [coalesce_eq (Token.isPieceOf_of_mem_coalesce pieces), Token.coalesce_coalesce]
  · rintro front later rfl
    rw [List.forall_mem_append] at pieces
    have frontPieces := Token.isPieceOf_of_mem_coalesce pieces.1
    refine ⟨coalesce_eq pieces.1, ?_⟩
    rw [coalesce_eq (List.forall_mem_append.mpr ⟨frontPieces, pieces.2⟩),
      Token.coalesce_coalesce_append]

/-- Pieces with an empty one between two of its category, then one that begins before the last one
ends. -/
theorem coalesce_pieces_overlapping :
    let text := ['a', 'é', ' ', 'b']
    let word : Token := ⟨.plainText, "aé", 0, 3⟩
    let nothing : Token := ⟨.plainText, "", 3, 3⟩
    let rest : Token := ⟨.plainText, " b", 3, 5⟩
    let again : Token := ⟨.plainText, "é", 1, 3⟩
    (∀ token ∈ [word, nothing, rest, again], token.IsPieceOf text) ∧
      coalesce text [word, nothing, rest, again] = .ok [⟨.plainText, "aé b", 0, 5⟩, again] := by
  have pieces : ∀ token ∈ ([⟨.plainText, "aé", 0, 3⟩, ⟨.plainText, "", 3, 3⟩,
      ⟨.plainText, " b", 3, 5⟩, ⟨.plainText, "é", 1, 3⟩] : List Token),
      token.IsPieceOf ['a', 'é', ' ', 'b'] := by decide
  refine ⟨pieces, (coalesce_pieces _ _ pieces).1.trans ?_⟩
  decide

end OffsetScan

end RuleLexer
