import RuleLexer.Proofs.Token.Coalesce
import RuleLexer.Proofs.Token.Tiles

/-!
# Maximal runs of a category

Tokens that tile a text give every byte of it a category. Among all tilings that give the same
categories there is one in which neighbours differ, and merging leads there: two such tilings cannot
stop their first tokens at different offsets, because the one that stops earlier has a token of
another category behind.
-/

namespace RuleLexer

namespace Token

variable {front part piece : List Char} {token last : Token} {tokens : List Token} {offset : Nat}

/-- The category of the byte at an offset: that of the first token that covers it. -/
def categoryAt (tokens : List Token) (offset : Nat) : Option Category :=
  (tokens.find? fun token => token.start ≤ offset && offset < token.stop).map category

theorem categoryAt_cons (token : Token) (tokens : List Token) (offset : Nat) :
    categoryAt (token :: tokens) offset =
      if token.start ≤ offset ∧ offset < token.stop then some token.category
      else categoryAt tokens offset := by
  simp only [categoryAt, List.find?_cons, ← Bool.decide_and]
  split <;> simp_all

theorem categoryAt_append_cons (ordered : last.start ≤ last.stop)
    (ordered' : token.start ≤ token.stop) (continued : token.continues last) :
    categoryAt (last.append token :: tokens) offset =
      categoryAt (last :: token :: tokens) offset := by
  rcases continues_iff.mp continued with ⟨sameCategory, adjacent⟩
  simp only [categoryAt_cons, append]
  by_cases inLast : last.start ≤ offset ∧ offset < last.stop
  · rw [if_pos inLast, if_pos (by omega)]
  · by_cases inToken : token.start ≤ offset ∧ offset < token.stop
    · rw [if_neg inLast, if_pos inToken, if_pos (by omega), sameCategory]
    · rw [if_neg inLast, if_neg inToken, if_neg (by omega)]

theorem categoryAt_coalesceAfter (ordered : last.start ≤ last.stop)
    (allOrdered : ∀ token ∈ tokens, token.start ≤ token.stop) :
    categoryAt (coalesceAfter last tokens) offset = categoryAt (last :: tokens) offset := by
  induction tokens generalizing last with
  | nil => rfl
  | cons token tokens ih =>
      rw [List.forall_mem_cons] at allOrdered
      rw [coalesceAfter]
      split
      · rename_i continued
        have wholeOrdered : (last.append token).start ≤ (last.append token).stop := by
          have adjacent := (continues_iff.mp continued).2
          simp only [append]
          omega
        rw [ih wholeOrdered allOrdered.2, categoryAt_append_cons ordered allOrdered.1 continued]
      · rw [categoryAt_cons, categoryAt_cons, ih allOrdered.1 allOrdered.2]

/-- Merging changes the category of no byte. -/
theorem categoryAt_coalesce (ordered : ∀ token ∈ tokens, token.start ≤ token.stop) (offset : Nat) :
    categoryAt (coalesce tokens) offset = categoryAt tokens offset := by
  cases tokens with
  | nil => rfl
  | cons token tokens =>
      rw [List.forall_mem_cons] at ordered
      exact categoryAt_coalesceAfter ordered.1 ordered.2

theorem Covers.start_lt_stop (covers : token.Covers front part) : token.start < token.stop := by
  have := Text.byteLength_pos covers.nonempty
  rw [covers.start_eq, covers.stop_eq]
  omega

theorem Covers.isPieceOf (covers : token.Covers front part) (rest : List Char) :
    token.IsPieceOf (front ++ (part ++ rest)) := by
  rw [IsPieceOf, covers.start_eq, covers.stop_eq, covers.text_eq, Text.slice?_append,
    String.toList_ofList]

theorem Tiles.isPieceOf (tiles : Tiles front tokens piece) :
    ∀ token ∈ tokens, token.IsPieceOf (front ++ piece) := by
  induction tiles with
  | nil => simp
  | cons first later ih =>
      rw [List.append_assoc] at ih
      exact List.forall_mem_cons.mpr ⟨first.isPieceOf _, ih⟩

theorem Tiles.start_le_stop (tiles : Tiles front tokens piece) :
    ∀ token ∈ tokens, token.start ≤ token.stop := by
  induction tiles with
  | nil => simp
  | cons first later ih =>
      exact List.forall_mem_cons.mpr ⟨Nat.le_of_lt first.start_lt_stop, ih⟩

theorem Tiles.categoryAt_of_lt (tiles : Tiles front tokens piece)
    (before : offset < Text.byteLength front) : categoryAt tokens offset = none := by
  rw [categoryAt, Option.map_eq_none_iff, List.find?_eq_none]
  intro token mem
  have := tiles.le_start mem
  simp only [Bool.and_eq_true, decide_eq_true_eq]
  omega

theorem tiles_nil_iff : Tiles front [] piece ↔ piece = [] := by
  constructor
  · intro tiles
    cases tiles
    rfl
  · rintro rfl
    exact Tiles.nil

theorem tiles_cons_iff : Tiles front (token :: tokens) piece ↔
    ∃ part rest, piece = part ++ rest ∧ token.Covers front part ∧
      Tiles (front ++ part) tokens rest := by
  constructor
  · intro tiles
    cases tiles with
    | cons first later => exact ⟨_, _, rfl, first, later⟩
  · rintro ⟨part, rest, rfl, first, later⟩
    exact Tiles.cons first later

theorem Tiles.categoryAt_first (tiles : Tiles front (token :: tokens) piece)
    (behind : Text.byteLength front ≤ offset) (inside : offset < token.stop) :
    categoryAt (token :: tokens) offset = some token.category := by
  rcases tiles_cons_iff.mp tiles with ⟨part, rest, -, first, -⟩
  rw [categoryAt_cons, first.start_eq, if_pos ⟨behind, inside⟩]

theorem Tiles.lt_stop_first (tiles : Tiles front (token :: tokens) piece) :
    Text.byteLength front < token.stop := by
  rcases tiles_cons_iff.mp tiles with ⟨part, rest, -, first, -⟩
  rw [← first.start_eq]
  exact first.start_lt_stop

theorem Tiles.eq_nil (tiles : Tiles front tokens []) : tokens = [] := by
  rcases tokens with _ | ⟨token, tokens⟩
  · rfl
  · rcases tiles_cons_iff.mp tiles with ⟨part, rest, parts, first, -⟩
    exact absurd (List.append_eq_nil_iff.mp parts.symm).1 first.nonempty

theorem Covers.unique {other : Token} (covers : token.Covers front part)
    (covers' : other.Covers front part) (category_eq : token.category = other.category) :
    token = other := by
  cases token
  cases other
  simp only [Token.mk.injEq]
  exact ⟨category_eq, covers.text_eq.trans covers'.text_eq.symm,
    covers.start_eq.trans covers'.start_eq.symm, covers.stop_eq.trans covers'.stop_eq.symm⟩

theorem categoryAt_of_stop_le (behind : token.stop ≤ offset) :
    categoryAt (token :: tokens) offset = categoryAt tokens offset := by
  rw [categoryAt_cons, if_neg (by omega)]

/-- Neighbours differ in category. -/
def Alternates (tokens : List Token) : Prop :=
  tokens.IsChain fun previous token => previous.category ≠ token.category

/-- Tokens side by side that could not be merged differ in category. -/
theorem Tiles.alternates (tiles : Tiles front tokens piece) (apart : tokens.IsChain Apart) :
    Alternates tokens := by
  induction tiles with
  | nil => exact List.IsChain.nil
  | @cons front part piece token tokens first later ih =>
      cases later with
      | nil => exact List.IsChain.singleton token
      | @cons _ _ _ next tokens second later =>
          rw [List.isChain_cons_cons] at apart
          refine List.IsChain.cons_cons ?_ (ih apart.2)
          intro sameCategory
          apply apart.1
          rw [continues_iff, first.stop_eq, second.start_eq, Text.byteLength_append]
          exact ⟨sameCategory.symm, rfl⟩

theorem Alternates.tail (alternates : Alternates (token :: tokens)) : Alternates tokens :=
  List.IsChain.tail alternates

variable {token' : Token} {tokens' : List Token}

theorem Tiles.category_first_eq (tiles : Tiles front (token :: tokens) piece)
    (tiles' : Tiles front (token' :: tokens') piece)
    (same : ∀ offset, categoryAt (token :: tokens) offset = categoryAt (token' :: tokens') offset) :
    token.category = token'.category := by
  have begins := same (Text.byteLength front)
  rw [tiles.categoryAt_first (Nat.le_refl _) tiles.lt_stop_first,
    tiles'.categoryAt_first (Nat.le_refl _) tiles'.lt_stop_first] at begins
  exact Option.some.inj begins

/-- If neighbours differ in one tiling, the first token of another one with the same categories does
not stop later than the first one there. -/
theorem Tiles.first_stop_le (tiles : Tiles front (token :: tokens) piece)
    (alternates : Alternates (token :: tokens)) (tiles' : Tiles front (token' :: tokens') piece)
    (same : ∀ offset, categoryAt (token :: tokens) offset = categoryAt (token' :: tokens') offset) :
    token'.stop ≤ token.stop := by
  by_contra stopsEarlier
  rcases tiles_cons_iff.mp tiles with ⟨part, rest, piece_eq, first, later⟩
  rcases tiles_cons_iff.mp tiles' with ⟨part', rest', piece_eq', first', -⟩
  have stop_eq := first.stop_eq
  have stop_eq' := first'.stop_eq
  rcases Text.exists_append_of_byteLength_le (piece_eq.symm.trans piece_eq') (by omega) with
    ⟨middle, part'_eq, rest_eq⟩
  rcases tokens with _ | ⟨next, tokens⟩
  · rw [tiles_nil_iff.mp later] at rest_eq
    rw [part'_eq, (List.append_eq_nil_iff.mp rest_eq.symm).1, List.append_nil] at stop_eq'
    omega
  · have nextBegins : token.stop = Text.byteLength (front ++ part) := by
      rw [Text.byteLength_append, stop_eq]
    have inNext := later.categoryAt_first (Nat.le_refl _) later.lt_stop_first
    have inOther := tiles'.categoryAt_first (Nat.le_of_lt tiles.lt_stop_first)
      (Nat.lt_of_not_le stopsEarlier)
    rw [← same, categoryAt_of_stop_le (Nat.le_refl _), nextBegins, inNext,
      ← tiles.category_first_eq tiles' same] at inOther
    rw [Alternates, List.isChain_cons_cons] at alternates
    exact alternates.1 (Option.some.inj inOther).symm

/-- There is only one tiling with given categories in which neighbours differ. -/
theorem Tiles.unique (tiles : Tiles front tokens piece) (alternates : Alternates tokens)
    (tiles' : Tiles front tokens' piece) (alternates' : Alternates tokens')
    (same : ∀ offset, categoryAt tokens offset = categoryAt tokens' offset) :
    tokens = tokens' := by
  induction tokens generalizing front tokens' piece with
  | nil =>
      rw [tiles_nil_iff.mp tiles] at tiles'
      exact tiles'.eq_nil.symm
  | cons token tokens ih =>
      rcases tokens' with _ | ⟨token', tokens'⟩
      · rw [tiles_nil_iff.mp tiles'] at tiles
        exact tiles.eq_nil
      · have category_eq := tiles.category_first_eq tiles' same
        have stop_eq : token.stop = token'.stop := Nat.le_antisymm
          (tiles'.first_stop_le alternates' tiles fun offset => (same offset).symm)
          (tiles.first_stop_le alternates tiles' same)
        rcases tiles_cons_iff.mp tiles with ⟨part, rest, rfl, first, later⟩
        rcases tiles_cons_iff.mp tiles' with ⟨part', rest', parts, first', later'⟩
        have bytes : Text.byteLength part = Text.byteLength part' := by
          rw [first.stop_eq, first'.stop_eq] at stop_eq
          omega
        rcases Text.append_inj_of_byteLength parts bytes with ⟨rfl, rfl⟩
        have sameLater : ∀ offset, categoryAt tokens offset = categoryAt tokens' offset := by
          intro offset
          by_cases behind : token.stop ≤ offset
          · rw [← categoryAt_of_stop_le behind, same, categoryAt_of_stop_le (by omega)]
          · have before : offset < Text.byteLength (front ++ part) := by
              rw [Text.byteLength_append, ← first.stop_eq]
              omega
            rw [later.categoryAt_of_lt before, later'.categoryAt_of_lt before]
        rw [first.unique first' category_eq,
          ih later alternates.tail later' alternates'.tail sameLater]

/-- The tokens tile the text, give every byte the category that other tokens give it, and neighbours
differ. -/
structure AreRuns (text : List Char) (tokens runs : List Token) : Prop where
  tiles : Tiles [] runs text
  sameCategories : ∀ offset, categoryAt runs offset = categoryAt tokens offset
  alternates : Alternates runs

theorem Tiles.areRuns_coalesce (tiles : Tiles [] tokens piece) :
    AreRuns piece tokens (Token.coalesce tokens) where
  tiles := tiles.coalesce
  sameCategories := categoryAt_coalesce tiles.start_le_stop
  alternates := tiles.coalesce.alternates (isChain_coalesce tokens)

theorem AreRuns.unique {runs runs' : List Token} (areRuns : AreRuns piece tokens runs)
    (areRuns' : AreRuns piece tokens runs') : runs = runs' := by
  apply areRuns.tiles.unique areRuns.alternates areRuns'.tiles areRuns'.alternates
  intro offset
  rw [areRuns.sameCategories, areRuns'.sameCategories]

/-- Tokens that tile a text, such as those of any scan, are merged into the maximal runs of their
categories: the one tiling that gives every byte its category and in which neighbours differ. So
merging any two tilings with the same categories gives the same. -/
theorem areRuns_iff_eq_coalesce (text : String) :
    (∀ table : RuleTable, Tiles [] (table.tokenize text) text.toList) ∧
      ∀ tokens, Tiles [] tokens text.toList →
        OffsetScan.coalesce text.toList tokens = .ok (coalesce tokens) ∧
          (∀ runs, AreRuns text.toList tokens runs ↔ runs = coalesce tokens) ∧
          ∀ other, Tiles [] other text.toList →
            (∀ offset, categoryAt other offset = categoryAt tokens offset) →
            OffsetScan.coalesce text.toList other = .ok (coalesce tokens) := by
  refine ⟨fun table => table.tiles_tokenize text, ?_⟩
  intro tokens tiles
  have merged := tiles.areRuns_coalesce
  refine ⟨OffsetScan.coalesce_eq tiles.isPieceOf, ?_, ?_⟩
  · intro runs
    constructor
    · intro areRuns
      exact areRuns.unique merged
    · rintro rfl
      exact merged
  · intro other otherTiles same
    have otherMerged := otherTiles.areRuns_coalesce
    have areRuns : AreRuns text.toList tokens (coalesce other) :=
      ⟨otherMerged.tiles, fun offset => (otherMerged.sameCategories offset).trans (same offset),
        otherMerged.alternates⟩
    have otherPieces : ∀ token ∈ other, token.IsPieceOf text.toList := otherTiles.isPieceOf
    rw [OffsetScan.coalesce_eq otherPieces, areRuns.unique merged]

/-- Two tilings of a text with a character of two bytes, one of them already merged. -/
theorem areRuns_iff_eq_coalesce_letters :
    let text := "éa="
    let letters : List Token := [⟨.plainText, "é", 0, 2⟩, ⟨.plainText, "a", 2, 3⟩,
      ⟨.operator, "=", 3, 4⟩]
    let word : List Token := [⟨.plainText, "éa", 0, 3⟩, ⟨.operator, "=", 3, 4⟩]
    Tiles [] letters text.toList ∧ OffsetScan.coalesce text.toList letters = .ok word ∧
      AreRuns text.toList letters word := by
  have tiles : Tiles [] [⟨.plainText, "é", 0, 2⟩, ⟨.plainText, "a", 2, 3⟩, ⟨.operator, "=", 3, 4⟩]
      "éa=".toList := by
    have first : Covers ⟨.plainText, "é", 0, 2⟩ [] ['é'] := ⟨by decide, rfl, rfl, rfl⟩
    have second : Covers ⟨.plainText, "a", 2, 3⟩ ['é'] ['a'] := ⟨by decide, rfl, rfl, rfl⟩
    have third : Covers ⟨.operator, "=", 3, 4⟩ ['é', 'a'] ['='] := ⟨by decide, rfl, rfl, rfl⟩
    exact Tiles.cons first (Tiles.cons second (Tiles.cons third Tiles.nil))
  have merged : coalesce [⟨.plainText, "é", 0, 2⟩, ⟨.plainText, "a", 2, 3⟩, ⟨.operator, "=", 3, 4⟩] =
      [⟨.plainText, "éa", 0, 3⟩, ⟨.operator, "=", 3, 4⟩] := by decide
  have outcome := (areRuns_iff_eq_coalesce "éa=").2 _ tiles
  rw [merged] at outcome
  exact ⟨tiles, outcome.1, (outcome.2.1 _).mpr rfl⟩

end Token

end RuleLexer
