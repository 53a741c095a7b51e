import RuleLexer.Command.Tokens
import RuleLexer.Proofs.Source.Lines
import RuleLexer.Proofs.Source.Slices
import RuleLexer.Proofs.Token.Tiles

/-!
# The records of a file

Making the token records of a file never fails, because every token is a piece of its text. The
records say the same as the tokens, merged or not, and the line and the column of each one are where
walking over the text of the record before it leads.
-/

namespace RuleLexer

namespace Token

variable {front piece : List Char} {tokens : List Token}

theorem Tiles.contiguous (tiles : Tiles front tokens piece) :
    Text.byteLength front :: tokens.map stop =
      tokens.map start ++ [Text.byteLength (front ++ piece)] := by
  induction tiles with
  | nil => simp
  | cons first later ih =>
      rw [List.map_cons, List.map_cons, List.cons_append, first.start_eq, first.stop_eq,
        ← Text.byteLength_append, ih, List.append_assoc]

theorem Tiles.text_ne_nil (tiles : Tiles front tokens piece) :
    ∀ token ∈ tokens, token.text.toList ≠ [] := by
  induction tiles with
  | nil => simp
  | cons first later ih =>
      rw [List.forall_mem_cons, first.text_eq, String.toList_ofList]
      exact ⟨first.nonempty, ih⟩

theorem Tiles.texts (tiles : Tiles front tokens piece) :
    tokens.flatMap (·.text.toList) = piece := by
  induction tiles with
  | nil => rfl
  | cons first later ih => rw [List.flatMap_cons, ih, first.text_eq, String.toList_ofList]

end Token

namespace TokenRecord

def token (record : TokenRecord) : Token :=
  ⟨record.category, record.text, record.start, record.stop⟩

/-- The line and the column of the record. -/
def place (record : TokenRecord) : Nat × Nat :=
  (record.line, record.column)

variable {file : SourceFile} {front part piece : List Char} {token : Token} {tokens : List Token}

/-- A piece of the text has a record. -/
theorem exists_ofToken {rest : List Char} (parts : file.text = front ++ (part ++ rest))
    (covers : token.Covers front part) :
    ∃ record, ofToken file token = .ok record ∧ record.token = token ∧
      record.place = SourceFile.walk (1, 1) front := by
  have cuts : token.span.Cuts file.content token.text := by
    rw [Span.cuts_iff, SourceFile.content, String.toList_ofList, covers.text_eq,
      String.toList_ofList, Token.span, covers.start_eq, covers.stop_eq, parts, Text.slice?_append]
  have found : file.lineColumn token.start = SourceFile.walk (1, 1) front := by
    rw [covers.start_eq, SourceFile.lineColumn_append parts]
  let place := SourceFile.walk (1, 1) front
  refine ⟨⟨token.category, token.text, token.start, token.stop, place.1, place.2⟩, ?_, rfl, rfl⟩
  simp only [ofToken, SourceFile.slice_of_cuts cuts, found, bind, Except.bind, pure, Except.pure]
  rfl

/-- Tokens that tile the text from a front to its end have records. -/
theorem exists_mapM_ofToken (file : SourceFile) (tiles : Token.Tiles front tokens piece)
    (parts : file.text = front ++ piece) :
    ∃ records, tokens.mapM (ofToken file) = .ok records ∧ records.map TokenRecord.token = tokens ∧
      SourceFile.walk (1, 1) front ::
          records.map (fun record => SourceFile.walk record.place record.text.toList) =
        records.map place ++ [SourceFile.walk (1, 1) file.text] := by
  induction tiles with
  | nil =>
      refine ⟨[], rfl, rfl, ?_⟩
      simp [parts]
  | cons first later ih =>
      rename_i front part piece token tokens
      rcases exists_ofToken parts first with ⟨record, made, same, place_eq⟩
      rcases ih (by rw [parts, List.append_assoc]) with ⟨records, rest, sameRest, places⟩
      have text_eq : record.text = String.ofList part :=
        (congrArg Token.text same).trans first.text_eq
      refine ⟨record :: records, ?_, ?_, ?_⟩
      · simp [List.mapM_cons, made, rest, bind, Except.bind, pure, Except.pure]
      · rw [List.map_cons, same, sameRest]
      · rw [List.map_cons, List.map_cons, List.cons_append, place_eq, text_eq,
          String.toList_ofList, ← SourceFile.walk_append, places]

/-- Places that each lie one text after the other are in order. -/
theorem pairwise_precedes {place' stop : Nat × Nat} {records : List TokenRecord}
    (nonempty : ∀ record ∈ records, record.text.toList ≠ [])
    (places : place' :: records.map (fun record => SourceFile.walk record.place record.text.toList) =
      records.map place ++ [stop]) :
    (∀ record ∈ records, place' = record.place ∨ SourceFile.Precedes place' record.place) ∧
      records.Pairwise fun record record' =>
        SourceFile.Precedes record.place record'.place := by
  induction records generalizing place' with
  | nil => exact ⟨by simp, List.Pairwise.nil⟩
  | cons record records ih =>
      rw [List.map_cons, List.map_cons, List.cons_append, List.cons.injEq] at places
      rcases places with ⟨rfl, places⟩
      rw [List.forall_mem_cons] at nonempty
      have forward := SourceFile.precedes_walk record.place nonempty.1
      rcases ih nonempty.2 places with ⟨notBefore, ordered⟩
      have after : ∀ later ∈ records, SourceFile.Precedes record.place later.place := by
        intro later mem
        rcases notBefore later mem with same | before
        · rw [← same]
          exact forward
        · exact forward.trans before
      refine ⟨?_, List.Pairwise.cons after ordered⟩
      rw [List.forall_mem_cons]
      exact ⟨Or.inl rfl, fun later mem => Or.inr (after later mem)⟩

end TokenRecord

namespace SourceFile

/-- Making the records of a file succeeds. Their texts make up the file, their spans lie side by
side from its start to its end, and the first place is `(1, 1)`, every other one where the text of
the record before it leads from the place of that record; so places increase strictly. -/
theorem tokenRecords_lossless (table : RuleTable) (merge : Bool) (id : FileId)
    (name content : String) :
    ∃ records, (ofText id name content).tokenRecords table merge = .ok ⟨name, records⟩ ∧
      records.map TokenRecord.token =
        (if merge then Token.coalesce (table.tokenize content) else table.tokenize content) ∧
      String.join (records.map TokenRecord.text) = content ∧
      0 :: records.map TokenRecord.stop =
        records.map TokenRecord.start ++ [content.utf8ByteSize] ∧
      (1, 1) :: records.map (fun record => walk record.place record.text.toList) =
        records.map TokenRecord.place ++ [walk (1, 1) content.toList] ∧
      records.Pairwise fun record record' => Precedes record.place record'.place := by
  have tiles : Token.Tiles []
      (if merge then Token.coalesce (table.tokenize content) else table.tokenize content)
      content.toList := by
    cases merge with
    | false => exact table.tiles_tokenize content
    | true => exact (table.tiles_tokenize content).coalesce
  rcases TokenRecord.exists_mapM_ofToken (ofText id name content) tiles rfl with
    ⟨records, made, same, places⟩
  have nonempty : ∀ record ∈ records, record.text.toList ≠ [] := by
    intro record mem
    rw [← same] at tiles
    exact tiles.text_ne_nil record.token (List.mem_map_of_mem mem)
  refine ⟨records, ?_, same, ?_, ?_, places, (TokenRecord.pairwise_precedes nonempty places).2⟩
  · have content_eq : (ofText id name content).content = content := String.ofList_toList
    rw [tokenRecords, content_eq, made]
    rfl
  · apply String.toList_injective
    have texts := tiles.texts
    rw [← same, List.flatMap_map] at texts
    rw [String.toList_join, List.flatMap_map]
    exact texts
  · have spans := tiles.contiguous
    rw [← same, List.map_map, List.map_map, List.nil_append, Text.byteLength_toList] at spans
    exact spans

end SourceFile

namespace FileTokens

variable {tokens : List Token}

/-- The answer has a record of every token, in order, and the place of every record is where walking
over the text of the record before it leads. -/
structure Lists (answer : FileTokens) (tokens : List Token) : Prop where
  tokens_eq : answer.tokens.map TokenRecord.token = tokens
  places : ∃ stop, (1, 1) :: answer.tokens.map
      (fun record => SourceFile.walk record.place record.text.toList) =
    answer.tokens.map TokenRecord.place ++ [stop]

/-- Records are determined by their tokens and the place of the first one. -/
theorem records_unique {records records' : List TokenRecord} {first stop stop' : Nat × Nat}
    (same : records.map TokenRecord.token = records'.map TokenRecord.token)
    (places : first :: records.map
      (fun record => SourceFile.walk record.place record.text.toList) =
        records.map TokenRecord.place ++ [stop])
    (places' : first :: records'.map
      (fun record => SourceFile.walk record.place record.text.toList) =
        records'.map TokenRecord.place ++ [stop']) :
    records = records' := by
  induction records generalizing records' first with
  | nil =>
      symm
      simpa using same
  | cons record records ih =>
      rcases records' with _ | ⟨record', records'⟩
      · simp at same
      · simp only [List.map_cons, List.cons_append, List.cons.injEq] at same places places'
        rcases places with ⟨rfl, places⟩
        rcases places' with ⟨place_eq, places'⟩
        have record_eq : record = record' := by
          simp only [TokenRecord.token, Token.mk.injEq, TokenRecord.place, Prod.mk.injEq]
            at same place_eq
          cases record
          cases record'
          simp_all
        subst record_eq
        rw [ih same.2 places places']

/-- The texts of the records make up the text that the tokens tile. -/
theorem Lists.texts {answer : FileTokens} {piece : List Char} (lists : answer.Lists tokens)
    (tiles : Token.Tiles [] tokens piece) : answer.tokens.flatMap (·.text.toList) = piece := by
  have texts := tiles.texts
  rw [← lists.tokens_eq, List.flatMap_map] at texts
  exact texts

/-- There is one answer with a name that lists given tokens. -/
theorem Lists.unique {answer answer' : FileTokens} (file_eq : answer.file = answer'.file)
    (lists : answer.Lists tokens) (lists' : answer'.Lists tokens) : answer = answer' := by
  rcases lists.places with ⟨stop, places⟩
  rcases lists'.places with ⟨stop', places'⟩
  have tokens_eq := records_unique (lists.tokens_eq.trans lists'.tokens_eq.symm) places places'
  cases answer
  cases answer'
  simp_all

end FileTokens

namespace SourceFile

/-- Making the records of a file succeeds, and they list its tokens. -/
theorem exists_tokenRecords (file : SourceFile) (table : RuleTable) (merge : Bool) :
    ∃ answer, file.tokenRecords table merge = .ok answer ∧ answer.file = file.name ∧
      answer.Lists (if merge then Token.coalesce (table.tokenize file.content)
        else table.tokenize file.content) := by
  have tiles := table.tiles_merged merge file.content
  have text_eq : file.content.toList = file.text := String.toList_ofList
  rw [text_eq] at tiles
  rcases TokenRecord.exists_mapM_ofToken file tiles rfl with ⟨records, made, same, places⟩
  refine ⟨⟨file.name, records⟩, ?_, rfl, same, _, places⟩
  rw [tokenRecords, made]
  rfl

end SourceFile

end RuleLexer
