import RuleLexer.Toml.StringForm

/-!
# Written strings are read back

Every text that is written in a form that suits it is read back as it was, whatever follows. A form
with escapes suits every text. A form without escapes suits a text if its characters may stand there
as they are and its quotes do not close the string.

The invariant ties the quotes that the writer has counted to those that the reader has: they are the
quotes in a row right before the position, and there are at most two.
-/

namespace RuleLexer.Toml.StringForm

variable {form : StringForm} {char meant : Char} {quotes : Nat} {text rest : List Char}

-- The reader has many equations: they are generated here, before the proofs that use them.
attribute [grind =] readBody

@[simp]
theorem prepend_some (chars text rest : List Char) :
    prepend chars (some (text, rest)) = some (chars ++ text, rest) := rfl

theorem prepend_prepend (first second : List Char) (result : Option (List Char × List Char)) :
    prepend first (prepend second result) = prepend (first ++ second) result := by
  cases result with
  | none => rfl
  | some result => simp [prepend]

theorem readBody_quote (multiline : form.multiline = true) (few : quotes < 5) :
    readBody form (.text quotes) (form.quote :: rest) =
      readBody form (.text (quotes + 1)) rest := by
  simp [readBody, multiline, few]

theorem readBody_quote_singleLine (singleLine : form.multiline = false) :
    readBody form (.text quotes) (form.quote :: rest) = some ([], rest) := by
  simp [readBody, singleLine]

theorem readBody_char (few : quotes < 3) (noQuote : char ≠ form.quote)
    (noEscape : form.escapes = true → char ≠ '\\') (admitted : form.admits char = true) :
    readBody form (.text quotes) (char :: rest) =
      prepend (List.replicate quotes form.quote ++ [char]) (readBody form (.text 0) rest) := by
  have plain : (form.escapes && char == '\\') = false := by
    cases escapes : form.escapes with
    | false => rfl
    | true => simpa using noEscape escapes
  rw [readBody, if_neg noQuote, if_neg (by omega), plain, admitted, ← prepend_prepend]
  simp

theorem readBody_backslash (few : quotes < 3) (escapes : form.escapes = true)
    (noQuote : form.quote ≠ '\\') :
    readBody form (.text quotes) ('\\' :: rest) =
      prepend (List.replicate quotes form.quote) (readBody form .escape rest) := by
  rw [readBody, if_neg noQuote.symm, if_neg (by omega), escapes]
  simp

theorem readBody_escaped (means : escaped? char = some meant) :
    readBody form .escape (char :: rest) = prepend [meant] (readBody form (.text 0) rest) := by
  have others : char ≠ 'u' ∧ char ≠ 'U' ∧ char ≠ '\n' ∧ char ≠ ' ' ∧ char ≠ '\t' := by
    refine ⟨?_, ?_, ?_, ?_, ?_⟩ <;>
      · rintro rfl
        cases means
  rcases others with ⟨noCode, noLongCode, noLineEnd, noSpace, noTab⟩
  simp [readBody, noCode, noLongCode, noLineEnd, noSpace, noTab, means]

theorem hexValue?_hexDigit (value : Nat) (small : value < 16) :
    hexValue? (hexDigit value) = some value := by
  have all : ∀ value < 16, hexValue? (hexDigit value) = some value := by decide
  exact all value small

theorem charOf?_toNat (char : Char) : charOf? char.toNat = some char := by
  rw [charOf?, if_pos (show char.toNat.isValidChar from char.valid), Char.ofNat_toNat]

/-- A character below 256 is read back from its last two digits. -/
theorem readBody_code (form : StringForm) (rest : List Char) (small : char.toNat < 256) :
    readBody form .escape ('u' :: '0' :: '0' :: hexDigit (char.toNat / 16) ::
        hexDigit (char.toNat % 16) :: rest) =
      prepend [char] (readBody form (.text 0) rest) := by
  have zero : hexValue? '0' = some 0 := by decide
  have high := hexValue?_hexDigit (char.toNat / 16) (by omega)
  have low := hexValue?_hexDigit (char.toNat % 16) (by omega)
  have code : 16 * (char.toNat / 16) + char.toNat % 16 = char.toNat := Nat.div_add_mod _ 16
  simp [readBody, zero, high, low, code, charOf?_toNat]

theorem toNat_lt_of_isControl (control : isControl char = true) : char.toNat < 256 := by
  simp only [isControl, Bool.or_eq_true, decide_eq_true_eq, beq_iff_eq] at control
  omega

/-- Whatever a character other than the quote is written as is read as the character. -/
theorem readBody_escape (few : quotes < 3) (escapes : form.escapes = true)
    (quote_ne : form.quote ≠ '\\') (noQuote : char ≠ form.quote) :
    readBody form (.text quotes) (form.escape char ++ rest) =
      prepend (List.replicate quotes form.quote ++ [char]) (readBody form (.text 0) rest) := by
  have short : ∀ letter, escaped? letter = some char →
      readBody form (.text quotes) ('\\' :: letter :: rest) =
        prepend (List.replicate quotes form.quote ++ [char]) (readBody form (.text 0) rest) := by
    intro letter means
    rw [readBody_backslash few escapes quote_ne, readBody_escaped means, prepend_prepend]
  unfold escape
  split
  · exact short 'b' (by simp_all [escaped?])
  split
  · exact short 't' (by simp_all [escaped?])
  split
  · exact short 'f' (by simp_all [escaped?])
  split
  · exact short 'r' (by simp_all [escaped?])
  split
  · exact short '\\' (by simp_all [escaped?])
  split
  · rename_i lineEnd
    subst lineEnd
    split
    · exact readBody_char few noQuote (by simp) (by simp_all [admits])
    · exact short 'n' rfl
  split
  · rename_i control
    have code := readBody_code form rest (toNat_lt_of_isControl control)
    rw [← prepend_prepend, ← code]
    exact readBody_backslash few escapes quote_ne
  · exact readBody_char few noQuote (by simp_all) (by simp_all [admits])

/-- The number of quotes in a row may stand before the end of a string: none of them closes it. -/
def Pending (form : StringForm) (quotes : Nat) : Prop :=
  quotes ≤ if form.multiline then 2 else 0

/-- What follows a string does not continue its closing quotes. -/
def Follows (form : StringForm) (rest : List Char) : Prop :=
  form.multiline = true → rest.head? ≠ some form.quote

theorem Pending.le_two (pending : form.Pending quotes) : quotes ≤ 2 := by
  unfold Pending at pending
  split at pending <;> omega

theorem pending_zero : form.Pending 0 :=
  Nat.zero_le _

/-- The closing quotes end the text, and the quotes before them belong to it. -/
theorem readBody_delimiter (pending : form.Pending quotes) (follows : form.Follows rest) :
    readBody form (.text quotes) (form.delimiter ++ rest) =
      some (List.replicate quotes form.quote, rest) := by
  cases multiline : form.multiline with
  | false =>
      have none : quotes = 0 := by simpa [Pending, multiline] using pending
      subst none
      simpa [delimiter, multiline] using readBody_quote_singleLine multiline
  | true =>
      have few : quotes ≤ 2 := pending.le_two
      have enough : 3 ≤ quotes + 1 + 1 + 1 := by omega
      simp only [delimiter, multiline, if_true, List.cons_append, List.nil_append]
      rw [readBody_quote multiline (by omega), readBody_quote multiline (by omega),
        readBody_quote multiline (by omega)]
      cases rest with
      | nil => simp [readBody, enough]
      | cons next rest =>
          have different : next ≠ form.quote := by simpa using follows multiline
          simp [readBody, enough, different]

theorem replicate_append_cons (quotes : Nat) (quote : Char) (text : List Char) :
    List.replicate quotes quote ++ quote :: text = List.replicate (quotes + 1) quote ++ text := by
  rw [List.replicate_succ', List.append_assoc]
  rfl

/-- A body with escapes is read back. -/
theorem readBody_writeEscaped (text : List Char) (escapes : form.escapes = true)
    (quote_eq : form.quote = '"') (follows : form.Follows rest) (pending : form.Pending quotes) :
    readBody form (.text quotes) (form.writeEscaped quotes text ++ (form.delimiter ++ rest)) =
      some (List.replicate quotes form.quote ++ text, rest) := by
  have quote_ne : form.quote ≠ '\\' := by simp [quote_eq]
  have few : quotes < 3 := Nat.lt_succ_of_le pending.le_two
  induction text generalizing quotes with
  | nil => simpa [writeEscaped] using readBody_delimiter pending follows
  | cons char text ih =>
      rw [writeEscaped]
      split
      · rename_i isQuote
        subst isQuote
        split
        · rename_i room
          simp only [Bool.and_eq_true, decide_eq_true_eq] at room
          have more : form.Pending (quotes + 1) := by
            simp only [Pending, room.1, if_true]
            omega
          rw [List.cons_append, readBody_quote room.1 (by omega), ih more (by omega),
            replicate_append_cons]
        · have means : escaped? form.quote = some form.quote := by
            rw [quote_eq]
            rfl
          rw [List.cons_append, List.cons_append, readBody_backslash few escapes quote_ne,
            readBody_escaped means, ih pending_zero (by omega)]
          simp
      · rename_i noQuote
        rw [List.append_assoc, readBody_escape few escapes quote_ne noQuote,
          ih pending_zero (by omega)]
        simp

theorem le_longestRun (char : Char) (current : Nat) (text : List Char) :
    current ≤ longestRun char current text := by
  induction text generalizing current with
  | nil => exact Nat.le_refl current
  | cons first text ih =>
      rw [longestRun]
      split
      · exact Nat.le_trans (Nat.le_succ current) (ih (current + 1))
      · exact Nat.le_max_left _ _

/-- A body without escapes is read back if no run of quotes in it closes the string. -/
theorem readBody_plain (escapes : form.escapes = false) (follows : form.Follows rest)
    (admitted : ∀ char ∈ text, char ≠ form.quote → form.admits char = true)
    (pending : form.Pending (longestRun form.quote quotes text)) :
    readBody form (.text quotes) (text ++ (form.delimiter ++ rest)) =
      some (List.replicate quotes form.quote ++ text, rest) := by
  induction text generalizing quotes with
  | nil =>
      have alone : form.Pending quotes := pending
      simpa using readBody_delimiter alone follows
  | cons char text ih =>
      have few : quotes ≤ 2 :=
        Nat.le_trans (le_longestRun form.quote quotes (char :: text)) pending.le_two
      have later : ∀ char ∈ text, char ≠ form.quote → form.admits char = true :=
        fun char mem => admitted char (List.mem_cons_of_mem _ mem)
      rw [longestRun] at pending
      split at pending
      · rename_i isQuote
        subst isQuote
        have multiline : form.multiline = true := by
          have := Nat.le_trans (le_longestRun form.quote (quotes + 1) text) pending
          split at this
          · assumption
          · omega
        rw [List.cons_append, readBody_quote multiline (by omega), ih later pending,
          replicate_append_cons]
      · rename_i noQuote
        have rest_pending : form.Pending (longestRun form.quote 0 text) :=
          Nat.le_trans (Nat.le_max_right _ _) pending
        rw [List.cons_append, readBody_char (by omega) noQuote (by simp [escapes])
          (admitted char List.mem_cons_self noQuote), ih later rest_pending]
        simp

/-- The text can be written in the form. -/
def Suits (form : StringForm) (text : List Char) : Prop :=
  (form.escapes = true ∧ form.quote = '"') ∨
    (form.escapes = false ∧ (∀ char ∈ text, char ≠ form.quote → form.admits char = true) ∧
      form.Pending (longestRun form.quote 0 text))

/-- The text between the quotes. -/
def body (form : StringForm) (text : List Char) : List Char :=
  if form.escapes then form.writeEscaped 0 text else text

theorem readBody_body (suits : form.Suits text) (follows : form.Follows rest) :
    readBody form (.text 0) (form.body text ++ (form.delimiter ++ rest)) = some (text, rest) := by
  rcases suits with ⟨escapes, quote_eq⟩ | ⟨escapes, admitted, pending⟩
  · rw [body, if_pos escapes]
    have body := readBody_writeEscaped text escapes quote_eq follows pending_zero
    simpa using body
  · rw [body, escapes]
    have body := readBody_plain escapes follows admitted pending
    simpa using body

theorem suits_basic (text : List Char) : basic.Suits text :=
  Or.inl ⟨rfl, rfl⟩

theorem suits_multilineBasic (text : List Char) : multilineBasic.Suits text :=
  Or.inl ⟨rfl, rfl⟩

theorem suits_literal (admitted : ∀ char ∈ text, isControl char = true → char = '\t')
    (noQuote : longestRun '\'' 0 text = 0) : literal.Suits text := by
  refine Or.inr ⟨rfl, ?_, Nat.le_of_eq noQuote⟩
  intro char mem _
  cases control : isControl char with
  | false => simp [admits, control]
  | true => simp [admits, admitted char mem control]

theorem suits_multilineLiteral
    (admitted : ∀ char ∈ text, isControl char = true → char = '\t' ∨ char = '\n')
    (few : longestRun '\'' 0 text ≤ 2) : multilineLiteral.Suits text := by
  refine Or.inr ⟨rfl, ?_, few⟩
  intro char mem _
  cases control : isControl char with
  | false => simp [admits, control]
  | true => rcases admitted char mem control with rfl | rfl <;> simp [admits, multilineLiteral]

/-- The form chosen for a value suits it. -/
theorem forValue_suits (text : List Char) : (forValue text).Suits text := by
  have admitted : (text.any fun char => isControl char && char != '\t' && char != '\n') = false →
      ∀ char ∈ text, isControl char = true → char = '\t' ∨ char = '\n' := by
    intro noControl char mem control
    rw [List.any_eq_false] at noControl
    have := noControl char mem
    by_cases tab : char = '\t' <;> simp_all
  unfold forValue
  dsimp only
  split
  · exact suits_basic text
  split
  · rename_i fits
    simp only [Bool.and_eq_true, Bool.not_eq_true', beq_iff_eq] at fits
    rcases fits with ⟨⟨noControl, noQuote⟩, noLineEnd⟩
    refine suits_literal ?_ noQuote
    intro char mem control
    refine (admitted noControl char mem control).resolve_right ?_
    rintro rfl
    simp_all
  split
  · exact suits_multilineBasic text
  split
  · rename_i fits
    simp only [Bool.and_eq_true, Bool.not_eq_true', decide_eq_true_eq] at fits
    exact suits_multilineLiteral (admitted fits.1) fits.2
  split
  · exact suits_multilineBasic text
  · exact suits_basic text

theorem longestRun_eq_zero_of_not_mem (absent : char ∉ text) : longestRun char 0 text = 0 := by
  induction text with
  | nil => rfl
  | cons first text ih =>
      rw [List.mem_cons, not_or] at absent
      rw [longestRun, if_neg (Ne.symm absent.1), ih absent.2]
      rfl

/-- The form chosen for a key suits it. -/
theorem forKey_suits (text : List Char) : (forKey text).Suits text := by
  unfold forKey
  dsimp only
  split
  · exact suits_basic text
  split
  · rename_i fits
    simp only [Bool.and_eq_true, Bool.not_eq_true', List.any_eq_false] at fits
    refine suits_literal ?_ (longestRun_eq_zero_of_not_mem (by simpa using fits.2))
    intro char mem control
    have plain := fits.1 char mem
    simpa [control] using plain
  · exact suits_basic text

/-- What follows a string is no quote. -/
def NoQuote (rest : List Char) : Prop :=
  rest.head? ≠ some '"' ∧ rest.head? ≠ some '\''

theorem read?_doubleQuote (noTriple : ∀ rest, text ≠ '"' :: '"' :: rest) :
    read? ('"' :: text) = read?.finish (basic.readBody (.text 0) text) := by
  unfold read?
  split
  · rename_i rest same
    cases same
    exact absurd rfl (noTriple rest)
  · simp_all
  · rename_i same
    cases same
    rfl
  · simp_all
  · simp_all

theorem read?_singleQuote (noTriple : ∀ rest, text ≠ '\'' :: '\'' :: rest) :
    read? ('\'' :: text) = read?.finish (literal.readBody (.text 0) text) := by
  unfold read?
  split
  · simp_all
  · rename_i rest same
    cases same
    exact absurd rfl (noTriple rest)
  · simp_all
  · rename_i same
    cases same
    rfl
  · simp_all

theorem head?_escape (form : StringForm) (char : Char) :
    (form.escape char).head? = some '\\' ∨ (form.escape char).head? = some char := by
  unfold escape
  repeat' split
  all_goals simp_all

/-- A body on one line does not begin with a quote. -/
theorem head?_body_ne_quote (singleLine : form.multiline = false) (quote_ne : form.quote ≠ '\\')
    (suits : form.Suits text) : (form.body text).head? ≠ some form.quote := by
  cases text with
  | nil =>
      rw [body]
      split <;> simp [writeEscaped]
  | cons char text =>
      rcases suits with ⟨escapes, -⟩ | ⟨escapes, -, pending⟩
      · rw [body, if_pos escapes, writeEscaped]
        split
        · simpa [singleLine] using quote_ne.symm
        · rename_i noQuote
          rw [List.head?_append]
          rcases head?_escape form char with starts | starts
          · simpa [starts] using quote_ne.symm
          · simpa [starts] using noQuote
      · rw [body, escapes]
        simp only [Bool.false_eq_true, if_false, List.head?_cons, ne_eq, Option.some.injEq]
        intro isQuote
        rw [Pending, singleLine, longestRun, if_pos isQuote] at pending
        have := le_longestRun form.quote (0 + 1) text
        simp only [Bool.false_eq_true, if_false] at pending
        omega

/-- After the opening quote of a string on one line there are never two more. -/
theorem body_ne_triple (singleLine : form.multiline = false) (quote_ne : form.quote ≠ '\\')
    (suits : form.Suits text) (noQuote : rest.head? ≠ some form.quote) (tail : List Char) :
    form.body text ++ (form.delimiter ++ rest) ≠ form.quote :: form.quote :: tail := by
  have starts := head?_body_ne_quote singleLine quote_ne suits
  simp only [delimiter, singleLine, Bool.false_eq_true, if_false]
  intro triple
  cases bodyEq : form.body text with
  | nil =>
      rw [bodyEq] at triple
      simp only [List.nil_append, List.cons_append, List.cons.injEq, true_and] at triple
      simp [triple] at noQuote
  | cons first body =>
      rw [bodyEq] at triple starts
      simp only [List.cons_append, List.cons.injEq] at triple
      simp [triple.1] at starts

theorem head?_body (form : StringForm) (char : Char) (text : List Char) :
    (form.body (char :: text)).head? = some '\\' ∨
      (form.body (char :: text)).head? = some char := by
  rw [body]
  split
  · rw [writeEscaped]
    split
    · split <;> simp
    · rw [List.head?_append]
      rcases head?_escape form char with starts | starts <;> simp [starts]
  · simp

theorem skipFirstLineEnd_of_head?_ne (noLineEnd : text.head? ≠ some '\n') :
    skipFirstLineEnd text = text := by
  unfold skipFirstLineEnd
  split
  · simp at noLineEnd
  · rfl

/-- The line end that is left out after the opening quotes is the one that the writer put there. -/
theorem skipFirstLineEnd_written (multiline : form.multiline = true) (quote_ne : form.quote ≠ '\n')
    (rest : List Char) :
    skipFirstLineEnd ((if form.multiline && text.contains '\n' then ['\n'] else []) ++
      (form.body text ++ (form.delimiter ++ rest))) =
        form.body text ++ (form.delimiter ++ rest) := by
  cases lines : text.contains '\n' with
  | true => simp [multiline, skipFirstLineEnd]
  | false =>
      rw [multiline]
      apply skipFirstLineEnd_of_head?_ne
      cases text with
      | nil =>
          have noBody : form.body [] = [] := by
            unfold body
            split <;> rfl
          simpa [noBody, delimiter, multiline] using quote_ne
      | cons char text =>
          have char_ne : char ≠ '\n' := by
            rintro rfl
            simp at lines
          rw [Bool.true_and, if_neg Bool.false_ne_true, List.nil_append, List.head?_append]
          rcases head?_body form char text with starts | starts
          · simp [starts]
          · simpa [starts] using char_ne

theorem write_eq (form : StringForm) (text rest : List Char) :
    form.write text ++ rest = form.delimiter ++
      ((if form.multiline && text.contains '\n' then ['\n'] else []) ++
        (form.body text ++ (form.delimiter ++ rest))) := by
  simp [write, body]

theorem finish_readBody_body (suits : form.Suits text) (follows : form.Follows rest) :
    read?.finish (readBody form (.text 0) (form.body text ++ (form.delimiter ++ rest))) =
      some (String.ofList text, rest) := by
  rw [readBody_body suits follows]
  rfl

theorem read?_basic (noQuote : NoQuote rest) :
    read? (basic.write text ++ rest) = some (String.ofList text, rest) := by
  have suits := suits_basic text
  rw [write_eq, ← finish_readBody_body suits (by simp [Follows, basic])]
  exact read?_doubleQuote (body_ne_triple rfl (by decide) suits noQuote.1)

theorem read?_literal (suits : literal.Suits text) (noQuote : NoQuote rest) :
    read? (literal.write text ++ rest) = some (String.ofList text, rest) := by
  rw [write_eq, ← finish_readBody_body suits (by simp [Follows, literal])]
  exact read?_singleQuote (body_ne_triple rfl (by decide) suits noQuote.2)

theorem read?_multilineBasic (noQuote : NoQuote rest) :
    read? (multilineBasic.write text ++ rest) = some (String.ofList text, rest) := by
  have opened : ∀ inner, read? (multilineBasic.delimiter ++ inner) =
      read?.finish (multilineBasic.readBody (.text 0) (skipFirstLineEnd inner)) := fun _ => rfl
  rw [write_eq, opened, skipFirstLineEnd_written rfl (by decide)]
  exact finish_readBody_body (suits_multilineBasic text) fun _ => noQuote.1

theorem read?_multilineLiteral (suits : multilineLiteral.Suits text) (noQuote : NoQuote rest) :
    read? (multilineLiteral.write text ++ rest) = some (String.ofList text, rest) := by
  have opened : ∀ inner, read? (multilineLiteral.delimiter ++ inner) =
      read?.finish (multilineLiteral.readBody (.text 0) (skipFirstLineEnd inner)) := fun _ => rfl
  rw [write_eq, opened, skipFirstLineEnd_written rfl (by decide)]
  exact finish_readBody_body suits fun _ => noQuote.2

theorem forValue_cases (text : List Char) :
    forValue text = basic ∨ forValue text = literal ∨ forValue text = multilineBasic ∨
      forValue text = multilineLiteral := by
  unfold forValue
  dsimp only
  repeat' split
  all_goals simp

/-- A written value is read back. -/
theorem read?_writeValue (text : String) (noQuote : NoQuote rest) :
    read? (writeValue text ++ rest) = some (text, rest) := by
  have suits := forValue_suits text.toList
  rw [writeValue]
  rcases forValue_cases text.toList with form_eq | form_eq | form_eq | form_eq
  · rw [form_eq, read?_basic noQuote, String.ofList_toList]
  · rw [form_eq] at suits ⊢
    rw [read?_literal suits noQuote, String.ofList_toList]
  · rw [form_eq, read?_multilineBasic noQuote, String.ofList_toList]
  · rw [form_eq] at suits ⊢
    rw [read?_multilineLiteral suits noQuote, String.ofList_toList]

theorem hexDigit_ne_return (value : Nat) (small : value < 16) : hexDigit value ≠ '\r' := by
  have all : ∀ value < 16, hexDigit value ≠ '\r' := by decide
  exact all value small

theorem return_not_mem_escape (form : StringForm) (char : Char) : '\r' ∉ form.escape char := by
  unfold escape
  split
  · decide
  split
  · decide
  split
  · decide
  split
  · decide
  · rename_i noReturn
    split
    · decide
    split
    · split <;> decide
    split
    · rename_i control
      have := toNat_lt_of_isControl control
      have high := hexDigit_ne_return (char.toNat / 16) (by omega)
      have low := hexDigit_ne_return (char.toNat % 16) (by omega)
      simp [high.symm, low.symm]
    · simpa using Ne.symm noReturn

theorem return_not_mem_writeEscaped (quote_ne : form.quote ≠ '\r') (quotes : Nat)
    (text : List Char) : '\r' ∉ form.writeEscaped quotes text := by
  induction text generalizing quotes with
  | nil => simp [writeEscaped]
  | cons char text ih =>
      rw [writeEscaped]
      split
      · rename_i isQuote
        subst isQuote
        split <;> simp [ih, quote_ne.symm]
      · simp [ih, return_not_mem_escape]

theorem return_not_mem_body (quote_ne : form.quote ≠ '\r') (suits : form.Suits text) :
    '\r' ∉ form.body text := by
  rcases suits with ⟨escapes, -⟩ | ⟨escapes, admitted, -⟩
  · rw [body, if_pos escapes]
    exact return_not_mem_writeEscaped quote_ne 0 text
  · rw [body, escapes]
    intro mem
    have := admitted '\r' mem quote_ne.symm
    simp [admits, isControl] at this

/-- A written string has no carriage return. -/
theorem return_not_mem_write (quote_ne : form.quote ≠ '\r') (suits : form.Suits text) :
    '\r' ∉ form.write text := by
  have inside := return_not_mem_body quote_ne suits
  have written := write_eq form text []
  rw [List.append_nil] at written
  rw [written]
  simp only [delimiter, List.mem_append, not_or, List.append_nil]
  refine ⟨?_, ?_, inside, ?_⟩
  · split <;> simp [quote_ne.symm]
  · split <;> simp
  · split <;> simp [quote_ne.symm]

theorem return_not_mem_writeValue (text : String) : '\r' ∉ writeValue text := by
  refine return_not_mem_write ?_ (forValue_suits text.toList)
  rcases forValue_cases text.toList with form_eq | form_eq | form_eq | form_eq <;>
    · rw [form_eq]
      decide

end RuleLexer.Toml.StringForm
