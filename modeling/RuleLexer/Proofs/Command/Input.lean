import RuleLexer.Command.Input

/-!
# What inputs hold

An input can be read exactly if it holds the UTF-8 form of a text, and then that text is read.
Arguments stand for one input each, or for standard input if there are none, unless standard input
is named more than once.
-/

namespace RuleLexer

variable {files : FileSystem} {standardInput contents : Contents} {content : ByteArray}
  {path text : String} {arguments : List String}

theorem decodeText_eq_ok_iff : decodeText content = .ok text ↔ content = text.toUTF8 := by
  unfold decodeText String.fromUTF8?
  constructor
  · intro decoded
    split at decoded
    · rename_i found
      cases decoded
      split at found
      · cases found
        rfl
      · cases found
    · cases decoded
  · rintro rfl
    simp only [String.toUTF8_eq_toByteArray, dif_pos text.isValidUTF8]
    rfl

theorem Contents.readText_eq_ok_iff :
    contents.readText = .ok text ↔ contents = .bytes text.toUTF8 := by
  cases contents with
  | bytes content => simp [readText, decodeText_eq_ok_iff]
  | failing cause => simp [readText]

namespace FileSystem

theorem isFile_iff : files.isFile path = true ↔ ∃ contents, files.entry path = .file contents := by
  rw [isFile]
  cases files.entry path <;> simp

theorem isFile_of_entry (present : files.entry path = .file contents) :
    files.isFile path = true :=
  isFile_iff.mpr ⟨contents, present⟩

theorem readText_of_entry (present : files.entry path = .file contents) :
    files.readText path = contents.readText := by
  rw [readText, present]

end FileSystem

theorem Except.mapError_eq_ok_iff {ε ε' α : Type} {change : ε → ε'} {outcome : Except ε α}
    {result : α} : outcome.mapError change = .ok result ↔ outcome = .ok result := by
  cases outcome with
  | error cause =>
      show Except.error (change cause) = .ok result ↔ Except.error cause = .ok result
      simp only [reduceCtorEq]
  | ok value =>
      show Except.ok value = .ok result ↔ Except.ok value = .ok result
      simp only [Except.ok.injEq]

namespace Input

/-- The input holds the UTF-8 form of a text. -/
def Holds (files : FileSystem) (standardInput : Contents) (text : String) : Input → Prop
  | .standard => standardInput = text.toUTF8
  | .file path => files.entry path = .file text.toUTF8

theorem read_of_entry (present : files.entry path = .file contents) :
    (file path).read files standardInput = contents.readText.mapError .reading := by
  rw [read, if_pos (FileSystem.isFile_of_entry present), FileSystem.readText_of_entry present]

theorem read_eq_ok_iff {input : Input} :
    input.read files standardInput = .ok text ↔ input.Holds files standardInput text := by
  cases input with
  | standard => simp only [read, Holds, Except.mapError_eq_ok_iff, Contents.readText_eq_ok_iff]
  | file path =>
      constructor
      · intro succeeds
        cases isFile : files.isFile path with
        | false => simp [read, isFile] at succeeds
        | true =>
            rcases FileSystem.isFile_iff.mp isFile with ⟨contents, present⟩
            rw [read_of_entry present, Except.mapError_eq_ok_iff,
              Contents.readText_eq_ok_iff] at succeeds
            rw [Holds, present, succeeds]
      · intro holds
        rw [read_of_entry holds, Except.mapError_eq_ok_iff, Contents.readText_eq_ok_iff]

/-- The input holds a text. -/
def IsReadable (files : FileSystem) (standardInput : Contents) (input : Input) : Prop :=
  ∃ text, input.Holds files standardInput text

/-- Either all inputs can be read, or there is a first one that cannot. -/
theorem readable_or_exists_first (inputs : List Input) :
    (∀ input ∈ inputs, input.IsReadable files standardInput) ∨
      ∃ before input after failure, inputs = before ++ input :: after ∧
        (∀ earlier ∈ before, earlier.IsReadable files standardInput) ∧
          input.read files standardInput = .error failure := by
  induction inputs with
  | nil =>
      left
      simp
  | cons input inputs ih =>
      cases read : input.read files standardInput with
      | error failure =>
          right
          exact ⟨[], input, inputs, failure, rfl, by simp, read⟩
      | ok text =>
          have readable : input.IsReadable files standardInput := ⟨text, read_eq_ok_iff.mp read⟩
          rcases ih with all | ⟨before, other, after, failure, rfl, earlier, fails⟩
          · left
            simp only [List.forall_mem_cons]
            exact ⟨readable, all⟩
          · right
            refine ⟨input :: before, other, after, failure, rfl, ?_, fails⟩
            simp only [List.forall_mem_cons]
            exact ⟨readable, earlier⟩

/-- The inputs that arguments stand for, however often standard input is among them. -/
def named : List String → List Input
  | [] => [.standard]
  | arguments => arguments.map ofArgument

theorem named_ne_nil (arguments : List String) : named arguments ≠ [] := by
  cases arguments <;> simp [named]

theorem ofArgument_eq_standard_iff {argument : String} :
    ofArgument argument = .standard ↔ argument = "-" := by
  simp [ofArgument]

theorem count_standard (arguments : List String) :
    (arguments.map ofArgument).count .standard = arguments.count "-" := by
  rw [List.count, List.count, List.countP_map]
  apply List.countP_congr
  intro argument _
  simp [ofArgument_eq_standard_iff]

theorem ofArguments_of_once (once : arguments.count "-" ≤ 1) :
    ofArguments arguments = .ok (named arguments) := by
  cases arguments with
  | nil => rfl
  | cons first others =>
      simp only [ofArguments, count_standard, named]
      rw [if_neg (by omega)]

theorem ofArguments_of_repeated (repeated : 1 < arguments.count "-") :
    ofArguments arguments = .error (.arguments .repeatedStandardInput) := by
  cases arguments with
  | nil => simp at repeated
  | cons first others =>
      simp only [ofArguments, count_standard]
      rw [if_pos repeated]

end Input

end RuleLexer
