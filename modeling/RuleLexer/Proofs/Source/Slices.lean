import RuleLexer.Proofs.Text.Slice
import RuleLexer.Source.File

/-!
# Slices of a file

A span cuts a part out of a text if the text is a front, the part and a rest, and the span reaches
from the end of the front to that of the part. A span that cuts nothing out has one of three faults:
it runs backwards, it reaches beyond the end of the text, or one of its ends is not between two
characters. Only the first of them that applies is the fault of the span, so that a span running
backwards beyond the end is only backwards. Slicing gives the part or reports the fault.
-/

namespace RuleLexer

namespace Span

/-- The text is a front, the part and a rest, with the part under the span. -/
def Cuts (span : Span) (content part : String) : Prop :=
  ∃ front rest, content = front ++ part ++ rest ∧ front.utf8ByteSize = span.start ∧
    (front ++ part).utf8ByteSize = span.stop

/-- The first fault that keeps the span from cutting a part out of the text. -/
inductive Misses (span : Span) (content : String) : SourceError → Prop
  | backwards (backward : span.stop < span.start) : Misses span content (.invalidSpan span)
  | beyond (forward : span.start ≤ span.stop) (outside : content.utf8ByteSize < span.stop) :
      Misses span content (.spanOutOfBounds span content.utf8ByteSize)
  | splits (forward : span.start ≤ span.stop) (inside : span.stop ≤ content.utf8ByteSize)
      (torn : ¬(String.Pos.Raw.IsValid content ⟨span.start⟩ ∧
        String.Pos.Raw.IsValid content ⟨span.stop⟩)) :
      Misses span content (.notCharBoundary span)

variable {span : Span} {content part : String}

theorem cuts_iff : span.Cuts content part ↔
    Text.slice? span.start span.stop content.toList = some part.toList := by
  rw [Text.slice?_eq_some_iff]
  constructor
  · rintro ⟨front, rest, rfl, start_eq, stop_eq⟩
    refine ⟨front.toList, rest.toList, ?_, ?_, ?_⟩
    · simp
    · rw [Text.byteLength_toList, start_eq]
    · rw [← Text.byteLength_append, ← String.toList_append, Text.byteLength_toList, stop_eq]
  · rintro ⟨front, rest, parts, start_eq, stop_eq⟩
    refine ⟨String.ofList front, String.ofList rest, ?_, ?_, ?_⟩
    · apply String.toList_injective
      simp [parts]
    · simp [← Text.byteLength_toList, start_eq]
    · simp [← Text.byteLength_toList, stop_eq]

theorem Cuts.forward (cuts : span.Cuts content part) : span.start ≤ span.stop := by
  rcases cuts with ⟨front, rest, -, start_eq, stop_eq⟩
  rw [String.utf8ByteSize_append] at stop_eq
  omega

theorem Cuts.inside (cuts : span.Cuts content part) : span.stop ≤ content.utf8ByteSize := by
  rcases cuts with ⟨front, rest, rfl, -, stop_eq⟩
  rw [String.utf8ByteSize_append]
  omega

/-- Every span cuts out a part or has a fault. -/
theorem cuts_or_misses (span : Span) (content : String) :
    (∃ part, span.Cuts content part) ∨ ∃ error, span.Misses content error := by
  by_cases backward : span.stop < span.start
  · exact Or.inr ⟨_, Misses.backwards backward⟩
  by_cases outside : content.utf8ByteSize < span.stop
  · exact Or.inr ⟨_, Misses.beyond (Nat.le_of_not_lt backward) outside⟩
  by_cases between : String.Pos.Raw.IsValid content ⟨span.start⟩ ∧
      String.Pos.Raw.IsValid content ⟨span.stop⟩
  · left
    rcases Text.exists_slice?_of_isBoundary (Nat.le_of_not_lt backward)
      (Text.isBoundary_iff_isValid.mpr between.1) (Text.isBoundary_iff_isValid.mpr between.2) with
      ⟨part, cut⟩
    refine ⟨String.ofList part, cuts_iff.mpr ?_⟩
    simpa using cut
  · exact Or.inr ⟨_, Misses.splits (Nat.le_of_not_lt backward) (Nat.le_of_not_lt outside) between⟩

theorem Cuts.isValid (cuts : span.Cuts content part) :
    String.Pos.Raw.IsValid content ⟨span.start⟩ ∧ String.Pos.Raw.IsValid content ⟨span.stop⟩ := by
  rcases cuts with ⟨front, rest, rfl, start_eq, stop_eq⟩
  rw [← Text.isBoundary_iff_isValid, ← Text.isBoundary_iff_isValid]
  constructor
  · refine ⟨front.toList, (part ++ rest).toList, by simp, ?_⟩
    rw [Text.byteLength_toList, start_eq]
  · refine ⟨(front ++ part).toList, rest.toList, by simp, ?_⟩
    rw [Text.byteLength_toList, stop_eq]

end Span

namespace SourceFile

variable {file : SourceFile} {span first second : Span} {part part' : String}
  {error : SourceError}

theorem length_eq_utf8ByteSize (file : SourceFile) : file.length = file.content.utf8ByteSize := by
  rw [file.length_eq, ← Text.byteLength_toList, content, String.toList_ofList]

theorem slice_of_cuts (cuts : span.Cuts file.content part) : file.slice span = .ok part := by
  have forward := Nat.not_lt.mpr cuts.forward
  have inside := Nat.not_lt.mpr cuts.inside
  have cut := Span.cuts_iff.mp cuts
  rw [content, String.toList_ofList] at cut
  rw [slice, if_neg forward, length_eq_utf8ByteSize, if_neg inside, cut]
  simp

theorem slice_of_misses (misses : span.Misses file.content error) :
    file.slice span = .error error := by
  rw [slice, length_eq_utf8ByteSize]
  cases misses with
  | backwards backward => rw [if_pos backward]
  | beyond forward outside => rw [if_neg (Nat.not_lt.mpr forward), if_pos outside]
  | splits forward inside torn =>
      rw [if_neg (Nat.not_lt.mpr forward), if_neg (Nat.not_lt.mpr inside)]
      split
      · rename_i part cut
        have cuts : span.Cuts file.content (String.ofList part) := by
          rw [Span.cuts_iff, content, String.toList_ofList, String.toList_ofList, cut]
        exact absurd cuts.isValid torn
      · rfl

theorem slice_eq_ok_iff : file.slice span = .ok part ↔ span.Cuts file.content part := by
  constructor
  · intro sliced
    rcases span.cuts_or_misses file.content with ⟨part', cuts⟩ | ⟨error, misses⟩
    · rw [slice_of_cuts cuts] at sliced
      cases sliced
      exact cuts
    · rw [slice_of_misses misses] at sliced
      cases sliced
  · exact slice_of_cuts

theorem slice_eq_error_iff : file.slice span = .error error ↔ span.Misses file.content error := by
  constructor
  · intro sliced
    rcases span.cuts_or_misses file.content with ⟨part, cuts⟩ | ⟨error', misses⟩
    · rw [slice_of_cuts cuts] at sliced
      cases sliced
    · rw [slice_of_misses misses] at sliced
      cases sliced
      exact misses
  · exact slice_of_misses

theorem slice_append (adjacent : first.stop = second.start) (sliced : file.slice first = .ok part)
    (sliced' : file.slice second = .ok part') :
    file.slice ⟨first.start, second.stop⟩ = .ok (part ++ part') := by
  rw [slice_eq_ok_iff, Span.cuts_iff] at *
  rw [← adjacent] at sliced'
  rw [String.toList_append]
  exact Text.slice?_slice sliced sliced'

/-- Slicing gives a part exactly if the span cuts it out of the text, and otherwise reports the
first fault of the span. The parts under adjacent spans make up the part under the joined span. -/
theorem slice_cuts_or_misses (file : SourceFile) :
    (∀ span part, file.slice span = .ok part ↔ span.Cuts file.content part) ∧
      (∀ span error, file.slice span = .error error ↔ span.Misses file.content error) ∧
      ∀ first second part part', first.stop = second.start →
        file.slice first = .ok part → file.slice second = .ok part' →
          file.slice ⟨first.start, second.stop⟩ = .ok (part ++ part') := by
  refine ⟨fun span part => slice_eq_ok_iff, fun span error => slice_eq_error_iff, ?_⟩
  intro first second part part' adjacent sliced sliced'
  exact slice_append adjacent sliced sliced'

/-- A text with a character of two bytes, under adjacent spans and under spans with each fault. -/
theorem slice_cuts_or_misses_accent :
    let file := ofText ⟨0⟩ "q.spl" "é=1"
    file.slice ⟨0, 3⟩ = .ok ("é" ++ "=") ∧
      file.slice ⟨9, 5⟩ = .error (.invalidSpan ⟨9, 5⟩) ∧
      file.slice ⟨1, 5⟩ = .error (.spanOutOfBounds ⟨1, 5⟩ 4) ∧
      file.slice ⟨1, 3⟩ = .error (.notCharBoundary ⟨1, 3⟩) := by
  rcases slice_cuts_or_misses (ofText ⟨0⟩ "q.spl" "é=1") with ⟨parts, faults, joins⟩
  have accent := (parts ⟨0, 2⟩ "é").mpr ⟨"", "=1", by decide, by decide, by decide⟩
  have sign := (parts ⟨2, 3⟩ "=").mpr ⟨"é", "1", by decide, by decide, by decide⟩
  refine ⟨joins _ _ _ _ rfl accent sign, ?_, ?_, ?_⟩
  · exact (faults _ _).mpr (Span.Misses.backwards (by decide))
  · exact (faults _ _).mpr (Span.Misses.beyond (by decide) (by decide))
  · apply (faults _ _).mpr
    apply Span.Misses.splits (by decide) (by decide)
    rw [← Text.isBoundary_iff_isValid]
    rintro ⟨boundary, -⟩
    exact boundary.not_isInside ⟨[], 'é', ['=', '1'], by decide, by decide, by decide⟩

end SourceFile

end RuleLexer
