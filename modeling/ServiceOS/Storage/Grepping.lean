import ServiceOS.Storage.Search

/-! # Content search is exact

However a text is cut into chunks, the lines reported are those that contain the needle. -/

namespace ServiceOS.Storage

open List

/-- The lines of a text, after what has been read of the first one. -/
def linesAfter (line : Octets) : Octets → List Octets
  | [] => [line]
  | byte :: text =>
    if byte = 10 then line :: linesAfter [] text else linesAfter (line ++ [byte]) text

/-- The number of the line if it contains the needle. -/
def hit (needle line : Octets) (number : Nat) : List Nat :=
  if needle <:+: line then [number] else []

def matchingLines (needle : Octets) (first : Nat) (lines : List Octets) : List Nat :=
  (lines.zipIdx first).flatMap fun (line, number) => hit needle line number

namespace StreamNeedle

def report (result : StreamNeedle × List Nat) (byte : UInt8) : StreamNeedle × List Nat :=
  ((result.1.feedByte byte).1, result.2 ++ (result.1.feedByte byte).2.toList)

def feedAll (stream : StreamNeedle) (chunks : List Octets) : StreamNeedle × List Nat :=
  chunks.foldl (fun (stream, lines) chunk =>
    let (stream, found) := stream.feed chunk
    (stream, lines ++ found)) (stream, [])

variable {stream : StreamNeedle}

theorem feed_eq (chunk : Octets) (lines : List Nat) :
    ((stream.feed chunk).1, lines ++ (stream.feed chunk).2) =
      chunk.foldl report (stream, lines) := by
  have moved := @foldl_hom _ _ _ (fun result => (result.1, lines ++ result.2)) report report chunk
    (stream, []) fun result byte => by simp [report]
  rw [append_nil] at moved
  exact moved.symm

theorem feedAll_eq (chunks : List Octets) :
    stream.feedAll chunks = chunks.flatten.foldl report (stream, []) := by
  simp only [feedAll, feed_eq, foldl_flatten]

/-- The stream has read this much of a line, and has reported it if the needle is in it. -/
structure Reads (stream : StreamNeedle) (line : Octets) : Prop where
  nonempty : stream.needle ≠ []
  short : stream.needle.length ≤ grepNeedleMax
  window : stream.window = line.drop (line.length - grepNeedleMax)
  late : stream.lastHitLine ≤ stream.lineNo
  marked : stream.lineNo = stream.lastHitLine ↔ stream.needle <:+: line

/-- The window is long enough to see whether the needle ends the line. -/
theorem suffix_drop_iff {needle : Octets} (short : needle.length ≤ grepNeedleMax) :
    needle <:+ line.drop (line.length - grepNeedleMax) ↔ needle <:+ line := by
  constructor
  · exact fun ends => ends.trans (drop_suffix _ _)
  · intro ends
    apply suffix_of_suffix_length_le ends (drop_suffix _ _)
    have fits := ends.length_le
    rw [length_drop]
    omega

section

variable (reads : stream.Reads line)

include reads

theorem Reads.window_append :
    (stream.window ++ [byte]).drop ((stream.window ++ [byte]).length - grepNeedleMax) =
      (line ++ [byte]).drop ((line ++ [byte]).length - grepNeedleMax) := by
  rw [reads.window, ← drop_append_of_le_length (Nat.sub_le _ _), drop_drop]
  congr 1
  simp only [length_drop, length_append, length_singleton]
  omega

theorem Reads.feedByte (inLine : byte ≠ 10) :
    ∃ next reported, stream.feedByte byte = (next, reported) ∧ next.Reads (line ++ [byte]) ∧
      next.lineNo = stream.lineNo ∧ next.needle = stream.needle ∧
      hit stream.needle line stream.lineNo ++ reported.toList =
        hit stream.needle (line ++ [byte]) stream.lineNo := by
  rw [StreamNeedle.feedByte, if_neg inLine]
  simp only [reads.window_append, isSuffixOf_iff_suffix, suffix_drop_iff reads.short]
  split
  next found =>
    have here := found.1.isInfix
    have before : ¬stream.needle <:+: line := fun wrong => found.2 (reads.marked.mpr wrong)
    exact ⟨_, _, rfl, ⟨reads.nonempty, reads.short, rfl, le_rfl, by simp [here]⟩, rfl, rfl,
      by simp [hit, before, here]⟩
  have same : stream.needle <:+: line ++ [byte] ↔ stream.needle <:+: line := by
    rw [infix_concat_iff, ← reads.marked]
    grind
  have marked := reads.marked.trans same.symm
  exact ⟨_, _, rfl, ⟨reads.nonempty, reads.short, rfl, reads.late, marked⟩, rfl, rfl,
    by simp [hit, same]⟩

theorem Reads.report (text : Octets) (lines : List Nat) :
    (text.foldl report (stream, lines ++ hit stream.needle line stream.lineNo)).2 =
      lines ++ matchingLines stream.needle stream.lineNo (linesAfter line text) := by
  induction text generalizing stream line lines with
  | nil => simp [matchingLines, linesAfter]
  | cons byte text induction =>
    by_cases newline : byte = 10
    · have fresh : ¬stream.needle <:+: [] := mt infix_nil.mp reads.nonempty
      have next : Reads { stream with lineNo := stream.lineNo + 1, window := [] } [] := by
        have late := reads.late
        refine ⟨reads.nonempty, reads.short, rfl, Nat.le_succ_of_le late, ?_⟩
        simp only [fresh, iff_false]
        omega
      have later := induction next (lines ++ hit stream.needle line stream.lineNo)
      simp only [hit, fresh, if_false, append_nil] at later
      rw [foldl_cons, linesAfter, if_pos newline, StreamNeedle.report, StreamNeedle.feedByte,
        if_pos newline, Option.toList_none, append_nil, hit, later]
      simp [matchingLines, hit]
    rcases reads.feedByte newline with ⟨next, reported, fed, nextReads, number, needle, same⟩
    have later := induction nextReads lines
    rw [number, needle, ← same, ← append_assoc] at later
    rw [foldl_cons, linesAfter, if_neg newline, ← later, StreamNeedle.report, fed]

end

end StreamNeedle

theorem grep_is_exact (needle : Octets) (chunks : List Octets) :
    (StreamNeedle.new needle).map (fun stream => (stream.feedAll chunks).2) =
      if needle ≠ [] ∧ needle.length ≤ grepNeedleMax ∧ 10 ∉ needle then
        some (matchingLines needle 1 (linesAfter [] chunks.flatten))
      else none := by
  simp only [StreamNeedle.new, Bool.or_eq_true, List.isEmpty_iff, decide_eq_true_eq,
    contains_iff_mem]
  split
  next refused =>
    rw [if_neg (by grind)]
    rfl
  have valid : needle ≠ [] ∧ needle.length ≤ grepNeedleMax ∧ 10 ∉ needle := by grind
  have reads : StreamNeedle.Reads ⟨needle, [], 1, 0⟩ [] :=
    ⟨valid.1, valid.2.1, rfl, Nat.zero_le _, by simp [valid.1]⟩
  have reported := reads.report chunks.flatten []
  rw [if_pos valid, Option.map_some, StreamNeedle.feedAll_eq]
  simpa [hit, valid.1] using reported

end ServiceOS.Storage
