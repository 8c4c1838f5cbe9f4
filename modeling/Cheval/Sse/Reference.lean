import Cheval.Sse.Decoder

/-!
# The line-level reference for `sse_decode`

`sse_decode` reads a stream through a buffer: each chunk is decoded and appended, the whole
buffer normalized, the complete lines consumed one LF at a time, and what is left after the
last LF read after the stream by a second copy of the field parser. This file writes the
decoder's contract as a reference over lines, and proves that on a stream given as a single
chunk the decoder yields exactly the reference's events (`sse_decode_single_chunk_eq_reference`).

The reference, in the contract's words: (1) decode with replacement and normalize line ends,
with the library's decoder and `str.replace` as the decoder calls them;
(2) split at LF, keeping a final segment only when it is not empty; (3) fold over the lines,
an empty line dispatching, a `:` line skipped, any other line one field; (4) dispatch once more
at the end if data is left.

Two things of the code meet the reference here. The buffer loop consumes exactly the segments
before the last LF (`drain_eq_referenceFold`), gathering a line a character at a time; and the
block after the loop, with its own chain, reads the last segment as the loop would
(`flushBuffer_eq_applyField`).
-/

set_option autoImplicit false

namespace Cheval
namespace Sse

open Python Utf8

/-! ## 1. The reference -/

/-- (2) The lines of a text: its segments between LFs, the last one kept when not empty. -/
def referenceLines (t : List Char) : List (List Char) :=
  if (t.splitOn '\n').getLast? = some [] then (t.splitOn '\n').dropLast else t.splitOn '\n'

/-- (3) A line's field and value: split at its first `:`, exactly one leading space stripped
from the value; a line with no `:` is all field, with the empty value. -/
def referenceField (line : List Char) : List Char × List Char :=
  if ':' ∈ line then
    let value := (line.dropWhile (· ≠ ':')).tail
    (line.takeWhile (· ≠ ':'), if value.head? = some ' ' then value.tail else value)
  else (line, [])

/-- (3) One line of the fold: the fields after it, and the event it dispatches. `event` sets
the type, `data` appends, `id` sets the id unless the value holds a NUL, `retry` sets the
retry where `int` reads the value; other fields change nothing. -/
def referenceLine (parseInt : String → Option Int) (f : Fields) (line : List Char) :
    Fields × List SSEEvent :=
  if line = [] then
    (⟨"message".data, [], f.eventId, f.retry⟩, if f.dataLines = [] then [] else [f.toEvent])
  else if line.head? = some ':' then (f, [])
  else
    let name := (referenceField line).1
    let value := (referenceField line).2
    if name = "event".data then (⟨value, f.dataLines, f.eventId, f.retry⟩, [])
    else if name = "data".data then (⟨f.eventType, f.dataLines ++ [value], f.eventId, f.retry⟩, [])
    else if name = "id".data then
      (if '\x00' ∈ value then f else ⟨f.eventType, f.dataLines, value, f.retry⟩, [])
    else if name = "retry".data then
      (⟨f.eventType, f.dataLines, f.eventId, (parseInt ⟨value⟩).or f.retry⟩, [])
    else (f, [])

/-- (3) The fold over the lines: the events, and the fields at the end. -/
def referenceFold (parseInt : String → Option Int) : Fields → List (List Char) →
    List SSEEvent × Fields
  | f, [] => ([], f)
  | f, line :: lines =>
    let r := referenceLine parseInt f line
    let t := referenceFold parseInt r.1 lines
    (r.2 ++ t.1, t.2)

/-- The reference decoder on a whole byte string: (1) to (4). -/
def referenceDecode (parseInt : String → Option Int) (bytes : List UInt8) : List SSEEvent :=
  let r := referenceFold parseInt .init (referenceLines (normalize (decodeReplace bytes)))
  r.1 ++ if r.2.dataLines = [] then [] else [r.2.toEvent]

/-! ## 2. The loop's lines are the reference's -/

section Lines

variable (parseInt : String → Option Int)

theorem referenceField_eq_splitField (line : List Char) :
    referenceField line = splitField line := by
  unfold referenceField splitField
  rw [List.span_eq_take_drop]
  by_cases h : ':' ∈ line
  · cases hd : line.dropWhile (· ≠ ':') with
    | nil =>
      have := List.dropWhile_eq_nil_iff.1 hd ':' h
      simp at this
    | cons c rest => simp [h]
  · have hall : ∀ c ∈ line, decide (c ≠ ':') = true := fun c hc =>
      decide_eq_true fun hc' => h (hc' ▸ hc)
    rw [List.dropWhile_eq_nil_iff.2 hall, List.takeWhile_eq_self_iff.2 hall, if_neg h]

/-- On every line the loop's body does what the reference's step says. -/
theorem referenceLine_eq (f : Fields) (line : List Char) :
    referenceLine parseInt f line =
      ((processLine parseInt f line).1, (processLine parseInt f line).2.toList) := by
  dsimp only [referenceLine, processLine, applyField]
  rw [referenceField_eq_splitField]
  split_ifs <;> try rfl
  cases parseInt ⟨(splitField line).2⟩ <;> rfl

theorem referenceFold_append (f : Fields) (l₁ l₂ : List (List Char)) :
    referenceFold parseInt f (l₁ ++ l₂) =
      ((referenceFold parseInt f l₁).1 ++
        (referenceFold parseInt (referenceFold parseInt f l₁).2 l₂).1,
        (referenceFold parseInt (referenceFold parseInt f l₁).2 l₂).2) := by
  induction l₁ generalizing f with
  | nil => rfl
  | cons line lines ih => simp [referenceFold, ih]

theorem splitOn_lf_of_not_mem {s : List Char} (h : '\n' ∉ s) : s.splitOn '\n' = [s] :=
  List.splitOnP_eq_single _ _ fun c hc hlf => h (by rwa [beq_iff_eq.1 hlf] at hc)

theorem splitOn_lf_append {s : List Char} (h : '\n' ∉ s) (rest : List Char) :
    (s ++ '\n' :: rest).splitOn '\n' = s :: rest.splitOn '\n' :=
  List.splitOnP_first _ _ (fun c hc hlf => h (by rwa [beq_iff_eq.1 hlf] at hc)) '\n' (by simp)
    rest

/-- **The buffer loop, over the segments of its text.** Gathering the line `acc` (no LF in
it) and reading `s`, the loop folds the reference's steps over every segment of `acc ++ s`
but the last, and leaves the last in the buffer. -/
theorem drain_eq_referenceFold (f : Fields) (acc s : List Char) (hacc : '\n' ∉ acc) :
    drain parseInt f acc s =
      ((referenceFold parseInt f ((acc ++ s).splitOn '\n').dropLast).1,
        (referenceFold parseInt f ((acc ++ s).splitOn '\n').dropLast).2,
        ((acc ++ s).splitOn '\n').getLast?.getD []) := by
  induction s generalizing f acc with
  | nil => simp [drain, splitOn_lf_of_not_mem hacc, referenceFold]
  | cons c rest ih =>
    by_cases hc : c = '\n'
    · subst hc
      obtain ⟨seg, segs, hsegs⟩ := List.exists_cons_of_ne_nil (List.splitOnP_ne_nil
        (· == '\n') rest)
      have hrest : rest.splitOn '\n' = seg :: segs := hsegs
      have ih' := ih (processLine parseInt f acc).1 [] (List.not_mem_nil _)
      rw [List.nil_append, hrest] at ih'
      rw [drain, if_pos rfl]
      dsimp only
      rw [ih', splitOn_lf_append hacc, hrest, List.dropLast_cons₂, List.getLast?_cons_cons]
      simp [referenceFold, referenceLine_eq]
    · have hacc' : '\n' ∉ acc ++ [c] := by simp [hacc, Ne.symm hc]
      rw [drain, if_neg hc, ih _ _ hacc', List.append_assoc, List.singleton_append]

/-- A line that is not empty dispatches nothing, and changes the fields as the block after
the loop would. -/
theorem processLine_of_ne_nil (f : Fields) {line : List Char} (hne : line ≠ []) :
    processLine parseInt f line = (flushBuffer parseInt f line, none) := by
  unfold processLine
  rw [if_neg hne]
  split_ifs with hc
  · simp [flushBuffer, hne, hc]
  · rw [flushBuffer_eq_applyField parseInt f hne hc]

end Lines

/-! ## 3. One chunk -/

/-- **On a single chunk `sse_decode` is the reference.** For every byte string given as the
only chunk of the stream, and every `int`, the decoder yields exactly the reference's events. -/
theorem sse_decode_single_chunk_eq_reference (parseInt : String → Option Int)
    (bytes : List UInt8) : sseDecode parseInt [bytes] = referenceDecode parseInt bytes := by
  obtain ⟨segs, last, hsplit⟩ : ∃ segs last,
      (normalize (decodeReplace bytes)).splitOn '\n' = segs ++ [last] :=
    ⟨_, _, (List.dropLast_append_getLast (List.splitOnP_ne_nil _ _)).symm⟩
  simp only [sseDecode, Decoder.feedAll, Decoder.feed, Decoder.init, Decoder.finish,
    List.nil_append, List.append_nil,
    drain_eq_referenceFold parseInt _ [] _ (List.not_mem_nil _), referenceDecode,
    referenceLines, hsplit, List.dropLast_concat, List.getLast?_concat, Option.getD_some]
  by_cases hlast : last = []
  · subst hlast
    simp [flushBuffer]
  · simp only [Option.some.injEq, hlast, if_false, referenceFold_append]
    simp [referenceFold, referenceLine_eq, processLine_of_ne_nil parseInt _ hlast]

/-- A stream that ends on an unterminated data line still dispatches it. -/
example : sseDecode (fun _ => none) [utf8 "event: e\r\ndata: x"] =
    [⟨"e", "x", "", none⟩] := rfl

end Sse
end Cheval
