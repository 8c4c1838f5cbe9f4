import Cheval.Python.Utf8

/-!
# `sse_decode`

The decoder keeps a text buffer and the per-event fields across the chunks of the stream. Each
chunk is decoded on its own, appended to the buffer, the whole buffer has its line endings
normalized, and every complete line is consumed; what follows the last LF stays for the next
chunk. After the last chunk the buffer is read as one more line, and a final event is emitted
if data was collected.

Texts are lists of characters (a `str` is one). `int(value)` is the library's and is taken as
a parameter `parseInt`; it is only reached on `retry:` lines.

Splitting the stream can change what it decodes to: a chunk that ends inside a UTF-8 sequence
decodes to a replacement character, and a CR that ends one chunk is normalized to an LF before
the LF that starts the next is seen, so one line end becomes two
(`sse_decode_depends_on_chunking`).
These are the only two ways: two adjacent chunks may be merged, in any stream, whenever the
first ends between characters and the CR/LF pair is not cut (`sseDecode_merge`), so a stream
whose chunks all end between characters and not on a CR decodes as the single chunk of all its
bytes (`sseDecode_eq_single_of_endsCleanly`).
-/

set_option autoImplicit false

namespace Cheval
namespace Sse

open Python Utf8

/-! ## 1. Lines and fields -/

/-- `SSEEvent`. -/
structure SSEEvent where
  eventType : String
  data : String
  id : String
  retry : Option Int
  deriving DecidableEq, Repr

/-- The locals of `sse_decode` other than `buffer`: `event_type`, `data_lines`, `event_id` and
`retry`. -/
structure Fields where
  eventType : List Char
  dataLines : List (List Char)
  eventId : List Char
  retry : Option Int
  deriving DecidableEq, Repr

def Fields.init : Fields := ⟨"message".data, [], [], none⟩

/-- `SSEEvent(event_type=…, data="\n".join(data_lines), id=event_id, retry=retry)`. -/
def Fields.toEvent (f : Fields) : SSEEvent :=
  ⟨⟨f.eventType⟩, ⟨List.intercalate ['\n'] f.dataLines⟩, ⟨f.eventId⟩, f.retry⟩

/-- `line.partition(":")` with one leading space stripped from the value; a line with no
colon is all field name and an empty value. -/
def splitField (line : List Char) : List Char × List Char :=
  match line.span (· ≠ ':') with
  | (name, _ :: value) => (name, if value.head? = some ' ' then value.tail else value)
  | (name, []) => (name, [])

/-- The `if field_name == …` chain. -/
def applyField (parseInt : String → Option Int) (f : Fields) (name value : List Char) :
    Fields :=
  if name = "event".data then { f with eventType := value }
  else if name = "data".data then { f with dataLines := f.dataLines ++ [value] }
  else if name = "id".data then if '\x00' ∈ value then f else { f with eventId := value }
  else if name = "retry".data then
    match parseInt ⟨value⟩ with
    | some n => { f with retry := some n }
    | none => f
  else f

/-- The body of the `while` loop for one line: an empty line dispatches the event, if there
is data, and resets the type and data; a comment is skipped. -/
def processLine (parseInt : String → Option Int) (f : Fields) (line : List Char) :
    Fields × Option SSEEvent :=
  if line = [] then
    ({ f with eventType := "message".data, dataLines := [] },
      if f.dataLines = [] then none else some f.toEvent)
  else if line.head? = some ':' then (f, none)
  else (applyField parseInt f (splitField line).1 (splitField line).2, none)

/-- The block after the loop: a non-empty buffer that is not a comment is one more field,
read with the block's own chain, whose `id` test also asks for no NUL, so that an `id` holding
one falls through to the `retry` test (`flushBuffer_eq_applyField`). -/
def flushBuffer (parseInt : String → Option Int) (f : Fields) (buffer : List Char) : Fields :=
  if buffer = [] then f
  else if buffer.head? = some ':' then f
  else
    let name := (splitField buffer).1
    let value := (splitField buffer).2
    if name = "event".data then { f with eventType := value }
    else if name = "data".data then { f with dataLines := f.dataLines ++ [value] }
    else if name = "id".data ∧ '\x00' ∉ value then { f with eventId := value }
    else if name = "retry".data then
      match parseInt ⟨value⟩ with
      | some n => { f with retry := some n }
      | none => f
    else f

/-- The block's chain is the loop's: an `id` holding a NUL fails the `retry` test too. -/
theorem flushBuffer_eq_applyField (parseInt : String → Option Int) (f : Fields)
    {buffer : List Char} (hne : buffer ≠ []) (hc : buffer.head? ≠ some ':') :
    flushBuffer parseInt f buffer =
      applyField parseInt f (splitField buffer).1 (splitField buffer).2 := by
  simp only [flushBuffer, applyField, hne, hc, if_false]
  split_ifs <;> simp_all

/-! ## 2. The buffer -/

/-- `buffer.replace("\r\n", "\n")`. -/
def replaceCrLf : List Char → List Char
  | '\r' :: '\n' :: rest => '\n' :: replaceCrLf rest
  | c :: rest => c :: replaceCrLf rest
  | [] => []

/-- `.replace("\r", "\n")`. -/
def replaceCr (s : List Char) : List Char := s.map fun c => if c = '\r' then '\n' else c

/-- Line endings normalized to LF, the two calls in the order the code makes them. -/
def normalize (s : List Char) : List Char := replaceCr (replaceCrLf s)

/-- `while "\n" in buffer: line, buffer = buffer.split("\n", 1); …`. The line is gathered a
character at a time; the result is the events, the fields, and what is left of the buffer. -/
def drain (parseInt : String → Option Int) : Fields → List Char → List Char →
    List SSEEvent × Fields × List Char
  | f, line, [] => ([], f, line)
  | f, line, c :: rest =>
    if c = '\n' then
      let r := processLine parseInt f line
      let t := drain parseInt r.1 [] rest
      (r.2.toList ++ t.1, t.2)
    else drain parseInt f (line ++ [c]) rest

/-! ## 3. The stream -/

/-- The state `sse_decode` carries from one chunk to the next. -/
structure Decoder where
  buffer : List Char
  fields : Fields

def Decoder.init : Decoder := ⟨[], .init⟩

section Stream

variable (parseInt : String → Option Int)

/-- One turn of `async for chunk in stream`. -/
def Decoder.feed (d : Decoder) (chunk : List UInt8) : List SSEEvent × Decoder :=
  let t := drain parseInt d.fields [] (normalize (d.buffer ++ decodeReplace chunk))
  (t.1, ⟨t.2.2, t.2.1⟩)

/-- The whole `async for` loop. -/
def Decoder.feedAll : Decoder → List (List UInt8) → List SSEEvent × Decoder
  | d, [] => ([], d)
  | d, c :: cs =>
    let r := d.feed parseInt c
    let t := r.2.feedAll cs
    (r.1 ++ t.1, t.2)

/-- What follows the loop: the buffer's last line, then the final event. -/
def Decoder.finish (d : Decoder) : List SSEEvent :=
  let f := flushBuffer parseInt d.fields d.buffer
  if f.dataLines = [] then [] else [f.toEvent]

/-- `sse_decode` over a stream of chunks. -/
def sseDecode (stream : List (List UInt8)) : List SSEEvent :=
  (Decoder.init.feedAll parseInt stream).1 ++
    (Decoder.init.feedAll parseInt stream).2.finish parseInt

/-! ## 4. Cutting the text -/

theorem drain_append (f : Fields) (line s t : List Char) :
    drain parseInt f line (s ++ t) =
      let r := drain parseInt f line s
      let u := drain parseInt r.2.1 r.2.2 t
      (r.1 ++ u.1, u.2) := by
  induction s generalizing f line with
  | nil => rfl
  | cons c rest ih =>
    by_cases hc : c = '\n' <;> simp [drain, hc, ih]

/-- Characters with no LF among them only extend the line being gathered. -/
theorem drain_of_not_mem (f : Fields) (acc line s : List Char) (h : '\n' ∉ line) :
    drain parseInt f acc (line ++ s) = drain parseInt f (acc ++ line) s := by
  induction line generalizing acc with
  | nil => simp
  | cons c rest ih =>
    have hc : c ≠ '\n' := fun hc => h (hc ▸ List.mem_cons_self _ _)
    rw [List.cons_append, drain, if_neg hc, ih _ fun hm => h (List.mem_cons_of_mem _ hm),
      List.append_assoc, List.singleton_append]

/-- What the loop leaves in the buffer holds no LF, and no CR when it read none. -/
theorem drain_rest (f : Fields) (line s : List Char) (hl : '\r' ∉ line) (hs : '\r' ∉ s)
    (hn : '\n' ∉ line) :
    '\r' ∉ (drain parseInt f line s).2.2 ∧ '\n' ∉ (drain parseInt f line s).2.2 := by
  induction s generalizing f line with
  | nil => exact ⟨hl, hn⟩
  | cons c rest ih =>
    have hrest : '\r' ∉ rest := fun hm => hs (List.mem_cons_of_mem _ hm)
    by_cases hc : c = '\n'
    · simp only [drain, hc, if_true]
      exact ih _ _ (List.not_mem_nil _) hrest (List.not_mem_nil _)
    · have hcr : c ≠ '\r' := fun h => hs (h ▸ List.mem_cons_self _ _)
      simp only [drain, hc, if_false]
      exact ih _ _ (by simp [hl, Ne.symm hcr]) hrest (by simp [hn, Ne.symm hc])

theorem replaceCrLf_cons (c : Char) (s : List Char) (h : ¬ (c = '\r' ∧ s.head? = some '\n')) :
    replaceCrLf (c :: s) = c :: replaceCrLf s :=
  replaceCrLf.eq_2 c s fun _ hc hs => h ⟨hc, by simp [hs]⟩

/-- `replace("\r\n", "\n")` distributes over a cut that does not split a CR/LF pair. -/
theorem replaceCrLf_append (a b : List Char)
    (h : ¬ (a.getLast? = some '\r' ∧ b.head? = some '\n')) :
    replaceCrLf (a ++ b) = replaceCrLf a ++ replaceCrLf b := by
  induction a using replaceCrLf.induct with
  | case1 rest ih =>
    have h' : ¬ (rest.getLast? = some '\r' ∧ b.head? = some '\n') := by
      cases rest <;> simp_all
    simp only [List.cons_append, replaceCrLf.eq_1, ih h']
  | case2 c rest hne ih =>
    have hc : ¬ (c = '\r' ∧ (rest ++ b).head? = some '\n') := by
      cases rest <;> simp_all
    have h' : ¬ (rest.getLast? = some '\r' ∧ b.head? = some '\n') := by
      cases rest <;> simp_all
    rw [List.cons_append, replaceCrLf_cons c _ hc, replaceCrLf_cons c rest
      fun ⟨hc', hr⟩ => by cases rest <;> simp_all, ih h', List.cons_append]
  | case3 => rfl

theorem replaceCrLf_of_not_mem {s : List Char} (h : '\r' ∉ s) : replaceCrLf s = s := by
  induction s with
  | nil => rfl
  | cons c rest ih =>
    rw [replaceCrLf_cons c rest fun ⟨hc, _⟩ => h (hc ▸ List.mem_cons_self _ _),
      ih fun hm => h (List.mem_cons_of_mem _ hm)]

theorem normalize_append (a b : List Char)
    (h : ¬ (a.getLast? = some '\r' ∧ b.head? = some '\n')) :
    normalize (a ++ b) = normalize a ++ normalize b := by
  simp [normalize, replaceCrLf_append a b h, replaceCr]

theorem normalize_of_not_mem {s : List Char} (h : '\r' ∉ s) : normalize s = s := by
  rw [normalize, replaceCrLf_of_not_mem h, replaceCr]
  conv_rhs => rw [← List.map_id s]
  exact List.map_congr_left fun c hc => if_neg fun (hc' : c = '\r') => h (hc' ▸ hc)

theorem not_mem_normalize (s : List Char) : '\r' ∉ normalize s := by
  simp only [normalize, replaceCr, List.mem_map, not_exists, not_and]
  intro c _
  split <;> simp_all

/-! ## 5. Cutting the stream -/

/-- Between chunks the buffer holds neither a CR nor an LF. -/
def Decoder.Clean (d : Decoder) : Prop := '\r' ∉ d.buffer ∧ '\n' ∉ d.buffer

theorem Decoder.init_clean : Decoder.init.Clean := ⟨List.not_mem_nil _, List.not_mem_nil _⟩

theorem Decoder.feed_clean (d : Decoder) (c : List UInt8) : (d.feed parseInt c).2.Clean :=
  drain_rest parseInt _ _ _ (List.not_mem_nil _) (not_mem_normalize _) (List.not_mem_nil _)

/-- From a clean buffer, a chunk's text is normalized on its own and read on from the buffer
as the start of a line. -/
theorem Decoder.feed_eq {d : Decoder} (hd : d.Clean) (c : List UInt8) :
    d.feed parseInt c =
      ((drain parseInt d.fields d.buffer (normalize (decodeReplace c))).1,
        ⟨(drain parseInt d.fields d.buffer (normalize (decodeReplace c))).2.2,
          (drain parseInt d.fields d.buffer (normalize (decodeReplace c))).2.1⟩) := by
  have hlast : ¬ (d.buffer.getLast? = some '\r' ∧ (decodeReplace c).head? = some '\n') :=
    fun ⟨h, _⟩ => hd.1 (List.mem_of_getLast?_eq_some h)
  rw [Decoder.feed, normalize_append _ _ hlast, normalize_of_not_mem hd.1,
    drain_of_not_mem parseInt _ _ _ _ hd.2, List.nil_append]

/-- **Two chunks read as one**, from any clean state, when the first ends between characters
and the cut does not split a CR/LF pair. -/
theorem Decoder.feed_merge {d : Decoder} (hd : d.Clean) {a b : List UInt8}
    (ha : EndsBetweenChars a)
    (hcr : ¬ ((decodeReplace a).getLast? = some '\r' ∧ (decodeReplace b).head? = some '\n')) :
    d.feed parseInt (a ++ b) =
      ((d.feed parseInt a).1 ++ ((d.feed parseInt a).2.feed parseInt b).1,
        ((d.feed parseInt a).2.feed parseInt b).2) := by
  rw [Decoder.feed_eq parseInt (d.feed_clean parseInt a) b,
    Decoder.feed_eq parseInt hd a, Decoder.feed_eq parseInt hd (a ++ b),
    decodeReplace_append ha, normalize_append _ _ hcr, drain_append]

theorem Decoder.feedAll_append (d : Decoder) (xs ys : List (List UInt8)) :
    d.feedAll parseInt (xs ++ ys) =
      ((d.feedAll parseInt xs).1 ++ ((d.feedAll parseInt xs).2.feedAll parseInt ys).1,
        ((d.feedAll parseInt xs).2.feedAll parseInt ys).2) := by
  induction xs generalizing d with
  | nil => rfl
  | cons c cs ih => simp [Decoder.feedAll, ih]

theorem Decoder.feedAll_clean {d : Decoder} (hd : d.Clean) (xs : List (List UInt8)) :
    (d.feedAll parseInt xs).2.Clean := by
  induction xs generalizing d with
  | nil => exact hd
  | cons c cs ih => exact ih (d.feed_clean parseInt c)

/-- **Merging two adjacent chunks of any stream** changes none of its events when the first
ends between characters and the cut does not split a CR/LF pair. -/
theorem sseDecode_merge (pre post : List (List UInt8)) {a b : List UInt8}
    (ha : EndsBetweenChars a)
    (hcr : ¬ ((decodeReplace a).getLast? = some '\r' ∧ (decodeReplace b).head? = some '\n')) :
    sseDecode parseInt (pre ++ a :: b :: post) =
      sseDecode parseInt (pre ++ (a ++ b) :: post) := by
  have hd := Decoder.init.feedAll_clean parseInt Decoder.init_clean pre
  simp only [sseDecode, Decoder.feedAll_append, Decoder.feedAll,
    Decoder.feed_merge parseInt hd ha hcr, List.append_assoc]

/-- A chunk that ends between characters and whose text does not end with a CR. -/
def EndsCleanly (c : List UInt8) : Prop :=
  EndsBetweenChars c ∧ (decodeReplace c).getLast? ≠ some '\r'

instance (c : List UInt8) : Decidable (EndsCleanly c) := inferInstanceAs (Decidable (_ ∧ _))

theorem EndsCleanly.append {a b : List UInt8} (ha : EndsCleanly a) (hb : EndsCleanly b) :
    EndsCleanly (a ++ b) := by
  refine ⟨endsBetweenChars_append ha.1 hb.1, ?_⟩
  rw [decodeReplace_append ha.1, List.getLast?_append]
  cases h : (decodeReplace b).getLast? with
  | none => simpa [h] using ha.2
  | some x => simpa [h] using hb.2

theorem sseDecode_single_nil : sseDecode parseInt [[]] = sseDecode parseInt [] := rfl

/-- **Chunking invariance where it holds.** A stream whose chunks, all but the last, end
between characters and not on a CR decodes to the same events as the single chunk of all its
bytes. -/
theorem sseDecode_eq_single_of_endsCleanly (cs : List (List UInt8))
    (h : ∀ c ∈ cs.dropLast, EndsCleanly c) :
    sseDecode parseInt cs = sseDecode parseInt [cs.flatten] := by
  cases cs with
  | nil => exact (sseDecode_single_nil parseInt).symm
  | cons a rest =>
    induction rest generalizing a with
    | nil => simp
    | cons b rest ih =>
      have ha : EndsCleanly a := h a (by simp)
      have hmerge := @sseDecode_merge parseInt [] rest a b ha.1 fun ⟨hcr, _⟩ => ha.2 hcr
      simp only [List.nil_append] at hmerge
      rw [hmerge, ih (a ++ b)]
      · simp
      · intro c hc
        cases rest with
        | nil => simp at hc
        | cons d rest =>
          simp only [List.dropLast_cons₂, List.mem_cons] at hc h
          rcases hc with rfl | hc
          · exact ha.append (h b (.inr (.inl rfl)))
          · exact h c (.inr (.inr hc))

/-- A stream cut after a two-byte character and before a CRLF pair: as one chunk. -/
theorem sseDecode_eq_single_after_char :
    (∀ c ∈ [utf8 "data: é", utf8 "\r\n\r\n"].dropLast, EndsCleanly c) ∧
      sseDecode (fun _ => none) [utf8 "data: é", utf8 "\r\n\r\n"] =
        sseDecode (fun _ => none) [[utf8 "data: é", utf8 "\r\n\r\n"].flatten] :=
  ⟨by decide, sseDecode_eq_single_of_endsCleanly _ _ (by decide)⟩

end Stream

/-! ## 6. Where it fails -/

/-- **Chunking changes the events.** For every `int`, a CR/LF pair cut between two chunks is
read as two line ends, which dispatches the first data line as an event of its own; and a
UTF-8 character cut between two chunks is read as two replacement characters. -/
theorem sse_decode_depends_on_chunking (parseInt : String → Option Int) :
    sseDecode parseInt [utf8 "data: a\r", utf8 "\ndata: b\n\n"] =
        [⟨"message", "a", "", none⟩, ⟨"message", "b", "", none⟩] ∧
      sseDecode parseInt [utf8 "data: a\r\ndata: b\n\n"] = [⟨"message", "a\nb", "", none⟩] ∧
      utf8 "data: a\r" ++ utf8 "\ndata: b\n\n" = utf8 "data: a\r\ndata: b\n\n" ∧
      sseDecode parseInt [utf8 "data: " ++ [0xC3], [0xA9, 0x0A, 0x0A]] =
        [⟨"message", "��", "", none⟩] ∧
      sseDecode parseInt [utf8 "data: é\n\n"] = [⟨"message", "é", "", none⟩] ∧
      utf8 "data: " ++ [0xC3] ++ [0xA9, 0x0A, 0x0A] = utf8 "data: é\n\n" :=
  ⟨rfl, rfl, rfl, rfl, rfl, rfl⟩

end Sse
end Cheval
