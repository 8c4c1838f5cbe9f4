import Mathlib.Data.List.Basic

/-!
# `str.encode("utf-8")` and `bytes.decode("utf-8", errors="replace")`

`sse_decode` decodes every chunk of the stream on its own, with `errors="replace"`. What that
call does at the edges of a chunk decides whether splitting the stream changes its text, so the
decoder is modelled as CPython runs it: one byte at a time, with the well-formed sequences of
Table 3-7 of the Unicode standard, and one U+FFFD for each maximal ill-formed subpart. A byte
that cannot continue the sequence in progress ends that subpart and is read again as the
start of the next; an unfinished sequence at the end of the input is one more U+FFFD.

The state between two bytes says whether the decoder stands between characters. `run_append`
cuts a run at any byte, and `decodeReplace_append` says when decoding commutes with
concatenation: exactly when the first part leaves the decoder between characters.

The other direction is the round trip: what `str.encode` writes decodes back to the text, with
either error handler, and leaves the decoder between characters (`decodeReplace_utf8`,
`decodeStrict_utf8`). This is what lets the circuit breaker's state file be read back from its
bytes.
-/

set_option autoImplicit false

namespace Cheval
namespace Python

/-- `s.encode("utf-8")`. -/
def utf8 (s : String) : List UInt8 := s.toUTF8.data.toList

namespace Utf8

/-- Where the decoder stands: between characters, or inside one, with the code point read so
far, the continuation bytes still owed, and the least and greatest byte the next may be. -/
inductive State where
  | start
  | inside (acc owed : Nat) (lo hi : UInt8)
  deriving DecidableEq, Repr

/-- U+FFFD, what `errors="replace"` writes for an ill-formed subpart. -/
def replacement : Char := '�'

/-- A first byte: the character it is, or the state of the sequence it starts, or a
replacement where no well-formed sequence starts with it. -/
def first (b : UInt8) : List Char × State :=
  if b < 0x80 then ([Char.ofNat b.toNat], .start)
  else if b < 0xC2 then ([replacement], .start)
  else if b < 0xE0 then ([], .inside (b.toNat % 32) 1 0x80 0xBF)
  else if b = 0xE0 then ([], .inside 0 2 0xA0 0xBF)
  else if b = 0xED then ([], .inside 13 2 0x80 0x9F)
  else if b < 0xF0 then ([], .inside (b.toNat % 16) 2 0x80 0xBF)
  else if b = 0xF0 then ([], .inside 0 3 0x90 0xBF)
  else if b < 0xF4 then ([], .inside (b.toNat % 8) 3 0x80 0xBF)
  else if b = 0xF4 then ([], .inside 4 3 0x80 0x8F)
  else ([replacement], .start)

/-- One byte. Inside a sequence, a byte out of range ends the ill-formed subpart with one
replacement and starts afresh. -/
def step : State → UInt8 → List Char × State
  | .start, b => first b
  | .inside acc owed lo hi, b =>
    if lo ≤ b ∧ b ≤ hi then
      if owed = 1 then ([Char.ofNat (acc * 64 + b.toNat % 64)], .start)
      else ([], .inside (acc * 64 + b.toNat % 64) (owed - 1) 0x80 0xBF)
    else (replacement :: (first b).1, (first b).2)

/-- The characters of some bytes from a state, and the state after them. -/
def run : State → List UInt8 → List Char × State
  | q, [] => ([], q)
  | q, b :: bs =>
    let r := step q b
    let t := run r.2 bs
    (r.1 ++ t.1, t.2)

/-- The end of the input: a sequence left unfinished is one more replacement. -/
def flush : State → List Char
  | .start => []
  | .inside .. => [replacement]

/-- `bytes.decode("utf-8", errors="replace")`. -/
def decodeReplace (bs : List UInt8) : List Char :=
  (run .start bs).1 ++ flush (run .start bs).2

/-- The bytes end between characters. -/
def EndsBetweenChars (bs : List UInt8) : Prop := (run .start bs).2 = .start

instance (bs : List UInt8) : Decidable (EndsBetweenChars bs) :=
  inferInstanceAs (Decidable (_ = _))

theorem run_append (q : State) (a b : List UInt8) :
    run q (a ++ b) = ((run q a).1 ++ (run (run q a).2 b).1, (run (run q a).2 b).2) := by
  induction a generalizing q with
  | nil => rfl
  | cons x more ih => simp [run, ih]

/-- **Decoding commutes with concatenation at a character boundary.** -/
theorem decodeReplace_append {a : List UInt8} (ha : EndsBetweenChars a) (b : List UInt8) :
    decodeReplace (a ++ b) = decodeReplace a ++ decodeReplace b := by
  unfold EndsBetweenChars at ha
  simp [decodeReplace, run_append, ha, flush]

theorem endsBetweenChars_append {a b : List UInt8} (ha : EndsBetweenChars a)
    (hb : EndsBetweenChars b) : EndsBetweenChars (a ++ b) := by
  unfold EndsBetweenChars at *
  rw [run_append, ha, hb]

theorem decodeReplace_nil : decodeReplace [] = [] := rfl

/-- `bytes.decode("utf-8")` with the default `errors="strict"`: the text when the bytes are
well-formed UTF-8, and `none` where CPython raises `UnicodeDecodeError`. The bytes are
well-formed exactly when they are the encoding of what the replacing decoder reads from them:
an encoding is always well-formed, and a replacement never encodes an ill-formed subpart. -/
def decodeStrict (bs : List UInt8) : Option String :=
  let s : String := ⟨decodeReplace bs⟩
  if utf8 s = bs then some s else none

example : decodeStrict (utf8 "null") = some "null" := by decide

example : decodeStrict [0xFF] = none := by decide

/-! ## The encoder's bytes read back

`str.encode` writes each character as `String.utf8EncodeChar` does: one, two, three or four
bytes by the range of the code point, the lead byte carrying its top bits and each continuation
byte six more. The bit masks are checked once over the 256 byte values (`cont_toNat` and the
leads), the decoder's steps are stated once on the bytes the encoder writes (`run_lead2`,
`run_cont`), and what is left of each class is arithmetic on the code point (`three_bytes`):
the lead is one the decoder accepts, the second byte lies in the range the lead asks for, which
keeps out overlong forms, surrogates and code points past U+10FFFF, and the payloads give the
code point back. -/

section Encoder

theorem uint32_toNat_shiftRight (v k : UInt32) :
    (v >>> k).toNat = v.toNat >>> (k.toNat % 32) := by
  show (v.toBitVec >>> (UInt32.mod k 32).toBitVec).toNat = _
  simp only [BitVec.ushiftRight_eq', BitVec.toNat_ushiftRight]
  rfl

theorem uint32_toNat_toUInt8 (v : UInt32) : v.toUInt8.toNat = v.toNat % 256 := rfl

theorem uint8_lt_iff {a b : UInt8} : a < b ↔ a.toNat < b.toNat := Iff.rfl

theorem uint8_le_iff {a b : UInt8} : a ≤ b ↔ a.toNat ≤ b.toNat := Iff.rfl

theorem uint8_eq_iff {a b : UInt8} : a = b ↔ a.toNat = b.toNat :=
  ⟨congrArg _, UInt8.toNat.inj⟩

/-- A fact about every byte from the 256 values `UInt8.ofNat n`. -/
theorem uint8_forall {P : UInt8 → Prop} (h : ∀ n < 256, P (UInt8.ofNat n)) (x : UInt8) :
    P x := by
  have hx := h x.toNat x.toNat_lt_size
  rwa [show UInt8.ofNat x.toNat = x from UInt8.toNat.inj (Nat.mod_eq_of_lt x.toNat_lt_size)]
    at hx

set_option maxRecDepth 4096 in
theorem cont_toNat : ∀ x : UInt8, (x &&& 0x3f ||| 0x80).toNat = 128 + x.toNat % 64 :=
  uint8_forall (by decide)

set_option maxRecDepth 4096 in
theorem lead2_toNat : ∀ x : UInt8, (x &&& 0x1f ||| 0xc0).toNat = 192 + x.toNat % 32 :=
  uint8_forall (by decide)

set_option maxRecDepth 4096 in
theorem lead3_toNat : ∀ x : UInt8, (x &&& 0x0f ||| 0xe0).toNat = 224 + x.toNat % 16 :=
  uint8_forall (by decide)

set_option maxRecDepth 4096 in
theorem lead4_toNat : ∀ x : UInt8, (x &&& 0x07 ||| 0xf0).toNat = 240 + x.toNat % 8 :=
  uint8_forall (by decide)

theorem run_cons (q : State) (b : UInt8) (bs : List UInt8) :
    run q (b :: bs) = ((step q b).1 ++ (run (step q b).2 bs).1, (run (step q b).2 bs).2) :=
  rfl

@[simp] theorem step_start (b : UInt8) : step .start b = first b := rfl

theorem first_ascii {b : UInt8} (h : b.toNat < 0x80) :
    first b = ([Char.ofNat b.toNat], .start) := by
  simp only [first, uint8_lt_iff, UInt8.reduceToNat]
  rw [if_pos h]

theorem first_lead2 {b : UInt8} {k : Nat} (hb : b.toNat = 192 + k) (h : 2 ≤ k) (h' : k < 32) :
    first b = ([], .inside k 1 0x80 0xBF) := by
  simp only [first, uint8_lt_iff, hb, UInt8.reduceToNat]
  rw [if_neg (by omega), if_neg (by omega), if_pos (by omega), show (192 + k) % 32 = k by omega]

/-- A three-byte lead: `E0` asks for a second byte of at least `A0` (no overlong form), `ED`
for one of at most `9F` (no surrogate). -/
theorem first_lead3 {b : UInt8} {k : Nat} (hb : b.toNat = 224 + k) (h : k < 16) :
    first b = ([], .inside k 2 (if k = 0 then 0xA0 else 0x80) (if k = 13 then 0x9F else 0xBF)) := by
  simp only [first, uint8_lt_iff, uint8_eq_iff, hb, UInt8.reduceToNat]
  rw [if_neg (by omega), if_neg (by omega), if_neg (by omega)]
  by_cases h0 : k = 0
  · simp [h0]
  by_cases hd : k = 13
  · simp [hd]
  rw [if_neg (by omega), if_neg (by omega), if_pos (by omega), if_neg h0, if_neg hd,
    show (224 + k) % 16 = k by omega]

/-- A four-byte lead: `F0` asks for a second byte of at least `90`, `F4` for one of at most
`8F` (nothing past U+10FFFF). -/
theorem first_lead4 {b : UInt8} {k : Nat} (hb : b.toNat = 240 + k) (h : k ≤ 4) :
    first b = ([], .inside k 3 (if k = 0 then 0x90 else 0x80) (if k = 4 then 0x8F else 0xBF)) := by
  simp only [first, uint8_lt_iff, uint8_eq_iff, hb, UInt8.reduceToNat]
  rw [if_neg (by omega), if_neg (by omega), if_neg (by omega), if_neg (by omega),
    if_neg (by omega), if_neg (by omega)]
  by_cases h0 : k = 0
  · simp [h0]
  by_cases h4 : k = 4
  · simp [h4]
  rw [if_neg (by omega), if_pos (by omega), if_neg h0, if_neg h4, show (240 + k) % 8 = k by omega]

theorem run_lead {b : UInt8} {q : State} (h : first b = ([], q)) (bs : List UInt8) :
    run .start (b :: bs) = run q bs := by
  simp [run, h]

/-- A two-byte lead, as `str.encode` writes it. -/
theorem run_lead2 (x : UInt8) (h : 2 ≤ x.toNat % 32) (bs : List UInt8) :
    run .start ((x &&& 0x1f ||| 0xc0) :: bs) = run (.inside (x.toNat % 32) 1 0x80 0xBF) bs :=
  run_lead (first_lead2 (lead2_toNat x) h (Nat.mod_lt _ (by decide))) bs

theorem run_lead3 (x : UInt8) (bs : List UInt8) :
    run .start ((x &&& 0x0f ||| 0xe0) :: bs) =
      run (.inside (x.toNat % 16) 2 (if x.toNat % 16 = 0 then 0xA0 else 0x80)
        (if x.toNat % 16 = 13 then 0x9F else 0xBF)) bs :=
  run_lead (first_lead3 (lead3_toNat x) (Nat.mod_lt _ (by decide))) bs

theorem run_lead4 (x : UInt8) (h : x.toNat % 8 ≤ 4) (bs : List UInt8) :
    run .start ((x &&& 0x07 ||| 0xf0) :: bs) =
      run (.inside (x.toNat % 8) 3 (if x.toNat % 8 = 0 then 0x90 else 0x80)
        (if x.toNat % 8 = 4 then 0x8F else 0xBF)) bs :=
  run_lead (first_lead4 (lead4_toNat x) h) bs

theorem step_cont {acc owed k : Nat} {lo hi b : UInt8} (hb : b.toNat = 128 + k) (hk : k < 64)
    (h : lo ≤ b ∧ b ≤ hi) :
    step (.inside acc owed lo hi) b = if owed = 1 then ([Char.ofNat (acc * 64 + k)], .start)
      else ([], .inside (acc * 64 + k) (owed - 1) 0x80 0xBF) := by
  simp only [step, h, and_self, if_true, hb, show (128 + k) % 64 = k by omega]

/-- A continuation byte, as `str.encode` writes it, in the range the decoder asks for. -/
theorem run_cont (x : UInt8) {acc owed : Nat} {lo hi : UInt8}
    (h : lo ≤ (x &&& 0x3f ||| 0x80) ∧ (x &&& 0x3f ||| 0x80) ≤ hi) (bs : List UInt8) :
    run (.inside acc (owed + 2) lo hi) ((x &&& 0x3f ||| 0x80) :: bs) =
      run (.inside (acc * 64 + x.toNat % 64) (owed + 1) 0x80 0xBF) bs := by
  simp [run, step_cont (cont_toNat x) (Nat.mod_lt _ (by decide)) h]

theorem run_cont_last (x : UInt8) {acc : Nat} {lo hi : UInt8}
    (h : lo ≤ (x &&& 0x3f ||| 0x80) ∧ (x &&& 0x3f ||| 0x80) ≤ hi) :
    run (.inside acc 1 lo hi) [x &&& 0x3f ||| 0x80] =
      ([Char.ofNat (acc * 64 + x.toNat % 64)], .start) := by
  simp [run, step_cont (cont_toNat x) (Nat.mod_lt _ (by decide)) h]

/-- Every continuation byte lies in `80`–`BF`. -/
theorem cont_mem (x : UInt8) : 0x80 ≤ (x &&& 0x3f ||| 0x80) ∧ (x &&& 0x3f ||| 0x80) ≤ 0xBF := by
  simp only [uint8_le_iff, cont_toNat, UInt8.reduceToNat]
  omega

theorem decoded_eq {c : Char} {k : Nat} (h : k = c.val.toNat) :
    (([Char.ofNat k], .start) : List Char × State) = ([c], .start) := by
  rw [h, show c.val.toNat = c.toNat from rfl, Char.ofNat_toNat]

/-! The three multi-byte classes on the code point `n`: the lead's payload is one the decoder
accepts, the second byte lies in the range the lead asks for, and the payloads give `n` back. -/

theorem two_bytes {n : Nat} (h1 : ¬ n ≤ 127) (h2 : n ≤ 2047) :
    2 ≤ n / 64 % 256 % 32 ∧ n / 64 % 256 % 32 * 64 + n % 256 % 64 = n := by
  omega

theorem three_bytes {n : Nat} (h2 : ¬ n ≤ 2047) (h3 : n ≤ 65535) (hv : n < 0xd800 ∨ 0xdfff < n) :
    (if n / 4096 % 256 % 16 = 0 then 160 else 128) ≤ 128 + n / 64 % 256 % 64 ∧
      128 + n / 64 % 256 % 64 ≤ (if n / 4096 % 256 % 16 = 13 then 159 else 191) ∧
      (n / 4096 % 256 % 16 * 64 + n / 64 % 256 % 64) * 64 + n % 256 % 64 = n := by
  refine ⟨?_, ?_, by omega⟩ <;> split_ifs <;> omega

theorem four_bytes {n : Nat} (h3 : ¬ n ≤ 65535) (hn : n < 0x110000) :
    n / 262144 % 256 % 8 ≤ 4 ∧
      (if n / 262144 % 256 % 8 = 0 then 144 else 128) ≤ 128 + n / 4096 % 256 % 64 ∧
      128 + n / 4096 % 256 % 64 ≤ (if n / 262144 % 256 % 8 = 4 then 143 else 191) ∧
      ((n / 262144 % 256 % 8 * 64 + n / 4096 % 256 % 64) * 64 + n / 64 % 256 % 64) * 64 +
        n % 256 % 64 = n := by
  refine ⟨by omega, ?_, ?_, by omega⟩ <;> split_ifs <;> omega

/-- **Each character's bytes read back as the character**, and leave the decoder between
characters. -/
theorem run_utf8EncodeChar (c : Char) :
    run .start (String.utf8EncodeChar c) = ([c], .start) := by
  have hv : c.val.toNat < 0xd800 ∨ (0xdfff < c.val.toNat ∧ c.val.toNat < 0x110000) := c.valid
  -- the bytes' payloads as arithmetic on the code point
  have e0 : c.val.toUInt8.toNat = c.val.toNat % 256 := uint32_toNat_toUInt8 _
  have e6 : (c.val >>> 6).toUInt8.toNat = c.val.toNat / 64 % 256 := by
    simp only [uint32_toNat_toUInt8, uint32_toNat_shiftRight, UInt32.reduceToNat, Nat.reduceMod,
      Nat.shiftRight_eq_div_pow, Nat.reducePow]
  have e12 : (c.val >>> 12).toUInt8.toNat = c.val.toNat / 4096 % 256 := by
    simp only [uint32_toNat_toUInt8, uint32_toNat_shiftRight, UInt32.reduceToNat, Nat.reduceMod,
      Nat.shiftRight_eq_div_pow, Nat.reducePow]
  have e18 : (c.val >>> 18).toUInt8.toNat = c.val.toNat / 262144 % 256 := by
    simp only [uint32_toNat_toUInt8, uint32_toNat_shiftRight, UInt32.reduceToNat, Nat.reduceMod,
      Nat.shiftRight_eq_div_pow, Nat.reducePow]
  unfold String.utf8EncodeChar
  simp only [show ∀ a b : UInt32, a ≤ b ↔ a.toNat ≤ b.toNat from fun _ _ => Iff.rfl,
    UInt32.reduceToNat]
  split_ifs with h1 h2 h3
  · -- one byte
    have hb : c.val.toUInt8.toNat = c.val.toNat := by rw [e0]; omega
    rw [run_cons, step_start, first_ascii (hb ▸ (by omega : c.val.toNat < 0x80)), hb]
    exact decoded_eq rfl
  · -- two bytes
    obtain ⟨hk, he⟩ := two_bytes h1 h2
    rw [run_lead2 _ (by rwa [e6]), run_cont_last _ (cont_mem _)]
    exact decoded_eq (by rw [e6, e0, he])
  · -- three bytes: the second byte keeps out overlong forms and surrogates
    obtain ⟨hlo, hhi, he⟩ := three_bytes h2 h3 (by omega)
    rw [run_lead3, run_cont _ (by simpa only [uint8_le_iff, cont_toNat, (apply_ite UInt8.toNat),
        UInt8.reduceToNat, e6, e12] using And.intro hlo hhi), run_cont_last _ (cont_mem _)]
    exact decoded_eq (by rw [e12, e6, e0, he])
  · -- four bytes: the second byte keeps out overlong forms and code points past U+10FFFF
    obtain ⟨hk, hlo, hhi, he⟩ := four_bytes h3 (by omega)
    rw [run_lead4 _ (by rwa [e18]), run_cont _ (by simpa only [uint8_le_iff, cont_toNat,
        (apply_ite UInt8.toNat), UInt8.reduceToNat, e12, e18] using And.intro hlo hhi),
      run_cont _ (cont_mem _), run_cont_last _ (cont_mem _)]
    exact decoded_eq (by rw [e18, e12, e6, e0, he])

theorem run_utf8 (s : String) : run .start (utf8 s) = (s.data, .start) := by
  obtain ⟨cs⟩ := s
  show run .start (cs.flatMap String.utf8EncodeChar) = (cs, .start)
  induction cs with
  | nil => rfl
  | cons c cs ih => rw [List.flatMap_cons, run_append, run_utf8EncodeChar, ih]; rfl

/-- **`bytes.decode` reads back what `str.encode` wrote.** -/
theorem decodeReplace_utf8 (s : String) : decodeReplace (utf8 s) = s.data := by
  simp [decodeReplace, run_utf8, flush]

theorem endsBetweenChars_utf8 (s : String) : EndsBetweenChars (utf8 s) :=
  congrArg Prod.snd (run_utf8 s)

theorem decodeStrict_utf8 (s : String) : decodeStrict (utf8 s) = some s := by
  simp [decodeStrict, decodeReplace_utf8]

end Encoder

end Utf8
end Python
end Cheval
