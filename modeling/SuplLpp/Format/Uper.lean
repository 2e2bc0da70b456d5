import Mathlib.Tactic.FinCases
import SuplLpp.Format.Helper
import SuplLpp.Lib.Framing

/-!
# The parser of LPP messages in UPER

* `tryParse`, `tryParseProvideAssistanceData` and the loop of `process_input`, with the decoder as
  a parameter;
* `Codec`: what is assumed of the decoder;
* `tryParseWith_spec`, `drain_spec`: what one call and what the loop does to the buffer;
* `Delivers`: after each piece, exactly the messages that are complete have been handed on;
* `uper_iff`: for which cuts this is so, and that a decode failure leaves the buffer as it is;
* `ackCodec`: the messages that only acknowledge.
-/

namespace SuplLpp.Uper

open Helper Framing

/-! ### The functions of the source -/

/-- What `uper_decode_complete` returns, with the number of bytes consumed. -/
inductive Rval (μ : Type*)
  | ok (message : μ) (consumed : ℕ)
  | wmore (consumed : ℕ)
  | fail (consumed : ℕ)

section Functions

variable {μ : Type*} (decode : List UInt8 → Rval μ)

/-- The common body of the two functions of `UperParser`. -/
def tryParseWith (p : Parser) : Parser × Option μ :=
  if p.bufferLength < 6 then (p, none)
  else
    match decode (p.copyToBuffer (List.replicate p.bufferLength 0)) with
    | .fail consumed => (p.skip (UInt32.ofNat consumed), none)
    | .wmore _ => (p, none)
    | .ok message consumed => (p.skip (UInt32.ofNat consumed), some message)

/-- `try_parse`, with the decoder of `LPP_Message`. -/
def tryParse (p : Parser) : Parser × Option μ := tryParseWith decode p

/-- `try_parse_provide_assistance_data`, with the decoder of `A_GNSS_ProvideAssistanceData`. -/
def tryParseProvideAssistanceData (p : Parser) : Parser × Option μ := tryParseWith decode p

/-- The loop of `process_input`, of at most `fuel` calls: `try_parse` until there is no message. -/
def drain : ℕ → Parser → Option (Parser × List μ)
  | 0, _ => none
  | fuel + 1, p =>
    match tryParseWith decode p with
    | (p, none) => some (p, [])
    | (p, some message) => (drain fuel p).map fun r => (r.1, message :: r.2)

/-- The part of `process_input` for this parser. -/
def processInput (fuel : ℕ) (p : Parser) (piece : List UInt8) : Option (Parser × List μ) :=
  drain decode fuel (p.append piece).1

/-- The messages of one call of `process_input` after the other. -/
def run (fuel : ℕ) : Parser → List (List UInt8) → Option (List (List μ))
  | _, [] => some []
  | p, piece :: pieces => do
    let (p, messages) ← processInput decode fuel p piece
    let rest ← run fuel p pieces
    some (messages :: rest)

end Functions

/-- A decoder that knows the encodings of the messages: it consumes exactly a message's bytes,
wants more on every proper beginning of one, and consumes nothing when it fails. -/
structure Codec (μ : Type*) where
  encode : μ → List UInt8
  decode : List UInt8 → Rval μ
  encode_ne_nil : ∀ m, encode m ≠ []
  decode_eq_ok_iff : ∀ {b m n}, decode b = .ok m n ↔ n = (encode m).length ∧ encode m <+: b
  decode_begins : ∀ {b m}, b <+: encode m → b ≠ encode m → ∃ n, decode b = .wmore n
  fail_consumed : ∀ {b n}, decode b = .fail n → n = 0

/-! ### One call -/

section Calls

variable {μ : Type*} (c : Codec μ) {p : Parser} {q : List UInt8}

theorem copyToBuffer_all (h : Repr p q) :
    p.copyToBuffer (List.replicate p.bufferLength 0) = q := by
  have hlength := h.bufferLength
  have hcap := h.capacity_le
  have hlt := h.length_lt
  rw [h.copyToBuffer (by rw [List.length_replicate]; omega), List.length_replicate, hlength,
    List.take_length, List.drop_of_length_le (by simp), List.append_nil]

theorem skip_zero (h : Repr p q) : p.skip (UInt32.ofNat 0) = p := by
  have hread := h.read_lt
  have hcap := h.capacity_le
  have hzero : (UInt32.ofNat 0).toNat = 0 := rfl
  rw [Parser.skip, hzero, Nat.zero_min, Nat.add_zero, u32_of_lt (by omega), Nat.mod_eq_of_lt hread]

/-- **One call**: a message at the front is taken, or the parser stays as it is. -/
theorem tryParseWith_spec (h : Repr p q) :
    (∃ m p', 6 ≤ q.length ∧ c.encode m <+: q ∧ tryParseWith c.decode p = (p', some m) ∧
      p'.mBufferCapacity = p.mBufferCapacity ∧ Repr p' (q.drop (c.encode m).length)) ∨
    ((q.length < 6 ∨ ∀ m, ¬c.encode m <+: q) ∧ tryParseWith c.decode p = (p, none)) := by
  rw [tryParseWith, h.bufferLength]
  by_cases hlength : q.length < 6
  · exact .inr ⟨.inl hlength, if_pos hlength⟩
  · have hcopy := copyToBuffer_all h
    rw [h.bufferLength] at hcopy
    rw [if_neg hlength, hcopy]
    cases hdecode : c.decode q with
    | ok m n =>
      obtain ⟨rfl, hbegins⟩ := c.decode_eq_ok_iff.1 hdecode
      have hsize : (UInt32.ofNat (c.encode m).length).toNat = (c.encode m).length := by
        have hle := hbegins.length_le
        have hlt := h.length_lt
        have hcap := h.capacity_le
        rw [UInt32.toNat_ofNat', Nat.mod_eq_of_lt (by omega)]
      refine .inl ⟨m, _, by omega, hbegins, rfl, rfl, ?_⟩
      have hskip := h.skip (UInt32.ofNat (c.encode m).length)
      rwa [hsize] at hskip
    | wmore n =>
      refine .inr ⟨.inr fun m hbegins => ?_, rfl⟩
      rw [c.decode_eq_ok_iff.2 ⟨rfl, hbegins⟩] at hdecode
      cases hdecode
    | fail n =>
      refine .inr ⟨.inr fun m hbegins => ?_, ?_⟩
      · rw [c.decode_eq_ok_iff.2 ⟨rfl, hbegins⟩] at hdecode
        cases hdecode
      · rw [c.fail_consumed hdecode]
        exact congrArg (·, none) (skip_zero h)

/-- A decode failure leaves the parser as it is. -/
theorem tryParseWith_fail (h : Repr p q) {n : ℕ}
    (hfail : c.decode q = .fail n) : tryParseWith c.decode p = (p, none) := by
  rcases tryParseWith_spec c h with ⟨m, _, -, hbegins, -⟩ | ⟨-, hnone⟩
  · rw [c.decode_eq_ok_iff.2 ⟨rfl, hbegins⟩] at hfail
    cases hfail
  · exact hnone

end Calls

/-! ### The loop -/

section Loop

variable {μ : Type*} (c : Codec μ)

/-- The loop ends, and takes from the buffer what it hands on. -/
theorem drain_total {fuel : ℕ} {p : Parser} {q : List UInt8} (h : Repr p q)
    (hfuel : q.length < fuel) :
    ∃ p' ms q', drain c.decode fuel p = some (p', ms) ∧ Repr p' q' ∧
      p'.mBufferCapacity = p.mBufferCapacity ∧ size c.encode ms + q'.length = q.length := by
  induction fuel generalizing p q with
  | zero => omega
  | succ fuel ih =>
    rw [drain]
    rcases tryParseWith_spec c h with ⟨m, p₁, -, hbegins, hcall, hcap, hrepr⟩ | ⟨-, hcall⟩
    · have hpos := List.length_pos_iff.2 (c.encode_ne_nil m)
      have hle := hbegins.length_le
      obtain ⟨p', ms, q', hdrain, hrepr', hcap', hsize⟩ :=
        ih hrepr (by rw [List.length_drop]; omega)
      refine ⟨p', m :: ms, q', ?_, hrepr', hcap'.trans hcap, ?_⟩
      · rw [hcall]
        simp only [hdrain, Option.map_some]
      · rw [List.length_drop] at hsize
        rw [size_cons]
        omega
    · rw [hcall]
      exact ⟨p, [], q, rfl, h, rfl, by rw [size_nil, Nat.zero_add]⟩

/-- A beginning of the rest of a stream of messages starts with the next one, or is one of it. -/
theorem prefix_cons {m : μ} {msgs : List μ} {q : List UInt8}
    (hq : q <+: (m :: msgs).flatMap c.encode) :
    (c.encode m <+: q ∧ q.drop (c.encode m).length <+: msgs.flatMap c.encode) ∨
      (q.length < (c.encode m).length ∧ ∀ m', ¬c.encode m' <+: q) := by
  rw [List.flatMap_cons] at hq
  rcases Nat.lt_or_ge q.length (c.encode m).length with hlt | hge
  · have hbegins : q <+: c.encode m :=
      List.prefix_of_prefix_length_le hq (List.prefix_append _ _) hlt.le
    refine .inr ⟨hlt, fun m' hm' => ?_⟩
    obtain ⟨n, hmore⟩ := c.decode_begins hbegins (fun heq => by rw [heq] at hlt; omega)
    rw [c.decode_eq_ok_iff.2 ⟨rfl, hm'⟩] at hmore
    cases hmore
  · have hbegins : c.encode m <+: q :=
      List.prefix_of_prefix_length_le (List.prefix_append _ _) hq hge
    refine .inl ⟨hbegins, ?_⟩
    obtain ⟨rest, rfl⟩ := hbegins
    rw [List.drop_left]
    exact (List.prefix_append_right_inj _).1 hq

/-- Messages at the front of a beginning of a stream are those of the stream. -/
theorem eq_of_begins {m m' : μ} {q : List UInt8} (h : c.encode m <+: q) (h' : c.encode m' <+: q) :
    m = m' := by
  have hok := (c.decode_eq_ok_iff.2 ⟨rfl, h⟩).symm.trans (c.decode_eq_ok_iff.2 ⟨rfl, h'⟩)
  exact (Rval.ok.inj hok).1

/-- **The loop takes** the messages that begin six bytes before the end and are complete. -/
theorem drain_spec {fuel : ℕ} {p : Parser} {q : List UInt8} {msgs : List μ} (h : Repr p q)
    (hfuel : q.length < fuel) (hq : q <+: msgs.flatMap c.encode) :
    ∃ p', drain c.decode fuel p = some (p', started c.encode 6 msgs q.length) ∧
      p'.mBufferCapacity = p.mBufferCapacity ∧
      Repr p' (q.drop (size c.encode (started c.encode 6 msgs q.length))) := by
  induction fuel generalizing p q msgs with
  | zero => omega
  | succ fuel ih =>
    rw [drain]
    cases msgs with
    | nil =>
      obtain rfl := List.prefix_nil.1 hq
      rcases tryParseWith_spec c h with ⟨m, _, hlong, -⟩ | ⟨-, hcall⟩
      · exact absurd hlong (by simp)
      · rw [hcall]
        exact ⟨p, rfl, rfl, h⟩
    | cons m msgs =>
      rcases tryParseWith_spec c h with ⟨m', p₁, hlong, hbegins, hcall, hcap, hrepr⟩ |
        ⟨hnone, hcall⟩
      · rcases prefix_cons c hq with ⟨hm, hrest⟩ | ⟨-, hno⟩
        · obtain rfl := eq_of_begins c hm hbegins
          have hpos := List.length_pos_iff.2 (c.encode_ne_nil m)
          have hle := hm.length_le
          obtain ⟨p', hdrain, hcap', hrepr'⟩ := ih hrepr (by rw [List.length_drop]; omega) hrest
          rw [List.length_drop] at hdrain hrepr'
          rw [started, if_pos ⟨hlong, hle⟩]
          refine ⟨p', ?_, hcap'.trans hcap, ?_⟩
          · rw [hcall]
            simp only [hdrain, Option.map_some]
          · rwa [size_cons, ← List.drop_drop]
        · exact absurd hbegins (hno m')
      · have hstop : ¬(6 ≤ q.length ∧ (c.encode m).length ≤ q.length) := by
          rintro ⟨hlong, hle⟩
          rcases prefix_cons c hq with ⟨hm, -⟩ | ⟨hlt, -⟩
          · rcases hnone with hshort | hno
            · omega
            · exact hno m hm
          · omega
        rw [started, if_neg hstop, hcall]
        exact ⟨p, rfl, rfl, h⟩

end Loop

/-! ### The buffer between the pieces -/

section Pieces

variable {p : Parser} {q : List UInt8}

/-- Only the bytes that a 32-bit length counts are looked at. -/
theorem append_take (p : Parser) (piece : List UInt8) :
    p.append piece = p.append (piece.take (u32 piece.length)) := by
  have hle : u32 piece.length ≤ piece.length := Nat.mod_le _ _
  have hagain : u32 (u32 piece.length) = u32 piece.length := Nat.mod_mod _ _
  rw [Parser.append, Parser.append, List.length_take, Nat.min_eq_left hle, hagain]
  simp only [List.take_take, Nat.min_self]

/-- What the buffer holds behind a piece: no more than came, and less when it does not fit. -/
theorem append_total (h : Repr p q) (piece : List UInt8) :
    ∃ q', Repr (p.append piece).1 q' ∧ (p.append piece).1.mBufferCapacity = p.mBufferCapacity ∧
      q'.length ≤ q.length + piece.length := by
  have hlt : (piece.take (u32 piece.length)).length < 2 ^ 32 := by
    rw [List.length_take]
    exact lt_of_le_of_lt (Nat.min_le_left _ _) (Nat.mod_lt _ (by norm_num))
  have hle : (piece.take (u32 piece.length)).length ≤ piece.length := by
    rw [List.length_take]
    exact Nat.min_le_right _ _
  rw [append_take]
  generalize piece.take (u32 piece.length) = short at hlt hle
  obtain ⟨-, hsame, hrepr⟩ := h.append hlt
  refine ⟨_, hrepr, hsame, ?_⟩
  rw [Queue.append]
  split
  · exact Nat.le_add_right _ _
  · rw [Ring.length_keepNewest, List.length_append]
    omega

end Pieces

/-! ### The run -/

section Run

variable {μ : Type*} (c : Codec μ)

/-- One piece and the loop behind it: what stays in the buffer, and how the run goes on. -/
theorem run_cons (piece : List UInt8) {p : Parser} {q : List UInt8} (h : Repr p q)
    (hcap : p.mBufferCapacity = parserBufferSize) :
    ∃ p' ms q', Repr p' q' ∧ p'.mBufferCapacity = parserBufferSize ∧
      (∀ pieces, run c.decode parserBufferSize p (piece :: pieces) =
        (run c.decode parserBufferSize p' pieces).map (ms :: ·)) ∧
      size c.encode ms + q'.length ≤ q.length + piece.length ∧
      size c.encode ms + q'.length < parserBufferSize := by
  obtain ⟨q₁, hrepr₁, hcap₁, hle₁⟩ := append_total h piece
  have hlt := hrepr₁.length_lt
  rw [hcap₁, hcap] at hlt
  obtain ⟨p₂, ms, q₂, hdrain, hrepr₂, hcap₂, hsize⟩ := drain_total c hrepr₁ hlt
  refine ⟨p₂, ms, q₂, hrepr₂, hcap₂.trans (hcap₁.trans hcap), fun pieces => ?_, by omega, by omega⟩
  simp only [run, processInput, hdrain, Option.bind_eq_bind, Option.bind_some]
  cases run c.decode parserBufferSize p₂ pieces <;> rfl

/-- The run ends, and hands on no more bytes than there are. -/
theorem run_total (pieces : List (List UInt8)) {p : Parser} {q : List UInt8} (h : Repr p q)
    (hcap : p.mBufferCapacity = parserBufferSize) :
    ∃ out, run c.decode parserBufferSize p pieces = some out ∧
      size c.encode out.flatten ≤ q.length + pieces.flatten.length := by
  induction pieces generalizing p q with
  | nil => exact ⟨[], rfl, Nat.zero_le _⟩
  | cons piece pieces ih =>
    obtain ⟨p', ms, q', hrepr, hcap', hrun, hsize, -⟩ := run_cons c piece h hcap
    obtain ⟨out, hrest, hout⟩ := ih hrepr hcap'
    refine ⟨ms :: out, by rw [hrun, hrest, Option.map_some], ?_⟩
    rw [List.flatten_cons, size_append, List.flatten_cons, List.length_append]
    omega

/-- The run of the pieces hands on, behind every piece, the messages that are complete. -/
def DeliversFrom (p : Parser) (waited : ℕ) (msgs : List μ) (pieces : List (List UInt8)) : Prop :=
  ∃ out, run c.decode parserBufferSize p pieces = some out ∧
    ∀ front back, pieces = front ++ back → (out.take front.length).flatten =
      complete c.encode msgs (waited + front.flatten.length)

/-- Every piece fits behind the bytes that wait, and completes only messages that begin at least
six bytes before its end. -/
def FitsFrom (waited : ℕ) (msgs : List μ) (pieces : List (List UInt8)) : Prop :=
  ∀ front piece back, pieces = front ++ piece :: back →
    waiting c.encode msgs (waited + front.flatten.length) + piece.length < parserBufferSize ∧
      Timely c.encode 6 msgs (waited + front.flatten.length) piece.length

variable {c}

theorem size_flatten_take_le (out : List (List μ)) (k : ℕ) :
    size c.encode (out.take k).flatten ≤ size c.encode out.flatten := by
  conv_rhs => rw [← List.take_append_drop k out]
  rw [List.flatten_append, size_append]
  exact Nat.le_add_right _ _

/-- Where a piece does not fit, some message is never handed on. -/
theorem not_deliversFrom_of_full {p : Parser} {q piece : List UInt8} {pieces : List (List UInt8)}
    {msgs : List μ} (h : Repr p q) (hcap : p.mBufferCapacity = parserBufferSize)
    (hstream : msgs.flatMap c.encode = q ++ (piece :: pieces).flatten)
    (hfull : parserBufferSize ≤ q.length + piece.length) :
    ¬DeliversFrom c p q.length msgs (piece :: pieces) := by
  rintro ⟨out, hout, hall⟩
  obtain ⟨p', ms, q', hrepr, hcap', hrun, -, hless⟩ := run_cons c piece h hcap
  obtain ⟨rest, hrest, hsize⟩ := run_total c pieces hrepr hcap'
  rw [hrun, hrest, Option.map_some, Option.some.injEq] at hout
  subst hout
  have hmsgs : size c.encode msgs = q.length + (piece :: pieces).flatten.length := by
    rw [size, hstream, List.length_append]
  have heverything := hall (piece :: pieces) [] (List.append_nil _).symm
  rw [complete_of_size_le hmsgs.le] at heverything
  have htaken := size_flatten_take_le (c := c) (ms :: rest) (piece :: pieces).length
  rw [heverything, hmsgs] at htaken
  simp only [List.flatten_cons, size_append, List.length_append] at htaken
  omega

theorem forall_cons_eq_append {α : Type*} {x : α} {xs : List α} {P : List α → List α → Prop} :
    (∀ front back, x :: xs = front ++ back → P front back) ↔
      P [] (x :: xs) ∧ ∀ front back, xs = front ++ back → P (x :: front) back := by
  constructor
  · exact fun h => ⟨h [] _ rfl, fun front back heq => h _ _ (by rw [heq, List.cons_append])⟩
  · rintro ⟨hnil, hcons⟩ front back heq
    cases front with
    | nil =>
      obtain rfl := heq
      exact hnil
    | cons y front =>
      obtain ⟨rfl, rfl⟩ := List.cons.inj heq
      exact hcons front back rfl

/-- What the run of the pieces hands on, from what the first piece does. -/
theorem deliversFrom_cons_iff {p p' : Parser} {waited : ℕ} {msgs ms : List μ} {piece : List UInt8}
    {pieces : List (List UInt8)}
    (hrun : ∀ pieces, run c.decode parserBufferSize p (piece :: pieces) =
      (run c.decode parserBufferSize p' pieces).map (ms :: ·))
    (hwait : complete c.encode msgs waited = [])
    (hms : ms = complete c.encode msgs (waited + piece.length)) :
    DeliversFrom c p waited msgs (piece :: pieces) ↔
      DeliversFrom c p' (waiting c.encode msgs (waited + piece.length)) (msgs.drop ms.length)
        pieces := by
  have hlater : ∀ front : List (List UInt8),
      complete c.encode msgs (waited + (piece :: front).flatten.length) =
        ms ++ complete c.encode (msgs.drop ms.length)
          (waiting c.encode msgs (waited + piece.length) + front.flatten.length) := by
    intro front
    rw [List.flatten_cons, List.length_append, ← Nat.add_assoc, complete_add, ← hms, waiting, ← hms]
  simp only [DeliversFrom, hrun, Option.map_eq_some_iff, forall_cons_eq_append]
  constructor
  · rintro ⟨_, ⟨out, hout, rfl⟩, -, hall⟩
    refine ⟨out, hout, fun front back heq => ?_⟩
    have hfront := hall front back heq
    rw [hlater, List.length_cons, List.take_succ_cons, List.flatten_cons] at hfront
    exact List.append_cancel_left hfront
  · rintro ⟨out, hout, hall⟩
    refine ⟨ms :: out, ⟨out, hout, rfl⟩, ?_, fun front back heq => ?_⟩
    · exact hwait.symm
    · rw [hlater, List.length_cons, List.take_succ_cons, List.flatten_cons, hall front back heq]

theorem fitsFrom_cons_iff {waited : ℕ} {msgs : List μ} {piece : List UInt8}
    {pieces : List (List UInt8)} (hwait : complete c.encode msgs waited = []) :
    FitsFrom c waited msgs (piece :: pieces) ↔
      (waited + piece.length < parserBufferSize ∧
        Timely c.encode 6 msgs waited piece.length) ∧
      FitsFrom c (waiting c.encode msgs (waited + piece.length))
        (msgs.drop (complete c.encode msgs (waited + piece.length)).length) pieces := by
  have hnow : waiting c.encode msgs waited = waited := by
    rw [waiting, hwait, size_nil, Nat.sub_zero]
  have hle : size c.encode (complete c.encode msgs (waited + piece.length)) ≤
      waited + piece.length := size_complete_le _ _
  constructor
  · intro h
    refine ⟨?_, fun front piece' back heq => ?_⟩
    · have hfirst := h [] piece pieces rfl
      rwa [List.flatten_nil, List.length_nil, Nat.add_zero, hnow] at hfirst
    · have hlater := h (piece :: front) piece' back (by rw [heq, List.cons_append])
      rw [List.flatten_cons, List.length_append, ← Nat.add_assoc, waiting_add] at hlater
      refine ⟨hlater.1, (timely_drop _ _ _ _ _).2 ?_⟩
      rw [waiting, ← Nat.add_assoc, Nat.add_sub_cancel' hle]
      exact hlater.2
  · rintro ⟨hfirst, hrest⟩ front piece' back heq
    cases front with
    | nil =>
      obtain ⟨rfl, rfl⟩ := List.cons.inj heq
      rwa [List.flatten_nil, List.length_nil, Nat.add_zero, hnow]
    | cons piece'' front =>
      obtain ⟨rfl, rfl⟩ := List.cons.inj heq
      obtain ⟨hfits, htimely⟩ := hrest front piece' back rfl
      rw [List.flatten_cons, List.length_append, ← Nat.add_assoc, waiting_add]
      refine ⟨hfits, ?_⟩
      have hdrop := (timely_drop _ _ _ _ _).1 htimely
      rwa [waiting, ← Nat.add_assoc, Nat.add_sub_cancel' hle] at hdrop

/-- A piece that fits: the loop takes what it may, and the run goes on behind it. -/
theorem run_cons_fits {p : Parser} {q piece : List UInt8} {pieces : List (List UInt8)}
    {msgs : List μ} (h : Repr p q) (hcap : p.mBufferCapacity = parserBufferSize)
    (hstream : msgs.flatMap c.encode = q ++ (piece :: pieces).flatten)
    (hfit : q.length + piece.length < parserBufferSize) :
    ∃ p', p'.mBufferCapacity = parserBufferSize ∧
      Repr p' ((q ++ piece).drop
        (size c.encode (started c.encode 6 msgs (q.length + piece.length)))) ∧
      ∀ pieces, run c.decode parserBufferSize p (piece :: pieces) =
        (run c.decode parserBufferSize p' pieces).map
          (started c.encode 6 msgs (q.length + piece.length) :: ·) := by
  obtain ⟨hcap₁, hrepr₁⟩ := h.append_fits (hfit.trans_eq hcap.symm)
  have hq : q ++ piece <+: msgs.flatMap c.encode := by
    rw [hstream, List.flatten_cons, ← List.append_assoc]
    exact List.prefix_append _ _
  have hroom : (q ++ piece).length < parserBufferSize := by rwa [List.length_append]
  obtain ⟨p', hdrain, hcap', hrepr'⟩ := drain_spec c hrepr₁ hroom hq
  rw [List.length_append] at hdrain hrepr'
  refine ⟨p', hcap'.trans (hcap₁.trans hcap), hrepr', fun pieces => ?_⟩
  simp only [run, processInput, hdrain, Option.bind_eq_bind, Option.bind_some]
  cases run c.decode parserBufferSize p' pieces <;> rfl

/-- The stream behind its complete messages. -/
theorem flatMap_drop_complete {msgs : List μ} {begun rest : List UInt8}
    (hstream : msgs.flatMap c.encode = begun ++ rest) :
    (msgs.drop (complete c.encode msgs begun.length).length).flatMap c.encode =
      begun.drop (size c.encode (complete c.encode msgs begun.length)) ++ rest := by
  have hle : size c.encode (complete c.encode msgs begun.length) ≤ begun.length :=
    size_complete_le _ _
  have hsplit := congrArg (List.flatMap c.encode)
    (complete_append_drop msgs begun.length : complete c.encode msgs begun.length ++ _ = msgs)
  rw [List.flatMap_append, hstream] at hsplit
  rw [← List.drop_append_of_le_length hle, ← hsplit]
  exact List.drop_left.symm

/-- **When the messages of a stream are handed on**, for a buffer that holds its beginning. -/
theorem deliversFrom_iff (pieces : List (List UInt8)) {p : Parser} {q : List UInt8}
    {msgs : List μ} (h : Repr p q) (hcap : p.mBufferCapacity = parserBufferSize)
    (hstream : msgs.flatMap c.encode = q ++ pieces.flatten)
    (hwait : complete c.encode msgs q.length = []) :
    DeliversFrom c p q.length msgs pieces ↔ FitsFrom c q.length msgs pieces := by
  induction pieces generalizing p q msgs with
  | nil =>
    refine iff_of_true ⟨[], rfl, fun front back heq => ?_⟩ fun front piece back heq => ?_
    · obtain ⟨rfl, -⟩ := List.append_eq_nil_iff.1 heq.symm
      exact hwait.symm
    · exact absurd heq (by simp)
  | cons piece pieces ih =>
    rw [fitsFrom_cons_iff hwait]
    rcases Nat.lt_or_ge (q.length + piece.length) parserBufferSize with hfit | hfull
    · obtain ⟨p', hcap', hrepr, hrun⟩ := run_cons_fits h hcap hstream hfit
      by_cases htimely : Timely c.encode 6 msgs q.length piece.length
      · have hms := (started_eq_complete_iff hwait).2 htimely
        rw [deliversFrom_cons_iff hrun hwait hms, and_iff_right ⟨hfit, htimely⟩]
        rw [hms] at hrepr ⊢
        rw [List.flatten_cons, ← List.append_assoc] at hstream
        have hrest := flatMap_drop_complete hstream
        have hlength : waiting c.encode msgs (q.length + piece.length) = ((q ++ piece).drop
            (size c.encode (complete c.encode msgs (q.length + piece.length)))).length := by
          rw [List.length_drop, List.length_append, waiting]
        rw [List.length_append] at hrest
        rw [hlength]
        refine ih hrepr hcap' hrest ?_
        rw [← hlength]
        exact complete_rest _ _
      · refine iff_of_false ?_ fun hfits => htimely hfits.1.2
        rintro ⟨out, hout, hall⟩
        rw [hrun, Option.map_eq_some_iff] at hout
        obtain ⟨rest, -, rfl⟩ := hout
        have hfirst := hall [piece] pieces rfl
        refine htimely ((started_eq_complete_iff hwait).1 ?_)
        simpa using hfirst
    · exact iff_of_false (not_deliversFrom_of_full h hcap hstream hfull)
        fun hfits => absurd hfits.1.1 (Nat.not_lt.2 hfull)

end Run

/-! ### The stream -/

variable {μ : Type*}

/-- Behind every call of `process_input`, exactly the messages have been handed on whose last byte
has come. -/
def Delivers (c : Codec μ) (memory : ℕ → UInt8) (msgs : List μ) (pieces : List (List UInt8)) :
    Prop :=
  ∃ out, run c.decode parserBufferSize (Parser.new memory parserBufferSize) pieces = some out ∧
    ∀ front back, pieces = front ++ back →
      (out.take front.length).flatten = complete c.encode msgs front.flatten.length

/-- Every piece fits into the ring buffer behind the bytes that wait in it, and every message that
it completes begins at least six bytes before its end. -/
def Fits (c : Codec μ) (msgs : List μ) (pieces : List (List UInt8)) : Prop :=
  ∀ front piece back, pieces = front ++ piece :: back →
    waiting c.encode msgs front.flatten.length + piece.length < parserBufferSize ∧
      Timely c.encode 6 msgs front.flatten.length piece.length

/-- A call ends in a decode failure: there are bytes enough, and the decoder fails on them. -/
def DecodeFails (c : Codec μ) (q : List UInt8) : Prop := 6 ≤ q.length ∧ ∃ n, c.decode q = .fail n

theorem delivers_iff_fits (c : Codec μ) (memory : ℕ → UInt8) {msgs : List μ}
    {pieces : List (List UInt8)} (hstream : pieces.flatten = msgs.flatMap c.encode) :
    Delivers c memory msgs pieces ↔ Fits c msgs pieces := by
  have hnew : Repr (Parser.new memory parserBufferSize) [] :=
    repr_new memory (by norm_num [parserBufferSize]) (by norm_num [parserBufferSize])
  have hwait : complete c.encode msgs ([] : List UInt8).length = [] := by
    cases msgs with
    | nil => rfl
    | cons m msgs =>
      have hpos := List.length_pos_iff.2 (c.encode_ne_nil m)
      exact if_neg (Nat.not_le.2 hpos)
  have hiff := deliversFrom_iff pieces hnew rfl hstream.symm hwait
  simp only [DeliversFrom, FitsFrom, List.length_nil, Nat.zero_add] at hiff
  exact hiff

/-- **The stream of LPP messages** is handed on as it comes if and only if every piece fits and
completes no message that begins in its last five bytes; and a decode failure removes nothing. -/
theorem uper_iff (c : Codec μ) (memory : ℕ → UInt8) :
    (∀ msgs pieces, pieces.flatten = msgs.flatMap c.encode →
      (Delivers c memory msgs pieces ↔ Fits c msgs pieces)) ∧
    ∀ p q, Repr p q → DecodeFails c q →
      tryParse c.decode p = (p, none) ∧ tryParseProvideAssistanceData c.decode p = (p, none) := by
  refine ⟨fun msgs pieces hstream => delivers_iff_fits c memory hstream, ?_⟩
  rintro p q h ⟨-, n, hfail⟩
  exact ⟨tryParseWith_fail c h hfail, tryParseWith_fail c h hfail⟩

/-! ### Acknowledgements -/

/-- The LPP messages that only acknowledge a sequence number: seven bits that say which fields
there are, the number, and a bit of padding. -/
def acknowledgement (number : Fin 256) : List UInt8 :=
  [UInt8.ofNat (0x24 + number / 128), UInt8.ofNat (2 * (number % 128))]

/-- The decoder on these messages. -/
def decodeAcknowledgement : List UInt8 → Rval (Fin 256)
  | [] => .wmore 0
  | [x] => if x.toNat / 2 = 0x12 then .wmore 0 else .fail 0
  | x :: y :: _ =>
    if x.toNat / 2 = 0x12 ∧ y.toNat % 2 = 0 then
      .ok (Fin.ofNat 256 (128 * (x.toNat % 2) + y.toNat / 2)) 2
    else .fail 0

/-- The bytes of an acknowledgement are those that the decoder takes for it. -/
theorem decodeAcknowledgement_bytes : ∀ m : Fin 256, ∃ x y, acknowledgement m = [x, y] ∧
    x.toNat / 2 = 0x12 ∧ y.toNat % 2 = 0 ∧
      Fin.ofNat 256 (128 * (x.toNat % 2) + y.toNat / 2) = m := by
  intro m
  refine ⟨_, _, rfl, ?_⟩
  revert m
  decide +kernel

theorem acknowledgement_of_bytes {x y : UInt8} (hx : x.toNat / 2 = 0x12) (hy : y.toNat % 2 = 0) :
    acknowledgement (Fin.ofNat 256 (128 * (x.toNat % 2) + y.toNat / 2)) = [x, y] := by
  have hylt := y.toNat_lt
  have hnumber : (Fin.ofNat 256 (128 * (x.toNat % 2) + y.toNat / 2)).val =
      128 * (x.toNat % 2) + y.toNat / 2 := Nat.mod_eq_of_lt (by omega)
  have hfirst : 0x24 + (128 * (x.toNat % 2) + y.toNat / 2) / 128 = x.toNat := by omega
  have hsecond : 2 * ((128 * (x.toNat % 2) + y.toNat / 2) % 128) = y.toNat := by omega
  rw [acknowledgement, hnumber, hfirst, hsecond, UInt8.ofNat_toNat, UInt8.ofNat_toNat]

def ackCodec : Codec (Fin 256) where
  encode := acknowledgement
  decode := decodeAcknowledgement
  encode_ne_nil m := List.cons_ne_nil _ _
  decode_eq_ok_iff := by
    intro b m n
    constructor
    · intro h
      rcases b with _ | ⟨x, _ | ⟨y, b⟩⟩
      · cases h
      · rw [decodeAcknowledgement] at h
        split at h <;> cases h
      · rw [decodeAcknowledgement] at h
        split at h
        case isTrue hbytes =>
          obtain ⟨rfl, rfl⟩ := Rval.ok.inj h
          rw [acknowledgement_of_bytes hbytes.1 hbytes.2]
          exact ⟨rfl, b, rfl⟩
        case isFalse => cases h
    · rintro ⟨rfl, rest, rfl⟩
      obtain ⟨x, y, hbytes, hx, hy, hm⟩ := decodeAcknowledgement_bytes m
      rw [hbytes]
      exact (if_pos ⟨hx, hy⟩).trans (by rw [hm]; rfl)
  decode_begins := by
    intro b m hbegins hne
    obtain ⟨x, y, hbytes, hx, -, -⟩ := decodeAcknowledgement_bytes m
    rw [hbytes] at hbegins hne
    obtain ⟨rest, heq⟩ := hbegins
    rcases b with _ | ⟨x', _ | ⟨y', b⟩⟩
    · exact ⟨0, rfl⟩
    · obtain ⟨rfl, -⟩ := List.cons.inj heq
      exact ⟨0, if_pos hx⟩
    · obtain ⟨hx', heq⟩ := List.cons.inj heq
      obtain ⟨hy', heq⟩ := List.cons.inj heq
      obtain ⟨hb, -⟩ := List.append_eq_nil_iff.1 heq
      exact absurd (by rw [hx', hy', hb]) hne
  fail_consumed := by
    intro b n h
    rcases b with _ | ⟨x, _ | ⟨y, b⟩⟩
    · cases h
    · rw [decodeAcknowledgement] at h
      split at h <;> cases h
      rfl
    · rw [decodeAcknowledgement] at h
      split at h <;> cases h
      rfl

/-- One acknowledgement, of two bytes, stays in the buffer. -/
theorem not_delivers_acknowledgement :
    ¬∀ msgs pieces, pieces.flatten = msgs.flatMap ackCodec.encode →
      Delivers ackCodec (fun _ => 0) msgs pieces := by
  intro hall
  have hdelivers := hall [5] [[0x24, 0x0A]] rfl
  obtain ⟨-, htimely⟩ := (delivers_iff_fits ackCodec _ rfl).1 hdelivers [] [0x24, 0x0A] [] rfl
  have hsix := htimely [] 5 [] rfl (by decide) (by decide)
  exact absurd hsix (by decide)

/-- The decoder on messages of six bytes, the first of which is always the same. -/
def decodeBlock : List UInt8 → Rval (UInt8 × UInt8 × UInt8 × UInt8 × UInt8)
  | [] => .wmore 0
  | x :: v :: w :: y :: z :: t :: _ => if x = 0x24 then .ok (v, w, y, z, t) 6 else .fail 0
  | x :: _ => if x = 0x24 then .wmore 0 else .fail 0

def blockCodec : Codec (UInt8 × UInt8 × UInt8 × UInt8 × UInt8) where
  encode := fun (v, w, y, z, t) => [0x24, v, w, y, z, t]
  decode := decodeBlock
  encode_ne_nil m := List.cons_ne_nil _ _
  decode_eq_ok_iff := by
    rintro b ⟨v, w, y, z, t⟩ n
    constructor
    · intro h
      unfold decodeBlock at h
      split at h
      · cases h
      · split_ifs at h with hx
        obtain ⟨hm, rfl⟩ := Rval.ok.inj h
        cases hm
        subst hx
        exact ⟨rfl, _, rfl⟩
      · split_ifs at h
    · rintro ⟨rfl, rest, rfl⟩
      rfl
  decode_begins := by
    rintro b ⟨v, w, y, z, t⟩ ⟨rest, heq⟩ hne
    rcases b with _ | ⟨x, _ | ⟨v', _ | ⟨w', _ | ⟨y', _ | ⟨z', _ | ⟨t', b⟩⟩⟩⟩⟩⟩
    · exact ⟨0, rfl⟩
    · cases heq
      exact ⟨0, rfl⟩
    · cases heq
      exact ⟨0, rfl⟩
    · cases heq
      exact ⟨0, rfl⟩
    · cases heq
      exact ⟨0, rfl⟩
    · cases heq
      exact ⟨0, rfl⟩
    · simp only [List.cons_append, List.cons.injEq, List.append_eq_nil_iff] at heq
      obtain ⟨rfl, rfl, rfl, rfl, rfl, rfl, rfl, rfl⟩ := heq
      exact absurd rfl hne
  fail_consumed := by
    intro b n h
    unfold decodeBlock at h
    split at h
    · cases h
    · split_ifs at h
      cases h
      rfl
    · split_ifs at h
      cases h
      rfl

theorem fits_block : Fits blockCodec [(1, 2, 3, 4, 5)] [[0x24, 1, 2, 3, 4, 5]] := by
  intro front piece back hsplit
  obtain ⟨rfl, rfl, rfl⟩ : front = [] ∧ piece = [0x24, 1, 2, 3, 4, 5] ∧ back = [] := by
    rcases front with _ | ⟨first, front⟩
    · obtain ⟨rfl, rfl⟩ := List.cons.inj hsplit
      exact ⟨rfl, rfl, rfl⟩
    · simp at hsplit
  refine ⟨by decide, fun front m back hmsgs _ _ => ?_⟩
  rcases front with _ | ⟨first, front⟩
  · exact le_refl 6
  · simp at hmsgs

/-- A message that fits is handed on, and bytes on which the decoder fails stay. -/
theorem uper_iff_block :
    Delivers blockCodec (fun _ => 0) [(1, 2, 3, 4, 5)] [[0x24, 1, 2, 3, 4, 5]] ∧
      tryParse blockCodec.decode
          ((Parser.new (fun _ => 0) 64).append [0, 0, 0, 0, 0, 0]).1 =
        (((Parser.new (fun _ => 0) 64).append [0, 0, 0, 0, 0, 0]).1, none) := by
  obtain ⟨hdelivers, hfails⟩ := uper_iff blockCodec (fun _ => 0)
  have hnew : Repr (Parser.new (fun _ => 0) 64) [] := repr_new _ (by decide) (by decide)
  have hshort : ([0, 0, 0, 0, 0, 0] : List UInt8).length < 2 ^ 32 := by decide
  obtain ⟨-, -, happend⟩ := hnew.append hshort
  have hfail : DecodeFails blockCodec
      (Queue.append (Parser.new (fun _ => 0) 64).mBufferCapacity [] [0, 0, 0, 0, 0, 0]).1 :=
    ⟨by decide, 0, rfl⟩
  exact ⟨(hdelivers [(1, 2, 3, 4, 5)] [[0x24, 1, 2, 3, 4, 5]] rfl).2 fits_block,
    (hfails _ _ happend hfail).1⟩

end SuplLpp.Uper
