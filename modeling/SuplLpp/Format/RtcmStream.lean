import Mathlib.Data.List.DropRight
import SuplLpp.Lib.Scanner
import SuplLpp.Rtcm.Frame

/-!
# RTCM streams that arrive in pieces

Bytes are appended to the parser in pieces, and it is asked for messages at any time.  As long as
the buffer has room for each piece, what comes out depends on the bytes alone.

* `step` and `Room`; `stream`, the messages of the bytes as a whole;
* `steady_step`: bytes that come later do not change what a call does;
* `delivered_run`: the messages of a run with those that its buffer would still give are the
  messages of all bytes; `delivered_stream`;
* `stream_frames`: the messages of frames with noise between them; `delivered_frames`: no run
  loses, repeats or makes up one of them.
-/

namespace SuplLpp.Format.Rtcm

open Helper Scanner

/-! ### The parser and its bytes -/

/-- The parser, fed and asked. -/
def step (p : Parser) : Input UInt8 → Parser × List Message
  | .append data => ((p.append data).1, [])
  | .call => ((tryParse p).1, (tryParse p).2.toList)

/-- The buffer has room for a piece. -/
def Room (p : Parser) : Input UInt8 → Prop
  | .append data => p.bufferLength + data.length < p.mBufferCapacity
  | .call => True

instance decidableRoom (p : Parser) : (input : Input UInt8) → Decidable (Room p input)
  | .append _ => inferInstanceAs (Decidable (_ < _))
  | .call => .isTrue trivial

/-- A call on the bytes that wait. -/
def Queue.step (q : List UInt8) : List UInt8 × List Message :=
  ((Queue.tryParse q).1, (Queue.tryParse q).2.toList)

/-- The messages of some bytes. -/
def stream (bytes : List UInt8) : List Message := drain Queue.step bytes

theorem stream_nil : stream [] = [] := rfl

/-- A call once the preamble was looked for. -/
def Queue.attempt (q : List UInt8) : List UInt8 × List Message :=
  if q.length < 3 then (q, [])
  else if q.getD 1 0 &&& 0xFC ≠ 0 then (q.drop 1, [])
  else
    let payloadLength := ((q.getD 1 0 &&& 0x03).toNat <<< 8) ||| (q.getD 2 0).toNat
    let messageLength := 1 + 2 + payloadLength + 3
    if q.length < messageLength then (q, [])
    else
      let message := q.take messageLength
      if crc message ≠ .ok then (q.drop 1, [])
      else (q.drop messageLength, [dispatch (messageNumber message) message])

theorem Queue.step_eq (q : List UInt8) :
    Queue.step q = Queue.attempt (q.dropWhile (· != 0xD3)) := by
  unfold Queue.step Queue.tryParse Queue.attempt
  dsimp only
  split_ifs <;> rfl

/-- An attempt waits for more bytes, or more bytes would not change it. -/
theorem Queue.attempt_append (q r : List UInt8) :
    Queue.attempt q = (q, []) ∨
      Queue.attempt (q ++ r) = ((Queue.attempt q).1 ++ r, (Queue.attempt q).2) := by
  unfold Queue.attempt
  by_cases hshort : q.length < 3
  · exact Or.inl (if_pos hshort)
  rw [if_neg hshort, if_neg (show ¬ (q ++ r).length < 3 by rw [List.length_append]; omega),
    List.getD_append q r 0 1 (by omega), List.getD_append q r 0 2 (by omega)]
  by_cases hpad : q.getD 1 0 &&& 0xFC ≠ 0
  · refine Or.inr ?_
    rw [if_pos hpad, if_pos hpad, List.drop_append_of_le_length (by omega)]
  rw [if_neg hpad, if_neg hpad]
  generalize ((q.getD 1 0 &&& 0x03).toNat <<< 8) ||| (q.getD 2 0).toNat = payloadLength
  dsimp only
  by_cases hpart : q.length < 1 + 2 + payloadLength + 3
  · exact Or.inl (if_pos hpart)
  refine Or.inr ?_
  rw [if_neg hpart, if_neg (show ¬ (q ++ r).length < 1 + 2 + payloadLength + 3 by
      rw [List.length_append]; omega), List.take_append_of_le_length (by omega)]
  by_cases hcrc : crc (q.take (1 + 2 + payloadLength + 3)) ≠ .ok
  · rw [if_pos hcrc, if_pos hcrc, List.drop_append_of_le_length (by omega)]
  · rw [if_neg hcrc, if_neg hcrc, List.drop_append_of_le_length (by omega)]

theorem Queue.attempt_shorter (q : List UInt8) :
    (Queue.attempt q).1.length < q.length ∨ Queue.attempt q = (q, []) := by
  unfold Queue.attempt
  dsimp only
  split_ifs
  · exact Or.inr rfl
  · exact Or.inl (by rw [List.length_drop]; omega)
  · exact Or.inr rfl
  · exact Or.inl (by rw [List.length_drop]; omega)
  · exact Or.inl (by rw [List.length_drop]; omega)

/-- What a call does is not changed by bytes that come later. -/
theorem steady_step : Steady Queue.step where
  later q r := by
    have hlater : (q ++ r).dropWhile (· != 0xD3) = (q.dropWhile (· != 0xD3) ++ r).dropWhile
        (· != 0xD3) := by
      rw [List.dropWhile_append, List.dropWhile_append, List.dropWhile_idempotent]
    rw [Queue.step_eq q, Queue.step_eq (q ++ r)]
    by_cases hempty : (q.dropWhile (· != 0xD3)).isEmpty
    · -- Nothing but noise: it is gone, and the later bytes are looked at alone.
      rw [hlater, List.isEmpty_iff.1 hempty, ← Queue.step_eq]
      exact Or.inr ⟨rfl, rfl⟩
    obtain hwait | hsame := Queue.attempt_append (q.dropWhile (· != 0xD3)) r
    · rw [hwait, Queue.step_eq, hlater]
      exact Or.inr ⟨rfl, rfl⟩
    · rw [List.dropWhile_append, if_neg hempty]
      exact Or.inl hsame
  shorter q := by
    rw [Queue.step_eq]
    have hle : (q.dropWhile (· != 0xD3)).length ≤ q.length :=
      (List.dropWhile_sublist _).length_le
    obtain hlt | hwait := Queue.attempt_shorter (q.dropWhile (· != 0xD3))
    · exact Or.inl (hlt.trans_le hle)
    · rw [hwait]
      obtain heq | hlt := hle.eq_or_lt
      · exact Or.inr (by rw [(List.dropWhile_sublist _).eq_of_length heq])
      · exact Or.inl hlt

/-! ### Runs -/

/-- The parser does to its buffer what `feed` does to the bytes. -/
theorem step_repr {p : Parser} {q : List UInt8} (h : Repr p q) {input : Input UInt8}
    (hroom : Room p input) :
    Repr (step p input).1 (feed Queue.step q input).1 ∧
      (step p input).2 = (feed Queue.step q input).2 := by
  cases input with
  | append data =>
    have hfit : q.length + data.length < p.mBufferCapacity := by
      rw [← h.bufferLength]
      exact hroom
    exact ⟨(h.append_fits hfit).2, rfl⟩
  | call =>
    obtain ⟨hrepr, hmessage⟩ := tryParse_repr h
    exact ⟨hrepr, congrArg Option.toList hmessage⟩

/-- **The messages of a run.**  What a run has given, and what the bytes left in its buffer would
still give, are the messages of all bytes that were appended. -/
theorem delivered_run (memory : ℕ → UInt8) {capacity : ℕ} (hpos : 0 < capacity)
    (hle : capacity ≤ 2 ^ 31) {inputs : List (Input UInt8)}
    (hroom : Mealy.Along (fun p _ input => Room p input) step (Parser.new memory capacity) []
      inputs) :
    ∃ left, Repr (Mealy.run step (Parser.new memory capacity) inputs).1 left ∧
      (Mealy.run step (Parser.new memory capacity) inputs).2 ++ stream left =
        stream (appended inputs) := by
  obtain ⟨hrepr, hout⟩ := hroom.run_simulates (g := feed Queue.step) (R := Repr)
    (fun p q _ input h hinput => step_repr h hinput) (repr_new memory hpos hle)
  refine ⟨_, hrepr, ?_⟩
  rw [hout]
  simpa [stream] using steady_step.drain_run [] inputs []

/-- Asked as often as bytes are left, the parser gives all messages of the bytes. -/
theorem delivered_calls (memory : ℕ → UInt8) {capacity : ℕ} {inputs : List (Input UInt8)}
    {left : List UInt8} (hrepr : Repr (Mealy.run step (Parser.new memory capacity) inputs).1 left)
    {n : ℕ} (hn : (Mealy.run step (Parser.new memory capacity) inputs).1.bufferLength ≤ n) :
    (Mealy.run step (Parser.new memory capacity) (inputs ++ List.replicate n Input.call)).2 =
      (Mealy.run step (Parser.new memory capacity) inputs).2 ++ stream left := by
  have hcalls : Mealy.Along (fun p _ input => Room p input) step
      (Mealy.run step (Parser.new memory capacity) inputs).1 []
      (List.replicate n Input.call) := by
    refine Mealy.along_of_forall (fun p _ input hinput => ?_) _ _
    rw [List.eq_of_mem_replicate hinput]
    trivial
  obtain ⟨-, hout⟩ := hcalls.run_simulates (g := feed Queue.step) (R := Repr)
    (fun p q _ input h hinput => step_repr h hinput) hrepr
  rw [Mealy.run_append, hout, run_calls, steady_step.calls_snd (hrepr.bufferLength ▸ hn)]
  rfl

/-- **One stream, any schedule.**  However the bytes are cut into pieces and whenever the parser is
asked, it gives the first of the messages of the bytes, in order; asked as often as bytes are
left, it gives all of them. -/
theorem delivered_stream (memory : ℕ → UInt8) {capacity : ℕ} (hpos : 0 < capacity)
    (hle : capacity ≤ 2 ^ 31) {inputs : List (Input UInt8)}
    (hroom : Mealy.Along (fun p _ input => Room p input) step (Parser.new memory capacity) []
      inputs) :
    (Mealy.run step (Parser.new memory capacity) inputs).2 <+: stream (appended inputs) ∧
      ∀ n, (Mealy.run step (Parser.new memory capacity) inputs).1.bufferLength ≤ n →
        (Mealy.run step (Parser.new memory capacity)
          (inputs ++ List.replicate n Input.call)).2 = stream (appended inputs) := by
  obtain ⟨left, hrepr, hstream⟩ := delivered_run memory hpos hle hroom
  exact ⟨⟨stream left, hstream⟩, fun n hn => (delivered_calls memory hrepr hn).trans hstream⟩

/-- A frame of two bytes. -/
def shortFrame : List UInt8 := [0xD3, 0, 2, 0x3E, 0xD0, 0xA4, 0xE0, 0]

/-- The frame twice, after a byte of noise, in three pieces. -/
def shortPieces : List (Input UInt8) :=
  [.append [0x24, 0xD3, 0], .call, .append [2, 0x3E, 0xD0, 0xA4, 0xE0, 0, 0xD3, 0], .call,
    .append [2, 0x3E, 0xD0, 0xA4, 0xE0, 0]]

theorem room_shortPieces : Mealy.Along (fun p _ input => Room p input) step
    (Parser.new (fun _ => 0) 64) [] shortPieces := by
  decide +kernel

theorem delivered_stream_short :
    (Mealy.run step (Parser.new (fun _ => 0) 64) shortPieces).2 <+: stream (appended shortPieces) ∧
      ∀ n, (Mealy.run step (Parser.new (fun _ => 0) 64) shortPieces).1.bufferLength ≤ n →
        (Mealy.run step (Parser.new (fun _ => 0) 64)
          (shortPieces ++ List.replicate n Input.call)).2 = stream (appended shortPieces) :=
  delivered_stream (fun _ => 0) (by decide) (by decide) room_shortPieces

/-! ### Frames among noise -/

/-- Bytes that start no frame are passed over. -/
theorem stream_noise {noise : List UInt8} (h : 0xD3 ∉ noise) (q : List UInt8) :
    stream (noise ++ q) = stream q := by
  have hdrop : ∀ b ∈ noise, (b != 0xD3) = true := fun b hb => by
    simpa using fun heq : b = 0xD3 => h (heq ▸ hb)
  have hstep : Queue.step (noise ++ q) = Queue.step q := by
    rw [Queue.step_eq, Queue.step_eq, List.dropWhile_append_of_pos hdrop]
  rw [stream, stream, steady_step.drain_eq, hstep, ← steady_step.drain_eq]

/-- A frame is given as it is. -/
theorem stream_frame {payload frame : List UInt8} (h : Rtcm.IsFrame payload frame)
    (q : List UInt8) :
    stream (frame ++ q) = dispatch (messageNumber frame) frame :: stream q := by
  have hframe : Queue.step frame = ([], [dispatch (messageNumber frame) frame]) := by
    rw [Queue.step, h.tryParse]
    rfl
  obtain hsame | ⟨hnone, -⟩ := steady_step.later frame q
  · rw [stream, steady_step.drain_eq, hsame, hframe]
    rfl
  · rw [hframe] at hnone
    cases hnone

/-- The frames of a stream, each after some noise. -/
theorem stream_frames {parts : List (List UInt8 × List UInt8)} {rest : List UInt8}
    (hparts : ∀ p ∈ parts, 0xD3 ∉ p.1 ∧ ∃ payload, Rtcm.IsFrame payload p.2)
    (hrest : 0xD3 ∉ rest) :
    stream (parts.flatMap (fun p => p.1 ++ p.2) ++ rest) =
      parts.map fun p => dispatch (messageNumber p.2) p.2 := by
  induction parts with
  | nil => simpa using (stream_noise hrest []).trans stream_nil
  | cons p parts ih =>
    obtain ⟨⟨hnoise, payload, hframe⟩, hparts⟩ := List.forall_mem_cons.1 hparts
    rw [List.flatMap_cons, List.append_assoc, List.append_assoc, stream_noise hnoise,
      stream_frame hframe, ih hparts]
    rfl

/-- **No frame is lost, repeated or made up.**  Frames with noise between them, cut into pieces in
any way, with calls at any time: the parser gives the messages of the first frames, in order, and
asked as often as bytes are left, of all of them. -/
theorem delivered_frames (memory : ℕ → UInt8) {capacity : ℕ} (hpos : 0 < capacity)
    (hle : capacity ≤ 2 ^ 31) {inputs : List (Input UInt8)}
    (hroom : Mealy.Along (fun p _ input => Room p input) step (Parser.new memory capacity) []
      inputs)
    {parts : List (List UInt8 × List UInt8)} {rest : List UInt8}
    (hparts : ∀ p ∈ parts, 0xD3 ∉ p.1 ∧ ∃ payload, Rtcm.IsFrame payload p.2)
    (hrest : 0xD3 ∉ rest)
    (hbytes : appended inputs = parts.flatMap (fun p => p.1 ++ p.2) ++ rest) :
    (Mealy.run step (Parser.new memory capacity) inputs).2 <+:
        parts.map (fun p => dispatch (messageNumber p.2) p.2) ∧
      ∀ n, (Mealy.run step (Parser.new memory capacity) inputs).1.bufferLength ≤ n →
        (Mealy.run step (Parser.new memory capacity)
          (inputs ++ List.replicate n Input.call)).2 =
            parts.map fun p => dispatch (messageNumber p.2) p.2 := by
  obtain ⟨left, hrepr, hstream⟩ := delivered_run memory hpos hle hroom
  rw [hbytes, stream_frames hparts hrest] at hstream
  exact ⟨⟨stream left, hstream⟩, fun n hn => (delivered_calls memory hrepr hn).trans hstream⟩

theorem isFrame_shortFrame : Rtcm.IsFrame [0x3E, 0xD0] shortFrame :=
  ⟨by decide, [0xD3, 0, 2, 0x3E, 0xD0], [0xA4, 0xE0, 0], rfl, by decide, by decide +kernel⟩

/-- Of the two frames the first one was given, and the second one is as soon as it is asked for. -/
theorem delivered_frames_short :
    (Mealy.run step (Parser.new (fun _ => 0) 64) shortPieces).2 <+:
        [([0x24], shortFrame), ([], shortFrame)].map
          (fun p => dispatch (messageNumber p.2) p.2) ∧
      ∀ n, (Mealy.run step (Parser.new (fun _ => 0) 64) shortPieces).1.bufferLength ≤ n →
        (Mealy.run step (Parser.new (fun _ => 0) 64)
          (shortPieces ++ List.replicate n Input.call)).2 =
            [([0x24], shortFrame), ([], shortFrame)].map
              fun p => dispatch (messageNumber p.2) p.2 := by
  have hbytes : appended shortPieces =
      [([0x24], shortFrame), ([], shortFrame)].flatMap (fun p => p.1 ++ p.2) ++ [] := by decide
  refine delivered_frames (fun _ => 0) (by decide) (by decide) room_shortPieces ?_ List.not_mem_nil
    hbytes
  intro p hp
  obtain rfl | rfl : p = ([0x24], shortFrame) ∨ p = ([], shortFrame) := by simpa using hp
  · exact ⟨by decide, _, isFrame_shortFrame⟩
  · exact ⟨by decide, _, isFrame_shortFrame⟩

end SuplLpp.Format.Rtcm
