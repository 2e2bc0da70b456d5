import SuplLpp.Lib.Scanner
import SuplLpp.Ubx.Parser

/-!
# UBX streams that arrive in pieces

Bytes are appended to the parser in pieces, and it is asked for messages at any time.  As long as
the buffer has room for each piece, and no frame overruns the array that it is copied to, what
comes out depends on the bytes alone, whatever the memory holds.

* `Queue.step`, a call on the bytes that wait, with the frame that it takes; `steady_step`;
* `taken`, the frames and results among what an observer sees, and `taken_tryParse`;
* `Admitted`, the steps with room and without an overrun; `delivered_messages`: two runs of the same
  bytes agree, and enough calls give everything.
-/

namespace SuplLpp.Ubx

open Helper Scanner

/-! ### Calls and the frames they take -/

/-- A call on the bytes that wait: the frame that it takes, whatever the memory. -/
def Queue.step (q : List UInt8) : List UInt8 × List (List UInt8) :=
  let q := Queue.search q
  let length := lengthOf q
  if q.length < 8 then (q, [])
  else if length > 8192 then (q.drop 2, [])
  else if q.length < length + 8 then (q, [])
  else
    let frame := q.take (length + 8)
    if checksumMessage frame ≠ expectedChecksum frame then (q.drop 2, [])
    else (q.drop (length + 8), [frame])

/-- The frames and results that a call puts out. -/
def Event.taken : Event → Option (List UInt8 × Result Message)
  | .copied _ => none
  | .parsed frame result => some (frame, result)

theorem taken_tryParse (memory : Memory) (q : List UInt8) :
    (Queue.tryParse memory q).1 = (Queue.step q).1 ∧
      ((Queue.tryParse memory q).2.filterMap Event.taken).map Prod.fst = (Queue.step q).2 := by
  unfold Queue.tryParse Queue.step
  dsimp only
  split_ifs
  · exact ⟨rfl, rfl⟩
  · exact ⟨rfl, rfl⟩
  · exact ⟨rfl, rfl⟩
  · exact ⟨rfl, rfl⟩
  · exact ⟨rfl, rfl⟩

/-! ### The search and bytes that come later -/

theorem Queue.search_suffix (q : List UInt8) : Queue.search q <:+ q := by
  induction q with
  | nil => exact List.suffix_refl _
  | cons b q ih =>
    rw [Queue.search]
    split_ifs
    · exact List.suffix_refl _
    · exact List.suffix_refl _
    · exact ih.trans (List.suffix_cons b q)

/-- What the search drops it would drop with later bytes there. -/
theorem Queue.search_append (q r : List UInt8) :
    Queue.search (q ++ r) = Queue.search (Queue.search q ++ r) := by
  induction q with
  | nil => rfl
  | cons b q ih =>
    by_cases hshort : (b :: q).length < 8
    · rw [Queue.search, if_pos hshort]
    by_cases hboundary : b = 0xB5 ∧ q.getD 0 0 = 0x62
    · rw [Queue.search, if_neg hshort, if_pos hboundary]
    · have hlong : ¬ (b :: (q ++ r)).length < 8 := by
        rw [List.length_cons] at hshort ⊢
        rw [List.length_append]
        omega
      have hsecond : (q ++ r).getD 0 0 = q.getD 0 0 := by
        rw [List.length_cons] at hshort
        exact List.getD_append _ _ _ _ (by omega)
      rw [Queue.search, if_neg hshort, if_neg hboundary, List.cons_append, Queue.search,
        if_neg hlong, hsecond, if_neg hboundary, ih]

/-- At a boundary the search stands, whatever comes later. -/
theorem Queue.search_of_boundary {q : List UInt8} (hlong : 8 ≤ q.length)
    (hstart : q.take 2 = [0xB5, 0x62]) (r : List UInt8) : Queue.search (q ++ r) = q ++ r := by
  obtain _ | ⟨b, _ | ⟨c, q⟩⟩ := q
  · simp at hlong
  · simp at hlong
  · obtain ⟨rfl, rfl⟩ : b = 0xB5 ∧ c = 0x62 := by simpa using hstart
    have hlen : ¬ (0xB5 :: (0x62 :: q ++ r)).length < 8 := by
      simp only [List.length_cons, List.cons_append, List.length_append] at hlong ⊢
      omega
    rw [List.cons_append, Queue.search, if_neg hlen, if_pos ⟨rfl, rfl⟩]

theorem lengthOf_append {q : List UInt8} (h : 8 ≤ q.length) (r : List UInt8) :
    lengthOf (q ++ r) = lengthOf q := by
  rw [lengthOf, List.getD_append _ _ _ _ (by omega), List.getD_append _ _ _ _ (by omega),
    ← lengthOf]

theorem steady_step : Steady Queue.step where
  later q r := by
    have hwait : (Queue.step q = (Queue.search q, [])) →
        (Queue.step (q ++ r) = ((Queue.step q).1 ++ r, (Queue.step q).2) ∨
          (Queue.step q).2 = [] ∧ Queue.step (q ++ r) = Queue.step ((Queue.step q).1 ++ r)) := by
      intro hq
      refine Or.inr ⟨by rw [hq], ?_⟩
      rw [hq]
      unfold Queue.step
      rw [Queue.search_append]
    by_cases hshort : (Queue.search q).length < 8
    · exact hwait (if_pos hshort)
    have hlong : 8 ≤ (Queue.search q).length := by omega
    have hsearch : Queue.search (q ++ r) = Queue.search q ++ r := by
      rw [Queue.search_append]
      exact Queue.search_of_boundary hlong (search_boundary q hlong) r
    have hlen := lengthOf_append hlong r
    by_cases htoolong : lengthOf (Queue.search q) > 8192
    · refine Or.inl ?_
      unfold Queue.step
      simp only [hsearch, hlen]
      rw [if_neg (by rw [List.length_append]; omega), if_pos htoolong, if_neg hshort,
        if_pos htoolong, List.drop_append_of_le_length (by omega)]
    by_cases hpartial : (Queue.search q).length < lengthOf (Queue.search q) + 8
    · refine hwait ?_
      unfold Queue.step
      simp only [if_neg hshort, if_neg htoolong, if_pos hpartial]
    · refine Or.inl ?_
      have hcomplete : lengthOf (Queue.search q) + 8 ≤ (Queue.search q).length := by omega
      unfold Queue.step
      simp only [hsearch, hlen]
      rw [if_neg (by rw [List.length_append]; omega), if_neg htoolong,
        if_neg (by rw [List.length_append]; omega), if_neg hshort, if_neg htoolong,
        if_neg hpartial, List.take_append_of_le_length hcomplete,
        List.drop_append_of_le_length (by omega), List.drop_append_of_le_length hcomplete]
      split_ifs <;> rfl
  shorter q := by
    have hle := (Queue.search_suffix q).length_le
    have hwait : Queue.step q = (Queue.search q, []) →
        (Queue.step q).1.length < q.length ∨ Queue.step q = (q, []) := by
      intro hq
      rw [hq]
      obtain heq | hlt := hle.eq_or_lt
      · exact Or.inr (by rw [(Queue.search_suffix q).eq_of_length heq])
      · exact Or.inl hlt
    by_cases hshort : (Queue.search q).length < 8
    · exact hwait (if_pos hshort)
    by_cases hpartial : ¬ lengthOf (Queue.search q) > 8192 ∧
        (Queue.search q).length < lengthOf (Queue.search q) + 8
    · refine hwait ?_
      unfold Queue.step
      simp only [if_neg hshort, if_neg hpartial.1, if_pos hpartial.2]
    · refine Or.inl ?_
      unfold Queue.step
      dsimp only
      split_ifs with htoolong hpart hsum
      · rw [List.length_drop]
        omega
      · exact absurd ⟨htoolong, hpart⟩ hpartial
      · rw [List.length_drop]
        omega
      · rw [List.length_drop]
        omega

/-! ### Runs -/

/-- A call on the bytes that wait, with the message of the frame that it takes. -/
def Queue.deliver (q : List UInt8) : List UInt8 × List (List UInt8 × Result Message) :=
  ((Queue.step q).1, (Queue.step q).2.map fun frame => (frame, messageOf frame []))

theorem steady_deliver : Steady Queue.deliver :=
  steady_step.map fun frame => (frame, messageOf frame [])

/-- The frames of some bytes, with their messages. -/
def stream (bytes : List UInt8) : List (List UInt8 × Result Message) := drain Queue.deliver bytes

/-- The parser, as an observer of its messages sees it. -/
def deliver (p : Parser) (input : Input) : Parser × List (List UInt8 × Result Message) :=
  ((step p input).1, (step p input).2.filterMap Event.taken)

def Input.plain : Input → Scanner.Input UInt8
  | .append data => .append data
  | .tryParse _ => .call

/-- The buffer has room for a piece, and a try meets no frame that overruns the array. -/
def Admitted (p : Parser) (input : Input) : Prop :=
  p.bufferLength + input.plain.data.length < p.mBufferCapacity ∧ Safe p input

instance decidableSafe (p : Parser) : (input : Input) → Decidable (Safe p input)
  | .append _ => .isTrue trivial
  | .tryParse _ => inferInstanceAs (Decidable (∀ frame ∈ front (contents p), _))

instance decidableAdmitted (p : Parser) (input : Input) : Decidable (Admitted p input) :=
  inferInstanceAs (Decidable (_ ∧ _))

/-- A try that overruns nothing gives the message that the frame alone gives. -/
theorem taken_of_isolated {memory : Memory} {q : List UInt8}
    (h : ∀ e ∈ (Queue.tryParse memory q).2, e.Isolated) :
    (Queue.tryParse memory q).2.filterMap Event.taken = (Queue.deliver q).2 := by
  rw [Queue.deliver, ← (taken_tryParse memory q).2, List.map_map]
  refine (List.map_id _).symm.trans (List.map_congr_left fun fr hfr => ?_)
  obtain ⟨e, he, htaken⟩ := List.mem_filterMap.1 hfr
  cases e with
  | copied length => cases htaken
  | parsed frame result =>
    obtain rfl : (frame, result) = fr := Option.some.inj htaken
    exact congrArg (Prod.mk frame) ((h _ he).2 [])

/-- The parser does to its buffer what `feed` does to the bytes. -/
theorem deliver_repr {p : Parser} {q : List UInt8} (h : Repr p q) {input : Input}
    (hadmitted : Admitted p input) :
    Repr (deliver p input).1 (feed Queue.deliver q input.plain).1 ∧
      (deliver p input).2 = (feed Queue.deliver q input.plain).2 := by
  obtain ⟨hroom, hsafe⟩ := hadmitted
  cases input with
  | append data =>
    rw [h.bufferLength] at hroom
    exact ⟨append_room h hroom, rfl⟩
  | tryParse memory =>
    obtain ⟨hrepr, hevents⟩ := tryParse_repr h memory
    have hisolated : ∀ e ∈ (Queue.tryParse memory q).2, e.Isolated := by
      rw [events_isolated_iff, ← contents_repr h]
      exact hsafe
    refine ⟨?_, ?_⟩
    · rw [(taken_tryParse memory q).1] at hrepr
      exact hrepr
    · change ((tryParse memory p).2.filterMap Event.taken) = _
      rw [hevents]
      exact taken_of_isolated hisolated

/-- **One stream, any schedule and any memory.**  However the bytes are cut into pieces, whenever
the parser is asked and whatever the memory holds, it gives the first of the messages of the bytes,
in order; asked as often as bytes are left, it gives all of them. -/
theorem delivered_messages (fresh : ℕ → UInt8) {inputs : List Input}
    (hadmitted : Mealy.Along (fun p _ input => Admitted p input) deliver
      (Parser.new fresh parserBufferSize) [] inputs) :
    (Mealy.run deliver (Parser.new fresh parserBufferSize) inputs).2 <+:
        stream (appended (inputs.map Input.plain)) ∧
      ∀ calls : List Memory,
        (Mealy.run deliver (Parser.new fresh parserBufferSize) inputs).1.bufferLength ≤
          calls.length →
        Mealy.Along (fun p _ input => Admitted p input) deliver
          (Mealy.run deliver (Parser.new fresh parserBufferSize) inputs).1 []
          (calls.map Input.tryParse) →
        (Mealy.run deliver (Parser.new fresh parserBufferSize)
          (inputs ++ calls.map Input.tryParse)).2 = stream (appended (inputs.map Input.plain)) := by
  obtain ⟨hrepr, hout⟩ := hadmitted.run_simulates
    (g := fun q input => feed Queue.deliver q input.plain) (R := Repr)
    (fun p q _ input h hinput => deliver_repr h hinput) (repr_new fresh (by decide) (by decide))
  rw [run_plain] at hrepr hout
  have hstream := steady_deliver.drain_run [] (inputs.map Input.plain) []
  rw [← hout, List.append_nil, List.append_nil, List.nil_append] at hstream
  refine ⟨⟨_, hstream⟩, fun calls hcalls hadmitted' => ?_⟩
  obtain ⟨-, hout'⟩ := hadmitted'.run_simulates
    (g := fun q input => feed Queue.deliver q input.plain) (R := Repr)
    (fun p q _ input h hinput => deliver_repr h hinput) hrepr
  have hplain : (calls.map Input.tryParse).map Input.plain =
      List.replicate calls.length Scanner.Input.call := by
    rw [List.map_map]
    exact List.map_const' ..
  rw [run_plain, hplain, run_calls, steady_deliver.calls_snd (hrepr.bufferLength ▸ hcalls)]
    at hout'
  rw [Mealy.run_append, hout']
  exact hstream

/-- An acknowledgement after a byte of noise, in two pieces. -/
def acknowledgement : List Input :=
  [.append [0x00, 0xB5, 0x62, 0x05, 0x01], .tryParse zeros,
    .append [0x02, 0x00, 0x06, 0x01, 0x0F, 0x38], .tryParse zeros]

theorem delivered_messages_acknowledgement :
    (Mealy.run deliver (Parser.new (fun _ => 0) parserBufferSize) acknowledgement).2 <+:
        stream (appended (acknowledgement.map Input.plain)) ∧
      ∀ calls : List Memory,
        (Mealy.run deliver (Parser.new (fun _ => 0) parserBufferSize)
          acknowledgement).1.bufferLength ≤ calls.length →
        Mealy.Along (fun p _ input => Admitted p input) deliver
          (Mealy.run deliver (Parser.new (fun _ => 0) parserBufferSize) acknowledgement).1 []
          (calls.map Input.tryParse) →
        (Mealy.run deliver (Parser.new (fun _ => 0) parserBufferSize)
          (acknowledgement ++ calls.map Input.tryParse)).2 =
            stream (appended (acknowledgement.map Input.plain)) :=
  delivered_messages (fun _ => 0) (by decide +kernel)

/-- The acknowledgement is what the bytes give. -/
example : stream (appended (acknowledgement.map Input.plain)) =
    [([0xB5, 0x62, 0x05, 0x01, 0x02, 0x00, 0x06, 0x01, 0x0F, 0x38],
      messageOf [0xB5, 0x62, 0x05, 0x01, 0x02, 0x00, 0x06, 0x01, 0x0F, 0x38] [])] := by
  rfl

end SuplLpp.Ubx
