import SuplLpp.Lpp.Round
import SuplLpp.Supl.Session

/-!
# SUPL message reassembly

A server sends messages after the handshake was sent, and TCP cuts them into reads anyhow.

* `Frame`: a message with its encoding, which the decoder takes as the encoding of this
  message whatever follows, and of which it wants more whenever a part is missing;
* `Prompt`: whenever the session has returned to its scheduler, the messages handed out are
  those whose last byte was read, up to the message that ends the session;
* `Coalesced`: the next wake-up brings the rest of the response and the whole message after;
* `prompt_iff`: a session is prompt if and only if no wake-up coalesces these two.
-/

namespace SuplLpp.Supl

open SuplLpp.Lpp (Pos NextState Endpoint World Deferred Call Codec Steady SessionTask Occurrence)

/-! ### What the server sends -/

/-- A message as it is sent. -/
structure Frame (decoder : Decoder) where
  pdu : UlpPdu
  bytes : List UInt8
  four_le : 4 ≤ bytes.length
  fits : bytes.length ≤ 65536
  decode_append : ∀ rest, decoder.decode (bytes ++ rest) = .ok pdu bytes.length
  decode_prefix : ∀ b, b <+: bytes → b ≠ bytes → decoder.decode b = .wmore

variable {decoder : Decoder} {β : Type*}

/-- The byte stream of the messages. -/
def stream (frames : List (Frame decoder)) : List UInt8 := frames.flatMap Frame.bytes

/-- The messages that are complete in the first `n` bytes of the stream. -/
def arrived : List (Frame decoder) → ℕ → List (Frame decoder)
  | [], _ => []
  | f :: fs, n => if f.bytes.length ≤ n then f :: arrived fs (n - f.bytes.length) else []

/-- The SLP session of a response that the session `set` accepts. -/
def accepted (set : SET) (pdu : UlpPdu) : Option SLP :=
  match pdu.decodeResponse with
  | some (ids, _) => if ids.1.beq set then some ids.2 else none
  | none => none

/-- The message does not end the established session. -/
def continues (set : SET) (slp : SLP) (pdu : UlpPdu) : Bool :=
  match pdu.decodeEnd with
  | some _ => false
  | none =>
    match pdu.decodePos with
    | some (ids, _) => ids.1.beq set && ids.2.beq slp
    | none => true

/-- The messages up to and with the one that ends the established session. -/
def heard (set : SET) (slp : SLP) : List (Frame decoder) → List (Frame decoder)
  | [] => []
  | f :: fs => f :: if continues set slp f.pdu then heard set slp fs else []

/-- The messages up to and with the one that ends the session; the first must be a response
that is accepted. -/
def expected (set : SET) : List (Frame decoder) → List (Frame decoder)
  | [] => []
  | f :: fs =>
    f :: match accepted set f.pdu with
      | some slp => heard set slp fs
      | none => []

/-! ### What the session does -/

/-- The messages handed out so far. -/
def handed (w : World Session β) : List UlpPdu := w.mSession.elim [] Session.handed

/-- The number of bytes that were read. -/
def bytesRead (frames : List (Frame decoder)) (w : World Session β) : ℕ :=
  (stream frames).length -
    w.mSession.elim 0 fun s => s.mTcpClient.elim 0 fun client => client.incoming.length

/-- Every complete message was handed out, unless the session has ended before. -/
def Prompt (set : SET) (frames : List (Frame decoder)) (w : World Session β) : Prop :=
  handed w = (expected set (arrived frames (bytesRead frames w))).map Frame.pdu

/-- The session waits for the response, and what the next wake-up reads completes it and the
whole message after it. -/
def Coalesced (set : SET) (frames : List (Frame decoder)) (w : World Session β) : Prop :=
  ∃ s slp f g rest, w.mSession = some s ∧ s.handed = [] ∧ frames = f :: g :: rest ∧
    accepted set f.pdu = some slp ∧
    f.bytes.length + g.bytes.length ≤ s.fillReceiveBuffer.1.mReceiveBuffer.length

/-- A TCP client that connects at once, takes every message, and receives `incoming` in the
given reads. -/
def network (incoming : List UInt8) (reads : List Read) : TcpClient :=
  ⟨.disconnected, -1, false, some 5, [], [], incoming, reads⟩

variable (decoder) in
/-- A session that has sent the handshake. -/
def awaitingResponse (codec : Codec β) (hack : Bool) (fresh : Session) : World Session β :=
  (Mealy.run (World.step (Session.api decoder) codec) (World.new fresh hack)
    (World.comingUp fresh)).1

variable (decoder) in
/-- A wake-up: the connection is readable, and the scheduler runs what was deferred. -/
def wakeUp (codec : Codec β) (w : World Session β) (callbacks : List (List (Call β))) :
    World Session β × List (Occurrence β) :=
  Mealy.run (World.step (Session.api decoder) codec) w
    [.event ⟨true, false, false, false⟩ callbacks, .deferred true]

/-! ### The stream and its messages -/

@[simp] theorem stream_nil : stream ([] : List (Frame decoder)) = [] := rfl

@[simp] theorem stream_cons (f : Frame decoder) (fs : List (Frame decoder)) :
    stream (f :: fs) = f.bytes ++ stream fs := rfl

@[simp] theorem stream_append (fs gs : List (Frame decoder)) :
    stream (fs ++ gs) = stream fs ++ stream gs := by
  simp [stream]

/-- No message is complete in `b`, the start of the stream of the messages. -/
def Missing (fs : List (Frame decoder)) (b : List UInt8) : Prop :=
  ∀ f ∈ fs.head?, b.length < f.bytes.length

theorem arrived_of_missing {fs : List (Frame decoder)} {b : List UInt8} (h : Missing fs b) :
    arrived fs b.length = [] := by
  cases fs with
  | nil => rfl
  | cons f fs =>
    have hlt : b.length < f.bytes.length := h f rfl
    simp only [arrived]
    rw [if_neg (by omega)]

theorem arrived_append (fs gs : List (Frame decoder)) (n : ℕ) :
    arrived (fs ++ gs) ((stream fs).length + n) = fs ++ arrived gs n := by
  induction fs with
  | nil => simp
  | cons f fs ih =>
    simp only [List.cons_append, arrived, stream_cons, List.length_append]
    rw [if_pos (by omega), show f.bytes.length + (stream fs).length + n - f.bytes.length =
      (stream fs).length + n by omega, ih]

/-- What was read of a stream either lacks a part of its first message or begins with it. -/
theorem missing_or_complete {f : Frame decoder} {fs : List (Frame decoder)} {b rest : List UInt8}
    (h : b ++ rest = stream (f :: fs)) :
    (b.length < f.bytes.length ∧ b <+: f.bytes ∧ b ≠ f.bytes) ∨
      ∃ b', b = f.bytes ++ b' ∧ b' ++ rest = stream fs := by
  rw [stream_cons] at h
  by_cases hlt : b.length < f.bytes.length
  · refine Or.inl ⟨hlt, ?_, ?_⟩
    · exact List.prefix_of_prefix_length_le ⟨rest, h⟩ (List.prefix_append _ _) hlt.le
    · rintro rfl
      omega
  · obtain ⟨b', rfl⟩ : f.bytes <+: b :=
      List.prefix_of_prefix_length_le (List.prefix_append _ _) ⟨rest, h⟩ (by omega)
    refine Or.inr ⟨b', rfl, ?_⟩
    rw [List.append_assoc] at h
    exact List.append_cancel_left h

theorem heard_append {set : SET} {slp : SLP} {fs gs : List (Frame decoder)}
    (h : ∀ f ∈ fs, continues set slp f.pdu = true) :
    heard set slp (fs ++ gs) = fs ++ heard set slp gs := by
  induction fs with
  | nil => rfl
  | cons f fs ih =>
    obtain ⟨hf, hfs⟩ := List.forall_mem_cons.1 h
    simp only [List.cons_append, heard, hf, if_true, ih hfs]

/-- The session after it has handed out messages and `b` is left in its buffer. -/
def handOut (s : Session) (b : List UInt8) (fs : List (Frame decoder)) : Session :=
  { s with
    mReceiveBuffer := b
    handed := s.handed ++ fs.map Frame.pdu }

theorem handOut_nil (s : Session) :
    handOut s s.mReceiveBuffer ([] : List (Frame decoder)) = s := by
  simp [handOut]

theorem handOut_handOut (s : Session) (b b' : List UInt8) (fs gs : List (Frame decoder)) :
    handOut (handOut s b fs) b' gs = handOut s b' (fs ++ gs) := by
  simp [handOut]

/-! ### Reading -/

/-- The connection of `s` is up, and the messages of `rest` are in its buffer and still to be
read. -/
structure Online (s : Session) (client : TcpClient) (rest : List UInt8) : Prop where
  client_eq : s.mTcpClient = some client
  connected : client.mState = .connected
  socket : client.mSocket = 5
  sends : client.sends = []
  reads : ∀ r ∈ client.reads, r ≠ .closed ∧ r ≠ .error
  bytes : s.mReceiveBuffer ++ client.incoming = rest
  size : s.mReceiveBufferSize = 65536
  state : s.mState ≠ .disconnected

namespace Online

variable {s : Session} {client : TcpClient} {rest : List UInt8}

theorem isConnected (h : Online s client rest) : s.isConnected = true := by
  simp [Session.isConnected, h.client_eq, TcpClient.isConnected, h.connected]

theorem steady (h : Online s client rest) : Steady (Session.api decoder) s := by
  intro pos
  obtain ⟨hclient, hconnected, -, hsends, -⟩ := h
  cases s
  cases client
  subst hclient hconnected hsends
  rfl

/-- A read moves bytes out of the connection, or would block. -/
theorem receive (h : Online s client rest) (size : ℕ) :
    ∃ client', client'.mState = .connected ∧ client'.mSocket = 5 ∧ client'.sends = [] ∧
      (∀ r ∈ client'.reads, r ≠ .closed ∧ r ≠ .error) ∧
      ((client.receive size = (client', .error .wouldBlock) ∧
          client'.incoming = client.incoming) ∨
        ∃ chunk, client.receive size = (client', .ok chunk) ∧
          client.incoming = chunk ++ client'.incoming) := by
  have hc : (!client.isConnected) = false := by simp [TcpClient.isConnected, h.connected]
  have htail : ∀ r ∈ client.reads.tail, r ≠ .closed ∧ r ≠ .error :=
    fun r hr => h.reads r (List.mem_of_mem_tail hr)
  unfold TcpClient.receive
  rw [hc, if_neg Bool.false_ne_true]
  cases hreads : client.reads with
  | nil =>
    exact ⟨{ client with reads := [], pending := false }, h.connected, h.socket, h.sends, by simp,
      Or.inl ⟨rfl, rfl⟩⟩
  | cons r rs =>
    rw [hreads] at htail
    obtain ⟨hclosed, herror⟩ := h.reads r (by rw [hreads]; exact List.mem_cons_self)
    cases r with
    | closed => exact absurd rfl hclosed
    | error => exact absurd rfl herror
    | wouldBlock =>
      exact ⟨{ client with reads := rs, pending := false }, h.connected, h.socket, h.sends, htail,
        Or.inl ⟨rfl, rfl⟩⟩
    | ok bytes pending =>
      simp only [List.head?_cons, Option.getD_some]
      by_cases hchunk : (client.incoming.take (min bytes size)).isEmpty = true
      · rw [if_pos hchunk]
        exact ⟨{ client with reads := rs, pending := false }, h.connected, h.socket, h.sends,
          htail, Or.inl ⟨rfl, rfl⟩⟩
      · rw [if_neg hchunk]
        exact ⟨{ client with
            reads := rs
            pending := pending
            incoming := client.incoming.drop (min bytes size) },
          h.connected, h.socket, h.sends, htail,
          Or.inr ⟨_, rfl, (List.take_append_drop _ _).symm⟩⟩

/-- `fill_receive_buffer` moves bytes from the connection to the buffer. -/
theorem fill (h : Online s client rest) (fuel : ℕ) :
    ∃ client' read, s.fill fuel = ({ s with
        mTcpClient := some client'
        mReceiveBuffer := s.mReceiveBuffer ++ read }, true) ∧
      Online { s with
        mTcpClient := some client'
        mReceiveBuffer := s.mReceiveBuffer ++ read } client' rest := by
  induction fuel generalizing s client with
  | zero =>
    have hsame : { s with
        mTcpClient := some client
        mReceiveBuffer := s.mReceiveBuffer ++ [] } = s := by
      rw [← h.client_eq, List.append_nil]
    exact ⟨client, [], by rw [hsame]; rfl, by rw [hsame]; exact h⟩
  | succ fuel ih =>
    unfold Session.fill
    dsimp only
    by_cases hsize : s.mReceiveBufferSize - s.mReceiveBuffer.length = 0
    · have hsame : { s with
          mTcpClient := some client
          mReceiveBuffer := s.mReceiveBuffer ++ [] } = s := by
        rw [← h.client_eq, List.append_nil]
      rw [if_pos hsize]
      exact ⟨client, [], by rw [hsame], by rw [hsame]; exact h⟩
    · rw [if_neg hsize]
      simp only [h.client_eq]
      obtain ⟨client', hconnected, hsocket, hsends, hreads, hblock | ⟨chunk, hok, hincoming⟩⟩ :=
        h.receive (s.mReceiveBufferSize - s.mReceiveBuffer.length)
      · obtain ⟨heq, hsame⟩ := hblock
        rw [heq]
        refine ⟨client', [], by simp, ?_⟩
        exact ⟨rfl, hconnected, hsocket, hsends, hreads, by simpa [hsame] using h.bytes, h.size,
          h.state⟩
      · rw [hok]
        have hon : Online { s with
            mTcpClient := some client'
            mReceiveBuffer := s.mReceiveBuffer ++ chunk } client' rest :=
          ⟨rfl, hconnected, hsocket, hsends, hreads,
            by simpa [hincoming, List.append_assoc] using h.bytes, h.size, h.state⟩
        dsimp only
        by_cases hpending : client'.hasPendingData = true
        · rw [if_pos hpending]
          obtain ⟨client'', read, heq, hon'⟩ := ih hon
          refine ⟨client'', chunk ++ read, ?_, ?_⟩
          · simpa [List.append_assoc] using heq
          · simpa [List.append_assoc] using hon'
        · rw [if_neg hpending]
          exact ⟨client', chunk, rfl, hon⟩

/-! ### Taking messages out of the buffer -/

/-- No message is taken from the buffer while its first one is incomplete. -/
theorem tryReceive_missing {fs : List (Frame decoder)} (h : Online s client (stream fs))
    (hmissing : Missing fs s.mReceiveBuffer) (response pos : Bool) :
    s.tryReceive decoder response pos = (s, .noData) := by
  unfold Session.tryReceive
  rw [h.isConnected]
  simp only [Bool.not_true, Bool.false_eq_true, if_false]
  have hparse : s.parseReceiveBuffer decoder = (s, none) := by
    unfold Session.parseReceiveBuffer
    split_ifs with hlen
    · rfl
    · cases fs with
      | nil =>
        have hnil : s.mReceiveBuffer = [] := (List.append_eq_nil_iff.1 h.bytes).1
        simp [hnil] at hlen
      | cons f fs =>
        have hlt : s.mReceiveBuffer.length < f.bytes.length := hmissing f rfl
        rcases missing_or_complete h.bytes with ⟨-, hhead, hne⟩ | ⟨b', hb, -⟩
        · rw [f.decode_prefix _ hhead hne]
        · rw [hb, List.length_append] at hlt
          omega
  rw [hparse]

/-- A complete message is taken from the buffer. -/
theorem tryReceive_complete {f : Frame decoder} {b : List UInt8} (h : Online s client rest)
    (hb : s.mReceiveBuffer = f.bytes ++ b) (response pos : Bool) :
    s.tryReceive decoder response pos = (handOut s b [f]).parseMessage f.pdu response pos := by
  have hfour := f.four_le
  have hconsume : s.rbConsume f.bytes.length = { s with mReceiveBuffer := b } := by
    unfold Session.rbConsume
    rw [hb]
    by_cases hnil : b = []
    · subst hnil
      simp
    · have hpos : 0 < b.length := List.length_pos_iff.2 hnil
      rw [if_neg (by simp [hnil]), List.drop_left]
  unfold Session.tryReceive Session.parseReceiveBuffer
  rw [h.isConnected]
  simp only [Bool.not_true, Bool.false_eq_true, if_false]
  rw [if_neg (by rw [hb, List.length_append]; omega)]
  rw [hb, f.decode_append b]
  simp only [hconsume]
  rfl

theorem handOut {fs : List (Frame decoder)} {gs : List (Frame decoder)} {b : List UInt8}
    (h : Online s client rest) (hb : b ++ client.incoming = stream gs) :
    Online (handOut s b fs) client (stream gs) :=
  ⟨h.client_eq, h.connected, h.socket, h.sends, h.reads, hb, h.size, h.state⟩

end Online

/-! ### What the messages do -/

/-- In the established session a message that continues it changes nothing. -/
theorem parseMessage_established {s : Session} (hslp : s.mSLPSession.isActive = true)
    (pdu : UlpPdu) :
    ∃ received, s.parseMessage pdu false true = (s, received) ∧
      (continues s.mSETSession s.mSLPSession pdu = true →
        received = .unknown ∨ ∃ pos, received = .pos pos) ∧
      (continues s.mSETSession s.mSLPSession pdu = false →
        received = .endSession ∨ received = .invalidSession) := by
  unfold Session.parseMessage continues
  simp only [Bool.false_eq_true, if_false, if_true]
  cases hend : pdu.decodeEnd with
  | some ids =>
    simp only [hslp, Bool.not_true, Bool.false_eq_true, if_false]
    split_ifs <;> exact ⟨_, rfl, by simp, by simp⟩
  | none =>
    cases hpos : pdu.decodePos with
    | none => exact ⟨_, rfl, by simp, by simp⟩
    | some m =>
      obtain ⟨ids, pos⟩ := m
      simp only [hslp, Bool.not_true, Bool.false_eq_true, if_false]
      cases hset : ids.1.beq s.mSETSession with
      | false => exact ⟨_, rfl, by simp, by simp⟩
      | true =>
        cases hs : ids.2.beq s.mSLPSession with
        | false => exact ⟨_, rfl, by simp, by simp⟩
        | true => exact ⟨_, rfl, by simp, by simp⟩

/-- An accepted response activates the SLP session. -/
theorem parseMessage_accepted {s : Session} (hslp : s.mSLPSession.isActive = false)
    {pdu : UlpPdu} {slp : SLP} (h : accepted s.mSETSession pdu = some slp) :
    s.parseMessage pdu true false = ({ s with mSLPSession := slp }, .response) ∧
      slp.isActive = true := by
  unfold accepted at h
  unfold Session.parseMessage
  simp only [if_true]
  cases hr : pdu.decodeResponse with
  | none => simp [hr] at h
  | some m =>
    obtain ⟨ids, response⟩ := m
    have hactive : ids.2.isActive = true := by
      unfold UlpPdu.decodeResponse UlpPdu.decodeSession at hr
      split at hr
      · split at hr
        · simp only [Option.map_some, Option.some.injEq, Prod.mk.injEq] at hr
          rw [← hr.1]
        · cases hr
      · cases hr
    simp only [hr] at h
    cases hset : ids.1.beq s.mSETSession with
    | false => simp [hset] at h
    | true =>
      obtain rfl : ids.2 = slp := by simpa [hset] using h
      exact ⟨by simp [hset, hslp], hactive⟩

/-- Anything else is no response. -/
theorem parseMessage_refused {s : Session} (hslp : s.mSLPSession.isActive = false)
    {pdu : UlpPdu} (h : accepted s.mSETSession pdu = none) :
    ∃ slp received, s.parseMessage pdu true false = ({ s with mSLPSession := slp }, received) ∧
      received ≠ .response ∧ received ≠ .noData := by
  have hsame : { s with mSLPSession := s.mSLPSession } = s := rfl
  unfold accepted at h
  unfold Session.parseMessage
  simp only [if_true, Bool.false_eq_true, if_false]
  cases hr : pdu.decodeResponse with
  | some m =>
    obtain ⟨ids, response⟩ := m
    have hset : ids.1.beq s.mSETSession = false := by simpa [hr] using h
    exact ⟨s.mSLPSession, .invalidSession, by simp [hset], by simp, by simp⟩
  | none =>
    cases hend : pdu.decodeEnd with
    | none => exact ⟨s.mSLPSession, .unknown, rfl, by simp, by simp⟩
    | some ids =>
      cases hset : ids.1.beq s.mSETSession with
      | false => exact ⟨s.mSLPSession, .invalidSession, by simp [hset], by simp, by simp⟩
      | true => exact ⟨ids.2, .endSession, by simp [hset, hslp], by simp, by simp⟩

/-! ### The receive loop -/

/-- How the receive loop ends: waiting for the rest of a message, or with the message that
ends the session. -/
def LoopEnds (s : Session) (taken rest : List (Frame decoder)) (b : List UInt8)
    (answer : Option NextState) : Prop :=
  (answer = some World.awaitMessage ∧ Missing rest b ∧
      ∀ f ∈ taken, continues s.mSETSession s.mSLPSession f.pdu = true) ∨
    (answer = some (NextState.make.next .disconnected) ∧
      ∃ init f, taken = init ++ [f] ∧
        (∀ g ∈ init, continues s.mSETSession s.mSLPSession g.pdu = true) ∧
        continues s.mSETSession s.mSLPSession f.pdu = false)

/-- A message that continues the session before the others. -/
theorem LoopEnds.cons {s s' : Session} {f : Frame decoder} {taken rest : List (Frame decoder)}
    {b : List UInt8} {answer : Option NextState} (hset : s'.mSETSession = s.mSETSession)
    (hslp : s'.mSLPSession = s.mSLPSession)
    (hf : continues s.mSETSession s.mSLPSession f.pdu = true)
    (h : LoopEnds s' taken rest b answer) : LoopEnds s (f :: taken) rest b answer := by
  unfold LoopEnds at h ⊢
  rw [hset, hslp] at h
  rcases h with ⟨ha, hmissing, hall⟩ | ⟨ha, init, g, rfl, hall, hg⟩
  · exact Or.inl ⟨ha, hmissing, List.forall_mem_cons.2 ⟨hf, hall⟩⟩
  · exact Or.inr ⟨ha, f :: init, g, rfl, List.forall_mem_cons.2 ⟨hf, hall⟩, hg⟩

/-- The receive loop hands out the complete messages in the buffer, up to one that ends the
session. -/
theorem receiveLoop_online (codec : Codec β) (fuel : ℕ) {w : World Session β} {s : Session}
    {client : TcpClient} {fs : List (Frame decoder)} (hw : World.Undisturbed s w w)
    (hs : Online s client (stream fs)) (hslp : s.mSLPSession.isActive = true)
    (hfuel : s.mReceiveBuffer.length < fuel) :
    ∃ taken rest b, fs = taken ++ rest ∧ s.mReceiveBuffer = stream taken ++ b ∧
      World.Undisturbed (handOut s b taken) w
        (World.receiveLoop (Session.api decoder) codec fuel w).1 ∧
      LoopEnds s taken rest b
        (World.receiveLoop (Session.api decoder) codec fuel w).2.2 := by
  induction fuel generalizing w s fs with
  | zero => omega
  | succ fuel ih =>
    simp only [World.receiveLoop, hw.session]
    -- whether the buffer begins with a complete message
    have hcases : Missing fs s.mReceiveBuffer ∨ ∃ f fs' b, fs = f :: fs' ∧
        s.mReceiveBuffer = f.bytes ++ b ∧ b ++ client.incoming = stream fs' := by
      cases fs with
      | nil => exact Or.inl (by simp [Missing])
      | cons f fs' =>
        rcases missing_or_complete hs.bytes with ⟨hlt, -, -⟩ | ⟨b, hb, hrest⟩
        · refine Or.inl fun f' hf' => ?_
          obtain rfl : f = f' := by simpa using hf'
          exact hlt
        · exact Or.inr ⟨f, fs', b, rfl, hb, hrest⟩
    rcases hcases with hmissing | ⟨f, fs', b, rfl, hb, hrest⟩
    · have htry : (Session.api decoder).tryReceive s = (s, .noData) :=
        hs.tryReceive_missing hmissing false true
      rw [htry]
      refine ⟨[], fs, s.mReceiveBuffer, rfl, rfl, ?_, Or.inl ⟨rfl, hmissing, by simp⟩⟩
      rw [handOut_nil]
      exact ⟨⟨_, w.callbacks, rfl⟩, rfl, hw.tame⟩
    · obtain ⟨received, hreceived, hgo, hstop⟩ :=
        parseMessage_established (s := handOut s b [f]) hslp f.pdu
      have htry : (Session.api decoder).tryReceive s = (handOut s b [f], received) :=
        (hs.tryReceive_complete hb false true).trans hreceived
      rw [htry]
      have hon : Online (handOut s b [f]) client (stream fs') := hs.handOut hrest
      have hstart : World.Undisturbed (handOut s b [f]) w
          { w with mSession := some (handOut s b [f]) } :=
        ⟨⟨_, w.callbacks, rfl⟩, rfl, hw.tame⟩
      -- the loop goes on in a world `w'` whose buffer is shorter
      have hnext : ∀ w' : World Session β, World.Undisturbed (handOut s b [f]) w w' →
          continues s.mSETSession s.mSLPSession f.pdu = true →
          ∃ taken rest b', f :: fs' = taken ++ rest ∧ s.mReceiveBuffer = stream taken ++ b' ∧
            World.Undisturbed (handOut s b' taken) w
              (World.receiveLoop (Session.api decoder) codec fuel w').1 ∧
            LoopEnds s taken rest b'
              (World.receiveLoop (Session.api decoder) codec fuel w').2.2 := by
        intro w' hw' hcont
        have hshort : (handOut s b [f]).mReceiveBuffer.length < fuel := by
          have hfour := f.four_le
          rw [hb, List.length_append] at hfuel
          show b.length < fuel
          omega
        obtain ⟨taken, rest, b', rfl, hb', hun, hends⟩ :=
          ih (w := w') ⟨.refl _, hw'.session, hw'.tame⟩ hon hslp hshort
        refine ⟨f :: taken, rest, b', rfl, ?_, ?_, hends.cons rfl rfl hcont⟩
        · have hb'' : b = stream taken ++ b' := hb'
          rw [hb, hb'', stream_cons, List.append_assoc]
        · rw [handOut_handOut] at hun
          exact hw'.trans hun
      cases hcont : continues s.mSETSession s.mSLPSession f.pdu with
      | true =>
        rcases hgo hcont with rfl | ⟨pos, rfl⟩
        · exact hnext _ hstart hcont
        · obtain ⟨hpos, hok⟩ := World.processSuplPos_undisturbed (Session.api decoder) codec
            (w := { w with mSession := some (handOut s b [f]) })
            ⟨.refl _, rfl, hw.tame⟩ hon.steady pos.payloads
          dsimp only
          rw [if_pos hok]
          exact hnext _ (hstart.trans hpos) hcont
      | false =>
        refine ⟨[f], fs', b, rfl, by simpa using hb, ?_, ?_⟩
        · rcases hstop hcont with rfl | rfl <;> exact hstart
        · rcases hstop hcont with rfl | rfl <;>
            exact Or.inr ⟨rfl, [], f, rfl, by simp, hcont⟩

/-! ### The handshake -/

theorem fillReceiveBuffer_online {s : Session} {client : TcpClient} {rest : List UInt8}
    (h : Online s client rest) :
    ∃ client' read, s.fillReceiveBuffer = ({ s with
        mTcpClient := some client'
        mReceiveBuffer := s.mReceiveBuffer ++ read }, true) ∧
      Online { s with
        mTcpClient := some client'
        mReceiveBuffer := s.mReceiveBuffer ++ read } client' rest :=
  h.fill _

/-- The handshake waits for the whole response, accepts it, or refuses the first message. -/
theorem handleHandshake_online {s s₁ : Session} {client : TcpClient}
    {frames : List (Frame decoder)} (hstate : s.mState = .waitForHandshake)
    (hfill : s.fillReceiveBuffer = (s₁, true)) (hon : Online s₁ client (stream frames))
    (hslp : s₁.mSLPSession.isActive = false) :
    (Missing frames s₁.mReceiveBuffer ∧ s.handleHandshake decoder = (s₁, .noData)) ∨
      ∃ f fs b slp, frames = f :: fs ∧ s₁.mReceiveBuffer = f.bytes ++ b ∧
        b ++ client.incoming = stream fs ∧
        ((accepted s₁.mSETSession f.pdu = some slp ∧ slp.isActive = true ∧
            s.handleHandshake decoder = ({ handOut s₁ b [f] with
              mSLPSession := slp
              mState := .connected }, .ok)) ∨
          (accepted s₁.mSETSession f.pdu = none ∧
            s.handleHandshake decoder =
              ({ handOut s₁ b [f] with mSLPSession := slp }, .error))) := by
  unfold Session.handleHandshake
  rw [if_neg (by simp [hstate])]
  simp only [hfill, Bool.not_true, Bool.false_eq_true, if_false]
  cases frames with
  | nil =>
    refine Or.inl ⟨by simp [Missing], ?_⟩
    rw [hon.tryReceive_missing (by simp [Missing]) true false]
  | cons f fs =>
    rcases missing_or_complete hon.bytes with ⟨hlt, -, -⟩ | ⟨b, hb, hrest⟩
    · have hmissing : Missing (f :: fs) s₁.mReceiveBuffer := by
        intro f' hf'
        obtain rfl : f = f' := by simpa using hf'
        exact hlt
      refine Or.inl ⟨hmissing, ?_⟩
      rw [hon.tryReceive_missing hmissing true false]
    · rw [hon.tryReceive_complete hb true false]
      cases hacc : accepted s₁.mSETSession f.pdu with
      | some slp =>
        obtain ⟨hparse, hactive⟩ := parseMessage_accepted (s := handOut s₁ b [f]) hslp hacc
        refine Or.inr ⟨f, fs, b, slp, rfl, hb, hrest, Or.inl ⟨hacc, hactive, ?_⟩⟩
        rw [hparse]
      | none =>
        obtain ⟨slp, received, hparse, hr, hn⟩ :=
          parseMessage_refused (s := handOut s₁ b [f]) hslp hacc
        refine Or.inr ⟨f, fs, b, slp, rfl, hb, hrest, Or.inr ⟨hacc, ?_⟩⟩
        rw [hparse]
        cases received with
        | response => exact absurd rfl hr
        | noData => exact absurd rfl hn
        | unknown | invalidSession | unableToDecode | sessionTerminated | endSession => rfl
        | pos pos => rfl

/-! ### The rounds of a wake-up -/

section Rounds

variable {codec : Codec β} {w w' : World Session β} {s : Session} {client : TcpClient}
  {rest : List UInt8} {n : NextState}

theorem process_of_wait (fuel : ℕ) (hne : w.mState ≠ .exit)
    (h : (w.state (Session.api decoder) codec).2.2 = some n) (hn : n.schedule = true) :
    (w.process (Session.api decoder) codec (fuel + 1)).1 =
      ((w.state (Session.api decoder) codec).1.wait (Session.api decoder) n).1 := by
  simp only [World.process, if_neg hne, h, hn, if_true]

theorem process_of_next (fuel : ℕ) (hne : w.mState ≠ .exit)
    (h : (w.state (Session.api decoder) codec).2.2 = some n) (hn : n.schedule = false) :
    (w.process (Session.api decoder) codec (fuel + 1)).1 =
      (((w.state (Session.api decoder) codec).1.switchState n.nextState).process
        (Session.api decoder) codec fuel).1 := by
  simp only [World.process, if_neg hne, h, hn, Bool.false_eq_true, if_false]

/-- The deferred update of a wait is run. -/
theorem runDeferred_wait (hsession : w.mSession = some s) (hs : Online s client rest)
    (hsch : w.mScheduler = true) (hidle : w.deferred = []) :
    ((w.wait (Session.api decoder) n).1.runDeferred true).1 =
      { w.awaiting n with
        mTask := w.mTask.update (n.update 5) true
        deferred := [] } := by
  have hfd : (Session.api decoder).fd s = 5 := by
    show s.fd = 5
    simp [Session.fd, hs.client_eq, hs.socket]
  have hup : (Session.api decoder).isDisconnected s = false := by
    show s.isDisconnected = false
    simp [Session.isDisconnected, hs.state]
  simp only [World.wait, hsession, hsch, hfd, hup]
  simp [World.defer, World.awaiting, World.runDeferred, hidle]

/-- The session waits to read in the state `next`. -/
structure Listening (w : World Session β) (s : Session) (next : SuplLpp.Lpp.State) : Prop where
  session : w.mSession = some s
  scheduled : w.mScheduler = true
  idle : w.deferred = []
  task : w.mTask = ⟨5, true, true, false, true⟩
  next : w.mNextReadState = next

/-- A session that listened and waits to read again listens again. -/
theorem listening_wait (hsession : w.mSession = some s) (hs : Online s client rest)
    (hsch : w.mScheduler = true) (hidle : w.deferred = [])
    (htask : w.mTask = ⟨5, true, true, false, true⟩)
    (hn : n.update 5 = ⟨5, true, false, true⟩) :
    Listening ((w.wait (Session.api decoder) n).1.runDeferred true).1 s n.readState := by
  rw [runDeferred_wait hsession hs hsch hidle]
  refine ⟨hsession, hsch, rfl, ?_, rfl⟩
  simp only [hn, htask]
  rfl

/-- The session does not hear of what can be read. -/
def Deaf (w : World Session β) : Prop :=
  w.deferred = [] ∧ w.delivers ⟨true, false, false, false⟩ = false

/-- A session that listened and waits for nothing but an error is deaf. -/
theorem deaf_wait (hsession : w.mSession = some s) (hs : Online s client rest)
    (hsch : w.mScheduler = true) (hidle : w.deferred = [])
    (htask : w.mTask = ⟨5, true, true, false, true⟩)
    (hn : n.update 5 = ⟨5, false, false, true⟩) :
    Deaf ((w.wait (Session.api decoder) n).1.runDeferred true).1 ∧
      ((w.wait (Session.api decoder) n).1.runDeferred true).1.mSession = some s := by
  rw [runDeferred_wait hsession hs hsch hidle]
  refine ⟨⟨rfl, ?_⟩, hsession⟩
  simp only [World.delivers, hn, htask]
  rfl

theorem Listening.wakeUp {next : SuplLpp.Lpp.State} (h : Listening w s next)
    (callbacks : List (List (Call β))) :
    (wakeUp decoder codec w callbacks).1 =
      (((({ w with callbacks := callbacks } : World Session β).switchState next).process
        (Session.api decoder) codec World.rounds).1.runDeferred true).1 := by
  have hdelivers : w.delivers ⟨true, false, false, false⟩ = true := by
    simp [World.delivers, h.idle, h.task]
  unfold SuplLpp.Supl.wakeUp
  rw [Mealy.run_cons, Mealy.run_cons, Mealy.run_nil]
  simp only [World.step, hdelivers, if_true, World.event, h.next]

theorem Deaf.wakeUp (h : Deaf w) (callbacks : List (List (Call β))) :
    (wakeUp decoder codec w callbacks).1 = w := by
  unfold SuplLpp.Supl.wakeUp
  rw [Mealy.run_cons, Mealy.run_cons, Mealy.run_nil]
  simp only [World.step, h.2, Bool.false_eq_true, if_false, World.runDeferred, h.1]

end Rounds

/-! ### The phases of a session -/

/-- Where a session is between its wake-ups. -/
inductive Phase (set : SET) (frames : List (Frame decoder)) (w : World Session β) : Prop
  | awaiting (s : Session) (client : TcpClient) (listening : Listening w s .suplHandshakeRecv)
      (online : Online s client (stream frames)) (state : s.mState = .waitForHandshake)
      (slp : s.mSLPSession.isActive = false) (set_eq : s.mSETSession = set)
      (handed : s.handed = []) (missing : Missing frames s.mReceiveBuffer)
  | established (s : Session) (client : TcpClient) (f : Frame decoder)
      (fs rest : List (Frame decoder)) (listening : Listening w s .message)
      (online : Online s client (stream rest)) (frames_eq : frames = f :: fs ++ rest)
      (accepted : accepted set f.pdu = some s.mSLPSession)
      (slp : s.mSLPSession.isActive = true) (set_eq : s.mSETSession = set)
      (continues : ∀ g ∈ fs, continues set s.mSLPSession g.pdu = true)
      (handed : s.handed = (f :: fs).map Frame.pdu) (missing : Missing rest s.mReceiveBuffer)
  | ended (s : Session) (session : w.mSession = some s) (deaf : Deaf w) (handed : s.handed ≠ [])
      (prompt : Prompt set frames w)

section Phases

variable {codec : Codec β} {set : SET} {frames : List (Frame decoder)} {w : World Session β}
  {s : Session} {client : TcpClient}

/-- What was read are the messages that left the buffer, and the buffer. -/
theorem bytesRead_eq {done rest : List (Frame decoder)} (hsession : w.mSession = some s)
    (hs : Online s client (stream rest)) (hframes : frames = done ++ rest) :
    bytesRead frames w = (stream done).length + s.mReceiveBuffer.length := by
  have hlen := congrArg List.length hs.bytes
  rw [List.length_append] at hlen
  subst hframes
  simp only [bytesRead, hsession, Option.elim_some, hs.client_eq, stream_append,
    List.length_append]
  omega

/-- The messages expected when the established session has gone on through `fs`. -/
theorem expected_arrived {f : Frame decoder} {fs rest : List (Frame decoder)} {slp : SLP}
    {n : ℕ} (hacc : accepted set f.pdu = some slp)
    (hfs : ∀ g ∈ fs, continues set slp g.pdu = true) :
    expected set (arrived (f :: fs ++ rest) ((stream (f :: fs)).length + n)) =
      f :: fs ++ heard set slp (arrived rest n) := by
  rw [arrived_append, List.cons_append, expected, hacc]
  simp only [heard_append hfs, List.cons_append]

theorem Phase.prompt (h : Phase set frames w) : Prompt set frames w := by
  cases h with
  | awaiting s client listening online state slp set_eq hhanded missing =>
    have hread : bytesRead frames w =
        (stream ([] : List (Frame decoder))).length + s.mReceiveBuffer.length :=
      bytesRead_eq listening.session online rfl
    rw [stream_nil, List.length_nil, Nat.zero_add] at hread
    rw [Prompt, hread, arrived_of_missing missing]
    simp [handed, listening.session, hhanded, expected]
  | established s client f fs rest listening online frames_eq hacc slp set_eq hcont hhanded
      missing =>
    rw [Prompt, bytesRead_eq listening.session online frames_eq, frames_eq,
      expected_arrived hacc hcont, arrived_of_missing missing]
    simp [handed, listening.session, hhanded, heard]
  | ended s session deaf hhanded prompt => exact prompt

variable (decoder codec) in
/-- A session at its end hears nothing any more. -/
theorem deaf_of_exit (hsch : w.mScheduler = true) (hidle : w.deferred = [])
    (htask : w.mTask = ⟨5, true, true, false, true⟩) (hexit : w.mState = .exit) (fuel : ℕ) :
    Deaf (((w.process (Session.api decoder) codec (fuel + 1)).1.runDeferred true).1) ∧
      ((w.process (Session.api decoder) codec (fuel + 1)).1.runDeferred true).1.mSession =
        w.mSession := by
  unfold World.process
  rw [if_pos hexit, if_pos hsch]
  simp only [World.defer, World.runDeferred, hidle, htask]
  exact ⟨⟨rfl, rfl⟩, rfl⟩

variable (decoder codec) in
/-- A session that is disconnected says so and comes to its end. -/
theorem deaf_of_disconnected {rest : List UInt8} (hsession : w.mSession = some s)
    (hs : Online s client rest) (hsch : w.mScheduler = true) (hidle : w.deferred = [])
    (htask : w.mTask = ⟨5, true, true, false, true⟩) (hst : w.mState = .disconnected)
    (htame : ∀ calls ∈ w.callbacks, Call.cancel ∉ calls) (fuel : ℕ) :
    Deaf ((w.process (Session.api decoder) codec (fuel + 1 + 1)).1.runDeferred true).1 ∧
      ((w.process (Session.api decoder) codec (fuel + 1 + 1)).1.runDeferred true).1.mSession =
        some s := by
  have hstate : w.state (Session.api decoder) codec =
      w.stateDisconnected (Session.api decoder) codec := by
    unfold World.state
    rw [hst]
  have hun := World.callback_undisturbed (Session.api decoder) codec (w := w)
    ⟨.refl w, hsession, htame⟩ hs.steady
  obtain ⟨endpoint, calls, heq⟩ := hun.later
  rw [process_of_next (fuel + 1) (by simp [hst]) (by rw [hstate]; rfl) rfl, hstate]
  have hexit := deaf_of_exit decoder codec
    (w := (w.callback (Session.api decoder) codec).1.switchState .exit)
    (by rw [heq]; exact hsch) (by rw [heq]; exact hidle) (by rw [heq]; exact htask) rfl fuel
  exact ⟨hexit.1, hexit.2.trans hun.session⟩

/-- A wake-up before the response is complete. -/
theorem wakeUp_missing {s₁ : Session} (h : Listening w s .suplHandshakeRecv)
    (hs : Online s₁ client (stream frames)) (hhs : s.handleHandshake decoder = (s₁, .noData))
    (callbacks : List (List (Call β))) :
    Listening (wakeUp decoder codec w callbacks).1 s₁ .suplHandshakeRecv := by
  rw [h.wakeUp]
  have hstate : (({ w with callbacks := callbacks } : World Session β).switchState
      .suplHandshakeRecv).state (Session.api decoder) codec =
      ({ w with
        callbacks := callbacks
        mState := .suplHandshakeRecv
        mSession := some s₁ }, [],
        some (NextState.make.read .suplHandshakeRecv |>.error .disconnected)) := by
    have hapi : (Session.api decoder).handleHandshake s = (s₁, .noData) := hhs
    simp only [World.state, World.switchState, World.stateHandshakeRecv, h.session, hapi]
  rw [show World.rounds = 15 + 1 from rfl,
    process_of_wait 15 (by simp [World.switchState]) (by rw [hstate]) rfl, hstate]
  exact listening_wait rfl hs h.scheduled h.idle h.task rfl

variable (codec) in
/-- A wake-up that brings the response. -/
theorem wakeUp_accepted {s₁ : Session} (h : Listening w s .suplHandshakeRecv)
    {rest : List UInt8} (hs : Online s₁ client rest)
    (hhs : s.handleHandshake decoder = (s₁, .ok)) {callbacks : List (List (Call β))}
    (htame : ∀ calls ∈ callbacks, Call.cancel ∉ calls) :
    Listening (wakeUp decoder codec w callbacks).1 s₁ .message := by
  rw [h.wakeUp]
  have hsteady : Steady (Session.api decoder) s₁ := hs.steady
  have hrecv : (({ w with callbacks := callbacks } : World Session β).switchState
      .suplHandshakeRecv).state (Session.api decoder) codec =
      ({ w with
        callbacks := callbacks
        mState := .suplHandshakeRecv
        mSession := some s₁ }, [], some (NextState.make.next .suplPosinit)) := by
    have hapi : (Session.api decoder).handleHandshake s = (s₁, .ok) := hhs
    simp only [World.state, World.switchState, World.stateHandshakeRecv, h.session, hapi]
  have hposinit : ({ w with
      callbacks := callbacks
      mState := .suplPosinit
      mSession := some s₁ } : World Session β).state (Session.api decoder) codec =
      ({ w with
        callbacks := callbacks
        mState := .suplPosinit
        mSession := some s₁
        mPosQueue := [] }, [], some (NextState.make.next .established)) := by
    have hapi : (Session.api decoder).sendPosinit s₁ (w.mPosQueue.flatMap Pos.payloads) =
        (s₁, true) := hsteady ⟨[]⟩
    simp only [World.state, World.statePosinit, hapi, if_true]
  have hestablished := World.callback_undisturbed (Session.api decoder) codec
    (w := { w with
      callbacks := callbacks
      mState := .established
      mSession := some s₁
      mPosQueue := [] }) ⟨.refl _, rfl, htame⟩ hsteady
  have hprocess : ((({ w with callbacks := callbacks } : World Session β).switchState
      .suplHandshakeRecv).process (Session.api decoder) codec World.rounds).1 =
      ((({ w with
        callbacks := callbacks
        mState := .established
        mSession := some s₁
        mPosQueue := [] } : World Session β).callback (Session.api decoder) codec).1.wait
          (Session.api decoder) World.awaitMessage).1 := by
    rw [show World.rounds = 13 + 1 + 1 + 1 from rfl,
      process_of_next 15 (by simp [World.switchState]) (by rw [hrecv]) rfl, hrecv]
    refine (process_of_next 14 (by simp [World.switchState, NextState.next, NextState.make])
      (congrArg (·.2.2) hposinit) rfl).trans ?_
    refine (congrArg (fun a : World.Answer Session β => ((a.1.switchState .established).process
      (Session.api decoder) codec 14).1) hposinit).trans ?_
    exact process_of_wait 13 (by simp [World.switchState]) rfl rfl
  rw [hprocess]
  have hlater := hestablished.later
  obtain ⟨endpoint, calls, heq⟩ := hlater
  refine listening_wait hestablished.session hs ?_ ?_ ?_ rfl
  · rw [heq]
    exact h.scheduled
  · rw [heq]
    exact h.idle
  · rw [heq]
    exact h.task

variable (codec) in
/-- A wake-up that brings something else first. -/
theorem wakeUp_refused {s₁ : Session} (h : Listening w s .suplHandshakeRecv)
    {rest : List UInt8} (hs : Online s₁ client rest)
    (hhs : s.handleHandshake decoder = (s₁, .error)) (callbacks : List (List (Call β))) :
    Deaf (wakeUp decoder codec w callbacks).1 ∧
      (wakeUp decoder codec w callbacks).1.mSession = some s₁ := by
  rw [h.wakeUp]
  have hstate : (({ w with callbacks := callbacks } : World Session β).switchState
      .suplHandshakeRecv).state (Session.api decoder) codec =
      ({ w with
        callbacks := callbacks
        mState := .suplHandshakeRecv
        mSession := some s₁ }, [.handshakeFailed],
        some (NextState.make.error .disconnected)) := by
    have hapi : (Session.api decoder).handleHandshake s = (s₁, .error) := hhs
    simp only [World.state, World.switchState, World.stateHandshakeRecv, h.session, hapi]
  rw [show World.rounds = 15 + 1 from rfl,
    process_of_wait 15 (by simp [World.switchState]) (by rw [hstate]) rfl, hstate]
  exact deaf_wait rfl hs h.scheduled h.idle h.task rfl

variable (codec) in
/-- A wake-up of the established session: it goes on listening, or ends. -/
theorem wakeUp_established {s₁ : Session} {rest : List (Frame decoder)}
    (h : Listening w s .message) (hfill : s.fillReceiveBuffer = (s₁, true))
    (hs : Online s₁ client (stream rest)) (hslp : s₁.mSLPSession.isActive = true)
    {callbacks : List (List (Call β))} (htame : ∀ calls ∈ callbacks, Call.cancel ∉ calls) :
    ∃ taken rest' b, rest = taken ++ rest' ∧ s₁.mReceiveBuffer = stream taken ++ b ∧
      ((Listening (wakeUp decoder codec w callbacks).1 (handOut s₁ b taken) .message ∧
          Missing rest' b ∧
          ∀ f ∈ taken, continues s₁.mSETSession s₁.mSLPSession f.pdu = true) ∨
        (Deaf (wakeUp decoder codec w callbacks).1 ∧
          (wakeUp decoder codec w callbacks).1.mSession = some (handOut s₁ b taken) ∧
          ∃ init f, taken = init ++ [f] ∧
            (∀ g ∈ init, continues s₁.mSETSession s₁.mSLPSession g.pdu = true) ∧
            continues s₁.mSETSession s₁.mSLPSession f.pdu = false)) := by
  rw [h.wakeUp]
  have hapi : (Session.api decoder).fillReceiveBuffer s = (s₁, true) := hfill
  have hstate : (({ w with callbacks := callbacks } : World Session β).switchState
      .message).state (Session.api decoder) codec =
      World.receiveLoop (Session.api decoder) codec (s₁.mReceiveBuffer.length + 1)
        { w with
          callbacks := callbacks
          mState := .message
          mSession := some s₁ } := by
    simp only [World.state, World.switchState, World.stateMessage, h.session, hapi, if_true]
    rfl
  obtain ⟨taken, rest', b, hrest, hb, hun, hends⟩ := receiveLoop_online codec
    (s₁.mReceiveBuffer.length + 1) (w := { w with
      callbacks := callbacks
      mState := .message
      mSession := some s₁ }) ⟨.refl _, rfl, htame⟩ hs hslp (Nat.lt_succ_self _)
  refine ⟨taken, rest', b, hrest, hb, ?_⟩
  rw [← hstate] at hun hends
  have hon : Online (handOut s₁ b taken) client (stream rest') := by
    refine hs.handOut ?_
    have hbytes := hs.bytes
    rw [hb, hrest, stream_append, List.append_assoc] at hbytes
    exact List.append_cancel_left hbytes
  obtain ⟨endpoint, calls, heq⟩ := hun.later
  have hne : (({ w with callbacks := callbacks } : World Session β).switchState
      .message).mState ≠ .exit := by simp [World.switchState]
  rcases hends with ⟨hwait, hmissing, hall⟩ | ⟨hnext, init, f, hinit, hgo, hstop⟩
  · refine Or.inl ⟨?_, hmissing, hall⟩
    rw [show World.rounds = 15 + 1 from rfl, process_of_wait 15 hne hwait rfl]
    refine listening_wait hun.session hon ?_ ?_ ?_ rfl
    · rw [heq]
      exact h.scheduled
    · rw [heq]
      exact h.idle
    · rw [heq]
      exact h.task
  · refine Or.inr ?_
    rw [show World.rounds = 13 + 1 + 1 + 1 from rfl, process_of_next 15 hne hnext rfl]
    have hend := deaf_of_disconnected decoder codec
      (w := ((({ w with callbacks := callbacks } : World Session β).switchState
        .message).state (Session.api decoder) codec).1.switchState .disconnected)
      hun.session hon (by rw [heq]; exact h.scheduled) (by rw [heq]; exact h.idle)
      (by rw [heq]; exact h.task) rfl hun.tame 13
    exact ⟨hend.1, hend.2, init, f, hinit, hgo, hstop⟩

/-- Only a session that has handed out nothing can coalesce. -/
theorem not_coalesced (hsession : w.mSession = some s) (h : s.handed ≠ []) :
    ¬Coalesced set frames w := by
  rintro ⟨s', -, -, -, -, hs', hnil, -⟩
  obtain rfl : s = s' := Option.some.inj (hsession.symm.trans hs')
  exact h hnil

/-- One wake-up while the response is missing. -/
theorem wakeUp_awaiting (hl : Listening w s .suplHandshakeRecv)
    (hs : Online s client (stream frames)) (hstate : s.mState = .waitForHandshake)
    (hslp : s.mSLPSession.isActive = false) (hset : s.mSETSession = set)
    (hhanded : s.handed = []) {callbacks : List (List (Call β))}
    (htame : ∀ calls ∈ callbacks, Call.cancel ∉ calls) :
    (¬Coalesced set frames w ∧ Phase set frames (wakeUp decoder codec w callbacks).1) ∨
      (Coalesced set frames w ∧ ¬Prompt set frames (wakeUp decoder codec w callbacks).1) := by
  obtain ⟨client', read, hfill, hs₁⟩ := fillReceiveBuffer_online hs
  generalize hdef : ({ s with
      mTcpClient := some client'
      mReceiveBuffer := s.mReceiveBuffer ++ read } : Session) = s₁ at hfill hs₁
  have hstate₁ : s₁.mState = .waitForHandshake := by rw [← hdef]; exact hstate
  have hslp₁ : s₁.mSLPSession.isActive = false := by rw [← hdef]; exact hslp
  have hset₁ : s₁.mSETSession = set := by rw [← hdef]; exact hset
  have hhanded₁ : s₁.handed = [] := by rw [← hdef]; exact hhanded
  -- what a coalesced wake-up would have read
  have hcoalesced : Coalesced set frames w → ∃ slp f g rest, frames = f :: g :: rest ∧
      accepted set f.pdu = some slp ∧
      f.bytes.length + g.bytes.length ≤ s₁.mReceiveBuffer.length := by
    rintro ⟨s', slp, f, g, rest, hs', -, hframes, hacc, hlen⟩
    obtain rfl : s = s' := Option.some.inj (hl.session.symm.trans hs')
    rw [hfill] at hlen
    exact ⟨slp, f, g, rest, hframes, hacc, hlen⟩
  rcases handleHandshake_online hstate hfill hs₁ hslp₁ with
    ⟨hmissing, hhs⟩ | ⟨f, fs, b, slp, rfl, hb, hrest, ⟨hacc, hactive, hhs⟩ | ⟨hacc, hhs⟩⟩
  · refine Or.inl ⟨fun hc => ?_, .awaiting s₁ client' (wakeUp_missing hl hs₁ hhs callbacks) hs₁
      hstate₁ hslp₁ hset₁ hhanded₁ hmissing⟩
    obtain ⟨slp, f, g, rest, rfl, -, hlen⟩ := hcoalesced hc
    have hlt : s₁.mReceiveBuffer.length < f.bytes.length := hmissing f rfl
    omega
  · have hs₂ : Online { handOut s₁ b [f] with mSLPSession := slp, mState := .connected } client'
        (stream fs) :=
      ⟨hs₁.client_eq, hs₁.connected, hs₁.socket, hs₁.sends, hs₁.reads, hrest, hs₁.size, by simp⟩
    have hlisten := wakeUp_accepted codec hl hs₂ hhs htame
    rw [hset₁] at hacc
    by_cases hmissing : Missing fs b
    · refine Or.inl ⟨fun hc => ?_, .established _ client' f [] fs hlisten hs₂ rfl hacc hactive hset₁
        (by simp) (by simp [handOut, hhanded₁]) hmissing⟩
      obtain ⟨slp', f', g, rest, hframes, -, hlen⟩ := hcoalesced hc
      obtain ⟨rfl, rfl⟩ := List.cons.inj hframes
      have hlt : b.length < g.bytes.length := hmissing g rfl
      rw [hb, List.length_append] at hlen
      omega
    · obtain ⟨g, rest, rfl, hlen⟩ : ∃ g rest, fs = g :: rest ∧ g.bytes.length ≤ b.length := by
        cases fs with
        | nil => exact absurd (by simp [Missing]) hmissing
        | cons g rest => exact ⟨g, rest, rfl, by simpa [Missing] using hmissing⟩
      refine Or.inr ⟨⟨s, slp, f, g, rest, hl.session, hhanded, rfl, hacc, ?_⟩, ?_⟩
      · rw [hfill]
        show _ ≤ s₁.mReceiveBuffer.length
        rw [hb, List.length_append]
        omega
      · intro hprompt
        have hread : bytesRead (f :: g :: rest) (wakeUp decoder codec w callbacks).1 =
            (stream [f]).length + b.length :=
          bytesRead_eq hlisten.session hs₂ (show f :: g :: rest = [f] ++ g :: rest from rfl)
        rw [Prompt, hread, show f :: g :: rest = f :: [] ++ g :: rest from rfl,
          expected_arrived hacc (by simp), arrived, if_pos hlen] at hprompt
        simp [handed, hlisten.session, handOut, hhanded₁, heard] at hprompt
  · have hs₂ : Online { handOut s₁ b [f] with mSLPSession := slp } client' (stream fs) :=
      ⟨hs₁.client_eq, hs₁.connected, hs₁.socket, hs₁.sends, hs₁.reads, hrest, hs₁.size, hs₁.state⟩
    obtain ⟨hdeaf, hsession⟩ := wakeUp_refused codec hl hs₂ hhs callbacks
    rw [hset₁] at hacc
    refine Or.inl ⟨fun hc => ?_, .ended _ hsession hdeaf (by simp [handOut]) ?_⟩
    · obtain ⟨slp', f', g, rest, hframes, hacc', -⟩ := hcoalesced hc
      obtain ⟨rfl, rfl⟩ := List.cons.inj hframes
      rw [hacc] at hacc'
      cases hacc'
    · have hread : bytesRead (f :: fs) (wakeUp decoder codec w callbacks).1 =
          (stream [f]).length + b.length :=
        bytesRead_eq hsession hs₂ (show f :: fs = [f] ++ fs from rfl)
      rw [Prompt, hread, show f :: fs = [f] ++ fs from rfl, arrived_append]
      simp [handed, hsession, handOut, hhanded₁, expected, hacc]

/-- One wake-up of the established session. -/
theorem wakeUp_phase_established {f : Frame decoder} {fs rest : List (Frame decoder)}
    (hl : Listening w s .message) (hs : Online s client (stream rest))
    (hframes : frames = f :: fs ++ rest) (hacc : accepted set f.pdu = some s.mSLPSession)
    (hslp : s.mSLPSession.isActive = true) (hset : s.mSETSession = set)
    (hcont : ∀ g ∈ fs, continues set s.mSLPSession g.pdu = true)
    (hhanded : s.handed = (f :: fs).map Frame.pdu) {callbacks : List (List (Call β))}
    (htame : ∀ calls ∈ callbacks, Call.cancel ∉ calls) :
    Phase set frames (wakeUp decoder codec w callbacks).1 := by
  obtain ⟨client', read, hfill, hs₁⟩ := fillReceiveBuffer_online hs
  generalize hdef : ({ s with
      mTcpClient := some client'
      mReceiveBuffer := s.mReceiveBuffer ++ read } : Session) = s₁ at hfill hs₁
  have hslp₁ : s₁.mSLPSession = s.mSLPSession := by rw [← hdef]
  have hset₁ : s₁.mSETSession = set := by rw [← hdef]; exact hset
  have hhanded₁ : s₁.handed = (f :: fs).map Frame.pdu := by rw [← hdef]; exact hhanded
  obtain ⟨taken, rest', b, rfl, hb, hend⟩ :=
    wakeUp_established codec hl hfill hs₁ (by rw [hslp₁]; exact hslp) htame
  rw [hset₁, hslp₁] at hend
  have hon : Online (handOut s₁ b taken) client' (stream rest') := by
    refine hs₁.handOut ?_
    have hbytes := hs₁.bytes
    rw [hb, stream_append, List.append_assoc] at hbytes
    exact List.append_cancel_left hbytes
  have hall : (handOut s₁ b taken).handed = (f :: (fs ++ taken)).map Frame.pdu := by
    simp [handOut, hhanded₁]
  have hsplit : frames = f :: (fs ++ taken) ++ rest' := by simp [hframes]
  rcases hend with ⟨hlisten, hmissing, hgo⟩ | ⟨hdeaf, hsession, init, g, rfl, hgo, hstop⟩
  · refine .established _ client' f (fs ++ taken) rest' hlisten hon hsplit ?_ ?_ hset₁ ?_ hall
      hmissing
    · exact hacc.trans (congrArg some hslp₁.symm)
    · exact (congrArg SLP.isActive hslp₁).trans hslp
    · intro g hg
      have hslp' : (handOut s₁ b taken).mSLPSession = s.mSLPSession := hslp₁
      rw [hslp']
      rcases List.mem_append.1 hg with hg | hg
      · exact hcont g hg
      · exact hgo g hg
  · refine .ended _ hsession hdeaf (by simp [handOut]) ?_
    have hread : bytesRead frames (wakeUp decoder codec w callbacks).1 =
        (stream (f :: (fs ++ (init ++ [g])))).length + b.length :=
      bytesRead_eq hsession hon hsplit
    have hlen : (stream (f :: (fs ++ (init ++ [g])))).length + b.length =
        (stream (f :: (fs ++ init))).length + (g.bytes.length + b.length) := by
      simp only [stream_cons, stream_append, stream_nil, List.length_append, List.length_nil]
      omega
    have hinit : ∀ g' ∈ fs ++ init, continues set s.mSLPSession g'.pdu = true := by
      intro g' hg'
      rcases List.mem_append.1 hg' with hg' | hg'
      · exact hcont g' hg'
      · exact hgo g' hg'
    have hsplit' : frames = f :: (fs ++ init) ++ g :: rest' := by simp [hframes]
    rw [Prompt, hread, hlen, hsplit', expected_arrived hacc hinit, arrived,
      if_pos (Nat.le_add_right _ _), heard, hstop]
    simp [handed, hsession, hall]

/-- **One wake-up** keeps a session in its phases, unless it coalesces the response and the
message after it: then that message stays in the buffer. -/
theorem wakeUp_phase (h : Phase set frames w) {callbacks : List (List (Call β))}
    (htame : ∀ calls ∈ callbacks, Call.cancel ∉ calls) :
    (¬Coalesced set frames w ∧ Phase set frames (wakeUp decoder codec w callbacks).1) ∨
      (Coalesced set frames w ∧ ¬Prompt set frames (wakeUp decoder codec w callbacks).1) := by
  cases h with
  | awaiting s client listening online state slp set_eq hhanded missing =>
    exact wakeUp_awaiting listening online state slp set_eq hhanded htame
  | established s client f fs rest listening online frames_eq hacc slp set_eq hcont hhanded
      missing =>
    exact Or.inl ⟨not_coalesced listening.session (by simp [hhanded]),
      wakeUp_phase_established listening online frames_eq hacc slp set_eq hcont hhanded htame⟩
  | ended s session deaf hhanded prompt =>
    refine Or.inl ⟨not_coalesced session hhanded, ?_⟩
    rw [deaf.wakeUp]
    exact .ended s session deaf hhanded prompt

/-- The SUPL session that has sent the handshake. -/
def afterHandshakeSend (identity : Identity) (incoming : List UInt8) (reads : List Read) :
    Session :=
  { Session.new identity (network incoming reads) with
    mState := .waitForHandshake
    mTcpClient := some { network incoming reads with
      mState := .connected
      mSocket := 5 } }

/-- The SUPL session that has started to connect. -/
def whileConnecting (identity : Identity) (incoming : List UInt8) (reads : List Read) : Session :=
  { Session.new identity (network incoming reads) with
    mState := .connecting
    mTcpClient := some { network incoming reads with
      mState := .connecting
      mSocket := 5 } }

/-- A session whose SUPL session is `s` and that has asked for what `n` says. -/
def waiting (hack : Bool) (fresh s : Session) (state : SuplLpp.Lpp.State) (n : NextState)
    (task : SessionTask) (deferred : List Deferred) : World Session β where
  toEndpoint := { (Endpoint.new hack : Endpoint Session) with mSession := some s }
  mState := state
  mScheduler := true
  mTask := task
  mNextReadState := n.readState
  mNextWriteState := n.writeState
  mNextErrorState := n.errorState
  deferred := deferred
  callbacks := []
  fresh := fresh

theorem awaitingResponse_eq (codec : Codec β) (hack : Bool) (identity : Identity)
    (incoming : List UInt8) (reads : List Read) :
    awaitingResponse decoder codec hack (Session.new identity (network incoming reads)) =
      waiting hack (Session.new identity (network incoming reads))
        (afterHandshakeSend identity incoming reads) .suplHandshakeSend
        (NextState.make.read .suplHandshakeRecv |>.error .disconnected)
        ⟨5, true, true, false, true⟩ [] := by
  have hstart : (World.step (Session.api decoder) codec
      (World.new (Session.new identity (network incoming reads)) hack)
      (.start (Session.new identity (network incoming reads)) [])).1 =
      waiting hack (Session.new identity (network incoming reads))
        (whileConnecting identity incoming reads) .connect
        (NextState.make.read .connecting |>.write .connecting |>.error .error)
        SessionTask.new [⟨⟨5, true, true, true⟩, false⟩] := rfl
  have hevent : (World.step (Session.api decoder) codec
      (waiting hack (Session.new identity (network incoming reads))
        (whileConnecting identity incoming reads) .connect
        (NextState.make.read .connecting |>.write .connecting |>.error .error)
        ⟨5, true, true, true, true⟩ []) (.event ⟨false, true, false, false⟩ [])).1 =
      waiting hack (Session.new identity (network incoming reads))
        (afterHandshakeSend identity incoming reads) .suplHandshakeSend
        (NextState.make.read .suplHandshakeRecv |>.error .disconnected)
        ⟨5, true, true, true, true⟩ [⟨⟨5, true, false, true⟩, false⟩] := rfl
  have hdeferred : (World.step (Session.api decoder) codec
      (waiting hack (Session.new identity (network incoming reads))
        (whileConnecting identity incoming reads) .connect
        (NextState.make.read .connecting |>.write .connecting |>.error .error)
        SessionTask.new [⟨⟨5, true, true, true⟩, false⟩]) (.deferred true)).1 =
      waiting hack (Session.new identity (network incoming reads))
        (whileConnecting identity incoming reads) .connect
        (NextState.make.read .connecting |>.write .connecting |>.error .error)
        ⟨5, true, true, true, true⟩ [] := rfl
  unfold awaitingResponse World.comingUp
  rw [Mealy.run_cons, hstart, Mealy.run_cons, hdeferred, Mealy.run_cons, hevent, Mealy.run_cons,
    Mealy.run_nil]
  rfl

theorem listening_awaitingResponse (codec : Codec β) (hack : Bool) (identity : Identity)
    (incoming : List UInt8) (reads : List Read) :
    Listening (awaitingResponse decoder codec hack
      (Session.new identity (network incoming reads)))
      (afterHandshakeSend identity incoming reads) .suplHandshakeRecv := by
  rw [awaitingResponse_eq]
  exact ⟨rfl, rfl, rfl, rfl, rfl⟩

/-- The session that has sent the handshake waits for the response. -/
theorem phase_awaitingResponse (codec : Codec β) (hack : Bool) (identity : Identity)
    (frames : List (Frame decoder)) {reads : List Read}
    (hreads : ∀ r ∈ reads, r ≠ .closed ∧ r ≠ .error) :
    Phase ⟨true, 1024, identity⟩ frames (awaitingResponse decoder codec hack
      (Session.new identity (network (stream frames) reads))) := by
  have hon : Online (afterHandshakeSend identity (stream frames) reads)
      { network (stream frames) reads with
        mState := .connected
        mSocket := 5 } (stream frames) :=
    ⟨rfl, rfl, rfl, rfl, hreads, rfl, rfl, by simp [afterHandshakeSend]⟩
  refine .awaiting _ _ (listening_awaitingResponse codec hack identity _ reads) hon rfl rfl rfl
    rfl ?_
  intro f _
  have hfour := f.four_le
  show 0 < f.bytes.length
  omega

end Phases

/-! ### The main theorem -/

variable (decoder) in
/-- **Reassembly is prompt, exactly without coalescing.**  However the stream of the messages
is cut into reads, and whatever the callbacks call but `cancel`: the messages handed out are
after every wake-up those that were read completely, up to the one that ends the session, if
and only if no wake-up coalesces the response and the message after it. -/
theorem prompt_iff (codec : Codec β) (hack : Bool) (identity : Identity)
    (frames : List (Frame decoder)) (reads : List Read)
    (hreads : ∀ r ∈ reads, r ≠ .closed ∧ r ≠ .error) (wakes : List (List (List (Call β))))
    (htame : ∀ callbacks ∈ wakes, ∀ calls ∈ callbacks, Call.cancel ∉ calls) :
    let set : SET := ⟨true, 1024, identity⟩
    let start := awaitingResponse decoder codec hack
      (Session.new identity (network (stream frames) reads))
    (∀ before, before <+: wakes →
        Prompt set frames (Mealy.run (wakeUp decoder codec) start before).1) ↔
      Mealy.Along (fun w _ _ => ¬Coalesced set frames w) (wakeUp decoder codec) start [] wakes := by
  refine Mealy.good_iff_along (P := Phase ⟨true, 1024, identity⟩ frames)
    (fun callbacks => ∀ calls ∈ callbacks, Call.cancel ∉ calls) (fun w h => h.prompt) ?_ ?_
    (phase_awaitingResponse codec hack identity frames hreads) [] htame
  · intro w callbacks hphase hcallbacks hbad
    rcases wakeUp_phase hphase hcallbacks with ⟨hnot, -⟩ | ⟨-, hprompt⟩
    · exact absurd hbad hnot
    · exact hprompt
  · intro w callbacks hphase hcallbacks hnot
    rcases wakeUp_phase hphase hcallbacks with ⟨-, hphase'⟩ | ⟨hbad, -⟩
    · exact hphase'
    · exact absurd hbad hnot

/-! ### A stream that coalesces, and one that does not -/

/-- The messages of one session, told apart by their kind. -/
def samplePdu (kind : UInt8) : UlpPdu where
  setSessionID := some ⟨1024, .msisdn [0x21]⟩
  slpSessionID := some ⟨[0, 0, 0, 1], .fQDN [0x73]⟩
  message :=
    if kind = 0 then .msSUPLRESPONSE 0
    else if kind = 1 then .msSUPLEND
    else .msSUPLPOS (.ver2 [] [])

/-- As in a `ULP_PDU`, the first two bytes are the length of the message. -/
def sampleDecode : List UInt8 → Decoded
  | high :: low :: kind :: rest =>
    let length := 256 * high.toNat + low.toNat
    if rest.length + 3 < length then .wmore else .ok (samplePdu kind) (max 1 length)
  | _ => .wmore

def sampleDecoder : Decoder where
  decode := sampleDecode
  consumed_pos buffer pdu consumed h := by
    unfold sampleDecode at h
    split at h
    · dsimp only at h
      split_ifs at h
      obtain ⟨-, rfl⟩ := Decoded.ok.inj h
      omega
    · cases h

def sample (kind : UInt8) : Frame sampleDecoder where
  pdu := samplePdu kind
  bytes := [0, 4, kind, 0]
  four_le := le_rfl
  fits := by simp
  decode_append rest := by simp [sampleDecoder, sampleDecode]
  decode_prefix b hb hne := by
    rcases b with _ | ⟨x, _ | ⟨y, _ | ⟨z, _ | ⟨u, t⟩⟩⟩⟩
    · rfl
    · rfl
    · rfl
    · simp only [List.cons_prefix_cons] at hb
      obtain ⟨rfl, rfl, rfl, -⟩ := hb
      simp [sampleDecoder, sampleDecode]
    · simp only [List.cons_prefix_cons, List.prefix_nil] at hb
      obtain ⟨rfl, rfl, rfl, rfl, rfl⟩ := hb
      exact absurd rfl hne

/-- A session that is sent a response and a `POS`, four bytes each. -/
def sampleStart (reads : List Read) : World Session Unit :=
  awaitingResponse sampleDecoder Codec.ideal false
    (Session.new (.msisdn 12) (network (stream [sample 0, sample 2]) reads))

theorem prompt_apart :
    Prompt ⟨true, 1024, .msisdn 12⟩ [sample 0, sample 2]
      (Mealy.run (wakeUp sampleDecoder Codec.ideal) (sampleStart [.ok 4 false, .ok 4 false])
        [[], []]).1 := by
  refine (prompt_iff sampleDecoder Codec.ideal false (.msisdn 12) [sample 0, sample 2]
    [.ok 4 false, .ok 4 false] (by decide) [[], []] (by simp)).2 ?_ _ (List.prefix_refl _)
  refine ⟨?_, ?_, trivial⟩
  · -- the first wake-up reads four bytes
    rintro ⟨s, slp, f, g, rest, hs, -, hframes, -, hlen⟩
    obtain rfl := Option.some.inj
      ((listening_awaitingResponse Codec.ideal false _ _ _).session.symm.trans hs)
    obtain ⟨rfl, htail⟩ := List.cons.inj hframes
    obtain ⟨rfl, -⟩ := List.cons.inj htail
    exact absurd hlen (by decide +kernel)
  · -- the second finds the response handed out
    rintro ⟨s, slp, f, g, rest, hs, hnil, -⟩
    have hone : handed (wakeUp sampleDecoder Codec.ideal
        (sampleStart [.ok 4 false, .ok 4 false]) []).1 = [samplePdu 0] := by decide +kernel
    have hsome : handed (wakeUp sampleDecoder Codec.ideal
        (sampleStart [.ok 4 false, .ok 4 false]) []).1 = s.handed :=
      congrArg (·.elim [] Session.handed) hs
    rw [hsome, hnil] at hone
    cases hone

/-- A `POS` that comes with the response stays in the buffer. -/
theorem not_prompt_coalesced :
    ¬∀ (decoder : Decoder) (codec : Codec Unit) (hack : Bool) (identity : Identity)
      (frames : List (Frame decoder)) (reads : List Read)
      (wakes : List (List (List (Call Unit)))),
      (∀ r ∈ reads, r ≠ .closed ∧ r ≠ .error) →
      (∀ callbacks ∈ wakes, ∀ calls ∈ callbacks, Call.cancel ∉ calls) →
      Prompt ⟨true, 1024, identity⟩ frames (Mealy.run (wakeUp decoder codec)
        (awaitingResponse decoder codec hack
          (Session.new identity (network (stream frames) reads))) wakes).1 := by
  intro hall
  have hprompt := hall sampleDecoder Codec.ideal false (.msisdn 12) [sample 0, sample 2]
    [.ok 8 false] [[]] (by decide) (by simp)
  exact absurd hprompt (by unfold Prompt; decide +kernel)

end SuplLpp.Supl
