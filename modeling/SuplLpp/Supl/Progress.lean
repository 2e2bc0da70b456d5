import SuplLpp.Lpp.Round
import SuplLpp.Supl.Session

/-!
# Progress of the receive loop

An established session is woken up when its connection is readable.  It reads, and takes
messages out of its buffer until there is none.

* `TcpClient.drain`: what the reads of one wake-up yield;
* `Progress`: a wake-up takes a byte from the connection, removes one from the buffer or ends
  the session; `Unblocked`: it leaves no complete message behind one that was refused;
* `Stuck`, `Buries`: the inputs on which a wake-up does not;
* `wakeUps_progress`: in a run without such inputs every wake-up does both.
-/

namespace SuplLpp.Supl

open SuplLpp.Lpp (NextState Endpoint World Call Codec Occurrence Received Payload SuplApi
  TransactionHandle Message)

variable {β : Type*}

/-! ### What a wake-up reads -/

/-- What successive reads into `size` bytes yield, and whether the connection holds. -/
def TcpClient.drain : ℕ → TcpClient → ℕ → TcpClient × List UInt8 × Bool
  | 0, client, _ => (client, [], true)
  | fuel + 1, client, size =>
    if size = 0 then (client, [], true)
    else
      let r := client.receive size
      match r.2 with
      | .ok chunk =>
        if r.1.hasPendingData then
          let d := drain fuel r.1 (size - chunk.length)
          (d.1, chunk ++ d.2.1, d.2.2)
        else (r.1, chunk, true)
      | .error .wouldBlock => (r.1, [], true)
      | .error _ => (r.1, [], false)

theorem TcpClient.drain_incoming (fuel : ℕ) (client : TcpClient) (size : ℕ) :
    client.incoming = (client.drain fuel size).2.1 ++ (client.drain fuel size).1.incoming := by
  induction fuel generalizing client size with
  | zero => rfl
  | succ fuel ih =>
    have hread := (client.receive_kept size).2
    unfold drain
    split_ifs with hsize
    · rfl
    · dsimp only
      split
      · rename_i chunk hchunk
        rw [hchunk] at hread
        split_ifs
        · rw [List.append_assoc, ← ih]
          exact hread
        · exact hread
      · rename_i hblock
        rw [hblock] at hread
        exact hread
      · rename_i hfail
        rw [hfail] at hread
        exact hread

namespace Session

/-- The bytes that the connection still has. -/
def unread (s : Session) : ℕ := s.mTcpClient.elim 0 fun client => client.incoming.length

/-- What the reads of a wake-up yield, and whether the connection holds. -/
def brings (s : Session) : List UInt8 × Bool :=
  let size := s.mReceiveBufferSize - s.mReceiveBuffer.length
  match s.mTcpClient with
  | none => ([], size = 0)
  | some client => (client.drain (size + 1) size).2

theorem fill_eq (fuel : ℕ) {s : Session} {client : TcpClient}
    (hclient : s.mTcpClient = some client) :
    s.fill fuel = ({ s with
      mTcpClient := some
        (client.drain fuel (s.mReceiveBufferSize - s.mReceiveBuffer.length)).1
      mReceiveBuffer := s.mReceiveBuffer ++
        (client.drain fuel (s.mReceiveBufferSize - s.mReceiveBuffer.length)).2.1 },
      (client.drain fuel (s.mReceiveBufferSize - s.mReceiveBuffer.length)).2.2) := by
  induction fuel generalizing s client with
  | zero =>
    simp only [fill, TcpClient.drain, List.append_nil]
    rw [← hclient]
  | succ fuel ih =>
    unfold fill TcpClient.drain
    dsimp only
    by_cases hroom : s.mReceiveBufferSize - s.mReceiveBuffer.length = 0
    · rw [if_pos hroom, if_pos hroom]
      simp only [List.append_nil]
      rw [← hclient]
    · rw [if_neg hroom, if_neg hroom]
      simp only [hclient]
      cases hr : (client.receive (s.mReceiveBufferSize - s.mReceiveBuffer.length)).2 with
      | error r => cases r <;> simp only [List.append_nil]
      | ok chunk =>
        dsimp only
        by_cases hpending : (client.receive (s.mReceiveBufferSize -
            s.mReceiveBuffer.length)).1.hasPendingData = true
        · rw [if_pos hpending, if_pos hpending, ih rfl]
          simp only [List.length_append, List.append_assoc, Nat.sub_sub]
        · rw [if_neg hpending, if_neg hpending]

/-- Reading moves bytes from the connection to the buffer. -/
theorem fillReceiveBuffer_spec (s : Session) :
    s.fillReceiveBuffer.1.mReceiveBuffer = s.mReceiveBuffer ++ s.brings.1 ∧
      s.unread = s.brings.1.length + s.fillReceiveBuffer.1.unread ∧
      s.fillReceiveBuffer.2 = s.brings.2 := by
  unfold fillReceiveBuffer brings
  cases hclient : s.mTcpClient with
  | none =>
    unfold fill
    dsimp only
    rw [hclient]
    split_ifs with hsize <;> simp [hsize, unread]
  | some client =>
    have hread := congrArg List.length (client.drain_incoming
      (s.mReceiveBufferSize - s.mReceiveBuffer.length + 1)
      (s.mReceiveBufferSize - s.mReceiveBuffer.length))
    rw [fill_eq _ hclient]
    exact ⟨rfl, by simpa [unread, hclient] using hread, rfl⟩

end Session

/-! ### What is in the buffer -/

section Buffer

variable (decoder : Decoder)

/-- The decoder wants more. -/
def Incomplete (b : List UInt8) : Prop := b.length < 4 ∨ decoder.decode b = .wmore

/-- What is left when the messages at the front were taken; none of them is an end. -/
inductive Decodes : List UInt8 → List UInt8 → Prop
  | refl (b : List UInt8) : Decodes b b
  | message {b tail : List UInt8} {pdu : UlpPdu} {consumed : ℕ} (length : 4 ≤ b.length)
      (decode : decoder.decode b = .ok pdu consumed) (goesOn : pdu.decodeEnd = none)
      (rest : Decodes (b.drop consumed) tail) : Decodes b tail

/-- The loop stops with `b'` in the buffer: the front is incomplete, or it is refused. -/
def Stops (b b' : List UInt8) : Prop :=
  ∃ tail, Decodes decoder b tail ∧
    ((Incomplete decoder tail ∧ b' = tail) ∨
      ∃ consumed, 4 ≤ tail.length ∧ decoder.decode tail = .fail consumed ∧
        b' = tail.drop consumed)

/-- Although the buffer starts with no incomplete message, there is a complete one in it. -/
def Blocked (b : List UInt8) : Prop :=
  4 ≤ b.length ∧
    match decoder.decode b with
    | .ok _ _ => True
    | .wmore => False
    | .fail _ => ∃ bad good pdu consumed, b = bad ++ good ∧ 4 ≤ good.length ∧
        decoder.decode good = .ok pdu consumed

variable {decoder}

theorem Decodes.length_le {b tail : List UInt8} (h : Decodes decoder b tail) :
    tail = b ∨ tail.length < b.length := by
  induction h with
  | refl b => exact Or.inl rfl
  | message length decode goesOn rest ih =>
    have hpos := decoder.consumed_pos _ _ _ decode
    right
    rcases ih with rfl | hlt
    · rw [List.length_drop]
      omega
    · rw [List.length_drop] at hlt
      omega

theorem Stops.message {b b' : List UInt8} {pdu : UlpPdu} {consumed : ℕ} (length : 4 ≤ b.length)
    (decode : decoder.decode b = .ok pdu consumed) (goesOn : pdu.decodeEnd = none)
    (h : Stops decoder (b.drop consumed) b') : Stops decoder b b' := by
  obtain ⟨tail, hrest, hstop⟩ := h
  exact ⟨tail, .message length decode goesOn hrest, hstop⟩

end Buffer

/-! ### `try_receive` -/

section TryReceive

variable {decoder : Decoder}

/-- A message gets an answer, and an end is the end. -/
theorem parseMessage_answer (s : Session) (pdu : UlpPdu) :
    (s.parseMessage pdu false true).2 ≠ .noData ∧
      (pdu.decodeEnd ≠ none → (s.parseMessage pdu false true).2 = .endSession ∨
        (s.parseMessage pdu false true).2 = .invalidSession) := by
  unfold Session.parseMessage
  simp only [Bool.false_eq_true, if_false, if_true]
  cases hend : pdu.decodeEnd with
  | some ids =>
    dsimp only
    split_ifs <;> simp
  | none =>
    refine ⟨?_, fun h => absurd rfl h⟩
    cases pdu.decodePos with
    | none => simp
    | some m =>
      dsimp only
      split_ifs <;> simp

/-- What `try_receive` does with the buffer: nothing is found and it stops, a message that is
no end is found, or the session ends. -/
inductive Tries (decoder : Decoder) (s : Session) : Session × Received → Prop
  | stops {s' : Session} (connected : s.isConnected = true)
      (stops : Stops decoder s.mReceiveBuffer s'.mReceiveBuffer)
      (unread : s'.unread = s.unread) : Tries decoder s (s', .noData)
  | message {s' : Session} {received : Received} {pdu : UlpPdu} {consumed : ℕ}
      (connected : s.isConnected = true) (length : 4 ≤ s.mReceiveBuffer.length)
      (decode : decoder.decode s.mReceiveBuffer = .ok pdu consumed)
      (noEnd : pdu.decodeEnd = none)
      (buffer : s'.mReceiveBuffer = s.mReceiveBuffer.drop consumed)
      (unread : s'.unread = s.unread) (answer : received ≠ .noData) : Tries decoder s (s', received)
  | ends {s' : Session} {received : Received}
      (answer : received = .endSession ∨ received = .sessionTerminated ∨
        received = .invalidSession) : Tries decoder s (s', received)

theorem tryReceive_ok {s : Session} {pdu : UlpPdu} {consumed : ℕ} (hc : s.isConnected = true)
    (hlen : ¬s.mReceiveBuffer.length < 4)
    (hd : decoder.decode s.mReceiveBuffer = .ok pdu consumed) :
    s.tryReceive decoder false true =
      Session.parseMessage { s with
        mReceiveBuffer := s.mReceiveBuffer.drop consumed
        handed := s.handed ++ [pdu] } pdu false true := by
  simp only [Session.tryReceive, Session.parseReceiveBuffer, hc, hd, hlen, Session.rbConsume_eq,
    Bool.not_true, Bool.false_eq_true, if_false]

variable (decoder) in
theorem tryReceive_tries (s : Session) :
    Tries decoder s (s.tryReceive decoder false true) := by
  by_cases hc : s.isConnected = true
  · by_cases hlen : s.mReceiveBuffer.length < 4
    · have heq : s.tryReceive decoder false true = (s, .noData) := by
        simp [Session.tryReceive, Session.parseReceiveBuffer, hc, hlen]
      rw [heq]
      exact .stops hc ⟨_, .refl _, Or.inl ⟨Or.inl hlen, rfl⟩⟩ rfl
    · cases hd : decoder.decode s.mReceiveBuffer with
      | wmore =>
        have heq : s.tryReceive decoder false true = (s, .noData) := by
          simp [Session.tryReceive, Session.parseReceiveBuffer, hc, hlen, hd]
        rw [heq]
        exact .stops hc ⟨_, .refl _, Or.inl ⟨Or.inr hd, rfl⟩⟩ rfl
      | fail consumed =>
        have heq : s.tryReceive decoder false true =
            ({ s with mReceiveBuffer := s.mReceiveBuffer.drop consumed }, .noData) := by
          simp [Session.tryReceive, Session.parseReceiveBuffer, hc, hlen, hd,
            Session.rbConsume_eq]
        rw [heq]
        exact .stops hc ⟨_, .refl _, Or.inr ⟨consumed, not_lt.1 hlen, hd, rfl⟩⟩ rfl
      | ok pdu consumed =>
        rw [tryReceive_ok hc hlen hd]
        generalize ht : ({ s with
          mReceiveBuffer := s.mReceiveBuffer.drop consumed
          handed := s.handed ++ [pdu] } : Session) = t
        obtain ⟨hanswer, hend⟩ := parseMessage_answer t pdu
        obtain ⟨slp, hsession⟩ := t.parseMessage_fst pdu false true
        generalize t.parseMessage pdu false true = r at hanswer hend hsession ⊢
        obtain ⟨s', received⟩ := r
        obtain rfl : s' = _ := hsession
        by_cases hnone : pdu.decodeEnd = none
        · exact .message hc (not_lt.1 hlen) hd hnone (by rw [← ht]) (by rw [← ht]; rfl) hanswer
        · rcases hend hnone with h | h
          · exact .ends (Or.inl h)
          · exact .ends (Or.inr (Or.inr h))
  · have heq : s.tryReceive decoder false true = (s, .sessionTerminated) := by
      simp [Session.tryReceive, hc]
    rw [heq]
    exact .ends (Or.inr (Or.inl rfl))

end TryReceive

/-! ### Calls leave the buffer alone -/

section Calls

variable {decoder : Decoder} {codec : Codec β}

/-- The SUPL session, if it is still there, has the same bytes in its buffer and to come. -/
def Untouched (s s' : Option Session) : Prop :=
  ∀ t' ∈ s', ∃ t ∈ s, t'.mReceiveBuffer = t.mReceiveBuffer ∧ t'.unread = t.unread

theorem Untouched.of_eq {s s' : Option Session} (h : s' = s) : Untouched s s' := by
  subst h
  exact fun t ht => ⟨t, ht, rfl, rfl⟩

theorem Untouched.trans {s₁ s₂ s₃ : Option Session} (h₁ : Untouched s₁ s₂)
    (h₂ : Untouched s₂ s₃) : Untouched s₁ s₃ := by
  intro t₃ ht₃
  obtain ⟨t₂, ht₂, hbuffer, hunread⟩ := h₂ t₃ ht₃
  obtain ⟨t₁, ht₁, hbuffer', hunread'⟩ := h₁ t₂ ht₂
  exact ⟨t₁, ht₁, hbuffer.trans hbuffer', hunread.trans hunread'⟩

theorem send_unread (s : Session) : s.send.1.unread = s.unread := by
  unfold Session.send Session.unread
  cases hclient : s.mTcpClient with
  | none => simp [hclient]
  | some client =>
    dsimp only
    split_ifs
    · simp [hclient]
    · rfl

theorem disconnect_unread (s : Session) : s.disconnect.unread = s.unread := by
  unfold Session.disconnect Session.unread
  cases hclient : s.mTcpClient with
  | none => simp [hclient]
  | some client => rfl

variable (decoder codec) in
theorem send_untouched (s : Endpoint Session) (handle : TransactionHandle)
    (message : Message β) :
    Untouched s.mSession
      (s.send (Session.api decoder).toSupl codec handle message).1.mSession := by
  rcases Endpoint.send_mSession (Session.api decoder) codec s handle message with
    h | ⟨session, pos, hs, ⟨-, h⟩ | ⟨-, h⟩⟩
  · exact .of_eq h
  · rw [h, hs]
    rintro t ⟨⟩
    exact ⟨session, rfl, Session.send_buffer session, send_unread session⟩
  · rw [h, hs]
    rintro t ⟨⟩
    exact ⟨session, rfl,
      (Session.disconnect_buffer _).trans (Session.send_buffer session),
      (disconnect_unread _).trans (send_unread session)⟩

variable (decoder codec) in
theorem sendWithEnd_untouched (s : Endpoint Session) (handle : TransactionHandle)
    (message : Message β) :
    Untouched s.mSession
      (s.sendWithEnd (Session.api decoder).toSupl codec handle message).1.mSession := by
  unfold Endpoint.sendWithEnd
  cases hd : s.findTransaction handle with
  | none => exact .of_eq rfl
  | some d => exact send_untouched decoder codec (s.asking handle d) handle message

variable (decoder codec) in
theorem call_untouched (w : World Session β) (c : Call β) :
    Untouched w.mSession (w.call (Session.api decoder) codec c).1.mSession := by
  cases c with
  | createTransaction sse => exact .of_eq rfl
  | deleteTransaction handle => exact .of_eq rfl
  | send handle message => exact send_untouched decoder codec w.toEndpoint handle message
  | sendWithEnd handle message =>
    exact sendWithEnd_untouched decoder codec w.toEndpoint handle message
  | abort handle => exact sendWithEnd_untouched decoder codec w.toEndpoint handle _
  | cancel =>
    show Untouched w.mSession w.cancel.1.mSession
    by_cases hw : w.mScheduler = true
    · rw [World.cancel_eq hw]
      intro t ht
      cases ht
    · unfold World.cancel
      rw [if_neg hw]
      exact .of_eq rfl

variable (decoder codec) in
theorem callback_untouched (w : World Session β) :
    Untouched w.mSession (w.callback (Session.api decoder) codec).1.mSession := by
  unfold World.callback
  cases w.callbacks with
  | nil => exact .of_eq rfl
  | cons calls callbacks =>
    show Untouched w.mSession _
    have hcalls : ∀ v : World Session β, Untouched v.mSession
        (Mealy.run (World.call (Session.api decoder) codec) v calls).1.mSession := by
      induction calls with
      | nil => exact fun v => .of_eq rfl
      | cons c cs ih => exact fun v => (call_untouched decoder codec v c).trans (ih _)
    exact hcalls { w with callbacks := callbacks }

variable (decoder codec) in
/-- Processing a message leaves the buffer alone, and stops only without a SUPL session. -/
theorem processSuplPos_untouched (w : World Session β) (payloads : List Payload) :
    Untouched w.mSession (w.processSuplPos (Session.api decoder) codec payloads).1.mSession ∧
      ((w.processSuplPos (Session.api decoder) codec payloads).2.2 = false →
        (w.processSuplPos (Session.api decoder) codec payloads).1.mSession = none) := by
  have hpayload : ∀ (v : World Session β) (payload : Payload),
      Untouched v.mSession
          (v.processLppPayload (Session.api decoder) codec payload).1.mSession ∧
        ((v.processLppPayload (Session.api decoder) codec payload).2.2 = false →
          (v.processLppPayload (Session.api decoder) codec payload).1.mSession = none) := by
    intro v payload
    unfold World.processLppPayload
    cases hs : v.mSession with
    | none =>
      dsimp only
      rw [hs]
      exact ⟨.of_eq rfl, fun _ => rfl⟩
    | some session =>
      have hreceive := (Endpoint.receive_mSession v.toEndpoint
        (codec.decode payload.data)).trans hs
      dsimp only
      cases (v.toEndpoint.receive (codec.decode payload.data)).2.2 with
      | none => exact ⟨.of_eq hreceive, fun h => by cases h⟩
      | some frame =>
        have hcallback := callback_untouched decoder codec
          (v.onEndpoint ((v.toEndpoint.receive (codec.decode payload.data)).1,
            (v.toEndpoint.receive (codec.decode payload.data)).2.1)).1
        refine ⟨.trans (.of_eq hreceive) (hcallback.trans (.of_eq ?_)), fun h => by cases h⟩
        exact Endpoint.returned_mSession _ _
  induction payloads generalizing w with
  | nil => exact ⟨.of_eq rfl, fun h => by cases h⟩
  | cons payload payloads ih =>
    unfold World.processSuplPos
    cases payload.type with
    | lpp =>
      dsimp only
      obtain ⟨hkept, hstop⟩ := hpayload w payload
      split_ifs with hr
      · obtain ⟨hkept', hstop'⟩ := ih (w.processLppPayload (Session.api decoder) codec payload).1
        exact ⟨hkept.trans hkept', hstop'⟩
      · exact ⟨hkept, fun h => hstop h⟩
    | nothing | tia801 | rrc | rrlp => exact ih w

end Calls

/-! ### The receive loop -/

section Loop

variable {decoder : Decoder} {codec : Codec β}

/-- How the receive loop ends in the world `w'`: it waits for more, the session ends, or there
is no SUPL session any more. -/
def LoopEnd (decoder : Decoder) (s : Session) (w' : World Session β)
    (answer : Option NextState) : Prop :=
  (answer = some World.awaitMessage ∧
      ∀ s' ∈ w'.mSession, Stops decoder s.mReceiveBuffer s'.mReceiveBuffer ∧
        s'.unread = s.unread) ∨
    answer = some (NextState.make.next .disconnected) ∨
    (answer = none ∧ w'.mSession = none)

theorem LoopEnd.message {s s' : Session} {w' : World Session β} {answer : Option NextState}
    {pdu : UlpPdu} {consumed : ℕ} (length : 4 ≤ s.mReceiveBuffer.length)
    (decode : decoder.decode s.mReceiveBuffer = .ok pdu consumed) (noEnd : pdu.decodeEnd = none)
    (buffer : s'.mReceiveBuffer = s.mReceiveBuffer.drop consumed)
    (unread : s'.unread = s.unread) (h : LoopEnd decoder s' w' answer) :
    LoopEnd decoder s w' answer := by
  rcases h with ⟨ha, hstops⟩ | h
  · refine Or.inl ⟨ha, fun t ht => ?_⟩
    obtain ⟨hstop, hunread⟩ := hstops t ht
    exact ⟨.message length decode noEnd (buffer ▸ hstop), hunread.trans unread⟩
  · exact Or.inr h

variable (decoder codec) in
/-- The loop with enough fuel ends, and with `Stops` when it waits for more. -/
theorem receiveLoop_end (fuel : ℕ) {w : World Session β} {s : Session}
    (hs : w.mSession = some s) (hfuel : s.mReceiveBuffer.length < fuel) :
    LoopEnd decoder s (w.receiveLoop (Session.api decoder) codec fuel).1
        (w.receiveLoop (Session.api decoder) codec fuel).2.2 ∧
      ((w.receiveLoop (Session.api decoder) codec fuel).2.2 = some World.awaitMessage →
        s.isConnected = true) := by
  induction fuel generalizing w s with
  | zero => omega
  | succ fuel ih =>
    simp only [World.receiveLoop, hs]
    have htry : Tries decoder s ((Session.api decoder).tryReceive s) :=
      tryReceive_tries decoder s
    generalize (Session.api decoder).tryReceive s = r at htry ⊢
    cases htry with
    | stops hc hstops hunread =>
      refine ⟨Or.inl ⟨rfl, ?_⟩, fun _ => hc⟩
      rintro t ⟨⟩
      exact ⟨hstops, hunread⟩
    | ends h =>
      have hne : some (NextState.make.next .disconnected) ≠ some World.awaitMessage := by decide
      rcases h with rfl | rfl | rfl <;> exact ⟨Or.inr (Or.inl rfl), fun h => absurd h hne⟩
    | @message s' received pdu consumed hc hlen hd hnoEnd hbuffer hunread hanswer =>
      have hpos := decoder.consumed_pos _ _ _ hd
      have hlt : s'.mReceiveBuffer.length < fuel := by
        rw [hbuffer, List.length_drop]
        omega
      refine ⟨.message hlen hd hnoEnd hbuffer hunread ?_, fun _ => hc⟩
      cases received with
      | noData => exact absurd rfl hanswer
      | endSession | sessionTerminated | invalidSession => exact Or.inr (Or.inl rfl)
      | unknown | unableToDecode | response => exact (ih rfl hlt).1
      | pos pos =>
        obtain ⟨hkept, hstop⟩ := processSuplPos_untouched decoder codec
          { w with mSession := some s' } pos.payloads
        dsimp only
        split_ifs with hp
        · cases hsession : (World.processSuplPos (Session.api decoder) codec
              { w with mSession := some s' } pos.payloads).1.mSession with
          | none =>
            -- a callback has cancelled the session
            refine Or.inr (Or.inr ?_)
            cases fuel with
            | zero => exact ⟨rfl, hsession⟩
            | succ fuel =>
              simp only [World.receiveLoop, hsession]
              exact ⟨rfl, hsession⟩
          | some t =>
            obtain ⟨_, ⟨⟩, htbuffer, htunread⟩ := hkept t hsession
            have hend := (ih hsession (by rw [htbuffer]; exact hlt)).1
            rcases hend with ⟨ha, hstops⟩ | hend
            · refine Or.inl ⟨ha, fun u hu => ?_⟩
              obtain ⟨hustop, huunread⟩ := hstops u hu
              exact ⟨htbuffer ▸ hustop, huunread.trans htunread⟩
            · exact Or.inr hend
        · exact Or.inr (Or.inr ⟨rfl, hstop (by simpa using hp)⟩)

end Loop

/-! ### Wake-ups -/

section WakeUp

variable (decoder : Decoder) {codec : Codec β}

/-- The event wakes up the receive loop of an established session. -/
def WakesUp (w : World Session β) : World.Op Session β → Prop
  | .event triggered _ =>
    triggered.read = true ∧ w.delivers triggered = true ∧ w.mNextReadState = .message
  | _ => False

/-- The session has come to its end, or its SUPL session is gone. -/
def Ended (w : World Session β) : Prop :=
  w.mState = .disconnected ∨ w.mState = .exit ∨ w.mSession = none

/-- Between `w` and `w'` a byte was taken from the connection or removed from the buffer, or the
session ended. -/
def Progress (w w' : World Session β) : Prop :=
  Ended w' ∨ ∃ s s', w.mSession = some s ∧ w'.mSession = some s' ∧
    (s'.unread < s.unread ∨ s'.mReceiveBuffer.length < s.mReceiveBuffer.length)

/-- No complete message is left in the buffer to wait for more bytes. -/
def Unblocked (w : World Session β) : Prop :=
  Ended w ∨ ∀ s ∈ w.mSession, ¬Blocked decoder s.mReceiveBuffer

/-- The buffer is full, or there is nothing to read, and the decoder takes no byte of it. -/
def Stuck (s : Session) : Prop :=
  s.isConnected = true ∧ s.brings = ([], true) ∧
    (Incomplete decoder s.mReceiveBuffer ∨ decoder.decode s.mReceiveBuffer = .fail 0)

/-- After messages that are no end, the bytes that the wake-up decodes hold one that is refused
and a complete one behind it. -/
def Buries (s : Session) : Prop :=
  ∃ tail consumed, Decodes decoder (s.mReceiveBuffer ++ s.brings.1) tail ∧ 4 ≤ tail.length ∧
    decoder.decode tail = .fail consumed ∧ Blocked decoder (tail.drop consumed)

variable {decoder}

variable (decoder codec) in
/-- The session that is disconnected ends. -/
theorem process_disconnected {w : World Session β} (hw : w.mState = .disconnected) (fuel : ℕ) :
    (w.process (Session.api decoder) codec (fuel + 2)).1.mState = .exit := by
  have hexit : ∀ v : World Session β, v.mState = .exit →
      (v.process (Session.api decoder) codec (fuel + 1)).1.mState = .exit := by
    intro v hv
    unfold World.process
    rw [if_pos hv]
    split_ifs <;> exact hv
  have hstate : w.state (Session.api decoder) codec =
      w.stateDisconnected (Session.api decoder) codec := by
    unfold World.state
    rw [hw]
  unfold World.process
  rw [if_neg (by rw [hw]; decide), hstate]
  exact hexit _ rfl

variable (decoder) in
/-- The wait of a session whose connection is there. -/
theorem wait_defer {w : World Session β} {s : Session} (hs : w.mSession = some s)
    (hkeep : ¬((!w.mScheduler) = true ∨ (Session.api decoder).fd s < 0 ∨
      (Session.api decoder).isDisconnected s = true)) (n : NextState) :
    (w.wait (Session.api decoder) n).1 =
      (w.awaiting n).defer (n.update ((Session.api decoder).fd s)) := by
  unfold World.wait
  rw [hs]
  dsimp only
  rw [if_neg hkeep]

variable (decoder codec) in
/-- How the round of a wake-up ends. -/
theorem process_message {w : World Session β} {s : Session} (hw : w.mState = .message)
    (hs : w.mSession = some s) (fuel : ℕ) :
    Ended (w.process (Session.api decoder) codec (fuel + 3)).1 ∨
      ∃ s', (w.process (Session.api decoder) codec (fuel + 3)).1.mSession = some s' ∧
        s.isConnected = true ∧ s'.unread + s.brings.1.length = s.unread ∧ s.brings.2 = true ∧
        Stops decoder (s.mReceiveBuffer ++ s.brings.1) s'.mReceiveBuffer := by
  obtain ⟨hbuffer, hunread, hholds⟩ := s.fillReceiveBuffer_spec
  have hstate : w.state (Session.api decoder) codec =
      w.stateMessage (Session.api decoder) codec := by
    unfold World.state
    rw [hw]
  -- a state that goes on to `disconnected` ends the session
  have hdisconnect : ∀ v : World Session β, Ended
      ((v.switchState .disconnected).process (Session.api decoder) codec (fuel + 2)).1 :=
    fun v => Or.inr (Or.inl (process_disconnected decoder codec rfl fuel))
  unfold World.process
  rw [if_neg (by rw [hw]; decide), hstate]
  unfold World.stateMessage
  simp only [hs]
  have hread : (Session.api decoder).fillReceiveBuffer s = s.fillReceiveBuffer := rfl
  simp only [hread]
  cases hok : s.fillReceiveBuffer.2 with
  | false => exact Or.inl (hdisconnect _)
  | true =>
    obtain ⟨hend, hconnected⟩ := receiveLoop_end decoder codec
      ((Session.api decoder).buffered s.fillReceiveBuffer.1 + 1)
      (w := { w with mSession := some s.fillReceiveBuffer.1 }) rfl (Nat.lt_succ_self _)
    simp only [if_true]
    generalize World.receiveLoop (Session.api decoder) codec _ _ = r at hend hconnected ⊢
    obtain ⟨v, out, answer⟩ := r
    rcases hend with ⟨rfl, hstops⟩ | rfl | ⟨rfl, hnone⟩
    · -- the loop waits for more
      dsimp only
      unfold World.wait
      rw [show World.awaitMessage.schedule = true from rfl, if_pos rfl]
      cases hv : v.mSession with
      | none => exact Or.inl (Or.inr (Or.inr hv))
      | some s' =>
        obtain ⟨hstop, hrest⟩ := hstops s' hv
        by_cases hgone : (!v.mScheduler) = true ∨ (Session.api decoder).fd s' < 0 ∨
            (Session.api decoder).isDisconnected s' = true
        · simp only [hgone, if_true]
          exact Or.inl (Or.inl rfl)
        · simp only [hgone, if_false]
          refine Or.inr ⟨s', hv, ?_, ?_, hholds ▸ hok, hbuffer ▸ hstop⟩
          · rw [← (Session.fillReceiveBuffer_kept s).2]
            exact hconnected rfl
          · omega
    · exact Or.inl (hdisconnect _)
    · exact Or.inl (Or.inr (Or.inr hnone))

/-- Twice the bytes to come and those in the buffer: a byte that is read counts less. -/
def cost (w : World Session β) : ℕ :=
  w.mSession.elim 0 fun s => 2 * s.unread + s.mReceiveBuffer.length

variable (codec) in
/-- A wake-up that is not stuck reads or decodes a byte, and leaves no message behind when it
buries none. -/
theorem wakeUp_spec {w : World Session β} {op : World.Op Session β} (hop : WakesUp w op)
    (hstuck : ∀ s ∈ w.mSession, ¬Stuck decoder s) (hburies : ∀ s ∈ w.mSession, ¬Buries decoder s) :
    Ended (w.step (Session.api decoder) codec op).1 ∨
      ∃ s s' read, w.mSession = some s ∧
        (w.step (Session.api decoder) codec op).1.mSession = some s' ∧
        s'.unread + read = s.unread ∧
        s'.mReceiveBuffer.length ≤ s.mReceiveBuffer.length + read ∧
        (0 < read ∨ s'.mReceiveBuffer.length < s.mReceiveBuffer.length) ∧
        ¬Blocked decoder s'.mReceiveBuffer := by
  cases op with
  | start | deferred | call => exact absurd hop id
  | event triggered callbacks =>
    obtain ⟨hread, hdelivers, hnext⟩ := hop
    have hstep : (w.step (Session.api decoder) codec (.event triggered callbacks)).1 =
        ((({ w with callbacks := callbacks } : World Session β).switchState .message).process
          (Session.api decoder) codec (13 + 3)).1 := by
      simp only [World.step, hdelivers, if_true, World.event, hread, hnext, World.rounds]
    rw [hstep]
    cases hs : w.mSession with
    | none =>
      -- the assertion on the SUPL session stops the program
      refine Or.inl (Or.inr (Or.inr ?_))
      simp [World.process, World.state, World.switchState, World.stateMessage,
        World.nullSession, hs]
    | some s =>
      rcases process_message decoder codec
          (w := ({ w with callbacks := callbacks } : World Session β).switchState .message) rfl hs
          13 with hended | ⟨s', hs', hconnected, hunread, hholds, tail, hdecodes, hstop⟩
      · exact Or.inl hended
      · have hbuffer : s'.mReceiveBuffer.length ≤ tail.length := by
          rcases hstop with ⟨-, htail⟩ | ⟨consumed, -, -, htail⟩
          · rw [htail]
          · rw [htail, List.length_drop]
            omega
        have htail : tail.length ≤ s.mReceiveBuffer.length + s.brings.1.length := by
          rw [← List.length_append]
          rcases hdecodes.length_le with rfl | hlt
          · exact le_rfl
          · exact hlt.le
        refine Or.inr ⟨s, s', s.brings.1.length, rfl, hs', hunread, hbuffer.trans htail, ?_, ?_⟩
        · by_cases hread' : s.brings.1 = []
          · -- nothing was read: the decoder must have taken something
            rw [hread', List.append_nil] at hdecodes
            have hnot := hstuck s hs
            have hbrings : s.brings = ([], true) := Prod.ext hread' hholds
            right
            rcases hdecodes.length_le with rfl | hlt
            · rcases hstop with ⟨hincomplete, -⟩ | ⟨consumed, hlen, hfail, htail⟩
              · exact absurd ⟨hconnected, hbrings, Or.inl hincomplete⟩ hnot
              · cases consumed with
                | zero => exact absurd ⟨hconnected, hbrings, Or.inr hfail⟩ hnot
                | succ consumed =>
                  rw [htail, List.length_drop]
                  omega
            · exact hbuffer.trans_lt hlt
          · exact Or.inl (List.length_pos_iff.2 hread')
        · intro hblocked
          rcases hstop with ⟨hincomplete, htail⟩ | ⟨consumed, hlen, hfail, htail⟩
          · rw [htail] at hblocked
            obtain ⟨hlen, hb⟩ := hblocked
            rcases hincomplete with hshort | hmore
            · omega
            · rw [hmore] at hb
              exact hb
          · exact hburies s hs ⟨tail, consumed, hdecodes, hlen, hfail, htail ▸ hblocked⟩

variable (codec) in
/-- **One wake-up.**  A wake-up that is not stuck and buries no message makes progress, lowers
the cost and leaves no message behind. -/
theorem wakeUp_progress {w : World Session β} {op : World.Op Session β} (hop : WakesUp w op)
    (hclean : ∀ s ∈ w.mSession, ¬Stuck decoder s ∧ ¬Buries decoder s) :
    Progress w (w.step (Session.api decoder) codec op).1 ∧
      Unblocked decoder (w.step (Session.api decoder) codec op).1 ∧
      (Ended (w.step (Session.api decoder) codec op).1 ∨
        cost (w.step (Session.api decoder) codec op).1 < cost w) := by
  rcases wakeUp_spec codec hop (fun s hs => (hclean s hs).1) (fun s hs => (hclean s hs).2) with
    hended | ⟨s, s', read, hs, hs', hunread, hbuffer, hread, hblocked⟩
  · exact ⟨Or.inl hended, Or.inl hended, Or.inl hended⟩
  · refine ⟨Or.inr ⟨s, s', hs, hs', ?_⟩, Or.inr ?_, Or.inr ?_⟩
    · rcases hread with hread | hread
      · left
        omega
      · exact Or.inr hread
    · rw [hs']
      rintro t ⟨⟩
      exact hblocked
    · simp only [cost, hs, hs', Option.elim_some]
      omega

end WakeUp

/-! ### Runs -/

section Run

variable {decoder : Decoder} {codec : Codec β}

/-- A step between two starts of the session: a wake-up after which it goes on, a deferred
update, or a call. -/
def GoesOn (decoder : Decoder) (codec : Codec β) (w : World Session β) :
    World.Op Session β → Prop
  | .start _ _ => False
  | .event triggered callbacks =>
    WakesUp w (.event triggered callbacks) ∧
      ¬Ended (w.step (Session.api decoder) codec (.event triggered callbacks)).1
  | .deferred _ => True
  | .call _ => True

def isEvent : World.Op Session β → Bool
  | .event _ _ => true
  | _ => false

/-- The inputs of a wake-up are neither stuck nor bury a message. -/
def Clean (decoder : Decoder) (w : World Session β) (op : World.Op Session β) : Prop :=
  WakesUp w op → ∀ s ∈ w.mSession, ¬Stuck decoder s ∧ ¬Buries decoder s

theorem Untouched.cost_le {w w' : World Session β} (h : Untouched w.mSession w'.mSession) :
    cost w' ≤ cost w := by
  unfold cost
  cases hs' : w'.mSession with
  | none => exact Nat.zero_le _
  | some s' =>
    obtain ⟨s, hs, hbuffer, hunread⟩ := h s' hs'
    rw [Option.mem_def] at hs
    simp only [hs, Option.elim_some, hbuffer, hunread, le_refl]

/-- Every wake-up is paid for. -/
theorem wakeUps_le {w : World Session β} {out out' : List (Occurrence β)}
    {ops : List (World.Op Session β)}
    (hgoes : Mealy.Along (fun w _ op => GoesOn decoder codec w op)
      (World.step (Session.api decoder) codec) w out ops)
    (hclean : Mealy.Along (fun w _ op => Clean decoder w op)
      (World.step (Session.api decoder) codec) w out' ops) :
    ops.countP isEvent ≤ cost w := by
  induction ops generalizing w out out' with
  | nil => exact Nat.zero_le _
  | cons op ops ih =>
    obtain ⟨hop, hgoes⟩ := hgoes
    obtain ⟨hc, hclean⟩ := hclean
    have hrest := ih hgoes hclean
    cases op with
    | start => exact absurd hop id
    | event triggered callbacks =>
      obtain ⟨hwakes, hnot⟩ := hop
      obtain ⟨-, -, hended | hlt⟩ := wakeUp_progress codec hwakes (hc hwakes)
      · exact absurd hended hnot
      · rw [List.countP_cons_of_pos rfl]
        omega
    | deferred registers =>
      have hle : cost (w.step (Session.api decoder) codec (.deferred registers)).1 ≤ cost w := by
        refine Untouched.cost_le (.of_eq ?_)
        unfold World.step World.runDeferred
        dsimp only
        split <;> rfl
      rw [List.countP_cons_of_neg (by simp [isEvent])]
      exact hrest.trans hle
    | call c =>
      rw [List.countP_cons_of_neg (by simp [isEvent])]
      exact hrest.trans (call_untouched decoder codec w c).cost_le

end Run

/-- **Progress of the receive loop.**  In a run whose wake-ups are neither stuck nor bury a
message, every wake-up takes a byte from the connection, removes one from the buffer or ends
the session, and leaves no complete message behind; and while the session goes on, there are
no more wake-ups than its bytes pay for. -/
theorem wakeUps_progress (decoder : Decoder) (codec : Codec β) (w : World Session β)
    (ops : List (World.Op Session β))
    (hclean : Mealy.Along (fun w _ op => Clean decoder w op)
      (World.step (Session.api decoder) codec) w [] ops) :
    Mealy.Along (fun w _ op => WakesUp w op →
        Progress w (w.step (Session.api decoder) codec op).1 ∧
          Unblocked decoder (w.step (Session.api decoder) codec op).1)
      (World.step (Session.api decoder) codec) w [] ops ∧
    ∀ before during, before ++ during = ops →
      Mealy.Along (fun w _ op => GoesOn decoder codec w op)
        (World.step (Session.api decoder) codec)
        (Mealy.run (World.step (Session.api decoder) codec) w before).1 [] during →
      during.countP isEvent ≤
        cost (Mealy.run (World.step (Session.api decoder) codec) w before).1 := by
  constructor
  · refine hclean.mono fun v out op hop hwakes => ?_
    obtain ⟨hprogress, hunblocked, -⟩ := wakeUp_progress codec hwakes (hop hwakes)
    exact ⟨hprogress, hunblocked⟩
  · rintro before during rfl hgoes
    exact wakeUps_le hgoes (Mealy.along_append.1 hclean).2

/-! ### A message that is refused, and one that is not -/

/-- The messages of one session. -/
def pickyPdu (message : UlpMessage) : UlpPdu where
  setSessionID := some ⟨1024, .msisdn [0x21]⟩
  slpSessionID := some ⟨[0, 0, 0, 1], .fQDN [0x73]⟩
  message := message

/-- A decoder that knows a response and an end.  Like the decoder of the program it takes no
byte of what it refuses. -/
def pickyDecode : List UInt8 → Decoded
  | 0 :: 4 :: 0 :: _ :: _ => .ok (pickyPdu (.msSUPLRESPONSE 0)) 4
  | 0 :: 4 :: 1 :: _ :: _ => .ok (pickyPdu .msSUPLEND) 4
  | 0 :: 4 :: _ :: _ :: _ => .fail 0
  | _ => .wmore

def pickyDecoder : Decoder where
  decode := pickyDecode
  consumed_pos := by
    intro buffer pdu consumed h
    unfold pickyDecode at h
    split at h
    · cases h
      decide
    · cases h
      decide
    · cases h
    · cases h

/-- A session that will be sent `incoming`, in the given reads. -/
def pickyFresh (incoming : List UInt8) (reads : List Read) : Session :=
  Session.new (.msisdn 12) ⟨.disconnected, -1, false, some 5, [], [], incoming, reads⟩

/-- The connection is readable. -/
def readable : World.Op Session Unit := .event ⟨true, false, false, false⟩ []

/-- The steps up to the established session: it connects, sends the handshake and is sent the
response. -/
def establishing (fresh : Session) : List (World.Op Session Unit) :=
  World.comingUp fresh ++ [readable, .deferred true]

/-- The session that was sent a response and will be sent an end. -/
def established : World Session Unit :=
  (Mealy.run (World.step (Session.api pickyDecoder) Codec.ideal)
    (World.new (pickyFresh [0, 4, 0, 0, 0, 4, 1, 0] [.ok 4 false, .ok 4 false]) false)
    (establishing (pickyFresh [0, 4, 0, 0, 0, 4, 1, 0] [.ok 4 false, .ok 4 false]))).1

theorem wakeUps_progress_end :
    Progress established
        (established.step (Session.api pickyDecoder) Codec.ideal readable).1 ∧
      Unblocked pickyDecoder
        (established.step (Session.api pickyDecoder) Codec.ideal readable).1 := by
  have hwakes : WakesUp established readable :=
    ⟨rfl, by decide +kernel, by decide +kernel⟩
  refine (wakeUps_progress pickyDecoder Codec.ideal established [readable] ⟨?_, trivial⟩).1.1 hwakes
  intro _ s hs
  have hbuffer : s.mReceiveBuffer = [] ∧ s.brings = ([0, 4, 1, 0], true) := by
    have h : established.mSession.map (fun s => (s.mReceiveBuffer, s.brings)) =
        some ([], ([0, 4, 1, 0], true)) := by decide +kernel
    rw [Option.mem_def.1 hs] at h
    simpa using h
  obtain ⟨hempty, hbrings⟩ := hbuffer
  constructor
  · rintro ⟨-, h, -⟩
    rw [hbrings] at h
    cases h
  · rintro ⟨tail, consumed, hdecodes, -, hfail, -⟩
    rw [hempty, hbrings, List.nil_append] at hdecodes
    cases hdecodes with
    | refl => cases hfail
    | message length decode noEnd rest =>
      obtain ⟨rfl, rfl⟩ := Decoded.ok.inj decode
      cases noEnd

/-- An end behind four bytes that are refused is not taken. -/
theorem not_unblocked_refused :
    ¬∀ (decoder : Decoder) (codec : Codec Unit) (fresh : Session) (hack : Bool)
      (ops : List (World.Op Session Unit)),
      Mealy.Along (fun w _ op => WakesUp w op →
          Progress w (w.step (Session.api decoder) codec op).1 ∧
            Unblocked decoder (w.step (Session.api decoder) codec op).1)
        (World.step (Session.api decoder) codec) (World.new fresh hack) [] ops := by
  intro hall
  have halong := hall pickyDecoder Codec.ideal
    (pickyFresh [0, 4, 0, 0, 0, 4, 9, 0, 0, 4, 1, 0] [.ok 4 false, .ok 8 false]) false
    (establishing (pickyFresh [0, 4, 0, 0, 0, 4, 9, 0, 0, 4, 1, 0] [.ok 4 false, .ok 8 false]) ++
      [readable])
  obtain ⟨-, hlast, -⟩ := Mealy.along_append.1 halong
  obtain ⟨-, hended | hblocked⟩ := hlast ⟨rfl, by decide +kernel, by decide +kernel⟩
  · rcases hended with h | h | h
    · exact absurd h (by decide +kernel)
    · exact absurd h (by decide +kernel)
    · exact absurd (congrArg Option.isSome h) (by decide +kernel)
  · generalize hw : (World.step (Session.api pickyDecoder) Codec.ideal _ readable).1 = w
      at hblocked
    have hbuffer : w.mSession.map Session.mReceiveBuffer = some [0, 4, 9, 0, 0, 4, 1, 0] := by
      rw [← hw]
      decide +kernel
    obtain ⟨s, hs, hs'⟩ := Option.map_eq_some_iff.1 hbuffer
    refine hblocked s hs ?_
    rw [hs']
    exact ⟨by decide, [0, 4, 9, 0], [0, 4, 1, 0], _, _, rfl, by decide, rfl⟩

/-! ### A full buffer that is never decoded -/

variable (codec : Codec β) in
/-- A stuck wake-up on a full buffer leaves the session as it was, to be woken up again: it
never ends. -/
theorem stuck_again {decoder : Decoder} {w : World Session β} {op : World.Op Session β}
    {s : Session} (hop : WakesUp w op) (hs : w.mSession = some s) (hstuck : Stuck decoder s)
    (hfull : s.mReceiveBufferSize ≤ s.mReceiveBuffer.length) (hsch : w.mScheduler = true)
    (hfd : 0 ≤ s.fd) (hstate : s.mState ≠ .disconnected) :
    (w.step (Session.api decoder) codec op).1.mSession = some s ∧
      ¬Ended (w.step (Session.api decoder) codec op).1 := by
  cases op with
  | start | deferred | call => exact absurd hop id
  | event triggered callbacks =>
    obtain ⟨hread, hdelivers, hnext⟩ := hop
    obtain ⟨hconnected, -, hnothing⟩ := hstuck
    have hfill : (Session.api decoder).fillReceiveBuffer s = (s, true) := by
      show s.fillReceiveBuffer = (s, true)
      unfold Session.fillReceiveBuffer Session.fill
      rw [if_pos (Nat.sub_eq_zero_of_le hfull)]
    have htry : (Session.api decoder).tryReceive s = (s, .noData) := by
      show s.tryReceive decoder false true = (s, .noData)
      by_cases hlen : s.mReceiveBuffer.length < 4
      · simp [Session.tryReceive, Session.parseReceiveBuffer, hconnected, hlen]
      · rcases hnothing with (hshort | hmore) | hfail
        · exact absurd hshort hlen
        · simp [Session.tryReceive, Session.parseReceiveBuffer, hconnected, hlen, hmore]
        · simp [Session.tryReceive, Session.parseReceiveBuffer, hconnected, hlen, hfail,
            Session.rbConsume_eq]
    have hkeep : ¬((!w.mScheduler) = true ∨ (Session.api decoder).fd s < 0 ∨
        (Session.api decoder).isDisconnected s = true) := by
      have hdis : (Session.api decoder).isDisconnected s = false := by
        show decide (s.mState = .disconnected) = false
        exact decide_eq_false hstate
      rw [hsch, hdis]
      rintro (h | h | h)
      · cases h
      · exact absurd hfd (not_le.2 h)
      · cases h
    have hround : (({ w with callbacks := callbacks } : World Session β).switchState
        .message).state (Session.api decoder) codec =
          (({ w with callbacks := callbacks } : World Session β).switchState .message, [],
            some World.awaitMessage) := by
      simp only [World.state, World.switchState, World.stateMessage, hs, hfill, if_true,
        World.receiveLoop, htry]
      rw [← hs]
      rfl
    have hstep : (w.step (Session.api decoder) codec (.event triggered callbacks)).1 =
        ((({ w with callbacks := callbacks } : World Session β).switchState .message).process
          (Session.api decoder) codec (15 + 1)).1 := by
      simp only [World.step, hdelivers, if_true, World.event, hread, hnext, World.rounds]
    rw [hstep]
    unfold World.process
    rw [if_neg (by simp [World.switchState]), hround]
    dsimp only
    rw [show World.awaitMessage.schedule = true from rfl, if_pos rfl]
    have hwait := wait_defer decoder
      (w := ({ w with callbacks := callbacks } : World Session β).switchState .message) hs hkeep
      World.awaitMessage
    simp only [hwait]
    refine ⟨hs, ?_⟩
    rintro (h | h | h)
    · cases h
    · cases h
    · exact absurd (hs.symm.trans h) (by simp)

end SuplLpp.Supl
