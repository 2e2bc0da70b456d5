import SuplLpp.Lpp.Transaction
import SuplLpp.Lib.Mealy

/-!
# Sending and receiving LPP messages

The members of `lpp::Session` that sending and receiving touch, and the functions that do
so.  The SUPL session is a parameter: `Supl σ` is what `lpp::Session` calls of it, on a
state `σ` of any type, so every behaviour of the connection is some `Supl σ`.  `Codec β`
stands for the ASN.1 encoder and decoder.

`on_message` may call the session it is called from.  `process_lpp_payload` is therefore
cut at that call: `receive` does what comes before it and leaves a `Frame`, `returned` does
what comes after it, and any calls may stand between the two (`Endpoint.step`).
-/

namespace SuplLpp.Lpp

inductive PayloadType
  | nothing
  | lpp
  | tia801
  | rrc
  | rrlp
  deriving DecidableEq

structure Payload where
  type : PayloadType
  data : List UInt8
  deriving DecidableEq

structure Pos where
  payloads : List Payload
  deriving DecidableEq

/-- The calls of `lpp::Session` into its SUPL session that sending makes. -/
structure Supl (σ : Type*) where
  send : σ → Pos → σ × Bool
  disconnect : σ → σ

/-- The ASN.1 codec; `encode` answers the empty list when it fails.  `abort` is the body of
an abort message. -/
structure Codec (β : Type*) where
  encode : Message β → List UInt8
  decode : List UInt8 → Option (Message β)
  abort : β

structure Endpoint (σ : Type*) extends Transactions where
  mSession : Option σ
  mPosQueue : List Pos
  mSequenceNumber : ℤ
  mHackServerInitiatedPush : Bool

/-- What `process_lpp_payload` still has to do when `on_message` returns. -/
structure Frame where
  handle : TransactionHandle
  serverEndedTransaction : Bool
  deriving DecidableEq

namespace Endpoint

variable {σ β : Type*}

/-- The state of a session that was just constructed. -/
def new (hack : Bool) : Endpoint σ where
  toTransactions := Transactions.new
  mSession := none
  mPosQueue := []
  mSequenceNumber := 0
  mHackServerInitiatedPush := hack

/-- Runs a function on the transactions. -/
def onTransactions (s : Endpoint σ) (r : Transactions × List (Event β)) :
    Endpoint σ × List (Event β) :=
  ({ s with toTransactions := r.1 }, r.2)

def createTransaction (s : Endpoint σ) (singleSideEndable : Bool) :
    Endpoint σ × List (Event β) :=
  let r := s.toTransactions.createTransaction singleSideEndable
  s.onTransactions (r.1, r.2.1)

def deleteTransaction (s : Endpoint σ) (transaction : TransactionHandle) :
    Endpoint σ × List (Event β) :=
  s.onTransactions (s.toTransactions.deleteTransaction transaction)

variable (supl : Supl σ) (codec : Codec β)

/-- The message with its header, as `send` encodes it. -/
def withHeader (s : Endpoint σ) (handle : TransactionHandle) (transaction : TransactionData)
    (message : Message β) : Message β :=
  { message with
    transactionID := some handle.lookup
    endTransaction := transaction.clientShouldSendEnd
    sequenceNumber := some (s.mSequenceNumber % 255) }

/-- The end of `send`, reached when nothing failed. -/
def endAfterSend (s : Endpoint σ) (handle : TransactionHandle) (transaction : TransactionData) :
    Endpoint σ × List (Event β) :=
  if transaction.clientShouldSendEnd then
    s.onTransactions ((s.toTransactions.setData handle
      { transaction with clientShouldSendEnd := false }).clientEndTransaction handle)
  else (s, [])

def send (s : Endpoint σ) (handle : TransactionHandle) (message : Message β) :
    Endpoint σ × List (Event β) :=
  if message.transactionID.isSome then (s, [])
  else if message.endTransaction then (s, [])
  else if message.sequenceNumber.isSome then (s, [])
  else
    match s.findTransaction handle with
    | none => (s, [])
    | some transaction =>
      if transaction.clientHasSentEnd then (s, [])
      else
        let message := s.withHeader handle transaction message
        let s := { s with mSequenceNumber := s.mSequenceNumber + 1 }
        let lppMessage := codec.encode message
        if lppMessage.length ≤ 0 then (s, [])
        else
          let pos : Pos := ⟨[⟨.lpp, lppMessage⟩]⟩
          match s.mSession with
          | none =>
            let queue := s.mPosQueue ++ [pos]
            let r :=
              if queue.length > 16 then
                ({ s with mPosQueue := [] }, Event.posDropped)
              else ({ s with mPosQueue := queue }, .posQueued handle message)
            let e := r.1.endAfterSend handle transaction
            (e.1, r.2 :: e.2)
          | some session =>
            let r := supl.send session pos
            if r.2 then
              let e := { s with mSession := some r.1 }.endAfterSend handle transaction
              (e.1, .posSent handle message :: e.2)
            else ({ s with mSession := some (supl.disconnect r.1) }, [.posFailed])

/-- The flag `send_with_end` sets. -/
def asking (s : Endpoint σ) (handle : TransactionHandle) (transaction : TransactionData) :
    Endpoint σ :=
  { s with
    toTransactions := s.toTransactions.setData handle
      { transaction with clientShouldSendEnd := true } }

def sendWithEnd (s : Endpoint σ) (handle : TransactionHandle) (message : Message β) :
    Endpoint σ × List (Event β) :=
  match s.findTransaction handle with
  | none => (s, [])
  | some transaction => (s.asking handle transaction).send supl codec handle message

/-- `create_abort`. -/
def createAbort : Message β := ⟨none, false, none, some codec.abort⟩

def abort (s : Endpoint σ) (handle : TransactionHandle) : Endpoint σ × List (Event β) :=
  s.sendWithEnd supl codec handle (createAbort codec)

/-- `process_lpp_payload` on the decoded message, up to and with the call of `on_message`. -/
def receive (s : Endpoint σ) (message : Option (Message β)) :
    Endpoint σ × List (Event β) × Option Frame :=
  match message with
  | none => (s, [], none)
  | some message =>
    match message.transactionID, message.lppMessageBody with
    | none, _ => (s, [], none)
    | some _, none => (s, [], none)
    | some transactionId, some _ =>
      let deliver (s : Endpoint σ) (events : List (Event β)) (transaction : TransactionData) :
          Endpoint σ × List (Event β) × Option Frame :=
        (s,
          events ++
            (if message.endTransaction then [.serverEnded transaction.handle] else []) ++
            [.onMessage transaction.handle message],
          some ⟨transaction.handle, message.endTransaction⟩)
      match s.findByLookup transactionId with
      | some transaction => deliver s [] transaction
      | none =>
        if transactionId.initiator = .targetDevice then
          if !s.mHackServerInitiatedPush then (s, [], none)
          else
            let handle : TransactionHandle := ⟨transactionId.id, 0, .locationServer⟩
            (s, [.onMessage handle message], some ⟨handle, false⟩)
        else
          let r := s.onTransactions (s.toTransactions.openTransaction transactionId.id)
          match r.1.findByLookup transactionId with
          | none => (r.1, r.2, none)
          | some transaction => deliver r.1 r.2 transaction

/-- `process_lpp_payload` after `on_message` has returned. -/
def returned (s : Endpoint σ) (frame : Frame) : Endpoint σ × List (Event β) :=
  if frame.serverEndedTransaction then
    s.onTransactions (s.toTransactions.serverEndTransaction frame.handle)
  else (s, [])

/-! ### The outcomes of `send` -/

/-- The tests `send` makes before it changes anything. -/
def refuses (s : Endpoint σ) (handle : TransactionHandle) (message : Message β) : Bool :=
  message.transactionID.isSome || message.endTransaction || message.sequenceNumber.isSome ||
    match s.findTransaction handle with
    | none => true
    | some transaction => transaction.clientHasSentEnd

/-- The message can be encoded, and the SUPL session, if there is one, takes it. -/
def passes (s : Endpoint σ) (handle : TransactionHandle) (transaction : TransactionData)
    (message : Message β) : Bool :=
  let lppMessage := codec.encode (s.withHeader handle transaction message)
  !lppMessage.isEmpty &&
    match s.mSession with
    | none => true
    | some session => (supl.send session ⟨[⟨.lpp, lppMessage⟩]⟩).2

/-- The event of a message that passes: sent, queued, or dropped with a full queue. -/
def handover (s : Endpoint σ) (handle : TransactionHandle) (transaction : TransactionData)
    (message : Message β) : Event β :=
  match s.mSession with
  | none =>
    if s.mPosQueue.length < 16 then
      .posQueued handle (s.withHeader handle transaction message)
    else .posDropped
  | some _ => .posSent handle (s.withHeader handle transaction message)

variable {s : Endpoint σ} {handle : TransactionHandle} {message : Message β}
  {transaction : TransactionData}

theorem send_of_refuses (h : s.refuses handle message = true) :
    s.send supl codec handle message = (s, []) := by
  simp only [refuses, Bool.or_eq_true] at h
  unfold send
  split_ifs with h1 h2 h3
  · rfl
  · rfl
  · rfl
  · cases hd : s.findTransaction handle with
    | none => rfl
    | some d => simp_all

/-- What `find_transaction` found when `send` did not refuse. -/
theorem find_of_not_refuses (h : s.refuses handle message = false) :
    ∃ transaction, s.findTransaction handle = some transaction ∧
      transaction.clientHasSentEnd = false := by
  cases hd : s.findTransaction handle with
  | none => simp [refuses, hd] at h
  | some d => exact ⟨d, rfl, by simp_all [refuses]⟩

theorem send_of_fails (hd : s.findTransaction handle = some transaction)
    (h : s.refuses handle message = false)
    (hp : s.passes supl codec handle transaction message = false) :
    (s.send supl codec handle message).1.toTransactions = s.toTransactions ∧
      (s.send supl codec handle message).1.mSequenceNumber = s.mSequenceNumber + 1 ∧
      ∀ e ∈ (s.send supl codec handle message).2, e = .posFailed := by
  simp only [refuses, hd, Bool.or_eq_false_iff] at h
  obtain ⟨⟨⟨h1, h2⟩, h3⟩, h4⟩ := h
  simp only [send, h1, h2, h3, hd, h4, Bool.false_eq_true, if_false]
  by_cases he : (codec.encode (s.withHeader handle transaction message)).length ≤ 0
  · simp [he]
  · simp only [he, if_false]
    have hne : (codec.encode (s.withHeader handle transaction message)).isEmpty = false := by
      simpa using he
    cases hs : s.mSession with
    | none => simp [passes, hs, hne] at hp
    | some session =>
      have hsend : (supl.send session
          ⟨[⟨.lpp, codec.encode (s.withHeader handle transaction message)⟩]⟩).2 = false := by
        simpa [passes, hs, hne] using hp
      simp [hsend]

/-- The transactions after a message was handed over: the client's end is recorded if it
was asked for. -/
theorem send_of_passes (hd : s.findTransaction handle = some transaction)
    (h : s.refuses handle message = false)
    (hp : s.passes supl codec handle transaction message = true) :
    (s.send supl codec handle message).1.toTransactions =
        (if transaction.clientShouldSendEnd then
          ((s.toTransactions.setData handle
            { transaction with clientShouldSendEnd := false }).clientEndTransaction
              (β := β) handle).1
        else s.toTransactions) ∧
      (s.send supl codec handle message).1.mSequenceNumber = s.mSequenceNumber + 1 ∧
      (s.send supl codec handle message).2 =
        s.handover handle transaction message ::
          if transaction.clientShouldSendEnd then
            ((s.toTransactions.setData handle
              { transaction with clientShouldSendEnd := false }).clientEndTransaction handle).2
          else [] := by
  simp only [refuses, hd, Bool.or_eq_false_iff] at h
  obtain ⟨⟨⟨h1, h2⟩, h3⟩, h4⟩ := h
  simp only [passes, Bool.and_eq_true, Bool.not_eq_true'] at hp
  obtain ⟨hne, hsend⟩ := hp
  have he : ¬(codec.encode (s.withHeader handle transaction message)).length ≤ 0 := by
    simpa using hne
  have hc : ¬transaction.clientHasSentEnd = true := by simp [h4]
  simp only [send, h1, h2, h3, hd, Bool.false_eq_true, if_false]
  rw [if_neg hc, if_neg he]
  cases hs : s.mSession with
  | none =>
    simp only [handover, hs, List.length_append, List.length_cons, List.length_nil]
    by_cases hfull : s.mPosQueue.length < 16
    · rw [if_neg (by omega), if_pos hfull]
      cases ht : transaction.clientShouldSendEnd <;> simp [endAfterSend, ht, onTransactions]
    · rw [if_pos (by omega), if_neg hfull]
      cases ht : transaction.clientShouldSendEnd <;> simp [endAfterSend, ht, onTransactions]
  | some session =>
    rw [hs] at hsend
    simp only [handover, hs, hsend, if_true]
    cases ht : transaction.clientShouldSendEnd <;> simp [endAfterSend, ht, onTransactions]

/-- What is kept by an event of the SUPL session, by a change of `clientShouldSendEnd` and by
the client's end, if `send` comes to it, is kept by `send`. -/
theorem send_keeps {P : Transactions → List (Event β) → Prop} {out : List (Event β)}
    (h0 : P s.toTransactions out)
    (hwire : ∀ t out e, P t out → e.isPos = true → P t (out ++ [e]))
    (hflag : ∀ t out k d b, P t out → t.findTransaction k = some d →
      P (t.setData k { d with clientShouldSendEnd := b }) out)
    (hend : ∀ d, s.findTransaction handle = some d → d.clientShouldSendEnd = true →
      s.refuses handle message = false → s.passes supl codec handle d message = true →
      ∀ t out, P t out → t.findTransaction handle = some { d with clientShouldSendEnd := false } →
        P (t.clientEndTransaction (β := β) handle).1
          (out ++ (t.clientEndTransaction handle).2)) :
    P (s.send supl codec handle message).1.toTransactions
      (out ++ (s.send supl codec handle message).2) := by
  cases hr : s.refuses handle message with
  | true => simpa [send_of_refuses supl codec hr] using h0
  | false =>
    obtain ⟨d, hd, -⟩ := find_of_not_refuses hr
    cases hp : s.passes supl codec handle d message with
    | false =>
      obtain ⟨ht, -, he⟩ := send_of_fails supl codec hd hr hp
      rw [ht]
      generalize (s.send supl codec handle message).2 = es at he
      induction es using List.reverseRecOn with
      | nil => simpa using h0
      | append_singleton es e ih =>
        rw [← List.append_assoc]
        refine hwire _ _ _ (ih fun x hx => he x (List.mem_append_left _ hx)) ?_
        rw [he e (by simp)]
        rfl
    | true =>
      obtain ⟨ht, -, he⟩ := send_of_passes supl codec hd hr hp
      have hh : P s.toTransactions (out ++ [s.handover handle d message]) :=
        hwire _ _ _ h0 (by unfold handover; split <;> [split_ifs; skip] <;> rfl)
      rw [ht, he]
      split_ifs with hs
      · rw [List.append_cons]
        exact hend d hd hs hr hp _ _ (hflag _ _ _ _ false hh hd) (by simp)
      · exact hh

theorem sendWithEnd_keeps {P : Transactions → List (Event β) → Prop} {out : List (Event β)}
    (h0 : P s.toTransactions out)
    (hwire : ∀ t out e, P t out → e.isPos = true → P t (out ++ [e]))
    (hflag : ∀ t out k d b, P t out → t.findTransaction k = some d →
      P (t.setData k { d with clientShouldSendEnd := b }) out)
    (hend : ∀ d, s.findTransaction handle = some d →
      (s.asking handle d).refuses handle message = false →
      (s.asking handle d).passes supl codec handle { d with clientShouldSendEnd := true }
        message = true →
      ∀ t out, P t out → t.findTransaction handle = some { d with clientShouldSendEnd := false } →
        P (t.clientEndTransaction (β := β) handle).1
          (out ++ (t.clientEndTransaction handle).2)) :
    P (s.sendWithEnd supl codec handle message).1.toTransactions
      (out ++ (s.sendWithEnd supl codec handle message).2) := by
  cases hd : s.findTransaction handle with
  | none => simpa [sendWithEnd, hd] using h0
  | some d =>
    simp only [sendWithEnd, hd]
    refine send_keeps supl codec (s := s.asking handle d) (hflag _ _ _ _ true h0 hd) hwire hflag ?_
    intro d' hd' _ hr hp
    obtain rfl : { d with clientShouldSendEnd := true } = d' := by
      simpa [asking] using hd'
    exact hend d hd hr hp

/-! ### The outcomes of `process_lpp_payload` -/

/-- What is seen of a payload delivered under `handle`. -/
def arrival (handle : TransactionHandle) (message : Message β) : List (Event β) :=
  (if message.endTransaction then [.serverEnded handle] else []) ++ [.onMessage handle message]

/-- `receive` drops the payload, delivers it under a live handle, delivers it under a handle
made up for it (the server-initiated-push hack), or opens a transaction for it. -/
theorem receive_cases (hs : s.toTransactions.Keyed) (message : Option (Message β)) :
    s.receive message = (s, [], none) ∨
    (∃ m d, message = some m ∧ s.findTransaction d.handle = some d ∧
      s.receive message =
        (s, arrival d.handle m, some ⟨d.handle, m.endTransaction⟩)) ∨
    (∃ m handle, s.receive message = (s, [.onMessage handle m], some ⟨handle, false⟩)) ∨
    s.receive message =
      ({ s with toTransactions := s.toTransactions.count s.mTransactionId }, [], none) ∨
    (∃ m id, message = some m ∧ s.findByLookup ⟨id, .locationServer⟩ = none ∧
      s.receive message =
        ({ s with
            toTransactions := (s.toTransactions.count s.mTransactionId).insert
              (s.nextServer id) true },
          .onBeginTransaction (s.nextServer id) true :: arrival (s.nextServer id) m,
          some ⟨s.nextServer id, m.endTransaction⟩)) := by
  cases message with
  | none => exact Or.inl rfl
  | some m =>
    cases hid : m.transactionID with
    | none => exact Or.inl (by simp [receive, hid])
    | some l =>
      obtain ⟨id, initiator⟩ := l
      cases hb : m.lppMessageBody with
      | none => exact Or.inl (by simp [receive, hid, hb])
      | some body =>
        simp only [receive, hid, hb]
        cases hf : s.findByLookup ⟨id, initiator⟩ with
        | some d =>
          refine Or.inr (Or.inl ⟨m, d, rfl, ?_, rfl⟩)
          simp only [Transactions.findByLookup, Option.bind_eq_some_iff] at hf
          obtain ⟨h, -, hh⟩ := hf
          rwa [hs.handle_eq hh]
        | none =>
          cases initiator with
          | targetDevice =>
            simp only [if_true]
            cases s.mHackServerInitiatedPush with
            | false => exact Or.inl rfl
            | true => exact Or.inr (Or.inr (Or.inl ⟨m, ⟨id, 0, .locationServer⟩, rfl⟩))
          | locationServer =>
            simp only [reduceCtorEq, if_false]
            by_cases hrange : id < 0 ∨ id > 255
            · refine Or.inr (Or.inr (Or.inr (Or.inl ?_)))
              have hf' : (s.toTransactions.count s.mTransactionId).findByLookup
                  ⟨id, .locationServer⟩ = none := hf
              simp only [Transactions.openTransaction_of_range _ hrange, onTransactions, hf']
            · have hid : 0 ≤ id ∧ id ≤ 255 := by omega
              refine Or.inr (Or.inr (Or.inr (Or.inr ⟨m, id, rfl, hf, ?_⟩)))
              have hlook : ((s.toTransactions.count s.mTransactionId).insert
                  (s.nextServer id) true).findByLookup ⟨id, .locationServer⟩ =
                  some ⟨s.nextServer id, false, false, false, true⟩ := by
                have hix : ((s.toTransactions.count s.mTransactionId).insert (s.nextServer id)
                    true).mTransacionLookup.lookup ⟨id, .locationServer⟩ =
                    some (s.nextServer id) := AList.lookup_insert _
                rw [Transactions.findByLookup, hix, Option.bind_some,
                  Transactions.findTransaction_insert, if_pos rfl]
              simp only [hs.openTransaction hid, onTransactions, hlook, arrival,
                List.cons_append, List.nil_append]

/-! ### The endpoint as a machine -/

/-- What moves an endpoint: the calls of its user, also from inside `on_message`; a payload
coming in and `on_message` returning; and what `process` and `cancel` do to the SUPL session
and to the queue. -/
inductive Op (σ β : Type*)
  | createTransaction (singleSideEndable : Bool)
  | deleteTransaction (handle : TransactionHandle)
  | send (handle : TransactionHandle) (message : Message β)
  | sendWithEnd (handle : TransactionHandle) (message : Message β)
  | abort (handle : TransactionHandle)
  | receive (message : Option (Message β))
  | returned
  | supl (session : Option σ)
  | posinit

/-- An endpoint and the payload it is delivering. -/
abbrev Config (σ : Type*) := Endpoint σ × Option Frame

/-- Leaves the payload that is being delivered alone. -/
def keeping (frame : Option Frame) (r : Endpoint σ × List (Event β)) :
    Config σ × List (Event β) :=
  ((r.1, frame), r.2)

/-- One move.  While a payload is being delivered no other comes in. -/
def step (c : Config σ) : Op σ β → Config σ × List (Event β)
  | .createTransaction sse => keeping c.2 (c.1.createTransaction sse)
  | .deleteTransaction handle => keeping c.2 (c.1.deleteTransaction handle)
  | .send handle message => keeping c.2 (c.1.send supl codec handle message)
  | .sendWithEnd handle message => keeping c.2 (c.1.sendWithEnd supl codec handle message)
  | .abort handle => keeping c.2 (c.1.abort supl codec handle)
  | .receive message =>
    match c.2 with
    | some _ => (c, [])
    | none =>
      let r := c.1.receive message
      ((r.1, r.2.2), r.2.1)
  | .returned =>
    match c.2 with
    | some frame => keeping none (c.1.returned frame)
    | none => (c, [])
  | .supl session => (({ c.1 with mSession := session }, c.2), [])
  | .posinit => (({ c.1 with mPosQueue := [] }, c.2), [])

end Endpoint

/-- A connection that takes every message. -/
def Supl.ideal : Supl Unit := ⟨fun s _ => (s, true), id⟩

/-- A codec that encodes every message. -/
def Codec.ideal : Codec Unit := ⟨fun _ => [0], fun _ => none, ()⟩

end SuplLpp.Lpp
