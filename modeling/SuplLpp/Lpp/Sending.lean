import SuplLpp.Lpp.Endpoint

/-!
# A message that is not handed over

`send` counts the message before it encodes it, `send_with_end` sets its flag before any
test, and a full queue is emptied together with the message.  So a message that is not
handed over does change the session, except where `send` refuses it before it does
anything.

* `Atomic`: a call whose message is not handed over changes no transaction and no sequence
  number, and a transaction counts as ended by the client only with a message that says so;
* `Clean`: the condition under which a call is atomic, and only then (`atomic_iff`).
-/

namespace SuplLpp.Lpp

variable {σ β : Type*} (supl : Supl σ) (codec : Codec β)

/-- The calls that hand a message to the SUPL session or to the queue. -/
inductive SendCall (β : Type*)
  | send (handle : TransactionHandle) (message : Message β)
  | sendWithEnd (handle : TransactionHandle) (message : Message β)
  | abort (handle : TransactionHandle)

def SendCall.run (s : Endpoint σ) : SendCall β → Endpoint σ × List (Event β)
  | .send handle message => s.send supl codec handle message
  | .sendWithEnd handle message => s.sendWithEnd supl codec handle message
  | .abort handle => s.abort supl codec handle

/-- The event hands a message of `handle` to the SUPL session or leaves it in the queue. -/
def HandsOver (e : Event β) (handle : TransactionHandle) (message : Message β) : Prop :=
  e = .posSent handle message ∨ e = .posQueued handle message

/-- The client's end of `handle` is recorded by the step from `s` to `s'`. -/
def RecordsEnd (s s' : Endpoint σ) (handle : TransactionHandle) : Prop :=
  (∃ d, s.findTransaction handle = some d ∧ d.clientHasSentEnd = false) ∧
    ∀ d, s'.findTransaction handle = some d → d.clientHasSentEnd = true

/-- No transaction and not the sequence number has changed. -/
def Unchanged (s s' : Endpoint σ) : Prop :=
  (∀ k, s'.findTransaction k = s.findTransaction k) ∧ s'.mSequenceNumber = s.mSequenceNumber

/-- A message that is not handed over leaves the session as it was, and the client's end is
recorded only with a message that was handed over and says so. -/
def Atomic (s : Endpoint σ) (call : SendCall β) : Prop :=
  let r := call.run supl codec s
  ((¬∃ e ∈ r.2, ∃ k m, HandsOver e k m) → Unchanged s r.1) ∧
    ∀ k, RecordsEnd s r.1 k → ∃ e ∈ r.2, ∃ m, HandsOver e k m ∧ m.endTransaction = true

/-- There is a SUPL session, or the queue has room. -/
def Room (s : Endpoint σ) : Prop := s.mSession = none → s.mPosQueue.length < 16

/-- `send` refuses the message at once or hands it over. -/
def CleanSend (s : Endpoint σ) (handle : TransactionHandle) (message : Message β) : Prop :=
  s.refuses handle message = true ∨
    ∃ d, s.findTransaction handle = some d ∧
      s.passes supl codec handle d message = true ∧ Room s

/-- `send_with_end` finds no transaction, or `send` refuses the message and the flag was set
before, or `send` hands the message over. -/
def CleanSendWithEnd (s : Endpoint σ) (handle : TransactionHandle) (message : Message β) :
    Prop :=
  ∀ d, s.findTransaction handle = some d →
    if (s.asking handle d).refuses handle message then d.clientShouldSendEnd = true
    else
      (s.asking handle d).passes supl codec handle { d with clientShouldSendEnd := true }
        message = true ∧ Room s

def Clean (s : Endpoint σ) : SendCall β → Prop
  | .send handle message => CleanSend supl codec s handle message
  | .sendWithEnd handle message => CleanSendWithEnd supl codec s handle message
  | .abort handle => CleanSendWithEnd supl codec s handle (Endpoint.createAbort codec)

variable {supl codec} {s : Endpoint σ} {handle : TransactionHandle} {message : Message β}
  {d : TransactionData}

/-- A message that passes is handed over exactly when there is room, with the flag as its
`endTransaction`. -/
theorem handsOver_handover {k : TransactionHandle} {m : Message β} :
    HandsOver (s.handover handle d message) k m ↔
      Room s ∧ k = handle ∧ m = s.withHeader handle d message := by
  unfold Endpoint.handover HandsOver Room
  cases hs : s.mSession with
  | none =>
    by_cases hq : s.mPosQueue.length < 16 <;> simp [hq, eq_comm]
  | some session => simp [eq_comm]

/-- A message that is not refused is handed over when it passes and there is room. -/
theorem send_handsOver_iff (hd : s.findTransaction handle = some d)
    (h : s.refuses handle message = false) :
    (∃ e ∈ (s.send supl codec handle message).2, ∃ k m, HandsOver e k m) ↔
      s.passes supl codec handle d message = true ∧ Room s := by
  cases hp : s.passes supl codec handle d message with
  | false =>
    obtain ⟨-, -, hes⟩ := Endpoint.send_of_fails supl codec hd h hp
    simp only [Bool.false_eq_true, false_and, iff_false, not_exists, not_and]
    intro e he k m
    rw [hes e he]
    simp [HandsOver]
  | true =>
    obtain ⟨-, -, hes⟩ := Endpoint.send_of_passes supl codec hd h hp
    rw [hes]
    constructor
    · rintro ⟨e, he, k, m, hh⟩
      rcases List.mem_cons.1 he with rfl | he
      · exact ⟨rfl, (handsOver_handover.1 hh).1⟩
      · split_ifs at he
        · rw [Transactions.clientEndTransaction_of_find
            (d := { d with clientShouldSendEnd := false }) (by simp)] at he
          simp only [List.mem_cons, List.not_mem_nil, or_false] at he
          rcases he with rfl | rfl <;> simp [HandsOver] at hh
        · cases he
    · rintro ⟨-, hroom⟩
      exact ⟨_, List.mem_cons_self, _, _, handsOver_handover.2 ⟨hroom, rfl, rfl⟩⟩

/-- What a send that was not refused leaves of the counter. -/
theorem send_counts (hd : s.findTransaction handle = some d)
    (h : s.refuses handle message = false) :
    (s.send supl codec handle message).1.mSequenceNumber = s.mSequenceNumber + 1 := by
  cases hp : s.passes supl codec handle d message with
  | false => exact (Endpoint.send_of_fails supl codec hd h hp).2.1
  | true => exact (Endpoint.send_of_passes supl codec hd h hp).2.1

/-- A send that is handed over records an end only of its own transaction, and only if the
message says so. -/
theorem send_recordsEnd (hd : s.findTransaction handle = some d)
    (h : s.refuses handle message = false)
    (hp : s.passes supl codec handle d message = true) {k : TransactionHandle}
    (hk : RecordsEnd s (s.send supl codec handle message).1 k) :
    k = handle ∧ d.clientShouldSendEnd = true := by
  obtain ⟨ht, -, -⟩ := Endpoint.send_of_passes supl codec hd h hp
  obtain ⟨⟨d₀, hd₀, hc₀⟩, hafter⟩ := hk
  have hsame : ∀ d', (s.send supl codec handle message).1.findTransaction k = some d' →
      d'.clientHasSentEnd = true := hafter
  rw [ht] at hsame
  cases hs : d.clientShouldSendEnd with
  | false =>
    rw [hs] at hsame
    have := hsame d₀ hd₀
    rw [hc₀] at this
    cases this
  | true =>
    refine ⟨?_, rfl⟩
    by_contra hne
    rw [hs, if_pos rfl, Transactions.clientEndTransaction_of_find
      (d := { d with clientShouldSendEnd := false }) (by simp)] at hsame
    have := hsame d₀ (by simpa [hne] using hd₀)
    rw [hc₀] at this
    cases this

/-- After a send that is not refused: atomic means handed over. -/
theorem send_atomic_iff (hd : s.findTransaction handle = some d)
    (h : s.refuses handle message = false) {s₀ : Endpoint σ}
    (hseq : s.mSequenceNumber = s₀.mSequenceNumber)
    (hrec : ∀ k, RecordsEnd s₀ (s.send supl codec handle message).1 k →
      RecordsEnd s (s.send supl codec handle message).1 k) :
    (((¬∃ e ∈ (s.send supl codec handle message).2, ∃ k m, HandsOver e k m) →
        Unchanged s₀ (s.send supl codec handle message).1) ∧
      ∀ k, RecordsEnd s₀ (s.send supl codec handle message).1 k →
        ∃ e ∈ (s.send supl codec handle message).2, ∃ m, HandsOver e k m ∧
          m.endTransaction = true) ↔
      s.passes supl codec handle d message = true ∧ Room s := by
  have hcount : (s.send supl codec handle message).1.mSequenceNumber = _ := send_counts hd h
  rw [← send_handsOver_iff hd h]
  constructor
  · rintro ⟨hsame, -⟩
    by_contra hno
    have := (hsame hno).2
    omega
  · intro hover
    refine ⟨fun hno => absurd hover hno, fun k hk => ?_⟩
    obtain ⟨hp, hroom⟩ := (send_handsOver_iff hd h).1 hover
    obtain ⟨rfl, hs⟩ := send_recordsEnd hd h hp (hrec k hk)
    obtain ⟨-, -, hes⟩ := Endpoint.send_of_passes supl codec hd h hp
    rw [hes]
    exact ⟨_, List.mem_cons_self, _, handsOver_handover.2 ⟨hroom, rfl, rfl⟩, hs⟩

theorem not_recordsEnd_self (k : TransactionHandle) : ¬RecordsEnd s s k := by
  rintro ⟨⟨d, hd, hc⟩, h⟩
  rw [h d hd] at hc
  cases hc

theorem atomic_send_iff :
    Atomic supl codec s (.send handle message) ↔ CleanSend supl codec s handle message := by
  cases hr : s.refuses handle message with
  | true =>
    have hsend := Endpoint.send_of_refuses supl codec hr
    refine ⟨fun _ => Or.inl hr, fun _ => ?_⟩
    simp only [Atomic, SendCall.run, hsend]
    exact ⟨fun _ => ⟨fun _ => rfl, rfl⟩, fun k hk => absurd hk (not_recordsEnd_self k)⟩
  | false =>
    obtain ⟨d, hd, -⟩ := Endpoint.find_of_not_refuses hr
    refine (send_atomic_iff hd hr rfl fun _ hk => hk).trans ?_
    constructor
    · exact fun h => Or.inr ⟨d, hd, h⟩
    · rintro (h | ⟨d', hd', h⟩)
      · rw [hr] at h
        cases h
      · rw [hd] at hd'
        cases hd'
        exact h

/-- Setting the flag records no end. -/
theorem recordsEnd_asking (hd : s.findTransaction handle = some d) {s' : Endpoint σ}
    {k : TransactionHandle} (hk : RecordsEnd s s' k) : RecordsEnd (s.asking handle d) s' k := by
  obtain ⟨⟨d₀, hd₀, hc⟩, h⟩ := hk
  refine ⟨?_, h⟩
  simp only [Endpoint.asking, Transactions.findTransaction_setData]
  split_ifs with he
  · rw [he, hd] at hd₀
    cases hd₀
    exact ⟨_, rfl, hc⟩
  · exact ⟨d₀, hd₀, hc⟩

theorem atomic_sendWithEnd_iff :
    Atomic supl codec s (.sendWithEnd handle message) ↔
      CleanSendWithEnd supl codec s handle message := by
  cases hd : s.findTransaction handle with
  | none =>
    have hclean : CleanSendWithEnd supl codec s handle message := fun d h => by
      rw [hd] at h
      cases h
    refine ⟨fun _ => hclean, fun _ => ?_⟩
    simp only [Atomic, SendCall.run, Endpoint.sendWithEnd, hd]
    exact ⟨fun _ => ⟨fun _ => rfl, rfl⟩, fun k hk => absurd hk (not_recordsEnd_self k)⟩
  | some d =>
    simp only [Atomic, SendCall.run, Endpoint.sendWithEnd, CleanSendWithEnd, hd,
      Option.some.injEq, forall_eq']
    cases hr : (s.asking handle d).refuses handle message with
    | true =>
      rw [Endpoint.send_of_refuses supl codec hr, if_pos rfl]
      have hself : (s.asking handle d).findTransaction handle =
          some { d with clientShouldSendEnd := true } := by simp [Endpoint.asking]
      constructor
      · rintro ⟨h, -⟩
        have := (h (by simp)).1 handle
        rw [hself, hd, Option.some.injEq] at this
        rw [← this]
      · intro hs
        have hsame : ∀ k, (s.asking handle d).findTransaction k = s.findTransaction k := by
          intro k
          simp only [Endpoint.asking, Transactions.findTransaction_setData]
          split_ifs with he
          · rw [he, hd, ← hs]
          · rfl
        refine ⟨fun _ => ⟨hsame, rfl⟩, fun k hk => ?_⟩
        exact absurd (recordsEnd_asking hd hk) (not_recordsEnd_self k)
    | false =>
      have hself : (s.asking handle d).findTransaction handle =
          some { d with clientShouldSendEnd := true } := by simp [Endpoint.asking]
      rw [if_neg (by simp)]
      exact send_atomic_iff hself hr rfl fun _ hk => recordsEnd_asking hd hk

/-- **When a call is atomic.**  For every session state and every call of `send`,
`send_with_end` or `abort`. -/
theorem atomic_iff (supl : Supl σ) (codec : Codec β) (s : Endpoint σ) (call : SendCall β) :
    Atomic supl codec s call ↔ Clean supl codec s call := by
  cases call with
  | send handle message => exact atomic_send_iff
  | sendWithEnd handle message => exact atomic_sendWithEnd_iff
  | abort handle => exact atomic_sendWithEnd_iff

/-- A message that already has a transaction id is refused, but the flag stays set: the
transaction ends with the next message. -/
theorem refused_end_not_atomic :
    ¬Atomic Supl.ideal Codec.ideal
      ((Endpoint.new false : Endpoint Unit).createTransaction (β := Unit) true).1
      (.sendWithEnd ⟨1, 1, .targetDevice⟩ ⟨some ⟨7, .targetDevice⟩, false, none, some ()⟩) := by
  rintro ⟨h, -⟩
  have := (h (by
    rintro ⟨e, he, -⟩
    cases he)).1 ⟨1, 1, .targetDevice⟩
  revert this
  decide

end SuplLpp.Lpp
