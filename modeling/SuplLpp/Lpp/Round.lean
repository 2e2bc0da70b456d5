import SuplLpp.Lpp.Session

/-!
# One round of `process`

What the functions of the states can do, whatever the SUPL session answers and whatever the
callbacks call.

* `Later`: only the endpoint moved and callbacks were used up; `Keeps`: and the SUPL session,
  if there was one, is still there;
* `callback_cases`: a callback keeps the session, or cancels it;
* `state_round`: a state asks to wait, goes on to a state of lower rank, or cancels.
-/

namespace SuplLpp.Lpp

variable {σ β : Type*} {api : SuplApi σ} {codec : Codec β}

/-! ### What sending does to the SUPL session -/

/-- What the SUPL session has buffered. -/
def Endpoint.held (api : SuplApi σ) (s : Endpoint σ) : ℕ := s.mSession.elim 0 api.buffered

/-- The SUPL session is there as before, with no more in its buffer. -/
def Endpoint.SessionKept (api : SuplApi σ) (s s' : Endpoint σ) : Prop :=
  s'.mSession.isSome = s.mSession.isSome ∧ s'.held api ≤ s.held api

namespace Endpoint

theorem SessionKept.of_eq {s s' : Endpoint σ} (h : s'.mSession = s.mSession) :
    SessionKept api s s' := by
  rw [SessionKept, held, held, h]
  exact ⟨rfl, le_rfl⟩

theorem SessionKept.trans {s₁ s₂ s₃ : Endpoint σ} (h₁ : SessionKept api s₁ s₂)
    (h₂ : SessionKept api s₂ s₃) : SessionKept api s₁ s₃ :=
  ⟨h₂.1.trans h₁.1, h₂.2.trans h₁.2⟩

theorem endAfterSend_mSession (s : Endpoint σ) (handle : TransactionHandle)
    (transaction : TransactionData) :
    (s.endAfterSend (β := β) handle transaction).1.mSession = s.mSession := by
  unfold endAfterSend
  split_ifs <;> rfl

variable (api codec) in
/-- Sending leaves the SUPL session alone or sends with it, and disconnects it when that fails. -/
theorem send_mSession (s : Endpoint σ) (handle : TransactionHandle) (message : Message β) :
    (s.send api.toSupl codec handle message).1.mSession = s.mSession ∨
      ∃ session pos, s.mSession = some session ∧
        (((api.send session pos).2 = true ∧
            (s.send api.toSupl codec handle message).1.mSession =
              some (api.send session pos).1) ∨
          ((api.send session pos).2 = false ∧
            (s.send api.toSupl codec handle message).1.mSession =
              some (api.disconnect (api.send session pos).1))) := by
  cases hr : s.refuses handle message with
  | true =>
    rw [send_of_refuses _ _ hr]
    exact Or.inl rfl
  | false =>
    obtain ⟨d, hd, hc⟩ := find_of_not_refuses hr
    simp only [refuses, hd, hc, Bool.or_eq_false_iff] at hr
    obtain ⟨⟨⟨h1, h2⟩, h3⟩, -⟩ := hr
    simp only [send, h1, h2, h3, hd, hc, Bool.false_eq_true, if_false]
    by_cases he : (codec.encode (s.withHeader handle d message)).length ≤ 0
    · rw [if_pos he]
      exact Or.inl rfl
    · rw [if_neg he]
      cases hs : s.mSession with
      | none =>
        left
        dsimp only
        rw [endAfterSend_mSession]
        split_ifs <;> rfl
      | some session =>
        refine Or.inr ⟨session, ⟨[⟨.lpp, codec.encode (s.withHeader handle d message)⟩]⟩, rfl, ?_⟩
        dsimp only
        split_ifs with hsent
        · exact Or.inl ⟨hsent, endAfterSend_mSession _ _ _⟩
        · exact Or.inr ⟨Bool.eq_false_iff.2 hsent, rfl⟩

theorem send_sessionKept (s : Endpoint σ) (handle : TransactionHandle) (message : Message β) :
    SessionKept api s (s.send api.toSupl codec handle message).1 := by
  rcases send_mSession api codec s handle message with
    h | ⟨session, pos, hs, ⟨-, h⟩ | ⟨-, h⟩⟩
  · exact .of_eq h
  · have hle := api.send_le session pos
    exact ⟨by rw [h, hs]; rfl, by simpa [held, h, hs] using hle⟩
  · have hle := (api.disconnect_le _).trans (api.send_le session pos)
    exact ⟨by rw [h, hs]; rfl, by simpa [held, h, hs] using hle⟩

theorem sendWithEnd_sessionKept (s : Endpoint σ) (handle : TransactionHandle)
    (message : Message β) :
    SessionKept api s (s.sendWithEnd api.toSupl codec handle message).1 := by
  unfold sendWithEnd
  cases hd : s.findTransaction handle with
  | none => exact SessionKept.of_eq rfl
  | some d => exact send_sessionKept (s.asking handle d) handle message

theorem receive_mSession (s : Endpoint σ) (message : Option (Message β)) :
    (s.receive message).1.mSession = s.mSession := by
  unfold receive
  split
  · rfl
  · split
    · rfl
    · rfl
    · dsimp only
      split
      · rfl
      · split
        · split <;> rfl
        · split <;> rfl

theorem returned_mSession (s : Endpoint σ) (frame : Frame) :
    (s.returned (β := β) frame).1.mSession = s.mSession := by
  unfold returned
  split_ifs <;> rfl

end Endpoint

namespace World

/-! ### Calls -/

/-- Only the endpoint and the callbacks differ. -/
def Later (w w' : World σ β) : Prop :=
  ∃ endpoint callbacks, w' = { w with toEndpoint := endpoint, callbacks := callbacks }

/-- Calls that do not cancel, or that come after a cancel, keep the SUPL session. -/
def Keeps (api : SuplApi σ) (w w' : World σ β) : Prop :=
  w.Later w' ∧ Endpoint.SessionKept api w.toEndpoint w'.toEndpoint

theorem Later.refl (w : World σ β) : w.Later w := ⟨w.toEndpoint, w.callbacks, rfl⟩

theorem Later.trans {w₁ w₂ w₃ : World σ β} (h₁ : w₁.Later w₂) (h₂ : w₂.Later w₃) :
    w₁.Later w₃ := by
  obtain ⟨e₁, c₁, rfl⟩ := h₁
  obtain ⟨e₂, c₂, rfl⟩ := h₂
  exact ⟨e₂, c₂, rfl⟩

theorem Keeps.refl (w : World σ β) : Keeps api w w :=
  ⟨Later.refl w, Endpoint.SessionKept.of_eq rfl⟩

theorem Keeps.trans {w₁ w₂ w₃ : World σ β} (h₁ : Keeps api w₁ w₂) (h₂ : Keeps api w₂ w₃) :
    Keeps api w₁ w₃ :=
  ⟨h₁.1.trans h₂.1, h₁.2.trans h₂.2⟩

theorem Keeps.onEndpoint {w : World σ β} {r : Endpoint σ × List (Event β)}
    (h : Endpoint.SessionKept api w.toEndpoint r.1) : Keeps api w (w.onEndpoint r).1 :=
  ⟨⟨r.1, w.callbacks, rfl⟩, h⟩

/-- Only the transactions and the messages were seen to move. -/
def OnlyLpp (out : List (Occurrence β)) : Prop := ∀ o ∈ out, ∃ e, o = .lpp e

/-- What calls are seen to do when none of them cancels a scheduled session. -/
def Muted (out : List (Occurrence β)) : Prop :=
  ∀ o ∈ out, (∃ e, o = .lpp e) ∨ o = .fault .nullScheduler

theorem onlyLpp_nil : OnlyLpp ([] : List (Occurrence β)) := by simp [OnlyLpp]

theorem onlyLpp_map (es : List (Event β)) : OnlyLpp (es.map .lpp) := by simp [OnlyLpp]

theorem OnlyLpp.append {out out' : List (Occurrence β)} (h : OnlyLpp out) (h' : OnlyLpp out') :
    OnlyLpp (out ++ out') := by
  intro o ho
  rcases List.mem_append.1 ho with ho | ho
  · exact h o ho
  · exact h' o ho

variable (api codec) in
/-- The calls that are not `cancel`. -/
theorem call_keeps (w : World σ β) {c : Call β} (hc : c ≠ .cancel) :
    Keeps api w (w.call api codec c).1 ∧ OnlyLpp (w.call api codec c).2 := by
  cases c with
  | createTransaction sse => exact ⟨.onEndpoint (.of_eq rfl), onlyLpp_map _⟩
  | deleteTransaction handle => exact ⟨.onEndpoint (.of_eq rfl), onlyLpp_map _⟩
  | send handle message =>
    exact ⟨.onEndpoint (Endpoint.send_sessionKept _ _ _), onlyLpp_map _⟩
  | sendWithEnd handle message =>
    exact ⟨.onEndpoint (Endpoint.sendWithEnd_sessionKept _ _ _), onlyLpp_map _⟩
  | abort handle =>
    exact ⟨.onEndpoint (Endpoint.sendWithEnd_sessionKept _ _ _), onlyLpp_map _⟩
  | cancel => exact absurd rfl hc

variable (api codec) in
/-- Without a scheduler no call cancels. -/
theorem calls_unscheduled {w : World σ β} (hw : w.mScheduler = false) (cs : List (Call β)) :
    Keeps api w (Mealy.run (call api codec) w cs).1 ∧
      Muted (Mealy.run (call api codec) w cs).2 := by
  induction cs generalizing w with
  | nil => exact ⟨.refl w, by simp [Muted]⟩
  | cons c cs ih =>
    rw [Mealy.run_cons]
    have hstep : Keeps api w (w.call api codec c).1 ∧
        Muted (w.call api codec c).2 := by
      by_cases hc : c = .cancel
      · subst hc
        rw [show w.call api codec .cancel = (w, [.fault .nullScheduler]) by
          simp [call, cancel, hw]]
        exact ⟨.refl w, by simp [Muted]⟩
      · obtain ⟨hk, ho⟩ := call_keeps api codec w hc
        exact ⟨hk, fun o h => Or.inl (ho o h)⟩
    obtain ⟨⟨e, b, hl⟩, -⟩ := hstep.1
    obtain ⟨hk, ho⟩ := ih (w := (w.call api codec c).1) (by rw [hl]; exact hw)
    refine ⟨hstep.1.trans hk, fun o h => ?_⟩
    rcases List.mem_append.1 h with h | h
    · exact hstep.2 o h
    · exact ho o h

/-- The world of a session that was just cancelled. -/
def cancelled (w : World σ β) : World σ β :=
  { w with
    mState := .exit
    mTask := w.mTask.cancel
    mSession := none
    mScheduler := false
    deferred := w.deferred.map fun d => { d with stale := true } }

/-- What the call of `cancel` leaves to see. -/
def cancellation (w : World σ β) : Occurrence β :=
  .cancelled w.mState w.mTask (w.deferred.map Deferred.update)

theorem cancel_eq {w : World σ β} (hw : w.mScheduler = true) :
    w.cancel = (w.cancelled, [w.cancellation]) := by
  have htask : (if w.mTask.mScheduler then w.mTask.cancel else w.mTask) = w.mTask.cancel := by
    cases h : w.mTask.mScheduler with
    | false =>
      rw [if_neg Bool.false_ne_true]
      simp [SessionTask.cancel, ← h]
    | true => rfl
  simp only [cancel, hw, if_true, htask, cancelled, cancellation]

/-- `w'` comes after calls in `w` of which one cancelled, and `out` is what they did. -/
def Cancels (api : SuplApi σ) (w w' : World σ β) (out : List (Occurrence β)) : Prop :=
  ∃ w₁ es fs, w.Later w₁ ∧ Keeps api w₁.cancelled w' ∧
    out = es ++ w.cancellation :: fs ∧ OnlyLpp es ∧ Muted fs

variable (api codec) in
/-- Calls keep a session, or one of them cancels it. -/
theorem calls_cases {w : World σ β} (hw : w.mScheduler = true) (cs : List (Call β)) :
    (Keeps api w (Mealy.run (call api codec) w cs).1 ∧
        OnlyLpp (Mealy.run (call api codec) w cs).2) ∨
      Cancels api w (Mealy.run (call api codec) w cs).1 (Mealy.run (call api codec) w cs).2 := by
  induction cs generalizing w with
  | nil => exact Or.inl ⟨.refl w, onlyLpp_nil⟩
  | cons c cs ih =>
    rw [Mealy.run_cons]
    by_cases hc : c = .cancel
    · subst hc
      rw [show w.call api codec .cancel = (w.cancelled, [w.cancellation]) from cancel_eq hw]
      obtain ⟨hk, ho⟩ := calls_unscheduled api codec (w := w.cancelled) rfl cs
      exact Or.inr ⟨w, [], _, .refl w, hk, rfl, onlyLpp_nil, ho⟩
    · obtain ⟨hk, ho⟩ := call_keeps api codec w hc
      obtain ⟨⟨e, b, hl⟩, -⟩ := id hk
      rcases ih (w := (w.call api codec c).1) (by rw [hl]; exact hw) with
        ⟨hk', ho'⟩ | ⟨w₁, es, fs, hl₁, hk', he, hes, hfs⟩
      · exact Or.inl ⟨hk.trans hk', ho.append ho'⟩
      · refine Or.inr ⟨w₁, (w.call api codec c).2 ++ es, fs, hk.1.trans hl₁, hk', ?_,
          ho.append hes, hfs⟩
        rw [he, List.append_assoc, hl]
        rfl

variable (api codec) in
theorem callback_cases {w : World σ β} (hw : w.mScheduler = true) :
    (Keeps api w (w.callback api codec).1 ∧ OnlyLpp (w.callback api codec).2) ∨
      Cancels api w (w.callback api codec).1 (w.callback api codec).2 := by
  unfold callback
  cases hc : w.callbacks with
  | nil => exact Or.inl ⟨.refl w, onlyLpp_nil⟩
  | cons calls callbacks =>
    have hstart : Keeps api w { w with callbacks := callbacks } :=
      ⟨⟨w.toEndpoint, callbacks, rfl⟩, .of_eq rfl⟩
    rcases calls_cases api codec (w := { w with callbacks := callbacks }) hw calls with
      ⟨hk, ho⟩ | ⟨w₁, es, fs, hl, h⟩
    · exact Or.inl ⟨hstart.trans hk, ho⟩
    · exact Or.inr ⟨w₁, es, fs, hstart.1.trans hl, h⟩

/-! ### Receiving -/

theorem Later.cancellation {w w' : World σ β} (h : w.Later w') :
    w'.cancellation = w.cancellation := by
  obtain ⟨e, c, rfl⟩ := h
  rfl

theorem Later.mScheduler {w w' : World σ β} (h : w.Later w') :
    w'.mScheduler = w.mScheduler := by
  obtain ⟨e, c, rfl⟩ := h
  rfl

theorem Cancels.mem {w w' : World σ β} {out : List (Occurrence β)}
    (h : Cancels api w w' out) : w.cancellation ∈ out := by
  obtain ⟨-, es, fs, -, -, rfl, -⟩ := h
  simp

variable (api codec) in
theorem processLppPayload_cases {w : World σ β} (hw : w.mScheduler = true)
    (hs : w.mSession.isSome = true) (payload : Payload) :
    (Keeps api w (w.processLppPayload api codec payload).1 ∧
        OnlyLpp (w.processLppPayload api codec payload).2.1 ∧
        (w.processLppPayload api codec payload).2.2 = true) ∨
      w.cancellation ∈ (w.processLppPayload api codec payload).2.1 := by
  obtain ⟨session, hsession⟩ := Option.isSome_iff_exists.1 hs
  simp only [processLppPayload, hsession]
  have hreceive : Keeps api w
      (w.onEndpoint ((w.toEndpoint.receive (codec.decode payload.data)).1,
        (w.toEndpoint.receive (codec.decode payload.data)).2.1)).1 :=
    .onEndpoint (.of_eq (Endpoint.receive_mSession _ _))
  cases (w.toEndpoint.receive (codec.decode payload.data)).2.2 with
  | none => exact Or.inl ⟨hreceive, onlyLpp_map _, rfl⟩
  | some frame =>
    dsimp only
    rcases callback_cases api codec (hreceive.1.mScheduler.trans hw) with ⟨hk, ho⟩ | hc
    · refine Or.inl ⟨(hreceive.trans hk).trans (.onEndpoint (.of_eq ?_)), ?_, rfl⟩
      · exact Endpoint.returned_mSession _ _
      · exact ((onlyLpp_map _).append ho).append (onlyLpp_map _)
    · refine Or.inr (List.mem_append_left _ (List.mem_append_right _ ?_))
      rw [← hreceive.1.cancellation]
      exact hc.mem

variable (api codec) in
theorem processSuplPos_cases {w : World σ β} (hw : w.mScheduler = true)
    (hs : w.mSession.isSome = true) (payloads : List Payload) :
    (Keeps api w (w.processSuplPos api codec payloads).1 ∧
        OnlyLpp (w.processSuplPos api codec payloads).2.1 ∧
        (w.processSuplPos api codec payloads).2.2 = true) ∨
      w.cancellation ∈ (w.processSuplPos api codec payloads).2.1 := by
  induction payloads generalizing w with
  | nil => exact Or.inl ⟨.refl w, onlyLpp_nil, rfl⟩
  | cons payload payloads ih =>
    unfold processSuplPos
    cases payload.type with
    | lpp =>
      dsimp only
      rcases processLppPayload_cases api codec hw hs payload with
        ⟨hk, ho, hr⟩ | hc
      · rw [if_pos hr]
        rcases ih (hk.1.mScheduler.trans hw) (hk.2.1.trans hs) with ⟨hk', ho', hr'⟩ | hc
        · exact Or.inl ⟨hk.trans hk', ho.append ho', hr'⟩
        · exact Or.inr (List.mem_append_right _ (hk.1.cancellation ▸ hc))
      · refine Or.inr ?_
        split_ifs
        · exact List.mem_append_left _ hc
        · exact hc
    | nothing => exact ih hw hs
    | tia801 => exact ih hw hs
    | rrc => exact ih hw hs
    | rrlp => exact ih hw hs

/-- The wait for the next message. -/
def awaitMessage : NextState := NextState.make.read .message |>.error .disconnected

variable (api codec) in
/-- The loop of `state_message` ends before the buffer is empty: in a wait for more, or in a
disconnect. -/
theorem receiveLoop_cases (fuel : ℕ) {w : World σ β} (hw : w.mScheduler = true)
    (hs : w.mSession.isSome = true) (hfuel : w.toEndpoint.held api < fuel) :
    (w.Later (receiveLoop api codec fuel w).1 ∧
        (receiveLoop api codec fuel w).1.mSession.isSome = true ∧
        OnlyLpp (receiveLoop api codec fuel w).2.1 ∧
        ((receiveLoop api codec fuel w).2.2 = some awaitMessage ∨
          (receiveLoop api codec fuel w).2.2 = some (NextState.make.next .disconnected))) ∨
      w.cancellation ∈ (receiveLoop api codec fuel w).2.1 := by
  induction fuel generalizing w with
  | zero => omega
  | succ fuel ih =>
    obtain ⟨session, hsession⟩ := Option.isSome_iff_exists.1 hs
    have hheld : w.toEndpoint.held api = api.buffered session := by
      simp [Endpoint.held, hsession]
    simp only [receiveLoop, hsession]
    have hlater : w.Later { w with mSession := some (api.tryReceive session).1 } :=
      ⟨_, w.callbacks, rfl⟩
    have hlt := api.tryReceive_lt session
    cases hr : (api.tryReceive session).2 with
    | noData => exact Or.inl ⟨hlater, rfl, onlyLpp_nil, Or.inl rfl⟩
    | endSession => exact Or.inl ⟨hlater, rfl, onlyLpp_nil, Or.inr rfl⟩
    | sessionTerminated => exact Or.inl ⟨hlater, rfl, onlyLpp_nil, Or.inr rfl⟩
    | invalidSession => exact Or.inl ⟨hlater, rfl, onlyLpp_nil, Or.inr rfl⟩
    | pos pos =>
      rw [hr] at hlt
      have hlt := hlt rfl
      dsimp only
      rcases processSuplPos_cases api codec
          (w := { w with mSession := some (api.tryReceive session).1 }) hw rfl pos.payloads with
        ⟨hk, ho, hp⟩ | hc
      · rw [if_pos hp]
        have hle := hk.2.2
        simp only [Endpoint.held, Option.elim_some] at hle hheld hfuel
        rcases ih (w := (processSuplPos api codec
            { w with mSession := some (api.tryReceive session).1 } pos.payloads).1)
            (hk.1.mScheduler.trans hw) (hk.2.1.trans rfl)
            (by simp only [Endpoint.held]; omega) with ⟨hl, hs', ho', he⟩ | hc
        · exact Or.inl ⟨(hlater.trans hk.1).trans hl, hs', ho.append ho', he⟩
        · exact Or.inr (List.mem_append_right _
            (hlater.cancellation ▸ hk.1.cancellation ▸ hc))
      · refine Or.inr ?_
        split_ifs
        · exact List.mem_append_left _ (hlater.cancellation ▸ hc)
        · exact hlater.cancellation ▸ hc
    | unknown | unableToDecode | response =>
      rw [hr] at hlt
      have hlt := hlt rfl
      rcases ih (w := { w with mSession := some (api.tryReceive session).1 }) hw rfl
          (by simp only [Endpoint.held, Option.elim_some] at hheld hfuel ⊢; omega) with
        ⟨hl, hs', ho, he⟩ | hc
      · exact Or.inl ⟨hlater.trans hl, hs', ho, he⟩
      · exact Or.inr (hlater.cancellation ▸ hc)

end World

/-! ### The states -/

/-- A bound on the rounds that `process` can go on from a state. -/
def State.rank : State → ℕ
  | .unknown | .exit => 0
  | .disconnected => 1
  | .connectionFailed | .error | .established | .message | .suplHandshakeSend => 2
  | .suplPosinit | .connected => 3
  | .suplHandshakeRecv | .connecting => 4
  | .connect => 5

namespace NextState

/-- Asks to wait, for errors at least, and knows where to go on. -/
structure Waits (n : NextState) : Prop where
  schedule : n.schedule = true
  read : n.readState ≠ .exit
  write : n.writeState ≠ .exit
  error : n.errorState ≠ .unknown ∧ n.errorState ≠ .exit

/-- Waits for data to come or to go. -/
def Attends (n : NextState) : Prop := n.readState ≠ .unknown ∨ n.writeState ≠ .unknown

/-- Goes on, from `state` to a state of lower rank that is not the last. -/
structure Follows (n : NextState) (state : State) : Prop where
  schedule : n.schedule = false
  next : n.nextState ≠ .unknown ∧ n.nextState ≠ .exit
  rank : n.nextState.rank < state.rank

theorem waits_read {state state' : State} (h : state ≠ .exit) (h₁ : state' ≠ .unknown)
    (h₂ : state' ≠ .exit) : (make.read state |>.error state').Waits :=
  ⟨rfl, h, by simp [make, read, error], h₁, h₂⟩

theorem waits_write {state state' : State} (h : state ≠ .exit) (h₁ : state' ≠ .unknown)
    (h₂ : state' ≠ .exit) : (make.write state |>.error state').Waits :=
  ⟨rfl, by simp [make, write, error], h, h₁, h₂⟩

theorem follows_next {state state' : State} (h : state' ≠ .unknown) (h₁ : state' ≠ .exit)
    (h₂ : state'.rank < state.rank) : (make.next state').Follows state :=
  ⟨rfl, ⟨h, h₁⟩, h₂⟩

end NextState

namespace World

/-- What one round can do.  In `wait` and `follow` the SUPL session is there afterwards. -/
inductive Round (api : SuplApi σ) (w : World σ β) : Answer σ β → Prop
  | wait {w' out n} (later : w.Later w') (session : w'.mSession.isSome = true)
      (out_ : OnlyLpp out ∨ ∃ out', out = .onEstablished :: out' ∧ OnlyLpp out')
      (waits : n.Waits) (attends : n.Attends) : Round api w (w', out, some n)
  | refused {w' n} (later : w.Later w') (session : w'.mSession.isSome = true) (waits : n.Waits) :
      Round api w (w', [.handshakeFailed], some n)
  | follow {w' out n} (later : w.Later w') (session : w'.mSession.isSome = true)
      (out_ : OnlyLpp out) (follows : n.Follows w.mState) : Round api w (w', out, some n)
  | farewell {w' out} (state : w.mState = .disconnected) (keeps : Keeps api w w')
      (out_ : OnlyLpp out) :
      Round api w (w', .onDisconnected :: out, some (NextState.make.next .exit))
  | cancelledEstablished {w' out n} (state : w.mState = .established)
      (cancels : Cancels api w w' out) (waits : n.Waits) :
      Round api w (w', .onEstablished :: out, some n)
  | cancelledDisconnected {w' out} (state : w.mState = .disconnected)
      (cancels : Cancels api w w' out) :
      Round api w (w', .onDisconnected :: out, some (NextState.make.next .exit))
  | cancelledMessage {w' out n} (state : w.mState = .message) (mem : w.cancellation ∈ out) :
      Round api w (w', out, n)

theorem Later.setSession (w : World σ β) (session : Option σ) :
    w.Later { w with mSession := session } :=
  ⟨{ w.toEndpoint with mSession := session }, w.callbacks, rfl⟩

/-- The ways to `disconnected`, and others. -/
theorem Round.next {w w' : World σ β} {state state' : State} (later : w.Later w')
    (session : w'.mSession.isSome = true) (hst : w.mState = state) (h : state' ≠ .unknown)
    (h₁ : state' ≠ .exit) (h₂ : state'.rank < state.rank) :
    Round api w (w', [], some (NextState.make.next state')) :=
  .follow later session onlyLpp_nil (NextState.follows_next h h₁ (hst ▸ h₂))

/-- The waits for data of the connection. -/
theorem Round.waitRead {w w' : World σ β} {state' onError : State} (later : w.Later w')
    (session : w'.mSession.isSome = true) (h : state' ≠ .unknown) (h' : state' ≠ .exit)
    (h₁ : onError ≠ .unknown) (h₂ : onError ≠ .exit) :
    Round api w (w', [], some (NextState.make.read state' |>.error onError)) :=
  .wait later session (Or.inl onlyLpp_nil) (NextState.waits_read h' h₁ h₂) (Or.inl h)

theorem stateConnect_round {w : World σ β} (hst : w.mState = .connect) :
    Round api w (w.stateConnect api) := by
  unfold stateConnect
  cases hsession : w.mSession with
  | some session =>
    exact .next (.refl w) (by simp [hsession]) hst (by decide) (by decide) (by decide)
  | none =>
    dsimp only
    split_ifs
    · exact .wait (.setSession w _) rfl (Or.inl onlyLpp_nil)
        ⟨rfl, by decide, by decide, by decide, by decide⟩ (Or.inl (by decide))
    · exact .next (.setSession w _) rfl hst (by decide) (by decide) (by decide)

theorem stateConnecting_round {w : World σ β} (hst : w.mState = .connecting)
    (hs : w.mSession.isSome = true) : Round api w (w.stateConnecting api) := by
  obtain ⟨session, hsession⟩ := Option.isSome_iff_exists.1 hs
  simp only [stateConnecting, hsession]
  cases (api.handleConnection session).2 with
  | done => exact .next (.setSession w _) rfl hst (by decide) (by decide) (by decide)
  | failed => exact .next (.setSession w _) rfl hst (by decide) (by decide) (by decide)
  | wantRead =>
    exact .waitRead (.setSession w _) rfl (by decide) (by decide) (by decide) (by decide)
  | wantWrite =>
    exact .wait (.setSession w _) rfl (Or.inl onlyLpp_nil)
      (NextState.waits_write (by decide) (by decide) (by decide)) (Or.inr (by decide))

theorem stateHandshakeSend_round {w : World σ β} (hst : w.mState = .suplHandshakeSend)
    (hs : w.mSession.isSome = true) : Round api w (w.stateHandshakeSend api) := by
  obtain ⟨session, hsession⟩ := Option.isSome_iff_exists.1 hs
  simp only [stateHandshakeSend, hsession]
  split_ifs
  · exact .waitRead (.setSession w _) rfl (by decide) (by decide) (by decide) (by decide)
  · exact .next (.setSession w _) rfl hst (by decide) (by decide) (by decide)

theorem stateHandshakeRecv_round {w : World σ β} (hst : w.mState = .suplHandshakeRecv)
    (hs : w.mSession.isSome = true) : Round api w (w.stateHandshakeRecv api) := by
  obtain ⟨session, hsession⟩ := Option.isSome_iff_exists.1 hs
  simp only [stateHandshakeRecv, hsession]
  cases (api.handleHandshake session).2 with
  | noData => exact .waitRead (.setSession w _) rfl (by decide) (by decide) (by decide) (by decide)
  | error =>
    exact .refused (.setSession w _) rfl ⟨rfl, by decide, by decide, by decide, by decide⟩
  | ok => exact .next (.setSession w _) rfl hst (by decide) (by decide) (by decide)

theorem statePosinit_round {w : World σ β} (hst : w.mState = .suplPosinit)
    (hs : w.mSession.isSome = true) : Round api w (w.statePosinit api) := by
  obtain ⟨session, hsession⟩ := Option.isSome_iff_exists.1 hs
  simp only [statePosinit, hsession]
  have hlater : ∀ session, w.Later { w with mSession := session, mPosQueue := [] } :=
    fun session => ⟨{ w.toEndpoint with mSession := session, mPosQueue := [] }, w.callbacks, rfl⟩
  split_ifs
  · exact .next (hlater _) rfl hst (by decide) (by decide) (by decide)
  · exact .next (hlater _) rfl hst (by decide) (by decide) (by decide)

theorem stateEstablished_round {w : World σ β} (hw : w.mScheduler = true)
    (hst : w.mState = .established) (hs : w.mSession.isSome = true) :
    Round api w (w.stateEstablished api codec) := by
  have hwaits : awaitMessage.Waits :=
    NextState.waits_read (by decide) (by decide) (by decide)
  rcases callback_cases api codec hw with ⟨hk, ho⟩ | hc
  · exact .wait hk.1 (hk.2.1.trans hs) (Or.inr ⟨_, rfl, ho⟩) hwaits (Or.inl (by decide))
  · exact .cancelledEstablished hst hc hwaits

theorem stateDisconnected_round {w : World σ β} (hw : w.mScheduler = true)
    (hst : w.mState = .disconnected) : Round api w (w.stateDisconnected api codec) := by
  rcases callback_cases api codec hw with ⟨hk, ho⟩ | hc
  · exact .farewell hst hk ho
  · exact .cancelledDisconnected hst hc

theorem stateMessage_round {w : World σ β} (hw : w.mScheduler = true)
    (hst : w.mState = .message) (hs : w.mSession.isSome = true) :
    Round api w (w.stateMessage api codec) := by
  obtain ⟨session, hsession⟩ := Option.isSome_iff_exists.1 hs
  simp only [stateMessage, hsession]
  split_ifs
  · have hlater := Later.setSession w (some (api.fillReceiveBuffer session).1)
    have hloop := receiveLoop_cases api codec
      (api.buffered (api.fillReceiveBuffer session).1 + 1)
      (w := { w with mSession := some (api.fillReceiveBuffer session).1 }) hw rfl
      (by simp [Endpoint.held])
    generalize receiveLoop api codec _ _ = r at hloop ⊢
    obtain ⟨w', out, n⟩ := r
    rcases hloop with ⟨hl, hs', ho, rfl | rfl⟩ | hc
    · exact .wait (hlater.trans hl) hs' (Or.inl ho)
        (NextState.waits_read (by decide) (by decide) (by decide)) (Or.inl (by decide))
    · exact .follow (hlater.trans hl) hs' ho
        (NextState.follows_next (by decide) (by decide) (by rw [hst]; decide))
    · exact .cancelledMessage hst (hlater.cancellation ▸ hc)
  · exact .next (.setSession w _) rfl hst (by decide) (by decide) (by decide)

variable (api codec) in
/-- **One round.**  In a scheduled session whose state has what it needs, the function of the
state does one of the things listed, whatever the SUPL session answers. -/
theorem state_round {w : World σ β} (hw : w.mScheduler = true)
    (hs : w.mSession.isSome = true ∨ w.mState = .connect ∨ w.mState = .disconnected)
    (hu : w.mState ≠ .unknown) (he : w.mState ≠ .exit) :
    Round api w (w.state api codec) := by
  have hsome : w.mState ≠ .connect → w.mState ≠ .disconnected → w.mSession.isSome = true := by
    tauto
  unfold state
  cases hst : w.mState with
  | unknown => exact absurd hst hu
  | exit => exact absurd hst he
  | connect => exact stateConnect_round hst
  | connecting => exact stateConnecting_round hst (hsome (by simp [hst]) (by simp [hst]))
  | connectionFailed =>
    exact .next (.refl w) (hsome (by simp [hst]) (by simp [hst])) hst (by decide) (by decide)
      (by decide)
  | connected =>
    exact .next (.refl w) (hsome (by simp [hst]) (by simp [hst])) hst (by decide) (by decide)
      (by decide)
  | disconnected => exact stateDisconnected_round hw hst
  | error =>
    exact .next (.refl w) (hsome (by simp [hst]) (by simp [hst])) hst (by decide) (by decide)
      (by decide)
  | suplHandshakeSend => exact stateHandshakeSend_round hst (hsome (by simp [hst]) (by simp [hst]))
  | suplHandshakeRecv => exact stateHandshakeRecv_round hst (hsome (by simp [hst]) (by simp [hst]))
  | suplPosinit => exact statePosinit_round hst (hsome (by simp [hst]) (by simp [hst]))
  | established => exact stateEstablished_round hw hst (hsome (by simp [hst]) (by simp [hst]))
  | message => exact stateMessage_round hw hst (hsome (by simp [hst]) (by simp [hst]))

end World

/-! ### A SUPL session that takes every message -/

/-- Sending leaves the SUPL session as it is. -/
def Steady (api : SuplApi σ) (session : σ) : Prop :=
  ∀ pos, api.send session pos = (session, true)

namespace Endpoint

theorem send_steady {s : Endpoint σ} {session : σ} (hs : s.mSession = some session)
    (hsteady : Steady api session) (handle : TransactionHandle) (message : Message β) :
    (s.send api.toSupl codec handle message).1.mSession = some session := by
  rcases send_mSession api codec s handle message with
    h | ⟨session', pos, hs', ⟨-, h⟩ | ⟨hfail, -⟩⟩
  · exact h.trans hs
  · obtain rfl : session = session' := Option.some.inj (hs.symm.trans hs')
    rw [h, hsteady pos]
  · obtain rfl : session = session' := Option.some.inj (hs.symm.trans hs')
    rw [hsteady pos] at hfail
    cases hfail

theorem sendWithEnd_steady {s : Endpoint σ} {session : σ} (hs : s.mSession = some session)
    (hsteady : Steady api session) (handle : TransactionHandle) (message : Message β) :
    (s.sendWithEnd api.toSupl codec handle message).1.mSession = some session := by
  unfold sendWithEnd
  cases hd : s.findTransaction handle with
  | none => exact hs
  | some d => exact send_steady (s := s.asking handle d) hs hsteady handle message

end Endpoint

namespace World

/-- `w'` comes after calls in `w` that left the SUPL session alone, and none of the calls that
callbacks still have to make will cancel. -/
structure Undisturbed (session : σ) (w w' : World σ β) : Prop where
  later : w.Later w'
  session : w'.mSession = some session
  tame : ∀ calls ∈ w'.callbacks, Call.cancel ∉ calls

variable {session : σ}

theorem Undisturbed.trans {session' : σ} {w₁ w₂ w₃ : World σ β}
    (h₁ : Undisturbed session w₁ w₂) (h₂ : Undisturbed session' w₂ w₃) :
    Undisturbed session' w₁ w₃ :=
  ⟨h₁.later.trans h₂.later, h₂.session, h₂.tame⟩

theorem Undisturbed.onEndpoint {w : World σ β} {r : Endpoint σ × List (Event β)}
    (htame : ∀ calls ∈ w.callbacks, Call.cancel ∉ calls) (h : r.1.mSession = some session) :
    Undisturbed session w (w.onEndpoint r).1 :=
  ⟨⟨r.1, w.callbacks, rfl⟩, h, htame⟩

variable (api codec) in
theorem calls_undisturbed {w : World σ β} (hw : Undisturbed session w w)
    (hsteady : Steady api session) {cs : List (Call β)} (hcs : Call.cancel ∉ cs) :
    Undisturbed session w (Mealy.run (call api codec) w cs).1 := by
  induction cs generalizing w with
  | nil => exact hw
  | cons c cs ih =>
    simp only [List.mem_cons, not_or] at hcs
    rw [Mealy.run_cons]
    have hc : Undisturbed session w (w.call api codec c).1 := by
      cases c with
      | createTransaction sse => exact .onEndpoint hw.tame hw.session
      | deleteTransaction handle => exact .onEndpoint hw.tame hw.session
      | send handle message =>
        exact .onEndpoint hw.tame (Endpoint.send_steady hw.session hsteady handle message)
      | sendWithEnd handle message =>
        exact .onEndpoint hw.tame (Endpoint.sendWithEnd_steady hw.session hsteady handle message)
      | abort handle =>
        exact .onEndpoint hw.tame (Endpoint.sendWithEnd_steady hw.session hsteady handle _)
      | cancel => exact absurd rfl hcs.1
    exact hc.trans (ih ⟨.refl _, hc.session, hc.tame⟩ hcs.2)

variable (api codec) in
theorem callback_undisturbed {w : World σ β} (hw : Undisturbed session w w)
    (hsteady : Steady api session) : Undisturbed session w (w.callback api codec).1 := by
  unfold callback
  cases hc : w.callbacks with
  | nil => exact hw
  | cons calls callbacks =>
    have htame := hw.tame
    rw [hc] at htame
    obtain ⟨hcalls, hrest⟩ := List.forall_mem_cons.1 htame
    have hstart : Undisturbed session w { w with callbacks := callbacks } :=
      ⟨⟨w.toEndpoint, callbacks, rfl⟩, hw.session, hrest⟩
    exact hstart.trans (calls_undisturbed api codec (w := { w with callbacks := callbacks })
      ⟨.refl _, hw.session, hrest⟩ hsteady hcalls)

variable (api codec) in
theorem processSuplPos_undisturbed {w : World σ β} (hw : Undisturbed session w w)
    (hsteady : Steady api session) (payloads : List Payload) :
    Undisturbed session w (w.processSuplPos api codec payloads).1 ∧
      (w.processSuplPos api codec payloads).2.2 = true := by
  induction payloads generalizing w with
  | nil => exact ⟨hw, rfl⟩
  | cons payload payloads ih =>
    unfold processSuplPos
    cases payload.type with
    | lpp =>
      dsimp only
      have hpayload : Undisturbed session w (w.processLppPayload api codec payload).1 ∧
          (w.processLppPayload api codec payload).2.2 = true := by
        simp only [processLppPayload, hw.session]
        have hreceive : Undisturbed session w
            (w.onEndpoint ((w.toEndpoint.receive (codec.decode payload.data)).1,
              (w.toEndpoint.receive (codec.decode payload.data)).2.1)).1 :=
          .onEndpoint hw.tame ((Endpoint.receive_mSession _ _).trans hw.session)
        cases (w.toEndpoint.receive (codec.decode payload.data)).2.2 with
        | none => exact ⟨hreceive, rfl⟩
        | some frame =>
          have hc := callback_undisturbed api codec
            ⟨.refl _, hreceive.session, hreceive.tame⟩ hsteady
          exact ⟨(hreceive.trans hc).trans (.onEndpoint hc.tame
            ((Endpoint.returned_mSession _ _).trans hc.session)), rfl⟩
      obtain ⟨hp, hr⟩ := hpayload
      rw [if_pos hr]
      obtain ⟨hrest, hok⟩ := ih ⟨.refl _, hp.session, hp.tame⟩
      exact ⟨hp.trans hrest, hok⟩
    | nothing => exact ih hw
    | tia801 => exact ih hw
    | rrc => exact ih hw
    | rrlp => exact ih hw

end World

end SuplLpp.Lpp
