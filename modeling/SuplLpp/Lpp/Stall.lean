import SuplLpp.Lpp.Round

/-!
# No silent stall

A call of `process` should leave the session waiting for its connection, or finished.

* `Attached`, `Finished`: the two ways a call of `process` may end;
* `Smooth`: what the SUPL session and the callbacks must not do in a step;
* `process_settles`: in a run of smooth steps, every call of `process` ends in one of the two
  ways and nothing stops the program.

`wait` switches to `disconnected` and returns when the connection is found lost, and
`state_handshake_recv` waits for nothing but an error when the handshake fails.  In both cases
no event comes that would lead to `exit`.
-/

namespace SuplLpp.Lpp

variable {σ β : Type*} (api : SuplApi σ) (codec : Codec β)

/-! ### What a call of `process` should leave -/

/-- Counts the calls of `on_disconnected` since the last `connect`. -/
def tally (n : ℕ) : Occurrence β → ℕ
  | .connecting => 0
  | .onDisconnected => n + 1
  | _ => n

/-- How often `on_disconnected` was called for the connection. -/
def farewells (h : List (Occurrence β)) : ℕ := h.foldl tally 0

namespace World

/-- The connection is up, and the last update that waits at the scheduler registers it for
reading or writing. -/
def Attached (w : World σ β) : Prop :=
  ∃ session u, w.mSession = some session ∧ 0 ≤ api.fd session ∧
    api.isDisconnected session = false ∧ api.lost session = false ∧
    w.deferred.getLast? = some ⟨u, false⟩ ∧ u.fd = api.fd session ∧
    (u.read = true ∨ u.write = true) ∧
    w.taskAfter.mScheduler = true ∧ w.taskAfter.wants = u

/-- The session has ended and said so once. -/
def Finished (w : World σ β) (h : List (Occurrence β)) : Prop :=
  w.mState = .exit ∧ farewells h = 1

/-- The operation calls `process`, or should. -/
def Processes (w : World σ β) : Op σ β → Prop
  | .start _ _ => True
  | .event triggered _ => w.delivers triggered = true
  | .deferred _ => False
  | .call _ => False

end World

/-- The handshake was refused, a callback cancelled the session, or the session asked to wait
on a lost connection or with a task that forgot to register. -/
def Occurrence.Flaw : Occurrence β → Prop
  | .handshakeFailed | .cancelled _ _ _ | .waitingLost | .waitingForgotten => True
  | _ => False

instance : DecidablePred (Occurrence.Flaw (β := β))
  | .lpp _ | .connecting | .onEstablished | .onDisconnected | .registered _ _ | .fault _ =>
    .isFalse id
  | .cancelled _ _ _ | .handshakeFailed | .waitingLost | .waitingForgotten => .isTrue trivial

/-- None of the flaws occurs in the step; an event finds the session scheduled and is not a
hangup alone. -/
def World.Smooth (w : World σ β) (_ : List (Occurrence β)) (op : World.Op σ β) : Prop :=
  w.Processes op → (∀ o ∈ (w.step api codec op).2, ¬o.Flaw) ∧
    match op with
    | .event triggered _ =>
      w.mScheduler = true ∧ (triggered.read || triggered.write || triggered.error) = true
    | _ => True

/-! ### Counting the farewells -/

theorem farewells_append_of_forall {h out : List (Occurrence β)}
    (ho : ∀ o ∈ out, ∀ n, tally n o = n) : farewells (h ++ out) = farewells h := by
  rw [farewells, farewells, List.foldl_append]
  generalize h.foldl tally 0 = n
  induction out with
  | nil => rfl
  | cons o out ih =>
    rw [List.foldl_cons, ho o List.mem_cons_self]
    exact ih fun o h => ho o (List.mem_cons_of_mem _ h)

theorem farewells_append_onlyLpp {h out : List (Occurrence β)} (ho : World.OnlyLpp out) :
    farewells (h ++ out) = farewells h := by
  refine farewells_append_of_forall fun o h n => ?_
  obtain ⟨e, rfl⟩ := ho o h
  rfl

namespace World

variable {api codec}

/-! ### The task and the updates that wait -/

/-- The last update given to the task or waiting for it. -/
def desired (w : World σ β) : Update :=
  (w.deferred.getLast?.map Deferred.update).getD w.mTask.wants

@[simp] theorem desired_defer (w : World σ β) (u : Update) : (w.defer u).desired = u := by
  simp [desired, defer]

theorem sound_foldl {t : SessionTask} (h : t.Sound) (ds : List Deferred) :
    (ds.foldl (fun t d => t.update d.update true) t).Sound := by
  induction ds generalizing t with
  | nil => exact h
  | cons d ds ih => exact ih (SessionTask.sound_update h _ _)

theorem taskAfter_defer (w : World σ β) (u : Update) :
    (w.defer u).taskAfter = w.taskAfter.update u true := by
  simp [taskAfter, defer, List.foldl_append]

/-- Running the oldest update does not change what is desired. -/
theorem desired_runDeferred {w : World σ β} (h : w.mTask.Sound) (registers : Bool) :
    (w.runDeferred registers).1.desired = w.desired := by
  unfold runDeferred
  cases hd : w.deferred with
  | nil => rfl
  | cons d ds =>
    rcases List.eq_nil_or_concat ds with rfl | ⟨ds', d', rfl⟩
    · simp [desired, hd, SessionTask.wants_update h]
    · have hlast : ∀ l : List Deferred, (l ++ [d']).getLast? = some d' := by simp
      rw [List.concat_eq_append] at hd ⊢
      simp only [desired, hd, hlast, ← List.cons_append, Option.map_some, Option.getD_some]

theorem runDeferred_sound {w : World σ β} (h : w.mTask.Sound) (registers : Bool) :
    (w.runDeferred registers).1.mTask.Sound := by
  unfold runDeferred
  cases w.deferred with
  | nil => exact h
  | cons d ds => exact SessionTask.sound_update h _ _

/-- A wait without a flaw attaches the session. -/
theorem wait_attaches {w : World σ β} {n : NextState} (hsound : w.mTask.Sound)
    (hs : w.mSession.isSome = true) (ha : n.Attends)
    (hflaw : ∀ o ∈ (w.wait api n).2, ¬o.Flaw) :
    (w.wait api n).2 = [] ∧ Attached api (w.wait api n).1 ∧
      ∃ fd, (w.wait api n).1 = (w.awaiting n).defer (n.update fd) := by
  obtain ⟨session, hsession⟩ := Option.isSome_iff_exists.1 hs
  simp only [wait, hsession] at hflaw ⊢
  by_cases hup : !w.mScheduler ∨ api.fd session < 0 ∨ api.isDisconnected session
  · rw [if_pos hup] at hflaw
    exact absurd trivial (hflaw .waitingLost (by simp))
  · rw [if_neg hup] at hflaw ⊢
    simp only [Bool.not_eq_true', not_or, Bool.not_eq_false, not_lt, Bool.not_eq_true] at hup
    obtain ⟨-, hfd, hdisconnected⟩ := hup
    have hlost : api.lost session = false := by
      by_contra hl
      rw [Bool.not_eq_false] at hl
      exact hflaw .waitingLost (by simp [hl]) trivial
    have hforgotten : (w.awaiting n).forgotten (n.update (api.fd session)) = false := by
      by_contra hf
      rw [Bool.not_eq_false] at hf
      exact hflaw .waitingForgotten (by simp [hf]) trivial
    refine ⟨by simp [hlost, hforgotten], ?_, api.fd session, rfl⟩
    have htask : (w.awaiting n).taskAfter.Sound := sound_foldl hsound _
    have hattends : (n.update (api.fd session)).read = true ∨
        (n.update (api.fd session)).write = true := by
      simpa [NextState.update, NextState.Attends] using ha
    refine ⟨session, n.update (api.fd session), hsession, hfd, hdisconnected, hlost,
      by simp [defer], rfl, hattends, ?_, ?_⟩
    · rw [taskAfter_defer, SessionTask.update_eq htask]
      by_cases hw : (w.awaiting n).taskAfter.wants = n.update (api.fd session)
      · rw [if_pos hw]
        simpa [forgotten, hw] using hforgotten
      · rw [if_neg hw]
        have : (n.update (api.fd session)).fd ≠ -1 := by
          simp only [NextState.update]
          omega
        simp [this]
    · rw [taskAfter_defer, SessionTask.wants_update htask]

/-! ### The invariant -/

/-- The session waits, and what it desires matches the states it will go on with. -/
structure Waiting (w : World σ β) (h : List (Occurrence β)) : Prop where
  state : w.mState ≠ .unknown ∧ w.mState ≠ .exit
  session : w.mSession.isSome = true
  farewells : farewells h = 0
  read : w.desired.read = true → w.mNextReadState ≠ .unknown ∧ w.mNextReadState ≠ .exit
  write : w.desired.write = true → w.mNextWriteState ≠ .unknown ∧ w.mNextWriteState ≠ .exit
  error : w.mNextErrorState ≠ .unknown ∧ w.mNextErrorState ≠ .exit

/-- What holds between the steps of a smooth run. -/
structure Settled (w : World σ β) (h : List (Occurrence β)) : Prop where
  sound : w.mTask.Sound
  idle : w.mScheduler = false → w.mState = .unknown ∨ w.mState = .exit
  busy : w.mScheduler = true → (w.mState = .exit ∧ w.desired = .off) ∨ w.Waiting h

/-- What holds when `process` is called, and between its rounds. -/
structure Running (w : World σ β) (h : List (Occurrence β)) : Prop where
  sound : w.mTask.Sound
  scheduled : w.mScheduler = true
  state : (w.mState = .exit ∧ farewells h = 1) ∨
    (w.mState ≠ .unknown ∧ w.mState ≠ .exit ∧ farewells h = 0 ∧
      (w.mSession.isSome = true ∨ w.mState = .connect ∨ w.mState = .disconnected))

/-- How a call of `process` ends. -/
structure Ends (api : SuplApi σ) (r : World σ β × List (Occurrence β)) (h : List (Occurrence β)) :
    Prop where
  faultless : ∀ f, .fault f ∉ r.2
  settled : Settled r.1 (h ++ r.2)
  result : Attached api r.1 ∨ Finished r.1 (h ++ r.2)

theorem onlyLpp_faultless {out : List (Occurrence β)} (h : OnlyLpp out) (f : Fault) :
    .fault f ∉ out := by
  intro hf
  obtain ⟨e, he⟩ := h _ hf
  cases he

theorem Ends.prepend {r : World σ β × List (Occurrence β)} {h out : List (Occurrence β)}
    (hout : ∀ f, .fault f ∉ out) (hr : Ends api r (h ++ out)) :
    Ends api (r.1, out ++ r.2) h := by
  obtain ⟨hf, hs, hres⟩ := hr
  rw [List.append_assoc] at hs hres
  refine ⟨fun f hmem => ?_, hs, hres⟩
  rcases List.mem_append.1 hmem with hmem | hmem
  · exact hout f hmem
  · exact hf f hmem

/-- The end of a round that waits. -/
theorem Running.ends_wait {w w' : World σ β} {h out : List (Occurrence β)} {n : NextState}
    (hw : w.Running h) (hlater : w.Later w') (hsession : w'.mSession.isSome = true)
    (hstate : w.mState ≠ .unknown ∧ w.mState ≠ .exit) (hfare : farewells (h ++ out) = 0)
    (hout : ∀ f, .fault f ∉ out) (hwaits : n.Waits) (hattends : n.Attends)
    (hflaw : ∀ o ∈ (w'.wait api n).2, ¬o.Flaw) :
    Ends api ((w'.wait api n).1, out ++ (w'.wait api n).2) h := by
  obtain ⟨endpoint, callbacks, rfl⟩ := hlater
  obtain ⟨hquiet, hattached, fd, hwait⟩ := wait_attaches
    (w := { w with toEndpoint := endpoint, callbacks := callbacks })
    hw.sound hsession hattends hflaw
  rw [hquiet, List.append_nil]
  refine ⟨hout, ?_, Or.inl hattached⟩
  rw [hwait]
  refine ⟨hw.sound, ?_, fun _ => Or.inr ⟨hstate, hsession, hfare, ?_, ?_, hwaits.error⟩⟩
  · intro hsch
    exact absurd hw.scheduled (by rw [show w.mScheduler = false from hsch]; decide)
  · intro hread
    have hne : n.readState ≠ .unknown := by simpa [NextState.update] using hread
    exact ⟨hne, hwaits.read⟩
  · intro hwrite
    have hne : n.writeState ≠ .unknown := by simpa [NextState.update] using hwrite
    exact ⟨hne, hwaits.write⟩

/-- **`process` settles**, if nothing flawed occurs in it. -/
theorem process_ends {fuel : ℕ} {w : World σ β} {h : List (Occurrence β)} (hw : w.Running h)
    (hfuel : w.mState.rank < fuel) (hflaw : ∀ o ∈ (w.process api codec fuel).2, ¬o.Flaw) :
    Ends api (w.process api codec fuel) h := by
  induction fuel generalizing w h with
  | zero => omega
  | succ fuel ih =>
    unfold process at hflaw ⊢
    by_cases hexit : w.mState = .exit
    · rw [if_pos hexit, if_pos hw.scheduled]
      have hfare : farewells h = 1 := by
        rcases hw.state with hst | hst
        · exact hst.2
        · exact absurd hexit hst.2.1
      refine ⟨by simp, ⟨hw.sound, ?_, fun _ => Or.inl ⟨hexit, desired_defer w .off⟩⟩,
        Or.inr ⟨hexit, by simpa using hfare⟩⟩
      intro hsch
      exact absurd hw.scheduled (by rw [show w.mScheduler = false from hsch]; decide)
    · rw [if_neg hexit] at hflaw ⊢
      obtain ⟨hu, -, hfare, hs⟩ : w.mState ≠ .unknown ∧ w.mState ≠ .exit ∧ farewells h = 0 ∧
          (w.mSession.isSome = true ∨ w.mState = .connect ∨ w.mState = .disconnected) := by
        rcases hw.state with hst | hst
        · exact absurd hst.1 hexit
        · exact hst
      have hround := state_round api codec hw.scheduled hs hu hexit
      generalize w.state api codec = a at hround hflaw ⊢
      cases hround with
      | @wait w' out n hlater hsession hout hwaits hattends =>
        simp only [hwaits.schedule, if_true] at hflaw ⊢
        have hcalm : (∀ f, .fault f ∉ out) ∧ farewells (h ++ out) = 0 := by
          rcases hout with hout | ⟨out', rfl, hout⟩
          · exact ⟨onlyLpp_faultless hout, by rw [farewells_append_onlyLpp hout, hfare]⟩
          · refine ⟨fun f hmem => ?_, ?_⟩
            · rcases List.mem_cons.1 hmem with hmem | hmem
              · cases hmem
              · exact onlyLpp_faultless hout f hmem
            · rw [List.append_cons, farewells_append_onlyLpp hout,
                farewells_append_of_forall (by simp [tally]), hfare]
        exact hw.ends_wait hlater hsession ⟨hu, hexit⟩ hcalm.2 hcalm.1 hwaits hattends
          fun o ho => hflaw o (List.mem_append_right _ ho)
      | refused hlater hsession hwaits =>
        simp only [hwaits.schedule, if_true] at hflaw
        exact absurd trivial (hflaw .handshakeFailed (by simp))
      | @follow w' out n hlater hsession hout hfollows =>
        simp only [hfollows.schedule, Bool.false_eq_true, if_false] at hflaw ⊢
        have hrun : (w'.switchState n.nextState).Running (h ++ out) := by
          obtain ⟨endpoint, callbacks, rfl⟩ := hlater
          exact ⟨hw.sound, hw.scheduled, Or.inr ⟨hfollows.next.1, hfollows.next.2,
            by rw [farewells_append_onlyLpp hout, hfare], Or.inl hsession⟩⟩
        have hrank : (w'.switchState n.nextState).mState.rank < fuel :=
          lt_of_lt_of_le hfollows.rank (by omega)
        exact (ih hrun hrank fun o ho => hflaw o (List.mem_append_right _ ho)).prepend
          (onlyLpp_faultless hout)
      | @farewell w' out hst hkeeps hout =>
        simp only [NextState.next, NextState.make, Bool.false_eq_true, if_false] at hflaw ⊢
        have hrun : (w'.switchState .exit).Running (h ++ .onDisconnected :: out) := by
          obtain ⟨endpoint, callbacks, rfl⟩ := hkeeps.1
          refine ⟨hw.sound, hw.scheduled, Or.inl ⟨rfl, ?_⟩⟩
          rw [List.append_cons, farewells_append_onlyLpp hout, farewells, List.foldl_append]
          simp [tally, show h.foldl tally 0 = 0 from hfare]
        have hrank : (w'.switchState .exit).mState.rank < fuel := by
          rw [hst] at hfuel
          simp only [State.rank] at hfuel
          simp only [switchState, State.rank]
          omega
        refine (ih hrun hrank fun o ho => hflaw o (List.mem_append_right _ ho)).prepend ?_
        intro f hmem
        rcases List.mem_cons.1 hmem with hmem | hmem
        · cases hmem
        · exact onlyLpp_faultless hout f hmem
      | cancelledEstablished hst hcancels hwaits =>
        simp only [hwaits.schedule, if_true] at hflaw
        exact absurd trivial (hflaw w.cancellation (by simp [hcancels.mem]))
      | cancelledDisconnected hst hcancels =>
        simp only [NextState.next, NextState.make, Bool.false_eq_true, if_false] at hflaw
        exact absurd trivial (hflaw w.cancellation (by simp [hcancels.mem]))
      | @cancelledMessage w' out n hst hmem =>
        refine absurd trivial (hflaw w.cancellation ?_)
        cases n with
        | none => exact hmem
        | some n =>
          dsimp only
          split_ifs <;> exact List.mem_append_left _ hmem

/-! ### One step -/

theorem Waiting.running {w : World σ β} {h : List (Occurrence β)} (hw : w.Waiting h)
    (hsound : w.mTask.Sound) (hsch : w.mScheduler = true) {state : State}
    (hu : state ≠ .unknown) (he : state ≠ .exit) : (w.switchState state).Running h :=
  ⟨hsound, hsch, Or.inr ⟨hu, he, hw.farewells, Or.inl hw.session⟩⟩

theorem rank_lt_rounds (state : State) : state.rank < rounds := by
  cases state <;> decide

theorem start_ends {w : World σ β} {h : List (Occurrence β)} (hw : w.Settled h) (fresh : σ)
    (callbacks : List (List (Call β)))
    (hflaw : ∀ o ∈ (w.start api codec fresh callbacks).2, ¬o.Flaw) :
    Ends api (w.start api codec fresh callbacks) h := by
  unfold start at hflaw ⊢
  have hrun : ({ w.connect.1 with
      mScheduler := true, fresh := fresh, callbacks := callbacks } : World σ β).Running
        (h ++ w.connect.2) := by
    unfold connect
    by_cases hst : w.mState ≠ .unknown ∧ w.mState ≠ .exit
    · rw [if_pos hst, List.append_nil]
      cases hsch : w.mScheduler with
      | false =>
        rcases hw.idle hsch with hidle | hidle
        · exact absurd hidle hst.1
        · exact absurd hidle hst.2
      | true =>
        rcases hw.busy hsch with hbusy | hwaiting
        · exact absurd hbusy.1 hst.2
        · exact ⟨hw.sound, rfl, Or.inr ⟨hst.1, hst.2, hwaiting.farewells,
            Or.inl hwaiting.session⟩⟩
    · rw [if_neg hst]
      refine ⟨hw.sound, rfl, Or.inr ⟨by simp [switchState], by simp [switchState], ?_,
        Or.inr (Or.inl rfl)⟩⟩
      rw [farewells, List.foldl_append]
      rfl
  refine (process_ends hrun (rank_lt_rounds _) fun o ho =>
    hflaw o (List.mem_append_right _ ho)).prepend ?_
  unfold connect
  split_ifs <;> simp

theorem event_ends {w : World σ β} {h : List (Occurrence β)} (hw : w.Settled h)
    {triggered : Triggered} (hdelivers : w.delivers triggered = true)
    (hsch : w.mScheduler = true)
    (htrig : (triggered.read || triggered.write || triggered.error) = true)
    (hflaw : ∀ o ∈ (w.event api codec triggered).2, ¬o.Flaw) :
    Ends api (w.event api codec triggered) h := by
  simp only [delivers, Bool.and_eq_true, Bool.or_eq_true, Bool.not_eq_true',
    List.isEmpty_iff] at hdelivers
  obtain ⟨⟨⟨hregistered, hempty⟩, hread⟩, hwrite⟩ := hdelivers
  have hdesired : w.desired = w.mTask.wants := by simp [desired, hempty]
  have hwaiting : w.Waiting h := by
    rcases hw.busy hsch with ⟨-, hoff⟩ | hwaiting
    · rw [hdesired] at hoff
      exact absurd (congrArg Update.fd hoff) (hw.sound hregistered)
    · exact hwaiting
  unfold event at hflaw ⊢
  cases hr : triggered.read with
  | true =>
    simp only [hr, if_true] at hflaw ⊢
    have hen : w.mTask.mReadEnabled = true := by simpa [hr] using hread
    obtain ⟨hu, he⟩ := hwaiting.read (by rw [hdesired]; exact hen)
    exact process_ends (hwaiting.running hw.sound hsch hu he) (rank_lt_rounds _) hflaw
  | false =>
    simp only [hr, Bool.false_eq_true, if_false] at hflaw ⊢
    cases hwr : triggered.write with
    | true =>
      simp only [hwr, if_true] at hflaw ⊢
      have hen : w.mTask.mWriteEnabled = true := by simpa [hwr] using hwrite
      obtain ⟨hu, he⟩ := hwaiting.write (by rw [hdesired]; exact hen)
      exact process_ends (hwaiting.running hw.sound hsch hu he) (rank_lt_rounds _) hflaw
    | false =>
      have herr : triggered.error = true := by simpa [hr, hwr] using htrig
      simp only [hwr, herr, Bool.false_eq_true, if_false, if_true] at hflaw ⊢
      obtain ⟨hu, he⟩ := hwaiting.error
      exact process_ends (hwaiting.running hw.sound hsch hu he) (rank_lt_rounds _) hflaw

theorem call_settled {w : World σ β} {h : List (Occurrence β)} (hw : w.Settled h) (c : Call β) :
    (w.call api codec c).1.Settled (h ++ (w.call api codec c).2) := by
  by_cases hc : c = .cancel
  · subst hc
    cases hsch : w.mScheduler with
    | true =>
      rw [show w.call api codec .cancel = (w.cancelled, [w.cancellation]) from cancel_eq hsch]
      exact ⟨SessionTask.sound_cancel _, fun _ => Or.inr rfl,
        fun hs => absurd hs (by simp [cancelled])⟩
    | false =>
      rw [show w.call api codec .cancel = (w, [.fault .nullScheduler]) by
        simp [call, cancel, hsch]]
      exact ⟨hw.sound, hw.idle, fun hs => absurd hs (by simp [hsch])⟩
  · obtain ⟨⟨hlater, hkept⟩, ho⟩ := call_keeps api codec w hc
    generalize w.call api codec c = r at hlater hkept ho ⊢
    obtain ⟨w', out⟩ := r
    obtain ⟨endpoint, callbacks, rfl⟩ := hlater
    refine ⟨hw.sound, hw.idle, fun hs => ?_⟩
    rcases hw.busy hs with hexit | hwaiting
    · exact Or.inl hexit
    · exact Or.inr ⟨hwaiting.state, hkept.1.trans hwaiting.session,
        by rw [farewells_append_onlyLpp ho, hwaiting.farewells], hwaiting.read, hwaiting.write,
        hwaiting.error⟩

theorem runDeferred_settled {w : World σ β} {h : List (Occurrence β)} (hw : w.Settled h)
    (registers : Bool) :
    (w.runDeferred registers).1.Settled (h ++ (w.runDeferred registers).2) := by
  have hfare : farewells (h ++ (w.runDeferred registers).2) = farewells h := by
    refine farewells_append_of_forall fun o ho n => ?_
    unfold runDeferred at ho
    cases hd : w.deferred with
    | nil => simp [hd] at ho
    | cons d ds =>
      simp only [hd] at ho
      split_ifs at ho
      · rw [List.mem_singleton.1 ho]
        rfl
      · simp at ho
  have hfields : ∃ task ds, (w.runDeferred registers).1 =
      { w with mTask := task, deferred := ds } := by
    unfold runDeferred
    cases hd : w.deferred with
    | nil => exact ⟨w.mTask, w.deferred, rfl⟩
    | cons d ds => exact ⟨_, _, rfl⟩
  have hsound := runDeferred_sound hw.sound registers
  have hdesired := desired_runDeferred hw.sound registers
  obtain ⟨task, ds, heq⟩ := hfields
  rw [heq] at hsound hdesired ⊢
  refine ⟨hsound, hw.idle, fun hs => ?_⟩
  rcases hw.busy hs with ⟨hexit, hoff⟩ | hwaiting
  · exact Or.inl ⟨hexit, hdesired.trans hoff⟩
  · refine Or.inr ⟨hwaiting.state, hwaiting.session, hfare.trans hwaiting.farewells, ?_, ?_,
      hwaiting.error⟩
    · rw [hdesired]
      exact hwaiting.read
    · rw [hdesired]
      exact hwaiting.write

/-- A smooth step that calls `process` ends it well. -/
theorem step_ends {w : World σ β} {h : List (Occurrence β)} {op : Op σ β} (hw : w.Settled h)
    (hop : w.Processes op) (hsmooth : w.Smooth api codec h op) :
    Ends api (w.step api codec op) h := by
  obtain ⟨hflaw, hcond⟩ := hsmooth hop
  cases op with
  | start fresh callbacks => exact start_ends hw fresh callbacks hflaw
  | event triggered callbacks =>
    have hdelivers : w.delivers triggered = true := hop
    simp only [step, hdelivers, if_true] at hflaw ⊢
    refine event_ends (w := { w with callbacks := callbacks }) ?_ hdelivers hcond.1 hcond.2 hflaw
    refine ⟨hw.sound, hw.idle, fun hs => ?_⟩
    rcases hw.busy hs with hexit | hwaiting
    · exact Or.inl hexit
    · exact Or.inr ⟨hwaiting.state, hwaiting.session, hwaiting.farewells, hwaiting.read,
        hwaiting.write, hwaiting.error⟩
  | deferred registers => exact absurd hop id
  | call c => exact absurd hop id

theorem step_settled {w : World σ β} {h : List (Occurrence β)} {op : Op σ β} (hw : w.Settled h)
    (hsmooth : w.Smooth api codec h op) :
    (w.step api codec op).1.Settled (h ++ (w.step api codec op).2) := by
  by_cases hop : w.Processes op
  · exact (step_ends hw hop hsmooth).settled
  · cases op with
    | start fresh callbacks => exact absurd trivial hop
    | event triggered callbacks =>
      have hno : w.delivers triggered = false := by simpa [Processes] using hop
      simpa [step, hno] using hw
    | deferred registers => exact runDeferred_settled hw registers
    | call c => exact call_settled hw c

theorem settled_new (fresh : σ) (hack : Bool) :
    (World.new fresh hack : World σ β).Settled [] :=
  ⟨SessionTask.sound_new, fun _ => Or.inl rfl, fun hs => absurd hs (by simp [new])⟩

/-! ### The main theorem -/

variable (api codec)

/-- **No silent stall.**  In a run of smooth steps every call of `process` returns, with the
connection up and an update that will register it for reading or writing, or with the session
at its end and its one farewell said. -/
theorem process_settles (fresh : σ) (hack : Bool) (ops : List (Op σ β)) (op : Op σ β)
    (hrun : Mealy.Along (Smooth api codec) (step api codec) (World.new fresh hack) []
      (ops ++ [op]))
    (hop : (Mealy.run (step api codec) (World.new fresh hack) ops).1.Processes op) :
    let r := Mealy.run (step api codec) (World.new fresh hack) ops
    let t := r.1.step api codec op
    (∀ f, .fault f ∉ t.2) ∧ (Attached api t.1 ∨ Finished t.1 (r.2 ++ t.2)) := by
  obtain ⟨hbefore, hlast⟩ := Mealy.along_append.1 hrun
  have hsettled := Mealy.invariant_run (P := Settled)
    (fun w h op hw hok => step_settled hw hok) (settled_new fresh hack) hbefore
  have hends := step_ends hsettled hop (by simpa using hlast.1)
  exact ⟨hends.faultless, hends.result⟩

theorem process_settles_established :
    let r := Mealy.run (step SuplApi.ideal Codec.ideal) (World.new () false) (comingUp ())
    let t := r.1.step SuplApi.ideal Codec.ideal (.event ⟨true, false, false, false⟩ [])
    (∀ f, .fault f ∉ t.2) ∧ (Attached SuplApi.ideal t.1 ∨ Finished t.1 (r.2 ++ t.2)) := by
  refine process_settles SuplApi.ideal Codec.ideal () false (comingUp ()) _ ?_ rfl
  refine ⟨fun _ => ⟨by decide, trivial⟩, fun h => absurd h id, fun _ => ⟨by decide, by decide⟩,
    fun h => absurd h id, fun _ => ⟨by decide, by decide⟩, trivial⟩

/-- A SUPL session whose handshake is refused. -/
def refusing : SuplApi Unit := { SuplApi.ideal with handleHandshake := fun s => (s, .error) }

/-- Not every call of `process` settles: when the handshake is refused the session waits for
an error of a connection that has none. -/
theorem process_stalls :
    ¬∀ (api : SuplApi Unit) (codec : Codec Unit) (hack : Bool) (ops : List (Op Unit Unit))
      (op : Op Unit Unit),
      (Mealy.run (step api codec) (World.new () hack) ops).1.Processes op →
      let r := Mealy.run (step api codec) (World.new () hack) ops
      let t := r.1.step api codec op
      (∀ f, .fault f ∉ t.2) ∧ (Attached api t.1 ∨ Finished t.1 (r.2 ++ t.2)) := by
  intro hall
  obtain ⟨-, ⟨session, u, -, -, -, -, hlast, -, hu, -⟩ | ⟨hexit, -⟩⟩ :=
    hall refusing Codec.ideal false (comingUp ()) (.event ⟨true, false, false, false⟩ []) rfl
  · have hwait : some ⟨⟨5, false, false, true⟩, false⟩ = some (⟨u, false⟩ : Deferred) := hlast
    obtain rfl : (⟨5, false, false, true⟩ : Update) = u := by simpa using hwait
    simp at hu
  · exact absurd hexit (by decide)

end World

end SuplLpp.Lpp
