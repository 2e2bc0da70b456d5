import SuplLpp.Lpp.Round

/-!
# Cancelling a session

`cancel` deletes the SUPL session and unregisters the task, but the updates that wait at the
scheduler stay there, and a call of `cancel` from `on_message` returns into the loop that
receives.

* `Harm`: what should not happen after a cancel;
* `Gentle`: no step cancels from `on_message`, and no cancel leaves an update behind that
  would register the file descriptor again;
* `cancel_safe`: in a run of gentle steps no harm is done.
-/

namespace SuplLpp.Lpp

variable {σ β : Type*} (api : SuplApi σ) (codec : Codec β)

/-- The deleted SUPL session is used, or an update queued before a cancel registers. -/
def Occurrence.Harm : Occurrence β → Prop
  | .fault .nullSession => True
  | .registered _ stale => stale = true
  | _ => False

/-- Running the updates on the unregistered task registers nothing: first come updates that
change nothing, then updates of a session at its end. -/
def Harmless (t : SessionTask) (us : List Update) : Prop :=
  ∃ a b, us = List.replicate a t.wants ++ List.replicate b .off

namespace World

/-- No harm was done. -/
def Unharmed (out : List (Occurrence β)) : Prop := ∀ o ∈ out, ¬o.Harm

/-- The step is a call of the user, not one of `process`. -/
def Op.isCall : Op σ β → Bool
  | .call _ => true
  | _ => false

/-- What the calls of `cancel` in a step must find. -/
def Gentle (w : World σ β) (_ : List (Occurrence β)) (op : Op σ β) : Prop :=
  ∀ state task queued, .cancelled state task queued ∈ (w.step api codec op).2 →
    Harmless task queued ∧ (op.isCall = false → state ≠ .message)

variable {api codec}

/-! ### Lists of harmless occurrences -/

theorem Unharmed.append {out out' : List (Occurrence β)} (h : Unharmed out)
    (h' : Unharmed out') : Unharmed (out ++ out') := by
  intro o ho
  rcases List.mem_append.1 ho with ho | ho
  · exact h o ho
  · exact h' o ho

theorem Unharmed.cons {o : Occurrence β} {out : List (Occurrence β)} (h : ¬o.Harm)
    (h' : Unharmed out) : Unharmed (o :: out) := by
  intro o' ho
  rcases List.mem_cons.1 ho with rfl | ho
  · exact h
  · exact h' o' ho

theorem Muted.unharmed {out : List (Occurrence β)} (h : Muted out) : Unharmed out := by
  intro o ho
  rcases h o ho with ⟨e, rfl⟩ | rfl <;> exact id

theorem OnlyLpp.unharmed {out : List (Occurrence β)} (h : OnlyLpp out) : Unharmed out :=
  Muted.unharmed fun o ho => Or.inl (h o ho)

theorem Cancels.unharmed {w w' : World σ β} {out : List (Occurrence β)}
    (h : Cancels api w w' out) : Unharmed out := by
  obtain ⟨-, es, fs, -, -, rfl, hes, hfs⟩ := h
  exact hes.unharmed.append (.cons id hfs.unharmed)

/-! ### The queue -/

/-- The updates that wait: those queued before the last cancel, which are harmless, and then
those queued since, which have a SUPL session to speak for. -/
structure Tidy (w : World σ β) : Prop where
  sound : w.mTask.Sound
  queue : ∃ us vs : List Update,
    w.deferred = us.map (⟨·, true⟩) ++ vs.map (⟨·, false⟩) ∧
      (us ≠ [] → w.mTask.mScheduler = false) ∧ Harmless w.mTask us ∧
      (w.mScheduler = false → vs = []) ∧ (w.mSession = none → ∀ v ∈ vs, v = .off)
  unscheduled : w.mScheduler = false → w.mTask.mScheduler = false
  gone : w.mSession = none → w.mTask.mScheduler = false

/-- What holds between the steps of a gentle run. -/
structure Safe (w : World σ β) : Prop where
  tidy : w.Tidy
  state : w.mSession = none →
    w.mState = .unknown ∨ w.mState = .exit ∨ w.mState = .disconnected ∨ w.mState = .connect

theorem Tidy.later {w w' : World σ β} (hw : w.Tidy) (hl : w.Later w')
    (hs : w.mSession = none ∨ w'.mSession.isSome = true) : w'.Tidy := by
  obtain ⟨endpoint, callbacks, rfl⟩ := hl
  have hnone : endpoint.mSession = none → w.mSession = none := by
    intro h
    rcases hs with hs | hs
    · exact hs
    · exact absurd hs (by simp [h])
  obtain ⟨us, vs, hd, hreg, hharm, hvs, hoff⟩ := hw.queue
  exact ⟨hw.sound, ⟨us, vs, hd, hreg, hharm, hvs, fun h => hoff (hnone h)⟩, hw.unscheduled,
    fun h => hw.gone (hnone h)⟩

theorem Tidy.keeps {w w' : World σ β} (hw : w.Tidy) (hk : Keeps api w w') : w'.Tidy := by
  refine hw.later hk.1 ?_
  cases h : w.mSession with
  | none => exact Or.inl rfl
  | some s => exact Or.inr (hk.2.1.trans (by simp [h]))

theorem Tidy.switchState {w : World σ β} (hw : w.Tidy) (state : State) :
    (w.switchState state).Tidy := ⟨hw.sound, hw.queue, hw.unscheduled, hw.gone⟩

/-- An update may be queued for a SUPL session, or for a session at its end. -/
theorem Tidy.defer {w : World σ β} (hw : w.Tidy) (hsch : w.mScheduler = true) {u : Update}
    (hu : w.mSession = none → u = .off) : (w.defer u).Tidy := by
  obtain ⟨us, vs, hd, hreg, hharm, -, hoff⟩ := hw.queue
  refine ⟨hw.sound, ⟨us, vs ++ [u], ?_, hreg, hharm, ?_, ?_⟩, hw.unscheduled, hw.gone⟩
  · simp [World.defer, hd]
  · intro h
    exact absurd hsch (by rw [show w.mScheduler = false from h]; decide)
  · intro h v hv
    rcases List.mem_append.1 hv with hv | hv
    · exact hoff h v hv
    · rw [List.mem_singleton.1 hv]
      exact hu h

/-- A cancel that finds harmless updates leaves them so. -/
theorem tidy_cancelled {w : World σ β}
    (h : Harmless w.mTask (w.deferred.map Deferred.update)) : w.cancelled.Tidy := by
  refine ⟨SessionTask.sound_cancel _, ⟨w.deferred.map Deferred.update, [], ?_, fun _ => rfl, h,
    fun _ => rfl, by simp⟩, fun _ => rfl, fun _ => rfl⟩
  simp [cancelled, Function.comp_def]

theorem Cancels.tidy {w w' : World σ β} {out : List (Occurrence β)} (h : Cancels api w w' out)
    (hharm : Harmless w.mTask (w.deferred.map Deferred.update)) :
    w'.Tidy ∧ w'.mSession = none ∧ w'.mScheduler = false := by
  obtain ⟨w₁, -, -, ⟨endpoint, callbacks, rfl⟩, hk, -⟩ := h
  refine ⟨(tidy_cancelled (by exact hharm)).keeps hk, ?_, hk.1.mScheduler⟩
  have hnone := hk.2.1
  simpa [cancelled] using hnone

/-! ### `process` -/

/-- What holds when `process` is called, and between its rounds. -/
structure Ready (w : World σ β) : Prop where
  tidy : w.Tidy
  scheduled : w.mScheduler = true ∨ w.mState = .exit
  session : w.mSession.isSome = true ∨ w.mState = .connect ∨ w.mState = .disconnected ∨
    w.mState = .exit ∨ w.mState = .unknown

/-- A round that waits, with the SUPL session there or not. -/
theorem Tidy.wait (api : SuplApi σ) {w : World σ β} (hw : w.Tidy) (n : NextState) :
    (w.wait api n).1.Safe ∧ Unharmed (w.wait api n).2 := by
  unfold World.wait
  cases hs : w.mSession with
  | none =>
    exact ⟨⟨hw.switchState _, fun _ => Or.inr (Or.inr (Or.inl rfl))⟩,
      by simp [Unharmed, Occurrence.Harm]⟩
  | some session =>
    dsimp only
    by_cases hup : !w.mScheduler ∨ api.fd session < 0 ∨ api.isDisconnected session
    · rw [if_pos hup]
      exact ⟨⟨hw.switchState _, fun _ => Or.inr (Or.inr (Or.inl rfl))⟩,
        by simp [Unharmed, Occurrence.Harm]⟩
    · rw [if_neg hup]
      simp only [Bool.not_eq_true', not_or, Bool.not_eq_false] at hup
      have haw : (w.awaiting n).Tidy := ⟨hw.sound, hw.queue, hw.unscheduled, hw.gone⟩
      have hsome : (w.awaiting n).mSession = some session := hs
      refine ⟨⟨haw.defer hup.1 fun h => ?_, fun h => ?_⟩, ?_⟩
      · exact absurd h (by rw [hsome]; simp)
      · exact absurd (hsome.symm.trans h) (by simp)
      · refine Unharmed.append ?_ ?_ <;> split_ifs <;> simp [Unharmed, Occurrence.Harm]

theorem Ready.safe {w : World σ β} (hw : w.Ready) : w.Safe := by
  refine ⟨hw.tidy, fun h => ?_⟩
  rcases hw.session with hs | hs | hs | hs | hs
  · exact absurd hs (by simp [h])
  · exact Or.inr (Or.inr (Or.inr hs))
  · exact Or.inr (Or.inr (Or.inl hs))
  · exact Or.inr (Or.inl hs)
  · exact Or.inl hs

/-- **`process` keeps the session safe**, if it is not cancelled from `on_message` and no
cancel leaves harm behind. -/
theorem process_safe {fuel : ℕ} {w : World σ β} (hw : w.Ready)
    (hg : ∀ state task queued, .cancelled state task queued ∈ (w.process api codec fuel).2 →
      Harmless task queued ∧ state ≠ .message) :
    (w.process api codec fuel).1.Safe ∧ Unharmed (w.process api codec fuel).2 := by
  induction fuel generalizing w with
  | zero => exact ⟨hw.safe, by simp [Unharmed, process, Occurrence.Harm]⟩
  | succ fuel ih =>
    unfold process at hg ⊢
    by_cases hexit : w.mState = .exit
    · rw [if_pos hexit]
      by_cases hsch : w.mScheduler = true
      · rw [if_pos hsch]
        exact ⟨⟨hw.tidy.defer hsch fun _ => rfl, fun _ => Or.inr (Or.inl hexit)⟩,
          by simp [Unharmed]⟩
      · rw [if_neg hsch]
        exact ⟨hw.safe, by simp [Unharmed, Occurrence.Harm]⟩
    · rw [if_neg hexit] at hg ⊢
      by_cases hu : w.mState = .unknown
      · have hstate : w.state api codec = (w, [.fault .unreachable], none) := by
          unfold state
          rw [hu]
        rw [hstate]
        exact ⟨hw.safe, by simp [Unharmed, Occurrence.Harm]⟩
      · have hsch : w.mScheduler = true := by
          rcases hw.scheduled with h | h
          · exact h
          · exact absurd h hexit
        have hs : w.mSession.isSome = true ∨ w.mState = .connect ∨ w.mState = .disconnected := by
          rcases hw.session with h | h | h | h | h
          · exact Or.inl h
          · exact Or.inr (Or.inl h)
          · exact Or.inr (Or.inr h)
          · exact absurd h hexit
          · exact absurd h hu
        have hround := state_round api codec hsch hs hu hexit
        generalize w.state api codec = a at hround hg ⊢
        -- what follows a round that goes on: the rest of the loop is safe by induction
        have hnext : ∀ (w' : World σ β) (out : List (Occurrence β)) (n : NextState), w'.Tidy →
            (w'.mScheduler = true ∨ n.nextState = .exit) →
            (w'.mSession.isSome = true ∨ n.nextState = .exit) → Unharmed out →
            (∀ state task queued, .cancelled state task queued ∈
              out ++ ((w'.switchState n.nextState).process api codec fuel).2 →
                Harmless task queued ∧ state ≠ .message) →
            ((w'.switchState n.nextState).process api codec fuel).1.Safe ∧
              Unharmed (out ++ ((w'.switchState n.nextState).process api codec fuel).2) := by
          intro w' out n htidy hsch' hs' hout hg'
          have hready : (w'.switchState n.nextState).Ready := by
            refine ⟨htidy.switchState _, hsch', ?_⟩
            rcases hs' with h | h
            · exact Or.inl h
            · exact Or.inr (Or.inr (Or.inr (Or.inl h)))
          obtain ⟨hsafe, hharm⟩ := ih hready fun state task queued h =>
            hg' state task queued (List.mem_append_right _ h)
          exact ⟨hsafe, hout.append hharm⟩
        cases hround with
        | @wait w' out n hlater hsession hout hwaits hattends =>
          simp only [hwaits.schedule, if_true]
          obtain ⟨hsafe, hharm⟩ := (hw.tidy.later hlater (Or.inr hsession)).wait api n
          refine ⟨hsafe, Unharmed.append ?_ hharm⟩
          rcases hout with hout | ⟨out', rfl, hout⟩
          · exact hout.unharmed
          · exact .cons id hout.unharmed
        | @refused w' n hlater hsession hwaits =>
          simp only [hwaits.schedule, if_true]
          obtain ⟨hsafe, hharm⟩ := (hw.tidy.later hlater (Or.inr hsession)).wait api n
          exact ⟨hsafe, .cons id hharm⟩
        | @follow w' out n hlater hsession hout hfollows =>
          simp only [hfollows.schedule, Bool.false_eq_true, if_false] at hg ⊢
          exact hnext w' out n (hw.tidy.later hlater (Or.inr hsession))
            (Or.inl (hlater.mScheduler.trans hsch)) (Or.inl hsession) hout.unharmed hg
        | @farewell w' out hst hkeeps hout =>
          simp only [NextState.next, NextState.make, Bool.false_eq_true, if_false] at hg ⊢
          exact hnext w' _ (NextState.make.next .exit) (hw.tidy.keeps hkeeps) (Or.inr rfl)
            (Or.inr rfl) (.cons id hout.unharmed) hg
        | @cancelledEstablished w' out n hst hcancels hwaits =>
          simp only [hwaits.schedule, if_true] at hg ⊢
          obtain ⟨hharm, -⟩ := hg _ _ _
            (List.mem_append_left _ (List.mem_cons_of_mem _ hcancels.mem))
          obtain ⟨htidy, -, -⟩ := hcancels.tidy hharm
          obtain ⟨hsafe, hharm'⟩ := htidy.wait api n
          exact ⟨hsafe, Unharmed.append (.cons id hcancels.unharmed) hharm'⟩
        | @cancelledDisconnected w' out hst hcancels =>
          simp only [NextState.next, NextState.make, Bool.false_eq_true, if_false] at hg ⊢
          obtain ⟨hharm, -⟩ := hg _ _ _
            (List.mem_append_left _ (List.mem_cons_of_mem _ hcancels.mem))
          obtain ⟨htidy, -, -⟩ := hcancels.tidy hharm
          exact hnext w' _ (NextState.make.next .exit) htidy (Or.inr rfl) (Or.inr rfl)
            (.cons id hcancels.unharmed) hg
        | @cancelledMessage w' out n hst hmem =>
          refine absurd hst (hg w.mState w.mTask (w.deferred.map Deferred.update) ?_).2
          cases n with
          | none => exact hmem
          | some n =>
            dsimp only
            split_ifs <;> exact List.mem_append_left _ hmem

/-! ### The steps -/

/-- A harmless update registers nothing, and leaves harmless ones behind. -/
theorem harmless_tail {t : SessionTask} {u : Update} {us : List Update}
    (h : Harmless t (u :: us)) (ht : t.Sound) (hreg : t.mScheduler = false) (registers : Bool) :
    t.update u registers = t.update u false ∧
      (t.update u registers).mScheduler = false ∧ Harmless (t.update u registers) us := by
  obtain ⟨a, b, hab⟩ := h
  cases a with
  | succ a =>
    rw [List.replicate_succ, List.cons_append, List.cons.injEq] at hab
    obtain ⟨rfl, rfl⟩ := hab
    simp only [SessionTask.update_eq ht, if_true]
    exact ⟨trivial, hreg, a, b, rfl⟩
  | zero =>
    cases b with
    | zero => simp at hab
    | succ b =>
      rw [List.replicate_succ, List.replicate_zero, List.nil_append, List.cons.injEq] at hab
      obtain ⟨rfl, rfl⟩ := hab
      have hw := SessionTask.wants_update ht .off
      refine ⟨?_, ?_, 0, b, rfl⟩
      · simp only [SessionTask.update_eq ht]
        split_ifs <;> simp [Update.off]
      · rw [SessionTask.update_eq ht]
        split_ifs
        · exact hreg
        · simp [Update.off]

theorem start_safe {w : World σ β} (hw : w.Safe) (fresh : σ) (callbacks : List (List (Call β)))
    (hg : ∀ state task queued, .cancelled state task queued ∈
      (w.start api codec fresh callbacks).2 → Harmless task queued ∧ state ≠ .message) :
    (w.start api codec fresh callbacks).1.Safe ∧
      Unharmed (w.start api codec fresh callbacks).2 := by
  unfold start at hg ⊢
  have hready : ({ w.connect.1 with
      mScheduler := true, fresh := fresh, callbacks := callbacks } : World σ β).Ready := by
    obtain ⟨us, vs, hd, hreg, hharm, -, hoff⟩ := hw.tidy.queue
    unfold connect
    by_cases hst : w.mState ≠ .unknown ∧ w.mState ≠ .exit
    · rw [if_pos hst]
      refine ⟨⟨hw.tidy.sound, ⟨us, vs, hd, hreg, hharm, fun h => absurd h (by simp), hoff⟩,
        fun h => absurd h (by simp), hw.tidy.gone⟩, Or.inl rfl, ?_⟩
      cases hs : w.mSession with
      | some s => exact Or.inl rfl
      | none =>
        rcases hw.state hs with h | h | h | h
        · exact absurd h hst.1
        · exact absurd h hst.2
        · exact Or.inr (Or.inr (Or.inl h))
        · exact Or.inr (Or.inl h)
    · rw [if_neg hst]
      exact ⟨⟨hw.tidy.sound, ⟨us, vs, hd, hreg, hharm, fun h => absurd h (by simp), hoff⟩,
        fun h => absurd h (by simp), hw.tidy.gone⟩, Or.inl rfl, Or.inr (Or.inl rfl)⟩
  obtain ⟨hsafe, hharm⟩ := process_safe hready fun state task queued h =>
    hg state task queued (List.mem_append_right _ h)
  refine ⟨hsafe, Unharmed.append ?_ hharm⟩
  unfold connect
  split_ifs <;> simp [Unharmed, Occurrence.Harm]

theorem event_safe {w : World σ β} (hw : w.Safe) {triggered : Triggered}
    (hdelivers : w.delivers triggered = true)
    (hg : ∀ state task queued, .cancelled state task queued ∈ (w.event api codec triggered).2 →
      Harmless task queued ∧ state ≠ .message) :
    (w.event api codec triggered).1.Safe ∧ Unharmed (w.event api codec triggered).2 := by
  simp only [delivers, Bool.and_eq_true] at hdelivers
  have hregistered := hdelivers.1.1.1
  -- the task is registered, so the session is scheduled and has its SUPL session
  have hready : ∀ state, (w.switchState state).Ready := by
    intro state
    refine ⟨hw.tidy.switchState state, Or.inl ?_, Or.inl ?_⟩
    · by_contra h
      exact absurd hregistered (by simp [hw.tidy.unscheduled (Bool.eq_false_iff.2 h)])
    · by_contra h
      exact absurd hregistered (by simp [hw.tidy.gone (by simpa [switchState] using h)])
  unfold event at hg ⊢
  by_cases hr : triggered.read = true
  · rw [if_pos hr] at hg ⊢
    exact process_safe (hready _) hg
  · rw [if_neg hr] at hg ⊢
    by_cases hwr : triggered.write = true
    · rw [if_pos hwr] at hg ⊢
      exact process_safe (hready _) hg
    · rw [if_neg hwr] at hg ⊢
      by_cases he : triggered.error = true
      · rw [if_pos he] at hg ⊢
        exact process_safe (hready _) hg
      · rw [if_neg he]
        exact ⟨hw, by simp [Unharmed]⟩

theorem runDeferred_safe {w : World σ β} (hw : w.Safe) (registers : Bool) :
    (w.runDeferred registers).1.Safe ∧ Unharmed (w.runDeferred registers).2 := by
  obtain ⟨us, vs, hd, hreg, hharm, hvs, hoff⟩ := hw.tidy.queue
  have hsound := hw.tidy.sound
  unfold runDeferred
  cases us with
  | cons u us =>
    -- an update from before a cancel
    simp only [List.map_cons, List.cons_append] at hd
    obtain ⟨hsame, hunreg, hharm'⟩ := harmless_tail hharm hsound (hreg (by simp)) registers
    simp only [hd, hsame, ne_eq, not_true, if_false]
    rw [hsame] at hunreg hharm'
    exact ⟨⟨⟨SessionTask.sound_update hsound _ _, ⟨us, vs, rfl, fun _ => hunreg, hharm', hvs, hoff⟩,
      fun _ => hunreg, fun _ => hunreg⟩, hw.state⟩, by simp [Unharmed]⟩
  | nil =>
    cases vs with
    | nil =>
      simp only [List.map_nil, List.append_nil] at hd
      rw [hd]
      exact ⟨hw, by simp [Unharmed]⟩
    | cons v vs =>
      simp only [List.map_nil, List.nil_append, List.map_cons] at hd
      simp only [hd]
      refine ⟨⟨⟨SessionTask.sound_update hsound _ _, ⟨[], vs, rfl, by simp, ⟨0, 0, rfl⟩, ?_, ?_⟩,
        ?_, ?_⟩, hw.state⟩, ?_⟩
      · intro h
        exact absurd (hvs h) (by simp)
      · intro h v' hv'
        exact hoff h v' (List.mem_cons_of_mem _ hv')
      · intro h
        exact absurd (hvs h) (by simp)
      · intro h
        have hv : v = .off := hoff h v List.mem_cons_self
        rw [hv, SessionTask.update_eq hsound]
        split_ifs
        · exact hw.tidy.gone h
        · simp [Update.off]
      · split_ifs <;> simp [Unharmed, Occurrence.Harm]

theorem call_safe {w : World σ β} (hw : w.Safe) (c : Call β)
    (hg : ∀ state task queued, .cancelled state task queued ∈ (w.call api codec c).2 →
      Harmless task queued) :
    (w.call api codec c).1.Safe ∧ Unharmed (w.call api codec c).2 := by
  by_cases hc : c = .cancel
  · subst hc
    cases hsch : w.mScheduler with
    | true =>
      rw [show w.call api codec .cancel = (w.cancelled, [w.cancellation]) from cancel_eq hsch]
        at hg ⊢
      exact ⟨⟨tidy_cancelled (hg _ _ _ List.mem_cons_self), fun _ => Or.inr (Or.inl rfl)⟩,
        .cons id (by simp [Unharmed])⟩
    | false =>
      rw [show w.call api codec .cancel = (w, [.fault .nullScheduler]) by
        simp [call, cancel, hsch]]
      exact ⟨hw, .cons id (by simp [Unharmed])⟩
  · obtain ⟨hk, ho⟩ := call_keeps api codec w hc
    refine ⟨⟨hw.tidy.keeps hk, ?_⟩, ho.unharmed⟩
    intro h
    have hnone : w.mSession = none := by
      have := hk.2.1
      rw [h] at this
      simpa using this.symm
    obtain ⟨endpoint, callbacks, hl⟩ := hk.1
    rw [hl]
    exact hw.state hnone

theorem step_safe {w : World σ β} {h : List (Occurrence β)} {op : Op σ β} (hw : w.Safe)
    (hg : w.Gentle api codec h op) :
    (w.step api codec op).1.Safe ∧ Unharmed (w.step api codec op).2 := by
  cases op with
  | start fresh callbacks =>
    exact start_safe hw fresh callbacks fun state task queued hc =>
      ⟨(hg state task queued hc).1, (hg state task queued hc).2 rfl⟩
  | event triggered callbacks =>
    by_cases hdelivers : w.delivers triggered = true
    · unfold Gentle at hg
      simp only [step, hdelivers, if_true] at hg ⊢
      refine event_safe (w := { w with callbacks := callbacks })
        ⟨⟨hw.tidy.sound, hw.tidy.queue, hw.tidy.unscheduled, hw.tidy.gone⟩, hw.state⟩ hdelivers ?_
      intro state task queued hc
      exact ⟨(hg state task queued hc).1, (hg state task queued hc).2 rfl⟩
    · simp only [step, hdelivers, Bool.false_eq_true, if_false]
      exact ⟨hw, by simp [Unharmed]⟩
  | deferred registers => exact runDeferred_safe hw registers
  | call c => exact call_safe hw c fun state task queued hc => (hg state task queued hc).1

theorem safe_new (fresh : σ) (hack : Bool) : (World.new fresh hack : World σ β).Safe :=
  ⟨⟨SessionTask.sound_new, ⟨[], [], rfl, by simp, ⟨0, 0, rfl⟩, by simp, by simp⟩, fun _ => rfl,
    fun _ => rfl⟩, fun _ => Or.inl rfl⟩

/-! ### The main theorem -/

variable (api codec)

/-- **Cancelling is safe** in a run of gentle steps: no deleted SUPL session is used, and no
update queued before a cancel registers the file descriptor again. -/
theorem cancel_safe (fresh : σ) (hack : Bool) (ops : List (Op σ β))
    (hrun : Mealy.Along (Gentle api codec) (step api codec) (World.new fresh hack) [] ops) :
    Unharmed (Mealy.run (step api codec) (World.new fresh hack) ops).2 := by
  have hall := Mealy.invariant_run (P := fun w h => w.Safe ∧ Unharmed h)
    (fun w h op hw hok => ⟨(step_safe hw.1 hok).1, hw.2.append (step_safe hw.1 hok).2⟩)
    ⟨safe_new fresh hack, by simp [Unharmed]⟩ hrun
  exact hall.2

/-- A cancel from `on_established` is safe. -/
theorem cancel_safe_established :
    Unharmed (Mealy.run (step SuplApi.ideal Codec.ideal) (World.new () false)
      (comingUp () ++ [.event ⟨true, false, false, false⟩ [[.cancel]], .deferred true])).2 := by
  refine cancel_safe SuplApi.ideal Codec.ideal () false _ ?_
  have hone : ∀ (o : Occurrence Unit) (out : List (Occurrence Unit)), o ∈ out →
      out = [.connecting] ∨ out = [.registered ⟨5, true, true, true⟩ false] ∨
        out = [.registered ⟨5, true, false, true⟩ false] ∨ out = [] →
      ∀ state task queued, o ≠ .cancelled state task queued := by
    rintro o out ho (rfl | rfl | rfl | rfl) <;> simp_all
  refine ⟨?_, ?_, ?_, ?_, ?_, ?_, trivial⟩ <;> intro state task queued hmem
  · exact absurd rfl (hone _ _ hmem (Or.inl rfl) _ _ _)
  · exact absurd rfl (hone _ _ hmem (Or.inr (Or.inl rfl)) _ _ _)
  · exact absurd rfl (hone _ _ hmem (Or.inr (Or.inr (Or.inr rfl))) _ _ _)
  · exact absurd rfl (hone _ _ hmem (Or.inr (Or.inr (Or.inl rfl))) _ _ _)
  · have hout : .cancelled state task queued ∈ ([.onEstablished,
        .cancelled .established ⟨5, true, true, false, true⟩ [], .waitingLost] :
          List (Occurrence Unit)) := hmem
    simp only [List.mem_cons, reduceCtorEq, Occurrence.cancelled.injEq, List.not_mem_nil,
      or_false, false_or] at hout
    obtain ⟨rfl, rfl, rfl⟩ := hout
    exact ⟨⟨0, 0, rfl⟩, fun _ => by decide⟩
  · exact absurd rfl (hone _ _ hmem (Or.inr (Or.inr (Or.inr rfl))) _ _ _)

/-- Not every cancel is safe: when the first wait of a connection is still queued, it
registers the file descriptor after the cancel, and the next event finds no SUPL session. -/
theorem cancel_harms :
    ¬∀ (api : SuplApi Unit) (codec : Codec Unit) (hack : Bool) (ops : List (Op Unit Unit)),
      Unharmed (Mealy.run (step api codec) (World.new () hack) ops).2 := by
  intro hall
  have hrun := hall SuplApi.ideal Codec.ideal false
    [.start () [], .call .cancel, .deferred true, .event ⟨false, true, false, false⟩ []]
  exact hrun (.fault .nullSession) (by decide) trivial

end World

end SuplLpp.Lpp
