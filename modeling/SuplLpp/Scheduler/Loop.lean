import SuplLpp.Scheduler.Slots

/-!
# The event loops of the scheduler

`execute` and `execute_while` first run the callbacks that were deferred, then wait for events
without a timeout, and after each round of events run the callbacks that were deferred meanwhile.
`process_deferred` moves the list out before it calls the first callback, so what a callback of
the batch defers waits for the next round.

* `Loop`: the scheduler with its deferred callbacks and the loops that are running; a callback
  may start a loop of its own;
* `step`: one call of user code, one turn of the innermost loop, one answer of the kernel;
* `Output.Unstranded`: no wait and no `NoWork` while a deferred callback is in the list;
* `Begins`, `Defers`, `GoesOn`: an input begins a batch, defers a callback, or has a loop go on
  without another batch;
* `unstranded_iff`: a run has only outputs that are unstranded exactly if user code defers nothing
  between the beginning of a batch and the point where a loop goes on.
-/

namespace SuplLpp.Sched

/-! ### The loops -/

inductive ExecuteResult
  | interrupted
  | timeout
  | conditionMet
  | noWork
  | error
  deriving DecidableEq

/-- Which loop is running. -/
inductive Mode
  | execute
  | executeWhile
  deriving DecidableEq

/-- Where a running loop is; `δ` is the type of the deferred callbacks, and a
`std::function` may be empty. -/
inductive Phase (δ : Type*)
  /-- In `process_deferred`, with the rest of the batch. -/
  | deferred (rest : List (Option δ))
  /-- In the call of `condition`. -/
  | condition
  /-- In `epoll_pwait`, with the timeout -1. -/
  | waiting
  /-- In the loop over the events, before the one at `i`. -/
  | events (i : ℕ) (toProcess : ℤ)

structure Frame (δ : Type*) where
  mode : Mode
  phase : Phase δ

/-- The scheduler and the loops that are running, innermost first. -/
structure Loop (κ δ : Type*) where
  scheduler : Scheduler κ
  mMaxEventsPerWait : ℤ
  mDeferredCallbacks : List (Option δ)
  mEvents : ℕ → EpollEvent
  frames : List (Frame δ)

/-- What user code can call. -/
inductive Act (κ δ : Type*)
  | defer (callback : Option δ)
  | interrupt
  | setMaxEventsPerWait (maxEvents : ℤ)
  | registerFd (fd : ℤ) (interests : EventInterest) (callback : κ) (name : String)
      (ctl : EpollEvent → Bool)
  | updateCallback (event : ScheduledEvent) (callback : κ)
  | unregister (event : ScheduledEvent)

/-- How `epoll_pwait` returns. -/
inductive Wakeup
  /-- With -1 and `EINTR`. -/
  | signal
  /-- With -1 and another `errno`. -/
  | failure
  /-- With the events that are ready. -/
  | ready (events : List EpollEvent)

inductive Input (κ δ : Type*)
  /-- User code calls the scheduler, in a callback or from outside. -/
  | act (a : Act κ δ)
  /-- User code starts a loop. -/
  | enter (mode : Mode)
  /-- The innermost loop goes on. -/
  | turn
  /-- The condition of the innermost loop returns. -/
  | holds (answer : Bool)
  | woken (w : Wakeup)

/-- What the loops do, with the list of deferred callbacks at that time. -/
inductive Output (κ δ : Type*)
  | runs (callback : δ)
  | dispatches (d : Scheduler.Dispatch κ)
  | waits (pending : List (Option δ))
  | returns (mode : Mode) (result : ExecuteResult) (pending : List (Option δ))

variable {κ δ : Type*}

namespace Loop

/-- A scheduler outside all loops. -/
def idle (s : Scheduler κ) (maxEvents : ℤ) (pending : List (Option δ))
    (events : ℕ → EpollEvent) : Loop κ δ :=
  ⟨s, maxEvents, pending, events, []⟩

/-- Is the innermost loop in `epoll_pwait`? -/
def waiting (s : Loop κ δ) : Bool :=
  match s.frames with
  | ⟨_, .waiting⟩ :: _ => true
  | _ => false

/-- The calls of user code. -/
def act (s : Loop κ δ) : Act κ δ → Loop κ δ
  | .defer callback => { s with mDeferredCallbacks := s.mDeferredCallbacks ++ [callback] }
  | .interrupt =>
      if s.scheduler.mInterruptFd = -1 then s
      else { s with scheduler := { s.scheduler with mInterrupted := true } }
  | .setMaxEventsPerWait maxEvents => { s with mMaxEventsPerWait := maxEvents }
  | .registerFd fd interests callback name ctl =>
      { s with scheduler := (s.scheduler.registerFd fd interests callback name ctl).1 }
  | .updateCallback event callback =>
      { s with scheduler := s.scheduler.updateCallback event callback }
  | .unregister event => { s with scheduler := s.scheduler.unregister event }

/-- `process_deferred`, up to its first callback. -/
def processDeferred (s : Loop κ δ) (mode : Mode) (outer : List (Frame δ)) : Loop κ δ :=
  { s with
    scheduler := s.scheduler.freePending
    mDeferredCallbacks := []
    frames := ⟨mode, .deferred s.mDeferredCallbacks⟩ :: outer }

/-- The innermost loop returns. -/
def leave (s : Loop κ δ) (mode : Mode) (outer : List (Frame δ)) (result : ExecuteResult) :
    Loop κ δ × List (Output κ δ) :=
  ({ s with frames := outer }, [.returns mode result s.mDeferredCallbacks])

/-- The innermost loop calls `epoll_pwait`. -/
def wait (s : Loop κ δ) (mode : Mode) (outer : List (Frame δ)) :
    Loop κ δ × List (Output κ δ) :=
  ({ s with frames := ⟨mode, .waiting⟩ :: outer }, [.waits s.mDeferredCallbacks])

/-- The top of the `for (;;)`. -/
def head (s : Loop κ δ) (mode : Mode) (outer : List (Frame δ)) :
    Loop κ δ × List (Output κ δ) :=
  match mode with
  | .execute =>
      if s.scheduler.mEpollCount = 0 then s.leave .execute outer .noWork
      else if s.scheduler.mInterrupted then s.leave .execute outer .interrupted
      else s.wait .execute outer
  | .executeWhile =>
      if s.scheduler.mInterrupted then s.leave .executeWhile outer .interrupted
      else ({ s with frames := ⟨.executeWhile, .condition⟩ :: outer }, [])

/-- The innermost loop goes on. -/
def turn (s : Loop κ δ) : Loop κ δ × List (Output κ δ) :=
  match s.frames with
  | ⟨mode, .deferred (callback :: rest)⟩ :: outer =>
      ({ s with frames := ⟨mode, .deferred rest⟩ :: outer }, (callback.map .runs).toList)
  | ⟨mode, .deferred []⟩ :: outer => s.head mode outer
  | ⟨mode, .events i toProcess⟩ :: outer =>
      if (i : ℤ) < toProcess then
        let r := s.scheduler.processEvent (s.mEvents i)
        ({ s with scheduler := r.1, frames := ⟨mode, .events (i + 1) toProcess⟩ :: outer },
          [.dispatches r.2])
      else (s.processDeferred mode outer, [])
  -- the loop is in the condition or in the wait, or there is none
  | _ => (s, [])

/-- `epoll_pwait` returns to the innermost loop. -/
def woken (s : Loop κ δ) (w : Wakeup) : Loop κ δ × List (Output κ δ) :=
  match s.frames with
  | ⟨mode, .waiting⟩ :: outer =>
      match w with
      -- `continue`: the deferred callbacks are not processed
      | .signal => s.head mode outer
      | .failure => s.leave mode outer .error
      | .ready events =>
          let nfds : ℤ := events.length
          let toProcess := if nfds < s.mMaxEventsPerWait then nfds else s.mMaxEventsPerWait
          ({ s with
            mEvents := fun i => (events[i]?).getD (s.mEvents i)
            frames := ⟨mode, .events 0 toProcess⟩ :: outer }, [])
  | _ => (s, [])

/-- The condition returns to the innermost loop. -/
def answered (s : Loop κ δ) (answer : Bool) : Loop κ δ × List (Output κ δ) :=
  match s.frames with
  | ⟨mode, .condition⟩ :: outer =>
      if !answer then s.leave mode outer .conditionMet else s.wait mode outer
  | _ => (s, [])

/-- User code starts a loop. -/
def enter (s : Loop κ δ) (mode : Mode) : Loop κ δ × List (Output κ δ) :=
  if !s.scheduler.initialized then (s, [.returns mode .error s.mDeferredCallbacks])
  else (s.processDeferred mode s.frames, [])

end Loop

/-- One input; user code does not run while the innermost loop waits. -/
def step (s : Loop κ δ) : Input κ δ → Loop κ δ × List (Output κ δ)
  | .act a => (if s.waiting then s else s.act a, [])
  | .enter mode => if s.waiting then (s, []) else s.enter mode
  | .turn => s.turn
  | .holds answer => s.answered answer
  | .woken w => s.woken w

/-! ### Stranded callbacks -/

/-- No wait without a timeout, and no `NoWork` of `execute`, while a callback is deferred. -/
def Output.Unstranded : Output κ δ → Prop
  | .waits pending => pending = []
  | .returns .execute .noWork pending => pending = []
  | _ => True

/-- The input begins a batch: the list is moved out. -/
def Begins (s : Loop κ δ) : Input κ δ → Prop
  | .enter _ => s.waiting = false ∧ s.scheduler.initialized = true
  | .turn => ∃ mode i toProcess outer,
      s.frames = ⟨mode, .events i toProcess⟩ :: outer ∧ ¬(i : ℤ) < toProcess
  | _ => False

/-- User code defers a callback. -/
def Defers (s : Loop κ δ) : Input κ δ → Prop
  | .act (.defer _) => s.waiting = false
  | _ => False

/-- A loop goes on to its wait, or returns `NoWork`, without another batch: `execute` when a batch
is over and it is not interrupted with descriptors, `execute_while` when its condition holds. -/
def GoesOn (s : Loop κ δ) : Input κ δ → Prop
  | .turn => (∃ outer, s.frames = ⟨.execute, .deferred []⟩ :: outer) ∧
      ¬(s.scheduler.mInterrupted = true ∧ s.scheduler.mEpollCount ≠ 0)
  | .holds answer => answer = true ∧ ∃ mode outer, s.frames = ⟨mode, .condition⟩ :: outer
  | _ => False

/-- After these inputs, user code has deferred a callback since the last batch began. -/
def DefersSince (start : Loop κ δ) (inputs : List (Input κ δ)) : Prop :=
  ∃ before i since, inputs = before ++ i :: since ∧ Defers (Mealy.run step start before).1 i ∧
    ∀ between j after, since = between ++ j :: after →
      ¬Begins (Mealy.run step start (before ++ i :: between)).1 j

/-- What a loop goes on with has to be empty. -/
def LeavesNothing (s : Loop κ δ) (i : Input κ δ) : Prop :=
  GoesOn s i → s.mDeferredCallbacks = []

/-- Only the innermost loop waits, and then no callback is deferred. -/
structure Quiet (s : Loop κ δ) : Prop where
  inner : ∀ f ∈ s.frames.tail, f.phase ≠ .waiting
  none_deferred : s.waiting = true → s.mDeferredCallbacks = []

section Steps

variable {s : Loop κ δ} {mode : Mode} {outer : List (Frame δ)}

/-- Where no loop waits, nothing is asked of the list. -/
theorem quiet_of_frames (h : ∀ f ∈ s.frames, f.phase ≠ .waiting) : Quiet s := by
  refine ⟨fun f hf => h f (List.mem_of_mem_tail hf), fun hw => ?_⟩
  unfold Loop.waiting at hw
  split at hw
  · rename_i m outer hframes
    exact absurd rfl (h ⟨m, .waiting⟩ (by rw [hframes]; exact List.mem_cons_self))
  · exact absurd hw Bool.false_ne_true

theorem quiet_of_cons {f : Frame δ} (hframes : s.frames = f :: outer)
    (hf : f.phase ≠ .waiting) (houter : ∀ f ∈ outer, f.phase ≠ .waiting) : Quiet s := by
  refine quiet_of_frames fun g hg => ?_
  rw [hframes] at hg
  rcases List.mem_cons.1 hg with rfl | hg
  · exact hf
  · exact houter g hg

/-- The loops around the innermost one do not wait. -/
theorem Quiet.around (h : Quiet s) {f : Frame δ} (hframes : s.frames = f :: outer) :
    ∀ f ∈ outer, f.phase ≠ .waiting := by
  have hinner := h.inner
  rw [hframes] at hinner
  exact hinner

/-- A step is fine if it keeps the loops quiet and strands nothing. -/
def Fine (r : Loop κ δ × List (Output κ δ)) : Prop :=
  Quiet r.1 ∧ ∀ o ∈ r.2, o.Unstranded

theorem fine_of_no_output {s : Loop κ δ} (h : Quiet s) : Fine (s, ([] : List (Output κ δ))) :=
  ⟨h, fun _ ho => absurd ho List.not_mem_nil⟩

theorem fine_leave (houter : ∀ f ∈ outer, f.phase ≠ .waiting) {result : ExecuteResult}
    (h : mode = .execute → result = .noWork → s.mDeferredCallbacks = []) :
    Fine (s.leave mode outer result) := by
  refine ⟨quiet_of_frames houter, fun o ho => ?_⟩
  obtain rfl := List.mem_singleton.1 ho
  cases mode with
  | executeWhile => trivial
  | execute =>
    cases result with
    | noWork => exact h rfl rfl
    | _ => trivial

theorem fine_wait (houter : ∀ f ∈ outer, f.phase ≠ .waiting)
    (h : s.mDeferredCallbacks = []) : Fine (s.wait mode outer) := by
  refine ⟨⟨houter, fun _ => h⟩, fun o ho => ?_⟩
  obtain rfl := List.mem_singleton.1 ho
  exact h

/-- The top of the loop, in the cases where it is safe to reach it. -/
theorem fine_head (houter : ∀ f ∈ outer, f.phase ≠ .waiting)
    (h : mode = .execute → s.mDeferredCallbacks = [] ∨
      s.scheduler.mInterrupted = true ∧ s.scheduler.mEpollCount ≠ 0) :
    Fine (s.head mode outer) := by
  cases mode with
  | executeWhile =>
    unfold Loop.head
    dsimp only
    by_cases hint : s.scheduler.mInterrupted = true
    · rw [if_pos hint]
      exact fine_leave houter nofun
    · rw [if_neg hint]
      exact fine_of_no_output (quiet_of_cons rfl nofun houter)
  | execute =>
    unfold Loop.head
    dsimp only
    rcases h rfl with hnil | ⟨hint, hcount⟩
    · by_cases hcount : s.scheduler.mEpollCount = 0
      · rw [if_pos hcount]
        exact fine_leave houter fun _ _ => hnil
      · rw [if_neg hcount]
        by_cases hint : s.scheduler.mInterrupted = true
        · rw [if_pos hint]
          exact fine_leave houter nofun
        · rw [if_neg hint]
          exact fine_wait houter hnil
    · rw [if_neg hcount, if_pos hint]
      exact fine_leave houter nofun

/-- `execute` reaches the top of its loop with a deferred callback, and is not interrupted. -/
theorem strands_head (hne : s.mDeferredCallbacks ≠ [])
    (h : ¬(s.scheduler.mInterrupted = true ∧ s.scheduler.mEpollCount ≠ 0)) :
    ∃ o ∈ (s.head .execute outer).2, ¬o.Unstranded := by
  unfold Loop.head
  dsimp only
  by_cases hcount : s.scheduler.mEpollCount = 0
  · rw [if_pos hcount]
    exact ⟨_, List.mem_singleton.2 rfl, hne⟩
  · rw [if_neg hcount, if_neg fun hint => h ⟨hint, hcount⟩]
    exact ⟨_, List.mem_singleton.2 rfl, hne⟩

theorem act_frames (s : Loop κ δ) (a : Act κ δ) : (s.act a).frames = s.frames := by
  cases a with
  | interrupt =>
    unfold Loop.act
    dsimp only
    split_ifs <;> rfl
  | _ => rfl

/-- Where the innermost loop does not wait, no loop does. -/
theorem Quiet.all (h : Quiet s) (hw : ¬s.waiting = true) :
    ∀ f ∈ s.frames, f.phase ≠ .waiting := by
  intro f hf hphase
  unfold Loop.waiting at hw
  have hinner := h.inner
  cases hframes : s.frames with
  | nil => rw [hframes] at hf; exact absurd hf List.not_mem_nil
  | cons g outer =>
    rw [hframes] at hf hw hinner
    rcases List.mem_cons.1 hf with rfl | hf
    · obtain ⟨mode, phase⟩ := f
      cases hphase
      exact hw rfl
    · exact hinner f hf hphase

/-! ### Steps -/

theorem fine_enter (h : Quiet s) (hw : ¬s.waiting = true) (mode : Mode) :
    Fine (s.enter mode) := by
  unfold Loop.enter
  by_cases hinit : s.scheduler.initialized = true
  · rw [hinit]
    exact fine_of_no_output (quiet_of_cons rfl nofun (h.all hw))
  · rw [Bool.not_eq_true] at hinit
    rw [hinit]
    refine ⟨h, fun o ho => ?_⟩
    obtain rfl := List.mem_singleton.1 ho
    cases mode <;> trivial

theorem fine_turn (h : Quiet s) (hok : LeavesNothing s .turn) : Fine s.turn := by
  unfold Loop.turn
  split
  · rename_i mode callback rest outer hframes
    refine ⟨quiet_of_cons rfl nofun (h.around hframes), fun o ho => ?_⟩
    cases callback with
    | none => exact absurd ho List.not_mem_nil
    | some c =>
      obtain rfl := List.mem_singleton.1 ho
      trivial
  · rename_i mode outer hframes
    refine fine_head (h.around hframes) ?_
    rintro rfl
    by_cases hint : s.scheduler.mInterrupted = true ∧ s.scheduler.mEpollCount ≠ 0
    · exact .inr hint
    · exact .inl (hok ⟨⟨outer, hframes⟩, hint⟩)
  · rename_i mode i toProcess outer hframes
    by_cases hi : (i : ℤ) < toProcess
    · rw [if_pos hi]
      refine ⟨quiet_of_cons rfl nofun (h.around hframes), fun o ho => ?_⟩
      obtain rfl := List.mem_singleton.1 ho
      trivial
    · rw [if_neg hi]
      exact fine_of_no_output (quiet_of_cons rfl nofun (h.around hframes))
  · exact fine_of_no_output h

theorem fine_woken (h : Quiet s) (w : Wakeup) : Fine (s.woken w) := by
  unfold Loop.woken
  split
  · rename_i mode outer hframes
    have hnil : s.mDeferredCallbacks = [] := by
      refine h.none_deferred ?_
      unfold Loop.waiting
      rw [hframes]
    cases w with
    | signal => exact fine_head (h.around hframes) fun _ => Or.inl hnil
    | failure => exact fine_leave (h.around hframes) fun _ _ => hnil
    | ready events => exact fine_of_no_output (quiet_of_cons rfl nofun (h.around hframes))
  · exact fine_of_no_output h

theorem fine_answered (h : Quiet s) {answer : Bool} (hok : LeavesNothing s (.holds answer)) :
    Fine (s.answered answer) := by
  unfold Loop.answered
  split
  · rename_i mode outer hframes
    cases answer with
    | false => exact fine_leave (h.around hframes) nofun
    | true => exact fine_wait (h.around hframes) (hok ⟨rfl, mode, outer, hframes⟩)
  · exact fine_of_no_output h

/-- A step that leaves nothing behind is fine. -/
theorem fine_step (h : Quiet s) (i : Input κ δ) (hok : LeavesNothing s i) :
    Fine (step s i) := by
  cases i with
  | act a =>
    unfold step
    by_cases hw : s.waiting = true
    · simp only [hw, if_true]
      exact fine_of_no_output h
    · simp only [hw]
      refine fine_of_no_output (quiet_of_frames ?_)
      rw [if_neg Bool.false_ne_true, act_frames]
      exact h.all hw
  | enter mode =>
    unfold step
    by_cases hw : s.waiting = true
    · simp only [hw, if_true]
      exact fine_of_no_output h
    · simp only [hw]
      exact fine_enter h hw mode
  | turn => exact fine_turn h hok
  | holds answer => exact fine_answered h hok
  | woken w => exact fine_woken h w

/-- Every other step strands a callback. -/
theorem strands_step {i : Input κ δ} (hbad : ¬LeavesNothing s i) :
    ∃ o ∈ (step s i).2, ¬o.Unstranded := by
  obtain ⟨hon, hne⟩ := Classical.not_imp.1 hbad
  cases i with
  | turn =>
    obtain ⟨⟨outer, hframes⟩, hint⟩ := hon
    unfold step Loop.turn
    rw [hframes]
    exact strands_head hne hint
  | holds answer =>
    obtain ⟨rfl, mode, outer, hframes⟩ := hon
    unfold step Loop.answered
    rw [hframes]
    exact ⟨_, List.mem_singleton.2 rfl, hne⟩
  | act | enter | woken => exact hon.elim

/-! ### What is in the list -/

theorem deferred_head (s : Loop κ δ) (mode : Mode) (outer : List (Frame δ)) :
    (s.head mode outer).1.mDeferredCallbacks = s.mDeferredCallbacks := by
  unfold Loop.head
  cases mode with
  | execute =>
    dsimp only
    split_ifs <;> rfl
  | executeWhile =>
    dsimp only
    split_ifs <;> rfl

theorem deferred_turn (s : Loop κ δ) :
    (Begins s .turn ∧ s.turn.1.mDeferredCallbacks = []) ∨
      (¬Begins s .turn ∧ s.turn.1.mDeferredCallbacks = s.mDeferredCallbacks) := by
  unfold Loop.turn
  split
  case h_1 hframes =>
    refine .inr ⟨?_, rfl⟩
    rintro ⟨_, _, _, _, heq, -⟩
    rw [hframes] at heq
    cases heq
  case h_2 mode outer hframes =>
    refine .inr ⟨?_, deferred_head s mode outer⟩
    rintro ⟨_, _, _, _, heq, -⟩
    rw [hframes] at heq
    cases heq
  case h_3 mode i toProcess outer hframes =>
    by_cases hi : (i : ℤ) < toProcess
    · refine .inr ⟨?_, by rw [if_pos hi]⟩
      rintro ⟨_, _, _, _, heq, hnot⟩
      rw [hframes] at heq
      cases heq
      exact hnot hi
    · refine .inl ⟨⟨mode, i, toProcess, outer, hframes, hi⟩, ?_⟩
      rw [if_neg hi]
      rfl
  case h_4 hnone =>
    refine .inr ⟨?_, rfl⟩
    rintro ⟨mode, i, toProcess, outer, hframes, -⟩
    exact hnone mode i toProcess outer hframes

/-- A batch moves the list out, user code adds to it, and nothing else changes it. -/
theorem deferred_step (s : Loop κ δ) (i : Input κ δ) :
    (Begins s i ∧ (step s i).1.mDeferredCallbacks = []) ∨
      (Defers s i ∧ (step s i).1.mDeferredCallbacks ≠ []) ∨
      (¬Begins s i ∧ ¬Defers s i ∧ (step s i).1.mDeferredCallbacks = s.mDeferredCallbacks) := by
  cases i with
  | act a =>
    cases hw : s.waiting with
    | true =>
      refine .inr (.inr ⟨id, ?_, ?_⟩)
      · cases a <;> simp [Defers, hw]
      · simp [step, hw]
    | false =>
      cases a with
      | defer callback => exact .inr (.inl ⟨hw, by simp [step, hw, Loop.act]⟩)
      | interrupt =>
        refine .inr (.inr ⟨id, id, ?_⟩)
        simp only [step, hw, Loop.act, Bool.false_eq_true, if_false]
        split_ifs <;> rfl
      | _ => exact .inr (.inr ⟨id, id, by simp [step, hw, Loop.act]⟩)
  | enter mode =>
    cases hw : s.waiting with
    | true => exact .inr (.inr ⟨by simp [Begins, hw], id, by simp [step, hw]⟩)
    | false =>
      cases hinit : s.scheduler.initialized with
      | true =>
        exact .inl ⟨⟨hw, hinit⟩, by simp [step, hw, Loop.enter, hinit, Loop.processDeferred]⟩
      | false =>
        exact .inr (.inr ⟨by simp [Begins, hinit], id, by simp [step, hw, Loop.enter, hinit]⟩)
  | turn =>
    rcases deferred_turn s with hbegins | ⟨hbegins, hsame⟩
    · exact .inl hbegins
    · exact .inr (.inr ⟨hbegins, id, hsame⟩)
  | holds answer =>
    refine .inr (.inr ⟨id, id, ?_⟩)
    show (s.answered answer).1.mDeferredCallbacks = _
    unfold Loop.answered
    split
    · split_ifs <;> rfl
    · rfl
  | woken w =>
    refine .inr (.inr ⟨id, id, ?_⟩)
    show (s.woken w).1.mDeferredCallbacks = _
    unfold Loop.woken
    split
    case h_1 mode outer hframes =>
      cases w with
      | signal => exact deferred_head s mode outer
      | failure | ready => rfl
    case h_2 => rfl

/-- A loop comes with a batch. -/
theorem frames_step {s : Loop κ δ} (hidle : s.frames = []) {i : Input κ δ} (hi : ¬Begins s i) :
    (step s i).1.frames = [] := by
  cases i with
  | act a =>
    unfold step
    split_ifs
    · exact hidle
    · rw [act_frames, hidle]
  | enter mode =>
    unfold step Loop.enter
    have hw : s.waiting = false := by simp [Loop.waiting, hidle]
    have hinit : s.scheduler.initialized = false := by
      rw [Begins, not_and, Bool.not_eq_true] at hi
      exact hi hw
    rw [hw, hinit]
    exact hidle
  | turn =>
    unfold step Loop.turn
    rw [hidle]
    exact hidle
  | holds answer =>
    unfold step Loop.answered
    rw [hidle]
    exact hidle
  | woken w =>
    unfold step Loop.woken
    rw [hidle]
    exact hidle

end Steps

/-! ### Runs -/

section Runs

variable {start : Loop κ δ}

/-- One more input. -/
theorem defersSince_snoc (pre : List (Input κ δ)) (i : Input κ δ) :
    DefersSince start (pre ++ [i]) ↔ Defers (Mealy.run step start pre).1 i ∨
      (DefersSince start pre ∧ ¬Begins (Mealy.run step start pre).1 i) := by
  constructor
  · rintro ⟨before, d, since, hsplit, hdefers, hsince⟩
    rcases List.eq_nil_or_concat since with rfl | ⟨since, j, rfl⟩
    · obtain ⟨rfl, hi⟩ := List.append_inj' hsplit rfl
      cases hi
      exact .inl hdefers
    · rw [List.concat_eq_append, ← List.cons_append, ← List.append_assoc] at hsplit
      obtain ⟨rfl, hi⟩ := List.append_inj' hsplit rfl
      cases hi
      refine .inr ⟨⟨before, d, since, rfl, hdefers, fun between j after hsplit => ?_⟩, ?_⟩
      · refine hsince between j (after ++ [i]) ?_
        rw [List.concat_eq_append, hsplit, List.append_assoc, List.cons_append]
      · exact hsince since i [] List.concat_eq_append
  · rintro (hdefers | ⟨⟨before, d, since, rfl, hdefers, hsince⟩, hbegins⟩)
    · exact ⟨pre, i, [], rfl, hdefers, fun between j after hnil => by simp at hnil⟩
    · refine ⟨before, d, since ++ [i], by simp, hdefers, fun between j after hsplit => ?_⟩
      rcases List.eq_nil_or_concat after with rfl | ⟨after, k, rfl⟩
      · obtain ⟨rfl, hi⟩ := List.append_inj' hsplit rfl
        cases hi
        exact hbegins
      · rw [List.concat_eq_append, ← List.cons_append, ← List.append_assoc] at hsplit
        obtain ⟨rfl, -⟩ := List.append_inj' hsplit rfl
        exact hsince between j after rfl

/-- **What is in the list** while a loop is running: what was deferred since the last batch
began. -/
theorem deferred_run (hidle : start.frames = []) (pre : List (Input κ δ)) :
    (Mealy.run step start pre).1.frames = [] ∨
      ((Mealy.run step start pre).1.mDeferredCallbacks ≠ [] ↔ DefersSince start pre) := by
  induction pre using List.reverseRecOn with
  | nil => exact .inl hidle
  | append_singleton pre i ih =>
    rw [Mealy.run_snoc_fst, defersSince_snoc]
    rcases deferred_step (Mealy.run step start pre).1 i with
      ⟨hbegins, hnil⟩ | ⟨hdefers, hne⟩ | ⟨hbegins, hdefers, hsame⟩
    · refine .inr (iff_of_false (not_not_intro hnil) ?_)
      rintro (hdefers | ⟨-, hnot⟩)
      · cases i with
        | act a => exact hbegins.elim
        | enter | turn | holds | woken => exact hdefers.elim
      · exact hnot hbegins
    · exact .inr (iff_of_true hne (.inl hdefers))
    · rcases ih with hframes | hiff
      · exact .inl (frames_step hframes hbegins)
      · rw [hsame, hiff]
        exact .inr ⟨fun h => .inr ⟨h, hbegins⟩, fun h => h.elim (absurd · hdefers) (·.1)⟩

/-- A loop that goes on is running. -/
theorem frames_of_goesOn {s : Loop κ δ} {i : Input κ δ} (h : GoesOn s i) : s.frames ≠ [] := by
  intro hnil
  cases i with
  | turn =>
    obtain ⟨⟨outer, hframes⟩, -⟩ := h
    rw [hnil] at hframes
    cases hframes
  | holds answer =>
    obtain ⟨-, mode, outer, hframes⟩ := h
    rw [hnil] at hframes
    cases hframes
  | act | enter | woken => exact h.elim

end Runs

/-- From a scheduler outside all loops, with whatever was deferred before: a run strands no
callback if and only if, wherever a loop goes on without another batch, user code has deferred
nothing since the last batch began. -/
theorem unstranded_iff (s : Scheduler κ) (maxEvents : ℤ) (pending : List (Option δ))
    (events : ℕ → EpollEvent) (inputs : List (Input κ δ)) :
    (∀ o ∈ (Mealy.run step (Loop.idle s maxEvents pending events) inputs).2, o.Unstranded) ↔
      ∀ before i after, inputs = before ++ i :: after →
        GoesOn (Mealy.run step (Loop.idle s maxEvents pending events) before).1 i →
          ¬DefersSince (Loop.idle s maxEvents pending events) before := by
  have hidle : (Loop.idle s maxEvents pending events).frames = [] := rfl
  generalize Loop.idle s maxEvents pending events = start at hidle ⊢
  have hquiet : Quiet start := by
    refine quiet_of_frames fun f hf => ?_
    rw [hidle] at hf
    exact absurd hf List.not_mem_nil
  rw [Mealy.outputs_good_iff_along (P := Quiet) (fun s i hs hok => fine_step hs i hok)
    (fun s i _ hbad => strands_step hbad) hquiet [] inputs, Mealy.along_iff_split]
  refine forall₄_congr fun before i after _ => ⟨fun hleaves hon => ?_, fun hleaves hon => ?_⟩
  · rcases deferred_run hidle before with hframes | hiff
    · exact absurd hframes (frames_of_goesOn hon)
    · exact fun hsince => hiff.2 hsince (hleaves hon)
  · rcases deferred_run hidle before with hframes | hiff
    · exact absurd hframes (frames_of_goesOn hon)
    · exact not_not.1 fun hne => hleaves hon (hiff.1 hne)

/-- A deferred callback that defers another one, before any descriptor is registered. -/
def redeferring : List (Input Unit ℕ) :=
  [.act (.defer (some 0)), .enter .execute, .turn, .act (.defer (some 1)), .turn]

theorem not_unstranded_redeferring :
    ¬∀ inputs : List (Input Unit ℕ),
      ∀ o ∈ (Mealy.run step
        (Loop.idle (create (some 3) (some 4)) 1 [] fun _ => ⟨0, 0⟩) inputs).2,
        o.Unstranded := by
  intro h
  have hreturns := h redeferring (.returns .execute .noWork [some 1])
    (List.mem_of_getLast? rfl)
  exact absurd hreturns (List.cons_ne_nil _ _)

end SuplLpp.Sched
