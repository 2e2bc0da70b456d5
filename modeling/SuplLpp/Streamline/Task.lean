import SuplLpp.Streamline.Queue

/-!
# `streamline::QueueTask` and `System::push`

An item that a dispatch takes out goes to the inspectors and then to the consumers that accept
its tag.  In synchronous mode `System::push` hands the value out at once, by a second loop.

* `Movable`: what cloning and moving do to the values of a type;
* `dispatch`, the body of the loop of `QueueTask::event`, and `dispatchSync`;
* `System.push` and the dispatch that follows it;
* `event_run`, `event_of_room`: a dispatch hands every item that it takes out to its receivers, and
  takes out all that the queue holds if there is room for what the receivers push;
* `push_delivers`: who is given what in the two modes, and when they agree.
-/

namespace SuplLpp.Streamline

open Sched

/-- `Clone<T>`, which returns an equal value, and the value left behind by a move. -/
structure Movable (T : Type*) where
  clone : T → T
  movedFrom : T → T
  clone_eq : ∀ data, clone data = data

/-- An inspector: the tags it accepts. -/
structure Inspector where
  accept : UInt64 → Bool

/-- A consumer: the tags it accepts. -/
structure Consumer where
  accept : UInt64 → Bool

structure Item (T : Type*) where
  tag : UInt64
  data : T
  deriving DecidableEq

/-- Who is given a value, by the place in the order of registration. -/
inductive Receiver
  | inspector (place : ℕ)
  | consumer (place : ℕ)
  deriving DecidableEq

/-- A call of `inspect` or `consume`. -/
structure Delivery (T : Type*) where
  receiver : Receiver
  data : T
  tag : UInt64
  deriving DecidableEq

/-- The task of a queue: whether it is scheduled, the queue, and its consumers and inspectors
in the order of registration. -/
structure QueueTask (T : Type*) where
  mScheduler : Bool
  mQueue : EventQueue (Item T)
  mConsumers : List Consumer
  mInspectors : List Inspector

variable {T : Type*}

/-! ### The two dispatch loops -/

/-- The loop over the inspectors, the same in both modes. -/
def inspectors (item : Item T) : ℕ → List Inspector → List (Delivery T)
  | _, [] => []
  | place, inspector :: rest =>
      if inspector.accept item.tag then
        ⟨.inspector place, item.data, item.tag⟩ :: inspectors item (place + 1) rest
      else inspectors item (place + 1) rest

/-- The loop over the consumers.  Each accepting one moves the item into a local; the last of
the list is given that, the others a clone of it. -/
def consumers (M : Movable T) (item : Item T) : ℕ → List Consumer → List (Delivery T)
  | _, [] => []
  | place, consumer :: rest =>
      if consumer.accept item.tag then
        let data := item.data
        let item := { item with data := M.movedFrom item.data }
        if rest ≠ [] then
          ⟨.consumer place, M.clone data, item.tag⟩ :: consumers M item (place + 1) rest
        else ⟨.consumer place, data, item.tag⟩ :: consumers M item (place + 1) rest
      else consumers M item (place + 1) rest

/-- The body of the loop of `QueueTask::event`. -/
def QueueTask.dispatch (M : Movable T) (task : QueueTask T) (item : Item T) :
    List (Delivery T) :=
  inspectors item 0 task.mInspectors ++ consumers M item 0 task.mConsumers

/-- The loop over the consumers in synchronous mode. -/
def consumersSync (item : Item T) : ℕ → List Consumer → List (Delivery T)
  | _, [] => []
  | place, consumer :: rest =>
      -- only one consumer can take ownership
      if consumer.accept item.tag then [⟨.consumer place, item.data, item.tag⟩]
      else consumersSync item (place + 1) rest

/-- `QueueTask::dispatch_sync`. -/
def QueueTask.dispatchSync (task : QueueTask T) (item : Item T) : List (Delivery T) :=
  inspectors item 0 task.mInspectors ++ consumersSync item 0 task.mConsumers

/-! ### The system -/

/-- The part of `System` that one type of data sees: whether it has a scheduler, its mode, and
the queue of the type. -/
structure System (T : Type*) where
  mScheduler : Bool
  mSyncMode : Bool
  mQueue : Option (QueueTask T)

/-- `System::push`: the system after it, and what is delivered at once. -/
def System.push (sys : System T) (data : T) (tag : UInt64) : System T × List (Delivery T) :=
  if sys.mSyncMode then
    match sys.mQueue with
    | some task => (sys, task.dispatchSync ⟨tag, data⟩)
    | none => (sys, [])
  else if !sys.mScheduler then (sys, [])
  else
    match sys.mQueue with
    | some task =>
        let queue := (task.mQueue.push ⟨tag, data⟩).1
        ({ sys with mQueue := some { task with mQueue := queue } }, [])
    | none => (sys, [])

/-- The items that receivers push onto the queue while they are called, one after the other. -/
def EventQueue.pushAll (q : EventQueue T) (items : List T) : EventQueue T :=
  items.foldl (fun q data => (q.push data).1) q

/-- The rounds of a dispatch loop; `pushes` says what a receiver pushes onto the same queue when
it is called.  There is no result if an empty queue is popped. -/
def QueueTask.rounds (M : Movable T) (pushes : Delivery T → List (Item T)) :
    ℕ → QueueTask T → Option (QueueTask T × List (Delivery T))
  | 0, task => some (task, [])
  | count + 1, task => do
      let (item, queue) ← task.mQueue.pop
      let given := task.dispatch M item
      let queue := queue.pushAll (given.flatMap pushes)
      let (task, later) ← QueueTask.rounds M pushes count { task with mQueue := queue }
      some (task, given ++ later)

/-- `QueueTask::event`; `stack` as for `pollCount`. -/
def QueueTask.event (M : Movable T) (pushes : Delivery T → List (Item T)) (task : QueueTask T)
    (triggered : EventInterest) (stack : ℕ) : Option (QueueTask T × List (Delivery T)) :=
  if !task.mScheduler then some (task, [])
  else if !triggered.meets .Read then some (task, [])
  else
    let r := task.mQueue.pollCount stack
    QueueTask.rounds M pushes r.1 { task with mQueue := r.2 }

/-! ### The task runs the queue -/

/-- The queue of a task with the turns that its running dispatch loops have left. -/
def QueueTask.state (task : QueueTask T) (loops : List ℕ) : QueueState (Item T) :=
  ⟨task.mScheduler, task.mQueue, loops⟩

theorem run_pushAll (sch : Bool) (q : EventQueue T) (loops : List ℕ) (items : List T) :
    (Mealy.run step ⟨sch, q, loops⟩ (items.map .push)).1 = ⟨sch, q.pushAll items, loops⟩ ∧
      dispatched (Mealy.run step ⟨sch, q, loops⟩ (items.map .push)).2 = [] := by
  induction items generalizing q with
  | nil => exact ⟨rfl, rfl⟩
  | cons item items ih =>
    obtain ⟨hstate, hout⟩ := ih (q.push item).1
    rw [List.map_cons, Mealy.run_cons]
    refine ⟨hstate, ?_⟩
    simp only [dispatched, List.filterMap_append, List.append_eq_nil_iff] at hout ⊢
    refine ⟨?_, hout⟩
    cases (q.push item).2 <;> simp [step]

/-- The rounds of a dispatch loop are turns of the queue, with the pushes of the receivers in
between, and every item taken out is handed to its receivers. -/
theorem rounds_run {M : Movable T} {pushes : Delivery T → List (Item T)} {count : ℕ}
    {task task' : QueueTask T} {given : List (Delivery T)}
    (h : task.rounds M pushes count = some (task', given)) (outer : List ℕ) :
    ∃ ops, (Mealy.run step (task.state (count :: outer)) ops).1 = task'.state outer ∧
      given = (dispatched (Mealy.run step (task.state (count :: outer)) ops).2).flatMap
        (task.dispatch M) := by
  induction count generalizing task given with
  | zero =>
    obtain ⟨rfl, rfl⟩ : task = task' ∧ [] = given := by simpa [QueueTask.rounds] using h
    exact ⟨[.turn], rfl, rfl⟩
  | succ count ih =>
    cases hq : task.mQueue.mQueue with
    | nil => simp [QueueTask.rounds, EventQueue.pop, hq] at h
    | cons item rest =>
      simp only [QueueTask.rounds, EventQueue.pop, hq, Option.bind_eq_bind, Option.bind_some,
        Option.bind_eq_some_iff, Option.some.injEq, Prod.mk.injEq] at h
      obtain ⟨⟨last, later⟩, hrest, rfl, rfl⟩ := h
      obtain ⟨ops, hstate, hlater⟩ := ih hrest
      have hstep : step (task.state ((count + 1) :: outer)) .turn =
          (⟨task.mScheduler, ⟨rest, task.mQueue.mFd⟩, count :: outer⟩, [.dispatched item]) := by
        simp only [step, QueueTask.state, EventQueue.pop, hq]
      obtain ⟨hpush, hnone⟩ := run_pushAll task.mScheduler ⟨rest, task.mQueue.mFd⟩
        (count :: outer) ((task.dispatch M item).flatMap pushes)
      refine ⟨.turn :: (((task.dispatch M item).flatMap pushes).map .push ++ ops), ?_, ?_⟩
      · rw [Mealy.run_cons, hstep, Mealy.run_append, hpush]
        exact hstate
      · rw [Mealy.run_cons, hstep, Mealy.run_append, hpush]
        have hone : dispatched [Out.dispatched item] = [item] := rfl
        rw [dispatched_append, dispatched_append, hnone, List.nil_append, List.flatMap_append,
          hone, List.flatMap_singleton, hlater]
        rfl

/-- A call of `event` is a dispatch of the queue, run to its end. -/
theorem event_run {M : Movable T} {pushes : Delivery T → List (Item T)}
    {task task' : QueueTask T} {triggered : EventInterest} {stack : ℕ}
    {given : List (Delivery T)}
    (h : task.event M pushes triggered stack = some (task', given)) :
    ∃ ops, (Mealy.run step (task.state []) (.event triggered stack :: ops)).1 = task'.state [] ∧
      given = (dispatched (Mealy.run step (task.state [])
        (.event triggered stack :: ops)).2).flatMap (task.dispatch M) := by
  by_cases hrun : task.mScheduler = true ∧ triggered.meets .Read = true
  · obtain ⟨hsch, hread⟩ := hrun
    rw [QueueTask.event, if_neg (by simp [hsch]), if_neg (by simp [hread])] at h
    obtain ⟨ops, hstate, hgiven⟩ := rounds_run h []
    have hstep : step (task.state []) (.event triggered stack) =
        (({ task with mQueue := (task.mQueue.pollCount stack).2 } : QueueTask T).state
          [(task.mQueue.pollCount stack).1], []) := by
      simp [step, QueueTask.state, hsch, hread]
    refine ⟨ops, ?_, ?_⟩
    · rw [Mealy.run_cons, hstep]
      exact hstate
    · rw [Mealy.run_cons, hstep, List.nil_append]
      exact hgiven
  · have hsame : task.event M pushes triggered stack = some (task, []) := by
      simp only [QueueTask.event]
      grind
    obtain ⟨rfl, rfl⟩ : task = task' ∧ [] = given := by simpa [hsame] using h
    have hstep : step (task.state []) (.event triggered stack) = (task.state [], []) := by
      simp only [step, QueueTask.state]
      grind
    exact ⟨[], by rw [Mealy.run_cons, hstep]; rfl, by rw [Mealy.run_cons, hstep]; rfl⟩

/-! ### A dispatch takes out what the queue holds -/

section Dispatch

variable (M : Movable T) (pushes : Delivery T → List (Item T))

/-- Pushes for which there is room. -/
theorem pushAll_of_room (q : EventQueue T) (items : List T) (hcount : q.mFd ≤ q.mQueue.length)
    (hroom : q.mQueue.length + items.length ≤ eventQueueSize) :
    q.pushAll items = ⟨q.mQueue ++ items, q.mFd + items.length⟩ := by
  induction items generalizing q with
  | nil => simp [EventQueue.pushAll]
  | cons item items ih =>
    rw [List.length_cons] at hroom
    have hmax : q.mFd < counterMax := by
      simp only [eventQueueSize, counterMax] at hroom ⊢
      omega
    have hpush : q.pushAll (item :: items) =
        EventQueue.pushAll ⟨q.mQueue ++ [item], q.mFd + 1⟩ items := by
      rw [EventQueue.pushAll, List.foldl_cons, EventQueue.push_of_lt _ _ (by omega) hmax]
      rfl
    rw [hpush, ih _ (by simpa using hcount) (by simp; omega)]
    simp only [EventQueue.mk.injEq, List.append_assoc, List.singleton_append, List.length_cons,
      true_and]
    omega

/-- Rounds for whose pushes there is room take out the items at the front. -/
theorem rounds_of_room (task : QueueTask T) (front back : List (Item T))
    (hqueue : task.mQueue.mQueue = front ++ back) (hcount : task.mQueue.mFd ≤ back.length)
    (hroom : front.length + back.length +
      ((front.flatMap (task.dispatch M)).flatMap pushes).length ≤ eventQueueSize) :
    task.rounds M pushes front.length =
      some ({ task with mQueue :=
        ⟨back ++ (front.flatMap (task.dispatch M)).flatMap pushes,
          task.mQueue.mFd + ((front.flatMap (task.dispatch M)).flatMap pushes).length⟩ },
        front.flatMap (task.dispatch M)) := by
  induction front generalizing task back with
  | nil =>
    obtain ⟨mScheduler, ⟨mQueue, mFd⟩, mConsumers, mInspectors⟩ := task
    obtain rfl : mQueue = back := hqueue
    simp [QueueTask.rounds]
  | cons item front ih =>
    have hpop : task.mQueue.pop = some (item, ⟨front ++ back, task.mQueue.mFd⟩) := by
      simp [EventQueue.pop, hqueue]
    have hdispatch : ∀ queue, ({ task with mQueue := queue } : QueueTask T).dispatch M =
        task.dispatch M := fun _ => rfl
    simp only [List.flatMap_cons, List.flatMap_append, List.length_append,
      List.length_cons] at hroom ⊢
    have hpushes := pushAll_of_room ⟨front ++ back, task.mQueue.mFd⟩
      ((task.dispatch M item).flatMap pushes)
      (by simp only [List.length_append]; omega) (by simp only [List.length_append]; omega)
    rw [QueueTask.rounds, hpop, Option.bind_eq_bind, Option.bind_some]
    dsimp only
    rw [hpushes, ih _ (back ++ (task.dispatch M item).flatMap pushes) (by simp)
      (by simp only [List.length_append]; omega)
      (by simp only [hdispatch, List.length_append]; omega)]
    simp only [hdispatch, Option.bind_eq_bind, Option.bind_some, List.append_assoc, Nat.add_assoc]

/-- **A dispatch of a queue** with room for what the receivers push takes out all that it holds. -/
theorem event_of_room (task : QueueTask T) (hscheduler : task.mScheduler = true)
    (hbalanced : Balanced (task.state [])) (hpending : task.mQueue.mFd ≠ 0)
    (hroom : task.mQueue.mQueue.length +
      ((task.mQueue.mQueue.flatMap (task.dispatch M)).flatMap pushes).length ≤ eventQueueSize)
    (stack : ℕ) :
    task.event M pushes .Read stack =
      some ({ task with mQueue :=
        ⟨(task.mQueue.mQueue.flatMap (task.dispatch M)).flatMap pushes,
          ((task.mQueue.mQueue.flatMap (task.dispatch M)).flatMap pushes).length⟩ },
        task.mQueue.mQueue.flatMap (task.dispatch M)) := by
  have hread : EventInterest.Read.meets .Read = true := by decide
  have hcount : task.mQueue.mFd = task.mQueue.mQueue.length := by
    simpa [QueueTask.state] using hbalanced.count
  have hdispatch : ∀ queue, ({ task with mQueue := queue } : QueueTask T).dispatch M =
      task.dispatch M := fun _ => rfl
  have hpoll : task.mQueue.pollCount stack =
      (task.mQueue.mQueue.length, ⟨task.mQueue.mQueue, 0⟩) := by
    rw [EventQueue.pollCount, if_neg hpending, hcount]
  rw [QueueTask.event, if_neg (by simp [hscheduler]), if_neg (by simp [hread]), hpoll]
  have hrounds := rounds_of_room M pushes { task with mQueue := ⟨task.mQueue.mQueue, 0⟩ }
    task.mQueue.mQueue [] (by simp) (by simp) (by simpa [hdispatch] using hroom)
  simpa [hdispatch] using hrounds

/-- Whatever the receivers push, a balanced queue is dispatched to the end and is balanced then. -/
theorem rounds_isSome {count : ℕ} (task : QueueTask T) {outer : List ℕ}
    (hbalanced : Balanced (task.state (count :: outer))) :
    ∃ task' given, task.rounds M pushes count = some (task', given) ∧
      Balanced (task'.state outer) := by
  induction count generalizing task with
  | zero => exact ⟨task, [], rfl, by simpa [QueueTask.state] using hbalanced.count, hbalanced.size⟩
  | succ count ih =>
    cases hq : task.mQueue.mQueue with
    | nil =>
      have hcount := hbalanced.count
      simp only [QueueTask.state, hq, List.sum_cons, List.length_nil] at hcount
      omega
    | cons item rest =>
      have hturn := (@step_spec _ _ hbalanced .turn id).1
      have hstep : (step (task.state ((count + 1) :: outer)) .turn).1 =
          ⟨task.mScheduler, ⟨rest, task.mQueue.mFd⟩, count :: outer⟩ := by
        simp only [step, QueueTask.state, EventQueue.pop, hq]
      rw [hstep] at hturn
      have hpushed : Balanced ⟨task.mScheduler,
          (EventQueue.mk rest task.mQueue.mFd).pushAll ((task.dispatch M item).flatMap pushes),
          count :: outer⟩ := by
        rw [← (run_pushAll task.mScheduler ⟨rest, task.mQueue.mFd⟩ (count :: outer) _).1]
        refine Mealy.invariant (P := fun s (_ : List (Out (Item T))) => Balanced s)
          (fun s out op hs (hop : ∃ data, op = .push data) => (step_spec hs ?_).1) hturn
          (Mealy.along_of_forall ?_ _ [])
        · obtain ⟨data, rfl⟩ := hop
          exact id
        · intro _ _ op hop
          obtain ⟨data, -, rfl⟩ := List.mem_map.1 hop
          exact ⟨data, rfl⟩
      obtain ⟨task', given, hrest, hbalanced'⟩ := ih
        { task with
          mQueue := (EventQueue.mk rest task.mQueue.mFd).pushAll
            ((task.dispatch M item).flatMap pushes) } hpushed
      refine ⟨task', task.dispatch M item ++ given, ?_, hbalanced'⟩
      simp only [QueueTask.rounds, EventQueue.pop, hq, Option.bind_eq_bind, Option.bind_some,
        hrest]

theorem event_isSome {task : QueueTask T} (hbalanced : Balanced (task.state []))
    (hpending : task.mQueue.mFd ≠ 0) (triggered : EventInterest) (stack : ℕ) :
    ∃ task' given, task.event M pushes triggered stack = some (task', given) ∧
      Balanced (task'.state []) := by
  unfold QueueTask.event
  split_ifs
  · exact ⟨task, [], rfl, hbalanced⟩
  · exact ⟨task, [], rfl, hbalanced⟩
  · have hpoll : task.mQueue.pollCount stack = (task.mQueue.mFd, ⟨task.mQueue.mQueue, 0⟩) := by
      rw [EventQueue.pollCount, if_neg hpending]
    rw [hpoll]
    refine rounds_isSome M pushes { task with mQueue := ⟨task.mQueue.mQueue, 0⟩ } ⟨?_, ?_⟩
    · have hcount := hbalanced.count
      simp only [QueueTask.state, List.sum_nil, List.sum_cons] at hcount ⊢
      omega
    · exact hbalanced.size

end Dispatch

/-! ### Who is given what -/

/-- The places of those who accept, counted from `place`. -/
def accepting {R : Type*} (accept : R → Bool) (place : ℕ) (l : List R) : List ℕ :=
  ((l.zipIdx place).filter fun r => accept r.1).map Prod.snd

section Accepting

variable {R : Type*} (accept : R → Bool) (place : ℕ)

@[simp] theorem accepting_nil : accepting accept place [] = [] := rfl

theorem accepting_cons_of_accept {r : R} (h : accept r = true) (rest : List R) :
    accepting accept place (r :: rest) = place :: accepting accept (place + 1) rest := by
  simp [accepting, List.zipIdx_cons, h]

theorem accepting_cons_of_not {r : R} (h : accept r = false) (rest : List R) :
    accepting accept place (r :: rest) = accepting accept (place + 1) rest := by
  simp [accepting, List.zipIdx_cons, h]

end Accepting

/-- `item` as it is given to the inspector at `place`. -/
def inspection (item : Item T) (place : ℕ) : Delivery T :=
  ⟨.inspector place, item.data, item.tag⟩

/-- `item` as it is given to the consumer at `place`. -/
def consumption (item : Item T) (place : ℕ) : Delivery T :=
  ⟨.consumer place, item.data, item.tag⟩

theorem inspectors_eq (item : Item T) (place : ℕ) (l : List Inspector) :
    inspectors item place l =
      (accepting (fun r => r.accept item.tag) place l).map (inspection item) := by
  induction l generalizing place with
  | nil => rfl
  | cons r rest ih =>
    cases h : r.accept item.tag with
    | true => simp [inspectors, h, ih, accepting_cons_of_accept, inspection]
    | false => simp [inspectors, h, ih, accepting_cons_of_not]

theorem consumersSync_eq (item : Item T) (place : ℕ) (l : List Consumer) :
    consumersSync item place l =
      ((accepting (fun r => r.accept item.tag) place l).take 1).map (consumption item) := by
  induction l generalizing place with
  | nil => rfl
  | cons r rest ih =>
    cases h : r.accept item.tag with
    | true => simp [consumersSync, h, accepting_cons_of_accept, consumption]
    | false => simp [consumersSync, h, ih, accepting_cons_of_not]

/-- Every accepting consumer is called once, in order, with the tag of the item. -/
theorem consumers_receivers (M : Movable T) (item : Item T) (place : ℕ) (l : List Consumer) :
    (consumers M item place l).map (fun d => (d.receiver, d.tag)) =
      (accepting (fun r => r.accept item.tag) place l).map
        fun place => (.consumer place, item.tag) := by
  induction l generalizing place item with
  | nil => rfl
  | cons r rest ih =>
    cases h : r.accept item.tag with
    | true =>
      have hrest := ih { item with data := M.movedFrom item.data } (place + 1)
      rw [accepting_cons_of_accept (fun r : Consumer => r.accept item.tag) place h, List.map_cons,
        ← hrest]
      by_cases hlast : rest = [] <;> simp [consumers, h, hlast]
    | false => simp [consumers, h, ih, accepting_cons_of_not]

/-- The first accepting consumer is given the item as it is. -/
theorem head?_consumers (M : Movable T) (item : Item T) (place : ℕ) (l : List Consumer) :
    (consumers M item place l).head? =
      (accepting (fun r => r.accept item.tag) place l).head?.map (consumption item) := by
  induction l generalizing place with
  | nil => rfl
  | cons r rest ih =>
    cases h : r.accept item.tag with
    | true =>
      rw [accepting_cons_of_accept (fun r : Consumer => r.accept item.tag) place h]
      by_cases hlast : rest = [] <;> simp [consumers, h, hlast, consumption, M.clone_eq]
    | false => simp [consumers, h, ih, accepting_cons_of_not]

theorem length_consumers (M : Movable T) (item : Item T) (place : ℕ) (l : List Consumer) :
    (consumers M item place l).length =
      (accepting (fun r => r.accept item.tag) place l).length := by
  simpa using congrArg List.length (consumers_receivers M item place l)

/-- The two loops over the consumers agree exactly when at most one consumer accepts. -/
theorem consumers_eq_consumersSync_iff (M : Movable T) (item : Item T) (place : ℕ)
    (l : List Consumer) :
    consumers M item place l = consumersSync item place l ↔
      (accepting (fun r => r.accept item.tag) place l).length ≤ 1 := by
  have hlen := length_consumers M item place l
  have hhead := head?_consumers M item place l
  rw [consumersSync_eq]
  generalize hc : consumers M item place l = given at hlen hhead
  generalize accepting (fun r : Consumer => r.accept item.tag) place l = places at hlen hhead
  constructor
  · rintro rfl
    simp only [List.length_map, List.length_take] at hlen
    omega
  · intro hone
    rcases places with _ | ⟨first, _ | ⟨second, rest⟩⟩
    · simpa using hlen
    · rcases given with _ | ⟨d, _ | ⟨d', more⟩⟩
      · simp at hlen
      · simpa using hhead
      · simp at hlen
    · simp at hone

/-! ### One push in either mode -/

/-- What is delivered for a push: at once, and by the dispatch that the scheduler starts when
the push wrote the eventfd.  There is no result if an empty queue is popped. -/
def System.pushDelivers (M : Movable T) (pushes : Delivery T → List (Item T)) (sys : System T)
    (data : T) (tag : UInt64) (stack : ℕ) : Option (System T × List (Delivery T)) := do
  let r := sys.push data tag
  match r.1.mQueue with
  | none => some r
  | some task =>
      if task.mQueue.mFd = 0 then some r
      else
        let (task, given) ← task.event M pushes .Read stack
        some ({ r.1 with mQueue := some task }, r.2 ++ given)

section Modes

variable (M : Movable T) (pushes : Delivery T → List (Item T)) (task : QueueTask T) (data : T)
  (tag : UInt64) (stack : ℕ)

/-- The items in front of one that is pushed; a full queue loses its oldest. -/
def QueueTask.backlog : List (Item T) :=
  if task.mQueue.mQueue.length < eventQueueSize then task.mQueue.mQueue
  else task.mQueue.mQueue.tail

/-- What every accepting inspector is given, and as the two modes are meant to work every accepting
consumer. -/
def inspections : List (Delivery T) :=
  (accepting (fun r => r.accept tag) 0 task.mInspectors).map (inspection ⟨tag, data⟩)

def consumptions : List (Delivery T) :=
  (accepting (fun r => r.accept tag) 0 task.mConsumers).map (consumption ⟨tag, data⟩)

/-- As the two modes are meant to work, on a queue that is idle. -/
def FansOut : Prop :=
  ∀ mSyncMode,
    ((⟨true, mSyncMode, some { task with mQueue := .empty }⟩ : System T).pushDelivers M pushes data
        tag stack).map Prod.snd =
      some (inspections task data tag ++ consumptions task data tag)

/-- There is room in the queue for what is pushed and for what its receivers push. -/
def RoomFor : Prop :=
  task.backlog.length + 1 +
    ((task.backlog.flatMap (task.dispatch M) ++ task.dispatch M ⟨tag, data⟩).flatMap
      pushes).length ≤ eventQueueSize

/-- What a push does in the two modes. -/
structure Delivers : Prop where
  /-- In queued mode the dispatch that follows hands out what the queue held, and then every
  accepting inspector is given the value, and every accepting consumer is called, once each and in
  order; the first one is given the value.  The queue then holds what the receivers pushed. -/
  queued : RoomFor M pushes task data tag →
    ∃ (given : List (Delivery T)) (queue : EventQueue (Item T)),
    (⟨true, false, some task⟩ : System T).pushDelivers M pushes data tag stack =
      some (⟨true, false, some { task with mQueue := queue }⟩,
        task.backlog.flatMap (task.dispatch M) ++ (inspections task data tag ++ given)) ∧
    given.map (fun d => (d.receiver, d.tag)) =
      (accepting (fun r => r.accept tag) 0 task.mConsumers).map
        (fun place => (.consumer place, tag)) ∧
    given.head? = (consumptions task data tag).head? ∧
    queue.mQueue = (task.backlog.flatMap (task.dispatch M) ++
      (inspections task data tag ++ given)).flatMap pushes ∧
    Balanced (({ task with mQueue := queue } : QueueTask T).state [])
  /-- Whatever the receivers push, the dispatch comes to its end, and hands each item that it
  takes out to its receivers. -/
  taken : ∃ task' given,
    (⟨true, false, some task⟩ : System T).pushDelivers M pushes data tag stack =
      some (⟨true, false, some task'⟩, given) ∧ Balanced (task'.state []) ∧
    ∃ ops, (Mealy.run step (task.state []) (.push ⟨tag, data⟩ :: .event .Read stack :: ops)).1 =
        task'.state [] ∧
      given = (dispatched (Mealy.run step (task.state [])
        (.push ⟨tag, data⟩ :: .event .Read stack :: ops)).2).flatMap (task.dispatch M)
  /-- In synchronous mode every accepting inspector and the first accepting consumer is given the
  value at once. -/
  sync : ∀ mScheduler, (⟨mScheduler, true, some task⟩ : System T).push data tag =
    (⟨mScheduler, true, some task⟩,
      inspections task data tag ++ (consumptions task data tag).take 1)
  /-- The modes hand the value out alike when no second consumer accepts. -/
  agree : task.dispatch M ⟨tag, data⟩ = task.dispatchSync ⟨tag, data⟩ ↔
    (consumptions task data tag).length ≤ 1

variable {M pushes task data tag stack}

variable (data tag) in
theorem backlog_push (hbalanced : Balanced (task.state [])) :
    (task.mQueue.push ⟨tag, data⟩).1.mQueue = task.backlog ++ [⟨tag, data⟩] ∧
      (task.mQueue.push ⟨tag, data⟩).1.mFd ≠ 0 ∧
      Balanced (({ task with mQueue := (task.mQueue.push ⟨tag, data⟩).1 } :
        QueueTask T).state []) := by
  have hcount : task.mQueue.mFd = task.mQueue.mQueue.length := by
    simpa [QueueTask.state] using hbalanced.count
  refine ⟨?_, ?_, (@step_spec _ _ hbalanced (.push ⟨tag, data⟩) id).1⟩
  all_goals
    have hsize : task.mQueue.mQueue.length ≤ eventQueueSize := hbalanced.size
    rcases Nat.lt_or_eq_of_le hsize with hlt | hfull
    · have hmax : task.mQueue.mFd < counterMax := by
        simp only [eventQueueSize, counterMax] at hlt ⊢
        omega
      rw [EventQueue.push_of_lt _ _ hlt hmax]
      simp [QueueTask.backlog, hlt]
    · rw [EventQueue.push_of_full _ _ hfull]
      simp [QueueTask.backlog, hfull, hcount, eventQueueSize]

theorem dispatch_eq : task.dispatch M ⟨tag, data⟩ =
    inspections task data tag ++ consumers M ⟨tag, data⟩ 0 task.mConsumers := by
  rw [QueueTask.dispatch, inspectors_eq]
  rfl

/-- **Fan-out.**  What a push onto a queue that is between two dispatches delivers, for all
inspectors and consumers, whatever the queue holds. -/
theorem push_delivers (hscheduler : task.mScheduler = true)
    (hbalanced : Balanced (task.state [])) : Delivers M pushes task data tag stack := by
  obtain ⟨hqueue, hpending, hpushed⟩ := backlog_push data tag hbalanced
  have hdelivers : (⟨true, false, some task⟩ : System T).pushDelivers M pushes data tag stack =
      (({ task with mQueue := (task.mQueue.push ⟨tag, data⟩).1 } : QueueTask T).event M pushes
        .Read stack).bind fun r => some (⟨true, false, some r.1⟩, r.2) := by
    simp [System.pushDelivers, System.push, hpending]
  refine ⟨fun hroom => ?_, ?_, fun mScheduler => ?_, ?_⟩
  · let given := task.backlog.flatMap (task.dispatch M) ++
      (inspections task data tag ++ consumers M ⟨tag, data⟩ 0 task.mConsumers)
    refine ⟨consumers M ⟨tag, data⟩ 0 task.mConsumers,
      ⟨given.flatMap pushes, (given.flatMap pushes).length⟩, ?_,
      consumers_receivers M ⟨tag, data⟩ 0 task.mConsumers, ?_, rfl, rfl, ?_⟩
    rotate_left
    · rw [head?_consumers, consumptions, List.head?_map]
    · simp only [RoomFor, dispatch_eq] at hroom
      simp only [QueueTask.state, given]
      omega
    · have hall : (task.mQueue.push ⟨tag, data⟩).1.mQueue.flatMap
          (({ task with mQueue := (task.mQueue.push ⟨tag, data⟩).1 } : QueueTask T).dispatch M) =
          task.backlog.flatMap (task.dispatch M) ++
            (inspections task data tag ++ consumers M ⟨tag, data⟩ 0 task.mConsumers) := by
        rw [hqueue, List.flatMap_append, List.flatMap_singleton, ← dispatch_eq]
        rfl
      have hevent := event_of_room M pushes
        { task with mQueue := (task.mQueue.push ⟨tag, data⟩).1 } hscheduler hpushed hpending (by
          rw [hall, hqueue, List.length_append, ← dispatch_eq]
          exact hroom) stack
      rw [hall] at hevent
      rw [hdelivers, hevent]
      rfl
  · obtain ⟨task', given, hevent, hbalanced'⟩ :=
      event_isSome M pushes hpushed hpending .Read stack
    refine ⟨task', given, by rw [hdelivers, hevent]; rfl, hbalanced', ?_⟩
    obtain ⟨ops, hstate, hgiven⟩ := event_run hevent
    obtain ⟨hpush, hnone⟩ := run_pushAll task.mScheduler task.mQueue [] [(⟨tag, data⟩ : Item T)]
    have hrun := Mealy.run_append step (task.state []) [.push ⟨tag, data⟩]
      (.event .Read stack :: ops)
    rw [List.singleton_append] at hrun
    refine ⟨ops, ?_, ?_⟩
    · rw [hrun]
      exact (congrArg (fun s => (Mealy.run step s (.event .Read stack :: ops)).1) hpush).trans
        hstate
    · rw [hrun, dispatched_append]
      refine hgiven.trans ?_
      have hfirst : dispatched (Mealy.run step (task.state []) [.push ⟨tag, data⟩]).2 = [] := hnone
      rw [hfirst, List.nil_append]
      exact congrArg (fun s => (dispatched (Mealy.run step s
        (.event .Read stack :: ops)).2).flatMap (task.dispatch M)) hpush.symm
  · simp only [System.push, if_true, QueueTask.dispatchSync, inspectors_eq, consumersSync_eq,
      consumptions, ← List.map_take]
    rfl
  · rw [QueueTask.dispatch, QueueTask.dispatchSync, List.append_cancel_left_eq,
      consumers_eq_consumersSync_iff, consumptions, List.length_map]

end Modes

/-- Byte strings: a move leaves the empty string behind. -/
def byteString : Movable (List UInt8) := ⟨id, fun _ => [], fun _ => rfl⟩

/-- A task with two consumers that accept everything and an item in its queue. -/
def twoConsumers : QueueTask (List UInt8) :=
  ⟨true, ⟨[⟨7, [9]⟩], 1⟩, [⟨fun _ => true⟩, ⟨fun _ => true⟩], []⟩

/-- The first receiver of the pushed value pushes another one. -/
theorem push_delivers_twoConsumers :
    Delivers byteString (fun d => if d.data = [1, 2] then [⟨0, [3]⟩] else []) twoConsumers [1, 2] 0
      0 :=
  push_delivers rfl ⟨rfl, by decide⟩

/-- With two consumers that accept everything, the second is given an empty string in queued
mode and nothing in synchronous mode. -/
theorem not_fansOut_two_consumers :
    ¬FansOut byteString (fun _ => []) twoConsumers [1, 2] 0 0 := by
  intro h
  exact absurd (h true) (by decide)

end SuplLpp.Streamline
