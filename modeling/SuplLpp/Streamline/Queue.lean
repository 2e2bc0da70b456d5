import SuplLpp.Lib.Mealy
import SuplLpp.Scheduler.Event

/-!
# `streamline::EventQueue` and the dispatch loop of its task

The items wait in a container, and an eventfd counts them for the scheduler.  `QueueTask::event`
reads the counter, which clears it, and then takes that many items out, one after the other,
while inspectors and consumers may push again.

* `EventQueue.push`, `EventQueue.pop`, `EventQueue.pollCount`, on the items and the counter;
* `step`: one push, the start of a dispatch, one turn of the innermost dispatch loop;
* `Conserved`: counter and loops account for the items, and every pushed item is dispatched,
  discarded or still queued, in the order of the pushes;
* `conserved_iff`: that holds all along a run exactly when no dispatch finds the counter at
  zero.
-/

namespace SuplLpp.Streamline

open Sched

/-! ### The eventfd and the queue -/

/-- The most that the counter of an eventfd holds. -/
def counterMax : ℕ := 2 ^ 64 - 2

/-- Writing to a non-blocking eventfd: the counter, and whether the write went through. -/
def writeEventfd (counter value : ℕ) : ℕ × Bool :=
  if counter + value ≤ counterMax then (counter + value, true) else (counter, false)

/-- `EVENT_QUEUE_SIZE`. -/
def eventQueueSize : ℕ := 4096

/-- The queue: its items, oldest first, and the counter of its eventfd. -/
structure EventQueue (T : Type*) where
  mQueue : List T
  mFd : ℕ
  deriving DecidableEq

variable {T : Type*}

namespace EventQueue

def empty : EventQueue T := ⟨[], 0⟩

/-- The queue after the push, and what it discards. -/
def push (q : EventQueue T) (data : T) : EventQueue T × Option T :=
  let items := q.mQueue ++ [data]
  if items.length > eventQueueSize then (⟨items.tail, q.mFd⟩, items.head?)
  -- a write that fails is only warned about
  else (⟨items, (writeEventfd q.mFd 1).1⟩, none)

/-- The front item and the queue without it; on an empty queue that is undefined. -/
def pop (q : EventQueue T) : Option (T × EventQueue T) :=
  match q.mQueue with
  | [] => none
  | data :: rest => some (data, ⟨rest, q.mFd⟩)

/-- Reading the eventfd gives the counter and clears it.  At zero the read fails, and what is
returned is the variable as it was found on the stack. -/
def pollCount (q : EventQueue T) (stack : ℕ) : ℕ × EventQueue T :=
  if q.mFd = 0 then (stack, q) else (q.mFd, ⟨q.mQueue, 0⟩)

end EventQueue

/-! ### The task -/

/-- The task of a queue: whether it is scheduled, the queue, and the turns that each running
dispatch loop has left, innermost loop first. -/
structure QueueState (T : Type*) where
  mScheduler : Bool
  mQueue : EventQueue T
  loops : List ℕ
  deriving DecidableEq

/-- What can happen to a queue. -/
inductive Op (T : Type*)
  /-- A producer pushes, or an inspector or consumer in the middle of a dispatch. -/
  | push (data : T)
  /-- `event` is called; `stack` is what `poll_count` finds in its variable. -/
  | event (triggered : EventInterest) (stack : ℕ)
  /-- The innermost loop tests its counter and takes the next item, or ends. -/
  | turn
  /-- `schedule`, with the outcome of the registration. -/
  | schedule (registered : Bool)
  | cancel

/-- What is seen of a queue. -/
inductive Out (T : Type*)
  | dispatched (data : T)
  | discarded (data : T)
  /-- `pop` on an empty queue. -/
  | undefined
  deriving DecidableEq

def step (s : QueueState T) : Op T → QueueState T × List (Out T)
  | .push data =>
      let r := s.mQueue.push data
      ({ s with mQueue := r.1 }, (r.2.map .discarded).toList)
  | .event triggered stack =>
      if !s.mScheduler then (s, [])
      else if !triggered.meets .Read then (s, [])
      else
        let r := s.mQueue.pollCount stack
        ({ s with mQueue := r.2, loops := r.1 :: s.loops }, [])
  | .turn =>
      match s.loops with
      | [] => (s, [])
      | 0 :: rest => ({ s with loops := rest }, [])
      | (left + 1) :: rest =>
          match s.mQueue.pop with
          | none => ({ s with loops := left :: rest }, [.undefined])
          | some (item, queue) =>
              ({ s with mQueue := queue, loops := left :: rest }, [.dispatched item])
  | .schedule registered => ({ s with mScheduler := registered }, [])
  | .cancel => ({ s with mScheduler := false }, [])

/-- A queue that has just been created. -/
def initial : QueueState T := ⟨false, .empty, []⟩

/-! ### What is accounted for -/

/-- The items that the operations push, oldest first. -/
def pushed (ops : List (Op T)) : List T :=
  ops.filterMap fun
    | .push data => some data
    | _ => none

/-- The items that left the queue, oldest first. -/
def removed (outs : List (Out T)) : List T :=
  outs.filterMap fun
    | .dispatched data => some data
    | .discarded data => some data
    | .undefined => none

/-- The items that were dispatched, oldest first. -/
def dispatched (outs : List (Out T)) : List T :=
  outs.filterMap fun
    | .dispatched data => some data
    | _ => none

/-- Counter and loops account for the items of the queue. -/
structure Balanced (s : QueueState T) : Prop where
  count : s.mQueue.mFd + s.loops.sum = s.mQueue.mQueue.length
  size : s.mQueue.mQueue.length ≤ eventQueueSize

/-- What holds after a run: the counter and the turns that the dispatch loops have left make
up the items; no empty queue was popped; the dispatched, the discarded and the queued items
are the pushed ones in their order, the dispatched ones among them; an item is discarded only
as the oldest of a full queue on a push; and outside a dispatch, a queue with items has its
counter above zero. -/
structure Conserved (ops : List (Op T)) : Prop where
  count : (Mealy.run step initial ops).1.mQueue.mFd + (Mealy.run step initial ops).1.loops.sum =
    (Mealy.run step initial ops).1.mQueue.mQueue.length
  defined : .undefined ∉ (Mealy.run step initial ops).2
  order : removed (Mealy.run step initial ops).2 ++ (Mealy.run step initial ops).1.mQueue.mQueue =
    pushed ops
  once : (dispatched (Mealy.run step initial ops).2).Sublist (pushed ops)
  lost : ∀ data, .discarded data ∈ (Mealy.run step initial ops).2 →
    ∃ before new after, ops = before ++ .push new :: after ∧
      (Mealy.run step initial before).1.mQueue.mQueue.length = eventQueueSize ∧
      (Mealy.run step initial before).1.mQueue.mQueue.head? = some data
  woken : (Mealy.run step initial ops).1.loops = [] →
    (Mealy.run step initial ops).1.mQueue.mQueue ≠ [] →
    (Mealy.run step initial ops).1.mQueue.mFd ≠ 0

/-- A dispatch that finds the counter at zero, while the variable it returns instead is not
zero by chance. -/
def Spurious (s : QueueState T) : Op T → Prop
  | .event triggered stack =>
      s.mScheduler = true ∧ triggered.meets .Read = true ∧ s.mQueue.mFd = 0 ∧ stack ≠ 0
  | _ => False

/-! ### One step -/

section Push

variable (q : EventQueue T) (data : T)

theorem EventQueue.push_of_lt (h : q.mQueue.length < eventQueueSize)
    (hcount : q.mFd < counterMax) :
    q.push data = (⟨q.mQueue ++ [data], q.mFd + 1⟩, none) := by
  have hlen : ¬(q.mQueue ++ [data]).length > eventQueueSize := by
    simp only [List.length_append, List.length_singleton]
    omega
  have hwrite : q.mFd + 1 ≤ counterMax := by omega
  simp only [EventQueue.push, if_neg hlen, writeEventfd, if_pos hwrite]

theorem EventQueue.push_of_full (h : q.mQueue.length = eventQueueSize) :
    q.push data = (⟨q.mQueue.tail ++ [data], q.mFd⟩, q.mQueue.head?) := by
  have hlen : (q.mQueue ++ [data]).length > eventQueueSize := by
    simp only [List.length_append, List.length_singleton]
    omega
  have hne : q.mQueue ≠ [] := by
    rintro hnil
    simp [hnil, eventQueueSize] at h
  simp only [EventQueue.push, if_pos hlen, List.tail_append_of_ne_nil hne,
    List.head?_append_of_ne_nil _ hne]

end Push

/-- What one step does to a balanced queue, unless it is a spurious dispatch: the queue stays
balanced, nothing undefined happens, what leaves the queue leaves it in order, and a discarded
item was the oldest of a full queue. -/
theorem step_spec {s : QueueState T} (hs : Balanced s) {op : Op T} (hop : ¬Spurious s op) :
    Balanced (step s op).1 ∧ .undefined ∉ (step s op).2 ∧
      removed (step s op).2 ++ (step s op).1.mQueue.mQueue = s.mQueue.mQueue ++ pushed [op] ∧
      ∀ data, .discarded data ∈ (step s op).2 → (∃ new, op = .push new) ∧
        s.mQueue.mQueue.length = eventQueueSize ∧ s.mQueue.mQueue.head? = some data := by
  obtain ⟨hcount, hsize⟩ := hs
  cases op with
  | push new =>
    rcases Nat.lt_or_eq_of_le hsize with hlt | hfull
    · have hmax : s.mQueue.mFd < counterMax := by
        have : s.mQueue.mFd ≤ s.mQueue.mQueue.length := by omega
        simp only [eventQueueSize, counterMax] at *
        omega
      simp only [step, EventQueue.push_of_lt _ _ hlt hmax]
      refine ⟨⟨?_, ?_⟩, by simp, by simp [removed, pushed], by simp⟩
      · simp only [List.length_append, List.length_singleton]
        omega
      · simpa using hlt
    · simp only [step, EventQueue.push_of_full _ _ hfull]
      cases hq : s.mQueue.mQueue with
      | nil => simp [hq, eventQueueSize] at hfull
      | cons oldest rest =>
        rw [hq] at hcount hfull
        refine ⟨⟨?_, ?_⟩, by simp, by simp [removed, pushed], ?_⟩
        · simpa using hcount
        · simpa using hfull.le
        · simpa using hfull
  | event triggered stack =>
    by_cases hrun : s.mScheduler = true ∧ triggered.meets .Read = true
    · obtain ⟨hsch, hread⟩ := hrun
      have hstep : step s (.event triggered stack) =
          ({ s with mQueue := (s.mQueue.pollCount stack).2,
                    loops := (s.mQueue.pollCount stack).1 :: s.loops }, []) := by
        simp [step, hsch, hread]
      rw [hstep]
      simp only [Spurious, hsch, hread, true_and, not_and, not_not] at hop
      refine ⟨⟨?_, ?_⟩, by simp, ?_, by simp⟩
      all_goals
        by_cases hzero : s.mQueue.mFd = 0
        · have hstack := hop hzero
          simp_all [EventQueue.pollCount, removed, pushed]
        · simp_all [EventQueue.pollCount, removed, pushed]
    · have hstep : step s (.event triggered stack) = (s, []) := by
        simp only [step]
        grind
      rw [hstep]
      exact ⟨⟨hcount, hsize⟩, by simp, by simp [removed, pushed], by simp⟩
  | turn =>
    rcases hl : s.loops with _ | ⟨_ | left, rest⟩
    · simp only [step, hl]
      exact ⟨⟨by simpa [hl] using hcount, hsize⟩, by simp, by simp [removed, pushed], by simp⟩
    · simp only [step, hl]
      exact ⟨⟨by simpa [hl] using hcount, hsize⟩, by simp, by simp [removed, pushed], by simp⟩
    · cases hq : s.mQueue.mQueue with
      | nil => simp [hl, hq] at hcount
      | cons oldest items =>
        simp only [step, hl, EventQueue.pop, hq]
        simp only [hl, hq, List.sum_cons, List.length_cons] at hcount hsize
        refine ⟨⟨?_, ?_⟩, by simp, by simp [removed, pushed], by simp⟩
        · simp only [List.sum_cons]
          omega
        · simp only
          omega
  | schedule registered =>
    exact ⟨⟨hcount, hsize⟩, by simp [step], by simp [step, removed, pushed], by simp [step]⟩
  | cancel =>
    exact ⟨⟨hcount, hsize⟩, by simp [step], by simp [step, removed, pushed], by simp [step]⟩

/-- After a spurious dispatch the loops promise items that are not there. -/
theorem not_balanced_of_spurious {s : QueueState T} (hs : Balanced s) {op : Op T}
    (hop : Spurious s op) :
    (step s op).1.mQueue.mFd + (step s op).1.loops.sum ≠ (step s op).1.mQueue.mQueue.length := by
  cases op with
  | event triggered stack =>
    obtain ⟨hsch, hread, hzero, hstack⟩ := hop
    have hcount := hs.count
    simp only [step, hsch, hread, EventQueue.pollCount, hzero, Bool.not_true, Bool.false_eq_true,
      if_false, if_true, List.sum_cons]
    omega
  | push | turn | schedule | cancel => exact hop.elim

/-! ### Runs -/

theorem removed_append (a b : List (Out T)) : removed (a ++ b) = removed a ++ removed b :=
  List.filterMap_append

theorem dispatched_append (a b : List (Out T)) :
    dispatched (a ++ b) = dispatched a ++ dispatched b :=
  List.filterMap_append

theorem pushed_append (a b : List (Op T)) : pushed (a ++ b) = pushed a ++ pushed b :=
  List.filterMap_append

/-- The dispatched items are some of those that left the queue. -/
theorem dispatched_sublist (outs : List (Out T)) : (dispatched outs).Sublist (removed outs) := by
  induction outs with
  | nil => exact List.Sublist.slnil
  | cons out outs ih => cases out <;> simp_all [dispatched, removed, List.Sublist.cons]

theorem conserved_of_balanced {ops : List (Op T)}
    (hbal : Balanced (Mealy.run step initial ops).1)
    (hdef : .undefined ∉ (Mealy.run step initial ops).2)
    (hord : removed (Mealy.run step initial ops).2 ++
      (Mealy.run step initial ops).1.mQueue.mQueue = pushed ops)
    (hlost : ∀ data, .discarded data ∈ (Mealy.run step initial ops).2 →
      ∃ before new after, ops = before ++ .push new :: after ∧
        (Mealy.run step initial before).1.mQueue.mQueue.length = eventQueueSize ∧
        (Mealy.run step initial before).1.mQueue.mQueue.head? = some data) :
    Conserved ops where
  count := hbal.count
  defined := hdef
  order := hord
  once := hord ▸ (dispatched_sublist _).trans (List.sublist_append_left _ _)
  lost := hlost
  woken := by
    intro hloops hitems hzero
    have hcount := hbal.count
    rw [hloops, hzero] at hcount
    exact hitems (List.eq_nil_of_length_eq_zero (by simpa using hcount.symm))

/-- A run without a spurious dispatch conserves the items. -/
theorem conserved_of_along {ops : List (Op T)}
    (h : Mealy.Along (fun s _ op => ¬Spurious s op) step initial [] ops) :
    Conserved ops ∧ Balanced (Mealy.run step initial ops).1 := by
  induction ops using List.reverseRecOn with
  | nil =>
    have hbal : Balanced (initial : QueueState T) := ⟨rfl, Nat.zero_le _⟩
    exact ⟨conserved_of_balanced hbal (by simp) (by simp [removed, pushed, initial,
      EventQueue.empty]) (by simp), hbal⟩
  | append_singleton ops op ih =>
    obtain ⟨hops, hop, -⟩ := Mealy.along_append.1 h
    obtain ⟨hcons, hbal⟩ := ih hops
    obtain ⟨hbal', hdef, hord, hlost⟩ := step_spec hbal hop
    refine ⟨conserved_of_balanced ?_ ?_ ?_ ?_, ?_⟩
    · rwa [Mealy.run_snoc_fst]
    · rw [Mealy.run_snoc_snd, List.mem_append, not_or]
      exact ⟨hcons.defined, hdef⟩
    · rw [Mealy.run_snoc_snd, Mealy.run_snoc_fst, removed_append, List.append_assoc, hord,
        pushed_append, ← hcons.order, List.append_assoc]
    · intro data hdata
      rw [Mealy.run_snoc_snd, List.mem_append] at hdata
      rcases hdata with hdata | hdata
      · obtain ⟨before, new, after, rfl, hfull, hhead⟩ := hcons.lost data hdata
        exact ⟨before, new, after ++ [op], by simp, hfull, hhead⟩
      · obtain ⟨⟨new, rfl⟩, hfull, hhead⟩ := hlost data hdata
        exact ⟨ops, new, [], rfl, hfull, hhead⟩
    · rwa [Mealy.run_snoc_fst]

/-- **Conservation.**  All along a run the items are conserved, if and only if no dispatch of it
finds the counter at zero. -/
theorem conserved_iff (ops : List (Op T)) :
    (∀ js, js <+: ops → Conserved js) ↔
      Mealy.Along (fun s _ op => ¬Spurious s op) step initial [] ops := by
  constructor
  · intro hall
    induction ops using List.reverseRecOn with
    | nil => trivial
    | append_singleton ops op ih =>
      have hops := ih fun js hjs => hall js (hjs.trans (List.prefix_append _ _))
      refine Mealy.along_append.2 ⟨hops, fun hspur => ?_, trivial⟩
      have hbad := not_balanced_of_spurious (conserved_of_along hops).2 hspur
      have hcount := (hall _ (List.prefix_refl _)).count
      rw [Mealy.run_snoc_fst] at hcount
      exact hbad hcount
  · rintro halong js ⟨rest, rfl⟩
    exact (conserved_of_along (Mealy.along_append.1 halong).1).1

/-- A second dispatch for one push: the first emptied queue and counter. -/
theorem not_conserved_of_stale_event :
    ¬∀ ops : List (Op UInt8), Conserved ops := by
  intro h
  have hdef := (h [.schedule true, .push 7, .event .Read 0, .turn, .turn, .event .Read 1,
    .turn]).defined
  exact hdef (by decide)

end SuplLpp.Streamline
