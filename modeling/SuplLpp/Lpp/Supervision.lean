import SuplLpp.Lpp.Changes
import SuplLpp.Lib.Mealy

/-!
# The supervision of the sessions

A session looks after its requests in a periodic task.  `schedule` schedules the tasks of the
sessions that are there, without a look at what becomes of that, and `cancel` cancels them; a
session that is created gets no task, not even while the client is scheduled.

* `Supervised`: the tasks of the sessions in the maps are scheduled exactly while the client is;
* `tends_exec`: every piece but the client's cancel only tends the sessions;
* `Unsupervises`: the move creates a session while the client is scheduled, or schedules the client
  with a session whose task cannot be registered;
  `supervised_iff`: the sessions are supervised all through a run exactly if no move does.
-/

namespace SuplLpp.Lpp

variable {σ β : Type*}

namespace Client

/-- The tasks of the sessions in the maps are scheduled exactly while the client is. -/
structure Supervised (c : Client σ) : Prop where
  periodic : ∀ handle o session, c.mSessions.lookup handle = some o →
    c.periodic.lookup o = some session → session.mPeriodicTask = c.mScheduler
  single : ∀ transaction o session, c.mSingleSessions.lookup transaction = some o →
    c.single.lookup o = some session → session.mPeriodicTask = c.mScheduler

theorem supervised_new (hack hack' hack'' : Bool) :
    Supervised (new hack hack' hack'' : Client σ) where
  periodic handle o session h := by simp [new] at h
  single transaction o session h := by simp [new] at h

variable {c c' c'' : Client σ}

/-- Sessions that are only tended stay supervised. -/
theorem Supervised.tends (hs : Supervised c) (h : Tends c c') : Supervised c' where
  periodic handle o session' hhandle ho := by
    obtain ⟨session, hsession, -, heq⟩ := h.periodic o session' ho
    rw [heq, h.scheduler]
    exact hs.periodic handle o session (h.sessions handle o hhandle) hsession
  single transaction o session' hhandle ho := by
    obtain ⟨session, hsession, heq⟩ := h.single o session' ho
    rw [heq, h.scheduler]
    exact hs.single transaction o session (h.singles transaction o hhandle) hsession

/-! ### What the pieces change -/

/-- What holds of the objects of a map, and of one that is added. -/
theorem forall_insert_object {κ ν : Type*} [DecidableEq κ] {t : Table κ ObjectId}
    {objects : Table ObjectId ν} {p : ν → Prop}
    (hp : ∀ k o v, t.lookup k = some o → objects.lookup o = some v → p v) (k₀ : κ)
    (o₀ : ObjectId) {v₀ : ν} (hv₀ : p v₀) (k : κ) (o : ObjectId) (v : ν)
    (ho : (t.insert k₀ o₀).lookup k = some o) (hv : (objects.insert o₀ v₀).lookup o = some v) :
    p v := by
  rw [Table.lookup_insert] at ho hv
  split_ifs at hv with hnew
  · cases hv
    exact hv₀
  · split_ifs at ho with hk
    · cases ho
      exact absurd rfl hnew
    · exact hp k o v ho hv

theorem tends_eraseSession (c : Client σ) (handle : PeriodicSessionHandle) :
    Tends c { c with mSessions := c.mSessions.erase handle } :=
  { Tends.refl c with sessions := fun _ _ h => lookup_of_erase h }

theorem tends_deallocate (c : Client σ) (handle : PeriodicSessionHandle) (asker : ObjectId) :
    Tends c (c.deallocatePeriodicSessionHandle (β := β) handle asker).1 := by
  unfold deallocatePeriodicSessionHandle
  split
  · split
    · exact tends_eraseSession c handle
    · exact Tends.refl c
  · exact Tends.refl c

/-- A loop that changes objects by what does not change them again. -/
theorem lookup_foldl_changeObject {ν : Type*} {f : ObjectId → ν → ν}
    (hf : ∀ o v, f o (f o v) = f o v) (os : List ObjectId) (t : Table ObjectId ν) (o : ObjectId) :
    (os.foldl (changeObject f) t).lookup o =
      if o ∈ os then (t.lookup o).map (f o) else t.lookup o := by
  induction os generalizing t with
  | nil => simp
  | cons o' os ih =>
    rw [List.foldl_cons, ih, changeObject]
    cases ho' : t.lookup o' with
    | none =>
      by_cases heq : o = o'
      · subst heq
        simp [ho']
      · simp [heq]
    | some v =>
      by_cases heq : o = o'
      · subst heq
        simp [ho', hf]
      · simp [heq]

variable {task : ObjectId → Bool → Bool}

/-- The tasks of the sessions that are in the map. -/
theorem lookup_periodic_setTasks (htask : ∀ o b, task o (task o b) = task o b)
    {handle : PeriodicSessionHandle} {o : ObjectId} (hhandle : c.mSessions.lookup handle = some o) :
    (c.setTasks task).periodic.lookup o = (c.periodic.lookup o).map fun session =>
      { session with mPeriodicTask := task o session.mPeriodicTask } := by
  have hmem : o ∈ c.mSessions.pairs.map (·.2) :=
    List.mem_map.2 ⟨(handle, o), Table.mem_pairs.2 hhandle, rfl⟩
  exact (lookup_foldl_changeObject (fun o session => by simp only [htask]) _ c.periodic o).trans
    (if_pos hmem)

theorem lookup_single_setTasks (htask : ∀ o b, task o (task o b) = task o b)
    {transaction : TransactionHandle} {o : ObjectId}
    (hhandle : c.mSingleSessions.lookup transaction = some o) :
    (c.setTasks task).single.lookup o = (c.single.lookup o).map fun session =>
      { session with mPeriodicTask := task o session.mPeriodicTask } := by
  have hmem : o ∈ c.mSingleSessions.pairs.map (·.2) :=
    List.mem_map.2 ⟨(transaction, o), Table.mem_pairs.2 hhandle, rfl⟩
  exact (lookup_foldl_changeObject (fun o session => by simp only [htask]) _ c.single o).trans
    (if_pos hmem)

/-- When the tasks of the maps are set, the sessions are supervised exactly if each of their tasks
becomes what the client is. -/
theorem supervised_setTasks_iff (htask : ∀ o b, task o (task o b) = task o b)
    (scheduled : Bool) :
    Supervised { c.setTasks task with mScheduler := scheduled } ↔
      (∀ handle o session, c.mSessions.lookup handle = some o →
          c.periodic.lookup o = some session → task o session.mPeriodicTask = scheduled) ∧
        ∀ transaction o session, c.mSingleSessions.lookup transaction = some o →
          c.single.lookup o = some session → task o session.mPeriodicTask = scheduled := by
  constructor
  · intro hs
    refine ⟨fun handle o session hhandle ho => ?_, fun transaction o session hhandle ho => ?_⟩
    · refine hs.periodic handle o
        { session with mPeriodicTask := task o session.mPeriodicTask } hhandle ?_
      exact (lookup_periodic_setTasks htask hhandle).trans (congrArg (Option.map _) ho)
    · refine hs.single transaction o
        { session with mPeriodicTask := task o session.mPeriodicTask } hhandle ?_
      exact (lookup_single_setTasks htask hhandle).trans (congrArg (Option.map _) ho)
  · rintro ⟨hperiodic, hsingle⟩
    constructor
    · intro handle o session hhandle ho
      have hset := (lookup_periodic_setTasks (c := c) htask hhandle).symm.trans ho
      obtain ⟨before, hbefore, rfl⟩ := Option.map_eq_some_iff.1 hset
      exact hperiodic handle o before hhandle hbefore
    · intro transaction o session hhandle ho
      have hset := (lookup_single_setTasks (c := c) htask hhandle).symm.trans ho
      obtain ⟨before, hbefore, rfl⟩ := Option.map_eq_some_iff.1 hset
      exact hsingle transaction o before hhandle hbefore

theorem supervised_cancel {r : Outcome σ β} (h : c.cancel = some r) : Supervised r.1 := by
  unfold cancel at h
  split at h
  · cases h
    have hcancelled := (@supervised_setTasks_iff _ c cancelTask (fun _ _ => rfl) false).2
      ⟨fun _ _ _ _ _ => rfl, fun _ _ _ _ _ => rfl⟩
    exact ⟨hcancelled.periodic, hcancelled.single⟩
  · cases h

/-- A session that is there has a task that cannot be registered. -/
def Unregistered (registers : ObjectId → Bool) (c : Client σ) : Prop :=
  (∃ handle o, c.mSessions.lookup handle = some o ∧ (c.periodic.lookup o).isSome ∧
      registers o = false) ∨
    ∃ transaction o, c.mSingleSessions.lookup transaction = some o ∧
      (c.single.lookup o).isSome ∧ registers o = false

/-- Scheduling a client whose tasks are not scheduled. -/
theorem supervised_schedule (hs : Supervised c) (hscheduler : c.mScheduler = false)
    (registers : ObjectId → Bool) :
    Supervised { c.setTasks (scheduleTask registers) with mScheduler := true } ↔
      ¬Unregistered registers c := by
  rw [supervised_setTasks_iff (fun o b => by cases b <;> simp [scheduleTask]), Unregistered, not_or]
  refine and_congr ⟨?_, ?_⟩ ⟨?_, ?_⟩
  · rintro htasks ⟨handle, o, hhandle, hlive, hregisters⟩
    obtain ⟨session, hsession⟩ := Option.isSome_iff_exists.1 hlive
    have htask := htasks handle o session hhandle hsession
    rw [hs.periodic handle o session hhandle hsession, hscheduler] at htask
    exact absurd (hregisters.symm.trans htask) Bool.false_ne_true
  · intro hall handle o session hhandle hsession
    rw [hs.periodic handle o session hhandle hsession, hscheduler]
    by_contra hregisters
    exact hall ⟨handle, o, hhandle, Option.isSome_iff_exists.2 ⟨session, hsession⟩,
      Bool.eq_false_of_not_eq_true hregisters⟩
  · rintro htasks ⟨transaction, o, hhandle, hlive, hregisters⟩
    obtain ⟨session, hsession⟩ := Option.isSome_iff_exists.1 hlive
    have htask := htasks transaction o session hhandle hsession
    rw [hs.single transaction o session hhandle hsession, hscheduler] at htask
    exact absurd (hregisters.symm.trans htask) Bool.false_ne_true
  · intro hall transaction o session hhandle hsession
    rw [hs.single transaction o session hhandle hsession, hscheduler]
    by_contra hregisters
    exact hall ⟨transaction, o, hhandle, Option.isSome_iff_exists.2 ⟨session, hsession⟩,
      Bool.eq_false_of_not_eq_true hregisters⟩

section Exec

variable (supl : Supl σ) (codec : Codec β)
variable (inspect : Message β → Option (Option PeriodicSessionHandle))

/-- **Every piece** but the cancel of the client only tends the sessions. -/
theorem tends_exec {c : Client σ} {piece : Piece β} (hcancel : piece ≠ .cancel)
    {r : Outcome σ β} (h : c.exec supl codec inspect piece = some r) : Tends c r.1 := by
  cases piece with
  | cancel => exact absurd rfl hcancel
  | cancelSessions =>
    simp only [exec] at h
    split at h
    · cases h
      exact Tends.refl c
    · cases h
      exact tends_eraseSession c _
  | destroy o =>
    obtain ⟨session, -, h⟩ := Option.bind_eq_some_iff.mp h
    cases h
    exact Tends.refl c
  | destroyPeriodic o =>
    obtain ⟨session, hsession, h⟩ := Option.bind_eq_some_iff.mp h
    cases h
    have htended : Tended c (c.setPeriodic o { session with mRequestTransactions := ∅ },
        ([] : List (Piece β)), []) := .setPeriodic hsession (by rfl) (by rfl) (by simp)
    exact htended.tends
  | destroyHandle o =>
    obtain ⟨session, -, h⟩ := Option.bind_eq_some_iff.mp h
    cases h
    exact tends_deallocate c _ _
  | free o =>
    cases h
    exact { Tends.refl c with
      periodic := fun _ session ho => ⟨session, lookup_of_erase ho, rfl, rfl⟩ }
  | singleAbort o =>
    obtain ⟨session, -, h⟩ := Option.bind_eq_some_iff.mp h
    split at h
    · cases h
      exact Tends.refl c
    · split at h
      · cases h
        exact (Tended.onSession (β := β) c _).tends
      · cases h
        exact Tends.refl c
  | deallocatePeriodicSessionHandle handle asker =>
    cases h
    exact tends_deallocate c handle asker
  | _ => exact (exec_tended supl codec inspect rfl (by simp) (by simp) h).tends

theorem supervised_exec {c : Client σ} (hs : Supervised c) {piece : Piece β} {r : Outcome σ β}
    (h : c.exec supl codec inspect piece = some r) : Supervised r.1 := by
  by_cases hcancel : piece = .cancel
  · subst hcancel
    exact supervised_cancel h
  · exact hs.tends (tends_exec supl codec inspect hcancel h)

/-! ### Requests -/

/-- A request is sent exactly if a transaction can be created. -/
theorem transaction_sendNewRequest (c : Client σ) (message : Message β) :
    (c.sendNewRequest supl codec message).2.1 =
      (c.mSession.toTransactions.createTransaction (β := β) true).2.2 := by
  unfold sendNewRequest
  dsimp only
  split
  case h_1 hnone => exact hnone.symm
  case h_2 transaction hsome => exact hsome.symm

/-- A transaction can be created for a request. -/
def CanCreate (β : Type*) (c : Client σ) : Prop :=
  (c.mSession.toTransactions.createTransaction (β := β) true).2.2.isSome

/-- A request creates a session whose task is not scheduled. -/
theorem supervised_requestAssistanceData {c : Client σ} (hs : Supervised c) (message : Message β)
    (now : ℚ) :
    Supervised (c.requestAssistanceData supl codec message now).1 ↔
      ¬(c.mScheduler = true ∧ CanCreate β c ∧ c.freeHandle.isSome) := by
  unfold requestAssistanceData
  cases hhandle : c.freeHandle with
  | none => exact iff_of_true hs (by simp)
  | some handle =>
    have hnext : Tends c { c with mNextSessionId := handle.id } := { Tends.refl c with }
    have htends := hnext.trans (tended_sendNewRequest supl codec _ message).tends
    have hcreated : ({ c with mNextSessionId := handle.id }.sendNewRequest supl codec
        message).2.1.isSome ↔ CanCreate β c := by
      rw [transaction_sendNewRequest]
      rfl
    rw [← hcreated]
    dsimp only
    generalize ({ c with mNextSessionId := handle.id }.sendNewRequest supl codec message) = sent
      at htends
    obtain ⟨client, transaction, notices⟩ := sent
    have hclient := hs.tends htends
    have hscheduler : client.mScheduler = c.mScheduler := htends.scheduler
    cases transaction with
    | none => exact iff_of_true hclient (by simp)
    | some transaction =>
      rw [← hscheduler]
      cases hscheduled : client.mScheduler with
      | true =>
        refine iff_of_false (fun hnew => ?_) (by simp)
        have htask := hnew.periodic handle client.nextObject _ (AList.lookup_insert _)
          (AList.lookup_insert _)
        simp [registerRequest, setPeriodic, hscheduled] at htask
      | false =>
        refine iff_of_true ⟨?_, hclient.single⟩ (by simp)
        exact forall_insert_object hclient.periodic handle client.nextObject hscheduled.symm

/-- Likewise for a single session. -/
theorem supervised_requestSingle {c : Client σ} (hs : Supervised c) (message : Message β)
    (now : ℚ) :
    Supervised (c.requestSingle supl codec message now).1 ↔
      ¬(c.mScheduler = true ∧ CanCreate β c) := by
  unfold requestSingle
  have htends := (tended_sendNewRequest supl codec c message).tends
  have hcreated : (c.sendNewRequest supl codec message).2.1.isSome ↔ CanCreate β c := by
    rw [transaction_sendNewRequest]
    rfl
  rw [← hcreated]
  generalize c.sendNewRequest supl codec message = sent at htends
  obtain ⟨client, transaction, notices⟩ := sent
  have hclient := hs.tends htends
  have hscheduler : client.mScheduler = c.mScheduler := htends.scheduler
  cases transaction with
  | none => exact iff_of_true hclient (by simp)
  | some transaction =>
    rw [← hscheduler]
    cases hscheduled : client.mScheduler with
    | true =>
      refine iff_of_false (fun hnew => ?_) (by simp)
      have htask := hnew.single transaction client.nextObject _ (AList.lookup_insert _)
        (AList.lookup_insert _)
      simp [hscheduled] at htask
    | false =>
      refine iff_of_true ⟨hclient.periodic, ?_⟩ (by simp)
      exact forall_insert_object hclient.single transaction client.nextObject hscheduled.symm

/-! ### Runs -/

/-- The move creates a session while the client is scheduled, or it schedules the client and the
task of a session that is there cannot be registered. -/
def Unsupervises (c : Config σ β) : Move σ β → Prop
  | .requestAssistanceData _ _ => c.stopped = false ∧ c.usersTurn = true ∧
      c.client.mScheduler = true ∧ CanCreate β c.client ∧ c.client.freeHandle.isSome
  | .requestSingle _ _ => c.stopped = false ∧ c.usersTurn = true ∧
      c.client.mScheduler = true ∧ CanCreate β c.client
  | .schedule registers => c.stopped = false ∧ c.usersTurn = true ∧
      c.client.mScheduler = false ∧ Unregistered registers c.client
  | _ => False

theorem Moved.supervised {c : Config σ β} (hs : Supervised c.client)
    {r : Config σ β × List (Notice β)}
    (hr : Moved c (fun outcome => Supervised outcome.1) r) : Supervised r.1.client := by
  cases hr with
  | nothing => exact hs
  | stops => exact hs
  | push _ hr => exact hr

/-- A request of the user, by what it does to a client that can be called. -/
theorem supervised_call_iff {c : Config σ β} {r : Outcome σ β} {creates : Prop}
    (hs : Supervised c.client) (hr : Supervised r.1 ↔ ¬creates) :
    Supervised (call c (some r)).1.client ↔ ¬(c.usersTurn = true ∧ creates) := by
  unfold call
  split_ifs with hturn
  · rw [hturn, eq_self, true_and]
    exact hr
  · exact iff_of_true hs fun hboth => hturn hboth.1

/-- **A step** keeps the sessions supervised exactly if it creates none while the client is
scheduled and schedules the client with all of their tasks. -/
theorem supervised_step {c : Config σ β} (hs : Supervised c.client) (m : Move σ β) :
    Supervised (step supl codec inspect c m).1.client ↔ ¬Unsupervises c m := by
  unfold step
  split_ifs with hstopped
  · refine iff_of_true hs fun hcreates => ?_
    cases m <;> simp [Unsupervises, hstopped] at hcreates
  have hrunning : c.stopped = false := by simpa using hstopped
  cases m with
  | requestAssistanceData message now =>
    simp only [move, Unsupervises, hrunning, true_and]
    exact supervised_call_iff hs (supervised_requestAssistanceData supl codec hs message now)
  | requestSingle message now =>
    simp only [move, Unsupervises, hrunning, true_and]
    exact supervised_call_iff hs (supervised_requestSingle supl codec hs message now)
  | run =>
    refine iff_of_true ?_ id
    simp only [move]
    split
    · exact hs
    · exact hs
    case h_3 task todo _ _ =>
      cases hexec : c.client.exec supl codec inspect task with
      | none => exact hs
      | some r => exact supervised_exec supl codec inspect hs hexec
  | returns =>
    refine iff_of_true ?_ id
    simp only [move]
    split <;> exact hs
  | schedule registers =>
    simp only [move, Unsupervises, hrunning, true_and]
    cases hscheduler : c.client.mScheduler with
    | true =>
      refine iff_of_true (Moved.supervised hs ((moved_call c _).mono fun r hr => ?_)) (by simp)
      simp [schedule, hscheduler] at hr
    | false =>
      rw [schedule, hscheduler, if_neg Bool.false_ne_true, eq_self, true_and]
      exact supervised_call_iff hs (supervised_schedule hs hscheduler registers)
  | cancel =>
    exact iff_of_true (Moved.supervised hs ((moved_call c _).mono fun r => supervised_cancel)) id
  | singleTick o now =>
    refine iff_of_true ?_ id
    simp only [move]
    split
    case h_1 session _ =>
      by_cases htask : session.mPeriodicTask = true
      · rw [if_pos htask]
        refine Moved.supervised hs ((moved_event c _).mono ?_)
        rintro r ⟨⟩
        exact hs
      · rw [if_neg htask]
        exact hs
    case h_2 => exact hs
  | deferred =>
    refine iff_of_true ?_ id
    simp only [move]
    split
    · refine Moved.supervised hs ((moved_event c _).mono ?_)
      rintro r ⟨⟩
      exact ⟨hs.periodic, hs.single⟩
    · exact hs
  | _ =>
    refine iff_of_true (Moved.supervised hs ?_) id
    exact (moved_tended supl codec inspect c rfl).mono fun r hr => hs.tends hr.tends

/-- **Supervision.**  All through a run the tasks of the sessions are scheduled exactly while
the client is, if and only if no session is created while the client is scheduled and the tasks of
the sessions that are there when it is scheduled can all be registered. -/
theorem supervised_iff (hack hack' hack'' : Bool) (moves : List (Move σ β)) :
    (∀ js, js <+: moves → Supervised (Mealy.run (step supl codec inspect)
        (Config.new (new hack hack' hack'')) js).1.client) ↔
      Mealy.Along (fun c _ m => ¬Unsupervises c m) (step supl codec inspect)
        (Config.new (new hack hack' hack'')) [] moves :=
  @Mealy.good_iff_along _ _ _ (step supl codec inspect) (fun c => Supervised c.client)
    (fun c => Supervised c.client) Unsupervises (fun _ => True) (fun _ hs => hs)
    (fun _ m hs _ hbad hgood => (supervised_step supl codec inspect hs m).1 hgood hbad)
    (fun _ m hs _ hnot => (supervised_step supl codec inspect hs m).2 hnot)
    _ (supervised_new hack hack' hack'') [] _ fun _ _ => trivial

end Exec

/-- A request of a client that is scheduled. -/
def requestScheduled : List (Move Unit Unit) :=
  [.schedule fun _ => true, .requestAssistanceData ⟨none, false, none, some ()⟩ 0]

/-- The session of the request has no task. -/
theorem not_supervised_requestScheduled :
    ¬Supervised (Mealy.run (step Supl.ideal Codec.ideal fun _ => none)
      (Config.new (new false false false)) requestScheduled).1.client := by
  intro hs
  have htask := hs.periodic ⟨1, .targetDevice⟩ 0 _ (by decide +kernel) rfl
  exact absurd htask (by decide +kernel)

end Client

end SuplLpp.Lpp
