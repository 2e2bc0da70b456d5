import SuplLpp.Lpp.Changes

/-!
# Stale requests of single sessions

A single session whose request stays without an answer asks for its destruction and then sends
an abort on its transaction.  The first clears the handle that the second needs.

* `Silent`: an abort of a single session that is still to come stands right behind the request
  for destruction, or the handle is already cleared;
* `Settled`: what a stale request should come to; `stale_not_settled` is over every run.
-/

namespace SuplLpp.Lpp.Client

variable {σ β : Type*}

/-! ### One piece -/

/-- A piece starts no abort of a single session, and sends one only where it is that abort and
the session has its handle. -/
structure Discreet (c : Client σ) (piece : Piece β) (r : Outcome σ β) : Prop where
  pieces : ∀ o, .singleAbort o ∉ r.2.1
  notices : ∀ o transaction, .aborting o transaction ∈ r.2.2 → piece = .singleAbort o ∧
    ∃ session, c.single.lookup o = some session ∧ session.mTransaction = some transaction

/-- What only tends the sessions is discreet. -/
theorem Tended.discreet {c : Client σ} {piece : Piece β} {r : Outcome σ β} (h : Tended c r) :
    Discreet c piece r where
  pieces o hmem := by cases h.pieces _ hmem
  notices o transaction hmem := by cases h.notices _ hmem

theorem singleAbort_notMem_aborts (hack : Bool) (transactions : List TransactionHandle)
    {following : TransactionHandle → Piece β} (o : ObjectId)
    (h : ∀ transaction, (following transaction).isMinor = true) :
    .singleAbort o ∉ aborts hack transactions following := by
  intro hmem
  cases isMinor_aborts hack transactions h _ hmem

theorem singleAbort_notMem_deallocate (c : Client σ) (handle : PeriodicSessionHandle)
    (asker o : ObjectId) :
    .singleAbort o ∉ (c.deallocatePeriodicSessionHandle (β := β) handle asker).2.1 ∧
    ∀ transaction, Notice.aborting o transaction ∉
      (c.deallocatePeriodicSessionHandle (β := β) handle asker).2.2 := by
  unfold deallocatePeriodicSessionHandle
  split_ifs
  · split <;> simp
  · simp

/-- Pieces that tell nothing of aborts. -/
theorem Discreet.of_notices {c : Client σ} {piece : Piece β} {r : Outcome σ β}
    (hpieces : ∀ o, .singleAbort o ∉ r.2.1)
    (hnotices : ∀ o transaction, .aborting o transaction ∉ r.2.2) : Discreet c piece r :=
  ⟨hpieces, fun o transaction hmem => absurd hmem (hnotices o transaction)⟩

section Exec

variable (supl : Supl σ) (codec : Codec β)
variable (inspect : Message β → Option (Option PeriodicSessionHandle))

theorem discreet_exec {c : Client σ} {piece : Piece β} {r : Outcome σ β}
    (h : c.exec supl codec inspect piece = some r) : Discreet c piece r := by
  cases piece with
  | cancel =>
    unfold exec cancel at h
    dsimp only at h
    split at h <;> cases h
    exact .of_notices (by simp) (by simp)
  | cancelSessions =>
    unfold exec at h
    dsimp only at h
    split at h <;> cases h <;> exact .of_notices (by simp) (by simp)
  | destroy o =>
    obtain ⟨session, -, h⟩ := Option.bind_eq_some_iff.mp h
    cases h
    refine .of_notices (fun k => ?_) (by simp)
    simpa using singleAbort_notMem_aborts _ _ k fun _ => rfl
  | destroyPeriodic o =>
    obtain ⟨session, -, h⟩ := Option.bind_eq_some_iff.mp h
    cases h
    refine .of_notices (fun k => ?_) (by simp)
    simpa using singleAbort_notMem_aborts _ _ k fun _ => rfl
  | destroyHandle o =>
    obtain ⟨session, -, h⟩ := Option.bind_eq_some_iff.mp h
    cases h
    refine .of_notices (fun k => ?_) fun k => (singleAbort_notMem_deallocate c _ o k).2
    simp [(singleAbort_notMem_deallocate c session.mHandle o k).1]
  | free o =>
    cases h
    exact .of_notices (by simp) (by simp)
  | singleAbort o =>
    obtain ⟨session, hsession, h⟩ := Option.bind_eq_some_iff.mp h
    split at h
    · cases h
      exact .of_notices (by simp) (by simp)
    · cases htransaction : session.mTransaction with
      | none =>
        rw [htransaction] at h
        cases h
        exact .of_notices (by simp) (by simp)
      | some transaction =>
        rw [htransaction] at h
        cases h
        have hdiscreet : Discreet c (.singleAbort o) (c.onSession (β := β)
            (c.mSession.abort supl codec transaction)) := (Tended.onSession c _).discreet
        refine ⟨hdiscreet.pieces, fun k t hmem => ?_⟩
        rcases List.mem_cons.mp hmem with heq | hmem
        · cases heq
          exact ⟨rfl, session, hsession, htransaction⟩
        · exact hdiscreet.notices k t hmem
  | deallocatePeriodicSessionHandle handle asker =>
    cases h
    exact .of_notices (fun k => (singleAbort_notMem_deallocate c handle asker k).1)
      fun k => (singleAbort_notMem_deallocate c handle asker k).2
  | _ => exact (exec_tended supl codec inspect rfl (by simp) (by simp) h).discreet

/-- The request for destruction clears the handle. -/
theorem exec_singleTryDestroy {c : Client σ} {o : ObjectId} {r : Outcome σ β}
    (h : c.exec supl codec inspect (.singleTryDestroy o) = some r) :
    r.2.1 = [] ∧
      ∀ session, r.1.single.lookup o = some session → session.mTransaction = none := by
  obtain ⟨session, hsession, h⟩ := Option.bind_eq_some_iff.mp h
  cases htransaction : session.mTransaction with
  | none =>
    rw [htransaction] at h
    cases h
    refine ⟨rfl, ?_⟩
    intro session' hsession'
    rw [hsession] at hsession'
    cases hsession'
    exact htransaction
  | some transaction =>
    rw [htransaction] at h
    cases h
    refine ⟨rfl, ?_⟩
    intro session' hsession'
    unfold setSingle at hsession'
    dsimp only at hsession'
    rw [Table.lookup_insert, if_pos rfl] at hsession'
    cases hsession'
    rfl

end Exec

/-! ### The invariant -/

/-- Each abort of a single session that is to come is behind the request for destruction, or
comes next with the handle cleared. -/
def Silent (c : Client σ) (todo : List (Piece β)) : Prop :=
  ∀ before o after, todo = before ++ .singleAbort o :: after →
    (∃ earlier, before = earlier ++ [.singleTryDestroy o]) ∨
    before = [] ∧ ∀ session, c.single.lookup o = some session → session.mTransaction = none

theorem silent_nil (c : Client σ) : Silent c ([] : List (Piece β)) := by
  intro before o after heq
  cases before <;> cases heq

/-- An abort behind pieces that are none. -/
theorem split_abort {pieces todo before after : List (Piece β)} {o : ObjectId}
    (hpieces : ∀ k, .singleAbort k ∉ pieces)
    (heq : pieces ++ todo = before ++ .singleAbort o :: after) :
    ∃ between, before = pieces ++ between ∧ todo = between ++ .singleAbort o :: after := by
  rcases List.append_eq_append_iff.mp heq with ⟨between, hbefore, htodo⟩ | ⟨rest, hall, hafter⟩
  · exact ⟨between, hbefore, htodo⟩
  · cases rest with
    | nil => exact ⟨[], by simpa using hall.symm, by simpa using hafter.symm⟩
    | cons piece rest =>
      rw [List.cons_append] at hafter
      injection hafter with hpiece
      refine absurd ?_ (hpieces o)
      rw [hall, hpiece]
      exact List.mem_append_right _ (List.mem_cons_self ..)

/-- A callback, and the pieces of a call that is made from it. -/
theorem Silent.push {c : Config σ β} (h : Silent c.client c.todo) (hturn : c.usersTurn = true)
    (client : Client σ) {pieces : List (Piece β)} (hpieces : ∀ o, .singleAbort o ∉ pieces) :
    Silent client (pieces ++ c.todo) := by
  intro before o after heq
  obtain ⟨between, rfl, htodo⟩ := split_abort hpieces heq
  rcases h between o after htodo with ⟨earlier, rfl⟩ | ⟨rfl, -⟩
  · exact .inl ⟨pieces ++ earlier, (List.append_assoc ..).symm⟩
  · rw [Config.usersTurn, htodo] at hturn
    cases hturn

/-- A callback returns. -/
theorem Silent.returns {c : Client σ} {todo : List (Piece β)} (h : Silent c (.user :: todo)) :
    Silent c todo := by
  intro before o after htodo
  rcases h (.user :: before) o after (by rw [htodo, List.cons_append]) with
    ⟨earlier, heq⟩ | ⟨heq, -⟩
  · cases earlier with
    | nil => cases heq
    | cons piece earlier =>
      injection heq with _ hbefore
      exact .inl ⟨earlier, hbefore⟩
  · cases heq

/-- A tick starts its abort behind the request for destruction. -/
theorem silent_checkActiveRequest (c : Client σ) (o : ObjectId) (session : SingleSession)
    (now : ℚ) : Silent c (checkActiveRequest (β := β) o session now) := by
  unfold checkActiveRequest
  split
  · intro before k after heq
    -- the abort is the third of three pieces
    have hsplit : [.singleNotify o, .singleTryDestroy o] ++ [.singleAbort o] =
        before ++ (.singleAbort k :: after : List (Piece β)) := heq
    obtain ⟨between, rfl, hrest⟩ := split_abort (by simp) hsplit
    cases between with
    | nil =>
      injection hrest with hpiece
      cases hpiece
      exact .inl ⟨[.singleNotify o], rfl⟩
    | cons piece between =>
      injection hrest with _ hnil
      cases between <;> cases hnil
  · exact silent_nil c

section Steps

variable (supl : Supl σ) (codec : Codec β)
variable (inspect : Message β → Option (Option PeriodicSessionHandle))

/-- **Each piece** keeps the aborts silent. -/
theorem Silent.exec {c : Client σ} {piece : Piece β} {todo : List (Piece β)}
    (h : Silent c (piece :: todo)) {r : Outcome σ β}
    (hr : c.exec supl codec inspect piece = some r) :
    Silent r.1 (r.2.1 ++ todo) ∧ ∀ o transaction, .aborting o transaction ∉ r.2.2 := by
  have hdiscreet := discreet_exec supl codec inspect hr
  constructor
  · intro before o after heq
    obtain ⟨between, rfl, htodo⟩ := split_abort hdiscreet.pieces heq
    rcases h (piece :: between) o after (by rw [htodo, List.cons_append]) with
      ⟨earlier, hbefore⟩ | ⟨hbefore, -⟩
    · cases earlier with
      | nil =>
        injection hbefore with hpiece hbetween
        obtain ⟨hnone, hcleared⟩ := exec_singleTryDestroy supl codec inspect (hpiece ▸ hr)
        exact .inr ⟨by rw [hnone, hbetween, List.append_nil], hcleared⟩
      | cons first earlier =>
        injection hbefore with _ hbetween
        exact .inl ⟨r.2.1 ++ earlier, by rw [hbetween, List.append_assoc]; rfl⟩
    · cases hbefore
  · intro o transaction hmem
    obtain ⟨rfl, session, hsession, htransaction⟩ := hdiscreet.notices o transaction hmem
    rcases h [] o todo rfl with ⟨earlier, heq⟩ | ⟨-, hcleared⟩
    · cases earlier <;> cases heq
    · rw [hcleared session hsession] at htransaction
      cases htransaction

/-- A step without an abort of a single session. -/
structure Hushed (r : Config σ β × List (Notice β)) : Prop where
  silent : r.1.stopped = false → Silent r.1.client r.1.todo
  notices : ∀ o transaction, .aborting o transaction ∉ r.2

theorem Hushed.refl {c : Config σ β} (h : Silent c.client c.todo) : Hushed (c, []) :=
  ⟨fun _ => h, fun _ _ => List.not_mem_nil⟩

/-- A call or an event that starts no abort of a single session. -/
theorem Moved.hushed {c : Config σ β} (h : Silent c.client c.todo)
    {r : Config σ β × List (Notice β)}
    (hr : Moved c (fun outcome => (∀ o, .singleAbort o ∉ outcome.2.1) ∧
      ∀ o transaction, .aborting o transaction ∉ outcome.2.2) r) : Hushed r := by
  cases hr with
  | nothing => exact Hushed.refl h
  | stops =>
    refine ⟨?_, fun _ _ => List.not_mem_nil⟩
    intro hstopped
    cases hstopped
  | push hturn hr => exact ⟨fun _ => h.push hturn _ hr.1, hr.2⟩

theorem sendNewRequest_notices (c : Client σ) (message : Message β) (o : ObjectId)
    (transaction : TransactionHandle) :
    .aborting o transaction ∉ (c.sendNewRequest supl codec message).2.2 := by
  intro hmem
  cases (tended_sendNewRequest supl codec c message).notices _ hmem

/-- The next piece: an abort of a single session finds its transaction cleared. -/
theorem hushed_run {c : Config σ β} (h : Silent c.client c.todo) :
    Hushed (move supl codec inspect c .run) := by
  unfold move
  dsimp only
  split
  · exact Hushed.refl h
  · exact Hushed.refl h
  case h_3 piece todo _ htodo =>
    rw [htodo] at h
    cases hexec : c.client.exec supl codec inspect piece with
    | none =>
      refine ⟨?_, fun _ _ => List.not_mem_nil⟩
      intro hfalse
      cases hfalse
    | some r =>
      obtain ⟨hsilent, hnotices⟩ := h.exec supl codec inspect hexec
      exact ⟨fun _ => hsilent, hnotices⟩

/-- A tick of a single session: the pieces clear the transaction before they abort it. -/
theorem hushed_singleTick {c : Config σ β} (h : Silent c.client c.todo) (o : ObjectId) (now : ℚ) :
    Hushed (move supl codec inspect c (.singleTick o now)) := by
  unfold move
  dsimp only
  split
  case h_1 session _ =>
    split
    · unfold event
      split
      case h_1 htodo =>
        refine ⟨fun _ => ?_, ?_⟩
        · show Silent c.client (checkActiveRequest o session now ++ c.todo)
          rw [htodo, List.append_nil]
          exact silent_checkActiveRequest c.client o session now
        · intro k transaction hmem
          change _ ∈ ite _ _ _ at hmem
          split at hmem
          · obtain ⟨t, -, heq⟩ := Option.map_eq_some_iff.mp (Option.mem_toList.mp hmem)
            cases heq
          · exact List.not_mem_nil hmem
      case h_2 => exact Hushed.refl h
    · exact Hushed.refl h
  · exact Hushed.refl h

/-- **Each move** keeps the aborts silent. -/
theorem hushed_step {c : Config σ β} (h : c.stopped = false → Silent c.client c.todo)
    (m : Move σ β) : Hushed (step supl codec inspect c m) := by
  unfold step
  split
  case isTrue hstopped =>
    refine ⟨?_, fun _ _ => List.not_mem_nil⟩
    intro hfalse
    rw [hstopped] at hfalse
    cases hfalse
  case isFalse hstopped =>
  have h := h (by simpa using hstopped)
  cases m with
  | run => exact hushed_run supl codec inspect h
  | returns =>
    unfold move
    dsimp only
    split
    case h_1 todo htodo =>
      rw [htodo] at h
      exact ⟨fun _ => h.returns, fun _ _ => List.not_mem_nil⟩
    · exact Hushed.refl h
  | requestAssistanceData message now =>
    refine Moved.hushed h ((moved_call c _).mono ?_)
    rintro r ⟨⟩
    unfold requestAssistanceData
    split
    · exact ⟨by simp, by simp⟩
    case h_2 handle _ =>
      have hnotices := sendNewRequest_notices supl codec
        { c.client with mNextSessionId := handle.id } message
      split
      case h_1 hsent => exact ⟨by simp, by simpa [hsent] using hnotices⟩
      case h_2 hsent => exact ⟨by simp, by simpa [hsent] using hnotices⟩
  | requestSingle message now =>
    refine Moved.hushed h ((moved_call c _).mono ?_)
    rintro r ⟨⟩
    unfold requestSingle
    have hnotices := sendNewRequest_notices supl codec c.client message
    split
    case h_1 hsent => exact ⟨by simp, by simpa [hsent] using hnotices⟩
    case h_2 hsent => exact ⟨by simp, by simpa [hsent] using hnotices⟩
  | schedule =>
    refine Moved.hushed h ((moved_call c _).mono fun r hr => ?_)
    unfold schedule at hr
    split at hr <;> cases hr
    exact ⟨by simp, by simp⟩
  | cancel =>
    refine Moved.hushed h ((moved_call c _).mono fun r hr => ?_)
    unfold cancel at hr
    split at hr <;> cases hr
    exact ⟨by simp, by simp⟩
  | singleTick o now => exact hushed_singleTick supl codec inspect h o now
  | deferred =>
    unfold move
    dsimp only
    split
    case h_1 closure deferred _ =>
      refine Moved.hushed h ((moved_event c _).mono ?_)
      rintro r ⟨⟩
      refine ⟨?_, by simp⟩
      intro o
      cases closure <;> simp [Config.closurePieces]
    · exact Hushed.refl h
  | _ =>
    refine Moved.hushed h ((moved_tended supl codec inspect c rfl).mono fun r hr => ?_)
    exact ⟨fun o hmem => (by cases hr.pieces _ hmem),
      fun o transaction hmem => (by cases hr.notices _ hmem)⟩

/-! ### Runs -/

/-- What a stale request of a single session should come to: an abort on its transaction, which
leaves the table, and one destruction of the object. -/
structure Settled (c : Config σ β) (notices : List (Notice β)) (o : ObjectId)
    (transaction : TransactionHandle) : Prop where
  aborted : .aborting o transaction ∈ notices
  left : transaction ∉ c.client.mSession.mTransactions
  destroyed : (notices.countP fun
    | .singleDestroyed k => k = o
    | _ => false) = 1

/-- No single session ever sends an abort. -/
theorem aborting_notMem_run (hack hack' hack'' : Bool) (moves : List (Move σ β)) (o : ObjectId)
    (transaction : TransactionHandle) :
    .aborting o transaction ∉ (Mealy.run (step supl codec inspect)
      (Config.new (Client.new hack hack' hack'')) moves).2 := by
  have hstep : ∀ (c : Config σ β) (out : List (Notice β)) (m : Move σ β),
      ((c.stopped = false → Silent c.client c.todo) ∧
        ∀ o transaction, .aborting o transaction ∉ out) → True →
      ((step supl codec inspect c m).1.stopped = false →
        Silent (step supl codec inspect c m).1.client (step supl codec inspect c m).1.todo) ∧
        ∀ o transaction, .aborting o transaction ∉ out ++ (step supl codec inspect c m).2 := by
    rintro c out m ⟨hsilent, hout⟩ -
    have hhushed := hushed_step supl codec inspect hsilent m
    refine ⟨hhushed.silent, ?_⟩
    intro o transaction hmem
    rcases List.mem_append.mp hmem with hmem | hmem
    · exact hout o transaction hmem
    · exact hhushed.notices o transaction hmem
  have hrun := Mealy.invariant_run hstep
    ⟨fun _ => silent_nil _, fun _ _ => List.not_mem_nil⟩
    (Mealy.along_of_forall (fun _ _ _ _ => trivial) (Config.new (Client.new hack hack' hack'')) [] :
      Mealy.Along (fun _ _ _ => True) (step supl codec inspect) _ [] moves)
  exact hrun.2 o transaction

/-- **No stale request** of a single session comes to what it should, in whatever order the
ticks, the messages and the calls of the user come. -/
theorem stale_not_settled (hack hack' hack'' : Bool) (moves : List (Move σ β)) (o : ObjectId)
    (transaction : TransactionHandle) :
    let r := Mealy.run (step supl codec inspect) (Config.new (Client.new hack hack' hack'')) moves
    .stale o transaction ∈ r.2 → ¬ Settled r.1 r.2 o transaction := by
  intro r _ hsettled
  exact aborting_notMem_run supl codec inspect hack hack' hack'' moves o transaction
    hsettled.aborted

end Steps

/-- A single request without an answer, from its tick to the destruction of the session. -/
def staleSingleRun : List (Move Unit Unit) :=
  [.requestSingle ⟨none, false, none, some ()⟩ 0, .schedule fun _ => true, .supl (),
    .singleTick 0 6, .run, .returns, .run, .run, .deferred, .run, .run]

theorem stale_not_settled_run :
    ¬ Settled
      (Mealy.run (step Supl.ideal Codec.ideal fun _ => none)
        (Config.new (Client.new false false false)) staleSingleRun).1
      (Mealy.run (step Supl.ideal Codec.ideal fun _ => none)
        (Config.new (Client.new false false false)) staleSingleRun).2 0 ⟨1, 1, .targetDevice⟩ :=
  stale_not_settled Supl.ideal Codec.ideal (fun _ => none) false false false staleSingleRun 0
    ⟨1, 1, .targetDevice⟩ (by decide +kernel)

/-- The tick is over and the session destroyed, but its transaction is still in the table. -/
theorem not_stale_settled :
    ¬ ∀ (moves : List (Move Unit Unit)) (o : ObjectId) (transaction : TransactionHandle),
      let r := Mealy.run (step Supl.ideal Codec.ideal fun _ => none)
        (Config.new (Client.new false false false)) moves
      r.1.stopped = false → r.1.todo = [] → r.1.client.deferred = [] →
        .stale o transaction ∈ r.2 → Settled r.1 r.2 o transaction := by
  intro hall
  have hsettled := hall staleSingleRun 0 ⟨1, 1, .targetDevice⟩ (by decide +kernel)
    (by decide +kernel) (by decide +kernel) (by decide +kernel)
  exact hsettled.left (by decide +kernel)

end SuplLpp.Lpp.Client
