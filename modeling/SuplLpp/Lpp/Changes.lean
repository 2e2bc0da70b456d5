import SuplLpp.Lpp.Client

/-!
# What a client leaves of its sessions

Most pieces of a call change the lists of transactions of a session, or tell the LPP session
something.  What they all leave as it is stands here.

* `Tends`: no session comes into the maps, and none that lives changes its handle or its task;
* `Tended`: none leaves either, and neither a removal nor an abort of a single session begins;
* `exec_tended`: so does every minor piece; `moved_tended`: and so do most of the moves.
-/

namespace SuplLpp.Lpp

variable {σ β : Type*}

/-- The object that the piece destroys. -/
def Piece.destroys : Piece β → Option ObjectId
  | .destroy o | .destroyPeriodic o | .destroyHandle o | .free o => some o
  | _ => none

/-- The removal that was deferred. -/
def Piece.deallocates : Piece β → Option (PeriodicSessionHandle × ObjectId)
  | .deallocatePeriodicSessionHandle handle asker => some (handle, asker)
  | _ => none

/-- The piece is no part of a removal. -/
def Piece.Calm (piece : Piece β) : Prop := piece.destroys = none ∧ piece.deallocates = none

/-- The piece is no part of a removal, and no abort of a single session. -/
def Piece.isMinor : Piece β → Bool
  | .destroy _ | .destroyPeriodic _ | .destroyHandle _ | .free _ => false
  | .deallocatePeriodicSessionHandle _ _ | .singleAbort _ => false
  | _ => true

/-- Neither a removal nor an abort is told. -/
def Notice.isMinor : Notice β → Bool
  | .removed _ _ | .aborting _ _ => false
  | _ => true

theorem Piece.calm_of_isMinor {piece : Piece β} (h : piece.isMinor = true) : piece.Calm := by
  cases piece <;> first | exact ⟨rfl, rfl⟩ | cases h

namespace Client

/-- The handle of an object that lives. -/
def handleOf (c : Client σ) (o : ObjectId) : Option PeriodicSessionHandle :=
  (c.periodic.lookup o).map (·.mHandle)

/-- No session comes into the maps, and none changes its handle or its task; only sessions that
live ask for their destruction. -/
structure Tends (c c' : Client σ) : Prop where
  scheduler : c'.mScheduler = c.mScheduler
  nextObject : c'.nextObject = c.nextObject
  sessions : ∀ handle o, c'.mSessions.lookup handle = some o → c.mSessions.lookup handle = some o
  singles : ∀ transaction o, c'.mSingleSessions.lookup transaction = some o →
    c.mSingleSessions.lookup transaction = some o
  periodic : ∀ o session', c'.periodic.lookup o = some session' →
    ∃ session, c.periodic.lookup o = some session ∧ session'.mHandle = session.mHandle ∧
      session'.mPeriodicTask = session.mPeriodicTask
  single : ∀ o session', c'.single.lookup o = some session' →
    ∃ session, c.single.lookup o = some session ∧ session'.mPeriodicTask = session.mPeriodicTask
  asks : ∀ handle asker, .deallocatePeriodicSessionHandle handle asker ∈ c'.deferred →
    .deallocatePeriodicSessionHandle handle asker ∈ c.deferred ∨ c.handleOf asker = some handle

/-- No session leaves the maps or is destroyed either, no removal begins or is told, and no abort
of a single session. -/
structure Tended (c : Client σ) (r : Outcome σ β) : Prop where
  tends : Tends c r.1
  sessions : r.1.mSessions = c.mSessions
  living : ∀ o, (c.periodic.lookup o).isSome → (r.1.periodic.lookup o).isSome
  pieces : ∀ piece ∈ r.2.1, piece.isMinor = true
  notices : ∀ notice ∈ r.2.2, notice.isMinor = true

variable {c c' c'' : Client σ}

theorem Tends.refl (c : Client σ) : Tends c c where
  scheduler := rfl
  nextObject := rfl
  sessions _ _ h := h
  singles _ _ h := h
  periodic _ session h := ⟨session, h, rfl, rfl⟩
  single _ session h := ⟨session, h, rfl⟩
  asks _ _ h := .inl h

theorem Tends.handleOf (h : Tends c c') {o : ObjectId} {handle : PeriodicSessionHandle}
    (ho : c'.handleOf o = some handle) : c.handleOf o = some handle := by
  obtain ⟨session', hsession', rfl⟩ := Option.map_eq_some_iff.mp ho
  obtain ⟨session, hsession, hhandle, -⟩ := h.periodic o session' hsession'
  rw [Client.handleOf, hsession, Option.map_some, hhandle]

theorem Tends.trans (h : Tends c c') (h' : Tends c' c'') : Tends c c'' where
  scheduler := h'.scheduler.trans h.scheduler
  nextObject := h'.nextObject.trans h.nextObject
  sessions handle o ho := h.sessions handle o (h'.sessions handle o ho)
  singles transaction o ho := h.singles transaction o (h'.singles transaction o ho)
  periodic o session'' ho := by
    obtain ⟨session', hsession', hhandle', htask'⟩ := h'.periodic o session'' ho
    obtain ⟨session, hsession, hhandle, htask⟩ := h.periodic o session' hsession'
    exact ⟨session, hsession, hhandle'.trans hhandle, htask'.trans htask⟩
  single o session'' ho := by
    obtain ⟨session', hsession', heq'⟩ := h'.single o session'' ho
    obtain ⟨session, hsession, heq⟩ := h.single o session' hsession'
    exact ⟨session, hsession, heq'.trans heq⟩
  asks handle asker hasks := by
    rcases h'.asks handle asker hasks with hdeferred | hlives
    · exact h.asks handle asker hdeferred
    · exact .inr (h.handleOf hlives)

/-- The sessions that live have the handles that they had. -/
theorem Tended.handles {r : Outcome σ β} (h : Tended c r) (o : ObjectId) :
    r.1.handleOf o = c.handleOf o := by
  cases hafter : r.1.handleOf o with
  | some handle => exact (h.tends.handleOf hafter).symm
  | none =>
    cases hbefore : c.periodic.lookup o with
    | none => rw [handleOf, hbefore, Option.map_none]
    | some session =>
      have hlives := h.living o (by rw [hbefore]; rfl)
      rw [handleOf, Option.map_eq_none_iff] at hafter
      rw [hafter] at hlives
      cases hlives

/-! ### Changes of one kind -/

/-- An entry gives way to one that agrees with it. -/
theorem lookup_insert_of {κ ν : Type*} [DecidableEq κ] {t : Table κ ν} {k : κ} {v v' : ν}
    (hk : t.lookup k = some v) {p : ν → ν → Prop} (hrefl : ∀ w, p w w) (hp : p v' v) (k' : κ)
    (w : ν) (hw : (t.insert k v').lookup k' = some w) : ∃ u, t.lookup k' = some u ∧ p w u := by
  rw [Table.lookup_insert] at hw
  split_ifs at hw with heq
  · cases hw
    exact ⟨v, heq ▸ hk, hp⟩
  · exact ⟨w, hw, hrefl w⟩

theorem lookup_of_erase {κ ν : Type*} [DecidableEq κ] {t : Table κ ν} {k k' : κ} {v : ν}
    (h : (t.erase k).lookup k' = some v) : t.lookup k' = some v := by
  rw [Table.lookup_erase] at h
  split_ifs at h
  exact h

/-- The client is not changed. -/
theorem Tended.idle (c : Client σ) {pieces : List (Piece β)}
    (hpieces : ∀ piece ∈ pieces, piece.isMinor = true) : Tended c (c, pieces, []) :=
  ⟨Tends.refl c, rfl, fun _ h => h, hpieces, by simp⟩

theorem isMinor_lpp (events : List (Event β)) :
    ∀ notice ∈ events.map Notice.lpp, notice.isMinor = true := by
  intro notice hmem
  obtain ⟨event, -, rfl⟩ := List.mem_map.mp hmem
  rfl

theorem isMinor_reaction (event : Event β) :
    ∀ piece ∈ reaction event, piece.isMinor = true := by
  cases event <;> simp [reaction, Piece.isMinor]

/-- What the LPP session does. -/
theorem Tended.onSession (c : Client σ) (r : Endpoint σ × List (Event β)) :
    Tended c (c.onSession r) where
  tends := { Tends.refl c with }
  sessions := rfl
  living _ h := h
  pieces piece hmem := by
    obtain ⟨event, -, hmem⟩ := List.mem_flatMap.mp hmem
    exact isMinor_reaction event piece hmem
  notices := isMinor_lpp r.2

/-- The lists of transactions of a session, in the session and in the maps. -/
theorem Tended.setPeriodic {o : ObjectId} {session session' : PeriodicSession}
    (ho : c.periodic.lookup o = some session) (hhandle : session'.mHandle = session.mHandle)
    (htask : session'.mPeriodicTask = session.mPeriodicTask)
    {requests periodics : Table TransactionHandle PeriodicSessionHandle}
    {pieces : List (Piece β)} (hpieces : ∀ piece ∈ pieces, piece.isMinor = true) :
    Tended c ({ c.setPeriodic o session' with
      mRequestTransactions := requests
      mPeriodicTransactions := periodics }, pieces, []) where
  tends := { Tends.refl c with
    periodic := lookup_insert_of
      (p := fun w u : PeriodicSession => w.mHandle = u.mHandle ∧
        w.mPeriodicTask = u.mPeriodicTask) ho (fun _ => ⟨rfl, rfl⟩) ⟨hhandle, htask⟩ }
  sessions := rfl
  living k hk := by
    show ((c.periodic.insert o session').lookup k).isSome
    rw [Table.lookup_insert]
    split_ifs
    · rfl
    · exact hk
  pieces := hpieces
  notices := by simp

theorem tended_handlePeriodicEnded {o : ObjectId} {session : PeriodicSession}
    (ho : c.periodic.lookup o = some session) {transaction : TransactionHandle}
    (hc' : c.handlePeriodicEnded o session transaction = some c') {pieces : List (Piece β)}
    (hpieces : ∀ piece ∈ pieces, piece.isMinor = true) : Tended c (c', pieces, []) := by
  unfold handlePeriodicEnded at hc'
  split at hc'
  · cases hc'
    exact .setPeriodic ho (by rfl) (by rfl) hpieces
  · cases hc'

theorem tended_sessionMessage {o : ObjectId} {session : PeriodicSession}
    (ho : c.periodic.lookup o = some session) (transaction : TransactionHandle) :
    Tended c ((c.sessionMessage (β := β) o session transaction).1,
      (c.sessionMessage (β := β) o session transaction).2, []) := by
  unfold sessionMessage
  split
  · exact .idle c (by simp [Piece.isMinor])
  · split_ifs
    · exact .idle c (by simp [Piece.isMinor])
    · exact .idle c (by simp)
    · exact .idle c (by simp [Piece.isMinor])
    · exact .setPeriodic ho (by rfl) (by rfl) (by simp [Piece.isMinor])

theorem tended_sessionEnded {o : ObjectId} {session : PeriodicSession}
    (ho : c.periodic.lookup o = some session) (transaction : TransactionHandle) :
    Tended c ((c.sessionEnded (β := β) o session transaction).1,
      (c.sessionEnded (β := β) o session transaction).2, []) := by
  unfold sessionEnded
  split_ifs
  · exact .setPeriodic ho (by rfl) (by rfl) (by simp)
  · exact .idle c (by simp [Piece.isMinor])
  · exact .idle c (by simp)

theorem tended_removeSingleSession (c : Client σ) (transaction : TransactionHandle) :
    Tended c ((c.removeSingleSession (β := β) transaction).1,
      (c.removeSingleSession (β := β) transaction).2, []) := by
  unfold removeSingleSession
  split
  · exact ⟨{ Tends.refl c with singles := fun _ _ h => lookup_of_erase h }, rfl, fun _ h => h,
      by simp [Piece.isMinor], by simp⟩
  · exact .idle c (by simp)

theorem isMinor_aborts (hack : Bool) (transactions : List TransactionHandle)
    {following : TransactionHandle → Piece β} (h : ∀ t, (following t).isMinor = true) :
    ∀ piece ∈ aborts hack transactions following, piece.isMinor = true := by
  intro piece hmem
  unfold aborts at hmem
  split at hmem
  · exact absurd hmem List.not_mem_nil
  · obtain ⟨transaction, -, hmem⟩ := List.mem_flatMap.mp hmem
    simp only [List.mem_cons, List.not_mem_nil, or_false] at hmem
    rcases hmem with rfl | rfl
    · rfl
    · exact h transaction

/-! ### The pieces -/

section Exec

variable (supl : Supl σ) (codec : Codec β)
variable (inspect : Message β → Option (Option PeriodicSessionHandle))

theorem isMinor_processMessage (c : Client σ) (transaction : TransactionHandle)
    (message : Message β) :
    ∀ piece ∈ c.processMessage inspect transaction message, piece.isMinor = true := by
  unfold processMessage
  split
  · simp [Piece.isMinor]
  · split
    · simp [Piece.isMinor]
    · split
      · simp [Piece.isMinor]
      · split <;> simp [Piece.isMinor]

/-- A session asks for its handle to be given back. -/
theorem tended_tryDestroy {o : ObjectId} {r : Outcome σ β}
    (h : c.exec supl codec inspect (.tryDestroy o) = some r) : Tended c r := by
  obtain ⟨session, hsession, h⟩ := Option.bind_eq_some_iff.mp h
  cases h
  split
  · refine ⟨{ Tends.refl c with asks := fun handle asker hmem => ?_ }, rfl, fun _ h => h,
      by simp, by simp⟩
    rcases List.mem_append.mp hmem with hmem | hmem
    · exact .inl hmem
    · cases List.mem_singleton.mp hmem
      exact .inr (by rw [handleOf, hsession, Option.map_some])
  · exact .idle c (by simp)

/-- A single session clears its transaction and asks for its removal. -/
theorem tended_singleTryDestroy {o : ObjectId} {r : Outcome σ β}
    (h : c.exec supl codec inspect (.singleTryDestroy o) = some r) : Tended c r := by
  obtain ⟨session, hsession, h⟩ := Option.bind_eq_some_iff.mp h
  have hset : ∀ c' : Client σ, c'.single = c.single →
      Tends c' (c'.setSingle o { session with mTransaction := none }) := fun c' hsingle =>
    { Tends.refl c' with
      single := lookup_insert_of
        (p := fun w u : SingleSession => w.mPeriodicTask = u.mPeriodicTask)
        (hsingle ▸ hsession) (fun _ => rfl) (by rfl) }
  split at h
  case h_1 transaction _ =>
    cases h
    split
    · have hdefer : Tends c
          { c with deferred := c.deferred ++ [.removeSingleSession transaction] } :=
        { Tends.refl c with
          asks := fun handle asker hmem => .inl ((List.mem_append.mp hmem).resolve_right
            fun hmem => by cases List.mem_singleton.mp hmem) }
      exact ⟨hdefer.trans (hset _ rfl), rfl, fun _ h => h, by simp, by simp⟩
    · exact ⟨hset c rfl, rfl, fun _ h => h, by simp, by simp⟩
  case h_2 =>
    cases h
    exact .idle c (by simp)

/-- A single session leaves its maps. -/
theorem tended_singleDestroy {o : ObjectId} {r : Outcome σ β}
    (h : c.exec supl codec inspect (.singleDestroy o) = some r) : Tended c r := by
  obtain ⟨session, -, h⟩ := Option.bind_eq_some_iff.mp h
  cases h
  have herase : ∀ c' : Client σ, Tends c' { c' with single := c'.single.erase o } := fun c' =>
    { Tends.refl c' with single := fun _ session ho => ⟨session, lookup_of_erase ho, rfl⟩ }
  cases session.mTransaction with
  | none => exact ⟨herase c, rfl, fun _ h => h, by simp, by simp [Notice.isMinor]⟩
  | some transaction =>
    have htended := tended_removeSingleSession (β := β) c transaction
    exact ⟨htended.tends.trans (herase _), htended.sessions, htended.living, htended.pieces,
      by simp [Notice.isMinor]⟩

/-- **Every minor piece** but the cancel of the client and that of its sessions. -/
theorem exec_tended {piece : Piece β} (hminor : piece.isMinor = true) (hcancel : piece ≠ .cancel)
    (hsessions : piece ≠ .cancelSessions) {r : Outcome σ β}
    (h : c.exec supl codec inspect piece = some r) : Tended c r := by
  cases piece with
  | destroy | destroyPeriodic | destroyHandle | free | deallocatePeriodicSessionHandle |
    singleAbort => cases hminor
  | cancel => exact absurd rfl hcancel
  | cancelSessions => exact absurd rfl hsessions
  | user =>
    cases h
    exact .idle c (by simp)
  | cancelMaps =>
    cases h
    refine ⟨{ Tends.refl c with singles := fun transaction o ho => by simp at ho }, rfl,
      fun _ h => h, fun piece hmem => ?_, by simp⟩
    obtain ⟨o, -, rfl⟩ := List.mem_map.mp hmem
    rfl
  | processMessage transaction message =>
    cases h
    exact .idle c (isMinor_processMessage inspect c transaction message)
  | returned | sendAbort =>
    cases h
    exact .onSession c _
  | endRequest transaction | endPeriodic transaction =>
    cases h
    refine .idle c fun piece hmem => ?_
    obtain ⟨o, -, rfl⟩ := Option.map_eq_some_iff.mp (Option.mem_toList.mp hmem)
    rfl
  | endSingle transaction | removeSingleSession transaction =>
    cases h
    exact tended_removeSingleSession c transaction
  | message o transaction =>
    obtain ⟨session, hsession, h⟩ := Option.bind_eq_some_iff.mp h
    cases h
    exact tended_sessionMessage hsession transaction
  | ended o transaction =>
    obtain ⟨session, hsession, h⟩ := Option.bind_eq_some_iff.mp h
    cases h
    exact tended_sessionEnded hsession transaction
  | handlePeriodicEnded o transaction | destroyEnded o transaction =>
    obtain ⟨session, hsession, h⟩ := Option.bind_eq_some_iff.mp h
    obtain ⟨c', hc', rfl⟩ := Option.map_eq_some_iff.mp h
    exact tended_handlePeriodicEnded hsession hc' (by simp [Piece.isMinor])
  | notify o | singleNotify o =>
    obtain ⟨session, -, h⟩ := Option.bind_eq_some_iff.mp h
    cases h
    exact .idle c (by simp [Piece.isMinor])
  | singleMessage o transaction =>
    obtain ⟨session, -, h⟩ := Option.bind_eq_some_iff.mp h
    cases h
    refine .idle c ?_
    split <;> simp [Piece.isMinor]
  | unregisterRequest o transaction | eraseRequest o transaction =>
    obtain ⟨session, hsession, h⟩ := Option.bind_eq_some_iff.mp h
    cases h
    exact .setPeriodic hsession (by rfl) (by rfl) (by simp)
  | tryDestroy o => exact tended_tryDestroy supl codec inspect h
  | singleTryDestroy o => exact tended_singleTryDestroy supl codec inspect h
  | singleDestroy o => exact tended_singleDestroy supl codec inspect h

/-! ### The moves -/

/-- What a request of the user sends. -/
theorem tended_sendNewRequest (c : Client σ) (message : Message β) :
    Tended c ((c.sendNewRequest supl codec message).1, [],
      (c.sendNewRequest supl codec message).2.2) := by
  unfold sendNewRequest
  dsimp only
  split
  · exact ⟨{ Tends.refl c with }, rfl, fun _ h => h, by simp, isMinor_lpp _⟩
  · exact ⟨{ Tends.refl c with }, rfl, fun _ h => h, by simp, isMinor_lpp _⟩

theorem tended_updateAssistanceData (c : Client σ) (handle : PeriodicSessionHandle)
    (message : Message β) (now : ℚ) :
    Tended c (c.updateAssistanceData supl codec handle message now) := by
  unfold updateAssistanceData
  split
  · exact .idle c (by simp)
  case h_2 o session hfound =>
    have hsession : c.periodic.lookup o = some session := by
      obtain ⟨k, -, hk⟩ := Option.bind_eq_some_iff.mp hfound
      obtain ⟨session', hsession', heq⟩ := Option.map_eq_some_iff.mp hk
      cases heq
      exact hsession'
    have htended := tended_sendNewRequest supl codec c message
    have hperiodic : (c.sendNewRequest supl codec message).1.periodic = c.periodic := by
      unfold sendNewRequest
      dsimp only
      split <;> rfl
    cases hsent : c.sendNewRequest supl codec message with
    | mk client sent =>
      obtain ⟨transaction, notices⟩ := sent
      rw [hsent] at htended hperiodic
      cases transaction with
      | none => exact htended
      | some transaction =>
        have hset : Tended client
            (client.registerRequest o session transaction now, ([] : List (Piece β)), []) :=
          .setPeriodic (hperiodic ▸ hsession) (by rfl) (by rfl) (by simp)
        exact ⟨htended.tends.trans hset.tends, hset.sessions.trans htended.sessions,
          fun k hk => hset.living k (htended.living k hk), by simp, htended.notices⟩

/-- What a tick of a periodic session starts. -/
theorem isMinor_checkActiveRequests (o : ObjectId) (session : PeriodicSession) (now : ℚ) :
    ∀ piece ∈ checkActiveRequests (β := β) o session now, piece.isMinor = true := by
  intro piece hmem
  rcases List.mem_append.mp hmem with hmem | hmem
  · obtain ⟨transaction, -, hmem⟩ := List.mem_flatMap.mp hmem
    simp only [List.mem_cons, List.not_mem_nil, or_false] at hmem
    rcases hmem with rfl | rfl | rfl <;> rfl
  · exact isMinor_aborts _ _ (fun _ => rfl) piece hmem

/-- What a move may come to: nothing, the end of the program, or an outcome whose pieces come
before what is left to do. -/
inductive Moved (c : Config σ β) (p : Outcome σ β → Prop) :
    Config σ β × List (Notice β) → Prop
  | nothing : Moved c p (c, [])
  | stops : Moved c p ({ c with stopped := true }, [])
  | push {r : Outcome σ β} (turn : c.usersTurn = true) (hr : p r) : Moved c p (c.push r)

theorem moved_call (c : Config σ β) (r : Option (Outcome σ β)) :
    Moved c (r = some ·) (call c r) := by
  unfold call
  split_ifs with hturn
  · cases r with
    | none => exact .stops
    | some r => exact .push hturn rfl
  · exact .nothing

/-- An event is a call that comes when nothing is running. -/
theorem moved_event (c : Config σ β) (r : Option (Outcome σ β)) :
    Moved c (r = some ·) (event c r) := by
  unfold event
  split
  case h_1 htodo =>
    cases r with
    | none => exact .stops
    | some r => exact .push (by rw [Config.usersTurn, htodo]) rfl
  case h_2 => exact .nothing

theorem Moved.mono {c : Config σ β} {p q : Outcome σ β → Prop}
    {r : Config σ β × List (Notice β)} (h : Moved c p r) (hpq : ∀ r, p r → q r) :
    Moved c q r := by
  cases h with
  | nothing => exact .nothing
  | stops => exact .stops
  | push hturn hr => exact .push hturn (hpq _ hr)

/-- The moves that only tend the sessions. -/
def Move.isMinor : Move σ β → Bool
  | .updateAssistanceData _ _ _ | .createTransaction _ | .send _ | .disconnected | .receive _ |
    .tick _ _ | .supl _ | .posinit => true
  | _ => false

/-- **Every minor move** comes to an outcome that tends the sessions. -/
theorem moved_tended (c : Config σ β) {m : Move σ β} (hminor : m.isMinor = true) :
    Moved c (Tended c.client) (move supl codec inspect c m) := by
  cases m with
  | run | returns | requestAssistanceData | requestSingle | schedule | cancel | singleTick |
    deferred => cases hminor
  | updateAssistanceData handle message now =>
    refine (moved_call c _).mono ?_
    rintro r ⟨⟩
    exact tended_updateAssistanceData supl codec c.client handle message now
  | createTransaction | send =>
    refine (moved_call c _).mono ?_
    rintro r ⟨⟩
    exact .onSession c.client _
  | disconnected =>
    refine (moved_call c _).mono fun r hr => ?_
    split_ifs at hr
    cases hr
    exact ⟨{ Tends.refl c.client with
      asks := fun handle asker hmem => .inl ((List.mem_append.mp hmem).resolve_right
        fun hmem => by cases List.mem_singleton.mp hmem) }, rfl, fun _ h => h, by simp, by simp⟩
  | receive message =>
    simp only [move]
    split_ifs
    · refine (moved_event c _).mono ?_
      rintro r ⟨⟩
      have htended := Tended.onSession c.client
        ((c.client.mSession.receive message).1, (c.client.mSession.receive message).2.1)
      refine ⟨htended.tends, htended.sessions, htended.living, fun piece hmem => ?_,
        htended.notices⟩
      rcases List.mem_append.mp hmem with hmem | hmem
      · exact htended.pieces piece hmem
      · obtain ⟨frame, -, rfl⟩ := Option.map_eq_some_iff.mp (Option.mem_toList.mp hmem)
        rfl
    · exact .nothing
  | tick o now =>
    simp only [move]
    split
    · split_ifs
      · refine (moved_event c _).mono ?_
        rintro r ⟨⟩
        exact .idle c.client (isMinor_checkActiveRequests o _ now)
      · exact .nothing
    · exact .nothing
  | supl | posinit =>
    simp only [move]
    split_ifs with hturn
    · rw [Bool.and_eq_true] at hturn
      exact .push (r := (_, [], [])) hturn.2
        ⟨{ Tends.refl c.client with }, rfl, fun _ h => h, by simp, by simp⟩
    · exact .nothing

end Exec

end Client

end SuplLpp.Lpp
