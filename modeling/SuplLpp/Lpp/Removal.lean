import SuplLpp.Lpp.Changes

/-!
# Which session a deferred destruction removes

A periodic session that wants to be destroyed leaves a closure with its handle at the scheduler.
Handles are used again at once, so the closure can find a later session under the handle.

* `Calm`: a piece that neither creates nor removes a periodic session;
* `Sound`: whoever is still to be destroyed, or asked for it, is the only object that its handle
  can lead to;
* `Fresh`: no session is created under a handle for which a destruction is pending.
  `removal_spares` is over every run that meets this; `not_removal_spares` is a run that does
  not.
-/

namespace SuplLpp.Lpp

variable {σ β : Type*}

namespace Client

/-- A removal under the handle is deferred, or going on. -/
def Pending (c : Client σ) (todo : List (Piece β)) (handle : PeriodicSessionHandle)
    (asker : ObjectId) : Prop :=
  .deallocatePeriodicSessionHandle handle asker ∈ c.deferred ∨
    ∃ piece ∈ todo, piece.deallocates = some (handle, asker) ∨
      piece.destroys = some asker ∧ c.handleOf asker = some handle

/-! ### Pieces that are no part of a removal -/

/-- The sessions are the same, and only sessions that live have asked for their destruction. -/
structure Calm (c : Client σ) (r : Outcome σ β) : Prop where
  sessions : r.1.mSessions = c.mSessions
  handles : ∀ o, r.1.handleOf o = c.handleOf o
  nextObject : c.nextObject ≤ r.1.nextObject
  asks : ∀ handle asker, .deallocatePeriodicSessionHandle handle asker ∈ r.1.deferred →
    .deallocatePeriodicSessionHandle handle asker ∈ c.deferred ∨ c.handleOf asker = some handle
  pieces : ∀ piece ∈ r.2.1, piece.Calm
  notices : ∀ o asker, .removed o asker ∉ r.2.2

/-- What only tends the sessions is calm. -/
theorem Tended.calm {c : Client σ} {r : Outcome σ β} (h : Tended c r) : Calm c r where
  sessions := h.sessions
  handles := h.handles
  nextObject := h.tends.nextObject.ge
  asks := h.tends.asks
  pieces piece hmem := Piece.calm_of_isMinor (h.pieces piece hmem)
  notices o asker hmem := by cases h.notices _ hmem

theorem handleOf_setPeriodic (c : Client σ) (o : ObjectId) (session : PeriodicSession)
    (k : ObjectId) : (c.setPeriodic o session).handleOf k =
      if k = o then some session.mHandle else c.handleOf k := by
  unfold handleOf setPeriodic
  rw [Table.lookup_insert]
  split <;> rfl

/-- A session is changed, but not its handle. -/
theorem handleOf_setPeriodic_of_lookup {c : Client σ} {o : ObjectId} {session : PeriodicSession}
    (h : c.periodic.lookup o = some session) {session' : PeriodicSession}
    (hhandle : session'.mHandle = session.mHandle) (k : ObjectId) :
    (c.setPeriodic o session').handleOf k = c.handleOf k := by
  rw [handleOf_setPeriodic]
  split
  case isTrue heq => rw [heq, handleOf, h, Option.map_some, hhandle]
  case isFalse => rfl

theorem handleOf_setTasks (c : Client σ) (task : ObjectId → Bool → Bool) (o : ObjectId) :
    (c.setTasks task).handleOf o = c.handleOf o := by
  refine List.foldlRecOn (motive := fun table : Table ObjectId PeriodicSession =>
    (table.lookup o).map (·.mHandle) = c.handleOf o) _ _ rfl fun table ih k _ => ?_
  unfold changeObject
  cases hk : table.lookup k with
  | none => exact ih
  | some session =>
    dsimp only
    rw [Table.lookup_insert]
    split
    case isTrue heq =>
      subst heq
      rw [hk] at ih
      exact ih
    case isFalse => exact ih

section Exec

variable (supl : Supl σ) (codec : Codec β)
variable (inspect : Message β → Option (Option PeriodicSessionHandle))

theorem calm_cancel {c : Client σ} {r : Outcome σ β} (h : c.cancel = some r) : Calm c r := by
  unfold cancel at h
  split at h
  · cases h
    refine ⟨rfl, handleOf_setTasks c cancelTask, le_rfl, fun _ _ hasks => .inl hasks, ?_, by simp⟩
    intro piece hmem
    rw [List.mem_singleton.mp hmem]
    exact ⟨rfl, rfl⟩
  · cases h

/-- **All pieces but those of a removal** leave the periodic sessions as they are. -/
theorem calm_exec {c : Client σ} {piece : Piece β} (hpiece : piece.Calm)
    (hcancel : piece ≠ .cancelSessions) {r : Outcome σ β}
    (h : c.exec supl codec inspect piece = some r) : Calm c r := by
  cases piece with
  | destroy | destroyPeriodic | destroyHandle | free =>
    exact absurd hpiece.1 (by simp [Piece.destroys])
  | deallocatePeriodicSessionHandle => exact absurd hpiece.2 (by simp [Piece.deallocates])
  | cancelSessions => exact absurd rfl hcancel
  | cancel => exact calm_cancel h
  | singleAbort o =>
    obtain ⟨session, -, h⟩ := Option.bind_eq_some_iff.mp h
    split at h
    · cases h
      exact (Tended.idle c (by simp)).calm
    · split at h
      case h_1 transaction _ =>
        cases h
        have hcalm := (Tended.onSession c (c.mSession.abort (β := β) supl codec transaction)).calm
        exact ⟨hcalm.sessions, hcalm.handles, hcalm.nextObject, hcalm.asks, hcalm.pieces,
          fun o' asker hmem => (List.mem_cons.mp hmem).elim (fun heq => by cases heq)
            (hcalm.notices o' asker)⟩
      case h_2 =>
        cases h
        exact (Tended.idle c (by simp)).calm
  | _ => exact (exec_tended supl codec inspect rfl (by simp) (by simp) h).calm

end Exec

/-! ### The invariant -/

/-- No handle leads from a removal that is pending to another object than the one that asked. -/
structure Sound (c : Client σ) (todo : List (Piece β)) : Prop where
  stored : ∀ handle o, c.mSessions.lookup handle = some o → c.handleOf o = some handle
  bound : ∀ o, (c.handleOf o).isSome → o < c.nextObject
  numbered : ∀ piece ∈ todo, ∀ o, piece.destroys = some o → o < c.nextObject
  asked : ∀ handle asker, c.Pending todo handle asker →
    ∀ o, c.mSessions.lookup handle = some o → o = asker
  living : ∀ o handle, c.handleOf o = some handle →
    c.mSessions.lookup handle = some o ∨ ∃ piece ∈ todo, piece.destroys = some o
  unmapped : ∀ piece ∈ todo, ∀ o, piece.destroys = some o →
    ∀ handle, c.mSessions.lookup handle ≠ some o

namespace Sound

variable {c : Client σ} {todo : List (Piece β)}

theorem new (hack hack' hack'' : Bool) :
    Sound (Client.new hack hack' hack'' : Client σ) ([] : List (Piece β)) where
  stored _ _ h := by simp [Client.new] at h
  bound _ h := by simp [Client.new, handleOf] at h
  numbered _ h := absurd h List.not_mem_nil
  asked _ _ _ _ h := by simp [Client.new] at h
  living _ _ h := by simp [Client.new, handleOf] at h
  unmapped _ h := absurd h List.not_mem_nil

/-- An object that lives and asks for its destruction is the one that its handle leads to. -/
theorem asker_of_handleOf (h : Sound c todo) {handle : PeriodicSessionHandle} {asker : ObjectId}
    (hasker : c.handleOf asker = some handle) {o : ObjectId}
    (ho : c.mSessions.lookup handle = some o) : o = asker := by
  rcases h.living asker handle hasker with hmapped | ⟨piece, hpiece, hdestroys⟩
  · rw [hmapped] at ho
    exact (Option.some.inj ho).symm
  · exact h.asked handle asker (.inr ⟨piece, hpiece, .inr ⟨hdestroys, hasker⟩⟩) o ho

/-- Pieces that are no part of a removal come and go. -/
theorem calm (h : Sound c todo) {r : Outcome σ β} (hr : Calm c r) : Sound r.1 (r.2.1 ++ todo) where
  stored handle o ho := by
    rw [hr.sessions] at ho
    rw [hr.handles]
    exact h.stored handle o ho
  bound o ho := by
    rw [hr.handles] at ho
    exact lt_of_lt_of_le (h.bound o ho) hr.nextObject
  numbered piece hpiece o ho := by
    rcases List.mem_append.mp hpiece with hnew | hold
    · rw [(hr.pieces piece hnew).1] at ho
      cases ho
    · exact lt_of_lt_of_le (h.numbered piece hold o ho) hr.nextObject
  asked handle asker hpending o ho := by
    rw [hr.sessions] at ho
    rcases hpending with hdeferred | ⟨piece, hpiece, hrole⟩
    · rcases hr.asks handle asker hdeferred with hbefore | hlives
      · exact h.asked handle asker (.inl hbefore) o ho
      · exact h.asker_of_handleOf hlives ho
    · rcases List.mem_append.mp hpiece with hnew | hold
      · obtain ⟨hdestroys, hdeallocates⟩ := hr.pieces piece hnew
        rcases hrole with hrole | hrole
        · rw [hdeallocates] at hrole
          cases hrole
        · rw [hdestroys] at hrole
          cases hrole.1
      · rw [hr.handles] at hrole
        exact h.asked handle asker (.inr ⟨piece, hold, hrole⟩) o ho
  living o handle ho := by
    rw [hr.handles] at ho
    rw [hr.sessions]
    rcases h.living o handle ho with hmapped | ⟨piece, hpiece, hdestroys⟩
    · exact .inl hmapped
    · exact .inr ⟨piece, List.mem_append_right _ hpiece, hdestroys⟩
  unmapped piece hpiece o ho handle := by
    rw [hr.sessions]
    rcases List.mem_append.mp hpiece with hnew | hold
    · rw [(hr.pieces piece hnew).1] at ho
      cases ho
    · exact h.unmapped piece hold o ho handle

/-- Only the pieces of removals count, and only those that destroy must stay. -/
theorem mono {todo' : List (Piece β)} (h : Sound c todo)
    (hsub : ∀ piece ∈ todo', piece.Calm ∨ piece ∈ todo)
    (hsup : ∀ piece ∈ todo, piece.destroys ≠ none → piece ∈ todo') : Sound c todo' where
  stored := h.stored
  bound := h.bound
  numbered piece hpiece o ho := by
    rcases hsub piece hpiece with hcalm | hmem
    · rw [hcalm.1] at ho
      cases ho
    · exact h.numbered piece hmem o ho
  asked handle asker hpending := by
    refine h.asked handle asker (hpending.imp_right ?_)
    rintro ⟨piece, hpiece, hrole⟩
    rcases hsub piece hpiece with hcalm | hmem
    · rw [hcalm.1, hcalm.2] at hrole
      rcases hrole with hrole | ⟨hrole, -⟩ <;> cases hrole
    · exact ⟨piece, hmem, hrole⟩
  living o handle ho := by
    rcases h.living o handle ho with hmapped | ⟨piece, hpiece, hdestroys⟩
    · exact .inl hmapped
    · exact .inr ⟨piece, hsup piece hpiece (by rw [hdestroys]; simp), hdestroys⟩
  unmapped piece hpiece o ho := by
    rcases hsub piece hpiece with hcalm | hmem
    · rw [hcalm.1] at ho
      cases ho
    · exact h.unmapped piece hmem o ho

/-- A piece that destroys nothing is done. -/
theorem tail {piece : Piece β} (h : Sound c (piece :: todo)) (hpiece : piece.destroys = none) :
    Sound c todo := by
  refine h.mono (fun p hp => .inr (List.mem_cons_of_mem _ hp)) ?_
  intro p hp hdestroys
  rcases List.mem_cons.mp hp with rfl | hold
  · exact absurd hpiece hdestroys
  · exact hold

/-- An object leaves the map and is to be destroyed. -/
theorem remove (h : Sound c todo) {handle : PeriodicSessionHandle} {o : ObjectId}
    (ho : c.mSessions.lookup handle = some o) :
    Sound { c with mSessions := c.mSessions.erase handle } (.destroy o :: todo) := by
  have hlookup : ∀ handle' o', (c.mSessions.erase handle).lookup handle' = some o' →
      handle' ≠ handle ∧ c.mSessions.lookup handle' = some o' := by
    intro handle' o' h'
    rw [Table.lookup_erase] at h'
    split at h'
    · cases h'
    case isFalse hne => exact ⟨hne, h'⟩
  have hself := h.stored handle o ho
  refine ⟨?_, h.bound, ?_, ?_, ?_, ?_⟩
  · intro handle' o' h'
    exact h.stored handle' o' (hlookup handle' o' h').2
  · intro piece hpiece o' ho'
    rcases List.mem_cons.mp hpiece with rfl | hold
    · cases ho'
      exact h.bound o (by rw [hself]; rfl)
    · exact h.numbered piece hold o' ho'
  · intro handle' asker hpending o' h'
    obtain ⟨hne, h'⟩ := hlookup handle' o' h'
    rcases hpending with hdeferred | ⟨piece, hpiece, hrole⟩
    · exact h.asked handle' asker (.inl hdeferred) o' h'
    · rcases List.mem_cons.mp hpiece with rfl | hold
      · rcases hrole with hrole | ⟨hrole, hhandle⟩
        · cases hrole
        · cases hrole
          exact absurd (Option.some.inj ((Eq.symm hhandle).trans hself)) hne
      · exact h.asked handle' asker (.inr ⟨piece, hold, hrole⟩) o' h'
  · intro o' handle' ho'
    rcases h.living o' handle' ho' with hmapped | ⟨piece, hpiece, hdestroys⟩
    · by_cases heq : handle' = handle
      · rw [heq, ho] at hmapped
        cases hmapped
        exact .inr ⟨.destroy o, List.mem_cons_self .., rfl⟩
      · refine .inl ?_
        show (c.mSessions.erase handle).lookup handle' = some o'
        rw [Table.lookup_erase, if_neg heq, hmapped]
    · exact .inr ⟨piece, List.mem_cons_of_mem _ hpiece, hdestroys⟩
  · intro piece hpiece o' ho' handle' h'
    obtain ⟨hne, h'⟩ := hlookup handle' o' h'
    rcases List.mem_cons.mp hpiece with rfl | hold
    · cases ho'
      exact hne (Option.some.inj ((h.stored handle' o h').symm.trans hself))
    · exact h.unmapped piece hold o' ho' handle' h'

/-- The destruction of an object goes on. -/
theorem goOn {piece : Piece β} {o : ObjectId} (h : Sound c (piece :: todo))
    (hpiece : piece.destroys = some o) (c' : Client σ) (hsessions : c'.mSessions = c.mSessions)
    (hhandles : ∀ k, c'.handleOf k = c.handleOf k) (hnext : c'.nextObject = c.nextObject)
    (hdeferred : c'.deferred = c.deferred) {pieces : List (Piece β)}
    (hpieces : ∀ p ∈ pieces, p.Calm ∨ p.destroys = some o ∧ p.deallocates = none)
    (hsome : ∃ p ∈ pieces, p.destroys = some o) : Sound c' (pieces ++ todo) where
  stored handle k hk := by
    rw [hsessions] at hk
    rw [hhandles]
    exact h.stored handle k hk
  bound k hk := by
    rw [hhandles] at hk
    rw [hnext]
    exact h.bound k hk
  numbered p hp k hk := by
    rw [hnext]
    rcases List.mem_append.mp hp with hnew | hold
    · rcases hpieces p hnew with hcalm | ⟨hdestroys, -⟩
      · rw [hcalm.1] at hk
        cases hk
      · rw [hdestroys] at hk
        cases hk
        exact h.numbered piece (List.mem_cons_self ..) _ hpiece
    · exact h.numbered p (List.mem_cons_of_mem _ hold) k hk
  asked handle asker hpending k hk := by
    rw [hsessions] at hk
    rcases hpending with hmem | ⟨p, hp, hrole⟩
    · rw [hdeferred] at hmem
      exact h.asked handle asker (.inl hmem) k hk
    · rw [hhandles] at hrole
      rcases List.mem_append.mp hp with hnew | hold
      · rcases hpieces p hnew with hcalm | ⟨hdestroys, hdeallocates⟩
        · rw [hcalm.1, hcalm.2] at hrole
          rcases hrole with hrole | ⟨hrole, -⟩ <;> cases hrole
        · rw [hdestroys, hdeallocates] at hrole
          rcases hrole with hrole | ⟨hrole, hhandle⟩
          · cases hrole
          · cases hrole
            exact h.asked handle _
              (.inr ⟨piece, List.mem_cons_self .., .inr ⟨hpiece, hhandle⟩⟩) k hk
      · exact h.asked handle asker (.inr ⟨p, List.mem_cons_of_mem _ hold, hrole⟩) k hk
  living k handle hk := by
    rw [hhandles] at hk
    rw [hsessions]
    rcases h.living k handle hk with hmapped | ⟨p, hp, hdestroys⟩
    · exact .inl hmapped
    · rcases List.mem_cons.mp hp with rfl | hold
      · rw [hpiece] at hdestroys
        cases hdestroys
        obtain ⟨q, hq, hdestroys⟩ := hsome
        exact .inr ⟨q, List.mem_append_left _ hq, hdestroys⟩
      · exact .inr ⟨p, List.mem_append_right _ hold, hdestroys⟩
  unmapped p hp k hk handle := by
    rw [hsessions]
    rcases List.mem_append.mp hp with hnew | hold
    · rcases hpieces p hnew with hcalm | ⟨hdestroys, -⟩
      · rw [hcalm.1] at hk
        cases hk
      · rw [hdestroys] at hk
        cases hk
        exact h.unmapped piece (List.mem_cons_self ..) _ hpiece handle
    · exact h.unmapped p (List.mem_cons_of_mem _ hold) k hk handle

/-- The object is gone. -/
theorem free {o : ObjectId} (h : Sound c (.free o :: todo)) :
    Sound { c with periodic := c.periodic.erase o } todo := by
  have hhandle : ∀ k handle, ({ c with periodic := c.periodic.erase o } : Client σ).handleOf k =
      some handle → k ≠ o ∧ c.handleOf k = some handle := by
    intro k handle hk
    unfold handleOf at hk
    dsimp only at hk
    rw [Table.lookup_erase] at hk
    split at hk
    · cases hk
    case isFalse hne => exact ⟨hne, hk⟩
  refine ⟨?_, ?_, ?_, ?_, ?_, ?_⟩
  · intro handle k hk
    have hne : k ≠ o := by
      rintro rfl
      exact h.unmapped _ (List.mem_cons_self ..) k rfl handle hk
    show ((c.periodic.erase o).lookup k).map (·.mHandle) = some handle
    rw [Table.lookup_erase, if_neg hne]
    exact h.stored handle k hk
  · intro k hk
    obtain ⟨handle, hk⟩ := Option.isSome_iff_exists.mp hk
    exact h.bound k (by rw [(hhandle k handle hk).2]; rfl)
  · exact fun p hp => h.numbered p (List.mem_cons_of_mem _ hp)
  · rintro handle asker (hdeferred | ⟨p, hp, hrole⟩) k hk
    · exact h.asked handle asker (.inl hdeferred) k hk
    · refine h.asked handle asker (.inr ⟨p, List.mem_cons_of_mem _ hp, ?_⟩) k hk
      exact hrole.imp_right fun hrole => ⟨hrole.1, (hhandle asker handle hrole.2).2⟩
  · intro k handle hk
    obtain ⟨hne, hk⟩ := hhandle k handle hk
    rcases h.living k handle hk with hmapped | ⟨p, hp, hdestroys⟩
    · exact .inl hmapped
    · rcases List.mem_cons.mp hp with rfl | hold
      · cases hdestroys
        exact absurd rfl hne
      · exact .inr ⟨p, hold, hdestroys⟩
  · exact fun p hp => h.unmapped p (List.mem_cons_of_mem _ hp)

/-- A session is created under a handle for which no removal is pending. -/
theorem create (h : Sound c todo) {handle : PeriodicSessionHandle}
    (hfresh : ∀ asker, ¬ c.Pending todo handle asker) {session : PeriodicSession}
    (hsession : session.mHandle = handle) (transaction : TransactionHandle) (now : ℚ)
    (hfree : c.mSessions.lookup handle = none) :
    Sound (registerRequest
      { c with mSessions := c.mSessions.insert handle c.nextObject, nextObject := c.nextObject + 1 }
      c.nextObject session transaction now) todo := by
  set c' := registerRequest
    { c with mSessions := c.mSessions.insert handle c.nextObject, nextObject := c.nextObject + 1 }
    c.nextObject session transaction now with hc'
  have hhandle : ∀ k, c'.handleOf k =
      if k = c.nextObject then some handle else c.handleOf k := by
    intro k
    have hset := handleOf_setPeriodic
      { c with mSessions := c.mSessions.insert handle c.nextObject, nextObject := c.nextObject + 1 }
      c.nextObject { session with
        mRequestTransactions := session.mRequestTransactions.insert transaction now } k
    rw [← hsession]
    exact hset
  have hlookup : ∀ handle', c'.mSessions.lookup handle' =
      if handle' = handle then some c.nextObject else c.mSessions.lookup handle' :=
    Table.lookup_insert _ _ _
  have hnew : c.handleOf c.nextObject = none := by
    cases hlives : c.handleOf c.nextObject with
    | none => rfl
    | some handle' => exact absurd (h.bound _ (by rw [hlives]; rfl)) (lt_irrefl _)
  refine ⟨?_, ?_, ?_, ?_, ?_, ?_⟩
  · intro handle' o ho
    rw [hlookup] at ho
    rw [hhandle]
    split at ho
    case isTrue heq =>
      cases ho
      rw [if_pos rfl, heq]
    case isFalse hne =>
      have hstored := h.stored handle' o ho
      rw [if_neg, hstored]
      rintro rfl
      rw [hnew] at hstored
      cases hstored
  · intro o ho
    rw [hhandle] at ho
    show o < c.nextObject + 1
    split at ho
    case isTrue heq => exact heq ▸ Nat.lt_succ_self _
    case isFalse hne => exact Nat.lt_succ_of_lt (h.bound o ho)
  · exact fun p hp o ho => Nat.lt_succ_of_lt (h.numbered p hp o ho)
  · intro handle' asker hpending o ho
    have hbefore : c.Pending todo handle' asker := by
      rcases hpending with hdeferred | ⟨p, hp, hrole⟩
      · exact .inl hdeferred
      · refine .inr ⟨p, hp, hrole.imp_right ?_⟩
        rintro ⟨hdestroys, hlives⟩
        refine ⟨hdestroys, ?_⟩
        have hlt := h.numbered p hp asker hdestroys
        rwa [hhandle, if_neg (Nat.ne_of_lt hlt)] at hlives
    rw [hlookup] at ho
    split at ho
    case isTrue heq => exact absurd hbefore (heq ▸ hfresh asker)
    case isFalse hne => exact h.asked handle' asker hbefore o ho
  · intro o handle' ho
    rw [hhandle] at ho
    rw [hlookup]
    split at ho
    case isTrue heq =>
      cases ho
      rw [if_pos rfl, heq]
      exact .inl rfl
    case isFalse hne =>
      rcases h.living o handle' ho with hmapped | hdying
      · refine .inl ?_
        rw [if_neg, hmapped]
        rintro rfl
        rw [hfree] at hmapped
        cases hmapped
      · exact .inr hdying
  · intro p hp o ho handle' hmapped
    rw [hlookup] at hmapped
    split at hmapped
    · cases hmapped
      exact lt_irrefl _ (h.numbered p hp _ ho)
    · exact h.unmapped p hp o ho handle' hmapped

/-- A closure starts: what it removes was deferred before. -/
theorem closure (h : Sound c ([] : List (Piece β))) {closure : Closure} {deferred : List Closure}
    (hdeferred : c.deferred = closure :: deferred) :
    Sound { c with deferred := deferred } (Config.closurePieces closure : List (Piece β)) := by
  have hdestroys : ∀ piece ∈ (Config.closurePieces closure : List (Piece β)),
      piece.destroys = none := by
    intro piece hpiece
    cases closure <;> simp only [Config.closurePieces, List.mem_cons, List.not_mem_nil,
      or_false] at hpiece
    case disconnected => rcases hpiece with rfl | rfl <;> rfl
    all_goals rw [hpiece]; rfl
  have hdeallocates : ∀ piece ∈ (Config.closurePieces closure : List (Piece β)),
      ∀ handle asker, piece.deallocates = some (handle, asker) →
        closure = .deallocatePeriodicSessionHandle handle asker := by
    intro piece hpiece handle asker hasks
    cases closure <;> simp only [Config.closurePieces, List.mem_cons, List.not_mem_nil,
      or_false] at hpiece
    case deallocatePeriodicSessionHandle handle' asker' =>
      rw [hpiece] at hasks
      cases hasks
      rfl
    case removeSingleSession handle' =>
      rw [hpiece] at hasks
      cases hasks
    case disconnected => rcases hpiece with rfl | rfl <;> cases hasks
  refine ⟨h.stored, h.bound, ?_, ?_, ?_, ?_⟩
  · intro piece hpiece o ho
    rw [hdestroys piece hpiece] at ho
    cases ho
  · intro handle asker hpending
    refine h.asked handle asker (.inl ?_)
    rw [hdeferred]
    rcases hpending with hmem | ⟨piece, hpiece, hasks | ⟨hasks, -⟩⟩
    · exact List.mem_cons_of_mem _ hmem
    · rw [hdeallocates piece hpiece handle asker hasks]
      exact List.mem_cons_self ..
    · rw [hdestroys piece hpiece] at hasks
      cases hasks
  · intro o handle ho
    refine (h.living o handle ho).imp_right ?_
    rintro ⟨piece, hpiece, -⟩
    exact absurd hpiece List.not_mem_nil
  · intro piece hpiece o ho
    rw [hdestroys piece hpiece] at ho
    cases ho

end Sound

/-! ### The steps -/

section Steps

variable (supl : Supl σ) (codec : Codec β)
variable (inspect : Message β → Option (Option PeriodicSessionHandle))

theorem deallocate_of_lookup {c : Client σ} {handle : PeriodicSessionHandle}
    (h : c.mSessions.lookup handle = none) (asker : ObjectId) :
    c.deallocatePeriodicSessionHandle (β := β) handle asker = (c, [], []) := by
  unfold deallocatePeriodicSessionHandle
  rw [h, ite_self]

theorem sound_deallocate {c : Client σ} {todo : List (Piece β)} (h : Sound c todo)
    {handle : PeriodicSessionHandle} {asker : ObjectId}
    (hasker : ∀ o, c.mSessions.lookup handle = some o → o = asker) :
    let r := c.deallocatePeriodicSessionHandle (β := β) handle asker
    Sound r.1 (r.2.1 ++ todo) ∧ ∀ o k, .removed o k ∈ r.2.2 → o = k := by
  have hnothing : Sound c ([] ++ todo) ∧ ∀ o k, Notice.removed o k ∈ ([] : List (Notice β)) →
      o = k := ⟨h, fun _ _ hmem => absurd hmem List.not_mem_nil⟩
  unfold deallocatePeriodicSessionHandle
  dsimp only
  split_ifs
  · cases hlookup : c.mSessions.lookup handle with
    | none => exact hnothing
    | some o =>
      refine ⟨h.remove hlookup, ?_⟩
      intro o' k hmem
      cases List.mem_singleton.mp hmem
      exact hasker o hlookup
  · exact hnothing

/-- **Each piece** keeps the invariant, and removes only the object that asked for it. -/
theorem sound_exec {c : Client σ} {piece : Piece β} {todo : List (Piece β)}
    (h : Sound c (piece :: todo)) {r : Outcome σ β}
    (hr : c.exec supl codec inspect piece = some r) :
    Sound r.1 (r.2.1 ++ todo) ∧ ∀ o asker, .removed o asker ∈ r.2.2 → o = asker := by
  by_cases hcalm : piece.Calm ∧ piece ≠ .cancelSessions
  · have hr := calm_exec supl codec inspect hcalm.1 hcalm.2 hr
    exact ⟨(h.tail hcalm.1.1).calm hr, fun o asker hmem => absurd hmem (hr.notices o asker)⟩
  · cases piece with
    | cancelSessions =>
      have htail := h.tail rfl
      unfold exec at hr
      dsimp only at hr
      split at hr
      · cases hr
        refine ⟨htail.mono ?_ fun p hp _ => List.mem_append_right _ hp, by simp⟩
        intro p hp
        rcases List.mem_append.mp hp with hnew | hold
        · rw [List.mem_singleton.mp hnew]
          exact .inl ⟨rfl, rfl⟩
        · exact .inr hold
      case h_2 handle o rest hpairs =>
        cases hr
        have hlookup : c.mSessions.lookup handle = some o := by
          rw [← Table.mem_pairs, hpairs]
          exact List.mem_cons_self ..
        refine ⟨(htail.remove hlookup).mono ?_ ?_, by simp⟩
        · intro p hp
          simp only [List.cons_append, List.nil_append, List.mem_cons] at hp
          rcases hp with rfl | rfl | hold
          · exact .inr (List.mem_cons_self ..)
          · exact .inl ⟨rfl, rfl⟩
          · exact .inr (List.mem_cons_of_mem _ hold)
        · intro p hp _
          simp only [List.cons_append, List.nil_append, List.mem_cons]
          rcases List.mem_cons.mp hp with rfl | hold
          · exact .inl rfl
          · exact .inr (.inr hold)
    | destroy o =>
      obtain ⟨session, hsession, hr⟩ := Option.bind_eq_some_iff.mp hr
      cases hr
      refine ⟨h.goOn rfl c rfl (fun _ => rfl) rfl rfl ?_
        ⟨.destroyPeriodic o, by simp, rfl⟩, by simp⟩
      intro p hp
      rcases List.mem_append.mp hp with hp | hp
      · exact .inl (Piece.calm_of_isMinor (isMinor_aborts _ _ (fun _ => rfl) p hp))
      · rw [List.mem_singleton.mp hp]
        exact .inr ⟨rfl, rfl⟩
    | destroyPeriodic o =>
      obtain ⟨session, hsession, hr⟩ := Option.bind_eq_some_iff.mp hr
      cases hr
      refine ⟨h.goOn rfl (c.setPeriodic o { session with mRequestTransactions := ∅ }) rfl
        (handleOf_setPeriodic_of_lookup hsession rfl) rfl rfl ?_
        ⟨.destroyHandle o, by simp, rfl⟩, by simp⟩
      intro p hp
      rcases List.mem_append.mp hp with hp | hp
      · exact .inl (Piece.calm_of_isMinor (isMinor_aborts _ _ (fun _ => rfl) p hp))
      · rw [List.mem_singleton.mp hp]
        exact .inr ⟨rfl, rfl⟩
    | destroyHandle o =>
      obtain ⟨session, hsession, hr⟩ := Option.bind_eq_some_iff.mp hr
      cases hr
      have hlives : c.handleOf o = some session.mHandle := by
        rw [handleOf, hsession, Option.map_some]
      -- an object that is destroyed is not in the map, and nobody else is under its handle
      have hnone : c.mSessions.lookup session.mHandle = none := by
        cases hlookup : c.mSessions.lookup session.mHandle with
        | none => rfl
        | some k =>
          have hk := h.asked session.mHandle o
            (.inr ⟨_, List.mem_cons_self .., .inr ⟨rfl, hlives⟩⟩) k hlookup
          rw [hk] at hlookup
          exact absurd hlookup (h.unmapped _ (List.mem_cons_self ..) o rfl _)
      rw [deallocate_of_lookup hnone]
      refine ⟨h.goOn rfl c rfl (fun _ => rfl) rfl rfl ?_ ⟨.free o, by simp, rfl⟩, by simp⟩
      intro p hp
      rw [List.nil_append, List.mem_singleton] at hp
      rw [hp]
      exact .inr ⟨rfl, rfl⟩
    | free o =>
      cases hr
      exact ⟨h.free, by simp⟩
    | deallocatePeriodicSessionHandle handle asker =>
      cases hr
      exact sound_deallocate (h.tail rfl)
        (h.asked handle asker (.inr ⟨_, List.mem_cons_self .., .inl rfl⟩))
    | _ => exact absurd ⟨⟨rfl, rfl⟩, by simp⟩ hcalm

/-- The sessions of the map stay there, but for those whose removal is told. -/
def Keeps (c : Client σ) (c' : Client σ) (notices : List (Notice β)) : Prop :=
  ∀ handle o, c.mSessions.lookup handle = some o →
    c'.mSessions.lookup handle = some o ∨ ∃ asker, .removed o asker ∈ notices

theorem Keeps.of_eq {c c' : Client σ} (h : c'.mSessions = c.mSessions)
    (notices : List (Notice β)) : Keeps c c' notices := by
  intro handle o ho
  rw [h]
  exact .inl ho

theorem keeps_deallocate (c : Client σ) (handle : PeriodicSessionHandle) (asker : ObjectId) :
    let r := c.deallocatePeriodicSessionHandle (β := β) handle asker
    Keeps c r.1 r.2.2 := by
  unfold deallocatePeriodicSessionHandle
  dsimp only
  split_ifs
  · cases hlookup : c.mSessions.lookup handle with
    | none => exact Keeps.of_eq rfl _
    | some o =>
      intro handle' o' ho'
      by_cases heq : handle' = handle
      · rw [heq, hlookup] at ho'
        cases ho'
        exact .inr ⟨asker, List.mem_singleton_self _⟩
      · refine .inl ?_
        rw [Table.lookup_erase, if_neg heq, ho']
  · exact Keeps.of_eq rfl _

theorem keeps_exec {c : Client σ} {piece : Piece β} (hpiece : piece ≠ .cancelSessions)
    {r : Outcome σ β} (hr : c.exec supl codec inspect piece = some r) : Keeps c r.1 r.2.2 := by
  by_cases hcalm : piece.Calm
  · exact Keeps.of_eq (calm_exec supl codec inspect hcalm hpiece hr).sessions _
  · cases piece with
    | destroy o =>
      obtain ⟨session, -, hr⟩ := Option.bind_eq_some_iff.mp hr
      cases hr
      exact Keeps.of_eq rfl _
    | destroyPeriodic o =>
      obtain ⟨session, -, hr⟩ := Option.bind_eq_some_iff.mp hr
      cases hr
      exact Keeps.of_eq rfl _
    | destroyHandle o =>
      obtain ⟨session, -, hr⟩ := Option.bind_eq_some_iff.mp hr
      cases hr
      exact keeps_deallocate c session.mHandle o
    | free o =>
      cases hr
      exact Keeps.of_eq rfl _
    | deallocatePeriodicSessionHandle handle asker =>
      cases hr
      exact keeps_deallocate c handle asker
    | _ => exact absurd ⟨rfl, rfl⟩ hcalm

/-! ### The moves -/

/-- The move creates a session under the handle. -/
def Creates (c : Config σ β) (handle : PeriodicSessionHandle) : Move σ β → Prop
  | .requestAssistanceData _ _ => c.stopped = false ∧ c.usersTurn = true ∧
    c.client.freeHandle = some handle ∧
    (c.client.mSession.toTransactions.createTransaction (β := β) true).2.2.isSome
  | _ => False

/-- No session is created under a handle for which a removal is deferred or going on. -/
def Fresh (c : Config σ β) (m : Move σ β) : Prop :=
  ∀ handle, Creates c handle m → ∀ asker, ¬ c.client.Pending c.todo handle asker

/-- The invariant of a client that runs. -/
def Running (c : Config σ β) : Prop := c.stopped = false → Sound c.client c.todo

/-- A step that keeps the invariant and removes only sessions that asked for it. -/
structure Kept (c : Config σ β) (r : Config σ β × List (Notice β)) : Prop where
  running : Running r.1
  removed : ∀ o asker, .removed o asker ∈ r.2 → o = asker
  keeps : c.todo.head? ≠ some .cancelSessions → Keeps c.client r.1.client r.2

theorem Kept.refl {c : Config σ β} (h : Running c) : Kept c (c, []) where
  running := h
  removed _ _ hmem := absurd hmem List.not_mem_nil
  keeps _ := Keeps.of_eq rfl _

theorem kept_push {c : Config σ β} (h : Sound c.client c.todo) {r : Outcome σ β}
    (hr : Calm c.client r) : Kept c (c.push r) where
  running _ := h.calm hr
  removed o asker hmem := absurd hmem (hr.notices o asker)
  keeps _ := Keeps.of_eq hr.sessions _

/-- A call or an event that is calm. -/
theorem Moved.kept {c : Config σ β} (h : Sound c.client c.todo)
    {r : Config σ β × List (Notice β)} (hr : Moved c (Calm c.client) r) : Kept c r := by
  cases hr with
  | nothing => exact Kept.refl fun _ => h
  | stops =>
    refine ⟨?_, fun _ _ hmem => absurd hmem List.not_mem_nil, fun _ => Keeps.of_eq rfl _⟩
    intro hstopped
    cases hstopped
  | push _ hr => exact kept_push h hr

theorem lookup_freeHandle {c : Client σ} {handle : PeriodicSessionHandle}
    (h : c.freeHandle = some handle) : c.mSessions.lookup handle = none := by
  have hfree := List.find?_some h
  cases hlookup : c.mSessions.lookup handle with
  | none => rfl
  | some o => exact absurd (Table.mem_of_lookup hlookup) (by simpa using hfree)

theorem isSome_sendNewRequest {c c' : Client σ} {message : Message β}
    {transaction : TransactionHandle} {notices : List (Notice β)}
    (h : c.sendNewRequest supl codec message = (c', some transaction, notices)) :
    (c.mSession.toTransactions.createTransaction (β := β) true).2.2.isSome := by
  unfold sendNewRequest at h
  dsimp only at h
  split at h
  · cases h
  case h_2 created hcreated => rw [hcreated]; rfl

/-- The one move that creates a session. -/
theorem kept_requestAssistanceData {c : Config σ β} (h : Sound c.client c.todo)
    (hstopped : c.stopped = false) (hturn : c.usersTurn = true) (message : Message β) (now : ℚ)
    (hfresh : Fresh c (.requestAssistanceData message now)) :
    Kept c (c.push (c.client.requestAssistanceData supl codec message now)) := by
  unfold requestAssistanceData
  split
  · exact kept_push h (Tended.idle _ (by simp)).calm
  case h_2 handle hhandle =>
    have hcalm := (tended_sendNewRequest supl codec
      { c.client with mNextSessionId := handle.id } message).calm
    cases hsent :
      { c.client with mNextSessionId := handle.id }.sendNewRequest supl codec message with
    | mk client sent =>
      obtain ⟨transaction, notices⟩ := sent
      rw [hsent] at hcalm
      -- up to here the request only sends
      have hclient : Calm c.client (client, ([] : List (Piece β)), notices) :=
        ⟨hcalm.sessions, hcalm.handles, hcalm.nextObject, hcalm.asks, hcalm.pieces, hcalm.notices⟩
      cases transaction with
      | none => exact kept_push h hclient
      | some transaction =>
        have hcreated := isSome_sendNewRequest supl codec hsent
        have hnew := hfresh handle ⟨hstopped, hturn, hhandle, hcreated⟩
        have hsound := h.calm hclient
        have hlookup := lookup_freeHandle hhandle
        have hpending : ∀ asker, ¬ client.Pending c.todo handle asker := by
          rintro asker (hdeferred | ⟨piece, hpiece, hrole⟩)
          · rcases hclient.asks handle asker hdeferred with hbefore | hlives
            · exact hnew asker (.inl hbefore)
            · rcases h.living asker handle hlives with hmapped | ⟨piece, hpiece, hdestroys⟩
              · rw [hlookup] at hmapped
                cases hmapped
              · exact hnew asker (.inr ⟨piece, hpiece, .inr ⟨hdestroys, hlives⟩⟩)
          · rw [hclient.handles] at hrole
            exact hnew asker (.inr ⟨piece, hpiece, hrole⟩)
        have hfree : client.mSessions.lookup handle = none := by
          rw [hclient.sessions, hlookup]
        refine ⟨fun _ => hsound.create hpending rfl transaction now hfree, ?_, ?_⟩
        · exact fun o asker hmem => absurd hmem (hclient.notices o asker)
        · intro _ handle' o ho
          refine .inl ?_
          show (client.mSessions.insert handle _).lookup handle' = some o
          rw [Table.lookup_insert, hclient.sessions, if_neg, ho]
          rintro rfl
          rw [hlookup] at ho
          cases ho

theorem calm_requestSingle (c : Client σ) (message : Message β) (now : ℚ) :
    Calm c (c.requestSingle supl codec message now) := by
  unfold requestSingle
  have hcalm := (tended_sendNewRequest supl codec c message).calm
  cases hsent : c.sendNewRequest supl codec message with
  | mk client sent =>
    obtain ⟨transaction, notices⟩ := sent
    rw [hsent] at hcalm
    cases transaction with
    | none => exact hcalm
    | some transaction =>
      exact ⟨hcalm.sessions, hcalm.handles, Nat.le_succ_of_le hcalm.nextObject, hcalm.asks, by simp,
        hcalm.notices⟩

theorem kept_run {c : Config σ β} (h : Sound c.client c.todo) :
    Kept c (move supl codec inspect c .run) := by
  unfold move
  dsimp only
  split
  · exact Kept.refl fun _ => h
  · exact Kept.refl fun _ => h
  case h_3 piece todo _ htodo =>
    cases hexec : c.client.exec supl codec inspect piece with
    | none =>
      refine ⟨?_, fun _ _ hmem => absurd hmem List.not_mem_nil, fun _ => Keeps.of_eq rfl _⟩
      intro hstopped
      cases hstopped
    | some r =>
      rw [htodo] at h
      obtain ⟨hsound, hremoved⟩ := sound_exec supl codec inspect h hexec
      refine ⟨fun _ => hsound, hremoved, ?_⟩
      intro hhead
      rw [htodo] at hhead
      exact keeps_exec supl codec inspect (fun heq => hhead (by rw [heq]; rfl)) hexec

theorem kept_returns {c : Config σ β} (h : Sound c.client c.todo) :
    Kept c (move supl codec inspect c .returns) := by
  unfold move
  dsimp only
  split
  case h_1 todo htodo =>
    rw [htodo] at h
    exact ⟨fun _ => h.tail rfl, fun _ _ hmem => absurd hmem List.not_mem_nil,
      fun _ => Keeps.of_eq rfl _⟩
  · exact Kept.refl fun _ => h

/-- **Each move** keeps the invariant, if it creates no session under the handle of a removal
that is pending. -/
theorem kept_step {c : Config σ β} (h : Running c) {m : Move σ β} (hfresh : Fresh c m) :
    Kept c (step supl codec inspect c m) := by
  unfold step
  split
  case isTrue => exact Kept.refl h
  case isFalse hstopped =>
  rw [Bool.not_eq_true] at hstopped
  have h := h hstopped
  cases m with
  | run => exact kept_run supl codec inspect h
  | returns => exact kept_returns supl codec inspect h
  | requestAssistanceData message now =>
    unfold move call
    dsimp only
    split
    case isTrue hturn =>
      exact kept_requestAssistanceData supl codec h hstopped hturn message now hfresh
    case isFalse => exact Kept.refl fun _ => h
  | requestSingle message now =>
    refine Moved.kept h ((moved_call c _).mono ?_)
    rintro r ⟨⟩
    exact calm_requestSingle supl codec c.client message now
  | schedule registers =>
    refine Moved.kept h ((moved_call c _).mono fun r heq => ?_)
    unfold schedule at heq
    split at heq
    · cases heq
    · cases heq
      exact ⟨rfl, handleOf_setTasks c.client (scheduleTask registers), le_rfl,
        fun _ _ hasks => .inl hasks, by simp, by simp⟩
  | cancel => exact Moved.kept h ((moved_call c _).mono fun r => calm_cancel)
  | singleTick o now =>
    unfold move
    dsimp only
    split
    case h_1 session hsession =>
      split
      · refine Moved.kept h ((moved_event c _).mono ?_)
        rintro r ⟨⟩
        refine ⟨rfl, fun _ => rfl, le_rfl, fun _ _ hasks => .inl hasks, fun piece hmem => ?_,
          fun o asker hmem => ?_⟩
        · unfold checkActiveRequest at hmem
          split at hmem
          · simp only [List.mem_cons, List.not_mem_nil, or_false] at hmem
            rcases hmem with rfl | rfl | rfl <;> exact ⟨rfl, rfl⟩
          · exact absurd hmem List.not_mem_nil
        · dsimp only at hmem
          split at hmem
          · obtain ⟨transaction, -, heq⟩ := Option.map_eq_some_iff.mp (Option.mem_toList.mp hmem)
            cases heq
          · exact absurd hmem List.not_mem_nil
      · exact Kept.refl fun _ => h
    · exact Kept.refl fun _ => h
  | deferred =>
    unfold move
    dsimp only
    split
    case h_1 closure deferred hdeferred =>
      unfold event
      split
      case h_1 htodo =>
        have hsound := (htodo ▸ h).closure hdeferred
        refine ⟨fun _ => ?_, fun _ _ hmem => absurd hmem List.not_mem_nil,
          fun _ => Keeps.of_eq rfl _⟩
        show Sound _ (Config.closurePieces closure ++ c.todo)
        rw [htodo, List.append_nil]
        exact hsound
      case h_2 => exact Kept.refl fun _ => h
    · exact Kept.refl fun _ => h
  | _ =>
    exact Moved.kept h ((moved_tended supl codec inspect c rfl).mono fun r hr => hr.calm)

/-! ### Runs -/

/-- What a removal spares: whoever leaves the map asked for it or was cancelled, and a closure
whose session is not there any more changes nothing. -/
structure Spares (c : Config σ β) (r : Config σ β × List (Notice β)) : Prop where
  removed : ∀ o asker, .removed o asker ∈ r.2 → o = asker
  others : ∀ handle o, c.client.mSessions.lookup handle = some o →
    r.1.client.mSessions.lookup handle = some o ∨ .removed o o ∈ r.2 ∨
      c.todo.head? = some .cancelSessions
  gone : ∀ handle asker todo,
    c.todo = .deallocatePeriodicSessionHandle handle asker :: todo →
    c.client.mSessions.lookup handle ≠ some asker → r = (c, []) ∨ r = ({ c with todo := todo }, [])

/-- A closure that is no callback leaves the user no turn, and no event comes. -/
theorem step_deallocate {c : Config σ β} (h : Running c) (m : Move σ β)
    {handle : PeriodicSessionHandle} {asker : ObjectId} {todo : List (Piece β)}
    (htodo : c.todo = .deallocatePeriodicSessionHandle handle asker :: todo)
    (hgone : c.client.mSessions.lookup handle ≠ some asker) :
    step supl codec inspect c m = (c, []) ∨
      step supl codec inspect c m = ({ c with todo := todo }, []) := by
  unfold step
  split
  case isTrue => exact .inl rfl
  case isFalse hstopped =>
  have hsound := h (by simpa using hstopped)
  have hturn : c.usersTurn = false := by
    unfold Config.usersTurn
    rw [htodo]
  have hcall : ∀ r, call c r = (c, []) := fun r => by rw [call, hturn]; rfl
  have hevent : ∀ r, event c r = (c, []) := fun r => by rw [event, htodo]
  cases m with
  | run =>
    right
    -- nobody else is under the handle of a removal that is going on
    have hnone : c.client.mSessions.lookup handle = none := by
      cases hlookup : c.client.mSessions.lookup handle with
      | none => rfl
      | some o =>
        have hasked := hsound.asked handle asker (.inr ⟨_, htodo ▸ List.mem_cons_self .., .inl rfl⟩)
        exact absurd (hasked o hlookup ▸ hlookup) hgone
    have hexec : c.client.exec supl codec inspect
        (.deallocatePeriodicSessionHandle handle asker) = some (c.client, [], []) := by
      show some (c.client.deallocatePeriodicSessionHandle handle asker) = _
      rw [deallocate_of_lookup hnone]
    unfold move
    simp only [htodo, hexec]
    rfl
  | returns =>
    left
    unfold move
    simp only [htodo]
  | supl session => simp [move, hturn]
  | posinit => simp [move, hturn]
  | receive message => simp [move, hevent]
  | tick o now =>
    left
    unfold move
    simp only [hevent]
    split
    · split <;> rfl
    · rfl
  | singleTick o now =>
    left
    unfold move
    simp only [hevent]
    split
    · split <;> rfl
    · rfl
  | deferred =>
    left
    unfold move
    simp only [hevent]
    split <;> rfl
  | _ => exact .inl (hcall _)

theorem spares_step {c : Config σ β} (h : Running c) {m : Move σ β} (hfresh : Fresh c m) :
    Spares c (step supl codec inspect c m) := by
  have hkept := kept_step supl codec inspect h hfresh
  refine ⟨hkept.removed, ?_, fun handle asker todo htodo hgone =>
    step_deallocate supl codec inspect h m htodo hgone⟩
  intro handle o ho
  by_cases hhead : c.todo.head? = some .cancelSessions
  · exact .inr (.inr hhead)
  · rcases hkept.keeps hhead handle o ho with hstays | ⟨asker, hmem⟩
    · exact .inl hstays
    · exact .inr (.inl (hkept.removed o asker hmem ▸ hmem))

/-- **In every run** that creates no session under the handle of a removal that is pending, a
session leaves only when it asked for it itself or is cancelled, and a closure that comes too
late does nothing. -/
theorem removal_spares (hack hack' hack'' : Bool) (moves : List (Move σ β)) (m : Move σ β)
    (hrun : Mealy.Along (fun c _ m => Fresh c m) (step supl codec inspect)
      (Config.new (Client.new hack hack' hack'')) [] (moves ++ [m])) :
    let c := (Mealy.run (step supl codec inspect)
      (Config.new (Client.new hack hack' hack'')) moves).1
    Spares c (step supl codec inspect c m) := by
  obtain ⟨hbefore, hlast⟩ := Mealy.along_append.1 hrun
  have hstep : ∀ (c : Config σ β) (_ : List (Notice β)) m, Running c → Fresh c m →
      Running (step supl codec inspect c m).1 :=
    fun c _ m hc hm => (kept_step supl codec inspect hc hm).running
  have hrunning := Mealy.invariant_run (P := fun c _ => Running c) hstep
    (fun _ => Sound.new hack hack' hack'') hbefore
  exact spares_step supl codec inspect hrunning hlast.1

end Steps

/-- A client without removals to come. -/
theorem fresh_of_idle {c : Config σ β} (hdeferred : c.client.deferred = []) (htodo : c.todo = [])
    (m : Move σ β) : Fresh c m := by
  rintro handle - asker (hmem | ⟨piece, hpiece, -⟩)
  · rw [hdeferred] at hmem
    exact List.not_mem_nil hmem
  · rw [htodo] at hpiece
    exact List.not_mem_nil hpiece

/-- A session whose request is stale until it is removed. -/
def staleRun : List (Move Unit Unit) :=
  [.schedule fun _ => true, .supl (), .tick 0 6, .run, .returns, .run, .run, .run, .run, .run, .run,
    .run, .run, .deferred]

theorem removal_spares_stale :
    let c := (Mealy.run (step Supl.ideal Codec.ideal fun _ => none)
      (Config.new (Client.new false false false))
      (.requestAssistanceData ⟨none, false, none, some ()⟩ 0 :: staleRun)).1
    Spares c (step Supl.ideal Codec.ideal (fun _ => none) c .run) := by
  refine removal_spares Supl.ideal Codec.ideal (fun _ => none) false false false
    (.requestAssistanceData ⟨none, false, none, some ()⟩ 0 :: staleRun) .run
    ⟨fresh_of_idle rfl rfl _, Mealy.along_of_forall ?_ _ _⟩
  intro c out m hm handle hcreates
  cases m with
  | requestAssistanceData message now => simp [staleRun] at hm
  | _ => exact hcreates.elim

/-- Two requests of a session go stale, so it asks twice; the client is cancelled and used again
before the closures run, and the second session is removed on behalf of the first. -/
def reusedRun : List (Move Unit Unit) :=
  let first : List (Move Unit Unit) :=
    [.requestAssistanceData ⟨none, false, none, some ()⟩ 0, .schedule fun _ => true, .supl (),
      .tick 0 6, .run, .returns]
  let again : List (Move Unit Unit) :=
    [.requestAssistanceData ⟨none, false, none, some ()⟩ 7, .schedule fun _ => true, .deferred]
  let runs (n : ℕ) : List (Move Unit Unit) := List.replicate n .run
  first ++ runs 8 ++ [.cancel] ++ runs 7 ++ again

theorem not_removal_spares :
    ¬ ∀ (moves : List (Move Unit Unit)) (m : Move Unit Unit),
      let c := (Mealy.run (step Supl.ideal Codec.ideal fun _ => none)
        (Config.new (Client.new false false false)) moves).1
      Spares c (step Supl.ideal Codec.ideal (fun _ => none) c m) := by
  intro hall
  have hremoved := (hall reusedRun .run).removed 1 0 (by decide +kernel)
  exact absurd hremoved (by decide +kernel)

end Client

end SuplLpp.Lpp
