import SuplLpp.Lib.Mealy
import SuplLpp.Scheduler.Event

/-!
# The slot table of the scheduler

A registration takes the first free of 256 slots and counts up the generation of the slot; the
handle names both, and is the user data of the epoll entry.  `unregister` frees the slot for
later only: it is pending until the next `process_deferred`.

* `registerFd`, `updateInterests`, `updateCallback`, `unregister`, `freePending` (the part of
  `process_deferred` that touches the slots), `processEvent`; what the kernel answers to
  `epoll_ctl` is a parameter;
* `History`: what can be told about registrations from the calls and their results alone;
* `Sound`: table and history agree; `sound_iff`: they do after every run of calls, exactly when
  no handle can be taken for the descriptor of the interrupt.
-/

namespace SuplLpp.Sched

/-! ### The table -/

/-- `MAX_EVENT_SLOTS`. -/
abbrev maxEventSlots : ℕ := 256

/-- An open file descriptor. -/
abbrev Fd := Fin (2 ^ 31)

structure EventSlot (κ : Type*) where
  callback : Option κ
  name : String
  fd : ℤ
  generation : UInt16
  inUse : Bool
  pendingFree : Bool

/-- A slot that was never used. -/
def EventSlot.fresh (κ : Type*) : EventSlot κ := ⟨none, "", -1, 0, false, false⟩

/-- The slots and what goes with them; `κ` is the type of the callbacks. -/
structure Scheduler (κ : Type*) where
  mEpollFd : ℤ
  mInterruptFd : ℤ
  mEpollCount : ℤ
  mInterrupted : Bool
  mEventPool : Fin maxEventSlots → EventSlot κ

variable {κ : Type*}

/-- The constructor, with the descriptors that `epoll_create1` and `eventfd` return. -/
def create (epoll interrupt : Option Fd) : Scheduler κ where
  mEpollFd := (epoll.map fun fd => (fd.val : ℤ)).getD (-1)
  mInterruptFd :=
    if epoll = none then -1 else (interrupt.map fun fd => (fd.val : ℤ)).getD (-1)
  mEpollCount := 0
  mInterrupted := false
  mEventPool := fun _ => .fresh κ

namespace Scheduler

/-- Were the descriptors opened? -/
def initialized (s : Scheduler κ) : Bool := s.mEpollFd != -1 && s.mInterruptFd != -1

/-- Change one slot. -/
def setSlot (s : Scheduler κ) (i : Fin maxEventSlots) (slot : EventSlot κ) : Scheduler κ :=
  { s with mEventPool := Function.update s.mEventPool i slot }

def getSlot (s : Scheduler κ) (handle : ScheduledEvent) : Option (Fin maxEventSlots) :=
  if !handle.valid then none
  else if h : handle.index.toNat < maxEventSlots then
    let slot := s.mEventPool ⟨handle.index.toNat, h⟩
    if !slot.inUse || slot.generation != handle.generation then none
    else some ⟨handle.index.toNat, h⟩
  else none

def isStale (s : Scheduler κ) (handle : ScheduledEvent) : Bool :=
  if !handle.valid then false
  else if h : handle.index.toNat < maxEventSlots then
    let slot := s.mEventPool ⟨handle.index.toNat, h⟩
    slot.pendingFree || slot.generation != handle.generation
  else true

/-- The first slot that is neither in use nor pending. -/
def freeSlot (s : Scheduler κ) : Option (Fin maxEventSlots) :=
  (List.finRange maxEventSlots).find? fun i =>
    !(s.mEventPool i).inUse && !(s.mEventPool i).pendingFree

/-- Count up; zero is left out. -/
def nextGeneration (generation : UInt16) : UInt16 :=
  if generation + 1 = 0 then 1 else generation + 1

/-- `register_fd`; `ctl` is the answer of `epoll_ctl` to the entry it is given. -/
def registerFd (s : Scheduler κ) (fd : ℤ) (interests : EventInterest) (callback : κ)
    (name : String) (ctl : EpollEvent → Bool) : Scheduler κ × ScheduledEvent :=
  if !s.initialized then (s, .invalid)
  else
    match s.freeSlot with
    | none => (s, .invalid)
    | some i =>
        let generation := nextGeneration (s.mEventPool i).generation
        let slot : EventSlot κ :=
          { s.mEventPool i with callback := some callback, name, fd, inUse := true, generation }
        let handle : ScheduledEvent := ⟨UInt16.ofNat i.val, generation⟩
        if ctl ⟨interestsToEpoll interests, encodeHandle handle⟩ then
          ({ s.setSlot i slot with mEpollCount := s.mEpollCount + 1 }, handle)
        else
          (s.setSlot i { slot with inUse := false, callback := none, name := "", fd := -1 },
            .invalid)

/-- `update_interests`: only the kernel is told, and a failure is only reported. -/
def updateInterests (s : Scheduler κ) (event : ScheduledEvent) (interests : EventInterest) :
    Option EpollEvent :=
  if !s.initialized then none
  else (s.getSlot event).map fun _ => ⟨interestsToEpoll interests, encodeHandle event⟩

def updateCallback (s : Scheduler κ) (event : ScheduledEvent) (callback : κ) : Scheduler κ :=
  match s.getSlot event with
  | none => s
  | some i => s.setSlot i { s.mEventPool i with callback := some callback }

/-- `unregister`; that `epoll_ctl` fails is only reported. -/
def unregister (s : Scheduler κ) (event : ScheduledEvent) : Scheduler κ :=
  if !s.initialized then s
  else
    match s.getSlot event with
    | none => s
    | some i =>
        { s.setSlot i { s.mEventPool i with inUse := false, pendingFree := true } with
          mEpollCount := s.mEpollCount - 1 }

/-- The loop of `process_deferred` over the slots. -/
def freePending (s : Scheduler κ) : Scheduler κ :=
  { s with mEventPool := fun i =>
      if (s.mEventPool i).pendingFree then
        { s.mEventPool i with pendingFree := false, callback := none, name := "", fd := -1 }
      else s.mEventPool i }

/-- What an epoll entry leads to. -/
inductive Dispatch (κ : Type*)
  | interrupt
  | stale
  | notRegistered
  | nothing
  | call (callback : κ) (triggered : EventInterest)

/-- `process_event`, up to the call of the callback. -/
def processEvent (s : Scheduler κ) (event : EpollEvent) : Scheduler κ × Dispatch κ :=
  if (lowWord event.data).toInt32.toInt = s.mInterruptFd then
    ({ s with mInterrupted := true }, .interrupt)
  else
    let handle := decodeHandle event.data
    match s.getSlot handle with
    | none => (s, if s.isStale handle then .stale else .notRegistered)
    | some i =>
        match (s.mEventPool i).callback with
        | none => (s, .nothing)
        | some callback => (s, .call callback (epollToInterests event.events))

end Scheduler

/-! ### Calls -/

/-- A call, from outside or from inside a callback. -/
inductive Call (κ : Type*)
  | registerFd (fd : ℤ) (interests : EventInterest) (callback : κ) (name : String)
      (ctl : EpollEvent → Bool)
  | updateInterests (event : ScheduledEvent) (interests : EventInterest)
  | updateCallback (event : ScheduledEvent) (callback : κ)
  | unregister (event : ScheduledEvent)
  | processDeferred
  | processEvent (event : EpollEvent)

/-- The scheduler after a call, and the handle that the call returns. -/
def call (s : Scheduler κ) : Call κ → Scheduler κ × Option ScheduledEvent
  | .registerFd fd interests callback name ctl =>
      let r := s.registerFd fd interests callback name ctl
      (r.1, if r.2.valid then some r.2 else none)
  | .updateInterests _ _ => (s, none)
  | .updateCallback event callback => (s.updateCallback event callback, none)
  | .unregister event => (s.unregister event, none)
  | .processDeferred => (s.freePending, none)
  | .processEvent event => ((s.processEvent event).1, none)

/-! ### Registrations -/

/-- A registration: its handle, and how often the generation of its slot had changed when it
was made. -/
structure Registration where
  handle : ScheduledEvent
  ticks : ℕ
  deriving DecidableEq

/-- What is known of the registrations from the calls, the handles they return and the changes
of the generations. -/
structure History where
  /-- The registrations that were made and not undone by `unregister`. -/
  live : List Registration
  /-- All registrations so far. -/
  issued : List Registration
  /-- The handles of live registrations that were unregistered since the last
  `process_deferred`. -/
  freed : List ScheduledEvent
  /-- How often the generation of each slot has changed. -/
  ticks : Fin maxEventSlots → ℕ

def History.start : History := ⟨[], [], [], fun _ => 0⟩

/-- The history after a call that turns `s` into `s'` and returns `handle`. -/
def History.observe (h : History) (s s' : Scheduler κ) (c : Call κ)
    (handle : Option ScheduledEvent) : History :=
  let ticks : Fin maxEventSlots → ℕ := fun i =>
    if (s'.mEventPool i).generation ≠ (s.mEventPool i).generation then h.ticks i + 1
    else h.ticks i
  let made : List Registration := handle.toList.map fun e =>
    ⟨e, if hi : e.index.toNat < maxEventSlots then ticks ⟨e.index.toNat, hi⟩ else 0⟩
  match c with
  | .unregister event =>
      { live := h.live.filter fun r => r.handle ≠ event
        issued := h.issued
        freed := if event ∈ h.live.map Registration.handle then event :: h.freed else h.freed
        ticks }
  | .processDeferred => { h with freed := [], ticks }
  | _ => { h with live := made ++ h.live, issued := made ++ h.issued, ticks }

/-- A call, with the history. -/
def track (t : Scheduler κ × History) (c : Call κ) : (Scheduler κ × History) × List Unit :=
  let r := call t.1 c
  ((r.1, t.2.observe t.1 r.1 c r.2), [])

/-- Table and history agree. -/
structure Sound (s : Scheduler κ) (h : History) : Prop where
  /-- The epoll count is the number of slots in use. -/
  count : s.mEpollCount = (Finset.univ.filter fun i => (s.mEventPool i).inUse = true).card
  /-- No slot is in use and pending. -/
  exclusive : ∀ i, ¬((s.mEventPool i).inUse = true ∧ (s.mEventPool i).pendingFree = true)
  /-- A handle resolves exactly while a registration of it is live. -/
  resolves : ∀ e, (s.getSlot e).isSome = true ↔ e ∈ h.live.map Registration.handle
  /-- Handles of live registrations are different. -/
  distinct : (h.live.map Registration.handle).Nodup
  /-- A slot that was freed since the last `process_deferred` has no live registration. -/
  held : ∀ e ∈ h.freed, ∀ r ∈ h.live, r.handle.index ≠ e.index
  /-- The handle of a registration that is no longer live resolves only after the generation
  of its slot has changed 65535 times. -/
  stale : ∀ r ∈ h.issued, r ∉ h.live → ∀ i, s.getSlot r.handle = some i →
    r.ticks + 65535 ≤ h.ticks i
  /-- The user data of a handle decodes to the handle, and is never taken for the interrupt. -/
  decodes : ∀ r ∈ h.issued, decodeHandle (encodeHandle r.handle) = r.handle
  /-- The event of a handle is never taken for the interrupt. -/
  apart : ∀ r ∈ h.issued, ∀ events,
    (s.processEvent ⟨events, encodeHandle r.handle⟩).2 ≠ .interrupt

/-! ### Generations -/

/-- The generation after `n` changes. -/
def generationAfter (n : ℕ) : ℕ := if n = 0 then 0 else (n - 1) % 65535 + 1

theorem toNat_nextGeneration (g : UInt16) :
    (Scheduler.nextGeneration g).toNat = if g.toNat = 65535 then 1 else g.toNat + 1 := by
  have hlt := g.toNat_lt
  have hsucc : (g + 1).toNat = (g.toNat + 1) % 65536 := by
    rw [UInt16.toNat_add]
    rfl
  have hzero : g + 1 = 0 ↔ g.toNat = 65535 := by
    rw [← UInt16.toNat_inj, hsucc]
    have h0 : UInt16.toNat 0 = 0 := rfl
    omega
  unfold Scheduler.nextGeneration
  by_cases h : g.toNat = 65535
  · rw [if_pos (hzero.2 h), if_pos h]
    rfl
  · rw [if_neg (mt hzero.1 h), if_neg h, hsucc]
    omega

theorem nextGeneration_ne (g : UInt16) : Scheduler.nextGeneration g ≠ g := by
  intro h
  have hnat := congrArg UInt16.toNat h
  rw [toNat_nextGeneration] at hnat
  split_ifs at hnat <;> omega

theorem toNat_nextGeneration_of {g : UInt16} {n : ℕ} (h : g.toNat = generationAfter n) :
    (Scheduler.nextGeneration g).toNat = generationAfter (n + 1) := by
  rw [toNat_nextGeneration, h]
  unfold generationAfter
  split_ifs <;> omega

/-- A generation comes back only after 65535 changes. -/
theorem le_of_generationAfter_eq {m n : ℕ} (hm : 1 ≤ m) (hmn : m < n)
    (h : generationAfter m = generationAfter n) : m + 65535 ≤ n := by
  unfold generationAfter at h
  rw [if_neg (by omega), if_neg (by omega)] at h
  omega

/-! ### Slots and handles -/

theorem toNat_ofNat_slot (i : Fin maxEventSlots) : (UInt16.ofNat i.val).toNat = i.val := by
  have hi : i.val < 256 := i.isLt
  rw [UInt16.toNat_ofNat']
  exact Nat.mod_eq_of_lt (by omega)

/-- The index of a slot is not that of the invalid handle. -/
theorem ofNat_slot_ne (i : Fin maxEventSlots) : UInt16.ofNat i.val ≠ 0xFFFF := by
  intro h
  have hi : i.val < 256 := i.isLt
  have hnat := congrArg UInt16.toNat h
  rw [toNat_ofNat_slot] at hnat
  have h16 : UInt16.toNat 0xFFFF = 65535 := rfl
  omega

theorem ofNat_slot_inj {i j : Fin maxEventSlots} :
    UInt16.ofNat i.val = UInt16.ofNat j.val ↔ i = j := by
  rw [← UInt16.toNat_inj, toNat_ofNat_slot, toNat_ofNat_slot, Fin.val_inj]

/-- The handle of a slot in its present generation. -/
def Scheduler.handleOf (s : Scheduler κ) (i : Fin maxEventSlots) : ScheduledEvent :=
  ⟨UInt16.ofNat i.val, (s.mEventPool i).generation⟩

theorem handleOf_inj {s : Scheduler κ} {i j : Fin maxEventSlots}
    (h : s.handleOf i = s.handleOf j) : i = j :=
  ofNat_slot_inj.1 (congrArg ScheduledEvent.index h)

/-- A handle resolves to the slot in use whose handle it is. -/
theorem getSlot_eq_some {s : Scheduler κ} {e : ScheduledEvent} {i : Fin maxEventSlots} :
    s.getSlot e = some i ↔ e = s.handleOf i ∧ (s.mEventPool i).inUse = true := by
  obtain ⟨index, generation⟩ := e
  unfold Scheduler.getSlot Scheduler.handleOf ScheduledEvent.valid
  simp only [ScheduledEvent.mk.injEq]
  constructor
  · intro h
    split_ifs at h with hvalid hlt hslot
    obtain rfl : ⟨index.toNat, hlt⟩ = i := by simpa using h
    simp only [Bool.or_eq_true, Bool.not_eq_true', bne_iff_ne, not_or, not_not] at hslot
    refine ⟨⟨?_, hslot.2.symm⟩, by simpa using hslot.1⟩
    exact (UInt16.ofNat_toNat).symm
  · rintro ⟨⟨rfl, rfl⟩, huse⟩
    have hnat := toNat_ofNat_slot i
    have hvalid : (UInt16.ofNat i.val != 0xFFFF) = true := bne_iff_ne.2 (ofNat_slot_ne i)
    have hlt : (UInt16.ofNat i.val).toNat < maxEventSlots := by
      rw [hnat]
      exact i.isLt
    have hfin : (⟨(UInt16.ofNat i.val).toNat, hlt⟩ : Fin maxEventSlots) = i := Fin.ext hnat
    rw [if_neg (by rw [hvalid]; simp), dif_pos hlt, hfin]
    simp [huse]

theorem valid_slot (i : Fin maxEventSlots) (generation : UInt16) :
    (⟨UInt16.ofNat i.val, generation⟩ : ScheduledEvent).valid = true :=
  bne_iff_ne.2 (ofNat_slot_ne i)

/-- The slot that a registration takes is neither in use nor pending. -/
theorem freeSlot_spec {s : Scheduler κ} {i : Fin maxEventSlots} (h : s.freeSlot = some i) :
    (s.mEventPool i).inUse = false ∧ (s.mEventPool i).pendingFree = false := by
  simpa using List.find?_some h

/-! ### What a call does to the slots -/

/-- The slot that a registration in slot `i` leaves behind when the kernel refuses it. -/
def refusedSlot (slot : EventSlot κ) : EventSlot κ :=
  { slot with callback := none, name := "", fd := -1, inUse := false,
              generation := Scheduler.nextGeneration slot.generation }

/-- What a registration does: nothing; or the kernel refuses it after the generation of a free
slot was counted up; or it takes the slot. -/
theorem registerFd_cases (s : Scheduler κ) (fd : ℤ) (interests : EventInterest) (callback : κ)
    (name : String) (ctl : EpollEvent → Bool) :
    s.registerFd fd interests callback name ctl = (s, .invalid) ∨
      ∃ i, s.initialized = true ∧ s.freeSlot = some i ∧
        (s.registerFd fd interests callback name ctl =
            (s.setSlot i (refusedSlot (s.mEventPool i)), .invalid) ∨
          ∃ slot : EventSlot κ, slot.inUse = true ∧
            slot.pendingFree = (s.mEventPool i).pendingFree ∧
            slot.generation = Scheduler.nextGeneration (s.mEventPool i).generation ∧
            s.registerFd fd interests callback name ctl =
              ({ s.setSlot i slot with mEpollCount := s.mEpollCount + 1 },
                ⟨UInt16.ofNat i.val, slot.generation⟩)) := by
  unfold Scheduler.registerFd
  by_cases hinit : s.initialized = true
  · rw [if_neg (by simp [hinit])]
    cases hfree : s.freeSlot with
    | none => exact Or.inl rfl
    | some i =>
      refine Or.inr ⟨i, hinit, rfl, ?_⟩
      dsimp only
      split_ifs with hctl
      · exact Or.inr ⟨{ s.mEventPool i with
          callback := some callback, name, fd, inUse := true,
          generation := Scheduler.nextGeneration (s.mEventPool i).generation }, rfl, rfl, rfl, rfl⟩
      · exact Or.inl rfl
  · rw [if_pos (by simpa using hinit)]
    exact Or.inl rfl

/-! ### The invariant -/

/-- The registration that a slot in use stands for. -/
def registrationOf (s : Scheduler κ) (h : History) (i : Fin maxEventSlots) : Registration :=
  ⟨s.handleOf i, h.ticks i⟩

/-- What every call keeps: the live registrations are those of the slots in use, a freed slot
is pending, and generations and handles follow the number of changes. -/
structure Inv (s : Scheduler κ) (h : History) : Prop where
  closed : s.initialized = false → h.live = []
  count : s.mEpollCount = (Finset.univ.filter fun i => (s.mEventPool i).inUse = true).card
  exclusive : ∀ i, (s.mEventPool i).inUse = true → (s.mEventPool i).pendingFree = false
  live : ∀ r, r ∈ h.live ↔ ∃ i, (s.mEventPool i).inUse = true ∧ r = registrationOf s h i
  nodup : h.live.Nodup
  freed : ∀ e ∈ h.freed, ∃ i : Fin maxEventSlots, e.index = UInt16.ofNat i.val ∧
    (s.mEventPool i).pendingFree = true
  generation : ∀ i, (s.mEventPool i).generation.toNat = generationAfter (h.ticks i)
  issued : ∀ r ∈ h.issued, ∃ i : Fin maxEventSlots, r.handle.index = UInt16.ofNat i.val ∧
    1 ≤ r.ticks ∧ r.ticks ≤ h.ticks i ∧
    r.handle.generation.toNat = generationAfter r.ticks

theorem inv_create (epoll interrupt : Option Fd) :
    Inv (create epoll interrupt : Scheduler κ) .start where
  closed := fun _ => rfl
  count := by simp [create, EventSlot.fresh]
  exclusive := fun _ h => by simp [create, EventSlot.fresh] at h
  live := by simp [History.start, create, EventSlot.fresh]
  nodup := List.nodup_nil
  freed := by simp [History.start]
  generation := fun _ => rfl
  issued := by simp [History.start]

section Keep

variable {s : Scheduler κ} {h : History}

theorem Inv.mem_handles (hi : Inv s h) {e : ScheduledEvent} :
    e ∈ h.live.map Registration.handle ↔ ∃ i, s.getSlot e = some i := by
  rw [List.mem_map]
  constructor
  · rintro ⟨r, hr, rfl⟩
    obtain ⟨i, huse, rfl⟩ := (hi.live r).1 hr
    exact ⟨i, getSlot_eq_some.2 ⟨rfl, huse⟩⟩
  · rintro ⟨i, hslot⟩
    obtain ⟨rfl, huse⟩ := getSlot_eq_some.1 hslot
    exact ⟨registrationOf s h i, (hi.live _).2 ⟨i, huse, rfl⟩, rfl⟩

/-- Live registrations with one handle are the same. -/
theorem Inv.eq_of_handle (hi : Inv s h) {r r' : Registration} (hr : r ∈ h.live)
    (hr' : r' ∈ h.live) (heq : r.handle = r'.handle) : r = r' := by
  obtain ⟨i, -, rfl⟩ := (hi.live r).1 hr
  obtain ⟨j, -, rfl⟩ := (hi.live r').1 hr'
  rw [handleOf_inj heq]

/-- A call that leaves the state of the slots alone. -/
theorem Inv.quiet (hi : Inv s h) {s' : Scheduler κ} {h' : History}
    (hinit : s'.initialized = s.initialized)
    (hcount : s'.mEpollCount = s.mEpollCount)
    (huse : ∀ i, (s'.mEventPool i).inUse = (s.mEventPool i).inUse)
    (hpending : ∀ i, (s'.mEventPool i).pendingFree = (s.mEventPool i).pendingFree)
    (hgeneration : ∀ i, (s'.mEventPool i).generation = (s.mEventPool i).generation)
    (hlive : h'.live = h.live) (hissued : h'.issued = h.issued) (hfreed : h'.freed = h.freed)
    (hticks : h'.ticks = h.ticks) : Inv s' h' where
  closed := by rw [hinit, hlive]; exact hi.closed
  count := by simp only [hcount, huse, hi.count]
  exclusive i := by simpa only [huse, hpending] using hi.exclusive i
  live r := by
    simp only [hlive, hi.live, huse, registrationOf, Scheduler.handleOf, hgeneration, hticks]
  nodup := hlive ▸ hi.nodup
  freed := by simpa only [hfreed, hpending] using hi.freed
  generation i := by rw [hgeneration, hticks, hi.generation]
  issued := by simpa only [hissued, hticks] using hi.issued

@[simp] theorem setSlot_same (s : Scheduler κ) (i : Fin maxEventSlots) (slot : EventSlot κ) :
    (s.setSlot i slot).mEventPool i = slot := by
  simp [Scheduler.setSlot]

theorem setSlot_other (s : Scheduler κ) {i j : Fin maxEventSlots} (slot : EventSlot κ)
    (hij : j ≠ i) : (s.setSlot i slot).mEventPool j = s.mEventPool j := by
  simp [Scheduler.setSlot, hij]

/-- The generation of one slot is counted up, and the slot is not in use. -/
theorem Inv.refused (hi : Inv s h) {i : Fin maxEventSlots} (hfree : s.freeSlot = some i) :
    Inv (s.setSlot i (refusedSlot (s.mEventPool i)))
      { h with ticks := Function.update h.ticks i (h.ticks i + 1) } := by
  obtain ⟨hunused, hclear⟩ := freeSlot_spec hfree
  have huse : ∀ j, ((s.setSlot i (refusedSlot (s.mEventPool i))).mEventPool j).inUse =
      (s.mEventPool j).inUse := by
    intro j
    by_cases hij : j = i
    · subst hij
      rw [setSlot_same, hunused]
      rfl
    · rw [setSlot_other s _ hij]
  have hpending : ∀ j, ((s.setSlot i (refusedSlot (s.mEventPool i))).mEventPool j).pendingFree =
      (s.mEventPool j).pendingFree := by
    intro j
    by_cases hij : j = i
    · subst hij
      rw [setSlot_same]
      rfl
    · rw [setSlot_other s _ hij]
  refine ⟨hi.closed, ?_, ?_, ?_, hi.nodup, ?_, ?_, ?_⟩
  · simp only [huse]
    exact hi.count
  · simpa only [huse, hpending] using hi.exclusive
  · intro r
    rw [hi.live]
    simp only [huse]
    refine exists_congr fun j => and_congr_right fun hj => ?_
    have hij : j ≠ i := by
      rintro rfl
      rw [hunused] at hj
      exact Bool.false_ne_true hj
    simp only [registrationOf, Scheduler.handleOf, setSlot_other s _ hij,
      Function.update_of_ne hij]
  · simpa only [hpending] using hi.freed
  · intro j
    by_cases hij : j = i
    · subst hij
      simp only [setSlot_same, Function.update_self]
      exact toNat_nextGeneration_of (hi.generation j)
    · simp only [setSlot_other s _ hij, Function.update_of_ne hij, hi.generation]
  · intro r hr
    obtain ⟨j, hindex, hpos, hle, hgen⟩ := hi.issued r hr
    refine ⟨j, hindex, hpos, hle.trans ?_, hgen⟩
    by_cases hij : j = i
    · subst hij
      simp only [Function.update_self]
      omega
    · simp only [Function.update_of_ne hij, le_refl]

/-- A free slot is taken. -/
theorem Inv.taken (hi : Inv s h) {i : Fin maxEventSlots} (hinit : s.initialized = true)
    (hfree : s.freeSlot = some i)
    {slot : EventSlot κ} (huse : slot.inUse = true)
    (hpending : slot.pendingFree = (s.mEventPool i).pendingFree)
    (hgen : slot.generation = Scheduler.nextGeneration (s.mEventPool i).generation) :
    Inv { s.setSlot i slot with mEpollCount := s.mEpollCount + 1 }
      { live := ⟨⟨UInt16.ofNat i.val, slot.generation⟩, h.ticks i + 1⟩ :: h.live
        issued := ⟨⟨UInt16.ofNat i.val, slot.generation⟩, h.ticks i + 1⟩ :: h.issued
        freed := h.freed
        ticks := Function.update h.ticks i (h.ticks i + 1) } := by
  obtain ⟨hunused, hclear⟩ := freeSlot_spec hfree
  have hnew : ∀ r : Registration, r.handle.index = UInt16.ofNat i.val → r ∉ h.live := by
    intro r hindex hr
    obtain ⟨j, hj, rfl⟩ := (hi.live r).1 hr
    obtain rfl : j = i := ofNat_slot_inj.1 hindex
    rw [hunused] at hj
    exact Bool.false_ne_true hj
  have hgennat : slot.generation.toNat = generationAfter (h.ticks i + 1) := by
    rw [hgen]
    exact toNat_nextGeneration_of (hi.generation i)
  refine ⟨fun hclosed => ?_, ?_, ?_, ?_, ?_, ?_, ?_, ?_⟩
  · have hopen : s.initialized = false := hclosed
    rw [hinit] at hopen
    exact absurd hopen (by simp)
  · have hset : (Finset.univ.filter fun j => ((s.setSlot i slot).mEventPool j).inUse = true) =
        insert i (Finset.univ.filter fun j => (s.mEventPool j).inUse = true) := by
      ext j
      by_cases hij : j = i
      · subst hij
        simp [huse]
      · simp [setSlot_other s _ hij, hij]
    have hnot : i ∉ Finset.univ.filter fun j => (s.mEventPool j).inUse = true := by
      simp [hunused]
    simp only [hset, Finset.card_insert_of_notMem hnot, hi.count]
    push_cast
    rfl
  · intro j hj
    by_cases hij : j = i
    · subst hij
      simp only [setSlot_same, hpending, hclear]
    · simp only [setSlot_other s _ hij] at hj ⊢
      exact hi.exclusive j hj
  · intro r
    rw [List.mem_cons, hi.live]
    constructor
    · rintro (rfl | ⟨j, hj, rfl⟩)
      · refine ⟨i, by simp only [setSlot_same, huse], ?_⟩
        simp only [registrationOf, Scheduler.handleOf, setSlot_same, Function.update_self]
      · have hij : j ≠ i := by
          rintro rfl
          rw [hunused] at hj
          exact Bool.false_ne_true hj
        refine ⟨j, by simpa only [setSlot_other s _ hij] using hj, ?_⟩
        simp only [registrationOf, Scheduler.handleOf, setSlot_other s _ hij,
          Function.update_of_ne hij]
    · rintro ⟨j, hj, rfl⟩
      by_cases hij : j = i
      · subst hij
        refine Or.inl ?_
        simp only [registrationOf, Scheduler.handleOf, setSlot_same, Function.update_self]
      · refine Or.inr ⟨j, by simpa only [setSlot_other s _ hij] using hj, ?_⟩
        simp only [registrationOf, Scheduler.handleOf, setSlot_other s _ hij,
          Function.update_of_ne hij]
  · exact List.nodup_cons.2 ⟨hnew _ rfl, hi.nodup⟩
  · intro e he
    obtain ⟨j, hindex, hj⟩ := hi.freed e he
    have hij : j ≠ i := by
      rintro rfl
      rw [hclear] at hj
      exact Bool.false_ne_true hj
    exact ⟨j, hindex, by simpa only [setSlot_other s _ hij] using hj⟩
  · intro j
    by_cases hij : j = i
    · subst hij
      simp only [setSlot_same, Function.update_self, hgennat]
    · simp only [setSlot_other s _ hij, Function.update_of_ne hij, hi.generation]
  · intro r hr
    rcases List.mem_cons.1 hr with rfl | hr
    · exact ⟨i, rfl, by simp only; omega, by simp only [Function.update_self, le_refl], hgennat⟩
    · obtain ⟨j, hindex, hpos, hle, hgen'⟩ := hi.issued r hr
      refine ⟨j, hindex, hpos, hle.trans ?_, hgen'⟩
      by_cases hij : j = i
      · subst hij
        simp only [Function.update_self]
        omega
      · simp only [Function.update_of_ne hij, le_refl]

/-- A slot in use is freed for later. -/
theorem Inv.unregistered (hi : Inv s h) {event : ScheduledEvent} {i : Fin maxEventSlots}
    (hslot : s.getSlot event = some i) :
    Inv { s.setSlot i { s.mEventPool i with inUse := false, pendingFree := true } with
          mEpollCount := s.mEpollCount - 1 }
      { live := h.live.filter fun r => r.handle ≠ event
        issued := h.issued
        freed := event :: h.freed
        ticks := h.ticks } := by
  obtain ⟨rfl, hused⟩ := getSlot_eq_some.1 hslot
  have hgen : ∀ j, ((s.setSlot i
      { s.mEventPool i with inUse := false, pendingFree := true }).mEventPool j).generation =
      (s.mEventPool j).generation := by
    intro j
    by_cases hij : j = i
    · subst hij
      simp only [setSlot_same]
    · simp only [setSlot_other s _ hij]
  refine ⟨fun hclosed => ?_, ?_, ?_, ?_, hi.nodup.filter _, ?_, ?_, hi.issued⟩
  · rw [hi.closed hclosed, List.filter_nil]
  · have hset : (Finset.univ.filter fun j => ((s.setSlot i
        { s.mEventPool i with inUse := false, pendingFree := true }).mEventPool j).inUse = true) =
        (Finset.univ.filter fun j => (s.mEventPool j).inUse = true).erase i := by
      ext j
      by_cases hij : j = i
      · subst hij
        simp
      · simp [setSlot_other s _ hij, hij]
    have hmem : i ∈ Finset.univ.filter fun j => (s.mEventPool j).inUse = true := by
      simp [hused]
    have hpos := Finset.card_pos.2 ⟨i, hmem⟩
    simp only [hset, Finset.card_erase_of_mem hmem, hi.count]
    omega
  · intro j hj
    by_cases hij : j = i
    · subst hij
      simp only [setSlot_same] at hj
      exact absurd hj Bool.false_ne_true
    · simp only [setSlot_other s _ hij] at hj ⊢
      exact hi.exclusive j hj
  · intro r
    simp only [List.mem_filter, decide_eq_true_eq, hi.live]
    constructor
    · rintro ⟨⟨j, hj, rfl⟩, hne⟩
      have hij : j ≠ i := by
        rintro rfl
        exact hne rfl
      refine ⟨j, by simpa only [setSlot_other s _ hij] using hj, ?_⟩
      simp only [registrationOf, Scheduler.handleOf, hgen]
    · rintro ⟨j, hj, rfl⟩
      have hij : j ≠ i := by
        rintro rfl
        simp only [setSlot_same] at hj
        exact Bool.false_ne_true hj
      simp only [setSlot_other s _ hij] at hj
      refine ⟨⟨j, hj, by simp only [registrationOf, Scheduler.handleOf, hgen]⟩, ?_⟩
      intro heq
      exact hij (ofNat_slot_inj.1 (congrArg ScheduledEvent.index heq))
  · intro e he
    rcases List.mem_cons.1 he with rfl | he
    · exact ⟨i, rfl, by simp only [setSlot_same]⟩
    · obtain ⟨j, hindex, hj⟩ := hi.freed e he
      refine ⟨j, hindex, ?_⟩
      by_cases hij : j = i
      · subst hij
        simp only [setSlot_same]
      · simpa only [setSlot_other s _ hij] using hj
  · intro j
    simp only [hgen, hi.generation]

/-- The pending slots are freed. -/
theorem Inv.released (hi : Inv s h) : Inv s.freePending { h with freed := [] } := by
  have huse : ∀ j, (s.freePending.mEventPool j).inUse = (s.mEventPool j).inUse := by
    intro j
    simp only [Scheduler.freePending]
    split_ifs <;> rfl
  have hgen : ∀ j, (s.freePending.mEventPool j).generation = (s.mEventPool j).generation := by
    intro j
    simp only [Scheduler.freePending]
    split_ifs <;> rfl
  refine ⟨hi.closed, ?_, ?_, ?_, hi.nodup, by simp, ?_, hi.issued⟩
  · simp only [huse]
    exact hi.count
  · intro j hj
    rw [huse] at hj
    simp only [Scheduler.freePending, hi.exclusive j hj, Bool.false_eq_true, if_false]
  · intro r
    simp only [hi.live, huse, registrationOf, Scheduler.handleOf, hgen]
  · intro j
    rw [hgen, hi.generation]

end Keep

/-! ### Calls keep the invariant -/

/-- Counting the changes of the generations when only slot `i` may have changed. -/
theorem ticks_setSlot (s : Scheduler κ) (ticks : Fin maxEventSlots → ℕ) {i : Fin maxEventSlots}
    {slot : EventSlot κ}
    (hgen : slot.generation = Scheduler.nextGeneration (s.mEventPool i).generation) :
    (fun j => if ((s.setSlot i slot).mEventPool j).generation ≠ (s.mEventPool j).generation
      then ticks j + 1 else ticks j) = Function.update ticks i (ticks i + 1) := by
  funext j
  by_cases hij : j = i
  · subst hij
    rw [setSlot_same, hgen, if_pos (nextGeneration_ne _), Function.update_self]
  · rw [setSlot_other s _ hij, if_neg (not_not.2 rfl), Function.update_of_ne hij]

/-- Counting the changes of the generations when there are none. -/
theorem ticks_of_generation_eq {s s' : Scheduler κ} (ticks : Fin maxEventSlots → ℕ)
    (hgen : ∀ i, (s'.mEventPool i).generation = (s.mEventPool i).generation) :
    (fun i => if (s'.mEventPool i).generation ≠ (s.mEventPool i).generation then ticks i + 1
      else ticks i) = ticks := by
  funext i
  rw [hgen, if_neg (not_not.2 rfl)]

/-- The history after a registration that took slot `i`. -/
theorem observe_registered {s : Scheduler κ} {h : History} {i : Fin maxEventSlots}
    {slot : EventSlot κ}
    (hgen : slot.generation = Scheduler.nextGeneration (s.mEventPool i).generation)
    (c : Call κ) (hc : ∀ event, c ≠ .unregister event) (hc' : c ≠ .processDeferred) :
    h.observe s { s.setSlot i slot with mEpollCount := s.mEpollCount + 1 } c
        (some ⟨UInt16.ofNat i.val, slot.generation⟩) =
      { live := ⟨⟨UInt16.ofNat i.val, slot.generation⟩, h.ticks i + 1⟩ :: h.live
        issued := ⟨⟨UInt16.ofNat i.val, slot.generation⟩, h.ticks i + 1⟩ :: h.issued
        freed := h.freed
        ticks := Function.update h.ticks i (h.ticks i + 1) } := by
  have hlt : (UInt16.ofNat i.val).toNat < maxEventSlots := by
    rw [toNat_ofNat_slot]
    exact i.isLt
  have hfin : (⟨(UInt16.ofNat i.val).toNat, hlt⟩ : Fin maxEventSlots) = i :=
    Fin.ext (toNat_ofNat_slot i)
  have hat : (slot.generation ≠ (s.mEventPool i).generation) := hgen ▸ nextGeneration_ne _
  rw [← ticks_setSlot s h.ticks hgen]
  cases c with
  | unregister event => exact absurd rfl (hc event)
  | processDeferred => exact absurd rfl hc'
  | registerFd | updateInterests | updateCallback | processEvent =>
    simp only [History.observe, Option.toList_some, List.map_cons, List.map_nil,
      List.singleton_append, dif_pos hlt, hfin, setSlot_same, if_pos hat]

theorem observe_unregister {s s' : Scheduler κ} (h : History) (event : ScheduledEvent)
    (hgen : ∀ i, (s'.mEventPool i).generation = (s.mEventPool i).generation) :
    h.observe s s' (.unregister event) none =
      { live := h.live.filter fun r => r.handle ≠ event
        issued := h.issued
        freed := if event ∈ h.live.map Registration.handle then event :: h.freed else h.freed
        ticks := h.ticks } := by
  simp only [History.observe, ticks_of_generation_eq h.ticks hgen]

theorem updateCallback_core (s : Scheduler κ) (event : ScheduledEvent) (callback : κ)
    (j : Fin maxEventSlots) :
    ((s.updateCallback event callback).mEventPool j).inUse = (s.mEventPool j).inUse ∧
      ((s.updateCallback event callback).mEventPool j).pendingFree =
        (s.mEventPool j).pendingFree ∧
      ((s.updateCallback event callback).mEventPool j).generation =
        (s.mEventPool j).generation := by
  unfold Scheduler.updateCallback
  cases hslot : s.getSlot event with
  | none => exact ⟨rfl, rfl, rfl⟩
  | some i =>
    by_cases hij : j = i
    · subst hij
      simp only [setSlot_same, and_self]
    · simp only [setSlot_other s _ hij, and_self]

/-- An event changes no slot. -/
theorem processEvent_fst (s : Scheduler κ) (event : EpollEvent) :
    (s.processEvent event).1 = s ∨
      (s.processEvent event).1 = { s with mInterrupted := true } := by
  unfold Scheduler.processEvent
  by_cases hfd : (lowWord event.data).toInt32.toInt = s.mInterruptFd
  · rw [if_pos hfd]
    exact Or.inr rfl
  · rw [if_neg hfd]
    refine Or.inl ?_
    dsimp only
    cases s.getSlot (decodeHandle event.data) with
    | none => rfl
    | some i =>
      dsimp only
      cases (s.mEventPool i).callback <;> rfl

theorem inv_track {t : Scheduler κ × History} (hi : Inv t.1 t.2) (c : Call κ) :
    Inv (track t c).1.1 (track t c).1.2 := by
  obtain ⟨s, h⟩ := t
  have hsame := ticks_of_generation_eq (s := s) h.ticks fun _ => rfl
  cases c with
  | registerFd fd interests callback name ctl =>
    simp only [track, call]
    rcases registerFd_cases s fd interests callback name ctl with
      hnone | ⟨i, hinit, hfree, hrefused | ⟨slot, huse, hpending, hgen, htaken⟩⟩
    · rw [hnone]
      exact hi.quiet rfl rfl (fun _ => rfl) (fun _ => rfl) (fun _ => rfl) rfl rfl rfl hsame
    · rw [hrefused]
      have hkeep := hi.refused hfree
      have hticks : (refusedSlot (s.mEventPool i)).generation =
          Scheduler.nextGeneration (s.mEventPool i).generation := rfl
      rw [← ticks_setSlot s h.ticks hticks] at hkeep
      exact hkeep
    · rw [htaken, if_pos (valid_slot i slot.generation),
        observe_registered hgen _ (by simp) (by simp)]
      exact hi.taken hinit hfree huse hpending hgen
  | updateInterests event interests =>
    exact hi.quiet rfl rfl (fun _ => rfl) (fun _ => rfl) (fun _ => rfl) rfl rfl rfl hsame
  | updateCallback event callback =>
    have hcore := updateCallback_core s event callback
    have hrest : (s.updateCallback event callback).initialized = s.initialized ∧
        (s.updateCallback event callback).mEpollCount = s.mEpollCount := by
      unfold Scheduler.updateCallback
      cases s.getSlot event <;> exact ⟨rfl, rfl⟩
    exact hi.quiet hrest.1 hrest.2 (fun j => (hcore j).1) (fun j => (hcore j).2.1)
      (fun j => (hcore j).2.2) rfl rfl rfl
      (ticks_of_generation_eq h.ticks fun j => (hcore j).2.2)
  | unregister event =>
    by_cases hresolves : s.initialized = true ∧ ∃ i, s.getSlot event = some i
    · obtain ⟨hinit, i, hslot⟩ := hresolves
      have hmem := hi.mem_handles.2 ⟨i, hslot⟩
      have hstep : s.unregister event =
          { s.setSlot i { s.mEventPool i with inUse := false, pendingFree := true } with
            mEpollCount := s.mEpollCount - 1 } := by
        simp [Scheduler.unregister, hinit, hslot]
      have hgen : ∀ j, ((s.unregister event).mEventPool j).generation =
          (s.mEventPool j).generation := by
        intro j
        rw [hstep]
        by_cases hij : j = i
        · subst hij
          simp only [setSlot_same]
        · simp only [setSlot_other s _ hij]
      have hkeep := hi.unregistered hslot
      rw [← hstep] at hkeep
      change Inv (s.unregister event)
        (h.observe s (s.unregister event) (.unregister event) none)
      rw [observe_unregister h event hgen, if_pos hmem]
      exact hkeep
    · have hnot : event ∉ h.live.map Registration.handle := by
        intro hmem
        by_cases hinit : s.initialized = true
        · exact hresolves ⟨hinit, hi.mem_handles.1 hmem⟩
        · rw [hi.closed (by simpa using hinit)] at hmem
          exact List.not_mem_nil hmem
      have hstep : s.unregister event = s := by
        unfold Scheduler.unregister
        by_cases hinit : s.initialized = true
        · cases hslot : s.getSlot event with
          | none => simp
          | some i => exact absurd ⟨hinit, i, hslot⟩ hresolves
        · rw [if_pos (by simpa using hinit)]
      have hfilter : h.live.filter (fun r => r.handle ≠ event) = h.live := by
        rw [List.filter_eq_self]
        intro r hr
        simp only [ne_eq, decide_not, Bool.not_eq_true', decide_eq_false_iff_not]
        rintro rfl
        exact hnot (List.mem_map_of_mem hr)
      change Inv (s.unregister event)
        (h.observe s (s.unregister event) (.unregister event) none)
      rw [hstep, observe_unregister h event fun _ => rfl, if_neg hnot, hfilter]
      exact hi
  | processDeferred =>
    have hgen : ∀ j, (s.freePending.mEventPool j).generation = (s.mEventPool j).generation := by
      intro j
      simp only [Scheduler.freePending]
      split_ifs <;> rfl
    have hkeep := hi.released
    rw [← ticks_of_generation_eq h.ticks hgen] at hkeep
    exact hkeep
  | processEvent event =>
    have hcore : (s.processEvent event).1.mEventPool = s.mEventPool ∧
        (s.processEvent event).1.mEpollCount = s.mEpollCount ∧
        (s.processEvent event).1.initialized = s.initialized := by
      rcases processEvent_fst s event with hfst | hfst <;> rw [hfst] <;> exact ⟨rfl, rfl, rfl⟩
    have hpool : ∀ j, (s.processEvent event).1.mEventPool j = s.mEventPool j :=
      congrFun hcore.1
    exact hi.quiet hcore.2.2 hcore.2.1 (fun j => congrArg EventSlot.inUse (hpool j))
      (fun j => congrArg EventSlot.pendingFree (hpool j))
      (fun j => congrArg EventSlot.generation (hpool j)) rfl rfl rfl
      (ticks_of_generation_eq h.ticks fun j => congrArg EventSlot.generation (hpool j))

/-! ### The descriptor of the interrupt -/

/-- The low word of the user data of a handle, read as a descriptor. -/
theorem toInt_lowWord_encodeHandle (e : ScheduledEvent) :
    (lowWord (encodeHandle e)).toInt32.toInt =
      if 2 * (e.generation.toNat * 65536 + e.index.toNat) < 2 ^ 32 then
        ((e.generation.toNat * 65536 + e.index.toNat : ℕ) : ℤ)
      else ((e.generation.toNat * 65536 + e.index.toNat : ℕ) : ℤ) - 2 ^ 32 := by
  have hcond := BitVec.toInt_eq_toNat_cond (lowWord (encodeHandle e)).toInt32.toBitVec
  have hint : (lowWord (encodeHandle e)).toInt32.toBitVec.toInt =
      (lowWord (encodeHandle e)).toInt32.toInt := Int32.toInt_toBitVec _
  have hnat : (lowWord (encodeHandle e)).toInt32.toBitVec.toNat =
      (lowWord (encodeHandle e)).toNat := by
    rw [UInt32.toBitVec_toInt32, UInt32.toNat_toBitVec]
  rw [hint, hnat, toNat_lowWord_encodeHandle] at hcond
  generalize e.generation.toNat * 65536 + e.index.toNat = n at hcond ⊢
  rw [hcond, Nat.cast_pow, Nat.cast_ofNat]

/-- The descriptor of the interrupt cannot be the user data of a handle. -/
def InterruptApart (fd : ℤ) : Prop := fd < 65536 ∨ 256 ≤ fd % 65536

theorem lowWord_ne_of_apart {fd : ℤ} (hfd : InterruptApart fd) (hneg : -1 ≤ fd)
    {e : ScheduledEvent} {i : Fin maxEventSlots} (hindex : e.index = UInt16.ofNat i.val)
    (hgen : 1 ≤ e.generation.toNat) :
    (lowWord (encodeHandle e)).toInt32.toInt ≠ fd := by
  have hi : i.val < 256 := i.isLt
  have hlt := e.generation.toNat_lt
  have hnat : e.index.toNat = i.val := by rw [hindex, toNat_ofNat_slot]
  rw [toInt_lowWord_encodeHandle, hnat]
  rcases hfd with hfd | hfd <;> split_ifs <;> omega

theorem generationAfter_pos {n : ℕ} (h : 1 ≤ n) : 1 ≤ generationAfter n := by
  unfold generationAfter
  rw [if_neg (by omega)]
  omega

/-- Table and history agree where the invariant holds. -/
theorem sound_of_inv {s : Scheduler κ} {h : History} (hi : Inv s h)
    (hfd : InterruptApart s.mInterruptFd) (hneg : -1 ≤ s.mInterruptFd) : Sound s h where
  count := hi.count
  exclusive i := by
    rintro ⟨huse, hpending⟩
    rw [hi.exclusive i huse] at hpending
    exact Bool.false_ne_true hpending
  resolves e := by rw [hi.mem_handles, Option.isSome_iff_exists]
  distinct := by
    rw [List.nodup_map_iff_inj_on hi.nodup]
    exact fun r hr r' hr' heq => hi.eq_of_handle hr hr' heq
  held e he r hr := by
    obtain ⟨i, hindex, hpending⟩ := hi.freed e he
    obtain ⟨j, huse, rfl⟩ := (hi.live r).1 hr
    intro hsame
    obtain rfl : j = i := ofNat_slot_inj.1 (hsame.trans hindex)
    rw [hi.exclusive j huse] at hpending
    exact Bool.false_ne_true hpending
  stale r hr hdead i hslot := by
    obtain ⟨j, hindex, hpos, hle, hgen⟩ := hi.issued r hr
    obtain ⟨hhandle, huse⟩ := getSlot_eq_some.1 hslot
    obtain rfl : j = i := ofNat_slot_inj.1
      (hindex.symm.trans (congrArg ScheduledEvent.index hhandle))
    have hne : r.ticks ≠ h.ticks j := by
      intro heq
      refine hdead ((hi.live r).2 ⟨j, huse, ?_⟩)
      obtain ⟨handle, ticks⟩ := r
      simp only at hhandle heq
      rw [registrationOf, ← hhandle, heq]
    have hsame : generationAfter r.ticks = generationAfter (h.ticks j) := by
      rw [← hgen, ← hi.generation, hhandle]
      rfl
    exact le_of_generationAfter_eq hpos (by omega) hsame
  decodes r _ := decodeHandle_encodeHandle r.handle
  apart r hr events := by
    obtain ⟨i, hindex, hpos, -, hgen⟩ := hi.issued r hr
    have hge : 1 ≤ r.handle.generation.toNat := hgen ▸ generationAfter_pos hpos
    unfold Scheduler.processEvent
    rw [if_neg (lowWord_ne_of_apart hfd hneg hindex hge)]
    dsimp only
    cases s.getSlot (decodeHandle (encodeHandle r.handle)) with
    | none =>
      dsimp only
      split_ifs <;> simp
    | some j =>
      dsimp only
      cases (s.mEventPool j).callback <;> simp

/-- The descriptors stay as they were opened. -/
theorem call_fds (s : Scheduler κ) (c : Call κ) :
    (call s c).1.mInterruptFd = s.mInterruptFd ∧ (call s c).1.initialized = s.initialized := by
  cases c with
  | registerFd fd interests callback name ctl =>
    change (s.registerFd fd interests callback name ctl).1.mInterruptFd = s.mInterruptFd ∧
      (s.registerFd fd interests callback name ctl).1.initialized = s.initialized
    rcases registerFd_cases s fd interests callback name ctl with
      h | ⟨i, -, -, h | ⟨slot, -, -, -, h⟩⟩ <;> rw [h] <;> exact ⟨rfl, rfl⟩
  | updateInterests event interests => exact ⟨rfl, rfl⟩
  | updateCallback event callback =>
    simp only [call, Scheduler.updateCallback]
    cases s.getSlot event <;> exact ⟨rfl, rfl⟩
  | unregister event =>
    simp only [call, Scheduler.unregister]
    split_ifs
    · exact ⟨rfl, rfl⟩
    · cases s.getSlot event <;> exact ⟨rfl, rfl⟩
  | processDeferred => exact ⟨rfl, rfl⟩
  | processEvent event =>
    change (s.processEvent event).1.mInterruptFd = s.mInterruptFd ∧
      (s.processEvent event).1.initialized = s.initialized
    rcases processEvent_fst s event with h | h <;> rw [h] <;> exact ⟨rfl, rfl⟩

/-- Every run of calls keeps the invariant. -/
theorem inv_run (epoll interrupt : Option Fd) (calls : List (Call κ)) :
    Inv (Mealy.run track (create epoll interrupt, .start) calls).1.1
        (Mealy.run track (create epoll interrupt, .start) calls).1.2 ∧
      (Mealy.run track (create epoll interrupt, .start) calls).1.1.mInterruptFd =
        (create epoll interrupt : Scheduler κ).mInterruptFd := by
  have halong : Mealy.Along (fun _ _ _ => True) track
      ((create epoll interrupt : Scheduler κ), History.start) [] calls :=
    Mealy.along_of_forall (fun _ _ _ _ => trivial) _ _
  refine Mealy.invariant_run (P := fun (t : Scheduler κ × History) (_ : List Unit) =>
    Inv t.1 t.2 ∧ t.1.mInterruptFd = (create epoll interrupt : Scheduler κ).mInterruptFd) ?_
    ⟨inv_create epoll interrupt, rfl⟩ halong
  rintro t - c ⟨hi, hfd⟩ -
  exact ⟨inv_track hi c, (call_fds t.1 c).1.trans hfd⟩

theorem interruptFd_create (epoll interrupt : Option Fd) :
    -1 ≤ (create epoll interrupt : Scheduler κ).mInterruptFd := by
  unfold create
  dsimp only
  split_ifs
  · exact le_refl _
  · cases interrupt with
    | none => exact le_refl _
    | some n =>
      simp only [Option.map_some, Option.getD_some]
      omega

/-! ### A handle that is taken for the interrupt -/

/-- The slots before `k` are in use, slot `k` has been refused `n` times, and those behind it
were never used. -/
structure Filled (s : Scheduler κ) (k : Fin maxEventSlots) (n : ℕ) : Prop where
  initialized : s.initialized = true
  before : ∀ j, j < k → (s.mEventPool j).inUse = true
  unused : (s.mEventPool k).inUse = false
  clear : (s.mEventPool k).pendingFree = false
  generation : (s.mEventPool k).generation.toNat = n
  behind : ∀ j, k < j → s.mEventPool j = .fresh κ

theorem Filled.freeSlot {s : Scheduler κ} {k : Fin maxEventSlots} {n : ℕ} (h : Filled s k n) :
    s.freeSlot = some k := by
  unfold Scheduler.freeSlot
  rw [List.find?_eq_some_iff_getElem]
  refine ⟨by simp [h.unused, h.clear], k.val, by simp, by simp, fun j hj => ?_⟩
  have hbefore := h.before ⟨j, hj.trans k.isLt⟩ hj
  simp only [List.getElem_finRange, Fin.cast_mk, hbefore]
  rfl

section Collision

variable [Inhabited κ]

/-- A registration that the kernel accepts or refuses. -/
def registration (accepted : Bool) : Call κ :=
  .registerFd 0 .None default "" fun _ => accepted

/-- The next slot after an accepted registration. -/
theorem Filled.accepted {s : Scheduler κ} {k k' : Fin maxEventSlots} {n : ℕ}
    (h : Filled s k n) (hk : k'.val = k.val + 1) :
    Filled (call s (registration true)).1 k' 0 := by
  have hstep : (call s (registration true)).1 = { s.setSlot k
      { s.mEventPool k with callback := some default, name := "", fd := 0, inUse := true,
                            generation := Scheduler.nextGeneration (s.mEventPool k).generation }
      with mEpollCount := s.mEpollCount + 1 } := by
    simp [call, registration, Scheduler.registerFd, h.initialized, h.freeSlot]
  have hfresh : s.mEventPool k' = .fresh κ := h.behind k' (by rw [Fin.lt_def]; omega)
  have hne : k' ≠ k := by
    rintro rfl
    omega
  rw [hstep]
  refine ⟨h.initialized, fun j hj => ?_, ?_, ?_, ?_, fun j hj => ?_⟩
  · by_cases hjk : j = k
    · subst hjk
      simp only [setSlot_same]
    · simp only [setSlot_other s _ hjk]
      refine h.before j ?_
      have hval : j.val ≠ k.val := fun hval => hjk (Fin.ext hval)
      rw [Fin.lt_def] at hj ⊢
      omega
  · simp only [setSlot_other s _ hne, hfresh, EventSlot.fresh]
  · simp only [setSlot_other s _ hne, hfresh, EventSlot.fresh]
  · simp only [setSlot_other s _ hne, hfresh, EventSlot.fresh]
    rfl
  · have hjk : j ≠ k := by
      rintro rfl
      rw [Fin.lt_def] at hj
      omega
    simp only [setSlot_other s _ hjk]
    refine h.behind j ?_
    rw [Fin.lt_def] at hj ⊢
    omega

/-- A refused registration only counts up the generation. -/
theorem Filled.refused {s : Scheduler κ} {k : Fin maxEventSlots} {n : ℕ} (h : Filled s k n)
    (hn : n < 65535) : Filled (call s (registration false)).1 k (n + 1) := by
  have hstep : (call s (registration false)).1 =
      s.setSlot k (refusedSlot (s.mEventPool k)) := by
    simp [call, registration, Scheduler.registerFd, h.initialized, h.freeSlot, refusedSlot,
      ScheduledEvent.invalid, ScheduledEvent.valid]
  rw [hstep]
  refine ⟨h.initialized, fun j hj => ?_, ?_, ?_, ?_, fun j hj => ?_⟩
  · simpa only [setSlot_other s _ hj.ne] using h.before j hj
  · rw [setSlot_same]
    rfl
  · rw [setSlot_same]
    exact h.clear
  · rw [setSlot_same, refusedSlot, toNat_nextGeneration, h.generation, if_neg (by omega)]
  · rw [setSlot_other s _ hj.ne']
    exact h.behind j hj

/-- An accepted registration hands out the next generation of the slot. -/
theorem Filled.issued {t : Scheduler κ × History} {k : Fin maxEventSlots} {n : ℕ}
    (h : Filled t.1 k n) (hn : n < 65535) :
    ∃ r ∈ (track t (registration true)).1.2.issued, r.handle.index = UInt16.ofNat k.val ∧
      r.handle.generation.toNat = n + 1 := by
  have hhandle : (call t.1 (registration true)).2 =
      some ⟨UInt16.ofNat k.val, Scheduler.nextGeneration (t.1.mEventPool k).generation⟩ := by
    simp [call, registration, Scheduler.registerFd, h.initialized, h.freeSlot, valid_slot]
  have hmade : ∃ m, (⟨⟨UInt16.ofNat k.val,
      Scheduler.nextGeneration (t.1.mEventPool k).generation⟩, m⟩ : Registration) ∈
      (t.2.observe t.1 (call t.1 (registration true)).1 (registration true)
        (call t.1 (registration true)).2).issued := by
    rw [hhandle]
    apply Exists.intro
    exact List.mem_cons_self
  obtain ⟨m, hm⟩ := hmade
  refine ⟨_, hm, rfl, ?_⟩
  rw [toNat_nextGeneration, h.generation, if_neg (by omega)]

/-- The first `k` slots are taken. -/
theorem filled_accepted (epoll interrupt : Fd) (k : ℕ) (hk : k < maxEventSlots) :
    Filled (Mealy.run track ((create (some epoll) (some interrupt) : Scheduler κ), .start)
      (List.replicate k (registration true))).1.1 ⟨k, hk⟩ 0 := by
  induction k with
  | zero =>
    have hinit : (create (some epoll) (some interrupt) : Scheduler κ).initialized = true := by
      simp only [Scheduler.initialized, create, Option.map_some, Option.getD_some, reduceCtorEq,
        if_false, Bool.and_eq_true, bne_iff_ne]
      omega
    exact ⟨hinit, fun j hj => absurd hj (by simp), rfl, rfl, rfl, fun _ _ => rfl⟩
  | succ k ih =>
    rw [List.replicate_succ', Mealy.run_snoc_fst]
    exact (ih (by omega)).accepted rfl

/-- Slot `k` is refused `n` times after that. -/
theorem filled_refused (epoll interrupt : Fd) (k : Fin maxEventSlots) (n : ℕ) (hn : n ≤ 65535) :
    Filled (Mealy.run track ((create (some epoll) (some interrupt) : Scheduler κ), .start)
      (List.replicate k.val (registration true) ++
        List.replicate n (registration false))).1.1 k n := by
  induction n with
  | zero =>
    rw [List.replicate_zero, List.append_nil]
    exact filled_accepted epoll interrupt k.val k.isLt
  | succ n ih =>
    rw [List.replicate_succ', ← List.append_assoc, Mealy.run_snoc_fst]
    exact (ih (by omega)).refused (by omega)

/-- With a descriptor whose bits look like a handle, some run hands out that handle. -/
theorem exists_not_sound {epoll interrupt : Fd}
    (h : ¬InterruptApart (create (some epoll) (some interrupt) : Scheduler κ).mInterruptFd) :
    ∃ calls : List (Call κ),
      ¬Sound (Mealy.run track (create (some epoll) (some interrupt), .start) calls).1.1
        (Mealy.run track (create (some epoll) (some interrupt), .start) calls).1.2 := by
  have hfd : (create (some epoll) (some interrupt) : Scheduler κ).mInterruptFd =
      (interrupt.val : ℤ) := rfl
  have hlt : interrupt.val < 2147483648 := interrupt.isLt
  rw [InterruptApart, hfd, not_or, not_lt, not_le] at h
  have hindex : interrupt.val % 65536 < 256 := by omega
  have hgen : 1 ≤ interrupt.val / 65536 := by omega
  let k : Fin maxEventSlots := ⟨interrupt.val % 65536, hindex⟩
  let n := interrupt.val / 65536 - 1
  have hfilled := filled_refused (κ := κ) epoll interrupt k n (by omega)
  obtain ⟨r, hr, hrindex, hrgen⟩ := hfilled.issued (by omega)
  refine ⟨(List.replicate k.val (registration true) ++ List.replicate n (registration false)) ++
    [registration true], fun hsound => ?_⟩
  have hkeep := (inv_run (κ := κ) (some epoll) (some interrupt)
    ((List.replicate k.val (registration true) ++ List.replicate n (registration false)) ++
      [registration true])).2
  rw [Mealy.run_snoc_fst] at hsound hkeep
  refine hsound.apart r hr 0 ?_
  have hnat : r.handle.index.toNat = interrupt.val % 65536 := by
    rw [hrindex, toNat_ofNat_slot]
  have hword : (lowWord (encodeHandle r.handle)).toInt32.toInt = (interrupt.val : ℤ) := by
    rw [toInt_lowWord_encodeHandle, hrgen, hnat]
    split_ifs <;> omega
  unfold Scheduler.processEvent
  rw [if_pos (hword.trans (hkeep.trans hfd).symm)]

/-- **The slot table.**  Table and history agree after every run of calls, if and only if the
descriptor of the interrupt cannot be the user data of a handle. -/
theorem sound_iff (epoll interrupt : Option Fd) :
    (∀ calls : List (Call κ),
      Sound (Mealy.run track (create epoll interrupt, .start) calls).1.1
        (Mealy.run track (create epoll interrupt, .start) calls).1.2) ↔
    InterruptApart (create epoll interrupt : Scheduler κ).mInterruptFd := by
  constructor
  · intro hall
    by_contra hapart
    cases epoll with
    | none => exact hapart (Or.inl (by simp [create]))
    | some e =>
      cases interrupt with
      | none => exact hapart (Or.inl (by simp [create]))
      | some n =>
        obtain ⟨calls, hnot⟩ := exists_not_sound hapart
        exact hnot (hall calls)
  · intro hapart calls
    obtain ⟨hi, hfd⟩ := inv_run epoll interrupt calls
    exact sound_of_inv hi (hfd ▸ hapart) (hfd ▸ interruptFd_create epoll interrupt)

end Collision

/-- With the descriptor 65536, the first handle of the first slot is taken for the interrupt. -/
theorem not_sound_65536 :
    ¬∀ calls : List (Call Unit),
      Sound (Mealy.run track (create (some 3) (some 65536), .start) calls).1.1
        (Mealy.run track (create (some 3) (some 65536), .start) calls).1.2 := by
  intro h
  have hlike : ¬InterruptApart (create (some 3) (some 65536) : Scheduler Unit).mInterruptFd := by
    unfold InterruptApart create
    decide
  obtain ⟨calls, hnot⟩ := exists_not_sound hlike
  exact hnot (h calls)

end SuplLpp.Sched
