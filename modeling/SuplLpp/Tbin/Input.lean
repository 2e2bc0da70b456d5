import Mathlib.Algebra.BigOperators.Group.Finset.Basic
import Mathlib.Algebra.Order.Ring.Abs
import SuplLpp.Lib.Merge
import SuplLpp.Tbin.File

/-!
# The replay of recorded streams

`TbinInput` merges the records of several files by their time, as fast as it can or at the pace
of the recording.

* `TbinInput`, `TbinInput.new`, `TbinInput.step`: the input, its loop and its timer, with
  `std::priority_queue`, the clock and the files as parameters;
* `Holds`: the heap has the next record of every file that has one;
* `deliver_spec`, `round_spec`: what one round of the loop delivers;
* `SteadyClock`, `Honest`: the clock and the timer that the replay in real time relies on;
* `Ready`, `Waiting`, `Paced`: how the loop and its timer stand between two records.
-/

namespace SuplLpp.Tbin

open Merge

/-- A set of flags. -/
abbrev InputFormat := UInt64

structure Entry where
  timestampUs : Int64
  readerIndex : ℕ
  deriving DecidableEq

/-- `operator>` compares the times only. -/
def Entry.key (e : Entry) : ℤ := e.timestampUs.toInt

/-- A source, with the file that is found at its path. -/
structure Source where
  file : Option (List UInt8)
  format : InputFormat
  shiftUs : Int64

inductive Event
  | delivered (format : InputFormat) (data : List UInt8)
  | completed
  deriving DecidableEq

/-- The members of `TbinInput`; behind them whether the loop of `deliver_next` is at
`next_message`, the duration of the timer if it runs, how often the clock has been read, and what
has been handed to the callbacks. -/
structure TbinInput (pq : PriorityQueue Entry.key) where
  mReaders : ℕ → Reader
  mPending : ℕ → Message
  mFormats : ℕ → InputFormat
  mShifts : ℕ → Int64
  mHeap : pq.Q
  mRealtimeMode : Bool
  mStopTimeUs : Int64
  mFirstTimestampUs : Int64
  mStartWallUs : Int64
  mStarted : Bool
  atNextMessage : Bool
  timer : Option Int64
  reads : ℕ
  log : List Event

namespace TbinInput

variable {pq : PriorityQueue Entry.key}

/-- The next record of a file goes to `mPending` and its time to the heap, if there is one. -/
def refill (s : TbinInput pq) (i : ℕ) : TbinInput pq :=
  let (reader, msg, more) := (s.mReaders i).next (s.mPending i)
  let s := { s with
    mReaders := Function.update s.mReaders i reader
    mPending := Function.update s.mPending i msg }
  if more then { s with mHeap := pq.push s.mHeap ⟨msg.timestampUs + s.mShifts i, i⟩ } else s

/-- One round of the loop of the constructor. -/
def addSource (s : TbinInput pq) (i : ℕ) (source : Source) : TbinInput pq :=
  let (reader, opened) := (s.mReaders i).openFile source.file
  let s := { s with
    mFormats := Function.update s.mFormats i source.format
    mShifts := Function.update s.mShifts i source.shiftUs
    mReaders := Function.update s.mReaders i reader }
  if opened then s.refill i else s

/-- The members before the loop of the constructor. -/
def blank (replayRealtime : Bool) (stopTimeUs : Int64) : TbinInput pq where
  mReaders _ := Reader.new
  mPending _ := ⟨0, []⟩
  mFormats _ := 0
  mShifts _ := 0
  mHeap := pq.empty
  mRealtimeMode := replayRealtime
  mStopTimeUs := stopTimeUs
  mFirstTimestampUs := 0
  mStartWallUs := 0
  mStarted := false
  atNextMessage := false
  timer := none
  reads := 0
  log := []

/-- `Timer::arm`: no time at all would stop the timer, and a negative one is refused. -/
def arm (nanoseconds : Int64) : Option Int64 :=
  if nanoseconds < 0 then none else if nanoseconds = 0 then some 1 else some nanoseconds

/-- The constructor, `set_stop_time_us` and `do_schedule`. -/
def new (sources : List Source) (replayRealtime : Bool) (stopTimeUs : Int64) : TbinInput pq :=
  { sources.zipIdx.foldl (fun s source => s.addSource source.2 source.1)
      (blank replayRealtime stopTimeUs) with
    timer := arm 0 }

def complete (s : TbinInput pq) : TbinInput pq :=
  { s with log := s.log ++ [.completed], atNextMessage := false }

/-- `now_us`. -/
def nowUs (clock : ℕ → Int64) (s : TbinInput pq) : Int64 × TbinInput pq :=
  (clock s.reads, { s with reads := s.reads + 1 })

/-- The duration is set and the timer started again; the function returns. -/
def restart (s : TbinInput pq) (nanoseconds : Int64) : TbinInput pq :=
  { s with timer := arm nanoseconds, atNextMessage := false }

/-- The beginning of the replay in real time, when it has not begun. -/
def begin (clock : ℕ → Int64) (s : TbinInput pq) (top : Entry) : TbinInput pq :=
  if s.mStarted then s
  else
    let (now, s) := s.nowUs clock
    { s with mFirstTimestampUs := top.timestampUs, mStartWallUs := now, mStarted := true }

/-- How long the entry has still to wait. -/
def delayUs (clock : ℕ → Int64) (s : TbinInput pq) (e : Entry) : Int64 × TbinInput pq :=
  let (now, s) := s.nowUs clock
  ((e.timestampUs - s.mFirstTimestampUs) - (now - s.mStartWallUs), s)

/-- The record is handed to the callback, if it has bytes.  When it is not in real time the source
then calls `execute_once` until nothing is pending; the timer has run out and is not armed before
`deliver_next` returns, so these calls do not come back to the input. -/
def hand (s : TbinInput pq) (i : ℕ) : TbinInput pq :=
  let msg := s.mPending i
  if msg.data = [] then s else { s with log := s.log ++ [.delivered (s.mFormats i) msg.data] }

/-- What follows the wait: the record is delivered, and the next one of its file read. -/
def deliver (clock : ℕ → Int64) (s : TbinInput pq) (top : Entry) : TbinInput pq :=
  let s := { s with mHeap := pq.pop s.mHeap }
  let s := (s.hand top.readerIndex).refill top.readerIndex
  match pq.top s.mHeap with
  | none => s.complete
  | some next =>
    if s.mRealtimeMode then
      let (delay, s) := s.delayUs clock next
      s.restart (if 0 < delay then delay * 1000 else 1)
    else s

/-- `deliver_next` from `next_message` to the next `goto` or the return. -/
def round (clock : ℕ → Int64) (s : TbinInput pq) : TbinInput pq :=
  match pq.top s.mHeap with
  | none => s
  | some top =>
    if 0 < s.mStopTimeUs ∧ s.mStopTimeUs < top.timestampUs then s.complete
    else if s.mRealtimeMode then
      let (delay, s) := (s.begin clock top).delayUs clock top
      if 1000 < delay then s.restart (delay * 1000) else s.deliver clock top
    else s.deliver clock top

/-- One step: a round of the loop, or the timer that calls `deliver_next`. -/
def step (clock : ℕ → Int64) (s : TbinInput pq) : TbinInput pq :=
  if s.atNextMessage then s.round clock
  else
    match s.timer with
    | none => s
    | some _ =>
      let s := { s with timer := none }
      if pq.top s.mHeap = none then s.complete else { s with atNextMessage := true }

/-! ### The heap has the heads -/

/-- The reader is in front of these records. -/
def Reads (reader : Reader) (records : List Message) : Prop :=
  ∃ streamId cut, reader = ⟨some (records.flatMap Writer.writeBytes ++ cut), streamId, false⟩ ∧
    (∀ m ∈ records, m.data.length < 2 ^ 32) ∧
    ∃ m : Message, m.data.length < 2 ^ 32 ∧ cut <+: Writer.writeBytes m ∧
      cut ≠ Writer.writeBytes m

/-- `rest i` are the records of a file that have not been delivered: the first is in `mPending`, its
time is in the heap, and the reader is in front of the others. -/
structure Holds (s : TbinInput pq) (rest : ℕ → List Message) : Prop where
  mem_heap : ∀ e, e ∈ pq.contents s.mHeap ↔ ∃ r tail, rest e.readerIndex = r :: tail ∧
    e.timestampUs = r.timestampUs + s.mShifts e.readerIndex
  nodup : (pq.contents s.mHeap).Nodup
  pending : ∀ i r tail, rest i = r :: tail → s.mPending i = r ∧ Reads (s.mReaders i) tail

theorem next_of_reads {reader : Reader} {m : Message} {records : List Message}
    (h : Reads reader (m :: records)) (msg : Message) :
    ∃ reader', reader.next msg = (reader', m, true) ∧ Reads reader' records := by
  obtain ⟨streamId, cut, rfl, hshort, hcut⟩ := h
  refine ⟨⟨some (records.flatMap Writer.writeBytes ++ cut), streamId, false⟩, ?_,
    streamId, cut, rfl, fun m hm => hshort m (List.mem_cons_of_mem _ hm), hcut⟩
  rw [List.flatMap_cons, List.append_assoc]
  exact Reader.next_record (hshort m List.mem_cons_self) _ _ _

theorem next_of_reads_nil {reader : Reader} (h : Reads reader []) (msg : Message) :
    (reader.next msg).2.2 = false := by
  obtain ⟨streamId, cut, rfl, -, m, hm, hbegins, hne⟩ := h
  exact Reader.next_cut hm hbegins hne streamId msg

/-- What `refill` leaves as it is. -/
theorem refill_frame (s : TbinInput pq) (i : ℕ) :
    ∃ readers pending heap, s.refill i =
      { s with mReaders := readers, mPending := pending, mHeap := heap } := by
  rw [refill]
  dsimp only
  split
  · exact ⟨_, _, _, rfl⟩
  · exact ⟨_, _, _, rfl⟩

/-- **The next records of a file**, when none of it is in the heap. -/
theorem Holds.refill {s : TbinInput pq} {rest : ℕ → List Message} (h : Holds s rest) {i : ℕ}
    (hi : rest i = []) {records : List Message} (hreads : Reads (s.mReaders i) records) :
    Holds (s.refill i) (Function.update rest i records) := by
  cases records with
  | nil =>
    have hmore := next_of_reads_nil hreads (s.mPending i)
    have hrest : Function.update rest i [] = rest := by rw [← hi, Function.update_eq_self]
    rw [hrest, TbinInput.refill]
    generalize (s.mReaders i).next (s.mPending i) = result at hmore ⊢
    obtain ⟨reader, msg, more⟩ := result
    obtain rfl : more = false := hmore
    refine ⟨h.mem_heap, h.nodup, fun j r tail hj => ?_⟩
    have hij : j ≠ i := fun heq => by rw [heq, hi] at hj; cases hj
    simp only [Bool.false_eq_true, if_false, Function.update_of_ne hij]
    exact h.pending j r tail hj
  | cons m records =>
    obtain ⟨reader, hnext, hreads'⟩ := next_of_reads hreads (s.mPending i)
    rw [TbinInput.refill, hnext]
    refine ⟨fun e => ?_, ?_, fun j r tail hj => ?_⟩
    · simp only [if_true, pq.contents_push, Multiset.mem_cons, h.mem_heap]
      by_cases he : e.readerIndex = i
      · rw [he, Function.update_self, hi]
        constructor
        · rintro (rfl | ⟨r, tail, hnil, -⟩)
          · exact ⟨m, records, rfl, rfl⟩
          · cases hnil
        · rintro ⟨r, tail, hcons, htime⟩
          obtain ⟨rfl, rfl⟩ := List.cons.inj hcons
          left
          cases e
          simp only at he htime
          rw [he, htime]
      · rw [Function.update_of_ne he, or_iff_right]
        rintro rfl
        exact he rfl
    · simp only [if_true, pq.contents_push, Multiset.nodup_cons]
      refine ⟨fun hmem => ?_, h.nodup⟩
      obtain ⟨r, tail, hcons, -⟩ := (h.mem_heap _).1 hmem
      rw [hi] at hcons
      cases hcons
    · simp only [if_true]
      by_cases hij : j = i
      · subst hij
        rw [Function.update_self] at hj
        obtain ⟨rfl, rfl⟩ := List.cons.inj hj
        rw [Function.update_self, Function.update_self]
        exact ⟨rfl, hreads'⟩
      · rw [Function.update_of_ne hij] at hj
        rw [Function.update_of_ne hij, Function.update_of_ne hij]
        exact h.pending j r tail hj

/-- **The top of the heap** is a head of the least key; without it the rest of its file is none. -/
theorem Holds.pop {s : TbinInput pq} {rest : ℕ → List Message} (h : Holds s rest) {e : Entry}
    (htop : pq.top s.mHeap = some e) :
    (∃ r tail, rest e.readerIndex = r :: tail ∧
      e.timestampUs = r.timestampUs + s.mShifts e.readerIndex ∧ s.mPending e.readerIndex = r ∧
      Reads (s.mReaders e.readerIndex) tail) ∧
    (∀ j r, (rest j).head? = some r → e.key ≤ (r.timestampUs + s.mShifts j).toInt) ∧
    Holds { s with mHeap := pq.pop s.mHeap } (Function.update rest e.readerIndex []) := by
  have hcontents := pq.contents_pop htop
  have hmem : e ∈ pq.contents s.mHeap := by
    rw [hcontents]
    exact Multiset.mem_cons_self _ _
  have hnodup := h.nodup
  rw [hcontents, Multiset.nodup_cons] at hnodup
  obtain ⟨r, tail, hcons, htime⟩ := (h.mem_heap e).1 hmem
  obtain ⟨hpending, hreads⟩ := h.pending _ _ _ hcons
  refine ⟨⟨r, tail, hcons, htime, hpending, hreads⟩, fun j r' hj => ?_, fun e' => ?_, hnodup.2,
    fun j r' tail' hj => ?_⟩
  · obtain ⟨tail', hj'⟩ := List.head?_eq_some_iff.1 hj
    have hin : ⟨r'.timestampUs + s.mShifts j, j⟩ ∈ pq.contents s.mHeap :=
      (h.mem_heap _).2 ⟨r', tail', hj', rfl⟩
    simpa only [Entry.key] using pq.top_le htop hin
  · have hiff := h.mem_heap e'
    rw [hcontents, Multiset.mem_cons] at hiff
    by_cases he : e'.readerIndex = e.readerIndex
    · rw [he, Function.update_self]
      refine iff_of_false (fun hin => ?_) (by rintro ⟨_, _, hnil, -⟩; cases hnil)
      obtain ⟨r', tail', hcons', htime'⟩ := hiff.1 (.inr hin)
      rw [he, hcons] at hcons'
      obtain ⟨rfl, rfl⟩ := List.cons.inj hcons'
      have heq : e' = e := by
        cases e
        cases e'
        simp only at he htime htime'
        rw [he, htime, htime', he]
      rw [heq] at hin
      exact hnodup.1 hin
    · rw [Function.update_of_ne he, ← hiff, or_iff_right]
      rintro rfl
      exact he rfl
  · by_cases hij : j = e.readerIndex
    · rw [hij, Function.update_self] at hj
      cases hj
    · rw [Function.update_of_ne hij] at hj
      exact h.pending j r' tail' hj

/-! ### One round -/

/-- The key of a record of a file in the heap. -/
def key (s : TbinInput pq) (i : ℕ) (m : Message) : ℤ := (m.timestampUs + s.mShifts i).toInt

/-- The stop time, if there is one, is before this time. -/
def Past (stopTimeUs : Int64) (time : ℤ) : Prop := 0 < stopTimeUs.toInt ∧ stopTimeUs.toInt < time

/-- What a record hands to the callback. -/
def handed (format : InputFormat) (m : Message) : List Event :=
  if m.data = [] then [] else [.delivered format m.data]

theorem hand_eq (s : TbinInput pq) (i : ℕ) :
    s.hand i = { s with log := s.log ++ handed (s.mFormats i) (s.mPending i) } := by
  rw [hand, handed]
  by_cases hdata : (s.mPending i).data = []
  · simp only [hdata, if_true, List.append_nil]
  · simp only [hdata, if_false]

/-- What a step does not change. -/
structure SameReplay (s s' : TbinInput pq) : Prop where
  formats : s'.mFormats = s.mFormats
  shifts : s'.mShifts = s.mShifts
  realtime : s'.mRealtimeMode = s.mRealtimeMode
  stop : s'.mStopTimeUs = s.mStopTimeUs

theorem SameReplay.trans {s s' s'' : TbinInput pq} (h : SameReplay s s') (h' : SameReplay s' s'') :
    SameReplay s s'' :=
  ⟨h'.formats.trans h.formats, h'.shifts.trans h.shifts, h'.realtime.trans h.realtime,
    h'.stop.trans h.stop⟩

/-- The loop has ended and the timer does not run. -/
def Idle (s : TbinInput pq) : Prop := s.atNextMessage = false ∧ s.timer = none

/-- The wait for an entry, from a reading of the clock. -/
def waitUs (s : TbinInput pq) (now : Int64) (e : Entry) : Int64 :=
  (e.timestampUs - s.mFirstTimestampUs) - (now - s.mStartWallUs)

/-- How `deliver` goes on when there is another entry. -/
def GoesOn (clock : ℕ → Int64) (s s' : TbinInput pq) (e : Entry) : Prop :=
  if s.mRealtimeMode then
    s'.atNextMessage = false ∧ s'.reads = s.reads + 1 ∧
      s'.mFirstTimestampUs = s.mFirstTimestampUs ∧ s'.mStartWallUs = s.mStartWallUs ∧
      s'.mStarted = s.mStarted ∧
      s'.timer = arm (if 0 < s.waitUs (clock s.reads) e then s.waitUs (clock s.reads) e * 1000
        else 1)
  else s'.atNextMessage = s.atNextMessage ∧ s'.timer = s.timer

/-- **What `deliver` does**: the head is handed on, and the loop ends, goes on or waits. -/
theorem deliver_spec (clock : ℕ → Int64) {s : TbinInput pq} {rest : ℕ → List Message}
    (h : Holds s rest) {e : Entry} (htop : pq.top s.mHeap = some e) (htimer : s.timer = none) :
    ∃ r tail, rest e.readerIndex = r :: tail ∧ s.key e.readerIndex r = e.key ∧
      (∀ j r', (rest j).head? = some r' → e.key ≤ s.key j r') ∧
      Holds (s.deliver clock e) (Function.update rest e.readerIndex tail) ∧
      SameReplay s (s.deliver clock e) ∧
      match pq.top (s.deliver clock e).mHeap with
      | none => Idle (s.deliver clock e) ∧
          (s.deliver clock e).log = s.log ++ handed (s.mFormats e.readerIndex) r ++ [.completed]
      | some e' => GoesOn clock s (s.deliver clock e) e' ∧
          (s.deliver clock e).log = s.log ++ handed (s.mFormats e.readerIndex) r := by
  obtain ⟨⟨r, tail, hcons, htime, hpending, hreads⟩, hleast, hpop⟩ := h.pop htop
  refine ⟨r, tail, hcons, by rw [key, Entry.key, htime], hleast, ?_⟩
  have hrefill := (Holds.refill (s := ({ s with mHeap := pq.pop s.mHeap } :
    TbinInput pq).hand e.readerIndex) (i := e.readerIndex)
    (by rw [hand_eq]; exact ⟨hpop.mem_heap, hpop.nodup, hpop.pending⟩)
    (Function.update_self _ _ _) (by rw [hand_eq]; exact hreads))
  rw [Function.update_idem] at hrefill
  obtain ⟨readers, pending, heap, hframe⟩ := refill_frame (({ s with mHeap := pq.pop s.mHeap } :
    TbinInput pq).hand e.readerIndex) e.readerIndex
  rw [hframe] at hrefill
  simp only [hand_eq, hpending] at hrefill hframe
  have hdeliver : s.deliver clock e = match pq.top heap with
      | none => TbinInput.complete { s with
          mReaders := readers
          mPending := pending
          mHeap := heap
          log := s.log ++ handed (s.mFormats e.readerIndex) r }
      | some next =>
        if s.mRealtimeMode then
          TbinInput.restart { s with
            mReaders := readers
            mPending := pending
            mHeap := heap
            reads := s.reads + 1
            log := s.log ++ handed (s.mFormats e.readerIndex) r }
            (if 0 < s.waitUs (clock s.reads) next then s.waitUs (clock s.reads) next * 1000 else 1)
        else { s with
          mReaders := readers
          mPending := pending
          mHeap := heap
          log := s.log ++ handed (s.mFormats e.readerIndex) r } := by
    rw [deliver]
    simp only [hand_eq, hpending, hframe]
    cases pq.top heap <;> rfl
  rw [hdeliver]
  cases hnext : pq.top heap with
  | none =>
    refine ⟨⟨hrefill.mem_heap, hrefill.nodup, hrefill.pending⟩, ⟨rfl, rfl, rfl, rfl⟩, ?_⟩
    simp only [TbinInput.complete, hnext]
    exact ⟨⟨rfl, htimer⟩, trivial⟩
  | some next =>
    dsimp only
    by_cases hmode : s.mRealtimeMode
    · rw [if_pos hmode]
      refine ⟨⟨hrefill.mem_heap, hrefill.nodup, hrefill.pending⟩, ⟨rfl, rfl, rfl, rfl⟩, ?_⟩
      simp only [TbinInput.restart, hnext, GoesOn, hmode, if_true]
      trivial
    · rw [if_neg hmode]
      refine ⟨⟨hrefill.mem_heap, hrefill.nodup, hrefill.pending⟩, ⟨rfl, rfl, rfl, rfl⟩, ?_⟩
      simp only [hnext, GoesOn, hmode]
      trivial

/-! ### The wait -/

/-- The most microseconds that a timer of `int64_t` nanoseconds can wait. -/
def maxSpan : ℤ := 9223372036854775

/-- A steady clock, far from the end of its range. -/
structure SteadyClock (clock : ℕ → Int64) : Prop where
  mono : ∀ {i j}, i ≤ j → (clock i).toInt ≤ (clock j).toInt
  nonneg : ∀ i, 0 ≤ (clock i).toInt
  lt : ∀ i, (clock i).toInt < 2 ^ 62

theorem toInt_sub_of_range {a b : Int64} (hlow : -2 ^ 63 ≤ a.toInt - b.toInt)
    (hhigh : a.toInt - b.toInt < 2 ^ 63) : (a - b).toInt = a.toInt - b.toInt := by
  rw [Int64.toInt_sub, Int.bmod_eq_of_le (by omega) (by omega)]

/-- The replay in real time has begun at a reading of the clock, and no time is too far from the
first one. -/
def Begun (clock : ℕ → Int64) (s : TbinInput pq) (rest : ℕ → List Message) : Prop :=
  (∃ k < s.reads, s.mStartWallUs = clock k) ∧
    ∀ i, ∀ r ∈ rest i, |s.key i r - s.mFirstTimestampUs.toInt| ≤ maxSpan

/-- The wait of a head is the number that it is meant to be. -/
theorem toInt_waitUs {clock : ℕ → Int64} (hclock : SteadyClock clock) {s : TbinInput pq}
    {rest : ℕ → List Message} (h : Holds s rest) (hbegun : Begun clock s rest) {e : Entry}
    (htop : pq.top s.mHeap = some e) :
    (s.waitUs (clock s.reads) e).toInt = (e.key - s.mFirstTimestampUs.toInt) -
      ((clock s.reads).toInt - s.mStartWallUs.toInt) ∧
      (s.waitUs (clock s.reads) e).toInt ≤ maxSpan := by
  obtain ⟨⟨r, tail, hcons, htime, -⟩, -⟩ := h.pop htop
  obtain ⟨⟨k, hk, hstart⟩, hspan⟩ := hbegun
  have hkey : s.key e.readerIndex r = e.key := by rw [key, Entry.key, htime]
  have hfar := abs_le.1 (hspan e.readerIndex r (by rw [hcons]; exact List.mem_cons_self))
  have hmono := hclock.mono hk.le
  have hnow := hclock.lt s.reads
  have hnonneg := hclock.nonneg k
  rw [hkey] at hfar
  rw [Entry.key] at hfar ⊢
  rw [maxSpan] at hfar ⊢
  have hfirst := toInt_sub_of_range (a := e.timestampUs) (b := s.mFirstTimestampUs) (by omega)
    (by omega)
  have hwall := toInt_sub_of_range (a := clock s.reads) (b := s.mStartWallUs)
    (by rw [hstart]; omega) (by rw [hstart]; omega)
  rw [hstart] at hwall
  have hwait := toInt_sub_of_range (a := e.timestampUs - s.mFirstTimestampUs)
    (b := clock s.reads - s.mStartWallUs) (by rw [hfirst, hstart, hwall]; omega)
    (by rw [hfirst, hstart, hwall]; omega)
  rw [hfirst, hstart, hwall] at hwait
  rw [waitUs, hstart, hwait]
  omega

/-- The timer that is set for a wait runs for it. -/
theorem arm_wait {w : Int64} (hw : w.toInt ≤ maxSpan) :
    ∃ d, arm (if 0 < w then w * 1000 else 1) = some d ∧ w.toInt ≤ d.toInt / 1000 := by
  have hzero : (0 : Int64).toInt = 0 := rfl
  rw [maxSpan] at hw
  by_cases hpos : 0 < w
  · have hint : 0 < w.toInt := Int64.lt_iff_toInt_lt.1 hpos
    have hmul : (w * 1000).toInt = w.toInt * 1000 := by
      have hthousand : (1000 : Int64).toInt = 1000 := rfl
      rw [Int64.toInt_mul, hthousand]
      exact Int.bmod_eq_of_le (by omega) (by omega)
    refine ⟨w * 1000, ?_, by rw [hmul]; omega⟩
    rw [if_pos hpos, arm, if_neg, if_neg]
    · intro hnone
      rw [hnone] at hmul
      omega
    · rw [Int64.lt_iff_toInt_lt, hmul]
      omega
  · refine ⟨1, ?_, ?_⟩
    · rw [if_neg hpos]
      rfl
    · rw [Int64.lt_iff_toInt_lt] at hpos
      have hone : (1 : Int64).toInt = 1 := rfl
      omega

/-! ### The replay -/

/-- In front of a round that does not wait. -/
structure Ready (clock : ℕ → Int64) (s : TbinInput pq) : Prop where
  atNext : s.atNextMessage = true
  timer : s.timer = none
  nonempty : pq.top s.mHeap ≠ none
  due : s.mRealtimeMode = true → s.mStarted = true → ∀ e, pq.top s.mHeap = some e →
    e.key - s.mFirstTimestampUs.toInt ≤ (clock s.reads).toInt - s.mStartWallUs.toInt

/-- The timer runs until the next entry is due, at least. -/
structure Waiting (clock : ℕ → Int64) (s : TbinInput pq) : Prop where
  atNext : s.atNextMessage = false
  timer : ∃ d, s.timer = some d ∧
    (s.mRealtimeMode = true → s.mStarted = true → 0 < s.reads ∧ ∀ e, pq.top s.mHeap = some e →
      e.key - s.mFirstTimestampUs.toInt ≤
        (clock (s.reads - 1)).toInt + d.toInt / 1000 - s.mStartWallUs.toInt)

/-- The timer calls back no earlier than it is set for, by the same clock. -/
def Honest (clock : ℕ → Int64) (s : TbinInput pq) : Prop :=
  ∀ d, s.timer = some d → 0 < s.reads →
    (clock (s.reads - 1)).toInt + d.toInt / 1000 ≤ (clock s.reads).toInt

/-- The times of the records are not too far apart for a timer. -/
def Near (s : TbinInput pq) (rest : ℕ → List Message) : Prop :=
  ∀ i, ∀ r ∈ rest i, ∀ j, ∀ r' ∈ rest j, |s.key i r - s.key j r'| ≤ maxSpan

/-- What the replay in real time keeps. -/
def Paced (clock : ℕ → Int64) (s : TbinInput pq) (rest : ℕ → List Message) : Prop :=
  s.mRealtimeMode = true → Near s rest ∧ (s.mStarted = true → Begun clock s rest)

/-- The timer is over. -/
theorem step_waiting {clock : ℕ → Int64} {s : TbinInput pq} (h : Waiting clock s)
    (hhonest : Honest clock s) :
    s.step clock = (if pq.top s.mHeap = none then ({ s with timer := none } : TbinInput pq).complete
      else { s with timer := none, atNextMessage := true }) ∧
    (pq.top s.mHeap ≠ none →
      Ready clock { s with timer := none, atNextMessage := true }) := by
  obtain ⟨d, htimer, hwait⟩ := h.timer
  constructor
  · rw [step, if_neg (by rw [h.atNext]; exact Bool.false_ne_true), htimer]
  · intro htop
    refine ⟨rfl, rfl, htop, fun hmode hstarted e he => ?_⟩
    obtain ⟨hreads, hdue⟩ := hwait hmode hstarted
    have htime := hhonest d htimer hreads
    have hentry := hdue e he
    simp only
    omega

/-- The state with the members that the replay in real time begins with. -/
def withStart (s : TbinInput pq) (reads : ℕ) (first start : Int64) : TbinInput pq :=
  { s with reads := reads, mFirstTimestampUs := first, mStartWallUs := start, mStarted := true }

/-- Behind `begin` the replay has begun, and the entry is due. -/
theorem begin_spec {clock : ℕ → Int64} (hclock : SteadyClock clock) {s : TbinInput pq}
    {rest : ℕ → List Message} (h : Holds s rest) (hready : Ready clock s)
    (hmode : s.mRealtimeMode = true) (hpaced : Paced clock s rest) {e : Entry}
    (htop : pq.top s.mHeap = some e) :
    ∃ reads first start, s.begin clock e = s.withStart reads first start ∧
      Begun clock (s.withStart reads first start) rest ∧
      e.key - first.toInt ≤ (clock reads).toInt - start.toInt := by
  obtain ⟨hnear, hbegun⟩ := hpaced hmode
  cases hstarted : s.mStarted with
  | true =>
    have heta : s.withStart s.reads s.mFirstTimestampUs s.mStartWallUs = s := by
      rw [withStart, ← hstarted]
    refine ⟨s.reads, s.mFirstTimestampUs, s.mStartWallUs, ?_, ?_,
      hready.due hmode hstarted e htop⟩
    · rw [heta, TbinInput.begin, if_pos hstarted]
    · rw [heta]
      exact hbegun hstarted
  | false =>
    obtain ⟨⟨r, tail, hcons, htime, -⟩, -⟩ := h.pop htop
    have hkey : s.key e.readerIndex r = e.timestampUs.toInt := by rw [key, htime]
    refine ⟨s.reads + 1, e.timestampUs, clock s.reads, ?_, ⟨⟨s.reads, Nat.lt_succ_self _, rfl⟩,
      fun i r' hr' => ?_⟩, ?_⟩
    · rw [TbinInput.begin, if_neg (by rw [hstarted]; exact Bool.false_ne_true)]
      rfl
    · have hfar := hnear i r' hr' e.readerIndex r (by rw [hcons]; exact List.mem_cons_self)
      rwa [hkey] at hfar
    · have hmono : (clock s.reads).toInt ≤ (clock (s.reads + 1)).toInt :=
        hclock.mono (Nat.le_succ _)
      rw [Entry.key]
      omega

/-- **A round in real time that is due** does not wait. -/
theorem round_due {clock : ℕ → Int64} (hclock : SteadyClock clock) {s : TbinInput pq}
    {rest : ℕ → List Message} (h : Holds s rest) (hready : Ready clock s)
    (hmode : s.mRealtimeMode = true) (hpaced : Paced clock s rest) {e : Entry}
    (htop : pq.top s.mHeap = some e)
    (hpast : ¬(0 < s.mStopTimeUs ∧ s.mStopTimeUs < e.timestampUs)) :
    ∃ reads first start, s.round clock = (s.withStart reads first start).deliver clock e ∧
      Begun clock (s.withStart reads first start) rest := by
  obtain ⟨reads, first, start, hbegin, hbegun, hdue⟩ := begin_spec hclock h hready hmode hpaced htop
  have hholds : Holds (s.withStart reads first start) rest := ⟨h.mem_heap, h.nodup, h.pending⟩
  have hwait := (toInt_waitUs hclock hholds hbegun htop).1
  have hlate : ¬1000 < (s.withStart reads first start).waitUs (clock reads) e := by
    have hthousand : (1000 : Int64).toInt = 1000 := rfl
    change _ = (e.key - first.toInt) - ((clock reads).toInt - start.toInt) at hwait
    change ((s.withStart reads first start).waitUs (clock reads) e).toInt = _ at hwait
    rw [Int64.lt_iff_toInt_lt, hthousand, hwait]
    omega
  refine ⟨reads + 1, first, start, ?_, ?_⟩
  · rw [round, htop]
    simp only [if_neg hpast, hmode, if_true, hbegin]
    exact if_neg hlate
  · obtain ⟨⟨k, hk, hstart⟩, hspan⟩ := hbegun
    exact ⟨⟨k, Nat.lt_succ_of_lt hk, hstart⟩, hspan⟩

theorem past_iff (stop : Int64) (e : Entry) :
    (0 < stop ∧ stop < e.timestampUs) ↔ Past stop e.key := by
  rw [Int64.lt_iff_toInt_lt, Int64.lt_iff_toInt_lt]
  rfl

theorem SameReplay.key_eq {s s' : TbinInput pq} (h : SameReplay s s') : s'.key = s.key := by
  funext i m
  rw [key, key, h.shifts]

theorem mem_of_mem_update {rest : ℕ → List Message} {i : ℕ} {r : Message} {tail : List Message}
    (hcons : rest i = r :: tail) {j : ℕ} {m : Message}
    (hm : m ∈ Function.update rest i tail j) : m ∈ rest j := by
  by_cases hij : j = i
  · rw [hij, Function.update_self] at hm
    rw [hij, hcons]
    exact List.mem_cons_of_mem _ hm
  · rwa [Function.update_of_ne hij] at hm

/-- How the replay goes on behind a record. -/
def Continues (clock : ℕ → Int64) (s : TbinInput pq) (rest : ℕ → List Message) : Prop :=
  (Ready clock s ∨ Waiting clock s) ∧ Paced clock s rest ∧ pq.top s.mHeap ≠ none

/-- `deliver` in real time sets the timer for the next entry. -/
theorem continues_of_goesOn {clock : ℕ → Int64} (hclock : SteadyClock clock) {s s' : TbinInput pq}
    {rest rest' : ℕ → List Message}
    (hbegun : s.mRealtimeMode = true → Near s rest ∧ Begun clock s rest)
    (hat : s.atNextMessage = true) (htimer : s.timer = none) (h' : Holds s' rest')
    (hsub : ∀ j, ∀ m ∈ rest' j, m ∈ rest j) (hsame : SameReplay s s') {e : Entry}
    (htop : pq.top s'.mHeap = some e) (hgoes : GoesOn clock s s' e) : Continues clock s' rest' := by
  have hnonempty : pq.top s'.mHeap ≠ none := by
    rw [htop]
    exact Option.some_ne_none e
  rw [GoesOn] at hgoes
  by_cases hmode : s.mRealtimeMode = true
  · obtain ⟨hnear, ⟨k, hk, hstart⟩, hspan⟩ := hbegun hmode
    rw [if_pos hmode] at hgoes
    obtain ⟨hat', hreads, hfirst, hwall, -, htimer'⟩ := hgoes
    have hbegun' : Begun clock s' rest' := by
      refine ⟨⟨k, by omega, hwall.trans hstart⟩, fun i r hr => ?_⟩
      rw [hsame.key_eq, hfirst]
      exact hspan i r (hsub i r hr)
    -- the wait, in the state that the clock is read in
    have hearlier : Begun clock ({ s' with reads := s.reads } : TbinInput pq) rest' :=
      ⟨⟨k, hk, hwall.trans hstart⟩, hbegun'.2⟩
    have hwait := toInt_waitUs hclock (s := { s' with reads := s.reads })
      ⟨h'.mem_heap, h'.nodup, h'.pending⟩ hearlier htop
    have hsamewait : s.waitUs (clock s.reads) e =
        ({ s' with reads := s.reads } : TbinInput pq).waitUs (clock s.reads) e := by
      rw [waitUs, waitUs, hfirst, hwall]
    rw [hsamewait] at htimer'
    obtain ⟨d, hd, hlong⟩ := arm_wait hwait.2
    refine ⟨.inr ⟨hat', d, htimer'.trans hd, fun _ _ => ⟨by omega, fun e' he' => ?_⟩⟩, ?_,
      hnonempty⟩
    · obtain rfl := Option.some.inj (htop.symm.trans he')
      have hlast : s'.reads - 1 = s.reads := by omega
      rw [hlast]
      have hexact : _ = (e.key - s'.mFirstTimestampUs.toInt) -
        ((clock s.reads).toInt - s'.mStartWallUs.toInt) := hwait.1
      omega
    · refine fun _ => ⟨fun i r hr j r' hr' => ?_, fun _ => hbegun'⟩
      rw [hsame.key_eq]
      exact hnear i r (hsub i r hr) j r' (hsub j r' hr')
  · rw [if_neg hmode] at hgoes
    have hmode' : ¬s'.mRealtimeMode = true := by rwa [hsame.realtime]
    exact ⟨.inl ⟨hgoes.1.trans hat, hgoes.2.trans htimer, hnonempty, fun h => absurd h hmode'⟩,
      fun h => absurd h hmode', hnonempty⟩

/-- **One round**: the replay is complete at the stop time, or hands on a head of the least time and
is complete with the last record, or goes on. -/
theorem round_spec {clock : ℕ → Int64} (hclock : SteadyClock clock) {s : TbinInput pq}
    {rest : ℕ → List Message} (h : Holds s rest) (hready : Ready clock s)
    (hpaced : Paced clock s rest) :
    ∃ e : Entry, (∀ j r', (rest j).head? = some r' → e.key ≤ s.key j r') ∧
      ((Past s.mStopTimeUs e.key ∧ s.round clock = s.complete) ∨
      (¬Past s.mStopTimeUs e.key ∧ ∃ r tail, rest e.readerIndex = r :: tail ∧
        s.key e.readerIndex r = e.key ∧
        Holds (s.round clock) (Function.update rest e.readerIndex tail) ∧
        SameReplay s (s.round clock) ∧
        ((pq.top (s.round clock).mHeap = none ∧ Idle (s.round clock) ∧ (s.round clock).log =
            s.log ++ handed (s.mFormats e.readerIndex) r ++ [.completed]) ∨
          (Continues clock (s.round clock) (Function.update rest e.readerIndex tail) ∧
            (s.round clock).log = s.log ++ handed (s.mFormats e.readerIndex) r)))) := by
  obtain ⟨e, htop⟩ := Option.ne_none_iff_exists'.1 hready.nonempty
  refine ⟨e, (h.pop htop).2.1, ?_⟩
  by_cases hpast : 0 < s.mStopTimeUs ∧ s.mStopTimeUs < e.timestampUs
  · refine .inl ⟨(past_iff _ _).1 hpast, ?_⟩
    rw [round, htop]
    exact if_pos hpast
  · refine .inr ⟨fun hp => hpast ((past_iff _ _).2 hp), ?_⟩
    -- the state that the record is delivered in
    obtain ⟨s₀, hround, hholds, hsame₀, hlog, htop₀, htimer, hat, hbegun⟩ : ∃ s₀ : TbinInput pq,
        s.round clock = s₀.deliver clock e ∧ Holds s₀ rest ∧ SameReplay s s₀ ∧ s₀.log = s.log ∧
        pq.top s₀.mHeap = some e ∧ s₀.timer = none ∧ s₀.atNextMessage = true ∧
        (s₀.mRealtimeMode = true → Near s₀ rest ∧ Begun clock s₀ rest) := by
      by_cases hmode : s.mRealtimeMode = true
      · obtain ⟨reads, first, start, hround, hbegun⟩ :=
          round_due hclock h hready hmode hpaced htop hpast
        exact ⟨_, hround, ⟨h.mem_heap, h.nodup, h.pending⟩, ⟨rfl, rfl, rfl, rfl⟩, rfl, htop,
          hready.timer, hready.atNext, fun _ => ⟨(hpaced hmode).1, hbegun⟩⟩
      · refine ⟨s, ?_, h, ⟨rfl, rfl, rfl, rfl⟩, rfl, htop, hready.timer, hready.atNext,
          fun hm => absurd hm hmode⟩
        rw [round, htop]
        simp only [if_neg hpast, hmode]
        rfl
    obtain ⟨r, tail, hcons, hkey, -, hholds', hsame, hend⟩ :=
      deliver_spec clock hholds htop₀ htimer
    rw [← hround] at hholds' hsame hend
    refine ⟨r, tail, hcons, by rw [← hsame₀.key_eq]; exact hkey, hholds', hsame₀.trans hsame, ?_⟩
    rw [hlog, hsame₀.formats] at hend
    cases hnext : pq.top (s.round clock).mHeap with
    | none =>
      rw [hnext] at hend
      exact .inl ⟨rfl, hend⟩
    | some e' =>
      rw [hnext] at hend
      exact .inr ⟨continues_of_goesOn hclock hbegun hat htimer hholds'
        (fun j m hm => mem_of_mem_update hcons hm) hsame hnext hend.1, hend.2⟩

end TbinInput

end SuplLpp.Tbin
