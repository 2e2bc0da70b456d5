import SuplLpp.Tbin.Input

/-!
# What a replay delivers

* `Tape`: a recording with the format and the shift that it is replayed with;
* `Loaded`: what the constructor makes of a list of tapes;
* `replays`: from a heap with the heads, the loop and the timer merge what is left;
* `Replayed`, `replay`: what a whole replay delivers.
-/

namespace SuplLpp.Tbin

open Merge

structure Tape where
  recording : Recording
  format : InputFormat
  shiftUs : Int64

namespace Tape

def source (t : Tape) : Source := ⟨some t.recording.bytes, t.format, t.shiftUs⟩

end Tape

/-- What the tape of an index has, if there is one. -/
def ofTape {β : Type} (f : Tape → β) (default : β) (tapes : List Tape) (i : ℕ) : β :=
  (tapes[i]?).elim default f

theorem ofTape_append {β : Type} (f : Tape → β) (default : β) (tapes : List Tape) (t : Tape) :
    ofTape f default (tapes ++ [t]) =
      Function.update (ofTape f default tapes) tapes.length (f t) := by
  funext i
  by_cases hi : i = tapes.length
  · rw [hi, Function.update_self, ofTape, List.getElem?_concat_length]
    rfl
  · rw [Function.update_of_ne hi, ofTape, ofTape]
    rcases Nat.lt_or_gt_of_ne hi with hlt | hgt
    · rw [List.getElem?_append_left hlt]
    · rw [List.getElem?_eq_none (by rw [List.length_append]; exact hgt),
        List.getElem?_eq_none hgt.le]

theorem ofTape_length {β : Type} (f : Tape → β) (default : β) {tapes : List Tape} {i : ℕ}
    (hi : tapes.length ≤ i) : ofTape f default tapes i = default := by
  rw [ofTape, List.getElem?_eq_none hi]
  rfl

/-- The records of the tapes. -/
def recordsOf : List Tape → ℕ → List Message := ofTape (·.recording.records) []

def formatOf : List Tape → ℕ → InputFormat := ofTape (·.format) 0

def shiftOf : List Tape → ℕ → Int64 := ofTape (·.shiftUs) 0

/-- The time of a record of a tape, shifted. -/
def timeOf (tapes : List Tape) (i : ℕ) (m : Message) : ℤ :=
  m.timestampUs.toInt + (shiftOf tapes i).toInt

namespace TbinInput

variable {pq : PriorityQueue Entry.key}

/-! ### The constructor -/

/-- The constructor has opened these tapes. -/
structure Loaded (realtime : Bool) (stop : Int64) (tapes : List Tape) (s : TbinInput pq) :
    Prop where
  holds : Holds s (recordsOf tapes)
  fresh : ∀ i, tapes.length ≤ i → s.mReaders i = Reader.new
  formats : s.mFormats = formatOf tapes
  shifts : s.mShifts = shiftOf tapes
  realtime : s.mRealtimeMode = realtime
  stop : s.mStopTimeUs = stop
  started : s.mStarted = false
  atNext : s.atNextMessage = false
  reads : s.reads = 0
  log : s.log = []

theorem refill_readers_of_ne (s : TbinInput pq) {i j : ℕ} (hij : j ≠ i) :
    (s.refill i).mReaders j = s.mReaders j := by
  rw [refill]
  dsimp only
  split
  · exact Function.update_of_ne hij _ _
  · exact Function.update_of_ne hij _ _

/-- One more tape. -/
theorem Loaded.addSource {realtime : Bool} {stop : Int64} {tapes : List Tape} {s : TbinInput pq}
    (h : Loaded realtime stop tapes s) (t : Tape) :
    Loaded realtime stop (tapes ++ [t]) (s.addSource tapes.length t.source) := by
  obtain ⟨streamId, hopen⟩ := Reader.open_recording t.recording
  have hnil : recordsOf tapes tapes.length = [] := ofTape_length _ _ le_rfl
  -- the members behind `open`
  obtain ⟨s', hs'⟩ : ∃ s' : TbinInput pq, s' = { s with
      mFormats := Function.update s.mFormats tapes.length t.format
      mShifts := Function.update s.mShifts tapes.length t.shiftUs
      mReaders := Function.update s.mReaders tapes.length
        ⟨some (t.recording.records.flatMap Writer.writeBytes ++ t.recording.cut), streamId,
          false⟩ } :=
    ⟨_, rfl⟩
  have hadd : s.addSource tapes.length t.source = s'.refill tapes.length := by
    rw [TbinInput.addSource, h.fresh _ le_rfl, Tape.source, hopen, hs']
    rfl
  have hholds : Holds s' (recordsOf tapes) := by
    have hne : ∀ {i r tail}, recordsOf tapes i = r :: tail → i ≠ tapes.length := by
      rintro i r tail hcons rfl
      rw [hnil] at hcons
      cases hcons
    rw [hs']
    refine ⟨fun e => (h.holds.mem_heap e).trans ?_, h.holds.nodup, fun i r tail hcons => ?_⟩
    · refine exists_congr fun r => exists_congr fun tail => and_congr_right fun hcons => ?_
      simp only [Function.update_of_ne (hne hcons)]
    · simp only [Function.update_of_ne (hne hcons)]
      exact h.holds.pending i r tail hcons
  have hreads : Reads (s'.mReaders tapes.length) t.recording.records := by
    rw [hs']
    exact ⟨streamId, t.recording.cut, Function.update_self _ _ _, t.recording.short,
      t.recording.unfinished⟩
  have hrefill := hholds.refill hnil hreads
  obtain ⟨readers, pending, heap, hframe⟩ := refill_frame s' tapes.length
  have hreaders : ∀ i, i ≠ tapes.length → (s'.refill tapes.length).mReaders i = s.mReaders i := by
    intro i hi
    rw [refill_readers_of_ne s' hi, hs']
    exact Function.update_of_ne hi _ _
  rw [hadd]
  refine ⟨?_, fun i hi => ?_, ?_, ?_, ?_, ?_, ?_, ?_, ?_, ?_⟩
  · rwa [recordsOf, ofTape_append]
  · rw [List.length_append, List.length_singleton] at hi
    rw [hreaders i (by omega)]
    exact h.fresh i (by omega)
  · rw [formatOf, ofTape_append, ← formatOf, ← h.formats, hframe, hs']
  · rw [shiftOf, ofTape_append, ← shiftOf, ← h.shifts, hframe, hs']
  · rw [hframe, hs']
    exact h.realtime
  · rw [hframe, hs']
    exact h.stop
  · rw [hframe, hs']
    exact h.started
  · rw [hframe, hs']
    exact h.atNext
  · rw [hframe, hs']
    exact h.reads
  · rw [hframe, hs']
    exact h.log

/-- The loop of the constructor has every tape. -/
theorem loaded_foldl (tapes : List Tape) (realtime : Bool) (stop : Int64) :
    Loaded realtime stop tapes
      ((tapes.map Tape.source).zipIdx.foldl (fun s source => s.addSource source.2 source.1)
        (blank realtime stop : TbinInput pq)) := by
  induction tapes using List.reverseRecOn with
  | nil =>
    refine ⟨⟨fun e => ?_, ?_, fun i r tail h => by cases h⟩, fun _ _ => rfl, rfl, rfl, rfl, rfl,
      rfl, rfl, rfl, rfl⟩
    · simp [blank, pq.contents_empty, recordsOf, ofTape]
    · simp [blank, pq.contents_empty]
  | append_singleton tapes t ih =>
    rw [List.map_append, List.zipIdx_append, List.foldl_append, List.length_map, Nat.zero_add]
    exact ih.addSource t

/-- **The constructor** has every tape. -/
theorem loaded_new (tapes : List Tape) (realtime : Bool) (stop : Int64) :
    Loaded realtime stop tapes (new (tapes.map Tape.source) realtime stop : TbinInput pq) :=
  let h := loaded_foldl tapes realtime stop
  ⟨⟨h.holds.mem_heap, h.holds.nodup, h.holds.pending⟩, h.fresh, h.formats, h.shifts, h.realtime,
    h.stop, h.started, h.atNext, h.reads, h.log⟩

/-! ### The run -/

/-- So many records are left. -/
def Left (rest : ℕ → List Message) (n : ℕ) : Prop :=
  ∃ bound, (∀ i, bound ≤ i → rest i = []) ∧ ∑ i ∈ Finset.range bound, (rest i).length = n

theorem left_recordsOf (tapes : List Tape) : ∃ n, Left (recordsOf tapes) n :=
  ⟨_, tapes.length, fun _ hi => ofTape_length _ _ hi, rfl⟩

/-- One record less. -/
theorem Left.update {rest : ℕ → List Message} {n i : ℕ} {r : Message} {tail : List Message}
    (h : Left rest n) (hcons : rest i = r :: tail) :
    ∃ n', n = n' + 1 ∧ Left (Function.update rest i tail) n' := by
  obtain ⟨bound, hnil, hsum⟩ := h
  have hi : i ∈ Finset.range bound := by
    rw [Finset.mem_range]
    by_contra hge
    rw [hnil i (by omega)] at hcons
    cases hcons
  have hbefore := Finset.add_sum_erase _ (fun i => (rest i).length) hi
  have hafter := Finset.add_sum_erase _ (fun j => (Function.update rest i tail j).length) hi
  have hothers : ∑ j ∈ (Finset.range bound).erase i, (Function.update rest i tail j).length =
      ∑ j ∈ (Finset.range bound).erase i, (rest j).length := by
    refine Finset.sum_congr rfl fun j hj => ?_
    rw [Function.update_of_ne (Finset.ne_of_mem_erase hj)]
  simp only [hcons, List.length_cons] at hbefore
  simp only [Function.update_self] at hafter
  refine ⟨_, ?_, bound, fun j hj => ?_, rfl⟩
  · rw [← hsum, ← hbefore, ← hafter, hothers]
    omega
  · rw [Function.update_of_ne (by rintro rfl; rw [Finset.mem_range] at hi; omega)]
    exact hnil j hj

/-- The heap is empty when nothing is left. -/
theorem Holds.eq_nil {s : TbinInput pq} {rest : ℕ → List Message} (h : Holds s rest)
    (htop : pq.top s.mHeap = none) (i : ℕ) : rest i = [] := by
  cases hrest : rest i with
  | nil => rfl
  | cons r tail =>
    have hmem := (h.mem_heap ⟨r.timestampUs + s.mShifts i, i⟩).2 ⟨r, tail, hrest, rfl⟩
    rw [pq.top_eq_none_iff.1 htop] at hmem
    cases hmem

/-- What is left has been replayed after some steps: it is merged, and the loop and the timer have
stopped. -/
def Ends (clock : ℕ → Int64) (s : TbinInput pq) (rest : ℕ → List Message) : Prop :=
  ∃ k out, Merges s.key (Past s.mStopTimeUs) rest out ∧ Idle ((step clock)^[k] s) ∧
    ((step clock)^[k] s).log =
      s.log ++ (out.flatMap fun a => handed (s.mFormats a.1) a.2) ++ [.completed]

theorem merges_nil {key : ℕ → Message → ℤ} {past : ℤ → Prop} {rest : ℕ → List Message}
    (h : ∀ i, rest i = []) : Merges key past rest [] :=
  .stop fun i r hr => by rw [h i] at hr; cases hr

/-- The end of the replay, from behind a step that delivers nothing. -/
theorem Ends.of_step {clock : ℕ → Int64} {s : TbinInput pq} {rest : ℕ → List Message}
    (h : Ends clock (s.step clock) rest) (hsame : SameReplay s (s.step clock))
    (hlog : (s.step clock).log = s.log) : Ends clock s rest := by
  obtain ⟨k, out, hmerges, hidle, hend⟩ := h
  refine ⟨k + 1, out, ?_, hidle, ?_⟩
  · rwa [← hsame.key_eq, ← hsame.stop]
  · rw [← hlog, ← hsame.formats]
    exact hend

/-- From the end of a replay that begins behind a record to that of one that begins with it. -/
theorem Ends.cons {clock : ℕ → Int64} {s : TbinInput pq} {rest : ℕ → List Message} {i : ℕ}
    {r : Message} {tail : List Message} (hcons : rest i = r :: tail)
    (hpast : ¬Past s.mStopTimeUs (s.key i r))
    (hleast : ∀ j r', (rest j).head? = some r' → s.key i r ≤ s.key j r')
    (hsame : SameReplay s (s.step clock))
    (hlog : (s.step clock).log = s.log ++ handed (s.mFormats i) r)
    (h : Ends clock (s.step clock) (Function.update rest i tail)) : Ends clock s rest := by
  obtain ⟨k, out, hmerges, hidle, hend⟩ := h
  refine ⟨k + 1, (i, r) :: out, .next hcons hpast hleast ?_, hidle, ?_⟩
  · rwa [← hsame.key_eq, ← hsame.stop]
  · have hend' : ((step clock)^[k + 1] s).log = _ := hend
    rw [hend', hlog, hsame.formats, List.flatMap_cons]
    simp only [List.append_assoc]

/-- The replay is between two records, and the timer will be on time. -/
structure Replaying (clock : ℕ → Int64) (s : TbinInput pq) (rest : ℕ → List Message) : Prop where
  holds : Holds s rest
  paced : Paced clock s rest
  next : Ready clock s ∨ Waiting clock s
  honest : ∀ k, Honest clock ((step clock)^[k] s)

theorem past_mono {stop : Int64} {a b : ℤ} (hab : a ≤ b) (h : Past stop a) : Past stop b :=
  ⟨h.1, h.2.trans_le hab⟩

/-- From a round that does not wait, when the replay ends from behind it. -/
theorem ends_of_ready {clock : ℕ → Int64} (hclock : SteadyClock clock) {s : TbinInput pq}
    {rest : ℕ → List Message} (h : Replaying clock s rest) (hready : Ready clock s)
    (hafter : ∀ {i r tail}, rest i = r :: tail →
      Replaying clock (s.step clock) (Function.update rest i tail) →
      Ends clock (s.step clock) (Function.update rest i tail)) : Ends clock s rest := by
  have hstep : s.step clock = s.round clock := if_pos hready.atNext
  obtain ⟨e, hleast, ⟨hpast, hround⟩ | ⟨hpast, r, tail, hcons, hkey, hholds, hsame, hend⟩⟩ :=
    round_spec hclock h.holds hready h.paced
  · refine ⟨1, [], .stop fun i r hr => past_mono (hleast i r hr) hpast, ?_, ?_⟩
    · rw [Function.iterate_one, hstep, hround]
      exact ⟨rfl, hready.timer⟩
    · rw [Function.iterate_one, hstep, hround, List.flatMap_nil, List.append_nil]
      rfl
  · rw [← hkey] at hpast hleast
    rw [← hstep] at hholds hsame hend
    rcases hend with ⟨htop, hidle, hlog⟩ | ⟨⟨hnext, hpaced, -⟩, hlog⟩
    · exact ⟨1, [(e.readerIndex, r)], .next hcons hpast hleast (merges_nil (hholds.eq_nil htop)),
        hidle, by rw [Function.iterate_one, hlog, List.flatMap_singleton]⟩
    · exact Ends.cons hcons hpast hleast hsame hlog
        (hafter hcons ⟨hholds, hpaced, hnext, fun k => h.honest (k + 1)⟩)

/-- From the timer, when the replay ends from the round that it begins. -/
theorem ends_of_waiting {clock : ℕ → Int64} {s : TbinInput pq} {rest : ℕ → List Message}
    (h : Replaying clock s rest) (hwaiting : Waiting clock s)
    (hafter : Replaying clock (s.step clock) rest → Ready clock (s.step clock) →
      Ends clock (s.step clock) rest) : Ends clock s rest := by
  obtain ⟨hstep, hready⟩ := step_waiting hwaiting (h.honest 0)
  by_cases htop : pq.top s.mHeap = none
  · rw [if_pos htop] at hstep
    refine ⟨1, [], merges_nil (h.holds.eq_nil htop), ?_, ?_⟩
    · rw [Function.iterate_one, hstep]
      exact ⟨rfl, rfl⟩
    · rw [Function.iterate_one, hstep, List.flatMap_nil, List.append_nil]
      rfl
  · rw [if_neg htop] at hstep
    have hnow := hready htop
    rw [← hstep] at hnow
    refine (hafter ⟨?_, ?_, .inl hnow, fun k => h.honest (k + 1)⟩ hnow).of_step ?_ ?_
    · rw [hstep]
      exact ⟨h.holds.mem_heap, h.holds.nodup, h.holds.pending⟩
    · rw [hstep]
      exact h.paced
    · rw [hstep]
      exact ⟨rfl, rfl, rfl, rfl⟩
    · rw [hstep]

/-- **Whatever is left is replayed.** -/
theorem replays {clock : ℕ → Int64} (hclock : SteadyClock clock) {n : ℕ} :
    ∀ {s : TbinInput pq} {rest : ℕ → List Message}, Left rest n → Replaying clock s rest →
      Ends clock s rest := by
  induction n using Nat.strong_induction_on with
  | _ n ih =>
    intro s rest hleft h
    have hround : ∀ {s' : TbinInput pq}, Replaying clock s' rest → Ready clock s' →
        Ends clock s' rest := by
      intro s' h' hready
      refine ends_of_ready hclock h' hready fun hcons hnext => ?_
      obtain ⟨n', hn, hleft'⟩ := hleft.update hcons
      exact ih n' (by omega) hleft' hnext
    rcases h.next with hready | hwaiting
    · exact hround h hready
    · exact ends_of_waiting h hwaiting hround

/-- Nothing follows the end. -/
theorem Idle.step_iterate {clock : ℕ → Int64} {s : TbinInput pq} (h : Idle s) (n : ℕ) :
    (step clock)^[n] s = s := by
  refine Function.iterate_fixed ?_ n
  rw [step, if_neg (by rw [h.1]; exact Bool.false_ne_true), h.2]

end TbinInput

/-! ### The whole replay -/

/-- The times of the records, shifted, are numbers of the type. -/
def InRange (tapes : List Tape) : Prop :=
  ∀ i, ∀ m ∈ recordsOf tapes i, -2 ^ 63 ≤ timeOf tapes i m ∧ timeOf tapes i m < 2 ^ 63

/-- No two records are too far apart for a timer of nanoseconds. -/
def Spanned (tapes : List Tape) : Prop :=
  ∀ i, ∀ m ∈ recordsOf tapes i, ∀ j, ∀ m' ∈ recordsOf tapes j,
    |timeOf tapes i m - timeOf tapes j m'| ≤ TbinInput.maxSpan

/-- The order that records are handed on in: that of their shifted times, and for each tape the
records that are not after the stop time, in the order of the file. -/
structure Replayed (tapes : List Tape) (stop : Int64) (order : List (ℕ × Message)) : Prop where
  ordered : order.Pairwise fun a b => timeOf tapes a.1 a.2 ≤ timeOf tapes b.1 b.2
  complete : ∀ i, (order.filter (·.1 = i)).map Prod.snd =
    (recordsOf tapes i).filter fun m => 0 < stop → timeOf tapes i m ≤ stop.toInt

/-- The replay ends: what is handed on, in such an order, and after it that it is complete. -/
def EndsReplayed (pq : PriorityQueue Entry.key) (clock : ℕ → Int64) (tapes : List Tape)
    (realtime : Bool) (stop : Int64) : Prop :=
  ∃ k order, Replayed tapes stop order ∧ ∀ n ≥ k,
    ((TbinInput.step clock)^[n] (TbinInput.new (tapes.map Tape.source) realtime stop :
      TbinInput pq)).log =
      (order.flatMap fun a => TbinInput.handed (formatOf tapes a.1) a.2) ++ [.completed]

namespace TbinInput

variable {pq : PriorityQueue Entry.key}

theorem Loaded.key_eq {realtime : Bool} {stop : Int64} {tapes : List Tape} {s : TbinInput pq}
    (h : Loaded realtime stop tapes s) (hrange : InRange tapes) {i : ℕ} {m : Message}
    (hm : m ∈ recordsOf tapes i) : s.key i m = timeOf tapes i m := by
  obtain ⟨hlow, hhigh⟩ := hrange i m hm
  rw [timeOf] at hlow hhigh
  rw [key, h.shifts, timeOf, Int64.toInt_add]
  exact Int.bmod_eq_of_le (by omega) (by omega)

theorem ordered_recordsOf (tapes : List Tape) (i : ℕ) :
    (recordsOf tapes i).Pairwise fun a b => timeOf tapes i a ≤ timeOf tapes i b := by
  have hordered : (recordsOf tapes i).Pairwise
      fun a b => a.timestampUs.toInt ≤ b.timestampUs.toInt := by
    rw [recordsOf, ofTape]
    cases tapes[i]? with
    | none => exact List.Pairwise.nil
    | some t => exact t.recording.ordered
  exact hordered.imp fun h => by rw [timeOf, timeOf]; omega

/-- What is merged is in such an order. -/
theorem replayed_of_merges {realtime : Bool} {stop : Int64} {tapes : List Tape} {s : TbinInput pq}
    (h : Loaded realtime stop tapes s) (hrange : InRange tapes) {out : List (ℕ × Message)}
    (hmerges : Merges s.key (Past stop) (recordsOf tapes) out) : Replayed tapes stop out := by
  have hordered : ∀ i, (recordsOf tapes i).Pairwise fun a b => s.key i a ≤ s.key i b := by
    refine fun i => (ordered_recordsOf tapes i).imp_of_mem fun ha hb hle => ?_
    rwa [h.key_eq hrange ha, h.key_eq hrange hb]
  refine ⟨(hmerges.pairwise hordered).imp_of_mem fun {a b} ha hb hle => ?_, fun i => ?_⟩
  · rwa [h.key_eq hrange (hmerges.mem ha), h.key_eq hrange (hmerges.mem hb)] at hle
  · classical
    rw [hmerges.filter_map hordered past_mono i]
    refine List.filter_congr fun m hm => ?_
    rw [h.key_eq hrange hm, decide_eq_decide, Past, Int64.lt_iff_toInt_lt, not_and, not_lt]
    exact Iff.rfl

end TbinInput

/-- **A replay** of recordings of the writer, in real time or as fast as it can. -/
theorem replay (pq : PriorityQueue Entry.key) {clock : ℕ → Int64}
    (hclock : TbinInput.SteadyClock clock) {tapes : List Tape} (hrange : InRange tapes)
    {realtime : Bool} (hspanned : realtime = true → Spanned tapes) (stop : Int64)
    (hhonest : ∀ k, TbinInput.Honest clock ((TbinInput.step clock)^[k]
      (TbinInput.new (tapes.map Tape.source) realtime stop : TbinInput pq))) :
    EndsReplayed pq clock tapes realtime stop := by
  have h : TbinInput.Loaded realtime stop tapes
      (TbinInput.new (tapes.map Tape.source) realtime stop : TbinInput pq) :=
    TbinInput.loaded_new tapes realtime stop
  obtain ⟨n, hleft⟩ := TbinInput.left_recordsOf tapes
  generalize hs : (TbinInput.new (tapes.map Tape.source) realtime stop : TbinInput pq) = s
    at h hhonest
  have hpaced : TbinInput.Paced clock s (recordsOf tapes) := by
    refine fun hmode => ⟨fun i m hm j m' hm' => ?_, fun hstarted => ?_⟩
    · rw [h.key_eq hrange hm, h.key_eq hrange hm']
      exact hspanned (h.realtime.symm.trans hmode) i m hm j m' hm'
    · rw [h.started] at hstarted
      cases hstarted
  have hwaiting : TbinInput.Waiting clock s := by
    refine ⟨h.atNext, 1, by rw [← hs]; rfl, fun _ hstarted => ?_⟩
    rw [h.started] at hstarted
    cases hstarted
  obtain ⟨k, out, hmerges, hidle, hlog⟩ :=
    TbinInput.replays hclock hleft ⟨h.holds, hpaced, .inr hwaiting, hhonest⟩
  rw [h.stop] at hmerges
  refine ⟨k, out, TbinInput.replayed_of_merges h hrange hmerges, fun n hn => ?_⟩
  obtain ⟨m, rfl⟩ := Nat.exists_eq_add_of_le' hn
  rw [hs, Function.iterate_add_apply, hidle.step_iterate, hlog, h.log, h.formats]
  rfl

/-! ### Tapes of two files, and tapes that are not replayed -/

/-- Two files; the last record of the second one is cut. -/
def twoTapes : List Tape :=
  [⟨⟨[0x41], [⟨0, [1]⟩, ⟨2000000, [2]⟩], [], by decide, by decide, ⟨0, []⟩, by decide, by decide,
      by decide⟩, 1, 0⟩,
    ⟨⟨[], [⟨500000, [3]⟩, ⟨900000, []⟩], [7], by decide, by decide, ⟨7, []⟩, by decide,
      by decide +kernel, by decide +kernel⟩, 2, 1000000⟩]

/-- Two seconds pass between two readings. -/
def slowClock (i : ℕ) : Int64 := Int64.ofNat (min i 20 * 2000000)

theorem steadyClock_slowClock : TbinInput.SteadyClock slowClock := by
  have htoInt : ∀ i, (slowClock i).toInt = (min i 20 * 2000000 : ℕ) := fun i =>
    Int64.toInt_ofNat_of_lt (by omega)
  refine ⟨fun {i j} hij => ?_, fun i => ?_, fun i => ?_⟩
  · rw [htoInt, htoInt]
    omega
  · rw [htoInt]
    omega
  · rw [htoInt]
    omega

/-- The timer is on time when it is until the replay has ended. -/
theorem honest_of_idle {pq : PriorityQueue Entry.key} {clock : ℕ → Int64} {s : TbinInput pq}
    {n : ℕ} (hidle : TbinInput.Idle ((TbinInput.step clock)^[n] s))
    (h : ∀ k < n, ((TbinInput.step clock)^[k] s).timer.all (fun d =>
      decide (0 < ((TbinInput.step clock)^[k] s).reads →
        (clock (((TbinInput.step clock)^[k] s).reads - 1)).toInt + d.toInt / 1000 ≤
          (clock ((TbinInput.step clock)^[k] s).reads).toInt)) = true) (k : ℕ) :
    TbinInput.Honest clock ((TbinInput.step clock)^[k] s) := by
  intro d hd hreads
  rcases Nat.lt_or_ge k n with hlt | hge
  · exact of_decide_eq_true ((Option.all_eq_true _ _).1 (h k hlt) d hd) hreads
  · obtain ⟨m, rfl⟩ := Nat.exists_eq_add_of_le' hge
    rw [Function.iterate_add_apply, hidle.step_iterate, hidle.2] at hd
    cases hd

/-- Three records, in real time. -/
theorem replay_twoTapes :
    EndsReplayed (scanned Entry.key) slowClock twoTapes true 1950000 := by
  have hrecords : ∀ i, ∀ m ∈ recordsOf twoTapes i,
      0 ≤ timeOf twoTapes i m ∧ timeOf twoTapes i m ≤ 2000000 := by
    rintro (_ | _ | i) m hm
    · revert m
      decide
    · revert m
      decide
    · cases hm
  refine replay _ steadyClock_slowClock (fun i m hm => ?_) (fun _ i m hm j m' hm' => ?_) _
    (honest_of_idle (n := 8) ⟨by decide +kernel, by decide +kernel⟩ (by decide +kernel))
  · have := hrecords i m hm
    omega
  · have hm := hrecords i m hm
    have hm' := hrecords j m' hm'
    rw [TbinInput.maxSpan, abs_le]
    omega

/-- A record with the last time that there is, shifted by a microsecond. -/
def lastTape : List Tape :=
  [⟨⟨[], [⟨9223372036854775807, [1]⟩], [], by decide, by decide, ⟨0, []⟩, by decide, by decide,
    by decide⟩, 1, 1⟩]

/-- Two records that are too far apart. -/
def farTape : List Tape :=
  [⟨⟨[], [⟨0, [1]⟩, ⟨10000000000000000, [2]⟩], [], by decide, by decide, ⟨0, []⟩, by decide,
    by decide, by decide⟩, 1, 0⟩]

/-- **The shifted time does not fit**: the record is delivered, though it is after the stop time;
**the time to wait does not fit**: the replay never ends. -/
theorem not_replay_lastTape :
    ¬EndsReplayed (scanned Entry.key) slowClock lastTape false 5 ∧
    ¬EndsReplayed (scanned Entry.key) slowClock farTape true 0 := by
  constructor
  · rintro ⟨k, order, hreplayed, hlog⟩
    have hnil : order = [] := by
      refine List.eq_nil_iff_forall_not_mem.2 fun a ha => ?_
      have hmem : a.2 ∈ (order.filter (·.1 = a.1)).map Prod.snd :=
        List.mem_map_of_mem (List.mem_filter.2 ⟨ha, by simp⟩)
      rw [hreplayed.complete, List.mem_filter] at hmem
      obtain ⟨hrecord, hstop⟩ := hmem
      have hlate : ∀ i, ∀ m ∈ recordsOf lastTape i,
          ¬(0 < (5 : Int64) → timeOf lastTape i m ≤ (5 : Int64).toInt) := by
        rintro (_ | i) m hm
        · revert m
          decide
        · cases hm
      exact hlate _ _ hrecord (of_decide_eq_true hstop)
    have hend : (TbinInput.step slowClock)^[k] ((TbinInput.step slowClock)^[2]
        (TbinInput.new (lastTape.map Tape.source) false 5 : TbinInput (scanned Entry.key))) = _ :=
      TbinInput.Idle.step_iterate ⟨by decide +kernel, by decide +kernel⟩ k
    have hlog' := hlog (k + 2) (Nat.le_add_right _ _)
    rw [Function.iterate_add_apply, hend, hnil] at hlog'
    revert hlog'
    decide +kernel
  · rintro ⟨k, order, -, hlog⟩
    have hend : (TbinInput.step slowClock)^[k] ((TbinInput.step slowClock)^[2]
        (TbinInput.new (farTape.map Tape.source) true 0 : TbinInput (scanned Entry.key))) = _ :=
      TbinInput.Idle.step_iterate ⟨by decide +kernel, by decide +kernel⟩ k
    have hlog' := hlog (k + 2) (Nat.le_add_right _ _)
    have hmem : Event.completed ∈ ((TbinInput.step slowClock)^[2] (TbinInput.new
        (farTape.map Tape.source) true 0 : TbinInput (scanned Entry.key))).log := by
      rw [Function.iterate_add_apply, hend] at hlog'
      rw [hlog']
      exact List.mem_append_right _ List.mem_cons_self
    revert hmem
    decide +kernel

end SuplLpp.Tbin
