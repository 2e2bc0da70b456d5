import SuplLpp.Spartn.DoNotUse

/-!
# The end-of-set bit of OCB messages

The last message of an issue of data carries a bit that says so.  The source computes the bit
from the place in the sorted corrections, and leaves out corrections without a time tag after
they were sorted.

* `Message.endOfSet`, `endOfSet_ocbMessage`: where the bit is in a message, and what it is;
* `endsSet_ocbMessages`: the messages of a list of corrections end their set exactly when the
  last of the corrections is sent;
* `Library.putLast`: a library may sort any of the corrections last that compare equal;
* `ocbEndsSet_iff`: under every library exactly the last message has the bit, if and only if
  the corrections that may be sorted last are sent, or none are.
-/

namespace SuplLpp.Spartn

open Asn Bits Fallible MessageBuilder

/-! ### The bit -/

/-- SF010 of an OCB message, which comes after the nine bits of SF005. -/
def Message.endOfSet (m : Message) : Bool := (bytesBits m.mPayload).getD 9 false

/-- Exactly the last message has the bit. -/
def EndsSet (messages : List Message) : Prop :=
  ∀ pre m post, messages = pre ++ m :: post → (m.endOfSet = true ↔ post = [])

theorem endsSet_nil : EndsSet [] := by
  intro pre m post h
  exact absurd h.symm (List.append_ne_nil_of_right_ne_nil _ (List.cons_ne_nil m post))

theorem endsSet_cons {m : Message} {messages : List Message} :
    EndsSet (m :: messages) ↔ (m.endOfSet = true ↔ messages = []) ∧ EndsSet messages := by
  constructor
  · intro h
    refine ⟨h [] m messages rfl, ?_⟩
    rintro pre m' post rfl
    exact h (m :: pre) m' post rfl
  · rintro ⟨hhead, hrest⟩ pre m' post heq
    cases pre with
    | nil =>
      cases heq
      exact hhead
    | cons a pre =>
      cases heq
      exact hrest pre m' post rfl

/-! ### The messages of sorted corrections -/

section Sorted

variable {cfg : Config} {data : CorrectionData} {siou : ℕ}

theorem endOfSet_ocbMessage {eos : Bool} {c : OcbCorrections} {m : Message}
    (h : ocbMessage cfg data siou eos c = .ok m) : m.endOfSet = eos := by
  obtain ⟨subtype, -, h⟩ := bind_eq_ok.1 h
  obtain ⟨payload, hpayload, h⟩ := bind_eq_ok.1 h
  cases h
  obtain ⟨ephemeris, -, h⟩ := bind_eq_ok.1 hpayload
  obtain ⟨mask, -, h⟩ := bind_eq_ok.1 h
  obtain ⟨blocks, -, h⟩ := bind_eq_ok.1 h
  cases h
  have hsiou : (sf005 siou).length = 9 := length_ofNat 9 siou
  unfold Message.endOfSet
  rw [bytesBits_build]
  simp only [List.append_assoc]
  rw [List.getD_append_right _ _ _ _ hsiou.le, hsiou]
  rfl

/-- No message is generated exactly when every correction is left out. -/
theorem ocbMessages_eq_nil {l : List OcbCorrections} {messages : List Message}
    (h : ocbMessages cfg data siou l = .ok messages) :
    messages = [] ↔ ∀ c ∈ l, c.timeTag = 0 := by
  induction l generalizing messages with
  | nil =>
    cases h
    simp
  | cons c rest ih =>
    unfold ocbMessages at h
    rw [List.forall_mem_cons]
    by_cases htag : c.timeTag = 0
    · rw [if_pos htag] at h
      rw [ih h, and_iff_right htag]
    · rw [if_neg htag] at h
      obtain ⟨m, -, h⟩ := bind_eq_ok.1 h
      obtain ⟨rest', -, h⟩ := bind_eq_ok.1 h
      cases h
      exact iff_of_false (List.cons_ne_nil _ _) fun hall => htag hall.1

/-- The messages end their set exactly when the last of the corrections is sent, or none is. -/
theorem endsSet_ocbMessages {l : List OcbCorrections} {messages : List Message}
    (h : ocbMessages cfg data siou l = .ok messages) :
    EndsSet messages ↔ (∀ c ∈ l, c.timeTag = 0) ∨ ∀ c ∈ l.getLast?, c.timeTag ≠ 0 := by
  induction l generalizing messages with
  | nil =>
    cases h
    exact iff_of_true endsSet_nil (Or.inl fun c hc => absurd hc List.not_mem_nil)
  | cons c rest ih =>
    unfold ocbMessages at h
    rw [List.forall_mem_cons, List.getLast?_cons]
    by_cases htag : c.timeTag = 0
    · rw [if_pos htag] at h
      rw [ih h, and_iff_right htag]
      cases hrest : rest.getLast? with
      | none =>
        have hnil : rest = [] := List.getLast?_eq_none_iff.1 hrest
        simp [hnil]
      | some last => simp
    · rw [if_neg htag] at h
      obtain ⟨m, hm, h⟩ := bind_eq_ok.1 h
      obtain ⟨messages', hmessages', h⟩ := bind_eq_ok.1 h
      cases h
      -- the bit of the first message says whether corrections are left, not messages
      rw [endsSet_cons, endOfSet_ocbMessage hm, List.isEmpty_iff, ocbMessages_eq_nil hmessages',
        ih hmessages']
      cases hrest : rest.getLast? with
      | none =>
        have hnil : rest = [] := List.getLast?_eq_none_iff.1 hrest
        simp [hnil, htag]
      | some last =>
        have hmem : last ∈ rest := List.mem_of_getLast? hrest
        have hne : rest ≠ [] := List.ne_nil_of_mem hmem
        simp only [hne, htag, false_and, false_or, false_iff, Option.getD_some,
          Option.mem_def, Option.some.injEq, forall_eq']
        constructor
        · rintro ⟨hsome, hall | hlast⟩
          · exact absurd hall hsome
          · exact hlast
        · intro hlast
          exact ⟨fun hall => hlast (hall last hmem), Or.inr hlast⟩

end Sorted

/-! ### Which corrections are sorted last -/

/-- One of the corrections with the greatest subtype. -/
def Greatest (l : List OcbCorrections) (c : OcbCorrections) : Prop :=
  c ∈ l ∧ ∀ c' ∈ l, subtypeOf c'.gnssId ≤ subtypeOf c.gnssId

theorem le_getLast {α : Type} {key : α → ℕ} {l : List α} {last : α}
    (hsorted : l.Pairwise fun a b => key a ≤ key b) (hlast : last ∈ l.getLast?) {a : α}
    (ha : a ∈ l) : key a ≤ key last := by
  obtain ⟨init, rfl⟩ := List.getLast?_eq_some_iff.1 hlast
  rcases List.mem_append.1 ha with hinit | heq
  · exact (List.pairwise_append.1 hsorted).2.2 a hinit last (List.mem_singleton.2 rfl)
  · rw [List.mem_singleton.1 heq]

theorem Sorting.greatest_of_getLast
    (sorting : Sorting OcbCorrections fun c => subtypeOf c.gnssId) {l : List OcbCorrections}
    {c : OcbCorrections} (hc : c ∈ (sorting.sort l).getLast?) : Greatest l c := by
  refine ⟨(sorting.perm l).mem_iff.1 (List.mem_of_getLast? hc), fun c' hc' => ?_⟩
  exact le_getLast (sorting.sorted l) hc ((sorting.perm l).mem_iff.2 hc')

open Classical in
/-- Twice the subtype, and one more for the corrections `c`. -/
noncomputable def lastKey (c a : OcbCorrections) : ℕ :=
  2 * subtypeOf a.gnssId + if a = c then 1 else 0

/-- A sorting by subtype that puts the corrections `c` behind what compares equal. -/
noncomputable def Sorting.putLast (c : OcbCorrections) :
    Sorting OcbCorrections fun a => subtypeOf a.gnssId where
  sort := List.insertionSort fun a b => lastKey c a ≤ lastKey c b
  perm := List.perm_insertionSort _
  sorted := by
    intro l
    have htotal : Std.Total fun a b : OcbCorrections => lastKey c a ≤ lastKey c b :=
      ⟨fun a b => le_total _ _⟩
    have htrans : IsTrans OcbCorrections fun a b => lastKey c a ≤ lastKey c b :=
      ⟨fun a b c => le_trans⟩
    refine (List.pairwise_insertionSort _ l).imp fun {a b} hle => ?_
    unfold lastKey at hle
    split_ifs at hle <;> omega

theorem Sorting.getLast_putLast {l : List OcbCorrections} {c : OcbCorrections}
    (hc : Greatest l c) : c ∈ ((Sorting.putLast c).sort l).getLast? := by
  have hmem := ((Sorting.putLast c).perm l).mem_iff (a := c)
  cases hlast : ((Sorting.putLast c).sort l).getLast? with
  | none =>
    rw [List.getLast?_eq_none_iff.1 hlast] at hmem
    exact absurd (hmem.2 hc.1) List.not_mem_nil
  | some last =>
    have htotal : Std.Total fun a b : OcbCorrections => lastKey c a ≤ lastKey c b :=
      ⟨fun a b => le_total _ _⟩
    have htrans : IsTrans OcbCorrections fun a b => lastKey c a ≤ lastKey c b :=
      ⟨fun a b c => le_trans⟩
    have hkey : lastKey c c ≤ lastKey c last :=
      le_getLast (List.pairwise_insertionSort _ l) hlast (hmem.2 hc.1)
    have hsubtype : subtypeOf last.gnssId ≤ subtypeOf c.gnssId :=
      hc.2 last (((Sorting.putLast c).perm l).mem_iff.1 (List.mem_of_getLast? hlast))
    -- nothing else reaches the key of `c`
    by_cases heq : last = c
    · rw [heq]
      rfl
    · unfold lastKey at hkey
      rw [if_pos rfl, if_neg heq] at hkey
      omega

/-- A library that sorts `c` last among the OCB corrections. -/
noncomputable def Library.putLast (c : OcbCorrections) : Library :=
  { Library.plain with ocbSorting := Sorting.putLast c }

/-! ### The set of an issue of data -/

section Set

variable (cfg : Config) (data : CorrectionData) (siou iod : ℕ)

/-- Whatever the library does, exactly the last OCB message of the issue of data has the bit. -/
def OcbEndsSet : Prop :=
  ∀ lib messages, generateOcb cfg data lib siou iod = .ok messages → EndsSet messages

/-- No corrections of the issue of data have a time tag, or all those have one that may be
sorted last. -/
def LastIsSent : Prop :=
  (∀ c ∈ data.ocbCandidates cfg iod, c.timeTag = 0) ∨
    ∀ c, Greatest (data.ocbCandidates cfg iod) c → c.timeTag ≠ 0

variable {cfg data siou iod}

theorem generateOcb_eq_ok {lib : Library} {messages : List Message}
    (h : generateOcb cfg data lib siou iod = .ok messages) :
    ∃ order, order.Perm (data.ocbCandidates cfg iod) ∧
      ocbMessages cfg data siou (lib.ocbSorting.sort order) = .ok messages := by
  unfold generateOcb at h
  unfold CorrectionData.ocbCandidates
  cases hocb : data.ocb iod with
  | none =>
    rw [hocb] at h
    cases h
    refine ⟨[], List.Perm.refl _, ?_⟩
    rw [(lib.ocbSorting.perm []).eq_nil]
    rfl
  | some ocbData =>
    rw [hocb] at h
    obtain ⟨sorted, hsort, h⟩ := bind_eq_ok.1 h
    obtain ⟨-, rfl⟩ := sortBySubtype_eq_ok.1 hsort
    exact ⟨_, ocbCandidates_perm cfg lib.ocbIteration ocbData.pairs, h⟩

theorem Greatest.perm {l m : List OcbCorrections} (h : l.Perm m) {c : OcbCorrections} :
    Greatest l c ↔ Greatest m c :=
  and_congr h.mem_iff (forall_congr' fun _ => imp_congr_left h.mem_iff)

/-- Exactly the last message has the bit, whatever the library does, if and only if the
corrections that may be sorted last are sent, or none are. -/
theorem ocbEndsSet_iff :
    OcbEndsSet cfg data siou iod ↔
      (OcbFinishes (data.ocbCandidates cfg iod) → LastIsSent cfg data iod) := by
  constructor
  · intro hends hfinishes
    by_cases hnone : ∀ c ∈ data.ocbCandidates cfg iod, c.timeTag = 0
    · exact Or.inl hnone
    · refine Or.inr fun c hc => ?_
      -- the library that sorts these corrections last
      obtain ⟨messages, h⟩ := (finishes_generateOcb cfg data (.putLast c) siou iod).2 hfinishes
      obtain ⟨order, hperm, hmessages⟩ := generateOcb_eq_ok h
      have hlast := Sorting.getLast_putLast ((Greatest.perm hperm).2 hc)
      rcases (endsSet_ocbMessages hmessages).1 (hends _ _ h) with hall | hsent
      · exact absurd (fun c hc => hall c
          (((Sorting.putLast _).perm order).mem_iff.2 (hperm.mem_iff.2 hc))) hnone
      · exact hsent c hlast
  · intro hsent lib messages h
    obtain ⟨order, hperm, hmessages⟩ := generateOcb_eq_ok h
    have hmem : ∀ c, c ∈ lib.ocbSorting.sort order ↔ c ∈ data.ocbCandidates cfg iod :=
      fun c => (lib.ocbSorting.perm order).mem_iff.trans hperm.mem_iff
    rw [endsSet_ocbMessages hmessages]
    rcases hsent ((finishes_generateOcb cfg data lib siou iod).1 ⟨messages, h⟩) with hnone | hlast
    · exact Or.inl fun c hc => hnone c ((hmem c).1 hc)
    · exact Or.inr fun c hc =>
        hlast c ((Greatest.perm hperm).1 (lib.ocbSorting.greatest_of_getLast hc))

end Set

/-! ### A set without an end -/

/-- The epoch of an element in SBAS time, which the generator does not read. -/
def untaggedClock : GnssSsrClockCorrections :=
  { lateClock with epochTime := { lateEpoch with gnssTimeId := .sbas } }

/-- Clock corrections for GPS with an epoch, and for Galileo with one in SBAS time. -/
def mixedAssistData : SsrAssistData :=
  ⟨none, some ⟨[⟨.gps, none, none, some lateClock, none, none, none, none, none⟩,
    ⟨.galileo, none, none, some untaggedClock, none, none, none, none, none⟩], by decide⟩⟩

/-- The GPS message is the only one, and does not end the set. -/
theorem not_ocbEndsSet_mixed : ¬OcbEndsSet .new (collected mixedAssistData) 0 0 := by
  intro h
  have hcandidates : (collected mixedAssistData).ocbCandidates .new 0 = [
      { OcbCorrections.new with
        gnssId := .galileo
        clock := some untaggedClock },
      lateCorrections] := rfl
  have hfinishes : Finishes (generateOcb .new (collected mixedAssistData) .plain 0 0) := by
    rw [finishes_generateOcb, hcandidates]
    refine ⟨fun _ c hc => ?_, fun c hc _ => ?_⟩
    · rcases List.mem_pair.1 hc with rfl | rfl <;> decide
    · rcases List.mem_pair.1 hc with rfl | rfl <;> decide
  obtain ⟨messages, hmessages⟩ := hfinishes
  obtain ⟨order, hperm, hsent⟩ := generateOcb_eq_ok hmessages
  rw [hcandidates] at hperm
  have hmem : lateCorrections ∈ Library.plain.ocbSorting.sort order :=
    (Library.plain.ocbSorting.perm order).mem_iff.2 (hperm.mem_iff.2 (by simp))
  rcases (endsSet_ocbMessages hsent).1 (h _ _ hmessages) with hall | hlast
  · exact timeTag_late (hall _ hmem)
  · cases hgreatest : (Library.plain.ocbSorting.sort order).getLast? with
    | none =>
      rw [List.getLast?_eq_none_iff.1 hgreatest] at hmem
      exact absurd hmem List.not_mem_nil
    | some last =>
      obtain ⟨hin, hall⟩ := (Greatest.perm hperm).1
        (Library.plain.ocbSorting.greatest_of_getLast hgreatest)
      rcases List.mem_pair.1 hin with rfl | rfl
      · exact hlast _ hgreatest rfl
      · exact absurd (hall _ List.mem_cons_self) (by decide)

end SuplLpp.Spartn
