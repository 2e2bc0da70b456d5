import SuplLpp.Lpp.Ending

/-!
# Which transactions were ended

A transaction stays in the table when the server ends it and the client's end is needed too; any
other end removes it.

* `Follows`: the table, the payload that is being delivered, and the transactions that were ended;
* `Moves`: what a step of the session leaves of it; `moves_step`: every step does;
* `endsRemove_step`: unless a payload comes in, an end comes with the removal.
-/

namespace SuplLpp.Lpp

/-- The event is the end of the transaction by a side. -/
def Event.ends {β : Type*} (h : TransactionHandle) : Event β → Bool
  | .clientEnded k | .serverEnded k => k = h
  | _ => false

/-! ### The table of the transactions -/

section Session

variable {σ β : Type*}

/-- A transaction in the table was not ended by the client; by the server only if it takes both
ends, or while the payload with the end is being delivered. -/
structure Follows (t : Transactions) (frame : Option Frame) (ended : TransactionHandle → Bool) :
    Prop where
  keyed : t.Keyed
  entry : ∀ h d, t.findTransaction h = some d →
    d.clientHasSentEnd = false ∧ (d.singleSideEndable = true → d.serverHasSentEnd = false) ∧
      ended h = (d.serverHasSentEnd || arrived frame h)
  unborn : ∀ h, t.mGenerationId ≤ h.generationId → ended h = false
  counted : ∀ h, arrived frame h = true → h.generationId < t.mGenerationId

theorem follows_new : Follows Transactions.new none fun _ => false where
  keyed := Transactions.keyed_new
  entry h d hd := by simp [Transactions.findTransaction, Transactions.new] at hd
  unborn _ _ := rfl
  counted _ h := by simp [arrived] at h

/-- What a step of the session that emits `es` leaves of the transactions. -/
structure Moves (t : Transactions) (ended : TransactionHandle → Bool) (t' : Transactions)
    (frame : Option Frame) (es : List (Event β)) : Prop where
  follows : Follows t' frame fun h => ended h || es.any (Event.ends h)
  stays : ∀ h d, t.findTransaction h = some d → .onEndTransaction h ∉ es →
    ∃ d', t'.findTransaction h = some d' ∧ d'.singleSideEndable = d.singleSideEndable
  hasEnded : ∀ h, .onEndTransaction h ∈ es → (ended h || es.any (Event.ends h)) = true
  gone : ∀ h, .onEndTransaction h ∈ es → t'.findTransaction h = none
  origin : ∀ h d', t'.findTransaction h = some d' →
    (∃ d, t.findTransaction h = some d ∧ d.singleSideEndable = d'.singleSideEndable) ∨
      d'.singleSideEndable = true ∨ (ended h || es.any (Event.ends h)) = false

variable {t t' : Transactions} {frame : Option Frame} {ended : TransactionHandle → Bool}
  {es : List (Event β)}

theorem Follows.moves (ht : Follows t frame ended) :
    Moves t ended t frame ([] : List (Event β)) where
  follows := by simpa using ht
  stays h d hd _ := ⟨d, hd, rfl⟩
  hasEnded h hh := by simp at hh
  gone h hh := by simp at hh
  origin h d hd := .inl ⟨d, hd, rfl⟩

/-- An event that is about no transaction. -/
theorem Moves.wire (hm : Moves t ended t' frame es) {e : Event β} (he : e.isPos = true) :
    Moves t ended t' frame (es ++ [e]) := by
  have hends : ∀ h, (es ++ [e]).any (Event.ends h) = es.any (Event.ends h) := by
    intro h
    cases e <;> simp_all [Event.isPos, Event.ends]
  have hon : ∀ h, .onEndTransaction h ∈ es ++ [e] ↔ .onEndTransaction h ∈ es := by
    intro h
    cases e <;> simp_all [Event.isPos]
  constructor
  · simpa only [hends] using hm.follows
  · simpa only [hon] using hm.stays
  · simpa only [hends, hon] using hm.hasEnded
  · simpa only [hon] using hm.gone
  · simpa only [hends] using hm.origin

/-- The flag that asks for an end. -/
theorem Moves.setShould (hm : Moves t ended t' frame es) {k : TransactionHandle}
    {d : TransactionData} (hd : t'.findTransaction k = some d) (b : Bool) :
    Moves t ended (t'.setData k { d with clientShouldSendEnd := b }) frame es where
  follows := by
    refine ⟨hm.follows.keyed.setData (Table.mem_of_lookup hd)
      (by simpa using hm.follows.keyed.handle_eq hd), fun h d' hd' => ?_, hm.follows.unborn,
      hm.follows.counted⟩
    rw [Transactions.findTransaction_setData] at hd'
    split_ifs at hd' with hk
    · cases hd'
      rw [hk]
      exact hm.follows.entry k d hd
    · exact hm.follows.entry h d' hd'
  stays h d₀ hd₀ hh := by
    obtain ⟨d', hd', hs⟩ := hm.stays h d₀ hd₀ hh
    rw [Transactions.findTransaction_setData]
    split_ifs with hk
    · subst hk
      rw [hd] at hd'
      cases hd'
      exact ⟨_, rfl, hs⟩
    · exact ⟨d', hd', hs⟩
  hasEnded := hm.hasEnded
  gone h hh := by
    rw [Transactions.findTransaction_setData]
    split_ifs with hk
    · subst hk
      rw [hm.gone h hh] at hd
      cases hd
    · exact hm.gone h hh
  origin h d' hd' := by
    rw [Transactions.findTransaction_setData] at hd'
    split_ifs at hd' with hk
    · cases hd'
      subst hk
      exact hm.origin h d hd
    · exact hm.origin h d' hd'

/-- The client's end. -/
theorem Moves.clientEnd (hm : Moves t ended t' frame es) {k : TransactionHandle}
    {d : TransactionData} (hd : t'.findTransaction k = some d) :
    Moves t ended (t'.clientEndTransaction (β := β) k).1 frame
      (es ++ (t'.clientEndTransaction k).2) := by
  have hkeyed := hm.follows.keyed.clientEndTransaction (β := β) k
  have hlt := hm.follows.keyed.generation_lt k (Table.mem_of_lookup hd)
  rw [Transactions.clientEndTransaction_of_find hd] at hkeyed ⊢
  constructor
  · refine ⟨hkeyed, fun h d' hd' => ?_, fun h hh => ?_, hm.follows.counted⟩
    · rw [Transactions.findTransaction_erase, Transactions.findTransaction_setData] at hd'
      split_ifs at hd' with hk
      have := hm.follows.entry h d' hd'
      simpa [Event.ends, Ne.symm hk] using this
    · have hne : k ≠ h := by
        rintro rfl
        exact absurd hlt (not_lt.2 hh)
      have := hm.follows.unborn h hh
      simpa [Event.ends, hne] using this
  · intro h d₀ hd₀ hh
    simp only [List.mem_append, List.mem_cons, List.not_mem_nil, or_false, reduceCtorEq, false_or,
      Event.onEndTransaction.injEq, not_or] at hh
    obtain ⟨d', hd', hs⟩ := hm.stays h d₀ hd₀ hh.1
    rw [Transactions.findTransaction_erase, Transactions.findTransaction_setData, if_neg hh.2,
      if_neg hh.2]
    exact ⟨d', hd', hs⟩
  · intro h hh
    simp only [List.mem_append, List.mem_cons, List.not_mem_nil, or_false, reduceCtorEq, false_or,
      Event.onEndTransaction.injEq] at hh
    rcases hh with hh | rfl
    · rw [List.any_append, ← Bool.or_assoc, hm.hasEnded h hh, Bool.true_or]
    · simp [Event.ends]
  · intro h hh
    simp only [List.mem_append, List.mem_cons, List.not_mem_nil, or_false, reduceCtorEq, false_or,
      Event.onEndTransaction.injEq] at hh
    rw [Transactions.findTransaction_erase, Transactions.findTransaction_setData]
    split_ifs with hk
    · rfl
    · exact hm.gone h (hh.resolve_right hk)
  · intro h d' hd'
    rw [Transactions.findTransaction_erase, Transactions.findTransaction_setData] at hd'
    split_ifs at hd' with hk
    simpa [Event.ends, Ne.symm hk] using hm.origin h d' hd'

/-- A transaction that begins. -/
theorem Follows.begin (ht : Follows t frame ended) {k : TransactionHandle}
    (hgen : k.generationId = t.mGenerationId) (sse : Bool) (nextId : ℤ) :
    Follows ((t.count nextId).insert k sse) frame ended where
  keyed := ht.keyed.count_insert hgen sse nextId
  entry h d hd := by
    rw [Transactions.findTransaction_insert] at hd
    split_ifs at hd with hk
    · have hframe : arrived frame k = false := by
        by_contra hf
        have := ht.counted k (by simpa using hf)
        omega
      cases hd
      rw [hk, hframe, ht.unborn k (by omega)]
      exact ⟨rfl, fun _ => rfl, rfl⟩
    · exact ht.entry h d hd
  unborn h hh := by
    have hlt : t.mGenerationId + 1 ≤ h.generationId := hh
    exact ht.unborn h (by omega)
  counted h hh := by
    have := ht.counted h hh
    show h.generationId < t.mGenerationId + 1
    omega

/-- A payload comes in for a transaction of an earlier generation. -/
theorem Follows.arrive (ht : Follows t none ended) {k : TransactionHandle}
    (hlt : k.generationId < t.mGenerationId) (m : Message β) :
    Follows t (some ⟨k, m.endTransaction⟩)
      fun h => ended h || (Endpoint.arrival k m).any (Event.ends h) := by
  have hends : ∀ h, (Endpoint.arrival k m).any (Event.ends h) =
      arrived (some ⟨k, m.endTransaction⟩) h := by
    intro h
    cases he : m.endTransaction <;> simp [Endpoint.arrival, he, Event.ends, arrived]
  simp only [hends]
  refine ⟨ht.keyed, fun h d hd => ?_, fun h hh => ?_, fun h hh => ?_⟩
  · obtain ⟨hc, hs, he⟩ := ht.entry h d hd
    refine ⟨hc, hs, ?_⟩
    rw [he]
    simp [arrived]
  · have hne : k ≠ h := by
      rintro rfl
      exact absurd hlt (not_lt.2 hh)
    rw [ht.unborn h hh]
    simp [arrived, hne]
  · have hk : k = h := by
      by_contra hne
      simp [arrived, hne] at hh
    rwa [← hk]

/-- `on_message` returns from a payload with the server's end. -/
theorem Follows.serverEnd {k : TransactionHandle} (ht : Follows t (some ⟨k, true⟩) ended) :
    Moves t ended (t.serverEndTransaction (β := β) k).1 none
      (t.serverEndTransaction (β := β) k).2 := by
  have harr : arrived (some ⟨k, true⟩) k = true := by simp [arrived]
  have hkeyed := ht.keyed.serverEndTransaction (β := β) k
  -- the other transactions are as they were
  have hother : ∀ h, h ≠ k → ∀ d, t.findTransaction h = some d →
      d.clientHasSentEnd = false ∧ (d.singleSideEndable = true → d.serverHasSentEnd = false) ∧
        ended h = (d.serverHasSentEnd || arrived none h) := by
    intro h hk d hd
    have := ht.entry h d hd
    rwa [arrived_of_ne hk] at this
  cases hd : t.findTransaction k with
  | none =>
    have hsame : t.serverEndTransaction (β := β) k = (t, []) := by
      simp [Transactions.serverEndTransaction, hd]
    rw [hsame]
    refine Follows.moves
      ⟨ht.keyed, fun h d hd' => ?_, ht.unborn, fun h hh => by simp [arrived] at hh⟩
    refine hother h ?_ d hd'
    rintro rfl
    simp [hd] at hd'
  | some d =>
    obtain ⟨hc, -, hended⟩ := ht.entry k d hd
    rw [harr, Bool.or_true] at hended
    rw [Transactions.serverEndTransaction_of_find hd] at hkeyed ⊢
    cases hsse : d.singleSideEndable with
    | true =>
      simp only [hsse, Bool.or_true, if_true] at hkeyed ⊢
      refine ⟨⟨hkeyed, fun h d' hd' => ?_, fun h hh => ?_, fun h hh => by simp [arrived] at hh⟩,
        fun h d' hd' hh => ?_, fun h hh => ?_, fun h hh => ?_, fun h d' hd' => ?_⟩
      · rw [Transactions.findTransaction_erase, Transactions.findTransaction_setData] at hd'
        split_ifs at hd' with hk
        simpa [Event.ends] using hother h hk d' hd'
      · simpa [Event.ends] using ht.unborn h hh
      · have hk : h ≠ k := by simpa using hh
        rw [Transactions.findTransaction_erase, Transactions.findTransaction_setData, if_neg hk,
          if_neg hk]
        exact ⟨d', hd', rfl⟩
      · have hk : h = k := by simpa using hh
        rw [hk, hended, Bool.true_or]
      · have hk : h = k := by simpa using hh
        rw [Transactions.findTransaction_erase, if_pos hk]
      · rw [Transactions.findTransaction_erase, Transactions.findTransaction_setData] at hd'
        split_ifs at hd'
        exact .inl ⟨d', hd', rfl⟩
    | false =>
      simp only [hsse, hc, Bool.or_self, Bool.false_eq_true, if_false] at hkeyed ⊢
      refine ⟨⟨hkeyed, fun h d' hd' => ?_, fun h hh => ?_, fun h hh => by simp [arrived] at hh⟩,
        fun h d' hd' _ => ?_, fun h hh => by simp at hh, fun h hh => by simp at hh,
        fun h d' hd' => ?_⟩
      · rw [Transactions.findTransaction_setData] at hd'
        split_ifs at hd' with hk
        · cases hd'
          rw [hk, hended]
          simp
        · simpa using hother h hk d' hd'
      · simpa using ht.unborn h hh
      · rw [Transactions.findTransaction_setData]
        split_ifs with hk
        · subst hk
          rw [hd] at hd'
          cases hd'
          exact ⟨_, rfl, hsse.symm⟩
        · exact ⟨d', hd', rfl⟩
      · rw [Transactions.findTransaction_setData] at hd'
        split_ifs at hd' with hk
        · cases hd'
          exact .inl ⟨d, hk ▸ hd, hsse⟩
        · exact .inl ⟨d', hd', rfl⟩

/-- `on_message` returns from a payload without the server's end. -/
theorem Follows.noEnd {k : TransactionHandle} (ht : Follows t (some ⟨k, false⟩) ended) :
    Follows t none ended where
  keyed := ht.keyed
  entry h d hd := by
    have := ht.entry h d hd
    simpa [arrived] using this
  unborn := ht.unborn
  counted h hh := by simp [arrived] at hh

/-! ### The session -/

variable {supl : Supl σ} {codec : Codec β} {s : Endpoint σ}

theorem moves_send (hs : Follows s.toTransactions frame ended) (k : TransactionHandle)
    (m : Message β) :
    Moves s.toTransactions ended (s.send supl codec k m).1.toTransactions frame
      (s.send supl codec k m).2 := by
  rw [← List.nil_append (s.send supl codec k m).2]
  exact Endpoint.send_keeps supl codec
    (P := fun t' es => Moves s.toTransactions ended t' frame es) hs.moves
    (fun _ _ _ hm he => hm.wire he) (fun _ _ _ _ b hm hd => hm.setShould hd b)
    (fun _ _ _ _ _ _ _ hm hd => hm.clientEnd hd)

theorem moves_sendWithEnd (hs : Follows s.toTransactions frame ended) (k : TransactionHandle)
    (m : Message β) :
    Moves s.toTransactions ended (s.sendWithEnd supl codec k m).1.toTransactions frame
      (s.sendWithEnd supl codec k m).2 := by
  rw [← List.nil_append (s.sendWithEnd supl codec k m).2]
  exact Endpoint.sendWithEnd_keeps supl codec
    (P := fun t' es => Moves s.toTransactions ended t' frame es) hs.moves
    (fun _ _ _ hm he => hm.wire he) (fun _ _ _ _ b hm hd => hm.setShould hd b)
    (fun _ _ _ _ _ _ hm hd => hm.clientEnd hd)

theorem moves_receive (hs : Follows s.toTransactions none ended) (m : Option (Message β)) :
    Moves s.toTransactions ended (s.receive m).1.toTransactions (s.receive m).2.2
      (s.receive m).2.1 := by
  rcases Endpoint.receive_cases hs.keyed m with
    h | ⟨m, d, -, hd, h⟩ | ⟨m, k, h⟩ | h | ⟨m, id, -, hnew, h⟩ <;> rw [h]
  · exact hs.moves
  · have hlt := hs.keyed.generation_lt _ (Table.mem_of_lookup hd)
    refine ⟨hs.arrive hlt m, fun h d hd _ => ⟨d, hd, rfl⟩, fun h hh => ?_, fun h hh => ?_,
      fun h d hd => .inl ⟨d, hd, rfl⟩⟩
    all_goals cases he : m.endTransaction <;> simp [Endpoint.arrival, he] at hh
  · refine ⟨⟨hs.keyed, fun h d hd => ?_, fun h hh => ?_, fun h hh => by simp [arrived] at hh⟩,
      fun h d hd _ => ⟨d, hd, rfl⟩, fun h hh => by simp at hh, fun h hh => by simp at hh,
      fun h d hd => .inl ⟨d, hd, rfl⟩⟩
    · simpa [arrived, Event.ends] using hs.entry h d hd
    · simpa [Event.ends] using hs.unborn h hh
  · refine ⟨⟨hs.keyed.count _, fun h d hd => ?_, fun h hh => ?_,
      fun h hh => by simp [arrived] at hh⟩,
      fun h d hd _ => ⟨d, hd, rfl⟩, fun h hh => by simp at hh, fun h hh => by simp at hh,
      fun h d hd => .inl ⟨d, hd, rfl⟩⟩
    · simpa using hs.entry h d hd
    · have hlt : s.mGenerationId + 1 ≤ h.generationId := hh
      simpa using hs.unborn h (by omega)
  · have hb := hs.begin (k := s.nextServer id) rfl true s.mTransactionId
    have ha := hb.arrive (k := s.nextServer id) (lt_add_one s.mGenerationId) m
    refine ⟨by simpa [Event.ends] using ha, fun h d hd _ => ?_, fun h hh => ?_, fun h hh => ?_,
      fun h d hd => ?_⟩
    · have hne : h ≠ s.nextServer id := by
        rintro rfl
        rw [hs.keyed.find_next rfl] at hd
        cases hd
      exact ⟨d, by simpa [hne] using hd, rfl⟩
    · cases he : m.endTransaction <;> simp [Endpoint.arrival, he] at hh
    · cases he : m.endTransaction <;> simp [Endpoint.arrival, he] at hh
    · rw [Transactions.findTransaction_insert] at hd
      split_ifs at hd
      · cases hd
        exact .inr (.inl rfl)
      · exact .inl ⟨d, hd, rfl⟩

/-- **One step** of the session keeps the account of the ends. -/
theorem moves_step (supl : Supl σ) (codec : Codec β) {c : Endpoint.Config σ}
    (hc : Follows c.1.toTransactions c.2 ended) (op : Endpoint.Op σ β) :
    Moves c.1.toTransactions ended (Endpoint.step supl codec c op).1.1.toTransactions
      (Endpoint.step supl codec c op).1.2 (Endpoint.step supl codec c op).2 := by
  obtain ⟨s, frame⟩ := c
  cases op with
  | createTransaction sse =>
    simp only [Endpoint.step, Endpoint.keeping, Endpoint.createTransaction,
      Endpoint.onTransactions, hc.keyed.createTransaction]
    have hb := hc.begin (k := s.nextClient) rfl sse ((s.mTransactionId % 256 + 1) % 256)
    refine ⟨by simpa [Event.ends] using hb, fun h d hd _ => ?_, fun h hh => by simp at hh,
      fun h hh => by simp at hh, fun h d hd => ?_⟩
    · have hne : h ≠ s.nextClient := by
        rintro rfl
        rw [hc.keyed.find_next rfl] at hd
        cases hd
      exact ⟨d, by simpa [hne] using hd, rfl⟩
    · rw [Transactions.findTransaction_insert] at hd
      split_ifs at hd with hk
      · refine .inr (.inr ?_)
        rw [hk, hc.unborn _ (le_refl s.mGenerationId)]
        simp [Event.ends]
      · exact .inl ⟨d, hd, rfl⟩
  | deleteTransaction k =>
    show Moves s.toTransactions ended (s.toTransactions.clientEndTransaction k).1 frame
      (s.toTransactions.clientEndTransaction k).2
    cases hd : s.findTransaction k with
    | none => simpa [Transactions.clientEndTransaction, hd] using hc.moves
    | some d => simpa using hc.moves.clientEnd (β := β) hd
  | send k m => exact moves_send hc k m
  | sendWithEnd k m => exact moves_sendWithEnd hc k m
  | abort k => exact moves_sendWithEnd hc k _
  | receive m =>
    cases frame with
    | some f => exact hc.moves
    | none => exact moves_receive hc m
  | returned =>
    cases frame with
    | none => exact hc.moves
    | some f =>
      obtain ⟨k, b⟩ := f
      cases b with
      | true => exact hc.serverEnd
      | false => exact hc.noEnd.moves
  | supl session => exact hc.moves
  | posinit => exact hc.moves

/-- Every end among the events comes with the removal. -/
def EndsRemove (es : List (Event β)) : Prop :=
  ∀ h, es.any (Event.ends h) = true → .onEndTransaction h ∈ es

theorem EndsRemove.wire (hes : EndsRemove es) {e : Event β} (he : e.isPos = true) :
    EndsRemove (es ++ [e]) := by
  intro h hh
  refine List.mem_append_left _ (hes h ?_)
  cases e <;> simp_all [Event.isPos, Event.ends]

theorem EndsRemove.clientEnd (hes : EndsRemove es) {k : TransactionHandle} {d : TransactionData}
    (hd : t.findTransaction k = some d) : EndsRemove (es ++ (t.clientEndTransaction k).2) := by
  intro h hh
  rw [Transactions.clientEndTransaction_of_find hd] at hh ⊢
  by_cases hk : k = h
  · simp [hk]
  · refine List.mem_append_left _ (hes h ?_)
    simpa [Event.ends, hk] using hh

theorem endsRemove_sendWithEnd (k : TransactionHandle) (m : Message β) :
    EndsRemove (s.sendWithEnd supl codec k m).2 := by
  rw [← List.nil_append (s.sendWithEnd supl codec k m).2]
  exact Endpoint.sendWithEnd_keeps supl codec
    (P := fun _ es => EndsRemove es) (fun h hh => by simp at hh)
    (fun _ _ _ hes he => hes.wire he) (fun _ _ _ _ _ hes _ => hes)
    (fun _ _ _ _ _ _ hes hd => hes.clientEnd hd)

theorem endsRemove_send (k : TransactionHandle) (m : Message β) :
    EndsRemove (s.send supl codec k m).2 := by
  rw [← List.nil_append (s.send supl codec k m).2]
  exact Endpoint.send_keeps supl codec
    (P := fun _ es => EndsRemove es) (fun h hh => by simp at hh)
    (fun _ _ _ hes he => hes.wire he) (fun _ _ _ _ _ hes _ => hes)
    (fun _ _ _ _ _ _ _ hes hd => hes.clientEnd hd)

/-- Without a payload that comes in, a transaction is ended only with its removal. -/
theorem endsRemove_step {c : Endpoint.Config σ} (hc : c.1.toTransactions.Keyed)
    {op : Endpoint.Op σ β} (hop : ∀ m, op ≠ .receive m) :
    EndsRemove (Endpoint.step supl codec c op).2 := by
  obtain ⟨s, frame⟩ := c
  have hnil : EndsRemove ([] : List (Event β)) := fun h hh => by simp at hh
  cases op with
  | createTransaction sse =>
    simp only [Endpoint.step, Endpoint.keeping, Endpoint.createTransaction,
      Endpoint.onTransactions, hc.createTransaction]
    intro h hh
    simp [Event.ends] at hh
  | deleteTransaction k =>
    show EndsRemove (s.toTransactions.clientEndTransaction k).2
    cases hd : s.findTransaction k with
    | none => simpa [Transactions.clientEndTransaction, hd] using hnil
    | some d => simpa using hnil.clientEnd hd
  | send k m => exact endsRemove_send k m
  | sendWithEnd k m => exact endsRemove_sendWithEnd k m
  | abort k => exact endsRemove_sendWithEnd k _
  | receive m => exact absurd rfl (hop m)
  | returned =>
    cases frame with
    | none => exact hnil
    | some f =>
      obtain ⟨k, b⟩ := f
      cases b with
      | false => exact hnil
      | true =>
        show EndsRemove (s.toTransactions.serverEndTransaction k).2
        cases hd : s.findTransaction k with
        | none => simpa [Transactions.serverEndTransaction, hd] using hnil
        | some d =>
          rw [Transactions.serverEndTransaction_of_find hd]
          intro h hh
          split_ifs at hh <;> simp [Event.ends] at hh
  | supl session => exact hnil
  | posinit => exact hnil

end Session

end SuplLpp.Lpp
