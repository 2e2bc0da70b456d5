import SuplLpp.Lpp.Endpoint
import SuplLpp.Lib.Ring

/-!
# The transaction table of a session

Ids of client transactions are handed out in turn, modulo 256, and the set of ids in use is
never filled.  So a new client transaction gets the id of the one that was created 256
creations before.

* `Numbered`: the `k`-th created client transaction has the id `(1 + k) % 256`, and every
  live client transaction was created in this run;
* `Recent`: at a creation, every live client transaction is among the 255 created last.
  `table_exact` proves the table exact over every run that meets this;
  `table_not_exact` is a run of 257 creations that does not.
-/

namespace SuplLpp.Lpp

variable {σ β : Type*}

/-- The client transactions that were created, oldest first. -/
def created (out : List (Event β)) : List TransactionHandle :=
  out.filterMap fun
    | .created handle => some handle
    | _ => none

@[simp] theorem created_append (out es : List (Event β)) :
    created (out ++ es) = created out ++ created es := List.filterMap_append

/-- The ids of the created client transactions, and where the live ones stand. -/
structure Numbered (t : Transactions) (out : List (Event β)) : Prop where
  keyed : t.Keyed
  indexed : t.Indexed
  ids : (created out).map TransactionHandle.id =
    (List.range (created out).length).map fun k : ℕ => (1 + (k : ℤ)) % 256
  next : t.mTransactionId = (1 + ((created out).length : ℤ)) % 256
  listed : ∀ h ∈ t.mTransactions, h.initiator = .targetDevice → h ∈ created out

namespace Numbered

variable {t t' : Transactions} {out es : List (Event β)}

theorem new : Numbered Transactions.new ([] : List (Event β)) where
  keyed := Transactions.keyed_new
  indexed := Table.Indexes.empty
  ids := rfl
  next := rfl
  listed h hh := by simp [Transactions.new] at hh

/-- Changes that bring no client transaction. -/
theorem mono (ht : Numbered t out) (hkeyed : t'.Keyed) (hix : t'.Indexed)
    (hid : t'.mTransactionId = t.mTransactionId)
    (hmem : ∀ h ∈ t'.mTransactions, h.initiator = .targetDevice → h ∈ t.mTransactions)
    (hes : created es = []) : Numbered t' (out ++ es) := by
  have hout : created (out ++ es) = created out := by rw [created_append, hes, List.append_nil]
  constructor
  · exact hkeyed
  · exact hix
  · rw [hout, ht.ids]
  · rw [hid, hout, ht.next]
  · intro h hh hi
    rw [hout]
    exact ht.listed h (hmem h hh hi) hi

theorem setData (ht : Numbered t out) {h : TransactionHandle} {d : TransactionData}
    (hh : h ∈ t.mTransactions) (hd : d.handle = h) : Numbered (t.setData h d) out := by
  rw [← List.append_nil out]
  exact ht.mono (ht.keyed.setData hh hd) (ht.indexed.setData hh d) rfl
    (fun k hk _ => (Transactions.mem_setData hh).1 hk) rfl

theorem clientEndTransaction (ht : Numbered t out) (h : TransactionHandle) :
    Numbered (t.clientEndTransaction (β := β) h).1 (out ++ (t.clientEndTransaction h).2) := by
  have hkeyed := ht.keyed.clientEndTransaction (β := β) h
  have hix := ht.indexed.clientEndTransaction (β := β) h
  cases hd : t.findTransaction h with
  | none => simpa [Transactions.clientEndTransaction, hd] using ht
  | some d =>
    rw [Transactions.clientEndTransaction_of_find hd] at hkeyed hix ⊢
    exact ht.mono hkeyed hix rfl
      (fun k hk _ => (Transactions.mem_setData (Table.mem_of_lookup hd)).1 (AList.mem_erase.1 hk).2)
      rfl

theorem serverEndTransaction (ht : Numbered t out) (h : TransactionHandle) :
    Numbered (t.serverEndTransaction (β := β) h).1 (out ++ (t.serverEndTransaction h).2) := by
  have hkeyed := ht.keyed.serverEndTransaction (β := β) h
  have hix := ht.indexed.serverEndTransaction (β := β) h
  cases hd : t.findTransaction h with
  | none => simpa [Transactions.serverEndTransaction, hd] using ht
  | some d =>
    have hh := Table.mem_of_lookup hd
    rw [Transactions.serverEndTransaction_of_find hd] at hkeyed hix ⊢
    by_cases hend : (d.clientHasSentEnd || d.singleSideEndable) = true
    · rw [if_pos hend] at hkeyed hix ⊢
      exact ht.mono hkeyed hix rfl
        (fun k hk _ => (Transactions.mem_setData hh).1 (AList.mem_erase.1 hk).2)
        (by cases d.singleSideEndable <;> rfl)
    · rw [if_neg hend]
      simpa using ht.setData (d := { d with serverHasSentEnd := true }) hh
        (by simpa using ht.keyed.handle_eq hd)

/-- Among the 255 created last no transaction has the next id. -/
theorem id_ne_next (ht : Numbered t out) {h : TransactionHandle}
    (hh : h ∈ Ring.keepNewest 255 (created out)) : h.id ≠ t.mTransactionId := by
  obtain ⟨i, hi, rfl⟩ := List.getElem_of_mem hh
  rw [Ring.length_keepNewest] at hi
  simp only [Ring.keepNewest, List.getElem_drop]
  have hk : (created out).length - 255 + i < (created out).length := by omega
  have hid := congrArg (fun l => l[(created out).length - 255 + i]?) ht.ids
  simp only [List.getElem?_map, List.getElem?_eq_getElem hk, List.getElem?_range hk,
    Option.map_some, Option.some.injEq] at hid
  rw [hid, ht.next]
  omega

theorem nextClient_eq (ht : Numbered t out) :
    t.nextClient = ⟨t.mTransactionId, t.mGenerationId, .targetDevice⟩ := by
  have hnext := ht.next
  rw [Transactions.nextClient, show t.mTransactionId % 256 = t.mTransactionId by omega]

/-- A creation when every live client transaction is among the 255 created last. -/
theorem createTransaction (ht : Numbered t out)
    (hrecent : ∀ h ∈ t.mTransactions, h.initiator = .targetDevice →
      h ∈ Ring.keepNewest 255 (created out)) (sse : Bool) :
    Numbered (t.createTransaction (β := β) sse).1 (out ++ (t.createTransaction sse).2.1) := by
  have hnext := ht.next
  have hclient := ht.nextClient_eq
  have hfree : ∀ k ∈ t.mTransactions, k.lookup ≠ t.nextClient.lookup := by
    intro k hk he
    rw [hclient] at he
    simp only [TransactionHandle.lookup, TransactionLookup.mk.injEq] at he
    exact ht.id_ne_next (hrecent k hk he.2) he.1
  rw [ht.keyed.createTransaction]
  have hlist : created (out ++ [Event.onBeginTransaction (β := β) t.nextClient sse,
      .created t.nextClient]) = created out ++ [t.nextClient] := by
    rw [created_append]
    rfl
  refine ⟨ht.keyed.count_insert rfl _ _, ht.indexed.count_insert hfree _ _, ?_, ?_, ?_⟩
  · rw [hlist, List.map_append, ht.ids, List.length_append, List.length_singleton,
      List.range_succ, List.map_append, List.map_singleton, List.map_singleton, hclient, hnext]
  · rw [hlist, List.length_append, List.length_singleton]
    show (t.mTransactionId % 256 + 1) % 256 = _
    rw [hnext]
    push_cast
    omega
  · intro k hk hi
    rw [hlist, List.mem_append, List.mem_singleton]
    rcases (AList.mem_insert _).1 hk with he | hk
    · exact Or.inr he
    · exact Or.inl (ht.listed k hk hi)

end Numbered

/-! ### Whole runs -/

/-- At a creation, every live client transaction is among the 255 created last. -/
def Recent (c : Endpoint.Config σ) (out : List (Event β)) : Endpoint.Op σ β → Prop
  | .createTransaction _ => ∀ h ∈ c.1.mTransactions, h.initiator = .targetDevice →
      h ∈ Ring.keepNewest 255 (created out)
  | _ => True

theorem numbered_send (supl : Supl σ) (codec : Codec β) {s : Endpoint σ} {out : List (Event β)}
    (hs : Numbered s.toTransactions out) (handle : TransactionHandle) (message : Message β) :
    Numbered (s.send supl codec handle message).1.toTransactions
      (out ++ (s.send supl codec handle message).2) := by
  refine Endpoint.send_keeps supl codec (P := Numbered) hs ?_ ?_ ?_
  · intro t out e ht he
    exact ht.mono ht.keyed ht.indexed rfl (fun _ hh _ => hh)
      (by cases e <;> simp_all [Event.isPos, created])
  · intro t out k d b ht hd
    exact ht.setData (Table.mem_of_lookup hd) (by simpa using ht.keyed.handle_eq hd)
  · intro _ _ _ _ _ t out ht _
    exact ht.clientEndTransaction handle

theorem numbered_sendWithEnd (supl : Supl σ) (codec : Codec β) {s : Endpoint σ}
    {out : List (Event β)} (hs : Numbered s.toTransactions out) (handle : TransactionHandle)
    (message : Message β) :
    Numbered (s.sendWithEnd supl codec handle message).1.toTransactions
      (out ++ (s.sendWithEnd supl codec handle message).2) := by
  cases hd : s.findTransaction handle with
  | none => simpa [Endpoint.sendWithEnd, hd] using hs
  | some d =>
    simp only [Endpoint.sendWithEnd, hd]
    refine numbered_send supl codec (s := s.asking handle d) ?_ handle message
    exact hs.setData (Table.mem_of_lookup hd) (by simpa using hs.keyed.handle_eq hd)

theorem created_arrival (handle : TransactionHandle) (message : Message β) :
    created (Endpoint.arrival handle message) = [] := by
  cases h : message.endTransaction <;> simp [Endpoint.arrival, h, created]

theorem numbered_receive {s : Endpoint σ} {out : List (Event β)}
    (hs : Numbered s.toTransactions out) (message : Option (Message β)) :
    Numbered (s.receive message).1.toTransactions (out ++ (s.receive message).2.1) := by
  rcases Endpoint.receive_cases hs.keyed message with
    h | ⟨m, d, -, -, h⟩ | ⟨m, k, h⟩ | h | ⟨m, id, -, hfind, h⟩
  · rw [h]
    simpa using hs
  · rw [h]
    exact hs.mono hs.keyed hs.indexed rfl (fun _ hh _ => hh) (created_arrival _ _)
  · rw [h]
    exact hs.mono hs.keyed hs.indexed rfl (fun _ hh _ => hh) rfl
  · rw [h]
    exact hs.mono (hs.keyed.count _) hs.indexed rfl (fun _ hh _ => hh) rfl
  · rw [h]
    refine hs.mono (hs.keyed.count_insert rfl _ _)
      (hs.indexed.count_insert (h := s.nextServer id)
        (hs.indexed.free_of_findByLookup (l := ⟨id, .locationServer⟩) hfind) _ _) rfl
      (fun k hk hi => ?_) (created_arrival _ _)
    rcases (AList.mem_insert _).1 hk with rfl | hk
    · cases hi
    · exact hk

/-- **One step** of an endpoint that meets `Recent`. -/
theorem numbered_step (supl : Supl σ) (codec : Codec β) {c : Endpoint.Config σ}
    {out : List (Event β)} (hc : Numbered c.1.toTransactions out) (op : Endpoint.Op σ β)
    (hop : Recent c out op) :
    Numbered (Endpoint.step supl codec c op).1.1.toTransactions
      (out ++ (Endpoint.step supl codec c op).2) := by
  obtain ⟨s, frame⟩ := c
  cases op with
  | createTransaction sse => exact hc.createTransaction hop sse
  | deleteTransaction handle => exact hc.clientEndTransaction handle
  | send handle message => exact numbered_send supl codec hc handle message
  | sendWithEnd handle message => exact numbered_sendWithEnd supl codec hc handle message
  | abort handle => exact numbered_sendWithEnd supl codec hc handle _
  | receive message =>
    cases frame with
    | some f => simpa [Endpoint.step] using hc
    | none => exact numbered_receive hc message
  | returned =>
    cases frame with
    | none => simpa [Endpoint.step] using hc
    | some f =>
      simp only [Endpoint.step, Endpoint.keeping, Endpoint.returned]
      split_ifs
      · exact hc.serverEndTransaction f.handle
      · simpa using hc
  | supl session => simpa [Endpoint.step] using hc
  | posinit => simpa [Endpoint.step] using hc

theorem numbered_run (supl : Supl σ) (codec : Codec β) (hack : Bool)
    {ops : List (Endpoint.Op σ β)}
    (hops : Mealy.Along Recent (Endpoint.step supl codec) (Endpoint.new hack, none) [] ops) :
    Numbered (Mealy.run (Endpoint.step supl codec) (Endpoint.new hack, none) ops).1.1.toTransactions
      (Mealy.run (Endpoint.step supl codec) (Endpoint.new hack, none) ops).2 :=
  Mealy.invariant_run (P := fun c out => Numbered c.1.toTransactions out)
    (fun _ _ op hc hop => numbered_step supl codec hc op hop) Numbered.new hops

/-- **The table is exact.**  In a run in which no client transaction outlives 255 creations
before the next one, no two live transactions share the pair their messages carry, the
lookup table leads from this pair to the live transaction that has it and holds nothing
else, a new client transaction gets an id that no live one has, and a payload for a live
transaction is delivered under its handle. -/
theorem table_exact (supl : Supl σ) (codec : Codec β) (hack : Bool)
    (ops : List (Endpoint.Op σ β))
    (hops : Mealy.Along Recent (Endpoint.step supl codec) (Endpoint.new hack, none) [] ops) :
    let c := (Mealy.run (Endpoint.step supl codec) (Endpoint.new hack, none) ops).1
    let out := (Mealy.run (Endpoint.step supl codec) (Endpoint.new hack, none) ops).2
    (∀ h ∈ c.1.mTransactions, ∀ k ∈ c.1.mTransactions, h.lookup = k.lookup → h = k) ∧
      (∀ l h, c.1.mTransacionLookup.lookup l = some h ↔
        h ∈ c.1.mTransactions ∧ h.lookup = l) ∧
      (∀ sse, Recent c out (.createTransaction sse) → ∀ h,
        .created h ∈ (Endpoint.step supl codec c (.createTransaction sse)).2 →
        ∀ k ∈ c.1.mTransactions, k.initiator = .targetDevice → k.id ≠ h.id) ∧
      (∀ h ∈ c.1.mTransactions, ∀ m : Message β, m.transactionID = some h.lookup →
        m.lppMessageBody.isSome → c.2 = none →
        (Endpoint.step supl codec c (.receive (some m))).2 = Endpoint.arrival h m) := by
  intro c out
  have hnum : Numbered c.1.toTransactions out := numbered_run supl codec hack hops
  refine ⟨fun h hh k hk => Table.Indexes.unique hnum.indexed hh hk, hnum.indexed, ?_, ?_⟩
  · intro sse hrecent h hh k hk hi
    simp only [Endpoint.step, Endpoint.keeping, Endpoint.createTransaction,
      Endpoint.onTransactions, hnum.keyed.createTransaction, hnum.nextClient_eq, List.mem_cons,
      List.not_mem_nil, or_false, reduceCtorEq, false_or, Event.created.injEq] at hh
    rw [hh]
    exact hnum.id_ne_next (hrecent k hk hi)
  · intro h hh m hm hb hframe
    obtain ⟨d, hd⟩ := Transactions.mem_iff_findTransaction.1 hh
    obtain ⟨body, hbody⟩ := Option.isSome_iff_exists.1 hb
    have hfind := hnum.indexed.findByLookup hh
    rw [hd] at hfind
    simp only [Endpoint.step, hframe, Endpoint.receive, hm, hbody, hfind, hnum.keyed.handle_eq hd,
      Endpoint.arrival, List.nil_append]

/-- Two transactions of the client and one of the server. -/
theorem table_exact_three :
    (Mealy.run (Endpoint.step Supl.ideal Codec.ideal) (Endpoint.new false, none)
        [.createTransaction true, .createTransaction false,
          .receive (some ⟨some ⟨1, .locationServer⟩, false, none, some ()⟩)]
        ).1.1.mTransacionLookup.lookup ⟨2, .targetDevice⟩ = some ⟨2, 2, .targetDevice⟩ :=
  ((table_exact Supl.ideal Codec.ideal false
    [.createTransaction true, .createTransaction false,
      .receive (some ⟨some ⟨1, .locationServer⟩, false, none, some ()⟩)]
    ⟨by simp [Recent, Endpoint.new, Transactions.new], fun h hh _ => by
        rw [show h = ⟨1, 1, .targetDevice⟩ from
          ((AList.mem_insert _).1 hh).resolve_right fun hn => by cases hn]
        decide, trivial, trivial⟩).2.1 ⟨2, .targetDevice⟩ ⟨2, 2, .targetDevice⟩).2
      ⟨by decide, rfl⟩

/-! ### A transaction that outlives 255 others -/

/-- Creations and deletions while the transaction created first stays open. -/
def churn (i : ℕ) : List (Endpoint.Op Unit Unit) :=
  [.createTransaction true,
    .deleteTransaction ⟨((i : ℤ) + 2) % 256, (i : ℤ) + 2, .targetDevice⟩]

/-- After the first creation and `i` others: the first transaction is live. -/
structure Outlived (i : ℕ) (c : Endpoint.Config Unit) (out : List (Event Unit)) : Prop where
  numbered : Numbered c.1.toTransactions out
  length : (created out).length = i + 1
  generation : c.1.mGenerationId = (i : ℤ) + 2
  first : (⟨1, 1, .targetDevice⟩ : TransactionHandle) ∈ c.1.mTransactions

theorem Outlived.churn {i : ℕ} {c : Endpoint.Config Unit} {out : List (Event Unit)}
    (hc : Outlived i c out) (hi : i < 255) :
    Outlived (i + 1) (Mealy.run (Endpoint.step Supl.ideal Codec.ideal) c (churn i)).1
      (out ++ (Mealy.run (Endpoint.step Supl.ideal Codec.ideal) c (churn i)).2) := by
  have hnext : c.1.mTransactionId = ((i : ℤ) + 2) % 256 := by
    rw [hc.numbered.next, hc.length]
    push_cast
    omega
  have hrecent : ∀ h ∈ c.1.mTransactions, h.initiator = .targetDevice →
      h ∈ Ring.keepNewest 255 (created out) := by
    rw [Ring.keepNewest_of_le (by rw [hc.length]; omega)]
    exact hc.numbered.listed
  have hnum := hc.numbered.createTransaction hrecent true
  have hclient : c.1.nextClient = ⟨((i : ℤ) + 2) % 256, (i : ℤ) + 2, .targetDevice⟩ := by
    rw [hc.numbered.nextClient_eq, hnext, hc.generation]
  rw [hc.numbered.keyed.createTransaction, hclient] at hnum
  have hself := Transactions.findTransaction_insert
    (c.1.count ((c.1.mTransactionId % 256 + 1) % 256))
    ⟨((i : ℤ) + 2) % 256, (i : ℤ) + 2, .targetDevice⟩
    ⟨((i : ℤ) + 2) % 256, (i : ℤ) + 2, .targetDevice⟩ true
  rw [if_pos rfl] at hself
  have hdel := hnum.clientEndTransaction ⟨((i : ℤ) + 2) % 256, (i : ℤ) + 2, .targetDevice⟩
  rw [Transactions.clientEndTransaction_of_find hself] at hdel
  simp only [Lpp.churn, Mealy.run_cons, Mealy.run_nil, Endpoint.step, Endpoint.keeping,
    Endpoint.createTransaction, Endpoint.deleteTransaction, Transactions.deleteTransaction,
    Endpoint.onTransactions, hc.numbered.keyed.createTransaction, hclient,
    Transactions.clientEndTransaction_of_find hself, List.append_nil]
  rw [← List.append_assoc]
  refine ⟨hdel, ?_, ?_, ?_⟩
  · simp only [created_append, List.length_append, hc.length]
    rfl
  · show c.1.mGenerationId + 1 = _
    rw [hc.generation]
    push_cast
    ring
  · have hne : (⟨1, 1, .targetDevice⟩ : TransactionHandle) ≠
        ⟨((i : ℤ) + 2) % 256, (i : ℤ) + 2, .targetDevice⟩ := by
      simp only [ne_eq, TransactionHandle.mk.injEq, and_true, not_and]
      omega
    exact AList.mem_erase.2 ⟨hne, (Transactions.mem_setData (Table.mem_of_lookup hself)).2
      ((AList.mem_insert _).2 (Or.inr hc.first))⟩

theorem outlived : ∀ i ≤ 255, Outlived i
    (Mealy.run (Endpoint.step Supl.ideal Codec.ideal) (Endpoint.new false, none)
      (.createTransaction true :: (List.range i).flatMap churn)).1
    (Mealy.run (Endpoint.step Supl.ideal Codec.ideal) (Endpoint.new false, none)
      (.createTransaction true :: (List.range i).flatMap churn)).2 := by
  intro i hi
  induction i with
  | zero =>
    refine ⟨?_, rfl, rfl, by decide⟩
    exact numbered_run Supl.ideal Codec.ideal false
      ⟨by simp [Recent, Endpoint.new, Transactions.new], trivial⟩
  | succ i ih =>
    have h := (ih (by omega)).churn (by omega)
    rw [List.range_succ, List.flatMap_append, ← List.cons_append, Mealy.run_append]
    simpa using h

/-- The next creation takes the id 1, which the first transaction still has. -/
theorem Outlived.not_exact {c : Endpoint.Config Unit} {out : List (Event Unit)}
    (hc : Outlived 255 c out) :
    ¬∀ h ∈ (Endpoint.step Supl.ideal Codec.ideal c
        (.createTransaction true)).1.1.mTransactions,
      ∀ k ∈ (Endpoint.step Supl.ideal Codec.ideal c
        (.createTransaction true)).1.1.mTransactions, h.lookup = k.lookup → h = k := by
  intro h
  have hid : c.1.mTransactionId = 1 := by
    rw [hc.numbered.next, hc.length]
    rfl
  simp only [Endpoint.step, Endpoint.keeping, Endpoint.createTransaction,
    Endpoint.onTransactions, hc.numbered.keyed.createTransaction, hc.numbered.nextClient_eq,
    hid] at h
  have := h _ ((AList.mem_insert _).2 (Or.inr hc.first)) _ ((AList.mem_insert _).2 (Or.inl rfl)) rfl
  simp [hc.generation] at this

/-- **The id of a live transaction is handed out again**: the first transaction stays open
while 255 more are created and deleted, and the next creation takes its id. -/
theorem table_not_exact :
    ¬∀ h ∈ (Mealy.run (Endpoint.step Supl.ideal Codec.ideal) (Endpoint.new false, none)
        (.createTransaction true :: (List.range 255).flatMap churn ++
          [.createTransaction true])).1.1.mTransactions,
      ∀ k ∈ (Mealy.run (Endpoint.step Supl.ideal Codec.ideal) (Endpoint.new false, none)
        (.createTransaction true :: (List.range 255).flatMap churn ++
          [.createTransaction true])).1.1.mTransactions, h.lookup = k.lookup → h = k := by
  rw [Mealy.run_snoc_fst]
  exact (outlived 255 (le_refl _)).not_exact

end SuplLpp.Lpp
