import SuplLpp.Lib.Table
import Mathlib.Data.Finset.Basic
import Mathlib.Tactic.Ring

/-!
# LPP transactions

The members of `lpp::Session` that hold its transactions, and the functions that change
them.

* `mTransactions` holds the live transactions, `mTransacionLookup` leads from the pair
  (id, initiator) a message carries to the live handle, `mClientTransactions` is the set
  of ids of client transactions;
* a handle also carries a generation number, so that a handle of an ended transaction
  does not reach a later one with the same id;
* `Transactions.Keyed` holds in every run; `Transactions.Indexed`, that the lookup table is
  the index of the live transactions, is kept as long as a new handle has an
  (id, initiator) pair that is free.

A valid `TransactionHandle` is modelled; an invalid one is in no table, so that every
operation on it does what it does on an unknown handle.
-/

namespace SuplLpp.Lpp

inductive Initiator
  | targetDevice
  | locationServer
  deriving DecidableEq

/-- What a message carries of its transaction. -/
structure TransactionLookup where
  id : ℤ
  initiator : Initiator
  deriving DecidableEq

structure TransactionHandle where
  id : ℤ
  generationId : ℤ
  initiator : Initiator
  deriving DecidableEq

def TransactionHandle.lookup (handle : TransactionHandle) : TransactionLookup :=
  ⟨handle.id, handle.initiator⟩

structure TransactionData where
  handle : TransactionHandle
  clientHasSentEnd : Bool
  serverHasSentEnd : Bool
  clientShouldSendEnd : Bool
  singleSideEndable : Bool
  deriving DecidableEq

/-- `LPP_Message` with a body of type `β`. -/
structure Message (β : Type*) where
  transactionID : Option TransactionLookup
  endTransaction : Bool
  sequenceNumber : Option ℤ
  lppMessageBody : Option β
  deriving DecidableEq

/-- What an observer of a session sees: its callbacks, what it hands to the SUPL session,
and the moments at which a side ends a live transaction (`clientEnded`, `serverEnded`). -/
inductive Event (β : Type*)
  | onBeginTransaction (handle : TransactionHandle) (singleSideEndable : Bool)
  | onEndTransaction (handle : TransactionHandle)
  | onServerEndTransaction (handle : TransactionHandle)
  | onMessage (handle : TransactionHandle) (message : Message β)
  | clientEnded (handle : TransactionHandle)
  | serverEnded (handle : TransactionHandle)
  | posSent (handle : TransactionHandle) (message : Message β)
  | posQueued (handle : TransactionHandle) (message : Message β)
  | posDropped
  | posFailed
  | created (handle : TransactionHandle)
  deriving DecidableEq

/-- The event is about handing a message to the SUPL session, not about a transaction. -/
def Event.isPos {β : Type*} : Event β → Bool
  | .posSent .. | .posQueued .. | .posDropped | .posFailed => true
  | _ => false

structure Transactions where
  mTransacionLookup : Table TransactionLookup TransactionHandle
  mTransactions : Table TransactionHandle TransactionData
  mClientTransactions : Finset ℤ
  mTransactionId : ℤ
  mGenerationId : ℤ

namespace Transactions

variable {β : Type*}

/-- The transactions of a session that was just constructed. -/
def new : Transactions := ⟨∅, ∅, ∅, 1, 1⟩

def findTransaction (t : Transactions) (handle : TransactionHandle) : Option TransactionData :=
  t.mTransactions.lookup handle

/-- `find_transaction` by the pair a message carries. -/
def findByLookup (t : Transactions) (lookup : TransactionLookup) : Option TransactionData :=
  (t.mTransacionLookup.lookup lookup).bind t.findTransaction

/-- The assignment to a found entry. -/
def setData (t : Transactions) (handle : TransactionHandle) (data : TransactionData) :
    Transactions :=
  { t with mTransactions := t.mTransactions.insert handle data }

/-- The insertions of `add_transaction`. -/
def insert (t : Transactions) (transaction : TransactionHandle) (singleSideEndable : Bool) :
    Transactions :=
  { t with
    mTransacionLookup := t.mTransacionLookup.insert transaction.lookup transaction
    mTransactions := t.mTransactions.insert transaction
      ⟨transaction, false, false, false, singleSideEndable⟩ }

def addTransaction (t : Transactions) (transaction : TransactionHandle)
    (singleSideEndable : Bool) : Transactions × List (Event β) × Bool :=
  if transaction.id < 0 ∨ transaction.id > 255 then (t, [], false)
  else if (t.findTransaction transaction).isSome then (t, [], false)
  else
    (t.insert transaction singleSideEndable,
      [.onBeginTransaction transaction singleSideEndable], true)

/-- The erasures of `remove_transaction`. -/
def erase (t : Transactions) (transaction : TransactionHandle) : Transactions :=
  { t with
    mTransacionLookup := t.mTransacionLookup.erase transaction.lookup
    mTransactions := t.mTransactions.erase transaction
    mClientTransactions :=
      if transaction.initiator = .targetDevice then t.mClientTransactions.erase transaction.id
      else t.mClientTransactions }

def removeTransaction (t : Transactions) (transaction : TransactionHandle) :
    Transactions × List (Event β) :=
  match t.findTransaction transaction with
  | none => (t, [])
  | some data =>
    let endedByBoth := data.clientHasSentEnd && data.clientHasSentEnd
    let endedBySomeone := data.clientHasSentEnd || data.serverHasSentEnd
    if endedByBoth || (data.singleSideEndable && endedBySomeone) then
      (t.erase transaction, [.onEndTransaction transaction])
    else (t, [])

def serverEndTransaction (t : Transactions) (transaction : TransactionHandle) :
    Transactions × List (Event β) :=
  match t.findTransaction transaction with
  | none => (t, [])
  | some data =>
    let r := (t.setData transaction { data with serverHasSentEnd := true }).removeTransaction
      transaction
    (r.1, (if data.singleSideEndable then [.onServerEndTransaction transaction] else []) ++ r.2)

def clientEndTransaction (t : Transactions) (transaction : TransactionHandle) :
    Transactions × List (Event β) :=
  match t.findTransaction transaction with
  | none => (t, [])
  | some data =>
    let r := (t.setData transaction { data with clientHasSentEnd := true }).removeTransaction
      transaction
    (r.1, .clientEnded transaction :: r.2)

/-- The counters after a handle was made. -/
def count (t : Transactions) (nextId : ℤ) : Transactions :=
  { t with mTransactionId := nextId, mGenerationId := t.mGenerationId + 1 }

/-- The first free id from `mTransactionId` on, of 255 that are tried. -/
def allocateTransaction (t : Transactions) : Transactions × Option TransactionHandle :=
  match ((List.range 255).map fun i : ℕ => (t.mTransactionId + i) % 256).find?
      (· ∉ t.mClientTransactions) with
  | none => (t, none)
  | some id => (t.count ((id + 1) % 256), some ⟨id, t.mGenerationId, .targetDevice⟩)

def createTransaction (t : Transactions) (singleSideEndable : Bool) :
    Transactions × List (Event β) × Option TransactionHandle :=
  match t.allocateTransaction with
  | (t, none) => (t, [], none)
  | (t, some transaction) =>
    match t.addTransaction transaction singleSideEndable with
    | (t, events, false) => (t, events, none)
    | (t, events, true) => (t, events ++ [.created transaction], some transaction)

def deleteTransaction (t : Transactions) (transaction : TransactionHandle) :
    Transactions × List (Event β) :=
  t.clientEndTransaction transaction

/-- What `process_lpp_payload` does for a message of the server without a transaction. -/
def openTransaction (t : Transactions) (id : ℤ) : Transactions × List (Event β) :=
  let handle : TransactionHandle := ⟨id, t.mGenerationId, .locationServer⟩
  let r := (t.count t.mTransactionId).addTransaction handle true
  (r.1, r.2.1)

/-! ### What the operations do to the tables -/

@[simp] theorem findTransaction_setData (t : Transactions) (h k : TransactionHandle)
    (d : TransactionData) :
    (t.setData h d).findTransaction k = if k = h then some d else t.findTransaction k :=
  Table.lookup_insert _ _ _ _

@[simp] theorem findTransaction_erase (t : Transactions) (h k : TransactionHandle) :
    (t.erase h).findTransaction k = if k = h then none else t.findTransaction k :=
  Table.lookup_erase _ _ _

theorem mem_iff_findTransaction {t : Transactions} {h : TransactionHandle} :
    h ∈ t.mTransactions ↔ ∃ d, t.findTransaction h = some d := by
  rw [← AList.lookup_isSome, Option.isSome_iff_exists]
  rfl

/-- When `remove_transaction` removes: the test for "ended by both" reads the client's
flag twice. -/
theorem removeTransaction_of_find {t : Transactions} {h : TransactionHandle}
    {d : TransactionData} (hd : t.findTransaction h = some d) :
    t.removeTransaction (β := β) h =
      if d.clientHasSentEnd || (d.singleSideEndable && d.serverHasSentEnd) then
        (t.erase h, [.onEndTransaction h])
      else (t, []) := by
  simp only [removeTransaction, hd]
  cases d.clientHasSentEnd <;> cases d.singleSideEndable <;> cases d.serverHasSentEnd <;> rfl

/-- The client's end of a live transaction always removes it. -/
theorem clientEndTransaction_of_find {t : Transactions} {h : TransactionHandle}
    {d : TransactionData} (hd : t.findTransaction h = some d) :
    t.clientEndTransaction (β := β) h =
      ((t.setData h { d with clientHasSentEnd := true }).erase h,
        [.clientEnded h, .onEndTransaction h]) := by
  simp only [clientEndTransaction, hd]
  rw [removeTransaction_of_find (d := { d with clientHasSentEnd := true }) (by simp)]
  simp

theorem serverEndTransaction_of_find {t : Transactions} {h : TransactionHandle}
    {d : TransactionData} (hd : t.findTransaction h = some d) :
    t.serverEndTransaction (β := β) h =
      if d.clientHasSentEnd || d.singleSideEndable then
        ((t.setData h { d with serverHasSentEnd := true }).erase h,
          (if d.singleSideEndable then [.onServerEndTransaction h] else []) ++
            [.onEndTransaction h])
      else (t.setData h { d with serverHasSentEnd := true }, []) := by
  simp only [serverEndTransaction, hd]
  rw [removeTransaction_of_find (d := { d with serverHasSentEnd := true }) (by simp)]
  simp only [Bool.and_true]
  cases d.singleSideEndable <;> cases d.clientHasSentEnd <;> simp

@[simp] theorem findTransaction_insert (t : Transactions) (h k : TransactionHandle) (sse : Bool) :
    (t.insert h sse).findTransaction k =
      if k = h then some ⟨h, false, false, false, sse⟩ else t.findTransaction k :=
  Table.lookup_insert _ _ _ _

@[simp] theorem findTransaction_count (t : Transactions) (nextId : ℤ) (k : TransactionHandle) :
    (t.count nextId).findTransaction k = t.findTransaction k := rfl

theorem mem_setData {t : Transactions} {h k : TransactionHandle} {d : TransactionData}
    (hh : h ∈ t.mTransactions) : k ∈ (t.setData h d).mTransactions ↔ k ∈ t.mTransactions := by
  constructor
  · intro hk
    rcases (AList.mem_insert _).1 hk with rfl | hk
    · exact hh
    · exact hk
  · exact fun hk => (AList.mem_insert _).2 (Or.inr hk)

/-! ### What holds in every run -/

/-- Entries stand under their handle, and a handle is of a generation that was counted.
`mClientTransactions` is never filled. -/
structure Keyed (t : Transactions) : Prop where
  handle_eq : ∀ {h d}, t.findTransaction h = some d → d.handle = h
  generation_lt : ∀ h ∈ t.mTransactions, h.generationId < t.mGenerationId
  noClientIds : t.mClientTransactions = ∅

theorem keyed_new : Keyed new where
  handle_eq h := by simp [findTransaction, new] at h
  generation_lt h hh := by simp [new] at hh
  noClientIds := rfl

/-- The handle of the next client transaction. -/
def nextClient (t : Transactions) : TransactionHandle :=
  ⟨t.mTransactionId % 256, t.mGenerationId, .targetDevice⟩

/-- The handle of the next transaction that the server opens with `id`. -/
def nextServer (t : Transactions) (id : ℤ) : TransactionHandle :=
  ⟨id, t.mGenerationId, .locationServer⟩

namespace Keyed

variable {t : Transactions} {h : TransactionHandle}

theorem setData (ht : t.Keyed) (hh : h ∈ t.mTransactions) {d : TransactionData}
    (hd : d.handle = h) : (t.setData h d).Keyed where
  handle_eq {k d'} hk := by
    rw [findTransaction_setData] at hk
    split_ifs at hk with he
    · cases hk
      rw [hd, he]
    · exact ht.handle_eq hk
  generation_lt k hk := ht.generation_lt k ((mem_setData hh).1 hk)
  noClientIds := ht.noClientIds

theorem erase (ht : t.Keyed) : (t.erase h).Keyed where
  handle_eq {k d} hk := by
    rw [findTransaction_erase] at hk
    split_ifs at hk
    exact ht.handle_eq hk
  generation_lt k hk := ht.generation_lt k (AList.mem_erase.1 hk).2
  noClientIds := by simp [Transactions.erase, ht.noClientIds]

theorem count (ht : t.Keyed) (nextId : ℤ) : (t.count nextId).Keyed where
  handle_eq := ht.handle_eq
  generation_lt k hk := by
    have := ht.generation_lt k hk
    show k.generationId < t.mGenerationId + 1
    omega
  noClientIds := ht.noClientIds

/-- A handle of the next generation is not live yet. -/
theorem find_next (ht : t.Keyed) (hgen : h.generationId = t.mGenerationId) :
    t.findTransaction h = none := by
  cases hf : t.findTransaction h with
  | none => rfl
  | some d =>
    have := ht.generation_lt _ (Table.mem_of_lookup hf)
    omega

theorem count_insert (ht : t.Keyed) (hgen : h.generationId = t.mGenerationId) (sse : Bool)
    (nextId : ℤ) : ((t.count nextId).insert h sse).Keyed where
  handle_eq {k d} hk := by
    rw [findTransaction_insert] at hk
    split_ifs at hk with he
    · cases hk
      exact he.symm
    · exact ht.handle_eq hk
  generation_lt k hk := by
    show k.generationId < t.mGenerationId + 1
    rcases (AList.mem_insert _).1 hk with rfl | hk
    · omega
    · have := ht.generation_lt k hk
      omega
  noClientIds := ht.noClientIds

theorem addTransaction (ht : t.Keyed) (hid : 0 ≤ h.id ∧ h.id ≤ 255)
    (hgen : h.generationId = t.mGenerationId) (sse : Bool) (nextId : ℤ) :
    (t.count nextId).addTransaction (β := β) h sse =
      ((t.count nextId).insert h sse, [.onBeginTransaction h sse], true) := by
  rw [Transactions.addTransaction, if_neg (by omega), if_neg (by simp [ht.find_next hgen])]

/-- A creation always succeeds, with the next id. -/
theorem createTransaction (ht : t.Keyed) (sse : Bool) :
    t.createTransaction (β := β) sse =
      ((t.count ((t.mTransactionId % 256 + 1) % 256)).insert t.nextClient sse,
        [.onBeginTransaction t.nextClient sse, .created t.nextClient], some t.nextClient) := by
  have halloc : t.allocateTransaction =
      (t.count ((t.mTransactionId % 256 + 1) % 256), some t.nextClient) := by
    simp only [Transactions.allocateTransaction, ht.noClientIds]
    rw [show (255 : ℕ) = 254 + 1 from rfl, List.range_succ_eq_map, List.map_cons]
    simp [nextClient]
  rw [Transactions.createTransaction, halloc]
  simp only [ht.addTransaction (h := t.nextClient) (by simp only [nextClient]; omega) rfl,
    List.cons_append, List.nil_append]

/-- A message of the server opens a transaction when its id is in range. -/
theorem openTransaction (ht : t.Keyed) {id : ℤ} (hid : 0 ≤ id ∧ id ≤ 255) :
    t.openTransaction (β := β) id =
      ((t.count t.mTransactionId).insert (t.nextServer id) true,
        [.onBeginTransaction (t.nextServer id) true]) := by
  rw [Transactions.openTransaction]
  simp only [ht.addTransaction (h := ⟨id, t.mGenerationId, .locationServer⟩) hid rfl]
  rfl

theorem clientEndTransaction (ht : t.Keyed) (h : TransactionHandle) :
    (t.clientEndTransaction (β := β) h).1.Keyed := by
  cases hd : t.findTransaction h with
  | none => simpa [Transactions.clientEndTransaction, hd] using ht
  | some d =>
    rw [clientEndTransaction_of_find hd]
    exact (ht.setData (Table.mem_of_lookup hd) (by simpa using ht.handle_eq hd)).erase

theorem serverEndTransaction (ht : t.Keyed) (h : TransactionHandle) :
    (t.serverEndTransaction (β := β) h).1.Keyed := by
  cases hd : t.findTransaction h with
  | none => simpa [Transactions.serverEndTransaction, hd] using ht
  | some d =>
    rw [serverEndTransaction_of_find hd]
    have hset : (t.setData h { d with serverHasSentEnd := true }).Keyed :=
      ht.setData (Table.mem_of_lookup hd) (by simpa using ht.handle_eq hd)
    by_cases hend : (d.clientHasSentEnd || d.singleSideEndable) = true
    · rw [if_pos hend]
      exact hset.erase
    · rw [if_neg hend]
      exact hset

end Keyed

theorem openTransaction_of_range (t : Transactions) {id : ℤ} (hid : id < 0 ∨ id > 255) :
    t.openTransaction (β := β) id = (t.count t.mTransactionId, []) := by
  rw [openTransaction, addTransaction, if_pos hid]

/-! ### The lookup table is the index of the live transactions -/

/-- The lookup table leads from the pair of every live transaction to it, and holds nothing
else. -/
def Indexed (t : Transactions) : Prop :=
  Table.Indexes TransactionHandle.lookup t.mTransactions t.mTransacionLookup

namespace Indexed

variable {t : Transactions} {h : TransactionHandle}

theorem setData (ht : t.Indexed) (hh : h ∈ t.mTransactions) (d : TransactionData) :
    (t.setData h d).Indexed :=
  Table.Indexes.replace ht hh d

theorem erase (ht : t.Indexed) (hh : h ∈ t.mTransactions) : (t.erase h).Indexed :=
  Table.Indexes.erase ht hh

theorem count_insert (ht : t.Indexed) (hfree : ∀ k ∈ t.mTransactions, k.lookup ≠ h.lookup)
    (sse : Bool) (nextId : ℤ) : ((t.count nextId).insert h sse).Indexed :=
  Table.Indexes.insert ht hfree _

/-- The pair a message carries leads to the live transaction that has it. -/
theorem findByLookup (ht : t.Indexed) (hh : h ∈ t.mTransactions) :
    t.findByLookup h.lookup = t.findTransaction h := by
  rw [Transactions.findByLookup, (ht _ _).2 ⟨hh, rfl⟩]
  rfl

theorem free_of_findByLookup (ht : t.Indexed) {l : TransactionLookup}
    (hl : t.findByLookup l = none) : ∀ k ∈ t.mTransactions, k.lookup ≠ l := by
  rintro k hk rfl
  rw [ht.findByLookup hk] at hl
  exact (AList.lookup_eq_none.1 hl) hk

theorem clientEndTransaction (ht : t.Indexed) (h : TransactionHandle) :
    (t.clientEndTransaction (β := β) h).1.Indexed := by
  cases hd : t.findTransaction h with
  | none => simpa [Transactions.clientEndTransaction, hd] using ht
  | some d =>
    rw [clientEndTransaction_of_find hd]
    exact (ht.setData (Table.mem_of_lookup hd) _).erase ((AList.mem_insert _).2 (Or.inl rfl))

theorem serverEndTransaction (ht : t.Indexed) (h : TransactionHandle) :
    (t.serverEndTransaction (β := β) h).1.Indexed := by
  cases hd : t.findTransaction h with
  | none => simpa [Transactions.serverEndTransaction, hd] using ht
  | some d =>
    rw [serverEndTransaction_of_find hd]
    have hset : (t.setData h { d with serverHasSentEnd := true }).Indexed :=
      ht.setData (Table.mem_of_lookup hd) _
    by_cases hend : (d.clientHasSentEnd || d.singleSideEndable) = true
    · rw [if_pos hend]
      exact hset.erase ((AList.mem_insert _).2 (Or.inl rfl))
    · rw [if_neg hend]
      exact hset

end Indexed

end Transactions

end SuplLpp.Lpp
