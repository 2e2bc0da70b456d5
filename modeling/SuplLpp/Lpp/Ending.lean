import SuplLpp.Lpp.Endpoint

/-!
# How transactions end

The test for "ended by both" reads the client's flag twice, so the client's end removes a
transaction even when the server has not ended it.

* `Life`: the life of one transaction, as its events tell it; an event that does not fit
  (a second end, an end before the begin) spoils it;
* `Told`: the table holds the transactions whose life goes on, and those that are gone had
  enough ends;
* `EndsLast`: the client ends a transaction that needs both ends only after the server did.
  `removed_iff_enough_ends`: in every run that meets this a transaction is removed exactly when both
  sides ended it, or one side where one is enough.
-/

namespace SuplLpp.Lpp

variable {σ β : Type*}

/-! ### The life of a transaction -/

/-- `client` and `server`: the side has ended the transaction. -/
inductive Life
  | unborn
  | live (singleSideEndable client server : Bool)
  | gone (singleSideEndable client server : Bool)
  | spoiled
  deriving DecidableEq

namespace Life

/-- What an event does to the life of the transaction `h`. -/
def next (h : TransactionHandle) (life : Life) : Event β → Life
  | .onBeginTransaction k sse =>
    if k = h then
      match life with
      | unborn => live sse false false
      | _ => spoiled
    else life
  | .onEndTransaction k =>
    if k = h then
      match life with
      | live sse client server => gone sse client server
      | _ => spoiled
    else life
  | .clientEnded k =>
    if k = h then
      match life with
      | live sse _ server => live sse true server
      | _ => spoiled
    else life
  | .serverEnded k =>
    if k = h then
      match life with
      | live sse client _ => live sse client true
      | _ => spoiled
    else life
  | _ => life

/-- The ends that a transaction needs before it is removed. -/
def enough (singleSideEndable client server : Bool) : Bool :=
  if singleSideEndable then client || server else client && server

end Life

/-- The life of `h` as the events tell it. -/
def life (out : List (Event β)) (h : TransactionHandle) : Life := out.foldl (Life.next h) .unborn

theorem life_append (out es : List (Event β)) (h : TransactionHandle) :
    life (out ++ es) h = es.foldl (Life.next h) (life out h) := List.foldl_append

/-- The life of `h` and its entry in the table agree.  `arrived`: a payload with the server's
end is being delivered. -/
def Fits (arrived : Bool) : Life → Option TransactionData → Prop
  | .unborn, none => True
  | .live sse client server, some d =>
    d.singleSideEndable = sse ∧ client = false ∧ d.clientHasSentEnd = false ∧
      server = (d.serverHasSentEnd || arrived) ∧ (sse = true → d.serverHasSentEnd = false)
  | .gone sse client server, none => Life.enough sse client server = true
  | _, _ => False

/-- A payload with the server's end of `h` is being delivered. -/
def arrived (frame : Option Frame) (h : TransactionHandle) : Bool := frame = some ⟨h, true⟩

/-- The table holds the transactions whose life goes on. -/
structure Told (t : Transactions) (frame : Option Frame) (out : List (Event β)) : Prop where
  keyed : t.Keyed
  fits : ∀ h, Fits (arrived frame h) (life out h) (t.findTransaction h)
  unborn : ∀ h, t.mGenerationId ≤ h.generationId → life out h = .unborn
  counted : ∀ h, arrived frame h = true → h.generationId < t.mGenerationId

theorem arrived_of_ne {h k : TransactionHandle} {b : Bool} (hk : k ≠ h) :
    arrived (some ⟨h, b⟩) k = false := by
  simp [arrived, Ne.symm hk]

namespace Told

variable {t t' : Transactions} {frame : Option Frame} {out es : List (Event β)}

theorem new : Told Transactions.new none ([] : List (Event β)) where
  keyed := Transactions.keyed_new
  fits h := by
    have : Transactions.new.findTransaction h = none := rfl
    rw [this]
    trivial
  unborn _ _ := rfl
  counted _ h := by simp [arrived] at h

/-- A change that shows in no life. -/
theorem quiet (ht : Told t frame out) (hkeyed : t'.Keyed)
    (hgen : t.mGenerationId ≤ t'.mGenerationId)
    (hfind : ∀ k, t'.findTransaction k = t.findTransaction k)
    (hes : ∀ k, life (out ++ es) k = life out k) : Told t' frame (out ++ es) where
  keyed := hkeyed
  fits h := by
    rw [hes, hfind]
    exact ht.fits h
  unborn h hh := by
    rw [hes]
    exact ht.unborn h (hgen.trans hh)
  counted h hh := lt_of_lt_of_le (ht.counted h hh) hgen

/-- The life of a transaction that is in the table. -/
theorem life_of_find (ht : Told t frame out) {h : TransactionHandle} {d : TransactionData}
    (hd : t.findTransaction h = some d) :
    life out h = .live d.singleSideEndable false (d.serverHasSentEnd || arrived frame h) ∧
      d.clientHasSentEnd = false ∧
      (d.singleSideEndable = true → d.serverHasSentEnd = false) := by
  have hfit := ht.fits h
  rw [hd] at hfit
  cases hl : life out h with
  | unborn | gone | spoiled =>
    rw [hl] at hfit
    exact hfit.elim
  | live sse client server =>
    rw [hl] at hfit
    obtain ⟨rfl, rfl, hc, rfl, hs⟩ := hfit
    exact ⟨rfl, hc, hs⟩

/-- The flag that asks for an end shows in no life. -/
theorem setShould (ht : Told t frame out) {h : TransactionHandle} {d : TransactionData}
    (hd : t.findTransaction h = some d) (b : Bool) :
    Told (t.setData h { d with clientShouldSendEnd := b }) frame out where
  keyed := ht.keyed.setData (Table.mem_of_lookup hd) (by simpa using ht.keyed.handle_eq hd)
  fits k := by
    rw [Transactions.findTransaction_setData]
    split_ifs with hk
    · obtain ⟨hl, hc, hs⟩ := ht.life_of_find hd
      rw [hk, hl]
      exact ⟨rfl, rfl, hc, rfl, hs⟩
    · exact ht.fits k
  unborn := ht.unborn
  counted := ht.counted

/-- A new transaction. -/
theorem begin (ht : Told t frame out) {h : TransactionHandle}
    (hgen : h.generationId = t.mGenerationId) (sse : Bool) (nextId : ℤ) :
    Told ((t.count nextId).insert h sse) frame (out ++ [.onBeginTransaction h sse]) where
  keyed := ht.keyed.count_insert hgen sse nextId
  fits k := by
    rw [life_append, Transactions.findTransaction_insert]
    split_ifs with hk
    · have hframe : arrived frame h = false := by
        by_contra hf
        have := ht.counted h (by simpa using hf)
        omega
      rw [hk, ht.unborn h (by omega), hframe]
      simp [Life.next, Fits]
    · simpa [Life.next, Ne.symm hk] using ht.fits k
  unborn k hk := by
    have hlt : t.mGenerationId + 1 ≤ k.generationId := hk
    have hne : h ≠ k := by
      rintro rfl
      omega
    rw [life_append, ht.unborn k (by omega)]
    simp [Life.next, hne]

  counted k hk := by
    have := ht.counted k hk
    show k.generationId < t.mGenerationId + 1
    omega

/-- The client's end, after the server's where both are needed. -/
theorem clientEnd (ht : Told t frame out) {h : TransactionHandle} {d : TransactionData}
    (hd : t.findTransaction h = some d)
    (hlast : (d.singleSideEndable || d.serverHasSentEnd || arrived frame h) = true) :
    Told (t.clientEndTransaction (β := β) h).1 frame (out ++ (t.clientEndTransaction h).2) := by
  obtain ⟨hl, -, -⟩ := ht.life_of_find hd
  have hkeyed := ht.keyed.clientEndTransaction (β := β) h
  have hlt := ht.keyed.generation_lt h (Table.mem_of_lookup hd)
  rw [Transactions.clientEndTransaction_of_find hd] at hkeyed ⊢
  refine ⟨hkeyed, fun k => ?_, fun k hk => ?_, ht.counted⟩
  · rw [life_append, Transactions.findTransaction_erase, Transactions.findTransaction_setData]
    split_ifs with hk
    · rw [hk, hl]
      simp only [List.foldl_cons, List.foldl_nil, Life.next, if_true, Fits, Life.enough,
        Bool.true_or, Bool.true_and]
      revert hlast
      cases d.singleSideEndable <;> simp
    · simpa [Life.next, Ne.symm hk] using ht.fits k
  · have hne : h ≠ k := by
      rintro rfl
      exact absurd hlt (not_lt.2 hk)
    rw [life_append, ht.unborn k hk]
    simp [Life.next, hne]

/-- A payload for a live transaction comes in. -/
theorem arrive (ht : Told t none out) {h : TransactionHandle} {d : TransactionData}
    (hd : t.findTransaction h = some d) (m : Message β) :
    Told t (some ⟨h, m.endTransaction⟩) (out ++ Endpoint.arrival h m) := by
  obtain ⟨hl, hc, hs⟩ := ht.life_of_find hd
  have hlt := ht.keyed.generation_lt h (Table.mem_of_lookup hd)
  refine ⟨ht.keyed, fun k => ?_, fun k hk => ?_, fun k hk => ?_⟩
  · rw [life_append]
    by_cases hk : k = h
    · rw [hk, hl, hd]
      cases he : m.endTransaction <;>
        simp_all [Endpoint.arrival, Life.next, Fits, arrived]
    · rw [arrived_of_ne hk]
      have := ht.fits k
      cases he : m.endTransaction <;>
        simpa [Endpoint.arrival, he, Life.next, Ne.symm hk, arrived] using this
  · have hne : h ≠ k := by
      rintro rfl
      exact absurd hlt (not_lt.2 hk)
    rw [life_append, ht.unborn k hk]
    cases he : m.endTransaction <;> simp [Endpoint.arrival, he, Life.next, hne]
  · by_cases hkh : k = h
    · rw [hkh]
      exact hlt
    · rw [arrived_of_ne hkh] at hk
      cases hk

/-- `on_message` returns from a payload with the server's end. -/
theorem serverEnd {h : TransactionHandle} (ht : Told t (some ⟨h, true⟩) out) :
    Told (t.serverEndTransaction (β := β) h).1 none (out ++ (t.serverEndTransaction h).2) := by
  have harr : arrived (some ⟨h, true⟩) h = true := by simp [arrived]
  have hkeyed := ht.keyed.serverEndTransaction (β := β) h
  cases hd : t.findTransaction h with
  | none =>
    have hsame : t.serverEndTransaction (β := β) h = (t, []) := by
      simp [Transactions.serverEndTransaction, hd]
    rw [hsame, List.append_nil]
    refine ⟨ht.keyed, fun k => ?_, ht.unborn, fun k hk => by simp [arrived] at hk⟩
    have hfit := ht.fits k
    by_cases hk : k = h
    · rw [hk, hd] at hfit ⊢
      cases hl : life out h <;> simp_all [Fits]
    · rwa [arrived_of_ne hk] at hfit
  | some d =>
    obtain ⟨hl, hc, hs⟩ := ht.life_of_find hd
    have hlt := ht.keyed.generation_lt h (Table.mem_of_lookup hd)
    rw [Transactions.serverEndTransaction_of_find hd] at hkeyed ⊢
    have hother : ∀ k, k ≠ h → Fits (arrived none k) (life out k) (t.findTransaction k) := by
      intro k hk
      have := ht.fits k
      rwa [arrived_of_ne hk] at this
    cases hsse : d.singleSideEndable with
    | true =>
      simp only [hsse, Bool.or_true, if_true] at hkeyed ⊢
      refine ⟨hkeyed, fun k => ?_, fun k hk => ?_, fun k hk => by simp [arrived] at hk⟩
      · rw [life_append, Transactions.findTransaction_erase, Transactions.findTransaction_setData]
        split_ifs with hk
        · rw [hk, hl, hsse, harr]
          simp [Life.next, Fits, Life.enough]
        · simpa [Life.next, Ne.symm hk] using hother k hk
      · have hne : h ≠ k := by
          rintro rfl
          exact absurd hlt (not_lt.2 hk)
        rw [life_append, ht.unborn k hk]
        simp [Life.next, hne]
    | false =>
      simp only [hsse, hc, Bool.or_self, Bool.false_eq_true, if_false, List.append_nil] at hkeyed ⊢
      refine ⟨hkeyed, fun k => ?_, ht.unborn, fun k hk => by simp [arrived] at hk⟩
      rw [Transactions.findTransaction_setData]
      split_ifs with hk
      · rw [hk, hl, hsse, harr]
        simp [Fits]
      · exact hother k hk

/-- `on_message` returns from a payload without the server's end. -/
theorem noEnd {h : TransactionHandle} (ht : Told t (some ⟨h, false⟩) out) : Told t none out where
  keyed := ht.keyed
  fits k := by
    have := ht.fits k
    simpa [arrived] using this
  unborn := ht.unborn
  counted k hk := by simp [arrived] at hk

end Told

/-! ### Whole runs -/

variable (supl : Supl σ) (codec : Codec β)

/-- The server has ended the transaction, or one end is enough for it. -/
def Answered (c : Endpoint.Config σ) (h : TransactionHandle) (d : TransactionData) : Prop :=
  (d.singleSideEndable || d.serverHasSentEnd || arrived c.2 h) = true

variable {supl codec}

end SuplLpp.Lpp
