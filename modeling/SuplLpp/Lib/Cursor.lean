import Mathlib.Tactic

/-!
# Readers over a cursor

A cursor is a string of symbols and a place in it.  A reader looks at the symbols from there on
and answers a value, or fails; either way it leaves a cursor behind.

* `Reader.take`, and the monad operations; `Reader.times` repeats a reader, `Reader.each` runs
  one reader after the other and collects values of different types;
* `Reads r bs a`: wherever the cursor stands in front of `bs`, the reader answers `a` and moves
  behind `bs`, whatever follows; one rule for each way to build a reader;
* `Decodes r bs a`: there is some such place; `Decodes.times`, `Decodes.each` take an answer of
  a sequence apart.
-/

/-- A string of symbols and a place in it. -/
structure Cursor (β : Type*) where
  data : List β
  offset : ℕ

namespace Cursor

variable {β : Type*}

/-- The symbols from the cursor on. -/
def rest (c : Cursor β) : List β := c.data.drop c.offset

/-- The cursor, `n` symbols on. -/
def advance (c : Cursor β) (n : ℕ) : Cursor β := { c with offset := c.offset + n }

@[simp] theorem advance_zero (c : Cursor β) : c.advance 0 = c := rfl

theorem advance_advance (c : Cursor β) (m n : ℕ) :
    (c.advance m).advance n = c.advance (m + n) := by
  simp [advance, Nat.add_assoc]

theorem rest_advance (c : Cursor β) (n : ℕ) : (c.advance n).rest = c.rest.drop n := by
  simp [rest, advance, List.drop_drop]

/-- The cursor stands in front of `bs`. -/
structure At (c : Cursor β) (bs : List β) : Prop where
  le : c.offset ≤ c.data.length
  isPrefix : bs <+: c.rest

theorem at_start (bs : List β) : (⟨bs, 0⟩ : Cursor β).At bs :=
  ⟨Nat.zero_le _, List.prefix_rfl⟩

theorem At.length_le {c : Cursor β} {bs : List β} (h : c.At bs) :
    c.offset + bs.length ≤ c.data.length := by
  have hle := h.isPrefix.length_le
  have hoffset := h.le
  simp only [rest, List.length_drop] at hle
  omega

theorem At.left {c : Cursor β} {as bs : List β} (h : c.At (as ++ bs)) : c.At as :=
  ⟨h.le, (List.prefix_append as bs).trans h.isPrefix⟩

theorem At.right {c : Cursor β} {as bs : List β} (h : c.At (as ++ bs)) :
    (c.advance as.length).At bs := by
  refine ⟨h.left.length_le, ?_⟩
  obtain ⟨tail, htail⟩ := h.isPrefix
  rw [rest_advance, ← htail, List.append_assoc, List.drop_left]
  exact List.prefix_append _ _

end Cursor

/-- A reader: the answer, if it did not fail, and the cursor left behind. -/
def Reader (β α : Type*) : Type _ := Cursor β → Option α × Cursor β

namespace Reader

variable {β α γ : Type*}

/-- Answer `a` and read nothing. -/
def pure (a : α) : Reader β α := fun c => (some a, c)

def fail : Reader β α := fun c => (none, c)

/-- Run `r`, and then what is made of its answer. -/
def bind (r : Reader β α) (f : α → Reader β γ) : Reader β γ := fun c =>
  match r c with
  | (some a, c') => f a c'
  | (none, c') => (none, c')

def map (f : α → γ) (r : Reader β α) : Reader β γ := r.bind fun a => pure (f a)

/-- The next `n` symbols. -/
def take (n : ℕ) : Reader β (List β) := fun c =>
  if c.offset + n > c.data.length then (none, c) else (some (c.rest.take n), c.advance n)

/-- The next symbol. -/
def one : Reader β β := fun c =>
  match c.rest with
  | [] => (none, c)
  | b :: _ => (some b, c.advance 1)

/-- `n` answers of the same reader. -/
def times (n : ℕ) (r : Reader β α) : Reader β (List α) :=
  match n with
  | 0 => pure []
  | n + 1 => r.bind fun a => (times n r).bind fun as => pure (a :: as)

/-- One answer of each of the readers. -/
def each : (n : ℕ) → {A : Fin n → Type*} → ((i : Fin n) → Reader β (A i)) →
    Reader β ((i : Fin n) → A i)
  | 0, _, _ => pure fun i => i.elim0
  | n + 1, _, r => (r 0).bind fun a =>
      (each n fun i => r i.succ).bind fun as => pure (Fin.cons a as)

/-- What `f` writes for each index, one after the other. -/
def writeEach : (n : ℕ) → (Fin n → List β) → List β
  | 0, _ => []
  | n + 1, f => f 0 ++ writeEach n fun i => f i.succ

/-! ### What a reader reads -/

/-- Wherever the cursor stands in front of `bs`, `r` answers `a` and moves behind `bs`. -/
def Reads (r : Reader β α) (bs : List β) (a : α) : Prop :=
  ∀ c : Cursor β, c.At bs → r c = (some a, c.advance bs.length)

/-- Somewhere in front of `bs` the answer of `r` is `a`. -/
def Decodes (r : Reader β α) (bs : List β) (a : α) : Prop :=
  ∃ c c' : Cursor β, c.At bs ∧ r c = (some a, c')

/-- A reader that reads `bs` has no other answer there. -/
theorem Reads.eq_of_decodes {r : Reader β α} {bs : List β} {a b : α} (h : Reads r bs a)
    (hb : Decodes r bs b) : b = a := by
  obtain ⟨c, c', hc, hrun⟩ := hb
  rw [h c hc] at hrun
  simpa [eq_comm] using congrArg Prod.fst hrun

theorem not_decodes_fail (bs : List β) (a : α) : ¬Decodes fail bs a := by
  rintro ⟨c, c', -, hrun⟩
  simp [fail] at hrun

theorem reads_pure (a : α) : Reads (pure a : Reader β α) [] a := fun _ _ => rfl

theorem Reads.bind_apply {r : Reader β α} {bs : List β} {a : α} (h : Reads r bs a)
    (f : α → Reader β γ) {c : Cursor β} (hc : c.At bs) :
    r.bind f c = f a (c.advance bs.length) := by
  rw [bind, h c hc]

theorem Reads.bind {r : Reader β α} {f : α → Reader β γ} {as bs : List β} {a : α} {b : γ}
    (hr : Reads r as a) (hf : Reads (f a) bs b) : Reads (r.bind f) (as ++ bs) b := by
  intro c hc
  rw [hr.bind_apply f hc.left, hf _ hc.right, Cursor.advance_advance, List.length_append]

/-- A reader that ends with a computation. -/
theorem Reads.map {r : Reader β α} {bs : List β} {a : α} (h : Reads r bs a) (f : α → γ) :
    Reads (r.map f) bs (f a) := by
  intro c hc
  rw [Reader.map, h.bind_apply _ hc]
  rfl

theorem Reads.map_eq {r : Reader β α} {bs : List β} {a : α} (h : Reads r bs a) {f : α → γ}
    {b : γ} (hb : f a = b) : Reads (r.map f) bs b :=
  hb ▸ h.map f

theorem reads_take (bs : List β) : Reads (take bs.length) bs bs := by
  intro c hc
  have hle : ¬c.offset + bs.length > c.data.length := by
    have := hc.length_le
    omega
  rw [take, if_neg hle, ← List.prefix_iff_eq_take.1 hc.isPrefix]

theorem reads_one (b : β) : Reads one [b] b := by
  intro c hc
  obtain ⟨tail, htail⟩ := hc.isPrefix
  rw [one, ← htail]
  rfl

/-- What is left to read after the first part of an answer. -/
theorem Decodes.bind {r : Reader β α} {f : α → Reader β γ} {as bs : List β} {a : α} {b : γ}
    (hr : Reads r as a) (h : Decodes (r.bind f) (as ++ bs) b) : Decodes (f a) bs b := by
  obtain ⟨c, c', hc, hb⟩ := h
  rw [hr.bind_apply f hc.left] at hb
  exact ⟨_, c', hc.right, hb⟩

/-- The first part of an answer. -/
theorem Decodes.of_bind {r : Reader β α} {f : α → Reader β γ} {as bs : List β} {b : γ}
    (h : Decodes (r.bind f) (as ++ bs) b) :
    ∃ a, Decodes r as a ∧ ∃ c c', f a c = (some b, c') := by
  obtain ⟨c, c', hc, hb⟩ := h
  rw [Reader.bind] at hb
  cases hr : r c with
  | mk answer next =>
    cases answer with
    | none => simp [hr] at hb
    | some a => exact ⟨a, ⟨c, next, hc.left, hr⟩, next, c', by simpa [hr] using hb⟩

/-! ### Sequences -/

theorem reads_times {r : Reader β α} (write : α → List β) {as : List α}
    (h : ∀ a ∈ as, Reads r (write a) a) : Reads (times as.length r) (as.flatMap write) as := by
  induction as with
  | nil => exact reads_pure []
  | cons a as ih =>
    rw [List.flatMap_cons]
    refine (h a List.mem_cons_self).bind ?_
    exact (ih fun b hb => h b (List.mem_cons_of_mem _ hb)).map (a :: ·)

/-- A repeated reader answers as often as it is told to. -/
theorem length_times {r : Reader β α} {n : ℕ} {as : List α} {c c' : Cursor β}
    (h : times n r c = (some as, c')) : as.length = n := by
  induction n generalizing as c c' with
  | zero =>
    obtain rfl : as = [] := by simpa [times, pure, eq_comm] using congrArg Prod.fst h
    rfl
  | succ n ih =>
    simp only [times, bind] at h
    rcases hr : r c with ⟨_ | a, next⟩
    · simp [hr] at h
    · rcases hrest : times n r next with ⟨_ | rest, last⟩
      · simp [hr, hrest] at h
      · obtain rfl : a :: rest = as := by simpa [hr, hrest, pure] using congrArg Prod.fst h
        rw [List.length_cons, ih hrest]

/-- If the items of a list that can be decoded can be read, and the list is decoded from what
is written for it, then each of its items is. -/
theorem Decodes.times {r : Reader β α} {write : α → List β} {as : List α}
    (hall : ∀ a ∈ as, Decodes r (write a) a → Reads r (write a) a)
    (h : Decodes (Reader.times as.length r) (as.flatMap write) as) :
    ∀ a ∈ as, Decodes r (write a) a := by
  induction as with
  | nil => simp
  | cons a as ih =>
    rw [List.flatMap_cons, List.length_cons, Reader.times] at h
    obtain ⟨a', ha', c, c', hrest⟩ := h.of_bind
    rw [Reader.bind] at hrest
    have hfirst : Decodes r (write a) a := by
      rcases hr : Reader.times as.length r c with ⟨_ | rest, last⟩
      · simp [hr] at hrest
      · obtain ⟨rfl, -⟩ : a' = a ∧ rest = as := by
          simpa [hr, pure] using congrArg Prod.fst hrest
        exact ha'
    have htail := h.bind (hall a List.mem_cons_self hfirst)
    obtain ⟨c, c', hc, hb⟩ := htail
    have hsame : Decodes (Reader.times as.length r) (as.flatMap write) as := by
      rw [Reader.bind] at hb
      rcases hr : Reader.times as.length r c with ⟨_ | rest, last⟩
      · simp [hr] at hb
      · obtain rfl : rest = as := by simpa [hr, pure] using congrArg Prod.fst hb
        exact ⟨c, last, hc, hr⟩
    rw [List.forall_mem_cons]
    exact ⟨hfirst, ih (fun b hb => hall b (List.mem_cons_of_mem _ hb)) hsame⟩

section Each

variable {n : ℕ}

theorem reads_each {A : Fin n → Type*} {r : (i : Fin n) → Reader β (A i)}
    {write : Fin n → List β} {as : (i : Fin n) → A i}
    (h : ∀ i, Reads (r i) (write i) (as i)) : Reads (each n r) (writeEach n write) as := by
  induction n with
  | zero =>
    intro c hc
    have : (fun i : Fin 0 => i.elim0) = as := funext fun i => i.elim0
    rw [each, pure, this]
    rfl
  | succ n ih =>
    rw [writeEach, each]
    refine (h 0).bind ?_
    have hrest := (ih fun i => h i.succ).map (Fin.cons (as 0) : _ → (i : Fin (n + 1)) → A i)
    have hcons : (Fin.cons (as 0) fun i => as i.succ) = as := Fin.cons_self_tail as
    rwa [hcons] at hrest

theorem Decodes.each {A : Fin n → Type*} {r : (i : Fin n) → Reader β (A i)}
    {write : Fin n → List β} {as : (i : Fin n) → A i}
    (hall : ∀ i, Decodes (r i) (write i) (as i) → Reads (r i) (write i) (as i))
    (h : Decodes (Reader.each n r) (writeEach n write) as) :
    ∀ i, Decodes (r i) (write i) (as i) := by
  induction n with
  | zero => exact fun i => i.elim0
  | succ n ih =>
    rw [writeEach, Reader.each] at h
    obtain ⟨a', ha', c, c', hrest⟩ := h.of_bind
    rw [Reader.bind] at hrest
    have hfirst : Decodes (r 0) (write 0) (as 0) := by
      rcases hr : Reader.each n (fun i : Fin n => r i.succ) c with ⟨_ | rest, last⟩
      · simp [hr] at hrest
      · have hcons : (Fin.cons a' rest : (i : Fin (n + 1)) → A i) = as := by
          simpa [hr, pure] using congrArg Prod.fst hrest
        have hzero : a' = as 0 := by rw [← hcons, Fin.cons_zero]
        rwa [hzero] at ha'
    obtain ⟨c, c', hc, hb⟩ := h.bind (hall 0 hfirst)
    have hsame : Decodes (Reader.each n fun i : Fin n => r i.succ)
        (writeEach n fun i => write i.succ)
        fun i => as i.succ := by
      rw [Reader.bind] at hb
      rcases hr : Reader.each n (fun i : Fin n => r i.succ) c with ⟨_ | rest, last⟩
      · simp [hr] at hb
      · have hcons : (Fin.cons (as 0) rest : (i : Fin (n + 1)) → A i) = as := by
          simpa [hr, pure] using congrArg Prod.fst hb
        have hrest : rest = fun i : Fin n => as i.succ := by
          funext i
          rw [← hcons, Fin.cons_succ]
        rw [hrest] at hr
        exact ⟨c, last, hc, hr⟩
    intro i
    cases i using Fin.cases with
    | zero => exact hfirst
    | succ i =>
      exact ih (A := fun i => A i.succ) (r := fun i => r i.succ) (fun i => hall i.succ) hsame i

end Each

end Reader
