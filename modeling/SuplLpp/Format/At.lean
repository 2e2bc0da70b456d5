import SuplLpp.Format.Helper
import SuplLpp.Lib.Lines

/-!
# `format::at::Parser`

The parser takes the bytes of the modem apart into lines, which it keeps until they are skipped.

* `Parser` and its functions;
* `contents`: the bytes that are buffered;
* `processLine_line`, `processLine_rest`, `processLoop_spec`: what `process` does to the buffer.
-/

namespace SuplLpp.Format.At

open Helper Lines

abbrev Line := List UInt8

/-- The parser; its base class has the bytes. -/
structure Parser where
  helper : Helper.Parser
  mLines : List Line

/-- `process_line` from an index on, with the line that is found so far. -/
def lineFrom (p : Helper.Parser) : ℕ → ℕ → Line → Helper.Parser × Option Line
  | 0, _, _ => (p, none)
  | rounds + 1, index, line =>
    if p.bufferLength < index + 1 then (p, none)
    else if p.peek (.ofNat index) = 0x0D ∧ p.peek (.ofNat (index + 1)) = 0x0A then
      (p.skip (.ofNat (index + 2)), some line)
    else if 120 < index then (p.skip (.ofNat index), none)
    else lineFrom p rounds (index + 1) (line ++ [p.peek (.ofNat index)])

/-- `process_line`; the loop has no more rounds than this. -/
def processLine (p : Helper.Parser) : Helper.Parser × Option Line := lineFrom p 122 0 []

/-- The loop of `process`. -/
def processLoop : ℕ → Parser → Parser
  | 0, p => p
  | rounds + 1, p =>
    if 0 < p.helper.bufferLength then
      match processLine p.helper with
      | (helper, none) => { p with helper := helper }
      | (helper, some line) => processLoop rounds ⟨helper, p.mLines ++ [line]⟩
    else p

namespace Parser

/-- `process`: every round takes a byte at least. -/
def process (p : Parser) : Parser := processLoop p.helper.bufferLength p

def append (p : Parser) (data : List UInt8) : Parser :=
  { p with helper := (p.helper.append data).1 }

def count (p : Parser) : ℕ := p.mLines.length

def hasLines (p : Parser) : Bool := !p.mLines.isEmpty

def peekLine (p : Parser) : Line := p.mLines.headD []

def skipLine (p : Parser) : Line × Parser := (p.mLines.headD [], { p with mLines := p.mLines.tail })

end Parser

/-! ### The bytes and the lines -/

/-- The bytes that are buffered. -/
def contents (p : Helper.Parser) : List UInt8 :=
  (List.range p.bufferLength).map fun i => p.peek (.ofNat i)

/-- The lines that end in the bytes, and the bytes behind them. -/
abbrev splitLines (q : List UInt8) : List Line × List UInt8 := Lines.split 0x0D 0x0A q

variable {p : Helper.Parser} {q : List UInt8}

theorem peek_ofNat (h : Repr p q) {i : ℕ} (hi : i ≤ q.length) :
    p.peek (.ofNat i) = q.getD i 0 := by
  have hlt := h.length_lt
  have hcap := h.capacity_le
  rw [h.peek, UInt32.toNat_ofNat', Nat.mod_eq_of_lt (by omega)]

theorem contents_eq (h : Repr p q) : contents p = q := by
  rw [contents, h.bufferLength]
  refine List.ext_getElem (by simp) fun i hi hi' => ?_
  rw [List.getElem_map, List.getElem_range, peek_ofNat h (by omega), List.getD_eq_getElem _ _ hi']

theorem drop_succ_of_cons {index : ℕ} {c : UInt8} {l : Line} (hq : q.drop index = c :: l) :
    q.drop (index + 1) = l := by
  rw [← List.tail_drop, hq]
  rfl

theorem lt_length_of_cons {index : ℕ} {c : UInt8} {l : Line} (hq : q.drop index = c :: l) :
    index < q.length := by
  by_contra hge
  rw [List.drop_of_length_le (by omega)] at hq
  cases hq

theorem peek_of_cons (h : Repr p q) {index : ℕ} {c : UInt8} {l : Line}
    (hq : q.drop index = c :: l) : p.peek (.ofNat index) = c := by
  have hindex := lt_length_of_cons hq
  rw [List.drop_eq_getElem_cons hindex] at hq
  rw [peek_ofNat h hindex.le, List.getD_eq_getElem _ _ hindex, (List.cons.inj hq).1]

/-- Where the rest of the buffer does not begin with an end, the loop goes on. -/
theorem lineFrom_step (h : Repr p q) {rounds index : ℕ} {line : Line} {c : UInt8} {l : Line}
    (hq : q.drop index = c :: l) (hend : NoEnd 0x0D 0x0A c l) (hshort : index ≤ 120) :
    lineFrom p (rounds + 1) index line = lineFrom p rounds (index + 1) (line ++ [c]) := by
  have hindex := lt_length_of_cons hq
  have hpeek := peek_of_cons h hq
  have hpeek' : p.peek (.ofNat (index + 1)) = 0x0A → l.head? = some 0x0A := by
    rw [peek_ofNat h hindex, List.getD_eq_getElem?_getD, ← drop_succ_of_cons hq, List.head?_drop]
    cases q[index + 1]? with
    | none => exact fun hzero => absurd hzero (by decide)
    | some d => exact fun hd => congrArg some hd
  rw [lineFrom, h.bufferLength, if_neg (by omega), if_neg, if_neg (by omega), hpeek]
  rw [hpeek]
  exact fun hboth => hend ⟨hboth.1, hpeek' hboth.2⟩

/-- A line from an index on. -/
theorem lineFrom_line (h : Repr p q) {l rest : Line} (hl : IsLine 0x0D 0x0A l) {rounds index : ℕ}
    {line : Line} (hq : q.drop index = encode 0x0D 0x0A l ++ rest)
    (hshort : index + l.length ≤ 121) (hrounds : l.length < rounds) :
    lineFrom p rounds index line = (p.skip (.ofNat (index + l.length + 2)), some (line ++ l)) := by
  induction l generalizing rounds index line with
  | nil =>
    obtain ⟨rounds, rfl⟩ := Nat.exists_eq_add_of_le' (Nat.one_le_of_lt hrounds)
    have hcr : q.drop index = 0x0D :: 0x0A :: rest := hq
    have hlt := lt_length_of_cons hcr
    rw [lineFrom, h.bufferLength, if_neg (by omega),
      if_pos ⟨peek_of_cons h hcr, peek_of_cons h (drop_succ_of_cons hcr)⟩, List.append_nil]
    rfl
  | cons c l ih =>
    obtain ⟨rounds, rfl⟩ := Nat.exists_eq_add_of_le' (Nat.one_le_of_lt hrounds)
    have hcons : q.drop index = c :: (encode 0x0D 0x0A l ++ rest) := hq
    rw [List.length_cons] at hshort hrounds
    rw [lineFrom_step h hcons (noEnd_encode (by decide) hl rest) (by omega),
      ih (isLine_cons_iff.1 hl).2 (drop_succ_of_cons hcons) (by omega) (by omega),
      List.append_assoc, List.length_cons]
    have hindex : index + 1 + l.length + 2 = index + (l.length + 1) + 2 := by omega
    rw [hindex]
    rfl

/-- **A line** of at most 121 bytes is taken. -/
theorem processLine_line (h : Repr p q) {l rest : Line} (hl : IsLine 0x0D 0x0A l)
    (hq : q = encode 0x0D 0x0A l ++ rest) (hshort : l.length ≤ 121) :
    ∃ p', processLine p = (p', some l) ∧ p'.mBufferCapacity = p.mBufferCapacity ∧ Repr p' rest := by
  have hdrop : q.drop 0 = encode 0x0D 0x0A l ++ rest := hq
  refine ⟨_, lineFrom_line h hl hdrop (by omega) (by omega), rfl, ?_⟩
  have hskip := h.skip (.ofNat (0 + l.length + 2))
  have hlength : (encode 0x0D 0x0A l).length = 0 + l.length + 2 := by
    rw [encode, List.length_append, Nat.zero_add]
    rfl
  rw [UInt32.toNat_ofNat', Nat.mod_eq_of_lt (by omega), hq, ← hlength, List.drop_left, hlength]
    at hskip
  exact hskip

theorem lineFrom_rest (h : Repr p q) {l : Line} (hl : IsLine 0x0D 0x0A l) {rounds index : ℕ}
    {line : Line} (hq : q.drop index = l) (hshort : index + l.length ≤ 121)
    (hrounds : l.length < rounds) : lineFrom p rounds index line = (p, none) := by
  induction l generalizing rounds index line with
  | nil =>
    obtain ⟨rounds, rfl⟩ := Nat.exists_eq_add_of_le' (Nat.one_le_of_lt hrounds)
    have hle := List.drop_eq_nil_iff.1 hq
    rw [lineFrom, h.bufferLength, if_pos (by omega)]
  | cons c l ih =>
    obtain ⟨rounds, rfl⟩ := Nat.exists_eq_add_of_le' (Nat.one_le_of_lt hrounds)
    obtain ⟨hend, htail⟩ := isLine_cons_iff.1 hl
    rw [List.length_cons] at hshort hrounds
    rw [lineFrom_step h hq hend (by omega), ih htail (drop_succ_of_cons hq) (by omega) (by omega)]

/-- **Bytes without an end**, at most 121, are left as they are. -/
theorem processLine_rest (h : Repr p q) (hq : IsLine 0x0D 0x0A q) (hshort : q.length ≤ 121) :
    processLine p = (p, none) :=
  lineFrom_rest h hq List.drop_zero (by omega) (by omega)

/-- **The loop takes all lines**, when none is too long. -/
theorem processLoop_spec {rounds : ℕ} {p : Parser} {q : List UInt8} (h : Repr p.helper q)
    (hrounds : q.length ≤ rounds) (hlines : ∀ l ∈ (splitLines q).1, l.length ≤ 121)
    (hrest : (splitLines q).2.length ≤ 121) :
    ∃ helper, processLoop rounds p = ⟨helper, p.mLines ++ (splitLines q).1⟩ ∧
      helper.mBufferCapacity = p.helper.mBufferCapacity ∧ Repr helper (splitLines q).2 := by
  induction rounds generalizing p q with
  | zero =>
    obtain rfl := List.length_eq_zero_iff.1 (Nat.le_zero.1 hrounds)
    exact ⟨p.helper, by rw [processLoop, splitLines, split, List.append_nil], rfl, h⟩
  | succ rounds ih =>
    rw [processLoop, h.bufferLength]
    cases hls : (splitLines q).1 with
    | nil =>
      obtain ⟨hsame, hq⟩ := split_of_nil hls
      rw [splitLines, hsame] at hrest
      rw [splitLines, hsame, List.append_nil]
      refine ⟨p.helper, ?_, rfl, h⟩
      split
      · rw [processLine_rest h hq hrest]
      · rfl
    | cons l ls =>
      obtain ⟨q', rfl, hl, hsplit⟩ := split_of_cons (by decide) hls
      rw [hls] at hlines
      have hend : (encode 0x0D 0x0A l).length = l.length + 2 := List.length_append
      have hq' : splitLines q' = (ls, (splitLines (encode 0x0D 0x0A l ++ q')).2) := hsplit
      rw [List.length_append, hend] at hrounds
      obtain ⟨p', hline, hcap, hrepr⟩ :=
        processLine_line h hl rfl (hlines l List.mem_cons_self)
      obtain ⟨helper, hloop, hcap', hrepr'⟩ := ih (p := ⟨p', p.mLines ++ [l]⟩) hrepr (by omega)
        (fun l' hl' => hlines l' (List.mem_cons_of_mem _ (by rwa [hq'] at hl')))
        (by rw [hq']; exact hrest)
      rw [hq'] at hloop hrepr'
      refine ⟨helper, ?_, hcap'.trans hcap, hrepr'⟩
      rw [if_pos (by rw [List.length_append, hend]; omega), hline]
      simp only [hloop, List.append_assoc]
      rfl

end SuplLpp.Format.At
