import Mathlib.Data.List.TakeWhile
import SuplLpp.Format.Nmea

/-!
# What the NMEA parser hands on

A sentence that passes the checksum test is cut into its prefix and its data.  Where the data
ends is computed from the end of the sentence, for a line ending of two characters.

* `tryParse_sentence`: what the parser does with a sentence in front of its buffer;
* `Extracts`, `Extraction`: the parts are the text between the `$`, the first `,` and the last
  `*`, and the same with both line endings;
* `extraction_iff`: for which sentences this is so.
-/

namespace SuplLpp.Format.Nmea

open Helper

/-! ### Reading a sentence -/

/-- No `$` and no line ending stands inside. -/
def IsSentence (lfOnly : Bool) (body : List UInt8) : Prop :=
  0x24 ∉ body ∧ ¬lineEnding lfOnly <:+: body

theorem isSentence_lf {body : List UInt8} :
    IsSentence true body ↔ 0x24 ∉ body ∧ 0x0A ∉ body := by
  refine and_congr_right fun _ => not_congr ⟨fun hinside => hinside.subset (by simp [lineEnding]),
    fun hmem => ?_⟩
  obtain ⟨s, t, rfl⟩ := List.append_of_mem hmem
  exact ⟨s, t, by simp [lineEnding]⟩

theorem IsSentence.tail {lfOnly : Bool} {c : UInt8} {body : List UInt8}
    (h : IsSentence lfOnly (c :: body)) : IsSentence lfOnly body :=
  ⟨fun hmem => h.1 (List.mem_cons_of_mem c hmem), fun hinside => h.2 (hinside.trans
    (List.suffix_cons c body).isInfix)⟩

section Reading

variable {p : Parser} {q : List UInt8} {lfOnly : Bool}

theorem peek_nat (h : Repr p q) {i : ℕ} (hi : i < q.length) :
    p.peek i.toUInt32 = q.getD i 0 := by
  have hcap := h.capacity_le
  have hlen := h.length_lt
  rw [h.peek, Nat.toUInt32_eq, UInt32.toNat_ofNat', Nat.mod_eq_of_lt (by omega)]

/-- The character at the front of what is left to look at. -/
theorem peek_append (h : Repr p q) {before : List UInt8} {c : UInt8} {after : List UInt8}
    (hq : q = before ++ c :: after) : p.peek before.length.toUInt32 = c := by
  rw [peek_nat h (by simp [hq]), hq]
  simp

/-- The search passes a character of a sentence and stops at its line ending. -/
theorem findEnding_found (h : Repr p q) {before body rest : List UInt8} {rounds : ℕ}
    (hq : q = before ++ (body ++ lineEnding lfOnly ++ rest)) (hbody : IsSentence lfOnly body)
    (hrounds : body.length < rounds) :
    findEnding lfOnly p rounds before.length = .found (before.length + body.length) := by
  induction body generalizing before rounds with
  | nil =>
    cases rounds with
    | zero => cases hrounds
    | succ rounds =>
      have henough : ¬p.bufferLength < before.length + lineEndingLength lfOnly := by
        rw [h.bufferLength, hq]
        simp
      have hends : endsAt lfOnly p before.length = true := by
        cases lfOnly with
        | true =>
          have hpeek : p.peek before.length.toUInt32 = 0x0A := peek_append h hq
          simp [endsAt, hpeek]
        | false =>
          have hpeek : p.peek before.length.toUInt32 = 0x0D := peek_append h hq
          have hq' : q = before ++ [0x0D] ++ 0x0A :: rest := by simpa [lineEnding] using hq
          have hnext : p.peek (before ++ [0x0D]).length.toUInt32 = 0x0A := peek_append h hq'
          rw [List.length_append, List.length_singleton] at hnext
          simp only [endsAt, Bool.false_eq_true, if_false, hpeek, hnext, beq_self_eq_true,
            Bool.and_self]
      rw [findEnding, if_neg henough, if_pos hends]
      rfl
  | cons c body ih =>
    cases rounds with
    | zero => cases hrounds
    | succ rounds =>
      have henough : ¬p.bufferLength < before.length + lineEndingLength lfOnly := by
        rw [h.bufferLength, hq]
        simp
        omega
      have hpeek : p.peek before.length.toUInt32 = c := peek_append h hq
      have hends : endsAt lfOnly p before.length = false := by
        cases lfOnly with
        | true =>
          have hc : c ≠ 0x0A := by
            rintro rfl
            exact hbody.2 ⟨[], body, rfl⟩
          simp [endsAt, hpeek, hc]
        | false =>
          -- behind a `\r` stands the next character, or the `\r` of the ending
          by_cases hc : c = 0x0D
          · have hnext : p.peek (before.length + 1).toUInt32 ≠ 0x0A := by
              have hlength : before.length + 1 = (before ++ [c]).length := by simp
              rw [hlength]
              cases body with
              | nil =>
                have hq' : q = before ++ [c] ++ 0x0D :: 0x0A :: rest := by
                  simpa [lineEnding] using hq
                have hpeek' : p.peek (before ++ [c]).length.toUInt32 = 0x0D := peek_append h hq'
                rw [hpeek']
                decide
              | cons d body =>
                have hpeek' : p.peek (before ++ [c]).length.toUInt32 = d :=
                  peek_append h (by simpa using hq)
                rw [hpeek']
                rintro rfl
                exact hbody.2 ⟨[], body, by rw [hc]; rfl⟩
            simp only [endsAt, Bool.false_eq_true, if_false, beq_eq_false_iff_ne.2 hnext,
              Bool.and_false]
          · simp [endsAt, hpeek, hc]
      have hdollar : c ≠ 0x24 := fun hc => hbody.1 (by simp [hc])
      have hq' : q = before ++ [c] ++ (body ++ lineEnding lfOnly ++ rest) := by simpa using hq
      have hrest := ih hq' hbody.tail (Nat.lt_of_succ_lt_succ hrounds)
      rw [findEnding, if_neg henough, hends, if_neg (by simp), hpeek, if_neg hdollar]
      rw [List.length_append, List.length_singleton] at hrest
      rw [hrest, List.length_cons]
      congr 1
      omega

theorem search_sentence (h : Repr p (0x24 :: q)) : search p.bufferLength p = p := by
  have hpeek : p.peek 0 = 0x24 := h.peek 0
  rw [h.bufferLength, List.length_cons, search, h.bufferLength, if_neg (by simp), if_pos hpeek]

/-- The parser takes the sentence and hands its parts on, or skips the `$`. -/
theorem tryParse_sentence {F : Type*} (fields : Kind → List UInt8 → Option F)
    (charSigned : Bool) {body rest : List UInt8} (h : Repr p (sentence lfOnly body ++ rest))
    (hbody : IsSentence lfOnly body) :
    tryParse fields charSigned lfOnly p =
      if checksum charSigned lfOnly (sentence lfOnly body) ≠ .ok then (p.skip 1, none)
      else (p.skip (sentence lfOnly body).length.toUInt32,
        (extract (sentence lfOnly body)).map (parseMessage fields)) := by
  have hq : sentence lfOnly body ++ rest =
      [0x24] ++ (body ++ lineEnding lfOnly ++ rest) := by simp [sentence]
  have hlength : (sentence lfOnly body).length = body.length + 1 + lineEndingLength lfOnly := by
    simp [sentence]
    omega
  have hrounds : body.length < p.bufferLength := by
    rw [h.bufferLength, List.length_append, hlength]
    omega
  have hfound : findEnding lfOnly p p.bufferLength 1 = .found (1 + body.length) := by
    have hany := findEnding_found h hq hbody hrounds
    exact hany
  have hcopy : p.copyToBuffer (List.replicate (1 + body.length + lineEndingLength lfOnly) 0) =
      sentence lfOnly body := by
    have hcap := h.capacity_le
    have hfits := h.length_lt
    rw [List.length_append, hlength] at hfits
    rw [h.copyToBuffer (by rw [List.length_replicate]; omega), List.length_replicate,
      List.drop_of_length_le (by rw [List.length_replicate, List.length_append]; omega),
      List.append_nil, List.take_left' (by omega)]
  have hsearch : search p.bufferLength p = p := search_sentence h
  have henough : ¬p.bufferLength < 1 := by
    rw [h.bufferLength, List.length_append, hlength]
    omega
  have htotal : 1 + body.length + lineEndingLength lfOnly = (sentence lfOnly body).length := by
    omega
  unfold tryParse
  simp only [hsearch, if_neg henough, hfound, hcopy]
  rw [htotal]

end Reading

/-! ### The parts -/

/-- The text up to the first `,` or `*`. -/
def name (body : List UInt8) : List UInt8 := body.takeWhile fun c => c != 0x2C && c != 0x2A

/-- How many characters of the data a mode cuts off. -/
def cutOff (lfOnly : Bool) : ℕ := if lfOnly then 1 else 0

/-- Whether there is something to hand on. -/
def HandsOn (charSigned lfOnly : Bool) (body : List UInt8) : Prop :=
  checksum charSigned lfOnly (sentence lfOnly body) = .ok ∧
    ((name body).length = 5 ∨ (name body).length = 7) ∧
    (name body).length + 4 + cutOff lfOnly < body.length

instance (charSigned lfOnly : Bool) (body : List UInt8) :
    Decidable (HandsOn charSigned lfOnly body) := inferInstanceAs (Decidable (_ ∧ _ ∧ _))

/-- The data, as the parser cuts it. -/
def data (lfOnly : Bool) (body : List UInt8) : List UInt8 :=
  (body.drop ((name body).length + 1)).take
    (body.length - ((name body).length + 4 + cutOff lfOnly))

theorem parsePrefix_sentence (lfOnly : Bool) {body : List UInt8} (hstar : 0x2A ∈ body) :
    parsePrefix (sentence lfOnly body) =
      if (name body).length = 5 ∨ (name body).length = 7 then name body else [] := by
  have hstop : ¬∀ c ∈ body, (c != 0x2C && c != 0x2A) = true := fun hall => by
    simpa using hall 0x2A hstar
  have htake : (sentence lfOnly body).takeWhile (fun c => c != 0x2C && c != 0x2A) =
      0x24 :: name body := by
    have hbody : (body ++ lineEnding lfOnly).takeWhile (fun c => c != 0x2C && c != 0x2A) =
        name body := by
      rw [List.takeWhile_append, if_neg]
      · rfl
      · intro hlength
        have hall := List.takeWhile_eq_self_iff.1
          ((List.takeWhile_prefix _).eq_of_length hlength)
        exact hstop hall
    rw [sentence, List.cons_append, List.takeWhile_cons_of_pos (by decide), hbody]
  unfold parsePrefix
  rw [htake]
  simp only [List.length_cons, List.drop_one, List.tail_cons]
  by_cases hlength : (name body).length = 5 ∨ (name body).length = 7
  · rw [if_pos hlength, if_neg (by omega)]
  · rw [if_neg hlength, if_pos (by omega)]

/-- What is handed on of a sentence that passes the test. -/
theorem extract_sentence (lfOnly : Bool) {body : List UInt8} (hstar : 0x2A ∈ body) :
    (extract (sentence lfOnly body)).map (fun parts => (parts.mPrefix, parts.mPayload)) =
      if ((name body).length = 5 ∨ (name body).length = 7) ∧
          (name body).length + 4 + cutOff lfOnly < body.length then
        some (name body, data lfOnly body)
      else none := by
  have hlength : (sentence lfOnly body).length - 5 = body.length + 1 - (3 + cutOff lfOnly) := by
    cases lfOnly <;> simp [sentence, lineEndingLength, cutOff]
  unfold extract
  rw [parsePrefix_sentence lfOnly hstar]
  by_cases hname : (name body).length = 5 ∨ (name body).length = 7
  · have hnonempty : name body ≠ [] := by
      rintro hnil
      simp [hnil] at hname
    rw [if_pos hname, if_neg hnonempty]
    simp only [hlength]
    by_cases hdata : (name body).length + 4 + cutOff lfOnly < body.length
    · rw [if_neg (by omega), if_pos ⟨hname, hdata⟩, Option.map_some]
      congr 2
      -- the data ends before the line ending
      have hcount : body.length + 1 - (3 + cutOff lfOnly) - ((name body).length + 1 + 1) =
          body.length - ((name body).length + 4 + cutOff lfOnly) := by omega
      have hfits : body.length - ((name body).length + 4 + cutOff lfOnly) ≤
          (body.drop ((name body).length + 1)).length := by
        rw [List.length_drop]
        omega
      rw [substr, hcount, sentence, List.cons_append, List.drop_succ_cons,
        List.drop_append_of_le_length (by omega), List.take_append_of_le_length hfits]
      rfl
    · rw [if_pos (by omega), if_neg fun h => hdata h.2]
      rfl
  · rw [if_neg hname, if_pos rfl, if_neg fun h => hname h.1]
    rfl

/-! ### What is promised of the parts -/

/-- The prefix is the text up to the first `,`, and the payload that from there to the last
`*`. -/
def Extracts (body : List UInt8) (parts : Parts) : Prop :=
  ∃ x y, body = parts.mPrefix ++ 0x2C :: parts.mPayload ++ [0x2A, x, y] ∧
    0x2C ∉ parts.mPrefix ∧ x ≠ 0x2A ∧ y ≠ 0x2A

/-- A message, but for the text of its checksum. -/
def Message.meaning {F : Type*} (m : Message F) : Content F × List UInt8 × List UInt8 :=
  (m.content, m.mPrefix, m.mPayload)

/-- The promise, for what the parsers of the two modes make of the same text. -/
structure Extraction {F : Type*} (body : List UInt8) (crlf lf : Option (Message F)) : Prop where
  withCrlf : ∀ m, crlf = some m → Extracts body m.toParts
  withLf : IsSentence true body → ∀ m, lf = some m → Extracts body m.toParts
  same : IsSentence true body → crlf.map Message.meaning = lf.map Message.meaning

/-- The line ending makes no difference to the checksum test. -/
theorem checksum_mode (charSigned : Bool) (body : List UInt8) :
    checksum charSigned true (sentence true body) = .ok ↔
      checksum charSigned false (sentence false body) = .ok := by
  have hread : ∀ x y, stoull (x :: y :: lineEnding true) = stoull (x :: y :: lineEnding false) := by
    intro x y
    by_cases hdigits : hexDigit x = none ∨ hexDigit y = none
    · rw [stoull_loneDigit hdigits, stoull_loneDigit hdigits]
    · obtain ⟨hx, hy⟩ := not_or.1 hdigits
      obtain ⟨a, hx⟩ := Option.ne_none_iff_exists'.1 hx
      obtain ⟨b, hy⟩ := Option.ne_none_iff_exists'.1 hy
      rw [stoull_digits hx hy, stoull_digits hx hy]
  constructor
  · intro h
    obtain ⟨fmt, x, y, rfl, hx, hy⟩ := checksum_ok_pair h
    rwa [checksum_pair charSigned _ hx hy, ← hread, ← checksum_pair charSigned _ hx hy]
  · intro h
    obtain ⟨fmt, x, y, rfl, hx, hy⟩ := checksum_ok_pair h
    rwa [checksum_pair charSigned _ hx hy, hread, ← checksum_pair charSigned _ hx hy]

section Parsing

variable {F : Type*} (fields : Kind → List UInt8 → Option F) {charSigned lfOnly : Bool}
  {p : Parser} {body rest : List UInt8}

/-- A message has the parts that its sentence is cut into. -/
theorem tryParse_some (h : Repr p (sentence lfOnly body ++ rest)) (hbody : IsSentence lfOnly body)
    {m : Message F} (hm : (tryParse fields charSigned lfOnly p).2 = some m) :
    HandsOn charSigned lfOnly body ∧ m.mPrefix = name body ∧ m.mPayload = data lfOnly body ∧
      m = parseMessage fields m.toParts := by
  rw [tryParse_sentence fields charSigned h hbody] at hm
  by_cases hok : checksum charSigned lfOnly (sentence lfOnly body) = .ok
  · rw [if_neg (not_not.2 hok)] at hm
    obtain ⟨fmt, x, y, hpair, -, -⟩ := checksum_ok_pair hok
    obtain ⟨parts, hparts, rfl⟩ := Option.map_eq_some_iff.1 hm
    have hcut := extract_sentence lfOnly (show 0x2A ∈ body by rw [hpair]; simp)
    rw [hparts, Option.map_some] at hcut
    split_ifs at hcut with hguard
    obtain ⟨hhead, hpayload⟩ := Prod.mk.inj (Option.some.inj hcut)
    exact ⟨⟨hok, hguard⟩, hhead, hpayload, rfl⟩
  · rw [if_pos hok] at hm
    cases hm

/-- What can be handed on is. -/
theorem tryParse_of_handsOn (h : Repr p (sentence lfOnly body ++ rest))
    (hbody : IsSentence lfOnly body) (hands : HandsOn charSigned lfOnly body) :
    ∃ m, (tryParse fields charSigned lfOnly p).2 = some m := by
  obtain ⟨hok, hguard⟩ := hands
  obtain ⟨fmt, x, y, hpair, -, -⟩ := checksum_ok_pair hok
  have hcut := extract_sentence lfOnly (show 0x2A ∈ body by rw [hpair]; simp)
  rw [if_pos hguard] at hcut
  obtain ⟨parts, hparts, -⟩ := Option.map_eq_some_iff.1 hcut
  refine ⟨parseMessage fields parts, ?_⟩
  rw [tryParse_sentence fields charSigned h hbody, if_neg (not_not.2 hok), hparts]
  rfl

end Parsing

/-- With `\r\n` the parts are right when the prefix is followed by a `,`. -/
theorem extracts_crlf {charSigned : Bool} {body : List UInt8} {parts : Parts}
    (h : HandsOn charSigned false body) (hhead : parts.mPrefix = name body)
    (hpayload : parts.mPayload = data false body)
    (hcomma : body[(name body).length]? = some 0x2C) : Extracts body parts := by
  obtain ⟨hok, -, hlength⟩ := h
  obtain ⟨fmt, x, y, hpair, hx, hy⟩ := checksum_ok_pair hok
  have hfmt : (name body).length + 1 < fmt.length := by
    rw [hpair] at hlength ⊢
    simp [cutOff] at hlength
    omega
  obtain ⟨hlt, hget⟩ := List.getElem?_eq_some_iff.1 hcomma
  have hname : name body = body.take (name body).length :=
    List.prefix_iff_eq_take.1 (List.takeWhile_prefix _)
  have hdata : body.drop ((name body).length + 1) = data false body ++ [0x2A, x, y] := by
    have hdrop : ∀ n, n ≤ fmt.length → body.drop n = fmt.drop n ++ [0x2A, x, y] := by
      intro n hn
      rw [hpair, List.drop_append_of_le_length hn]
    have hcount : body.length - ((name body).length + 4 + cutOff false) =
        (fmt.drop ((name body).length + 1)).length := by
      have hbody : body.length = fmt.length + 3 := by rw [hpair]; simp
      rw [List.length_drop, hbody, cutOff]
      simp
    rw [data, hcount, hdrop _ hfmt.le, List.take_left]
  refine ⟨x, y, ?_, ?_, hx, hy⟩
  · rw [hhead, hpayload]
    calc body = body.take (name body).length ++ body.drop (name body).length :=
          (List.take_append_drop _ _).symm
      _ = name body ++ 0x2C :: body.drop ((name body).length + 1) := by
          rw [← hname, ← hget, List.getElem_cons_drop]
      _ = name body ++ 0x2C :: data false body ++ [0x2A, x, y] := by
          rw [hdata, List.append_assoc, List.cons_append]
  · intro hmem
    rw [hhead] at hmem
    simpa using List.mem_takeWhile_imp hmem

/-- With `\n` a character of the data is always missing. -/
theorem not_extracts_lf {charSigned : Bool} {body : List UInt8} {parts : Parts}
    (h : HandsOn charSigned true body) (hhead : parts.mPrefix = name body)
    (hpayload : parts.mPayload = data true body) : ¬Extracts body parts := by
  rintro ⟨x, y, hbody, -⟩
  obtain ⟨-, -, hlength⟩ := h
  have hcount := congrArg List.length hbody
  have hdata : (data true body).length = body.length - ((name body).length + 4 + 1) := by
    rw [data, List.length_take, List.length_drop, cutOff]
    simp
    omega
  rw [hhead, hpayload] at hcount
  simp only [List.length_append, List.length_cons, List.length_nil, hdata] at hcount
  simp only [cutOff, if_true] at hlength
  omega

/-- **Extraction.**  Of a text between `$` and line ending that the parsers of the two modes
receive, the parts are what they should be, and the same, just when nothing is handed on, or the
text has a `\n`, so that it can come with one of the line endings only, and its prefix is
followed by a `,`. -/
theorem extraction_iff {F : Type*} (fields : Kind → List UInt8 → Option F) {charSigned : Bool}
    {p q : Parser} {body rest rest' : List UInt8} (hp : Repr p (sentence false body ++ rest))
    (hq : Repr q (sentence true body ++ rest')) (hbody : IsSentence false body) :
    Extraction body (tryParse fields charSigned false p).2
        (tryParse fields charSigned true q).2 ↔
      (HandsOn charSigned false body →
        0x0A ∈ body ∧ body[(name body).length]? = some 0x2C) := by
  have hlf : IsSentence true body ↔ 0x0A ∉ body := by
    rw [isSentence_lf, and_iff_right hbody.1]
  constructor
  · intro h hands
    obtain ⟨m, hm⟩ := tryParse_of_handsOn fields hp hbody hands
    obtain ⟨-, hhead, -, -⟩ := tryParse_some fields hp hbody hm
    constructor
    · -- else the other parser hands the same on, but for the last character
      by_contra hnot
      have hsame := h.same (hlf.2 hnot)
      rw [hm, Option.map_some] at hsame
      obtain ⟨m', hm', -⟩ := Option.map_eq_some_iff.1 hsame.symm
      obtain ⟨hands', hhead', hpayload', -⟩ := tryParse_some fields hq (hlf.2 hnot) hm'
      exact not_extracts_lf hands' hhead' hpayload' (h.withLf (hlf.2 hnot) m' hm')
    · obtain ⟨x, y, htext, -⟩ := h.withCrlf m hm
      rw [← hhead]
      conv_lhs => rw [htext]
      simp
  · intro h
    -- what the parser for `\n` hands on, the other one does too
    have hnone : IsSentence true body → ∀ m, (tryParse fields charSigned true q).2 ≠ some m := by
      intro hsentence m hm
      obtain ⟨⟨hok, hname, hlength⟩, -⟩ := tryParse_some fields hq hsentence hm
      have hcrlf : HandsOn charSigned false body :=
        ⟨(checksum_mode charSigned body).1 hok, hname, by
          simp only [cutOff, if_true, Bool.false_eq_true, if_false] at hlength ⊢
          omega⟩
      exact hlf.1 hsentence (h hcrlf).1
    refine ⟨fun m hm => ?_, fun hs m hm => absurd hm (hnone hs m), fun hs => ?_⟩
    · obtain ⟨hands, hhead, hpayload, -⟩ := tryParse_some fields hp hbody hm
      exact extracts_crlf hands hhead hpayload (h hands).2
    · rw [Option.eq_none_iff_forall_ne_some.2 (hnone hs)]
      refine congrArg (Option.map Message.meaning)
        (Option.eq_none_iff_forall_ne_some.2 fun m hm => ?_)
      obtain ⟨hands, -⟩ := tryParse_some fields hp hbody hm
      exact hlf.1 hs (h hands).1

/-- A parser that just received these bytes. -/
def received (bytes : List UInt8) : Parser := ((Parser.new (fun _ => 0) 64).append bytes).1

theorem repr_received {bytes : List UInt8} (h : bytes.length < 64) :
    Repr (received bytes) (bytes ++ []) := by
  have hnew : Repr (Parser.new (fun _ => 0) 64) [] := repr_new _ (by decide) (by decide)
  have hshort : bytes.length < 2 ^ 32 := by omega
  obtain ⟨-, -, happend⟩ := hnew.append hshort
  have hkept : (Queue.append 64 [] bytes).1 = bytes := by
    rw [Queue.append, if_neg (by omega)]
    exact Ring.keepNewest_of_le (by simp; omega)
  rw [List.append_nil]
  rwa [show (Parser.new (fun _ => 0) 64).mBufferCapacity = 64 from rfl, hkept] at happend

theorem isSentence_of_not_mem {body : List UInt8} (hdollar : 0x24 ∉ body) (hcr : 0x0D ∉ body) :
    IsSentence false body :=
  ⟨hdollar, fun hinside => hcr (hinside.subset List.mem_cons_self)⟩

/-- The data have a line break of the other mode. -/
theorem extraction_line :
    HandsOn true false (ascii "GPTXT,a\nb*6A") ∧
      Extraction (ascii "GPTXT,a\nb*6A")
        (tryParse (F := Unit) (fun _ _ => none) true false
          (received (sentence false (ascii "GPTXT,a\nb*6A")))).2
        (tryParse (F := Unit) (fun _ _ => none) true true
          (received (sentence true (ascii "GPTXT,a\nb*6A")))).2 :=
  ⟨by decide, (extraction_iff _ (repr_received (by decide)) (repr_received (by decide))
    (isSentence_of_not_mem (by decide) (by decide))).2 fun _ => ⟨by decide, by decide⟩⟩

/-- Of the data `ab` the parser for `\n` hands on `a`. -/
theorem not_extraction_cut :
    ¬Extraction (ascii "GPTXT,ab*60")
      (tryParse (F := Unit) (fun _ _ => none) true false
        (received (sentence false (ascii "GPTXT,ab*60")))).2
      (tryParse (F := Unit) (fun _ _ => none) true true
        (received (sentence true (ascii "GPTXT,ab*60")))).2 := by
  intro h
  have hsentence : IsSentence true (ascii "GPTXT,ab*60") := isSentence_lf.2 (by decide)
  have hshort : (sentence true (ascii "GPTXT,ab*60")).length < 64 := by decide
  have hrepr := repr_received hshort
  have hands : HandsOn true true (ascii "GPTXT,ab*60") := by decide
  obtain ⟨m, hm⟩ := tryParse_of_handsOn (F := Unit) (fun _ _ => none) hrepr hsentence hands
  obtain ⟨-, hhead, hpayload, -⟩ := tryParse_some _ hrepr hsentence hm
  exact not_extracts_lf hands hhead hpayload (h.withLf hsentence m hm)

end SuplLpp.Format.Nmea
