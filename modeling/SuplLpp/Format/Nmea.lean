import SuplLpp.Format.Helper

/-!
# `format::nmea::Parser`

The parser looks for a `$`, reads up to the line ending, tests the checksum and hands the parts
of the sentence to the parser of its message.

* `stoull`, the conversion of the standard library that the checksum test relies on;
* `checksum`, `parsePrefix`, `extract` and `tryParse`, in both modes of line ending;
* `checksum_iff`: for which sentences the test does what it is there for.

Whether a `char` is signed is up to the platform: it is a parameter.
-/

namespace SuplLpp.Format.Nmea

open Helper

/-! ### Numbers -/

/-- `isspace`. -/
def isSpace (c : UInt8) : Bool := c == 0x20 || (0x09 ≤ c && c ≤ 0x0D)

/-- The value of a hexadecimal digit. -/
def hexDigit (c : UInt8) : Option ℕ :=
  if 0x30 ≤ c ∧ c ≤ 0x39 then some (c.toNat - 0x30)
  else if 0x41 ≤ c ∧ c ≤ 0x46 then some (c.toNat - 0x37)
  else if 0x61 ≤ c ∧ c ≤ 0x66 then some (c.toNat - 0x57)
  else none

/-- The digits in front of anything else. -/
def hexDigits : List UInt8 → List ℕ
  | [] => []
  | c :: cs =>
    match hexDigit c with
    | some d => d :: hexDigits cs
    | none => []

/-- `0x` before a digit. -/
def dropHexMark : List UInt8 → List UInt8
  | c :: x :: d :: cs =>
      if c = 0x30 ∧ (x = 0x78 ∨ x = 0x58) ∧ (hexDigit d).isSome then d :: cs
      else c :: x :: d :: cs
  | cs => cs

/-- A sign: is it a minus, and what stands behind it? -/
def dropSign : List UInt8 → Bool × List UInt8
  | c :: cs => if c = 0x2D then (true, cs) else if c = 0x2B then (false, cs) else (false, c :: cs)
  | [] => (false, [])

/-- `std::stoull(s, nullptr, 16)`; it throws when there is no number or it is too large. -/
def stoull (s : List UInt8) : Option UInt64 :=
  let signed := dropSign (s.dropWhile isSpace)
  let digits := hexDigits (dropHexMark signed.2)
  let n := digits.foldl (fun n d => 16 * n + d) 0
  if digits = [] then none
  else if 2 ^ 64 ≤ n then none
  else some (if signed.1 then -n.toUInt64 else n.toUInt64)

/-! ### The checksum test -/

inductive ChecksumResult
  | ok
  | invalidStringNostar
  | invalidStringLength
  | invalidValue
  deriving DecidableEq

/-- `string::find_last_of`. -/
def findLastOf (s : List UInt8) (c : UInt8) : Option ℕ :=
  (s.reverse.idxOf? c).map (s.length - 1 - ·)

/-- `string::substr`. -/
def substr (s : List UInt8) (pos count : ℕ) : List UInt8 := (s.drop pos).take count

def lineEnding (lfOnly : Bool) : List UInt8 := if lfOnly then [0x0A] else [0x0D, 0x0A]

def lineEndingLength (lfOnly : Bool) : ℕ := if lfOnly then 1 else 2

@[simp] theorem length_lineEnding (lfOnly : Bool) :
    (lineEnding lfOnly).length = lineEndingLength lfOnly := by
  cases lfOnly <;> rfl

/-- A `char` as `unsigned long long`. -/
def charToULL (charSigned : Bool) (c : UInt8) : UInt64 :=
  .ofBitVec (if charSigned then c.toBitVec.signExtend 64 else c.toBitVec.setWidth 64)

def checksum (charSigned lfOnly : Bool) (buffer : List UInt8) : ChecksumResult :=
  match findLastOf buffer 0x2A with
  | none => .invalidStringNostar
  | some fmtEnd =>
    let expectedLength := fmtEnd + 3 + if lfOnly then 1 else 2
    if expectedLength ≠ buffer.length then .invalidStringLength
    else
      -- with the star in front, the count wraps to `npos`
      let fmtString := substr buffer 1 (if fmtEnd = 0 then buffer.length else fmtEnd - 1)
      match stoull (substr buffer (fmtEnd + 1) (fmtEnd + 3)) with
      | none => .invalidValue
      | some expected =>
        let calculated := fmtString.foldl (fun sum c => sum ^^^ charToULL charSigned c) 0
        if expected = calculated then .ok else .invalidValue

/-! ### The parts of a sentence -/

/-- `parse_prefix`: up to the first `,` or `*`, without the `$`. -/
def parsePrefix (data : List UInt8) : List UInt8 :=
  let head := data.takeWhile fun c => c != 0x2C && c != 0x2A
  if head.length ≠ 6 ∧ head.length ≠ 8 then [] else head.drop 1

/-- What is handed to the parser of the message. -/
structure Parts where
  mPrefix : List UInt8
  mPayload : List UInt8
  mChecksum : List UInt8
  deriving DecidableEq

/-- The middle of `try_parse`; the comment there reads `'$XXXXX,' [data] '*XY\r\n'`. -/
def extract (payload : List UInt8) : Option Parts :=
  let head := parsePrefix payload
  if head = [] then none
  else
    let dataStart := head.length + 1 + 1
    let dataEnd := payload.length - 5
    if dataStart ≥ dataEnd then none
    else some ⟨head, substr payload dataStart (dataEnd - dataStart),
      substr payload (dataEnd + 1) (dataEnd + 3)⟩

/-! ### Messages -/

inductive Kind
  | gga
  | vtg
  | gst
  | epe
  deriving DecidableEq

/-- A message of a kind, one that could not be parsed and one of another kind. -/
inductive Content (F : Type*)
  | parsed (kind : Kind) (fields : F)
  | error
  | unsupported
  deriving DecidableEq

structure Message (F : Type*) extends Parts where
  content : Content F
  deriving DecidableEq

def ascii (s : String) : List UInt8 := s.toList.map fun c => c.toNat.toUInt8

/-- The kind that a prefix names. -/
def kindOf (head : List UInt8) : Option Kind :=
  if head ∈ ["GPGGA", "GLGGA", "GAGGA", "GNGGA"].map ascii then some .gga
  else if head ∈ ["GPVTG", "GLVTG", "GAVTG", "GNVTG"].map ascii then some .vtg
  else if head ∈ ["GPGST", "GLGST", "GAGST", "GNGST"].map ascii then some .gst
  else if head = ascii "PQTMEPE" then some .epe
  else none

/-- The end of `try_parse`; `fields` are the functions `parse` of the message classes, which
read the payload only. -/
def parseMessage {F : Type*} (fields : Kind → List UInt8 → Option F) (parts : Parts) :
    Message F where
  toParts := parts
  content :=
    match kindOf parts.mPrefix with
    | none => .unsupported
    | some kind =>
      match fields kind parts.mPayload with
      | some f => .parsed kind f
      | none => .error

/-! ### The parser -/

/-- The loop that looks for the `$`. -/
def search : ℕ → Parser → Parser
  | 0, p => p
  | rounds + 1, p =>
    if p.bufferLength < 1 then p
    else if p.peek 0 = 0x24 then p
    else search rounds (p.skip 1)

/-- How the search for the line ending ends. -/
inductive Ending
  | notEnoughData
  | found (length : ℕ)
  /-- Another `$` comes first. -/
  | dollar (length : ℕ)
  deriving DecidableEq

def endsAt (lfOnly : Bool) (p : Parser) (length : ℕ) : Bool :=
  if lfOnly then p.peek length.toUInt32 == 0x0A
  else p.peek length.toUInt32 == 0x0D && p.peek (length + 1).toUInt32 == 0x0A

def findEnding (lfOnly : Bool) (p : Parser) : ℕ → ℕ → Ending
  | 0, _ => .notEnoughData
  | rounds + 1, length =>
    if p.bufferLength < length + lineEndingLength lfOnly then .notEnoughData
    else if endsAt lfOnly p length then .found length
    else if p.peek length.toUInt32 = 0x24 then .dollar length
    else findEnding lfOnly p rounds (length + 1)

def tryParse {F : Type*} (fields : Kind → List UInt8 → Option F) (charSigned lfOnly : Bool)
    (p : Parser) : Parser × Option (Message F) :=
  let p := search p.bufferLength p
  if p.bufferLength < 1 then (p, none)
  else
    match findEnding lfOnly p p.bufferLength 1 with
    | .notEnoughData => (p, none)
    | .dollar length => (p.skip length.toUInt32, none)
    | .found length =>
      let payload := p.copyToBuffer (List.replicate (length + lineEndingLength lfOnly) 0)
      if checksum charSigned lfOnly payload ≠ .ok then (p.skip 1, none)
      else (p.skip (length + lineEndingLength lfOnly).toUInt32,
        (extract payload).map (parseMessage fields))

/-! ### Sentences -/

/-- A sentence, with `$` and line ending. -/
def sentence (lfOnly : Bool) (body : List UInt8) : List UInt8 :=
  0x24 :: body ++ lineEnding lfOnly

/-- The exclusive or of bytes. -/
def xorOf (bytes : List UInt8) : UInt8 := bytes.foldl (· ^^^ ·) 0

/-- The two characters after the last `*` are hexadecimal digits, and their value is the
exclusive or of what stands before. -/
def ValidChecksum (body : List UInt8) : Prop :=
  ∃ fmt x y a b, body = fmt ++ [0x2A, x, y] ∧ hexDigit x = some a ∧ hexDigit y = some b ∧
    16 * a + b = (xorOf fmt).toNat

/-- The number that `stoull` makes of two characters that are not both digits. -/
def loneDigit (x y : UInt8) : Option UInt64 :=
  match hexDigit x, hexDigit y with
  | some a, none => some a.toUInt64
  | none, some b =>
      if isSpace x || x == 0x2B then some b.toUInt64
      else if x == 0x2D then some (-b.toUInt64)
      else none
  | _, _ => none

/-- The test errs neither way: a valid sentence has a sum that stays below `0x80` or a platform
whose `char` is not signed, and a lone digit is not the sum of another one. -/
def WellRead (charSigned : Bool) (body : List UInt8) : Prop :=
  (ValidChecksum body → charSigned = true →
    ∀ fmt x y, body = fmt ++ [0x2A, x, y] → xorOf fmt < 0x80) ∧
  ∀ fmt x y, body = fmt ++ [0x2A, x, y] → x ≠ 0x2A → y ≠ 0x2A →
    loneDigit x y ≠ some (charToULL charSigned (xorOf fmt))

/-! ### What `stoull` makes of two characters -/

theorem hexDigit_lt {c : UInt8} {d : ℕ} (h : hexDigit c = some d) : d < 16 := by
  have hc := c.toNat_lt
  simp only [hexDigit, UInt8.le_iff_toNat_le, UInt8.reduceToNat] at h
  split_ifs at h <;> cases h <;> omega

/-- A character that is no digit, for the reasons of this module. -/
theorem hexDigit_of_isSpace {c : UInt8} (h : isSpace c = true) : hexDigit c = none := by
  simp only [isSpace, Bool.or_eq_true, beq_iff_eq, Bool.and_eq_true, decide_eq_true_eq,
    UInt8.le_iff_toNat_le, UInt8.reduceToNat, ← UInt8.toNat_inj] at h
  simp only [hexDigit, UInt8.le_iff_toNat_le, UInt8.reduceToNat]
  split_ifs <;> first | rfl | omega

theorem isSpace_of_hexDigit {c : UInt8} {d : ℕ} (h : hexDigit c = some d) :
    isSpace c = false := by
  rw [Bool.eq_false_iff]
  intro hspace
  rw [hexDigit_of_isSpace hspace] at h
  cases h

/-- A digit is none of these characters. -/
theorem ne_of_hexDigit {c c' : UInt8} {d : ℕ} (h : hexDigit c = some d)
    (h' : hexDigit c' = none) : c ≠ c' := by
  rintro rfl
  rw [h'] at h
  cases h

theorem hexDigits_cons {c : UInt8} {d : ℕ} (h : hexDigit c = some d) (cs : List UInt8) :
    hexDigits (c :: cs) = d :: hexDigits cs := by
  rw [hexDigits, h]

theorem hexDigits_of_none {c : UInt8} (h : hexDigit c = none) (cs : List UInt8) :
    hexDigits (c :: cs) = [] := by
  rw [hexDigits, h]

/-- Nothing in a line ending is a digit, and all of it is blank. -/
theorem lineEnding_blank (lfOnly : Bool) : ∀ c ∈ lineEnding lfOnly, isSpace c = true := by
  intro c hc
  cases lfOnly with
  | true =>
    obtain rfl := List.mem_singleton.1 hc
    rfl
  | false =>
    rcases List.mem_cons.1 hc with rfl | hc
    · rfl
    · obtain rfl := List.mem_singleton.1 hc
      rfl

theorem hexDigits_lineEnding (lfOnly : Bool) : hexDigits (lineEnding lfOnly) = [] := by
  cases lfOnly <;> rfl

/-- There is no room for `0x` and a digit in two characters. -/
theorem dropHexMark_pair (x y : UInt8) (lfOnly : Bool) :
    dropHexMark (x :: y :: lineEnding lfOnly) = x :: y :: lineEnding lfOnly := by
  cases lfOnly
  · exact if_neg fun h => absurd h.2.2 (by decide)
  · exact if_neg fun h => absurd h.2.2 (by decide)

theorem dropHexMark_single (y : UInt8) (lfOnly : Bool) :
    dropHexMark (y :: lineEnding lfOnly) = y :: lineEnding lfOnly := by
  cases lfOnly
  · exact if_neg fun h => absurd h.2.2 (by decide)
  · rfl

theorem dropSign_of_ne {c : UInt8} (h1 : c ≠ 0x2D) (h2 : c ≠ 0x2B) (cs : List UInt8) :
    dropSign (c :: cs) = (false, c :: cs) := by
  rw [dropSign, if_neg h1, if_neg h2]

/-- One digit, behind a blank, a sign or nothing. -/
theorem stoull_of_digit {s : List UInt8} {neg : Bool} {y : UInt8} {b : ℕ} {rest : List UInt8}
    (hsign : dropSign (s.dropWhile isSpace) = (neg, y :: rest)) (hy : hexDigit y = some b)
    (hmark : dropHexMark (y :: rest) = y :: rest) (hrest : hexDigits rest = []) :
    stoull s = some (if neg then -b.toUInt64 else b.toUInt64) := by
  have hlt := hexDigit_lt hy
  simp only [stoull, hsign, hmark, hexDigits_cons hy, hrest, List.foldl_cons, List.foldl_nil]
  rw [if_neg (by simp), if_neg (by omega), Nat.mul_zero, Nat.zero_add]

/-- No digit behind a blank, a sign or nothing. -/
theorem stoull_of_none {s : List UInt8} {neg : Bool} {rest : List UInt8}
    (hsign : dropSign (s.dropWhile isSpace) = (neg, rest))
    (hdigits : hexDigits (dropHexMark rest) = []) : stoull s = none := by
  simp only [stoull, hsign, hdigits, if_true]

theorem dropSign_suffix (s : List UInt8) : (dropSign s).2 <:+ s := by
  cases s with
  | nil => exact List.suffix_refl _
  | cons c cs =>
    rw [dropSign]
    split_ifs
    · exact List.suffix_cons c cs
    · exact List.suffix_cons c cs
    · exact List.suffix_refl _

/-- Whatever is skipped, no digit follows. -/
theorem stoull_of_no_digit {s : List UInt8} (h : ∀ c ∈ s, hexDigit c = none) :
    stoull s = none := by
  have hrest : ∀ c ∈ (dropSign (s.dropWhile isSpace)).2, hexDigit c = none := fun c hc =>
    h c ((List.dropWhile_suffix _).subset ((dropSign_suffix _).subset hc))
  have hdigits : hexDigits (dropHexMark (dropSign (s.dropWhile isSpace)).2) = [] := by
    generalize (dropSign (s.dropWhile isSpace)).2 = rest at hrest
    have hmark : dropHexMark rest = rest := by
      unfold dropHexMark
      split
      · next c x d cs =>
        have hd := hrest d (by simp)
        exact if_neg fun hif => by simp [hd] at hif
      · rfl
    rw [hmark]
    cases rest with
    | nil => rfl
    | cons c cs => exact hexDigits_of_none (hrest c (by simp)) cs
  exact stoull_of_none rfl hdigits

theorem stoull_digits {x y : UInt8} {a b : ℕ} (hx : hexDigit x = some a)
    (hy : hexDigit y = some b) (lfOnly : Bool) :
    stoull (x :: y :: lineEnding lfOnly) = some (16 * a + b).toUInt64 := by
  have ha := hexDigit_lt hx
  have hb := hexDigit_lt hy
  have hspace : (x :: y :: lineEnding lfOnly).dropWhile isSpace = x :: y :: lineEnding lfOnly := by
    rw [List.dropWhile_cons_of_neg (by simp [isSpace_of_hexDigit hx])]
  have hsign := dropSign_of_ne (ne_of_hexDigit hx (by decide)) (ne_of_hexDigit hx (by decide))
    (y :: lineEnding lfOnly)
  simp only [stoull, hspace, hsign, dropHexMark_pair, hexDigits_cons hx, hexDigits_cons hy,
    hexDigits_lineEnding, List.foldl_cons, List.foldl_nil]
  rw [if_neg (by simp), if_neg (by omega), if_neg (by simp), Nat.mul_zero, Nat.zero_add]

theorem stoull_loneDigit {x y : UInt8} (h : hexDigit x = none ∨ hexDigit y = none)
    (lfOnly : Bool) : stoull (x :: y :: lineEnding lfOnly) = loneDigit x y := by
  cases hx : hexDigit x with
  | some a =>
    -- the digit stands in front
    have hy : hexDigit y = none := h.resolve_left (by simp [hx])
    have hspace : (x :: y :: lineEnding lfOnly).dropWhile isSpace =
        x :: y :: lineEnding lfOnly := by
      rw [List.dropWhile_cons_of_neg (by simp [isSpace_of_hexDigit hx])]
    have hsign : dropSign ((x :: y :: lineEnding lfOnly).dropWhile isSpace) =
        (false, x :: y :: lineEnding lfOnly) := by
      rw [hspace]
      exact dropSign_of_ne (ne_of_hexDigit hx (by decide)) (ne_of_hexDigit hx (by decide)) _
    rw [stoull_of_digit hsign hx (dropHexMark_pair x y lfOnly) (hexDigits_of_none hy _),
      loneDigit, hx, hy]
    rfl
  | none =>
    cases hy : hexDigit y with
    | some b =>
      have hyspace : (y :: lineEnding lfOnly).dropWhile isSpace = y :: lineEnding lfOnly := by
        rw [List.dropWhile_cons_of_neg (by simp [isSpace_of_hexDigit hy])]
      have hysign := dropSign_of_ne (ne_of_hexDigit hy (by decide))
        (ne_of_hexDigit hy (by decide)) (lineEnding lfOnly)
      simp only [loneDigit, hx, hy]
      by_cases hblank : isSpace x = true
      · have hsign : dropSign ((x :: y :: lineEnding lfOnly).dropWhile isSpace) =
            (false, y :: lineEnding lfOnly) := by
          rw [List.dropWhile_cons_of_pos hblank, hyspace, hysign]
        rw [stoull_of_digit hsign hy (dropHexMark_single y lfOnly) (hexDigits_lineEnding _)]
        simp [hblank]
      · have hspace : (x :: y :: lineEnding lfOnly).dropWhile isSpace =
            x :: y :: lineEnding lfOnly := List.dropWhile_cons_of_neg hblank
        by_cases hplus : x = 0x2B
        · have hsign : dropSign ((x :: y :: lineEnding lfOnly).dropWhile isSpace) =
              (false, y :: lineEnding lfOnly) := by
            rw [hspace, hplus]
            rfl
          rw [stoull_of_digit hsign hy (dropHexMark_single y lfOnly) (hexDigits_lineEnding _)]
          simp [hplus]
        by_cases hminus : x = 0x2D
        · have hsign : dropSign ((x :: y :: lineEnding lfOnly).dropWhile isSpace) =
              (true, y :: lineEnding lfOnly) := by
            rw [hspace, hminus]
            rfl
          rw [stoull_of_digit hsign hy (dropHexMark_single y lfOnly) (hexDigits_lineEnding _)]
          simp [hminus, isSpace]
        · have hsign : dropSign ((x :: y :: lineEnding lfOnly).dropWhile isSpace) =
              (false, x :: y :: lineEnding lfOnly) := by
            rw [hspace]
            exact dropSign_of_ne hminus hplus _
          rw [stoull_of_none hsign (by rw [dropHexMark_pair]; exact hexDigits_of_none hx _)]
          simp [hblank, hplus, hminus]
    | none =>
      have hnone : loneDigit x y = none := by simp [loneDigit, hx, hy]
      rw [hnone]
      refine stoull_of_no_digit fun c hc => ?_
      rcases List.mem_cons.1 hc with rfl | hc
      · exact hx
      rcases List.mem_cons.1 hc with rfl | hc
      · exact hy
      · exact hexDigit_of_isSpace (lineEnding_blank lfOnly c hc)

/-! ### The test -/

theorem charToULL_xor (charSigned : Bool) (a b : UInt8) :
    charToULL charSigned (a ^^^ b) = charToULL charSigned a ^^^ charToULL charSigned b := by
  cases charSigned <;> apply UInt64.toBitVec_inj.1 <;> simp [charToULL]

/-- The sum of the code is the exclusive or of the bytes, made wider. -/
theorem foldl_charToULL (charSigned : Bool) (fmt : List UInt8) (sum : UInt8) :
    fmt.foldl (fun sum c => sum ^^^ charToULL charSigned c) (charToULL charSigned sum) =
      charToULL charSigned (fmt.foldl (· ^^^ ·) sum) := by
  induction fmt generalizing sum with
  | nil => rfl
  | cons c fmt ih => rw [List.foldl_cons, List.foldl_cons, ← charToULL_xor, ih]

theorem charToULL_zero (charSigned : Bool) : charToULL charSigned 0 = 0 := by
  cases charSigned <;> rfl

theorem idxOf?_append_cons {c : UInt8} {s : List UInt8} (hs : c ∉ s) (t : List UInt8) :
    (s ++ c :: t).idxOf? c = some s.length := by
  induction s with
  | nil => simp [List.idxOf?_cons]
  | cons d s ih =>
    rw [List.mem_cons, not_or] at hs
    rw [List.cons_append, List.idxOf?_cons, if_neg (by simpa using Ne.symm hs.1), ih hs.2]
    rfl

theorem findLastOf_append {c : UInt8} (s : List UInt8) {t : List UInt8} (ht : c ∉ t) :
    findLastOf (s ++ c :: t) c = some s.length := by
  have hreverse : (s ++ c :: t).reverse = t.reverse ++ c :: s.reverse := by simp
  rw [findLastOf, hreverse, idxOf?_append_cons (by simpa using ht), Option.map_some]
  simp

theorem toNat_charToULL (charSigned : Bool) (v : UInt8) :
    (charToULL charSigned v).toNat =
      if charSigned = true ∧ 0x80 ≤ v then v.toNat + (2 ^ 64 - 256) else v.toNat := by
  have hv := v.toNat_lt
  cases charSigned with
  | false => simp [charToULL]
  | true =>
    have hmsb : v.toBitVec.msb = decide (128 ≤ v.toNat) := by
      rw [BitVec.msb_eq_decide]
      rfl
    simp only [charToULL, if_true, UInt64.toNat_ofBitVec, BitVec.toNat_signExtend, hmsb,
      UInt8.le_iff_toNat_le, true_and, BitVec.toNat_setWidth, UInt8.toNat_toBitVec]
    rw [Nat.mod_eq_of_lt (by omega)]
    by_cases hbig : 128 ≤ v.toNat
    · rw [if_pos (by simpa using hbig), if_pos (by simpa using hbig)]
    · rw [if_neg (by simpa using hbig), if_neg (by simpa using hbig), Nat.add_zero]

/-- What the test comes to when two characters follow the last `*`. -/
theorem checksum_pair (charSigned lfOnly : Bool) {fmt : List UInt8} {x y : UInt8}
    (hx : x ≠ 0x2A) (hy : y ≠ 0x2A) :
    checksum charSigned lfOnly (sentence lfOnly (fmt ++ [0x2A, x, y])) = .ok ↔
      stoull (x :: y :: lineEnding lfOnly) = some (charToULL charSigned (xorOf fmt)) := by
  have hsentence : sentence lfOnly (fmt ++ [0x2A, x, y]) =
      (0x24 :: fmt) ++ 0x2A :: x :: y :: lineEnding lfOnly := by simp [sentence]
  have hstar : (0x2A : UInt8) ∉ x :: y :: lineEnding lfOnly := by
    have hending : (0x2A : UInt8) ∉ lineEnding lfOnly := by cases lfOnly <;> decide
    simp [hx.symm, hy.symm, hending]
  have hlength : ((0x24 :: fmt) ++ 0x2A :: x :: y :: lineEnding lfOnly).length =
      fmt.length + 1 + 3 + if lfOnly then 1 else 2 := by
    cases lfOnly <;> simp [lineEndingLength]
  have hformat : substr ((0x24 :: fmt) ++ 0x2A :: x :: y :: lineEnding lfOnly) 1 fmt.length =
      fmt := by simp [substr]
  have hhex : substr ((0x24 :: fmt) ++ 0x2A :: x :: y :: lineEnding lfOnly)
      (fmt.length + 1 + 1) (fmt.length + 1 + 3) = x :: y :: lineEnding lfOnly := by
    have hdrop : ((0x24 :: fmt) ++ 0x2A :: x :: y :: lineEnding lfOnly).drop
        (fmt.length + 1 + 1) = x :: y :: lineEnding lfOnly := by
      rw [← List.drop_drop]
      simp
    rw [substr, hdrop, List.take_of_length_le]
    cases lfOnly <;> simp [lineEnding]
  have hsum := foldl_charToULL charSigned fmt 0
  rw [charToULL_zero] at hsum
  rw [hsentence, checksum, findLastOf_append _ hstar]
  simp only [List.length_cons, hlength, Nat.add_one_ne_zero, if_false, Nat.add_sub_cancel, hformat,
    hhex, hsum]
  rw [if_neg (by simp)]
  cases stoull (x :: y :: lineEnding lfOnly) with
  | none => simp
  | some n => simp [xorOf]

theorem exists_last_star {s : List UInt8} (h : 0x2A ∈ s) :
    ∃ fmt t, s = fmt ++ 0x2A :: t ∧ 0x2A ∉ t := by
  obtain ⟨back, front, hreverse, hback⟩ := List.eq_append_cons_of_mem (List.mem_reverse.2 h)
  refine ⟨front.reverse, back.reverse, ?_, by simpa using hback⟩
  rw [← List.reverse_reverse s, hreverse]
  simp

/-- Otherwise the test fails. -/
theorem checksum_ok_pair {charSigned lfOnly : Bool} {body : List UInt8}
    (h : checksum charSigned lfOnly (sentence lfOnly body) = .ok) :
    ∃ fmt x y, body = fmt ++ [0x2A, x, y] ∧ x ≠ 0x2A ∧ y ≠ 0x2A := by
  have hending : (0x2A : UInt8) ∉ lineEnding lfOnly := by cases lfOnly <;> decide
  by_cases hmem : (0x2A : UInt8) ∈ body
  · obtain ⟨fmt, t, rfl, ht⟩ := exists_last_star hmem
    have hsentence : sentence lfOnly (fmt ++ 0x2A :: t) =
        (0x24 :: fmt) ++ 0x2A :: (t ++ lineEnding lfOnly) := by simp [sentence]
    have hstar : (0x2A : UInt8) ∉ t ++ lineEnding lfOnly := by simp [ht, hending]
    rw [hsentence, checksum, findLastOf_append _ hstar] at h
    -- the length leaves two characters
    by_cases hlength : t.length = 2
    · obtain ⟨x, y, rfl⟩ := List.length_eq_two.1 hlength
      exact ⟨fmt, x, y, rfl, by rintro rfl; simp at ht, by rintro rfl; simp at ht⟩
    · have hwrong : (0x24 :: fmt).length + 3 + (if lfOnly then 1 else 2) ≠
          ((0x24 :: fmt) ++ 0x2A :: (t ++ lineEnding lfOnly)).length := by
        cases lfOnly <;> simp [lineEndingLength] <;> omega
      simp only at h
      rw [if_pos hwrong] at h
      cases h
  · have hnone : findLastOf (sentence lfOnly body) 0x2A = none := by
      have hnot : (0x2A : UInt8) ∉ sentence lfOnly body := by simp [sentence, hmem, hending]
      rw [findLastOf, List.idxOf?_eq_none_iff.2 (by simpa using hnot)]
      rfl
    rw [checksum, hnone] at h
    cases h

theorem pair_inj {fmt fmt' : List UInt8} {x y x' y' : UInt8}
    (h : fmt ++ [0x2A, x, y] = fmt' ++ [0x2A, x', y']) : fmt = fmt' ∧ x = x' ∧ y = y' := by
  obtain ⟨hfmt, htail⟩ := List.append_inj' h rfl
  simp only [List.cons.injEq, true_and, and_true] at htail
  exact ⟨hfmt, htail⟩

theorem validChecksum_pair {fmt : List UInt8} {x y : UInt8} :
    ValidChecksum (fmt ++ [0x2A, x, y]) ↔
      ∃ a b, hexDigit x = some a ∧ hexDigit y = some b ∧ 16 * a + b = (xorOf fmt).toNat := by
  constructor
  · rintro ⟨fmt', x', y', a, b, hbody, hx, hy, hsum⟩
    obtain ⟨rfl, rfl, rfl⟩ := pair_inj hbody
    exact ⟨a, b, hx, hy, hsum⟩
  · rintro ⟨a, b, hx, hy, hsum⟩
    exact ⟨fmt, x, y, a, b, rfl, hx, hy, hsum⟩

theorem wellRead_pair {charSigned : Bool} {fmt : List UInt8} {x y : UInt8} (hx : x ≠ 0x2A)
    (hy : y ≠ 0x2A) :
    WellRead charSigned (fmt ++ [0x2A, x, y]) ↔
      (ValidChecksum (fmt ++ [0x2A, x, y]) → charSigned = true → xorOf fmt < 0x80) ∧
        loneDigit x y ≠ some (charToULL charSigned (xorOf fmt)) := by
  refine and_congr ⟨fun h hvalid hs => h hvalid hs fmt x y rfl, ?_⟩
    ⟨fun h => h fmt x y rfl hx hy, ?_⟩
  · rintro h hvalid hs fmt' x' y' hbody
    obtain ⟨rfl, rfl, rfl⟩ := pair_inj hbody
    exact h hvalid hs
  · rintro h fmt' x' y' hbody - -
    obtain ⟨rfl, rfl, rfl⟩ := pair_inj hbody
    exact h

/-- **The checksum test.**  On every platform and with both line endings it accepts exactly the
sentences with a valid checksum, but for those with a sum of `0x80` or more where `char` is
signed, and those where a digit alone is the sum. -/
theorem checksum_iff (charSigned lfOnly : Bool) (body : List UInt8) :
    (checksum charSigned lfOnly (sentence lfOnly body) = .ok ↔ ValidChecksum body) ↔
      WellRead charSigned body := by
  by_cases hpair : ∃ fmt x y, body = fmt ++ [0x2A, x, y] ∧ x ≠ 0x2A ∧ y ≠ 0x2A
  · obtain ⟨fmt, x, y, rfl, hx, hy⟩ := hpair
    rw [checksum_pair charSigned lfOnly hx hy, wellRead_pair hx hy]
    by_cases hdigits : hexDigit x = none ∨ hexDigit y = none
    · have hinvalid : ¬ValidChecksum (fmt ++ [0x2A, x, y]) := by
        rw [validChecksum_pair]
        rintro ⟨a, b, hxa, hyb, -⟩
        rcases hdigits with h | h <;> simp [h] at hxa hyb
      rw [stoull_loneDigit hdigits]
      simp only [hinvalid, iff_false, false_imp_iff, true_and, ne_eq]
    · obtain ⟨hxa, hyb⟩ := not_or.1 hdigits
      obtain ⟨a, hxa⟩ := Option.ne_none_iff_exists'.1 hxa
      obtain ⟨b, hyb⟩ := Option.ne_none_iff_exists'.1 hyb
      have ha := hexDigit_lt hxa
      have hb := hexDigit_lt hyb
      have hxor := (xorOf fmt).toNat_lt
      have hvalid : ValidChecksum (fmt ++ [0x2A, x, y]) ↔ 16 * a + b = (xorOf fmt).toNat := by
        rw [validChecksum_pair]
        simp [hxa, hyb]
      have hlone : loneDigit x y = none := by simp [loneDigit, hxa, hyb]
      have hread : stoull (x :: y :: lineEnding lfOnly) =
          some (charToULL charSigned (xorOf fmt)) ↔
            16 * a + b = if charSigned = true ∧ 0x80 ≤ xorOf fmt then
              (xorOf fmt).toNat + (2 ^ 64 - 256) else (xorOf fmt).toNat := by
        rw [stoull_digits hxa hyb, Option.some.injEq, ← UInt64.toNat_inj, toNat_charToULL,
          Nat.toUInt64_eq, UInt64.toNat_ofNat', Nat.mod_eq_of_lt (by omega)]
      rw [hread, hvalid, hlone]
      simp only [ne_eq, reduceCtorEq, not_false_eq_true, and_true]
      by_cases hwide : charSigned = true ∧ 0x80 ≤ xorOf fmt
      · -- the sum is wider than two digits
        have hnot : ¬16 * a + b = (xorOf fmt).toNat + (2 ^ 64 - 256) := by
          have hbig := UInt8.le_iff_toNat_le.1 hwide.2
          simp only [UInt8.reduceToNat] at hbig
          omega
        rw [if_pos hwide, iff_false_left hnot]
        refine ⟨fun h hsum => absurd hsum h, fun h hsum => ?_⟩
        exact absurd (h hsum hwide.1) (UInt8.not_lt.2 hwide.2)
      · rw [if_neg hwide]
        refine iff_of_true Iff.rfl fun _ hs => UInt8.not_le.1 fun hle => hwide ⟨hs, hle⟩
  · -- without two characters behind the last star nothing is accepted, nor valid
    have hno : checksum charSigned lfOnly (sentence lfOnly body) ≠ .ok := fun h =>
      hpair (checksum_ok_pair h)
    have hinvalid : ¬ValidChecksum body := by
      rintro ⟨fmt, x, y, a, b, rfl, hx, hy, -⟩
      exact hpair ⟨fmt, x, y, rfl, ne_of_hexDigit hx (by decide), ne_of_hexDigit hy (by decide)⟩
    refine iff_of_true (iff_of_false hno hinvalid) ⟨fun h => absurd h hinvalid, ?_⟩
    rintro fmt x y rfl hx hy
    exact absurd ⟨fmt, x, y, rfl, hx, hy⟩ hpair

/-- `G` is not a digit, and the test takes `4` alone for the sum of `A` and `E`. -/
theorem not_checksum_lone :
    ¬(checksum true false (sentence false (ascii "AE*4G")) = .ok ↔
      ValidChecksum (ascii "AE*4G")) := by
  have haccepted : checksum true false (sentence false (ascii "AE*4G")) = .ok := by decide
  rintro h
  obtain ⟨fmt, x, y, a, b, hbody, -, hy, -⟩ := h.1 haccepted
  have hsplit : ascii "AE*4G" = ascii "AE" ++ [0x2A, 0x34, 0x47] := by decide
  obtain ⟨-, -, rfl⟩ := pair_inj (hsplit.symm.trans hbody)
  cases hy

end SuplLpp.Format.Nmea
