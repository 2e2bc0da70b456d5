import Mathlib.Data.Nat.Digits.Lemmas
import Mathlib.Tactic.IntervalCases
import SuplLpp.Supl.Message

/-!
# The digits of an identity

An MSISDN or an IMSI is sent as eight octets with two decimal digits each, the low half first,
and fillers behind them.

* `binaryEncodedOctet`, the encoder: it writes from the last digit of the number to the first,
  from the place of the last digit on; `encodeSetid`;
* `nibbles`, the halves of the octets in the order in which they are read;
* `writeDigits_spec`: the loop puts the digits before what was there; `decodeDigits_eq`: the
  decoder folds the halves that are no fillers;
* `encodesExactly_iff`: up to sixteen digits the number comes back; with more the octets have
  fillers in place of all digits.
-/

namespace SuplLpp.Supl

/-! ### The encoder -/

/-- The first loop of `binary_encoded_octet`. -/
def digitCount (data : ℕ) : ℕ := if data = 0 then 0 else digitCount (data / 10) + 1
termination_by data
decreasing_by omega

/-- The second loop, from an index on; no value where it leaves the octets.  The index counts
the halves from the end. -/
def writeDigits (maxLength data index : ℕ) (buf : List UInt8) : Option (List UInt8) :=
  if data = 0 ∨ ¬ index < 2 * maxLength then some buf
  else
    let value := UInt8.ofNat (data % 10) &&& 0xF
    let byteIndex := maxLength - 1 - index / 2
    match buf[byteIndex]? with
    | none => none
    | some byte =>
      let byte := if index % 2 = 1 then (byte &&& 0xF0) ||| value
        else (byte &&& (0x0F : UInt8)) ||| (value <<< 4)
      writeDigits maxLength (data / 10) (index + 1) (buf.set byteIndex byte)
termination_by data
decreasing_by omega

/-- `binary_encoded_octet`; the index is a `size_t`, like the difference that it starts from. -/
def binaryEncodedOctet (maxLength : ℕ) (number : UInt64) : Option (List UInt8) :=
  let length := digitCount number.toNat
  let offset := (2 * maxLength + 2 ^ 64 - length) % 2 ^ 64
  writeDigits maxLength number.toNat offset (List.replicate maxLength 0xFF)

/-- `encode_setid`; no value where it is not reachable. -/
def encodeSetid : Identity → Option SETId
  | .msisdn number => (binaryEncodedOctet 8 number).map .msisdn
  | .imsi number => (binaryEncodedOctet 8 number).map .imsi
  | .ipv4 address => some (.iPAddress (.ipv4Address address))
  | .ipv6 address => some (.iPAddress (.ipv6Address address))
  | .fqdn _ | .unknown => none

/-! ### The halves of an octet -/

def lowHalf (byte : UInt8) : UInt8 := byte &&& 0xF

def highHalf (byte : UInt8) : UInt8 := (byte >>> 4) &&& (0xF : UInt8)

/-- The halves in the order of the decoder. -/
def nibbles (buf : List UInt8) : List UInt8 :=
  buf.flatMap fun byte => [lowHalf byte, highHalf byte]

section Halves

variable {byte value : UInt8}

theorem lowHalf_setLow (h : lowHalf value = value) :
    lowHalf ((byte &&& 0xF0) ||| value) = value := by
  unfold lowHalf at *
  apply UInt8.toBitVec_inj.1
  have hbits := congrArg UInt8.toBitVec h
  apply BitVec.eq_of_getLsbD_eq
  intro i hi
  have hbit := congrArg (BitVec.getLsbD · i) hbits
  interval_cases i <;> simp at hbit ⊢ <;> grind

theorem highHalf_setLow (h : lowHalf value = value) :
    highHalf ((byte &&& 0xF0) ||| value) = highHalf byte := by
  unfold highHalf lowHalf at *
  apply UInt8.toBitVec_inj.1
  have hbits := congrArg UInt8.toBitVec h
  apply BitVec.eq_of_getLsbD_eq
  intro i hi
  have hbit := congrArg (BitVec.getLsbD · (i + 4)) hbits
  interval_cases i <;> simp at hbit ⊢ <;> grind

theorem highHalf_setHigh (h : lowHalf value = value) :
    highHalf ((byte &&& (0x0F : UInt8)) ||| (value <<< 4)) = value := by
  unfold highHalf lowHalf at *
  apply UInt8.toBitVec_inj.1
  have hbits := congrArg UInt8.toBitVec h
  apply BitVec.eq_of_getLsbD_eq
  intro i hi
  have hbit := congrArg (BitVec.getLsbD · i) hbits
  interval_cases i <;> simp at hbit ⊢ <;> grind

theorem lowHalf_setHigh : lowHalf ((byte &&& (0x0F : UInt8)) ||| (value <<< 4)) = lowHalf byte := by
  unfold lowHalf
  apply UInt8.toBitVec_inj.1
  apply BitVec.eq_of_getLsbD_eq
  intro i hi
  interval_cases i <;> simp

/-- A digit fits into a half. -/
theorem lowHalf_digit {d : ℕ} (h : d < 10) : lowHalf (UInt8.ofNat d) = UInt8.ofNat d := by
  interval_cases d <;> rfl

end Halves

theorem nibbles_cons (byte : UInt8) (buf : List UInt8) :
    nibbles (byte :: buf) = lowHalf byte :: highHalf byte :: nibbles buf := rfl

theorem length_nibbles (buf : List UInt8) : (nibbles buf).length = 2 * buf.length := by
  induction buf with
  | nil => rfl
  | cons byte buf ih =>
    rw [nibbles_cons, List.length_cons, List.length_cons, ih, List.length_cons]
    omega

theorem getElem?_nibbles (buf : List UInt8) (p : ℕ) :
    (nibbles buf)[p]? =
      (buf[p / 2]?).map fun byte => if p % 2 = 0 then lowHalf byte else highHalf byte := by
  induction buf generalizing p with
  | nil => simp [nibbles]
  | cons byte buf ih =>
    rw [nibbles_cons]
    match p with
    | 0 => rfl
    | 1 => rfl
    | p + 2 =>
      have hhalf : (p + 2) / 2 = p / 2 + 1 := by omega
      have hparity : (p + 2) % 2 = p % 2 := by omega
      rw [List.getElem?_cons_succ, List.getElem?_cons_succ, ih, hhalf, hparity,
        List.getElem?_cons_succ]

/-- A half is written at an index that counts from the end. -/
theorem nibbles_set {maxLength index : ℕ} {buf : List UInt8} (hbuf : buf.length = maxLength)
    (hindex : index < 2 * maxLength) {byte value : UInt8}
    (hbyte : buf[maxLength - 1 - index / 2]? = some byte) (hvalue : lowHalf value = value) :
    nibbles (buf.set (maxLength - 1 - index / 2)
      (if index % 2 = 1 then (byte &&& 0xF0) ||| value
        else (byte &&& (0x0F : UInt8)) ||| (value <<< 4))) =
      (nibbles buf).set (2 * maxLength - 1 - index) value := by
  apply List.ext_getElem?
  intro p
  have hlt : maxLength - 1 - index / 2 < buf.length := by omega
  rw [getElem?_nibbles, List.getElem?_set, List.getElem?_set, length_nibbles, hbuf]
  by_cases hoctet : maxLength - 1 - index / 2 = p / 2
  · rw [if_pos hoctet, if_pos (by omega), Option.map_some]
    by_cases hodd : index % 2 = 1
    · rw [if_pos hodd, lowHalf_setLow hvalue, highHalf_setLow hvalue]
      by_cases hplace : 2 * maxLength - 1 - index = p
      · rw [if_pos hplace, if_pos (by omega), if_pos (by omega)]
      · rw [if_neg hplace, if_neg (by omega), getElem?_nibbles, ← hoctet, hbyte, Option.map_some,
          if_neg (by omega)]
    · rw [if_neg hodd, lowHalf_setHigh, highHalf_setHigh hvalue]
      by_cases hplace : 2 * maxLength - 1 - index = p
      · rw [if_pos hplace, if_neg (by omega), if_pos (by omega)]
      · rw [if_neg hplace, if_pos (by omega), getElem?_nibbles, ← hoctet, hbyte, Option.map_some,
          if_pos (by omega)]
  · rw [if_neg hoctet, if_neg (by omega), getElem?_nibbles]

/-! ### What the encoder writes -/

theorem digitCount_eq (n : ℕ) : digitCount n = (Nat.digits 10 n).length := by
  induction n using Nat.strongRecOn with
  | ind n ih =>
    rw [digitCount]
    split
    case isTrue hzero => rw [hzero]; rfl
    case isFalse hpos =>
      have hdigits : Nat.digits 10 n = n % 10 :: Nat.digits 10 (n / 10) :=
        Nat.digits_def' (by omega) (by omega)
      rw [ih (n / 10) (by omega), hdigits, List.length_cons]

theorem digitCount_le_iff (n k : ℕ) : digitCount n ≤ k ↔ n < 10 ^ k := by
  rw [digitCount_eq, Nat.digits_length_le_iff (by omega)]

/-- **The loop** writes the digits, the first one first, before the halves that are not reached. -/
theorem writeDigits_spec {maxLength : ℕ} (data : ℕ) (hdata : digitCount data ≤ 2 * maxLength)
    {buf : List UInt8} (hbuf : buf.length = maxLength) :
    ∃ buf', writeDigits maxLength data (2 * maxLength - digitCount data) buf = some buf' ∧
      buf'.length = maxLength ∧ nibbles buf' =
        ((Nat.digits 10 data).map UInt8.ofNat).reverse ++ (nibbles buf).drop (digitCount data) := by
  induction data using Nat.strongRecOn generalizing buf with
  | ind data ih =>
    by_cases hzero : data = 0
    · subst hzero
      refine ⟨buf, ?_, hbuf, ?_⟩
      · rw [writeDigits, if_pos (.inl rfl)]
      · simp [digitCount]
    · have hcount : digitCount data = digitCount (data / 10) + 1 := by
        rw [digitCount, if_neg hzero]
      have hdigit : data % 10 < 10 := Nat.mod_lt _ (by omega)
      have hvalue : UInt8.ofNat (data % 10) &&& 0xF = UInt8.ofNat (data % 10) :=
        lowHalf_digit hdigit
      set index := 2 * maxLength - digitCount data with hindex
      have hlt : index < 2 * maxLength := by omega
      obtain ⟨byte, hbyte⟩ : ∃ byte, buf[maxLength - 1 - index / 2]? = some byte :=
        ⟨_, List.getElem?_eq_getElem (by omega)⟩
      rw [writeDigits, if_neg (by omega), hvalue]
      simp only [hbyte]
      have hnibbles := nibbles_set hbuf hlt hbyte (lowHalf_digit hdigit)
      have hnext : index + 1 = 2 * maxLength - digitCount (data / 10) := by omega
      have hset : (buf.set (maxLength - 1 - index / 2) (if index % 2 = 1
          then (byte &&& 0xF0) ||| UInt8.ofNat (data % 10)
          else (byte &&& (0x0F : UInt8)) ||| (UInt8.ofNat (data % 10) <<< 4))).length =
          maxLength := by
        rw [List.length_set, hbuf]
      obtain ⟨buf', hwritten, hlength, hrest⟩ := ih (data / 10) (by omega) (by omega) hset
      refine ⟨buf', ?_, hlength, ?_⟩
      · rw [hnext, hwritten]
      · have hplace : 2 * maxLength - 1 - index = digitCount (data / 10) := by omega
        have hdigits : Nat.digits 10 data = data % 10 :: Nat.digits 10 (data / 10) :=
          Nat.digits_def' (by omega) (by omega)
        rw [hrest, hnibbles, hplace, hdigits, List.map_cons, List.reverse_cons,
          List.append_assoc, hcount, List.singleton_append]
        congr 1
        have hin : digitCount (data / 10) < (nibbles buf).length := by
          rw [length_nibbles]
          omega
        rw [List.drop_set, if_neg (lt_irrefl _), Nat.sub_self, List.drop_eq_getElem_cons hin,
          List.set_cons_zero]

/-! ### What the decoder reads -/

/-- A half that is no filler is a digit of the number. -/
def addDigit (number : UInt64) (half : UInt8) : UInt64 :=
  if half ≠ 0xF then 10 * number + half.toUInt64 else number

theorem decodeDigits_eq (buf : List UInt8) : decodeDigits buf = (nibbles buf).foldl addDigit 0 := by
  have hfold : ∀ number : UInt64, buf.foldl
      (fun (number : UInt64) (byte : UInt8) =>
        let first := byte &&& 0xF
        let second := (byte >>> 4) &&& 0xF
        let number := if first ≠ 0xF then 10 * number + first.toUInt64 else number
        if second ≠ 0xF then 10 * number + second.toUInt64 else number) number =
      (nibbles buf).foldl addDigit number := by
    induction buf with
    | nil => exact fun _ => rfl
    | cons byte buf ih =>
      intro number
      rw [nibbles_cons, List.foldl_cons, List.foldl_cons, List.foldl_cons, ih]
      rfl
  exact hfold 0

theorem foldl_addDigit_filler (n : ℕ) (number : UInt64) :
    (List.replicate n 0xF).foldl addDigit number = number := by
  induction n with
  | zero => rfl
  | succ n ih =>
    rw [List.replicate_succ, List.foldl_cons]
    exact ih

/-- The digits of a number, first digit first, give the number. -/
theorem foldl_addDigit_digits (n : ℕ) :
    ((Nat.digits 10 n).map UInt8.ofNat).reverse.foldl addDigit 0 = UInt64.ofNat n := by
  rw [List.foldl_reverse]
  induction n using Nat.strongRecOn with
  | ind n ih =>
    by_cases hzero : n = 0
    · rw [hzero]
      rfl
    · have hdigits : Nat.digits 10 n = n % 10 :: Nat.digits 10 (n / 10) :=
        Nat.digits_def' (by omega) (by omega)
      have hdigit : n % 10 < 10 := Nat.mod_lt _ (by omega)
      rw [hdigits, List.map_cons, List.foldr_cons, ih (n / 10) (by omega)]
      have hfiller : UInt8.ofNat (n % 10) ≠ 0xF := by
        generalize n % 10 = d at hdigit
        interval_cases d <;> decide
      have hcast : (UInt8.ofNat (n % 10)).toUInt64 = UInt64.ofNat (n % 10) := by
        generalize n % 10 = d at hdigit
        interval_cases d <;> rfl
      rw [addDigit, if_pos hfiller, hcast]
      have hten : (10 : UInt64) = UInt64.ofNat 10 := rfl
      rw [hten, ← UInt64.ofNat_mul, ← UInt64.ofNat_add, Nat.div_add_mod]

theorem nibbles_replicate (n : ℕ) :
    nibbles (List.replicate n 0xFF) = List.replicate (2 * n) 0xF := by
  induction n with
  | zero => rfl
  | succ n ih =>
    rw [List.replicate_succ, nibbles_cons, ih, Nat.mul_succ, List.replicate_succ,
      List.replicate_succ]
    rfl

/-! ### Numbers of any length -/

/-- **The octets of a number** of up to sixteen digits: its digits and fillers. -/
theorem binaryEncodedOctet_of_le {number : UInt64} (h : digitCount number.toNat ≤ 16) :
    ∃ buf, binaryEncodedOctet 8 number = some buf ∧ buf.length = 8 ∧ nibbles buf =
      ((Nat.digits 10 number.toNat).map UInt8.ofNat).reverse ++
        List.replicate (16 - digitCount number.toNat) 0xF := by
  obtain ⟨buf, hbuf, hlength, hnibbles⟩ := writeDigits_spec number.toNat h
    (List.length_replicate (n := 8) (a := (0xFF : UInt8)))
  refine ⟨buf, ?_, hlength, ?_⟩
  · have hoffset : (2 * 8 + 2 ^ 64 - digitCount number.toNat) % 2 ^ 64 =
        2 * 8 - digitCount number.toNat := by omega
    unfold binaryEncodedOctet
    dsimp only
    rw [hoffset, hbuf]
  · rw [hnibbles, nibbles_replicate, List.drop_replicate]

/-- With more digits the difference wraps, and the loop has nothing to do. -/
theorem binaryEncodedOctet_of_lt {number : UInt64} (h : 16 < digitCount number.toNat) :
    binaryEncodedOctet 8 number = some (List.replicate 8 0xFF) := by
  have htwenty : digitCount number.toNat ≤ 20 := by
    rw [digitCount_le_iff]
    exact lt_of_lt_of_le number.toNat_lt (by norm_num)
  unfold binaryEncodedOctet
  dsimp only
  rw [writeDigits, if_pos (.inr (by omega))]

theorem decodeDigits_encoded {number : UInt64} (h : digitCount number.toNat ≤ 16)
    {buf : List UInt8} (hbuf : binaryEncodedOctet 8 number = some buf) :
    decodeDigits buf = number := by
  obtain ⟨buf', hbuf', -, hnibbles⟩ := binaryEncodedOctet_of_le h
  rw [hbuf] at hbuf'
  cases hbuf'
  rw [decodeDigits_eq, hnibbles, List.foldl_append, foldl_addDigit_filler, foldl_addDigit_digits,
    UInt64.ofNat_toNat]

/-- What is asked of the encoder for an identity with the octets `buf` of a number: it stays in
the octets, a number of at most sixteen digits comes back, and for a longer one there is a digit
in each half. -/
structure EncodesExactly (number : UInt64) (make : List UInt8 → SETId) (identity : Identity) :
    Prop where
  inside : ∃ buf, encodeSetid identity = some (make buf) ∧ buf.length = 8
  comesBack : digitCount number.toNat ≤ 16 →
    (encodeSetid identity).map SETId.decodeIdentity = some identity
  digits : 16 < digitCount number.toNat → ∀ buf, encodeSetid identity = some (make buf) →
    ∀ half ∈ nibbles buf, half < 10

/-- **Identities are encoded as they should** exactly if they have at most sixteen digits. -/
theorem encodesExactly_iff (number : UInt64) :
    (EncodesExactly number .msisdn (.msisdn number) ∧
      EncodesExactly number .imsi (.imsi number)) ↔ number.toNat < 10 ^ 16 := by
  rw [← digitCount_le_iff]
  constructor
  · rintro ⟨h, -⟩
    by_contra hlong
    have hencoded : encodeSetid (.msisdn number) = some (.msisdn (List.replicate 8 0xFF)) := by
      rw [encodeSetid, binaryEncodedOctet_of_lt (by omega), Option.map_some]
    exact absurd (h.digits (by omega) _ hencoded 0xF (by decide)) (by decide)
  · intro hshort
    obtain ⟨buf, hbuf, hlength, -⟩ := binaryEncodedOctet_of_le hshort
    have hdecoded := decodeDigits_encoded hshort hbuf
    refine ⟨⟨⟨buf, ?_, hlength⟩, fun _ => ?_, fun hlong => ?_⟩,
      ⟨buf, ?_, hlength⟩, fun _ => ?_, fun hlong => ?_⟩
    · rw [encodeSetid, hbuf, Option.map_some]
    · rw [encodeSetid, hbuf, Option.map_some, Option.map_some, SETId.decodeIdentity, hdecoded]
    · omega
    · rw [encodeSetid, hbuf, Option.map_some]
    · rw [encodeSetid, hbuf, Option.map_some, Option.map_some, SETId.decodeIdentity, hdecoded]
    · omega

/-- A number of seventeen digits. -/
theorem not_encodesExactly_long :
    ¬ ∀ number : UInt64, EncodesExactly number .msisdn (.msisdn number) ∧
      EncodesExactly number .imsi (.imsi number) := by
  intro hall
  have hcount : 16 < digitCount (10000000000000000 : UInt64).toNat := by
    rw [← not_le, digitCount_le_iff]
    decide
  have hencoded : encodeSetid (.msisdn 10000000000000000) =
      some (.msisdn (List.replicate 8 0xFF)) := by
    rw [encodeSetid, binaryEncodedOctet_of_lt hcount, Option.map_some]
  exact absurd ((hall 10000000000000000).1.digits hcount _ hencoded 0xF (by decide)) (by decide)

end SuplLpp.Supl
