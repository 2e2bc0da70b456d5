import SuplLpp.Format.Checksum
import SuplLpp.Format.RtcmStream
import SuplLpp.Lib.ErrorDetection

/-!
# Frames with errors

A frame that arrives with an error behind its header is not taken for a message, whatever the
error is, as long as it lies within 24 bits, or changes an odd number of bits, or two bits.

* `crc_eq_ok_iff`: the test of the parser is that the generator divides the frame;
* `noReturn`, a computation: the register does not come round again within a frame;
* `Found`, the errors that are always found, and `crc_of_found`;
* `tryParse_damaged`: the parser passes over the damaged frame; `stream_damaged`: the messages of
  a stream with such a frame.
-/

namespace SuplLpp.Format

open Polynomial Bits Crc
open SuplLpp.Rtcm (crc24qPoly)

/-! ### The test of the parser -/

/-- Three bytes, put together by the parser, are one after another. -/
theorem expected_toBitVec (a b c : UInt8) :
    ((a.toUInt32 <<< 16) ||| (b.toUInt32 <<< 8) ||| (c.toUInt32 <<< 0)).toBitVec =
      (a.toBitVec ++ b.toBitVec ++ c.toBitVec).setWidth 32 := by
  have ha : a.toNat < 256 := a.toNat_lt
  have hb : b.toNat < 256 := b.toNat_lt
  have hc : c.toNat < 256 := c.toNat_lt
  have hn : a.toNat * 65536 + b.toNat * 256 + c.toNat < 2 ^ 24 := by omega
  have hleft := SuplLpp.Rtcm.expected_toNat hn
  have ha' : UInt8.ofNat ((a.toNat * 65536 + b.toNat * 256 + c.toNat) / 65536) = a := by
    rw [show (a.toNat * 65536 + b.toNat * 256 + c.toNat) / 65536 = a.toNat by omega,
      UInt8.ofNat_toNat]
  have hb' : UInt8.ofNat ((a.toNat * 65536 + b.toNat * 256 + c.toNat) / 256) = b := by
    apply UInt8.toNat_inj.1
    rw [UInt8.toNat_ofNat']
    omega
  have hc' : UInt8.ofNat (a.toNat * 65536 + b.toNat * 256 + c.toNat) = c := by
    apply UInt8.toNat_inj.1
    rw [UInt8.toNat_ofNat']
    omega
  rw [ha', hb', hc'] at hleft
  apply BitVec.eq_of_toNat_eq
  rw [UInt32.toNat_toBitVec, hleft, BitVec.toNat_setWidth, BitVec.toNat_append,
    BitVec.toNat_append, UInt8.toNat_toBitVec, UInt8.toNat_toBitVec, UInt8.toNat_toBitVec,
    ← Nat.shiftLeft_add_eq_or_of_lt hc, ← Nat.shiftLeft_add_eq_or_of_lt hb, Nat.shiftLeft_eq,
    Nat.shiftLeft_eq]
  omega

/-- The polynomial of the checksum that a frame carries. -/
theorem ofBits_expected (a b c : UInt8) :
    ofBits ((a.toUInt32 <<< 16) ||| (b.toUInt32 <<< 8) ||| (c.toUInt32 <<< 0)).toBitVec =
      message [a, b, c] := by
  rw [expected_toBitVec, ofBits_setWidth (by omega), ofBits_append, ofBits_append]
  simp [message]

/-- The parser accepts what the generator divides. -/
theorem crc_eq_ok_iff {frame : List UInt8} (h : 3 ≤ frame.length) :
    Rtcm.crc frame = .ok ↔ generator crc24qPoly ∣ message frame := by
  obtain ⟨before, a, b, c, rfl⟩ : ∃ before a b c, frame = before ++ [a, b, c] := by
    have hdrop : (frame.drop (frame.length - 3)).length = 3 := by
      rw [List.length_drop]
      omega
    obtain ⟨a, b, c, habc⟩ := List.length_eq_three.1 hdrop
    exact ⟨frame.take (frame.length - 3), a, b, c, by rw [← habc, List.take_append_drop]⟩
  have hlen : (before ++ [a, b, c]).length - 3 = before.length := by simp
  have hget : ∀ i, (before ++ [a, b, c]).getD (before.length + i) 0 = [a, b, c].getD i 0 := by
    intro i
    rw [List.getD_append_right _ _ _ _ (by omega), Nat.add_sub_cancel_left]
  have hget0 := hget 0
  rw [Nat.add_zero] at hget0
  have hcrc : Rtcm.crc (before ++ [a, b, c]) = .ok ↔ Rtcm.crc24qHash before =
      (a.toUInt32 <<< 16) ||| (b.toUInt32 <<< 8) ||| (c.toUInt32 <<< 0) := by
    rw [Rtcm.crc, if_neg (by omega)]
    dsimp only
    rw [hlen, hget0, hget 1, hget 2, List.take_left]
    split_ifs with hne
    · exact iff_of_false (by simp) hne
    · exact iff_of_true rfl (not_not.1 hne)
  have hhash : ofBits (Rtcm.crc24qHash before).toBitVec = ofBits (hash crc24qPoly before) := by
    rw [parser_crc24qHash_eq, SuplLpp.Rtcm.crc24qHash_eq, ofBits_setWidth (by omega)]
  have hbits : (bytesBits [a, b, c]).length = 24 := by simp
  have hdvd := dvd_sub_hash crc24qPoly (by omega) before
  rw [hcrc, message_append, hbits]
  constructor
  · intro heq
    rw [← ofBits_expected, ← heq, hhash]
    have htwo : ofBits (hash crc24qPoly before) + ofBits (hash crc24qPoly before) = 0 :=
      CharTwo.add_self_eq_zero _
    convert hdvd using 1
    linear_combination htwo
  · intro hmessage
    have hdiff := dvd_sub hmessage hdvd
    rw [add_sub_sub_cancel, ← ofBits_expected, expected_toBitVec, ofBits_setWidth (by omega),
      ← ofBits_xor] at hdiff
    have hzero := eq_zero_of_dvd_of_degree_lt hdiff
      ((degree_ofBits_lt _).trans_eq (degree_generator crc24qPoly).symm)
    rw [ofBits_xor, CharTwo.add_eq_zero] at hzero
    apply UInt32.toBitVec_inj.1
    apply ofBits_injective
    rw [hhash, expected_toBitVec, ofBits_setWidth (by omega), hzero]

/-! ### Errors that are found -/

/-- The register does not return to one within `n` steps. -/
def noReturn : ℕ → BitVec 24 → Bool
  | 0, _ => true
  | n + 1, c => shift crc24qPoly c != 1#24 && noReturn n (shift crc24qPoly c)

theorem iterate_ne_of_noReturn {n : ℕ} {c : BitVec 24} (h : noReturn n c = true) {k : ℕ}
    (hk : k < n) : (shift crc24qPoly)^[k + 1] c ≠ 1#24 := by
  induction n generalizing c k with
  | zero => omega
  | succ n ih =>
    simp only [noReturn, Bool.and_eq_true, bne_iff_ne] at h
    cases k with
    | zero => exact h.1
    | succ k =>
      rw [Function.iterate_succ_apply]
      exact ih h.2 (by omega)

/-- The longest frame has 8232 bits. -/
theorem noReturn_frame : noReturn 8232 1#24 = true := by
  decide +kernel

/-- An error: within 24 bits, in an odd number of bits, or in two. -/
inductive Found : List Bool → Prop
  | burst {burst : List Bool} (i j : ℕ) : burst.length ≤ 24 → true ∈ burst →
      Found (List.replicate i false ++ burst ++ List.replicate j false)
  | odd {e : List Bool} : Odd (e.count true) → Found e
  | pair (i k j : ℕ) : Found (List.replicate i false ++
      (true :: (List.replicate k false ++ [true])) ++ List.replicate j false)

theorem eval_one_generator : (generator crc24qPoly).eval 1 = 0 := by
  rw [generator_crc24qPoly, ofBits, eval_finsetSum]
  simp only [eval_monomial, one_pow, mul_one]
  decide +kernel

/-- The generator divides no such error, in a frame. -/
theorem not_dvd_of_found {e : List Bool} (h : Found e) (hlen : e.length ≤ 8232) :
    ¬ generator crc24qPoly ∣ ofList e := by
  have hpoly : crc24qPoly.getLsbD 0 = true := by decide
  cases h with
  | burst i j hburst htrue => exact not_dvd_burst hpoly hburst htrue i j
  | odd hodd => exact not_dvd_odd eval_one_generator hodd
  | pair i k j =>
    have hk : k < 8232 := by
      simp only [List.length_append, List.length_replicate, List.length_cons] at hlen
      omega
    exact not_dvd_pair hpoly (iterate_ne_of_noReturn noReturn_frame hk) i j

/-- The bits in which two strings of bytes differ. -/
def error (frame damaged : List UInt8) : List Bool :=
  List.zipWith xor (bytesBits frame) (bytesBits damaged)

/-- No such error goes unnoticed. -/
theorem crc_of_found {frame damaged : List UInt8} (hshort : 3 ≤ frame.length)
    (hlong : frame.length ≤ 1029) (hlen : damaged.length = frame.length)
    (hok : Rtcm.crc frame = .ok) (h : Found (error frame damaged)) :
    Rtcm.crc damaged ≠ .ok := by
  have hbits : (bytesBits frame).length = (bytesBits damaged).length := by simp [hlen]
  have herror : (error frame damaged).length ≤ 8232 := by
    rw [error, List.length_zipWith, ← hbits, Nat.min_self, length_bytesBits]
    omega
  intro hdamaged
  rw [crc_eq_ok_iff hshort, message_eq_ofList] at hok
  rw [crc_eq_ok_iff (by omega), message_eq_ofList] at hdamaged
  refine not_dvd_of_found h herror ?_
  rw [error, ofList_xor hbits]
  exact dvd_add hok hdamaged

/-- What the parser reads in the header of a frame. -/
theorem header_of_isFrame {payload frame : List UInt8}
    (h : SuplLpp.Rtcm.IsFrame payload frame) :
    frame.head? = some 0xD3 ∧ frame.getD 1 0 &&& 0xFC = 0 ∧
      ((frame.getD 1 0 &&& 0x03).toNat <<< 8) ||| (frame.getD 2 0).toNat = payload.length := by
  have hle := h.1
  obtain ⟨c, -, rfl, -⟩ := h.bytes
  have hquot : payload.length / 256 ≤ 3 := by omega
  have hsmall : ∀ k : Fin 4, UInt8.ofNat k &&& 0xFC = 0 ∧ (UInt8.ofNat k &&& 0x03).toNat = k := by
    decide
  obtain ⟨hpad, hhigh⟩ := hsmall ⟨payload.length / 256, by omega⟩
  simp only at hpad hhigh
  refine ⟨rfl, hpad, ?_⟩
  change ((UInt8.ofNat (payload.length / 256) &&& 0x03).toNat <<< 8) |||
    (UInt8.ofNat payload.length).toNat = payload.length
  rw [hhigh, UInt8.toNat_ofNat', ← Nat.shiftLeft_add_eq_or_of_lt (by omega), Nat.shiftLeft_eq]
  omega

/-- With its header as it was, and with such an error behind it, a frame is not taken: the parser
drops its first byte and looks on. -/
theorem tryParse_damaged {payload frame damaged : List UInt8}
    (hframe : SuplLpp.Rtcm.IsFrame payload frame) (hlen : damaged.length = frame.length)
    (hheader : damaged.take 3 = frame.take 3) (h : Found (error frame damaged)) :
    Rtcm.Queue.tryParse damaged = (damaged.drop 1, none) := by
  have hle := hframe.1
  have hframelen := hframe.length
  have hcrc : Rtcm.crc damaged ≠ .ok :=
    crc_of_found (by omega) (by omega) hlen hframe.crc h
  obtain ⟨hhead, hpad, hpayload⟩ := header_of_isFrame hframe
  have hget : ∀ i, i < 3 → damaged.getD i 0 = frame.getD i 0 := by
    intro i hi
    have hi' := congrArg (fun l : List UInt8 => l[i]?) hheader
    simp only [List.getElem?_take, if_pos hi] at hi'
    rw [List.getD_eq_getElem?_getD, List.getD_eq_getElem?_getD, hi']
  have hhead' : damaged.head? = some 0xD3 := by
    have htake := congrArg List.head? hheader
    rwa [List.head?_take, List.head?_take, if_neg (by omega), if_neg (by omega), hhead] at htake
  have hdrop : damaged.dropWhile (· != 0xD3) = damaged := by
    obtain ⟨rest, rfl⟩ := List.head?_eq_some_iff.1 hhead'
    rfl
  have hall : 1 + 2 + payload.length + 3 = damaged.length := by omega
  unfold Rtcm.Queue.tryParse
  simp only [hdrop, hget 1 (by omega), hget 2 (by omega), hpayload, hall, List.take_length]
  rw [if_neg (by omega), if_neg (not_not.mpr hpad), if_neg (lt_irrefl _), if_pos hcrc]

/-- **A damaged frame is passed over.**  With its header as it was, and with an error behind it
that lies within 24 bits, or is of an odd number of bits or of two, a frame gives no message,
whatever follows it; if no preamble is found within it, the messages of what follows are given as
if it had not been there. -/
theorem stream_damaged {payload frame damaged : List UInt8}
    (hframe : SuplLpp.Rtcm.IsFrame payload frame) (hlen : damaged.length = frame.length)
    (hheader : damaged.take 3 = frame.take 3) (h : Found (error frame damaged)) (q : List UInt8) :
    Rtcm.stream (damaged ++ q) = Rtcm.stream (damaged.drop 1 ++ q) ∧
      (0xD3 ∉ damaged.drop 1 → Rtcm.stream (damaged ++ q) = Rtcm.stream q) := by
  have hstep : Rtcm.Queue.step damaged = (damaged.drop 1, []) := by
    rw [Rtcm.Queue.step, tryParse_damaged hframe hlen hheader h]
    rfl
  have hpassed : Rtcm.stream (damaged ++ q) = Rtcm.stream (damaged.drop 1 ++ q) := by
    rw [Rtcm.stream, Rtcm.steady_step.drain_append, hstep]
    rfl
  exact ⟨hpassed, fun hnone => hpassed.trans (Rtcm.stream_noise hnone q)⟩

/-- One bit of the payload has changed, and another frame follows. -/
theorem stream_damaged_short :
    Rtcm.stream ([0xD3, 0, 2, 0x3E, 0xD1, 0xA4, 0xE0, 0] ++ Rtcm.shortFrame) =
        Rtcm.stream ([0, 2, 0x3E, 0xD1, 0xA4, 0xE0, 0] ++ Rtcm.shortFrame) ∧
      (0xD3 ∉ [(0 : UInt8), 2, 0x3E, 0xD1, 0xA4, 0xE0, 0] →
        Rtcm.stream ([0xD3, 0, 2, 0x3E, 0xD1, 0xA4, 0xE0, 0] ++ Rtcm.shortFrame) =
          Rtcm.stream Rtcm.shortFrame) :=
  stream_damaged Rtcm.isFrame_shortFrame (by decide) (by decide) (.odd (by decide +kernel))
    Rtcm.shortFrame

end SuplLpp.Format
