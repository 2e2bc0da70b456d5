import SuplLpp.Lib.Bits

/-!
# ASN.1 values

The decoded LPP message meets the constraints of the ASN.1 definitions; the types carry them.

* `Integer lo hi`, a constrained `INTEGER`; `SeqOf α lo hi`, a `SEQUENCE (SIZE (lo..hi)) OF`;
  `BitString n`, a `BIT STRING (SIZE (n))`;
* the elements that both generators read: `GnssId`, `GnssSystemTime`, `SvId`, `GnssSignalId`.
-/

namespace SuplLpp.Asn

/-- `INTEGER (lo..hi)`. -/
abbrev Integer (lo hi : ℤ) := {v : ℤ // lo ≤ v ∧ v ≤ hi}

/-- A check by evaluation: `True` as soon as its arguments are known. -/
abbrev Checks (b : Bool) : Prop := cond b True False

theorem Checks.eq_true {b : Bool} (h : Checks b) : b = true := by
  cases b with
  | false => exact absurd h id
  | true => rfl

/-- A literal is in a range. -/
theorem Integer.mem {lo v hi : ℕ}
    (h : Checks (Nat.ble lo v && Nat.ble v hi) := by exact trivial) :
    (OfNat.ofNat lo : ℤ) ≤ OfNat.ofNat v ∧ (OfNat.ofNat v : ℤ) ≤ OfNat.ofNat hi := by
  obtain ⟨hlo, hhi⟩ := Bool.and_eq_true_iff.1 h.eq_true
  exact ⟨Int.ofNat_le.2 (Nat.le_of_ble_eq_true hlo), Int.ofNat_le.2 (Nat.le_of_ble_eq_true hhi)⟩

/-- A literal is in a range that begins below zero. -/
theorem Integer.mem_neg {lo v hi : ℕ} (h : Checks (Nat.ble v hi) := by exact trivial) :
    -(OfNat.ofNat lo : ℤ) ≤ OfNat.ofNat v ∧ (OfNat.ofNat v : ℤ) ≤ OfNat.ofNat hi :=
  ⟨(Int.neg_nonpos_of_nonneg (Int.natCast_nonneg lo)).trans (Int.natCast_nonneg v),
    Int.ofNat_le.2 (Nat.le_of_ble_eq_true h.eq_true)⟩

/-- `SEQUENCE (SIZE (lo..hi)) OF α`. -/
abbrev SeqOf (α : Type) (lo hi : ℕ) := {l : List α // lo ≤ l.length ∧ l.length ≤ hi}

/-- `BIT STRING (SIZE (n))`, first bit first. -/
abbrev BitString (n : ℕ) := {bs : List Bool // bs.length = n}

/-- The bit string of these bits. -/
def BitString.ofBits (bits : List Bool) : BitString bits.length := ⟨bits, rfl⟩

/-- `helper::BitString::get_bit` counts from the last bit. -/
def BitString.getBit {n : ℕ} (bs : BitString n) (index : ℕ) : Bool :=
  bs.1.reverse.getD index false

/-- `helper::BitString::as_int64`. -/
def BitString.asInt64 {n : ℕ} (bs : BitString n) : ℤ := Bits.toNat bs.1

/-- `GNSS-ID`. -/
inductive GnssId
  | gps | sbas | qzss | galileo | glonass | bds | navic
  deriving DecidableEq, Repr

/-- `GNSS-SystemTime`. -/
structure GnssSystemTime where
  gnssTimeId : GnssId
  gnssDayNumber : Integer 0 32767
  gnssTimeOfDay : Integer 0 86399
  gnssTimeOfDayFracMsec : Option (Integer 0 999)

/-- `SV-ID`. -/
abbrev SvId := Integer 0 63

/-- `GNSS-SignalID`. -/
structure GnssSignalId where
  gnssSignalId : Integer 0 7
  gnssSignalIdExt : Option (Integer 8 23)

end SuplLpp.Asn
