import SuplLpp.Rtcm.Generator
import SuplLpp.Rtcm.ResidualMessages

/-!
# What the reference station messages say

The messages 1005 and 1006 describe a reference station, and 1032 names the physical reference
station behind one.

* `readStation` and `readPhysical`, the receiver;
* `Announces`, `AnnouncesPhysical`: a message is read as what the LPP information says;
* `announces_generate1005_iff` and so on: that is so exactly if the numbers of the stations fit
  12 bits, and the coordinates are those of LPP always.
-/

namespace SuplLpp.Rtcm

open Asn Bits

/-! ### The receiver -/

/-- Read a signed number of `w` bits. -/
def readInt (w : ℕ) : Reader ℤ := do
  let bs ← Reader.bits w
  return toInt bs

/-- The fields of 1005 and 1006 that are about the station. -/
structure StationFields where
  messageId : ℕ
  referenceStationId : ℕ
  nonPhysical : ℕ
  x : ℤ
  y : ℤ
  z : ℤ
  antennaHeight : Option ℕ
  deriving DecidableEq

/-- The fields that 1005 and 1006 have in common.  The reserved bits, the system indicators and the
oscillator and quarter cycle indicators are passed over. -/
def readHead : Reader StationFields := do
  let messageId ← Reader.nat 12
  let referenceStationId ← Reader.nat 12
  let _ ← Reader.bits 9
  let nonPhysical ← Reader.nat 1
  let x ← readInt 38
  let _ ← Reader.bits 2
  let y ← readInt 38
  let _ ← Reader.bits 2
  let z ← readInt 38
  return ⟨messageId, referenceStationId, nonPhysical, x, y, z, none⟩

/-- Only 1006 has a height. -/
def readStation : Reader StationFields := do
  let fields ← readHead
  if fields.messageId = 1006 then
    let antennaHeight ← Reader.nat 16
    return { fields with antennaHeight := some antennaHeight }
  else return fields

/-- The fields of 1032. -/
structure PhysicalFields where
  messageId : ℕ
  referenceStationId : ℕ
  physicalReferenceStationId : ℕ
  x : ℤ
  y : ℤ
  z : ℤ
  deriving DecidableEq

def readPhysical : Reader PhysicalFields := do
  let messageId ← Reader.nat 12
  let referenceStationId ← Reader.nat 12
  let physicalReferenceStationId ← Reader.nat 12
  let _ ← Reader.bits 6
  let x ← readInt 38
  let y ← readInt 38
  let z ← readInt 38
  return ⟨messageId, referenceStationId, physicalReferenceStationId, x, y, z⟩

/-- What a receiver reads of a message. -/
def Message.read {α : Type} (message : Message) (reader : Reader α) : Option α :=
  (reader (bytesBits (framePayload message.data))).map Prod.fst

/-! ### What is promised -/

/-- The fields for an LPP reference station. -/
def stationFields (messageId : ℕ) (info : GnssRtkReferenceStationInfo) : StationFields where
  messageId := messageId
  referenceStationId := info.referenceStationId.1.toNat
  nonPhysical := if info.referenceStationIndicator = .physical then 0 else 1
  x := info.antennaReferencePointEcefX.1
  y := info.antennaReferencePointEcefY.1
  z := info.antennaReferencePointEcefZ.1
  antennaHeight :=
    if messageId = 1006 then info.antennaHeight.map fun height => height.1.toNat else none

/-- The fields for an LPP reference station with a physical one. -/
def physicalFields (info : GnssRtkReferenceStationInfo) (physical : PhysicalReferenceStationInfo) :
    PhysicalFields where
  messageId := 1032
  referenceStationId := info.referenceStationId.1.toNat
  physicalReferenceStationId := physical.physicalReferenceStationId.1.toNat
  x := physical.physicalArpEcefX.1
  y := physical.physicalArpEcefY.1
  z := physical.physicalArpEcefZ.1

/-- The message is that of the reference station. -/
def Announces (info : GnssRtkReferenceStationInfo) (message : Message) : Prop :=
  message.read readStation = some (stationFields message.id.toNat info)

/-- The message is that of the reference station and its physical one. -/
def AnnouncesPhysical (info : GnssRtkReferenceStationInfo)
    (physical : PhysicalReferenceStationInfo) (message : Message) : Prop :=
  message.read readPhysical = some (physicalFields info physical)

/-! ### Numbers in fields -/

theorem reads_int {k : ℕ} {value : ℤ} (hlo : -2 ^ k ≤ value) (hhi : value < 2 ^ k) :
    Reads (readInt (k + 1)) (ofNat (k + 1) (Encoder.signField (k + 1) value)) value := by
  have hbits := Reads.bits (ofNat (k + 1) (Encoder.signField (k + 1) value))
  rw [length_ofNat] at hbits
  have h := Reads.bind (k := fun bs => return toInt bs) hbits (Reads.pure _)
  rw [List.append_nil, Encoder.toInt_signField hlo hhi] at h
  exact h

/-- A coordinate of LPP comes out of its scaling unchanged. -/
theorem emits_coordinate (value : Integer (-137438953472) 137438953471) :
    Encoder.Emits (df02x · (referencePoint value.1))
      (ofNat 38 (Encoder.signField 38 value.1)) := by
  have hround : rtcmRound (referencePoint value.1 / 0.0001) = value.1 := by
    rw [referencePoint, mul_div_cancel_right₀ _ (by norm_num), rtcmRound_int]
  obtain ⟨hlo, hhi⟩ := value.2
  have h := Encoder.emits_i64 (show 0 < 38 by omega) (show 38 ≤ 64 by omega)
    (Int64.ofInt (rtcmRound (referencePoint value.1 / 0.0001)))
  have hint : (Int64.ofInt (rtcmRound (referencePoint value.1 / 0.0001))).toInt = value.1 := by
    rw [hround]
    exact Int64.toInt_ofInt_of_le (by omega) (by omega)
  rw [hint] at h
  exact h

theorem reads_coordinate (value : Integer (-137438953472) 137438953471) :
    Reads (readInt 38) (ofNat 38 (Encoder.signField 38 value.1)) value.1 := by
  obtain ⟨hlo, hhi⟩ := value.2
  exact reads_int (k := 37) (by omega) (by omega)

/-- The number of a station, which LPP gives 16 bits, is cut to 12. -/
theorem emits_stationId (value : Integer 0 65535) :
    Encoder.Emits (fun encoder => encoder.u16 12 (UInt32.ofInt value.1).toUInt16)
      (ofNat 12 value.1.toNat) := by
  obtain ⟨hlo, hhi⟩ := value.2
  have h := Encoder.emits_u16 (show 12 ≤ 16 by omega) (UInt32.ofInt value.1).toUInt16
  have hnat : (UInt32.ofInt value.1).toUInt16.toNat = value.1.toNat := by
    rw [UInt32.toNat_toUInt16, UInt32.ofInt, UInt32.toNat_ofNat']
    omega
  rw [hnat] at h
  exact h

theorem emits_height (value : Integer 0 65535) :
    Encoder.Emits (df028 · (value.1 * 0.0001)) (ofNat 16 value.1.toNat) := by
  obtain ⟨hlo, hhi⟩ := value.2
  have hround : rtcmRound ((value.1 * 0.0001 : ℚ) / 0.0001) = value.1 := by
    rw [mul_div_cancel_right₀ _ (by norm_num), rtcmRound_int]
  have h := Encoder.emits_u16 (show 16 ≤ 16 by omega)
    (UInt16.ofInt (rtcmRound ((value.1 * 0.0001 : ℚ) / 0.0001)))
  have hnat : (UInt16.ofInt (rtcmRound ((value.1 * 0.0001 : ℚ) / 0.0001))).toNat =
      value.1.toNat := by
    rw [hround, UInt16.ofInt, UInt16.toNat_ofNat']
    omega
  rw [hnat] at h
  exact h

/-! ### What is written -/

section Station

variable (messageId : UInt16) (info : GnssRtkReferenceStationInfo) (gps glo gal : Bool)

def nonPhysicalBit : Bool := !decide (info.referenceStationIndicator = .physical)

/-- What 1005 and 1006 have in common. -/
def headBits : List Bool :=
  ofNat 12 messageId.toNat ++ (ofNat 12 info.referenceStationId.1.toNat ++
    ((List.replicate 6 false ++ [gps, glo, gal]) ++ ([nonPhysicalBit info] ++
      (ofNat 38 (Encoder.signField 38 info.antennaReferencePointEcefX.1) ++
        ([false, false] ++
          (ofNat 38 (Encoder.signField 38 info.antennaReferencePointEcefY.1) ++
            ([false, false] ++
              (ofNat 38 (Encoder.signField 38 info.antennaReferencePointEcefZ.1) ++ []))))))))

theorem stationPayload_bits :
    (stationPayload messageId (extractReferenceStationInfo info) gps glo gal).Holds
      (headBits messageId info gps glo gal) := by
  have h1 := (Encoder.emits_u16 (show 12 ≤ 16 by omega) messageId).new
  have h2 := emits_stationId info.referenceStationId _ _ h1
  have h3 := Encoder.emits_reserve (show 6 ≤ 64 by omega) _ _ h2
  have h4 := Encoder.emits_b gps _ _ h3
  have h5 := Encoder.emits_b glo _ _ h4
  have h6 := Encoder.emits_b gal _ _ h5
  have h7 := Encoder.emits_b (nonPhysicalBit info) _ _ h6
  have h8 := emits_coordinate info.antennaReferencePointEcefX _ _ h7
  have h9 := Encoder.emits_u8 (show 1 ≤ 8 by omega) 0 _ _ h8
  have h10 := Encoder.emits_reserve (show 1 ≤ 64 by omega) _ _ h9
  have h11 := emits_coordinate info.antennaReferencePointEcefY _ _ h10
  have h12 := Encoder.emits_u8 (show 2 ≤ 8 by omega) 0 _ _ h11
  have h13 := emits_coordinate info.antennaReferencePointEcefZ _ _ h12
  simp only [List.append_assoc] at h13
  simp only [headBits, List.append_assoc, List.append_nil]
  exact h13

/-- The fields, the number of the station cut to 12 bits. -/
def writtenFields (messageId : ℕ) (info : GnssRtkReferenceStationInfo) : StationFields :=
  { stationFields messageId info with
    referenceStationId := info.referenceStationId.1.toNat % 2 ^ 12 }

theorem reads_bit (b : Bool) : Reads (Reader.nat 1) [b] b.toNat := by
  cases b <;> exact fun _ => rfl

theorem reads_head (hid : messageId.toNat < 4096) :
    Reads readHead (headBits messageId info gps glo gal)
      { writtenFields messageId.toNat info with antennaHeight := none } := by
  have hmessage := Reads.nat 12 messageId.toNat
  rw [Nat.mod_eq_of_lt (show messageId.toNat < 2 ^ 12 by omega)] at hmessage
  have hbit : (nonPhysicalBit info).toNat =
      if info.referenceStationIndicator = .physical then 0 else 1 := by
    unfold nonPhysicalBit
    cases info.referenceStationIndicator <;> rfl
  have hindicator := reads_bit (nonPhysicalBit info)
  rw [hbit] at hindicator
  exact hmessage.bind ((Reads.nat 12 info.referenceStationId.1.toNat).bind
    ((Reads.bits (List.replicate 6 false ++ [gps, glo, gal])).bind (hindicator.bind
      ((reads_coordinate info.antennaReferencePointEcefX).bind ((Reads.bits [false, false]).bind
        ((reads_coordinate info.antennaReferencePointEcefY).bind
          ((Reads.bits [false, false]).bind
            ((reads_coordinate info.antennaReferencePointEcefZ).bind (Reads.pure _)))))))))

theorem writtenFields_eq_iff {messageId : ℕ} {info : GnssRtkReferenceStationInfo} :
    writtenFields messageId info = stationFields messageId info ↔
      info.referenceStationId.1 < 4096 := by
  obtain ⟨hlo, hhi⟩ := info.referenceStationId.2
  rw [writtenFields, StationFields.mk.injEq]
  simp only [stationFields, true_and, and_true]
  omega

end Station

/-- A message whose payload spells the bits is read as they say. -/
theorem read_of_holds {α : Type} {encoder : Encoder} {bs : List Bool} (hholds : encoder.Holds bs)
    (hlength : bs.length ≤ 8184) {reader : Reader α} {value : α} (hreads : Reads reader bs value)
    (id : UInt32) : (Message.mk id (frame encoder)).read reader = some value := by
  have hcount := hholds.byteCount_eq
  unfold Message.read
  rw [framePayload_frame (by omega), hholds.bytes, hreads, Option.map_some]

theorem length_headBits (messageId : UInt16) (info : GnssRtkReferenceStationInfo)
    (gps glo gal : Bool) : (headBits messageId info gps glo gal).length = 152 := by
  simp [headBits]

/-- **1005 is that of the station** if its number fits. -/
theorem announces_generate1005_iff (info : GnssRtkReferenceStationInfo) (gps glo gal : Bool) :
    Announces info (generate1005 (extractReferenceStationInfo info) gps glo gal) ↔
      info.referenceStationId.1 < 4096 := by
  have hreads : Reads readStation (headBits 1005 info gps glo gal ++ [])
      (writtenFields 1005 info) := (reads_head 1005 info gps glo gal (by decide)).bind
    (Reads.pure _)
  rw [List.append_nil] at hreads
  have hread := read_of_holds (stationPayload_bits 1005 info gps glo gal)
    (by rw [length_headBits]; omega) hreads 1005
  rw [← @writtenFields_eq_iff 1005]
  unfold Announces generate1005
  rw [hread, Option.some.injEq]
  rfl

theorem payload1006_bits (info : GnssRtkReferenceStationInfo) {height : Integer 0 65535}
    (h : info.antennaHeight = some height) (gps glo gal : Bool) :
    (payload1006 (extractReferenceStationInfo info) gps glo gal).Holds
      (headBits 1006 info gps glo gal ++ ofNat 16 height.1.toNat) := by
  have hhead := stationPayload_bits 1006 info gps glo gal
  have hheight : (extractReferenceStationInfo info).antennaHeight =
      some (height.1 * 0.0001 : ℚ) := by
    rw [extractReferenceStationInfo, h]
    rfl
  unfold payload1006
  rw [hheight]
  exact emits_height height _ _ hhead

/-- **1006 is that of the station**, with its height, if its number fits. -/
theorem announces_generate1006_iff (info : GnssRtkReferenceStationInfo)
    (h : info.antennaHeight.isSome) (gps glo gal : Bool) :
    Announces info (generate1006 (extractReferenceStationInfo info) gps glo gal) ↔
      info.referenceStationId.1 < 4096 := by
  obtain ⟨height, hheight⟩ := Option.isSome_iff_exists.1 h
  have hfields : writtenFields 1006 info = { { writtenFields 1006 info with
      antennaHeight := none } with antennaHeight := some (height.1.toNat % 2 ^ 16) } := by
    obtain ⟨hlo, hhi⟩ := height.2
    rw [Nat.mod_eq_of_lt (by omega)]
    simp [writtenFields, stationFields, hheight]
  have hreads : Reads readStation
      (headBits 1006 info gps glo gal ++ (ofNat 16 height.1.toNat ++ []))
      (writtenFields 1006 info) := by
    rw [hfields]
    exact (reads_head 1006 info gps glo gal (by decide)).bind
      ((Reads.nat 16 height.1.toNat).bind (Reads.pure _))
  rw [List.append_nil] at hreads
  have hread := read_of_holds (payload1006_bits info hheight gps glo gal)
    (by rw [List.length_append, length_headBits, length_ofNat]; omega) hreads 1006
  rw [← @writtenFields_eq_iff 1006]
  unfold Announces generate1006
  rw [hread, Option.some.injEq]
  rfl

section Physical

variable (info : GnssRtkReferenceStationInfo) (physical : PhysicalReferenceStationInfo)

def physicalBits : List Bool :=
  ofNat 12 1032 ++ (ofNat 12 info.referenceStationId.1.toNat ++
    (ofNat 12 physical.physicalReferenceStationId.1.toNat ++ (List.replicate 6 false ++
      (ofNat 38 (Encoder.signField 38 physical.physicalArpEcefX.1) ++
        (ofNat 38 (Encoder.signField 38 physical.physicalArpEcefY.1) ++
          (ofNat 38 (Encoder.signField 38 physical.physicalArpEcefZ.1) ++ []))))))

theorem payload1032_bits :
    (payload1032 (extractReferenceStationInfo info)
      (extractPhysicalReferenceStationInfo physical)).Holds (physicalBits info physical) := by
  have h1 := (Encoder.emits_u16 (show 12 ≤ 16 by omega) 1032).new
  have h2 := emits_stationId info.referenceStationId _ _ h1
  have h3 := emits_stationId physical.physicalReferenceStationId _ _ h2
  have h4 := Encoder.emits_reserve (show 6 ≤ 64 by omega) _ _ h3
  have h5 := emits_coordinate physical.physicalArpEcefX _ _ h4
  have h6 := emits_coordinate physical.physicalArpEcefY _ _ h5
  have h7 := emits_coordinate physical.physicalArpEcefZ _ _ h6
  simp only [List.append_assoc] at h7
  simp only [physicalBits, List.append_nil]
  exact h7

/-- **1032 is that of the station and its physical one** if both numbers fit. -/
theorem announcesPhysical_generate1032_iff :
    AnnouncesPhysical info physical (generate1032 (extractReferenceStationInfo info)
      (extractPhysicalReferenceStationInfo physical)) ↔
      info.referenceStationId.1 < 4096 ∧ physical.physicalReferenceStationId.1 < 4096 := by
  obtain ⟨hlo, hhi⟩ := info.referenceStationId.2
  obtain ⟨hlo', hhi'⟩ := physical.physicalReferenceStationId.2
  have hreads : Reads readPhysical (physicalBits info physical)
      { physicalFields info physical with
        referenceStationId := info.referenceStationId.1.toNat % 2 ^ 12
        physicalReferenceStationId := physical.physicalReferenceStationId.1.toNat % 2 ^ 12 } :=
    (Reads.nat 12 1032).bind ((Reads.nat 12 _).bind ((Reads.nat 12 _).bind
      ((Reads.bits (List.replicate 6 false)).bind ((reads_coordinate _).bind
        ((reads_coordinate _).bind ((reads_coordinate _).bind (Reads.pure _)))))))
  have hread := read_of_holds (payload1032_bits info physical) (by simp [physicalBits]) hreads 1032
  unfold AnnouncesPhysical generate1032
  rw [hread, Option.some.injEq, PhysicalFields.mk.injEq]
  simp only [physicalFields, true_and, and_true]
  omega

end Physical

end SuplLpp.Rtcm
