import SuplLpp.Rtcm.Frame
import SuplLpp.Rtcm.Msm

/-!
# The other RTCM messages

The reference station (1005, 1006, 1032), the GLONASS biases (1230) and the residuals (1030,
1031).  The numbers that are scaled and cut are exact here; the source computes them with
doubles.

* `generate1005` to `generate1031`, each a payload in a frame;
* `generate1005_wellFormed` and so on: these frames are always well formed.
-/

namespace SuplLpp.Rtcm

open Bits

/-! ### The reference station -/

def df02x (encoder : Encoder) (value : ℚ) : Encoder :=
  let integerValue := rtcmRound (value / 0.0001)
  encoder.i64 38 (Int64.ofInt integerValue)

def df025 (encoder : Encoder) (value : ℚ) : Encoder := df02x encoder value

def df026 (encoder : Encoder) (value : ℚ) : Encoder := df02x encoder value

def df027 (encoder : Encoder) (value : ℚ) : Encoder := df02x encoder value

def df028 (encoder : Encoder) (value : ℚ) : Encoder :=
  let integerValue := rtcmRound (value / 0.0001)
  encoder.u16 16 (UInt16.ofInt integerValue)

/-- What 1005 and 1006 have in common. -/
def stationPayload (messageId : UInt16) (referenceStation : ReferenceStation)
    (gpsIndicator glonassIndicator galileoIndicator : Bool) : Encoder :=
  let encoder := Encoder.new
  let encoder := encoder.u16 12 messageId
  let encoder := encoder.u16 12 referenceStation.referenceStationId.toUInt16
  let encoder := encoder.reserve 6
  let encoder := encoder.b gpsIndicator
  let encoder := encoder.b glonassIndicator
  let encoder := encoder.b galileoIndicator
  let encoder := encoder.b !referenceStation.isPhysicalReferenceStation
  let encoder := df025 encoder referenceStation.x
  let encoder := encoder.u8 1 0
  let encoder := encoder.reserve 1
  let encoder := df026 encoder referenceStation.y
  let encoder := encoder.u8 2 0
  df027 encoder referenceStation.z

def generate1005 (referenceStation : ReferenceStation)
    (gpsIndicator glonassIndicator galileoIndicator : Bool) : Message :=
  ⟨1005, frame (stationPayload 1005 referenceStation gpsIndicator glonassIndicator
    galileoIndicator)⟩

def payload1006 (referenceStation : ReferenceStation)
    (gpsIndicator glonassIndicator galileoIndicator : Bool) : Encoder :=
  let encoder := stationPayload 1006 referenceStation gpsIndicator glonassIndicator
    galileoIndicator
  match referenceStation.antennaHeight with
  | some height => df028 encoder height
  | none => df028 encoder 0

def generate1006 (referenceStation : ReferenceStation)
    (gpsIndicator glonassIndicator galileoIndicator : Bool) : Message :=
  ⟨1006, frame (payload1006 referenceStation gpsIndicator glonassIndicator galileoIndicator)⟩

def payload1032 (referenceStation : ReferenceStation)
    (physicalReferenceStation : PhysicalReferenceStation) : Encoder :=
  let encoder := Encoder.new
  let encoder := encoder.u16 12 1032
  let encoder := encoder.u16 12 referenceStation.referenceStationId.toUInt16
  let encoder := encoder.u16 12 physicalReferenceStation.referenceStationId.toUInt16
  let encoder := encoder.reserve 6
  let encoder := df025 encoder physicalReferenceStation.x
  let encoder := df026 encoder physicalReferenceStation.y
  df027 encoder physicalReferenceStation.z

def generate1032 (referenceStation : ReferenceStation)
    (physicalReferenceStation : PhysicalReferenceStation) : Message :=
  ⟨1032, frame (payload1032 referenceStation physicalReferenceStation)⟩

/-! ### The GLONASS biases -/

def df42x (encoder : Encoder) (bit mask : UInt8) (value : Maybe ℚ) : Encoder :=
  if bit &&& mask = 0 then encoder
  else
    let integerValue := trunc (value.value / 0.02)
    encoder.i16 16 (Int16.ofInt integerValue)

def payload1230 (biasInformation : BiasInformation) : Encoder :=
  let encoder := Encoder.new
  let encoder := encoder.u16 12 1230
  let encoder := encoder.u16 12 biasInformation.referenceStationId.toUInt16
  let encoder := encoder.b biasInformation.indicator
  let encoder := encoder.reserve 3
  let encoder := encoder.u8 4 biasInformation.mask
  let encoder := df42x encoder 0x1 biasInformation.mask biasInformation.l1Ca
  let encoder := df42x encoder 0x2 biasInformation.mask biasInformation.l1P
  let encoder := df42x encoder 0x4 biasInformation.mask biasInformation.l2Ca
  df42x encoder 0x8 biasInformation.mask biasInformation.l2P

def generate1230 (biasInformation : BiasInformation) : Message :=
  ⟨1230, frame (payload1230 biasInformation)⟩

/-! ### The residuals -/

/-- The fields of one satellite, behind the test of its system and its number. -/
def residualFields (encoder : Encoder) (number : ℤ) (satellite : Residuals.Satellite) :
    Encoder :=
  let encoder := encoder.u8 6 (UInt8.ofInt number)
  let encoder := encoder.u32 8 (castU32 (satellite.sOc / 0.5))
  let encoder := encoder.u32 9 (castU32 (satellite.sOd / 0.01))
  let encoder := encoder.u32 6 (castU32 (satellite.sOh / 0.1))
  let encoder := encoder.u32 10 (castU32 (satellite.sLc / 0.5))
  encoder.u32 10 (castU32 (satellite.sLd / 0.01))

/-- What 1030 and 1031 have in common: the satellites of the system `gnss` that have a number
there. -/
def residualsPayload (messageId : UInt16) (timeBits : ℕ) (time : ℤ) (gnss : Gnss)
    (number : SatelliteId → Maybe ℤ) (residuals : Residuals) : Encoder :=
  let encoder := Encoder.new
  let encoder := encoder.u16 12 messageId
  let encoder := encoder.u32 timeBits (UInt32.ofInt time)
  let encoder := encoder.u16 12 residuals.referenceStationId.toUInt16
  let encoder := encoder.u8 7 residuals.nRefs.toUInt8
  let satellites := residuals.satellites.filter fun satellite =>
    decide (satellite.id.gnss = gnss) && (number satellite.id).isSome
  let encoder := encoder.u8 5 satellites.length.toUInt8
  satellites.foldl
    (fun encoder satellite => residualFields encoder (number satellite.id).value satellite) encoder

def generate1030 (residuals : Residuals) : Message :=
  let time := (Ts.timeOfWeek (Ts.Gps.ofTai residuals.time).mTm).seconds
  ⟨1030, frame (residualsPayload 1030 20 time .gps SatelliteId.asDf009 residuals)⟩

def generate1031 (residuals : Residuals) : Message :=
  let time := (Ts.timeOfDay (Ts.Glo.ofTai residuals.time).mTm).seconds
  ⟨1031, frame (residualsPayload 1031 17 time .glonass SatelliteId.asDf038 residuals)⟩

/-! ### They are well formed -/

/-- A payload that begins with the number of its message and is not too long. -/
theorem wellFormed_of_holds (id : UInt32) {encoder : Encoder} {bs : List Bool}
    (hholds : encoder.Holds (ofNat 12 id.toNat ++ bs)) (hid : id.toNat < 4096)
    (hlen : bs.length ≤ 8172) : WellFormed ⟨id, frame encoder⟩ := by
  have hcount := hholds.byteCount_eq
  rw [List.length_append, length_ofNat] at hcount
  rw [wellFormed_frame_iff hholds (by simp)]
  constructor
  · omega
  · rw [List.take_left' (length_ofNat ..), toNat_ofNat]
    omega

theorem emits_df02x (value : ℚ) :
    ∃ bs, Encoder.Emits (df02x · value) bs ∧ bs.length = 38 :=
  ⟨_, Encoder.emits_i64 (by omega) (by omega) (Int64.ofInt (rtcmRound (value / 0.0001))),
    length_ofNat ..⟩

theorem stationPayload_holds (messageId : UInt16) (referenceStation : ReferenceStation)
    (gpsIndicator glonassIndicator galileoIndicator : Bool) : ∃ bs, bs.length = 140 ∧
    (stationPayload messageId referenceStation gpsIndicator glonassIndicator
      galileoIndicator).Holds (ofNat 12 messageId.toNat ++ bs) := by
  obtain ⟨x, hx, hxlen⟩ := emits_df02x referenceStation.x
  obtain ⟨y, hy, hylen⟩ := emits_df02x referenceStation.y
  obtain ⟨z, hz, hzlen⟩ := emits_df02x referenceStation.z
  have hid := (Encoder.emits_u16 (show 12 ≤ 16 by omega) messageId).new
  have h1 := Encoder.emits_u16 (show 12 ≤ 16 by omega)
    referenceStation.referenceStationId.toUInt16 _ _ hid
  have h2 := Encoder.emits_reserve (show 6 ≤ 64 by omega) _ _ h1
  have h3 := Encoder.emits_b gpsIndicator _ _ h2
  have h4 := Encoder.emits_b glonassIndicator _ _ h3
  have h5 := Encoder.emits_b galileoIndicator _ _ h4
  have h6 := Encoder.emits_b (!referenceStation.isPhysicalReferenceStation) _ _ h5
  have h7 := hx _ _ h6
  have h8 := Encoder.emits_u8 (show 1 ≤ 8 by omega) 0 _ _ h7
  have h9 := Encoder.emits_reserve (show 1 ≤ 64 by omega) _ _ h8
  have h10 := hy _ _ h9
  have h11 := Encoder.emits_u8 (show 2 ≤ 8 by omega) 0 _ _ h10
  have h12 := hz _ _ h11
  simp only [List.append_assoc] at h12
  refine ⟨_, ?_, h12⟩
  simp [hxlen, hylen, hzlen]

theorem generate1005_wellFormed (referenceStation : ReferenceStation)
    (gpsIndicator glonassIndicator galileoIndicator : Bool) :
    WellFormed (generate1005 referenceStation gpsIndicator glonassIndicator galileoIndicator) := by
  obtain ⟨bs, hlen, hholds⟩ := stationPayload_holds 1005 referenceStation gpsIndicator
    glonassIndicator galileoIndicator
  exact wellFormed_of_holds 1005 hholds (by decide) (by omega)

theorem generate1006_wellFormed (referenceStation : ReferenceStation)
    (gpsIndicator glonassIndicator galileoIndicator : Bool) :
    WellFormed (generate1006 referenceStation gpsIndicator glonassIndicator galileoIndicator) := by
  obtain ⟨bs, hlen, hholds⟩ := stationPayload_holds 1006 referenceStation gpsIndicator
    glonassIndicator galileoIndicator
  have hheight : ∀ value, Encoder.Emits (df028 · value)
      (ofNat 16 (UInt16.ofInt (rtcmRound (value / 0.0001))).toNat) := fun value =>
    Encoder.emits_u16 (by omega) _
  have hpayload : ∃ cs, cs.length = 16 ∧
      (payload1006 referenceStation gpsIndicator glonassIndicator galileoIndicator).Holds
        (ofNat 12 (UInt16.toNat 1006) ++ bs ++ cs) := by
    rw [payload1006]
    split
    · exact ⟨_, length_ofNat .., hheight _ _ _ hholds⟩
    · exact ⟨_, length_ofNat .., hheight _ _ _ hholds⟩
  obtain ⟨cs, hcs, hholds⟩ := hpayload
  rw [List.append_assoc] at hholds
  exact wellFormed_of_holds 1006 hholds (by decide) (by rw [List.length_append]; omega)

theorem generate1032_wellFormed (referenceStation : ReferenceStation)
    (physicalReferenceStation : PhysicalReferenceStation) :
    WellFormed (generate1032 referenceStation physicalReferenceStation) := by
  obtain ⟨x, hx, hxlen⟩ := emits_df02x physicalReferenceStation.x
  obtain ⟨y, hy, hylen⟩ := emits_df02x physicalReferenceStation.y
  obtain ⟨z, hz, hzlen⟩ := emits_df02x physicalReferenceStation.z
  have hid := (Encoder.emits_u16 (show 12 ≤ 16 by omega) 1032).new
  have h1 := Encoder.emits_u16 (show 12 ≤ 16 by omega)
    referenceStation.referenceStationId.toUInt16 _ _ hid
  have h2 := Encoder.emits_u16 (show 12 ≤ 16 by omega)
    physicalReferenceStation.referenceStationId.toUInt16 _ _ h1
  have h3 := Encoder.emits_reserve (show 6 ≤ 64 by omega) _ _ h2
  have h4 := hz _ _ (hy _ _ (hx _ _ h3))
  simp only [List.append_assoc] at h4
  exact wellFormed_of_holds 1032 h4 (by decide) (by simp [hxlen, hylen, hzlen])

theorem emits_df42x (bit mask : UInt8) (value : Maybe ℚ) :
    ∃ bs, Encoder.Emits (df42x · bit mask value) bs ∧ bs.length ≤ 16 := by
  by_cases h : bit &&& mask = 0
  · refine ⟨[], ?_, by simp⟩
    simp only [df42x, if_pos h]
    exact Encoder.Emits.id
  · have hwrite : (df42x · bit mask value) = fun encoder =>
        encoder.i16 16 (Int16.ofInt (trunc (value.value / 0.02))) := by
      funext encoder
      exact if_neg h
    rw [hwrite]
    exact ⟨_, Encoder.emits_i16 (by omega) (by omega) _, (length_ofNat ..).le⟩

theorem generate1230_wellFormed (biasInformation : BiasInformation) :
    WellFormed (generate1230 biasInformation) := by
  obtain ⟨b1, hb1, hlen1⟩ := emits_df42x 0x1 biasInformation.mask biasInformation.l1Ca
  obtain ⟨b2, hb2, hlen2⟩ := emits_df42x 0x2 biasInformation.mask biasInformation.l1P
  obtain ⟨b3, hb3, hlen3⟩ := emits_df42x 0x4 biasInformation.mask biasInformation.l2Ca
  obtain ⟨b4, hb4, hlen4⟩ := emits_df42x 0x8 biasInformation.mask biasInformation.l2P
  have hid := (Encoder.emits_u16 (show 12 ≤ 16 by omega) 1230).new
  have h1 := Encoder.emits_u16 (show 12 ≤ 16 by omega)
    biasInformation.referenceStationId.toUInt16 _ _ hid
  have h2 := Encoder.emits_b biasInformation.indicator _ _ h1
  have h3 := Encoder.emits_reserve (show 3 ≤ 64 by omega) _ _ h2
  have h4 := Encoder.emits_u8 (show 4 ≤ 8 by omega) biasInformation.mask _ _ h3
  have h5 := hb4 _ _ (hb3 _ _ (hb2 _ _ (hb1 _ _ h4)))
  simp only [List.append_assoc] at h5
  apply wellFormed_of_holds 1230 h5 (by decide)
  simp only [List.length_append, List.length_cons, List.length_nil, List.length_replicate,
    length_ofNat]
  omega

theorem emits_residualFields (number : ℤ) (satellite : Residuals.Satellite) :
    ∃ bs, Encoder.Emits (residualFields · number satellite) bs ∧ bs.length = 49 := by
  have h1 := (Encoder.emits_u8 (show 6 ≤ 8 by omega) (UInt8.ofInt number)).comp
    (Encoder.emits_u32 (show 8 ≤ 32 by omega) (castU32 (satellite.sOc / 0.5)))
  have h2 := (Encoder.emits_u32 (show 9 ≤ 32 by omega) (castU32 (satellite.sOd / 0.01))).comp
    (Encoder.emits_u32 (show 6 ≤ 32 by omega) (castU32 (satellite.sOh / 0.1)))
  have h3 := (Encoder.emits_u32 (show 10 ≤ 32 by omega) (castU32 (satellite.sLc / 0.5))).comp
    (Encoder.emits_u32 (show 10 ≤ 32 by omega) (castU32 (satellite.sLd / 0.01)))
  have h := h1.comp (h2.comp h3)
  exact ⟨_, fun encoder cs hcs => h encoder cs hcs, by simp⟩

/-- A loop whose rounds write `width` bits each. -/
theorem emits_loop {α : Type} {f : Encoder → α → Encoder} {width : ℕ} (l : List α)
    (h : ∀ a, ∃ bs, Encoder.Emits (f · a) bs ∧ bs.length = width) :
    ∃ bs, Encoder.Emits (fun encoder => l.foldl f encoder) bs ∧ bs.length = width * l.length := by
  choose enc henc hlen using h
  refine ⟨l.flatMap enc, Encoder.Emits.foldl fun a _ => henc a, ?_⟩
  rw [List.length_flatMap, List.map_congr_left fun a _ => hlen a, List.map_const',
    List.sum_replicate_nat, Nat.mul_comm]

theorem residuals_wellFormed {messageId : UInt16} {timeBits : ℕ} (htime : timeBits ≤ 32)
    (time : ℤ) (gnss : Gnss) (number : SatelliteId → Maybe ℤ) {residuals : Residuals}
    (hcount : residuals.satellites.length ≤ 64) {id : UInt32} (hid : id.toNat = messageId.toNat)
    (hlt : id.toNat < 4096) :
    WellFormed ⟨id, frame (residualsPayload messageId timeBits time gnss number residuals)⟩ := by
  set satellites := residuals.satellites.filter fun satellite =>
    decide (satellite.id.gnss = gnss) && (number satellite.id).isSome with hsatellites
  have hle : satellites.length ≤ 64 := (List.length_filter_le ..).trans hcount
  obtain ⟨loop, hloop, hlen⟩ := emits_loop satellites fun satellite =>
    emits_residualFields (number satellite.id).value satellite
  have h0 := (Encoder.emits_u16 (show 12 ≤ 16 by omega) messageId).new
  have h1 := Encoder.emits_u32 htime (UInt32.ofInt time) _ _ h0
  have h2 := Encoder.emits_u16 (show 12 ≤ 16 by omega)
    residuals.referenceStationId.toUInt16 _ _ h1
  have h3 := Encoder.emits_u8 (show 7 ≤ 8 by omega) residuals.nRefs.toUInt8 _ _ h2
  have h4 := Encoder.emits_u8 (show 5 ≤ 8 by omega) satellites.length.toUInt8 _ _ h3
  have h5 := hloop _ _ h4
  simp only [List.append_assoc] at h5
  rw [← hid] at h5
  apply wellFormed_of_holds id h5 hlt
  simp only [List.length_append, length_ofNat, hlen]
  omega

theorem generate1030_wellFormed {residuals : Residuals}
    (hcount : residuals.satellites.length ≤ 64) : WellFormed (generate1030 residuals) :=
  residuals_wellFormed (by omega) _ _ _ hcount rfl (by decide)

theorem generate1031_wellFormed {residuals : Residuals}
    (hcount : residuals.satellites.length ≤ 64) : WellFormed (generate1031 residuals) :=
  residuals_wellFormed (by omega) _ _ _ hcount rfl (by decide)

end SuplLpp.Rtcm
