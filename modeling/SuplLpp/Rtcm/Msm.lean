import SuplLpp.Rtcm.Fields

/-!
# Multiple Signal Messages

An MSM lists the satellites and signals of a constellation in two masks, then the pairs that
are there in a cell mask, then the data of the satellites and the signals, field by field.

* `epochTimeField`, `generateMsmSatellites`, `generateMsmSignals`, `msmPayload`: the payload that
  `generate_msm` builds.  Among equal elements the order of `std::sort` is not specified; here
  they keep their order;
* `msmPayload_holds`: the bits of the payload, part by part.
-/

namespace SuplLpp.Rtcm

open Asn Bits

/-! ### The payload -/

/-- A cast of a double to `uint32_t`. -/
def castU32 (value : ℚ) : UInt32 := UInt32.ofInt (trunc value)

/-- `epoch_time`: 30 bits in each system. -/
def epochTimeField (encoder : Encoder) (time : Ts.Tai) : GenericGnssId → Encoder
  | .gps =>
    let tow := Ts.timeOfWeek (Ts.Gps.ofTai time).mTm
    let milliseconds := tow.fullSeconds * 1000
    encoder.u32 30 (castU32 milliseconds)
  | .glonass =>
    let glo := (Ts.Glo.ofTai time).mTm
    let dow := Ts.dayOfWeek glo
    let tow := Ts.timeOfDay glo
    let milliseconds := tow.fullSeconds * 1000
    let encoder := encoder.u8 3 (UInt8.ofInt dow)
    encoder.u32 27 (castU32 milliseconds)
  | .galileo =>
    let tow := Ts.timeOfWeek (Ts.Gst.ofTai time).mTm
    let milliseconds := tow.fullSeconds * 1000
    encoder.u32 30 (castU32 milliseconds)
  | .beidou =>
    let tow := Ts.timeOfWeek (Ts.Bdt.ofTai time).mTm
    let milliseconds := tow.fullSeconds * 1000
    encoder.u32 30 (castU32 milliseconds)

def msmMessageId (msm : UInt32) : GenericGnssId → UInt16
  | .gps => 1070 + msm.toUInt16
  | .glonass => 1080 + msm.toUInt16
  | .galileo => 1090 + msm.toUInt16
  | .beidou => 1120 + msm.toUInt16

/-- `FOR_EACH_SAT` and `FOR_EACH_SIG`. -/
def forEach {α : Type} (X : Encoder → α → Encoder) (encoder : Encoder) (l : List α) : Encoder :=
  l.foldl X encoder

def generateMsm4Satellites (encoder : Encoder) (satellites : List Satellite) : Encoder :=
  let encoder := forEach df397 encoder satellites
  forEach df398 encoder satellites

def generateMsm5Satellites (encoder : Encoder) (satellites : List Satellite) : Encoder :=
  let encoder := forEach df397 encoder satellites
  let encoder := forEach dfExt encoder satellites
  let encoder := forEach df398 encoder satellites
  forEach df399 encoder satellites

def generateMsm6Satellites (encoder : Encoder) (satellites : List Satellite) : Encoder :=
  let encoder := forEach df397 encoder satellites
  forEach df398 encoder satellites

def generateMsm7Satellites (encoder : Encoder) (satellites : List Satellite) : Encoder :=
  let encoder := forEach df397 encoder satellites
  let encoder := forEach dfExt encoder satellites
  let encoder := forEach df398 encoder satellites
  forEach df399 encoder satellites

def generateMsmSatellites (msm : UInt32) (encoder : Encoder) (satellites : List Satellite) :
    Encoder :=
  match msm.toNat with
  | 4 => generateMsm4Satellites encoder satellites
  | 5 => generateMsm5Satellites encoder satellites
  | 6 => generateMsm6Satellites encoder satellites
  | 7 => generateMsm7Satellites encoder satellites
  | _ => encoder

def generateMsm4Signals (encoder : Encoder) (signals : List Signal) : Encoder :=
  let encoder := forEach df400 encoder signals
  let encoder := forEach df401 encoder signals
  let encoder := forEach df402 encoder signals
  let encoder := forEach df420 encoder signals
  forEach df403 encoder signals

def generateMsm5Signals (encoder : Encoder) (signals : List Signal) : Encoder :=
  let encoder := forEach df400 encoder signals
  let encoder := forEach df401 encoder signals
  let encoder := forEach df402 encoder signals
  let encoder := forEach df420 encoder signals
  let encoder := forEach df403 encoder signals
  forEach df404 encoder signals

def generateMsm6Signals (encoder : Encoder) (signals : List Signal) : Encoder :=
  let encoder := forEach df405 encoder signals
  let encoder := forEach df406 encoder signals
  let encoder := forEach df407 encoder signals
  let encoder := forEach df420 encoder signals
  forEach df408 encoder signals

def generateMsm7Signals (encoder : Encoder) (signals : List Signal) : Encoder :=
  let encoder := forEach df405 encoder signals
  let encoder := forEach df406 encoder signals
  let encoder := forEach df407 encoder signals
  let encoder := forEach df420 encoder signals
  let encoder := forEach df408 encoder signals
  forEach df404 encoder signals

def generateMsmSignals (msm : UInt32) (encoder : Encoder) (signals : List Signal) : Encoder :=
  match msm.toNat with
  | 4 => generateMsm4Signals encoder signals
  | 5 => generateMsm5Signals encoder signals
  | 6 => generateMsm6Signals encoder signals
  | 7 => generateMsm7Signals encoder signals
  | _ => encoder

/-- An RTCM number that a mask of `n` bits can hold. -/
def inMask (n : ℤ) (id : Maybe ℤ) : Bool := id.isSome && decide (1 ≤ id.value ∧ id.value ≤ n)

/-- The satellites that go into the message, in order. -/
def msmSatellites (observations : Observations) : List Satellite :=
  (observations.satellites.filter fun satellite => inMask 64 satellite.id.asMsm).mergeSort
    fun a b => decide (a.id.asMsm.value ≤ b.id.asMsm.value)

/-- The signals that go into the message, in order of their satellites. -/
def msmSignals (observations : Observations) : List Signal :=
  (observations.signals.filter fun signal =>
      inMask 32 signal.id.asMsm && inMask 64 signal.satellite.asMsm).mergeSort
    fun a b => decide (a.satellite.asMsm.value < b.satellite.asMsm.value ∨
      a.satellite.asMsm.value = b.satellite.asMsm.value ∧ a.id.asMsm.value ≤ b.id.asMsm.value)

/-- `satellite_ids`. -/
def satelliteMask (satellites : List Satellite) : UInt64 :=
  satellites.foldl
    (fun ids satellite =>
      let bitIndex := satellite.id.asMsm.value - 1
      ids ||| ((1 : UInt64) <<< (UInt64.ofInt (63 - bitIndex)))) 0

/-- `signal_ids`. -/
def signalMask (signals : List Signal) : UInt32 :=
  signals.foldl
    (fun ids signal =>
      let bitIndex := signal.id.asMsm.value - 1
      ids ||| ((1 : UInt32) <<< (UInt32.ofInt (31 - bitIndex)))) 0

/-- The loops that fill `satellite_lookup` and `signal_lookup`: the number of each set bit among
the set bits, and their count.  A cell of the array whose bit is not set is never read. -/
def maskLookup (n : ℕ) (isSet : ℕ → Bool) : (ℕ → ℕ) × ℕ :=
  (List.range n).foldl
    (fun (lookup, count) i =>
      if isSet i then (Function.update lookup i count, count + 1) else (lookup, count))
    (fun _ => 0, 0)

def satelliteLookup (ids : UInt64) : (ℕ → ℕ) × ℕ :=
  maskLookup 64 fun i => ids &&& ((1 : UInt64) <<< (63 - i).toUInt64) != 0

def signalLookup (ids : UInt32) : (ℕ → ℕ) × ℕ :=
  maskLookup 32 fun i => ids &&& ((1 : UInt32) <<< (31 - i).toUInt32) != 0

/-- `cell_data`. -/
def cellData (satelliteIndex signalIndex : ℕ → ℕ) (signalCount : ℕ) (signals : List Signal) :
    List Bool :=
  signals.foldl
    (fun cells signal =>
      let cellIndex := satelliteIndex (signal.satellite.asMsm.value - 1).toNat * signalCount +
        signalIndex (signal.id.asMsm.value - 1).toNat
      if cellIndex ≥ 64 then cells else cells.set cellIndex true)
    (List.replicate 64 false)

/-- The cell mask that is written: at most 64 bits. -/
def cellMask (satellites : List Satellite) (signals : List Signal) : List Bool :=
  let (satelliteIndex, satelliteCount) := satelliteLookup (satelliteMask satellites)
  let (signalIndex, signalCount) := signalLookup (signalMask signals)
  let cellCount := if satelliteCount * signalCount > 64 then 64 else satelliteCount * signalCount
  (cellData satelliteIndex signalIndex signalCount signals).take cellCount

/-- The header of an MSM. -/
def msmHeader (msm : UInt32) (lastMsm : Bool) (gnss : GenericGnssId)
    (common : CommonObservationInfo) (time : Ts.Tai) (encoder : Encoder) : Encoder :=
  let encoder := encoder.u16 12 (msmMessageId msm gnss)
  let encoder := encoder.u16 12 common.referenceStationId.toUInt16
  let encoder := epochTimeField encoder time gnss
  let encoder := encoder.b !lastMsm
  let encoder := encoder.u8 3 0
  let encoder := encoder.reserve 7
  let encoder := encoder.u8 2 (UInt8.ofInt common.clockSteering)
  let encoder := encoder.u8 2 (UInt8.ofInt common.externalClock)
  let encoder := encoder.u8 1 (UInt8.ofInt common.smoothIndicator)
  encoder.u8 3 (UInt8.ofInt common.smoothInterval)

/-- The payload that `generate_msm` puts into a frame. -/
def msmPayload (msm : UInt32) (lastMsm : Bool) (gnss : GenericGnssId)
    (common : CommonObservationInfo) (observations : Observations) : Encoder :=
  let encoder := msmHeader msm lastMsm gnss common observations.time Encoder.new
  let satellites := msmSatellites observations
  let signals := msmSignals observations
  let encoder := encoder.u64 64 (satelliteMask satellites)
  let encoder := encoder.u32 32 (signalMask signals)
  let encoder := forEach Encoder.b encoder (cellMask satellites signals)
  let encoder := generateMsmSatellites msm encoder satellites
  generateMsmSignals msm encoder signals

def generateMsm (msm : UInt32) (lastMsm : Bool) (gnss : GenericGnssId)
    (common : CommonObservationInfo) (observations : Observations) : Message :=
  ⟨(msmMessageId msm gnss).toUInt32, frame (msmPayload msm lastMsm gnss common observations)⟩

/-! ### The bits of the payload -/

theorem Writes.ofNat {f : Encoder → Encoder} {w : ℕ} {P : List Bool → Prop} (h : Writes f w P) :
    Encoder.Emits f (Bits.ofNat w (toNat ((bytesBits (f Encoder.new).mBuffer).take w))) := by
  obtain ⟨bs, hemits, hlen, -⟩ := h
  have hbytes := hemits.new.bytes
  rw [hbytes, ← hlen, List.take_left, ofNat_toNat]
  exact hemits

/-- Each field encoder writes the bits of its field, whatever the satellite. -/
theorem SatelliteField.writes (field : SatelliteField) (satellite : Satellite) :
    Writes (field.write · satellite) field.width fun _ => True := by
  have h8 : ∀ w ≤ 8, ∀ v : UInt8, Writes (fun encoder => encoder.u8 w v) w fun _ => True :=
    fun w hw v => ⟨_, Encoder.emits_u8 hw v, length_ofNat .., trivial⟩
  have h16 : ∀ w ≤ 16, ∀ v : UInt16, Writes (fun encoder => encoder.u16 w v) w fun _ => True :=
    fun w hw v => ⟨_, Encoder.emits_u16 hw v, length_ofNat .., trivial⟩
  cases field with
  | df397 => exact Writes.ite (fun _ => h8 8 (by omega) _) (fun _ => h8 8 (by omega) _)
  | df398 => exact Writes.ite (fun _ => h16 10 (by omega) _) (fun _ => h16 10 (by omega) _)
  | dfExt =>
    apply Writes.ite
    · exact fun _ => Writes.ite (fun _ => h8 4 (by omega) _) (fun _ => h8 4 (by omega) _)
    · exact fun _ => h8 4 (by omega) _
  | df399 =>
    apply Writes.ite
    · exact fun _ => ⟨_, Encoder.emits_i16 (by omega) (by omega) _, length_ofNat .., trivial⟩
    · exact fun _ => h16 14 (by omega) _

/-- Each field encoder writes the bits of its field, whatever the signal. -/
theorem SignalField.writes (field : SignalField) (signal : Signal) :
    Writes (field.write · signal) field.width fun _ => True := by
  have h8 : ∀ w ≤ 8, ∀ v : UInt8, Writes (fun encoder => encoder.u8 w v) w fun _ => True :=
    fun w hw v => ⟨_, Encoder.emits_u8 hw v, length_ofNat .., trivial⟩
  have h16 : ∀ w ≤ 16, ∀ v : UInt16, Writes (fun encoder => encoder.u16 w v) w fun _ => True :=
    fun w hw v => ⟨_, Encoder.emits_u16 hw v, length_ofNat .., trivial⟩
  have h32 : ∀ w ≤ 32, ∀ v : UInt32, Writes (fun encoder => encoder.u32 w v) w fun _ => True :=
    fun w hw v => ⟨_, Encoder.emits_u32 hw v, length_ofNat .., trivial⟩
  have hi16 : ∀ w, 0 < w → w ≤ 16 → ∀ v : Int16,
      Writes (fun encoder => encoder.i16 w v) w fun _ => True :=
    fun w hpos hw v => ⟨_, Encoder.emits_i16 hpos hw v, length_ofNat .., trivial⟩
  have hi32 : ∀ w, 0 < w → w ≤ 32 → ∀ v : Int32,
      Writes (fun encoder => encoder.i32 w v) w fun _ => True :=
    fun w hpos hw v => ⟨_, Encoder.emits_i32 hpos hw v, length_ofNat .., trivial⟩
  cases field with
  | df400 =>
    exact Writes.ite (fun _ => hi16 15 (by omega) (by omega) _) (fun _ => h16 15 (by omega) _)
  | df401 =>
    exact Writes.ite (fun _ => hi32 22 (by omega) (by omega) _) (fun _ => h32 22 (by omega) _)
  | df402 => exact Writes.ite (fun _ => h8 4 (by omega) _) (fun _ => h8 4 (by omega) _)
  | df403 => exact Writes.ite (fun _ => h8 6 (by omega) _) (fun _ => h8 6 (by omega) _)
  | df404 =>
    exact Writes.ite (fun _ => hi16 15 (by omega) (by omega) _) (fun _ => h16 15 (by omega) _)
  | df405 =>
    exact Writes.ite (fun _ => hi32 20 (by omega) (by omega) _) (fun _ => h32 20 (by omega) _)
  | df406 =>
    exact Writes.ite (fun _ => hi32 24 (by omega) (by omega) _) (fun _ => h32 24 (by omega) _)
  | df407 => exact Writes.ite (fun _ => h16 10 (by omega) _) (fun _ => h16 10 (by omega) _)
  | df408 => exact Writes.ite (fun _ => h16 10 (by omega) _) (fun _ => h16 10 (by omega) _)
  | df420 => exact ⟨_, Encoder.emits_b _, rfl, trivial⟩

/-- The bits of one field of all satellites. -/
def satelliteColumn (satellites : List Satellite) (field : SatelliteField) : List Bool :=
  satellites.flatMap fun satellite => ofNat field.width (field.raw satellite)

/-- The bits of one field of all signals. -/
def signalColumn (signals : List Signal) (field : SignalField) : List Bool :=
  signals.flatMap fun signal => ofNat field.width (field.raw signal)

theorem emits_satellites (msm : UInt32) (satellites : List Satellite) :
    Encoder.Emits (generateMsmSatellites msm · satellites)
      ((satelliteFields msm.toNat).flatMap (satelliteColumn satellites)) := by
  have hloop : (generateMsmSatellites msm · satellites) =
      fun encoder => (satelliteFields msm.toNat).foldl
        (fun encoder field => forEach field.write encoder satellites) encoder := by
    funext encoder
    unfold generateMsmSatellites satelliteFields
    generalize msm.toNat = version
    rcases version with _ | _ | _ | _ | _ | _ | _ | _ | version <;> rfl
  rw [hloop]
  apply Encoder.Emits.foldl
  intro field _
  exact Encoder.Emits.foldl fun satellite _ => (field.writes satellite).ofNat

theorem emits_signals (msm : UInt32) (signals : List Signal) :
    Encoder.Emits (generateMsmSignals msm · signals)
      ((signalFields msm.toNat).flatMap (signalColumn signals)) := by
  have hloop : (generateMsmSignals msm · signals) =
      fun encoder => (signalFields msm.toNat).foldl
        (fun encoder field => forEach field.write encoder signals) encoder := by
    funext encoder
    unfold generateMsmSignals signalFields
    generalize msm.toNat = version
    rcases version with _ | _ | _ | _ | _ | _ | _ | _ | version <;> rfl
  rw [hloop]
  apply Encoder.Emits.foldl
  intro field _
  exact Encoder.Emits.foldl fun signal _ => (field.writes signal).ofNat

theorem emits_epochTime (time : Ts.Tai) (gnss : GenericGnssId) : ∃ bs,
    Encoder.Emits (epochTimeField · time gnss) bs ∧ bs.length = 30 := by
  unfold epochTimeField
  cases gnss with
  | glonass =>
    dsimp only
    generalize UInt8.ofInt (Ts.dayOfWeek (Ts.Glo.ofTai time).mTm) = dow
    generalize castU32 _ = milliseconds
    have h := (Encoder.emits_u8 (show 3 ≤ 8 by omega) dow).comp
      (Encoder.emits_u32 (show 27 ≤ 32 by omega) milliseconds)
    exact ⟨_, h, by simp⟩
  | gps | galileo | beidou =>
    dsimp only
    generalize castU32 _ = milliseconds
    exact ⟨_, Encoder.emits_u32 (show 30 ≤ 32 by omega) milliseconds, length_ofNat ..⟩

/-- The header starts with the message number and has 73 bits. -/
theorem emits_header (msm : UInt32) (lastMsm : Bool) (gnss : GenericGnssId)
    (common : CommonObservationInfo) (time : Ts.Tai) : ∃ bs,
    Encoder.Emits (msmHeader msm lastMsm gnss common time)
      (ofNat 12 (msmMessageId msm gnss).toNat ++ bs) ∧ bs.length = 61 := by
  obtain ⟨epoch, hepoch, hlen⟩ := emits_epochTime time gnss
  have h1 := Encoder.emits_u16 (show 12 ≤ 16 by omega) (msmMessageId msm gnss)
  have h2 := (Encoder.emits_u16 (show 12 ≤ 16 by omega)
    common.referenceStationId.toUInt16).comp hepoch
  have h3 := (Encoder.emits_b !lastMsm).comp (Encoder.emits_u8 (show 3 ≤ 8 by omega) 0)
  have h4 := (Encoder.emits_reserve (show 7 ≤ 64 by omega)).comp
    (Encoder.emits_u8 (show 2 ≤ 8 by omega) (UInt8.ofInt common.clockSteering))
  have h5 := (Encoder.emits_u8 (show 2 ≤ 8 by omega) (UInt8.ofInt common.externalClock)).comp
    (Encoder.emits_u8 (show 1 ≤ 8 by omega) (UInt8.ofInt common.smoothIndicator))
  have h6 := Encoder.emits_u8 (show 3 ≤ 8 by omega) (UInt8.ofInt common.smoothInterval)
  have h := h1.comp (h2.comp (h3.comp (h4.comp (h5.comp h6))))
  refine ⟨_, fun encoder cs hcs => h encoder cs hcs, ?_⟩
  simp [hlen]

/-- The bits of the payload, part by part. -/
theorem msmPayload_holds (msm : UInt32) (lastMsm : Bool) (gnss : GenericGnssId)
    (common : CommonObservationInfo) (observations : Observations) : ∃ bs, bs.length = 61 ∧
    (msmPayload msm lastMsm gnss common observations).Holds
      (ofNat 12 (msmMessageId msm gnss).toNat ++ bs ++
        ofNat 64 (satelliteMask (msmSatellites observations)).toNat ++
        ofNat 32 (signalMask (msmSignals observations)).toNat ++
        cellMask (msmSatellites observations) (msmSignals observations) ++
        (satelliteFields msm.toNat).flatMap (satelliteColumn (msmSatellites observations)) ++
        (signalFields msm.toNat).flatMap (signalColumn (msmSignals observations))) := by
  obtain ⟨bs, hheader, hlen⟩ := emits_header msm lastMsm gnss common observations.time
  have hcells : Encoder.Emits
      (forEach Encoder.b · (cellMask (msmSatellites observations) (msmSignals observations)))
      (cellMask (msmSatellites observations) (msmSignals observations)) := by
    have h : Encoder.Emits _ ((cellMask (msmSatellites observations)
        (msmSignals observations)).flatMap fun b => [b]) :=
      Encoder.Emits.foldl fun b _ => Encoder.emits_b b
    rwa [List.flatMap_singleton'] at h
  refine ⟨bs, hlen, ?_⟩
  apply emits_signals msm
  apply emits_satellites msm
  apply hcells
  apply Encoder.emits_u32 (by omega)
  apply Encoder.emits_u64 (by omega)
  exact hheader.new

end SuplLpp.Rtcm
