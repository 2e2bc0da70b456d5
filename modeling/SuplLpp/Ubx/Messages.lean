import SuplLpp.Ubx.Cfg

/-!
# The messages of `format::ubx`

The functions `parse` of the message classes, as programs over the decoder.

* one structure and one parser for each message, and `parseContent`, the `switch` of the frame
  parser over them;
* `agree_parseContent`: all of them but the parser of UBX-MON-VER read the payload only;
* `MonVer.parsed`, `MonVer.payload_only_iff`: what that one reads.

A member of a union that the version of a message does not set is `none`.
-/

namespace SuplLpp.Ubx

/-- `(value >> position) & mask`. -/
def field (value : UInt8) (position mask : UInt8) : UInt8 := (value >>> position) &&& mask

/-! ### UBX-NAV-PVT -/

structure NavPvtValid where
  validDate : UInt8
  validTime : UInt8
  fullyResolved : UInt8
  validMag : UInt8
  deriving DecidableEq

structure NavPvtFlags where
  gnssFixOk : UInt8
  diffSoln : UInt8
  psmState : UInt8
  headVehValid : UInt8
  carrSoln : UInt8
  deriving DecidableEq

structure NavPvtFlags2 where
  confirmedAvai : UInt8
  confirmedDate : UInt8
  confirmedTime : UInt8
  deriving DecidableEq

structure NavPvtFlags3 where
  invalidLlh : UInt8
  lastCorrectionArg : UInt8
  deriving DecidableEq

/-- `raw::NavPvt`, without the reserved bytes that stay zero. -/
structure NavPvt where
  iTow : UInt32
  year : UInt16
  month : UInt8
  day : UInt8
  hour : UInt8
  min : UInt8
  sec : UInt8
  valid : NavPvtValid
  tAcc : UInt32
  nano : Int32
  fixType : UInt8
  flags : NavPvtFlags
  flags2 : NavPvtFlags2
  numSv : UInt8
  lon : Int32
  lat : Int32
  height : Int32
  hMsl : Int32
  hAcc : UInt32
  vAcc : UInt32
  velN : Int32
  velE : Int32
  velD : Int32
  gSpeed : Int32
  headMot : Int32
  sAcc : UInt32
  headAcc : UInt32
  pDop : UInt16
  flags3 : NavPvtFlags3
  headVeh : Int32
  magDec : Int16
  magAcc : UInt16
  deriving DecidableEq

def NavPvt.parse : StateM Decoder (Result NavPvt) := do
  let remaining ← Decoder.remaining
  if remaining < 92 then pure .null
  else
    let iTow ← Decoder.u4
    let year ← Decoder.u2
    let month ← Decoder.u1
    let day ← Decoder.u1
    let hour ← Decoder.u1
    let min ← Decoder.u1
    let sec ← Decoder.u1
    let valid ← Decoder.x1
    let tAcc ← Decoder.u4
    let nano ← Decoder.i4
    let fixType ← Decoder.u1
    let flags ← Decoder.x1
    let flags2 ← Decoder.x1
    let numSv ← Decoder.u1
    let lon ← Decoder.i4
    let lat ← Decoder.i4
    let height ← Decoder.i4
    let hMsl ← Decoder.i4
    let hAcc ← Decoder.u4
    let vAcc ← Decoder.u4
    let velN ← Decoder.i4
    let velE ← Decoder.i4
    let velD ← Decoder.i4
    let gSpeed ← Decoder.i4
    let headMot ← Decoder.i4
    let sAcc ← Decoder.u4
    let headAcc ← Decoder.u4
    let pDop ← Decoder.u2
    let flags3 ← Decoder.x1
    Decoder.skip 4
    let headVeh ← Decoder.i4
    let magDec ← Decoder.i2
    let magAcc ← Decoder.u2
    let error ← Decoder.error
    if error then pure .null
    else pure (.message {
      iTow, year, month, day, hour, min, sec
      valid := ⟨field valid 0 0x01, field valid 1 0x01, field valid 2 0x01, field valid 3 0x01⟩
      tAcc, nano, fixType
      flags := ⟨field flags 0 0x01, field flags 1 0x01, field flags 2 0x07, field flags 5 0x01,
        field flags 6 0x03⟩
      flags2 := ⟨field flags2 5 0x01, field flags2 6 0x01, field flags2 7 0x01⟩
      numSv, lon, lat, height, hMsl, hAcc, vAcc, velN, velE, velD, gSpeed, headMot, sAcc, headAcc
      pDop
      flags3 := ⟨field flags3 0 0x01, field flags3 1 0x0F⟩
      headVeh, magDec, magAcc })

/-! ### UBX-ACK-ACK and UBX-ACK-NAK -/

/-- `raw::AckAck` and `raw::AckNak`. -/
structure Ack where
  clsId : UInt8
  msgId : UInt8
  deriving DecidableEq

/-- The common form of the two parsers. -/
def Ack.parse : StateM Decoder (Result Ack) := do
  let remaining ← Decoder.remaining
  if remaining < 2 then pure .null
  else
    let clsId ← Decoder.u1
    let msgId ← Decoder.u1
    let error ← Decoder.error
    if error then pure .null else pure (.message ⟨clsId, msgId⟩)

/-! ### UBX-RXM-SFRBX -/

structure RxmSfrbx where
  gnssId : UInt8
  svId : UInt8
  sigId : UInt8
  freqId : UInt8
  numWords : UInt8
  chn : UInt8
  version : UInt8
  reserved0 : UInt8
  deriving DecidableEq

/-- The payload and the words. -/
def RxmSfrbx.parse : StateM Decoder (Result (RxmSfrbx × List UInt32)) := do
  let remaining ← Decoder.remaining
  if remaining < 8 then pure .null
  else
    let gnssId ← Decoder.u1
    let svId ← Decoder.u1
    let sigId ← Decoder.u1
    let freqId ← Decoder.u1
    let numWords ← Decoder.u1
    let chn ← Decoder.u1
    let version ← Decoder.u1
    let reserved0 ← Decoder.u1
    let error ← Decoder.error
    if error then pure .null
    else if version ≠ 0x02 then pure .null
    else
      let words ← Decoder.u4.times numWords.toNat
      let error ← Decoder.error
      if error then pure .null
      else pure (.message
        (⟨gnssId, svId, sigId, freqId, numWords, chn, version, reserved0⟩, words))

/-! ### UBX-RXM-RAWX -/

structure RxmRawxRecStat where
  leapSec : UInt8
  clkReset : UInt8
  deriving DecidableEq

structure RxmRawx where
  rcvTow : UInt64
  week : UInt16
  leapS : Int8
  numMeas : UInt8
  recStat : RxmRawxRecStat
  version : UInt8
  reserved0 : UInt16
  deriving DecidableEq

structure RxmRawxTrkStat where
  prValid : UInt8
  cpValid : UInt8
  halfCyc : UInt8
  subHalfCyc : UInt8
  deriving DecidableEq

structure RxmRawxMeasurement where
  prMes : UInt64
  cpMes : UInt64
  doMes : UInt32
  gnssId : UInt8
  svId : UInt8
  sigId : UInt8
  freqId : UInt8
  locktime : UInt16
  cno : UInt8
  prStdev : UInt8
  cpStdev : UInt8
  doStdev : UInt8
  trkStat : RxmRawxTrkStat
  reserved0 : UInt8
  deriving DecidableEq

/-- One round of the loop over the measurements. -/
def RxmRawxMeasurement.parse : StateM Decoder (Option RxmRawxMeasurement) := do
  let prMes ← Decoder.r8
  let cpMes ← Decoder.r8
  let doMes ← Decoder.r4
  let gnssId ← Decoder.u1
  let svId ← Decoder.u1
  let sigId ← Decoder.u1
  let freqId ← Decoder.u1
  let locktime ← Decoder.u2
  let cno ← Decoder.u1
  let prStdev ← Decoder.x1
  let cpStdev ← Decoder.x1
  let doStdev ← Decoder.x1
  let trkStat ← Decoder.x1
  let reserved0 ← Decoder.u1
  let error ← Decoder.error
  if error then pure none
  else pure (some {
    prMes, cpMes, doMes, gnssId, svId, sigId, freqId, locktime, cno, prStdev, cpStdev, doStdev
    trkStat := ⟨field trkStat 0 0x01, field trkStat 1 0x01, field trkStat 2 0x01,
      field trkStat 3 0x01⟩
    reserved0 })

/-- The loop; an error ends it. -/
def RxmRawxMeasurement.parseAll : ℕ → StateM Decoder (Option (List RxmRawxMeasurement))
  | 0 => pure (some [])
  | n + 1 => do
    let measurement ← RxmRawxMeasurement.parse
    match measurement with
    | none => pure none
    | some measurement => do
      let measurements ← parseAll n
      pure (measurements.map (measurement :: ·))

/-- The payload and the measurements. -/
def RxmRawx.parse : StateM Decoder (Result (RxmRawx × List RxmRawxMeasurement)) := do
  let remaining ← Decoder.remaining
  if remaining < 16 then pure .null
  else
    let rcvTow ← Decoder.r8
    let week ← Decoder.u2
    let leapS ← Decoder.i1
    let numMeas ← Decoder.u1
    let recStat ← Decoder.x1
    let version ← Decoder.u1
    let reserved0 ← Decoder.u2
    let error ← Decoder.error
    if error then pure .null
    else
      let measurements ← RxmRawxMeasurement.parseAll numMeas.toNat
      match measurements with
      | none => pure .null
      | some measurements => do
        let error ← Decoder.error
        if error then pure .null
        else pure (.message
          (⟨rcvTow, week, leapS, numMeas, ⟨field recStat 0 0x01, field recStat 1 0x01⟩, version,
            reserved0⟩, measurements))

/-! ### UBX-RXM-RTCM and UBX-RXM-SPARTN -/

structure RxmFlags where
  crcFailed : UInt8
  msgUsed : UInt8
  deriving DecidableEq

/-- The member of the union; `third` is `ref_station` or `padding04`. -/
structure RxmData where
  flags : RxmFlags
  subType : UInt16
  third : UInt16
  msgType : UInt16
  deriving DecidableEq

/-- `raw::RxmRtcm` and `raw::RxmSpartn`. -/
structure Rxm where
  version : UInt8
  data : Option RxmData
  deriving DecidableEq

/-- The common form of the two parsers, which know one version each. -/
def Rxm.parseVersion (known : UInt8) : StateM Decoder (Result Rxm) := do
  let remaining ← Decoder.remaining
  if remaining < 2 then pure .null
  else
    let version ← Decoder.u1
    let error ← Decoder.error
    if error then pure .null
    else if version = known then do
      let flags ← Decoder.u1
      let subType ← Decoder.u2
      let third ← Decoder.u2
      let msgType ← Decoder.u2
      let error ← Decoder.error
      if error then pure .null
      else pure (.message
        ⟨version, some ⟨⟨field flags 0 0x01, field flags 1 0x03⟩, subType, third, msgType⟩⟩)
    else pure (.message ⟨version, none⟩)

def rxmRtcm : StateM Decoder (Result Rxm) := Rxm.parseVersion 2

def rxmSpartn : StateM Decoder (Result Rxm) := Rxm.parseVersion 1

/-! ### UBX-MON-VER -/

structure MonVer where
  swVersion : List UInt8
  hwVersion : List UInt8
  extensions : List (List UInt8)
  deriving DecidableEq

def MonVer.parse : StateM Decoder (Result MonVer) := do
  let remaining ← Decoder.remaining
  if remaining < 40 then pure .null
  else
    let extensionCount := (remaining - 40) / 30
    let swVersion ← Decoder.ch 30
    let hwVersion ← Decoder.ch 10
    let extensions ← (Decoder.ch 30).times extensionCount
    let error ← Decoder.error
    if error then pure .null else pure (.message ⟨swVersion, hwVersion, extensions⟩)

/-! ### All messages -/

inductive Content
  | navPvt (payload : NavPvt)
  | monVer (payload : MonVer)
  | cfgValget (payload : CfgValget)
  | ackAck (payload : Ack)
  | ackNak (payload : Ack)
  | rxmSfrbx (payload : RxmSfrbx) (words : List UInt32)
  | rxmRawx (payload : RxmRawx) (measurements : List RxmRawxMeasurement)
  | rxmRtcm (payload : Rxm)
  | rxmSpartn (payload : Rxm)
  | unsupported

def Result.map {α β : Type} (f : α → β) : Result α → Result β
  | .unreachable => .unreachable
  | .null => .null
  | .message m => .message (f m)

/-- The `switch` over the type of a frame. -/
def parseContent (type : UInt16) : StateM Decoder (Result Content) :=
  if type = 0x0107 then Result.map .navPvt <$> NavPvt.parse
  else if type = 0x0A04 then Result.map .monVer <$> MonVer.parse
  else if type = 0x068B then Result.map .cfgValget <$> CfgValget.parse
  else if type = 0x0501 then Result.map .ackAck <$> Ack.parse
  else if type = 0x0500 then Result.map .ackNak <$> Ack.parse
  else if type = 0x0213 then Result.map (fun m => .rxmSfrbx m.1 m.2) <$> RxmSfrbx.parse
  else if type = 0x0215 then Result.map (fun m => .rxmRawx m.1 m.2) <$> RxmRawx.parse
  else if type = 0x0232 then Result.map .rxmRtcm <$> rxmRtcm
  else if type = 0x0233 then Result.map .rxmSpartn <$> rxmSpartn
  else pure (.message .unsupported)

/-! ### What the parsers read -/

theorem agree_navPvt : Agree SameWindow NavPvt.parse := by
  refine Decoder.agree_remaining.bind fun _ => Agree.ite (.pure _) ?_
  refine Decoder.agree_x4.bind fun iTow => Decoder.agree_x2.bind fun year => ?_
  refine Decoder.agree_x1.bind fun month => Decoder.agree_x1.bind fun day => ?_
  refine Decoder.agree_x1.bind fun hour => Decoder.agree_x1.bind fun min => ?_
  refine Decoder.agree_x1.bind fun sec => Decoder.agree_x1.bind fun valid => ?_
  refine Decoder.agree_x4.bind fun tAcc => Decoder.agree_i4.bind fun nano => ?_
  refine Decoder.agree_x1.bind fun fixType => Decoder.agree_x1.bind fun flags => ?_
  refine Decoder.agree_x1.bind fun flags2 => Decoder.agree_x1.bind fun numSv => ?_
  refine Decoder.agree_i4.bind fun lon => Decoder.agree_i4.bind fun lat => ?_
  refine Decoder.agree_i4.bind fun height => Decoder.agree_i4.bind fun hMsl => ?_
  refine Decoder.agree_x4.bind fun hAcc => Decoder.agree_x4.bind fun vAcc => ?_
  refine Decoder.agree_i4.bind fun velN => Decoder.agree_i4.bind fun velE => ?_
  refine Decoder.agree_i4.bind fun velD => Decoder.agree_i4.bind fun gSpeed => ?_
  refine Decoder.agree_i4.bind fun headMot => Decoder.agree_x4.bind fun sAcc => ?_
  refine Decoder.agree_x4.bind fun headAcc => Decoder.agree_x2.bind fun pDop => ?_
  refine Decoder.agree_x1.bind fun flags3 => (Decoder.agree_skip 4).bind fun _ => ?_
  refine Decoder.agree_i4.bind fun headVeh => Decoder.agree_i2.bind fun magDec => ?_
  refine Decoder.agree_x2.bind fun magAcc => Decoder.agree_error.bind fun error => ?_
  exact Agree.ite (.pure _) (.pure _)

theorem agree_ack : Agree SameWindow Ack.parse := by
  refine Decoder.agree_remaining.bind fun _ => Agree.ite (.pure _) ?_
  refine Decoder.agree_x1.bind fun clsId => Decoder.agree_x1.bind fun msgId => ?_
  exact Decoder.agree_error.bind fun error => Agree.ite (.pure _) (.pure _)

theorem agree_rxmSfrbx : Agree SameWindow RxmSfrbx.parse := by
  refine Decoder.agree_remaining.bind fun _ => Agree.ite (.pure _) ?_
  refine Decoder.agree_x1.bind fun gnssId => Decoder.agree_x1.bind fun svId => ?_
  refine Decoder.agree_x1.bind fun sigId => Decoder.agree_x1.bind fun freqId => ?_
  refine Decoder.agree_x1.bind fun numWords => Decoder.agree_x1.bind fun chn => ?_
  refine Decoder.agree_x1.bind fun version => Decoder.agree_x1.bind fun reserved0 => ?_
  refine Decoder.agree_error.bind fun error => Agree.ite (.pure _) (Agree.ite (.pure _) ?_)
  refine (Decoder.agree_x4.times _).bind fun words => ?_
  exact Decoder.agree_error.bind fun error => Agree.ite (.pure _) (.pure _)

theorem agree_measurement : Agree SameWindow RxmRawxMeasurement.parse := by
  refine Decoder.agree_x8.bind fun prMes => Decoder.agree_x8.bind fun cpMes => ?_
  refine Decoder.agree_x4.bind fun doMes => Decoder.agree_x1.bind fun gnssId => ?_
  refine Decoder.agree_x1.bind fun svId => Decoder.agree_x1.bind fun sigId => ?_
  refine Decoder.agree_x1.bind fun freqId => Decoder.agree_x2.bind fun locktime => ?_
  refine Decoder.agree_x1.bind fun cno => Decoder.agree_x1.bind fun prStdev => ?_
  refine Decoder.agree_x1.bind fun cpStdev => Decoder.agree_x1.bind fun doStdev => ?_
  refine Decoder.agree_x1.bind fun trkStat => Decoder.agree_x1.bind fun reserved0 => ?_
  exact Decoder.agree_error.bind fun error => Agree.ite (.pure _) (.pure _)

theorem agree_measurements (n : ℕ) : Agree SameWindow (RxmRawxMeasurement.parseAll n) := by
  induction n with
  | zero => exact .pure _
  | succ n ih =>
    refine agree_measurement.bind fun measurement => ?_
    cases measurement with
    | none => exact .pure _
    | some measurement => exact ih.bind fun measurements => .pure _

theorem agree_rxmRawx : Agree SameWindow RxmRawx.parse := by
  refine Decoder.agree_remaining.bind fun _ => Agree.ite (.pure _) ?_
  refine Decoder.agree_x8.bind fun rcvTow => Decoder.agree_x2.bind fun week => ?_
  refine Decoder.agree_i1.bind fun leapS => Decoder.agree_x1.bind fun numMeas => ?_
  refine Decoder.agree_x1.bind fun recStat => Decoder.agree_x1.bind fun version => ?_
  refine Decoder.agree_x2.bind fun reserved0 => Decoder.agree_error.bind fun error => ?_
  refine Agree.ite (.pure _) ((agree_measurements _).bind fun measurements => ?_)
  cases measurements with
  | none => exact .pure _
  | some measurements =>
    exact Decoder.agree_error.bind fun error => Agree.ite (.pure _) (.pure _)

theorem agree_parseVersion (known : UInt8) : Agree SameWindow (Rxm.parseVersion known) := by
  refine Decoder.agree_remaining.bind fun _ => Agree.ite (.pure _) ?_
  refine Decoder.agree_x1.bind fun version => Decoder.agree_error.bind fun error => ?_
  refine Agree.ite (.pure _) (Agree.ite ?_ (.pure _))
  refine Decoder.agree_x1.bind fun flags => Decoder.agree_x2.bind fun subType => ?_
  refine Decoder.agree_x2.bind fun third => Decoder.agree_x2.bind fun msgType => ?_
  exact Decoder.agree_error.bind fun error => Agree.ite (.pure _) (.pure _)

theorem agree_parseContent {type : UInt16} (h : type ≠ 0x0A04) :
    Agree SameWindow (parseContent type) := by
  refine Agree.ite (agree_navPvt.map _) ?_
  rw [if_neg h]
  refine Agree.ite (CfgValget.agree_parse.map _) (Agree.ite (agree_ack.map _) ?_)
  refine Agree.ite (agree_ack.map _) (Agree.ite (agree_rxmSfrbx.map _) ?_)
  refine Agree.ite (agree_rxmRawx.map _) (Agree.ite ((agree_parseVersion 2).map _) ?_)
  exact Agree.ite ((agree_parseVersion 1).map _) (.pure _)

/-! ### What the parser of UBX-MON-VER reads -/

/-- The string at a pointer. -/
def cString (memory : List UInt8) : List UInt8 := memory.takeWhile (· != 0)

namespace MonVer

theorem run_ch {memory : List UInt8} {n length : ℕ} (h : length ≤ n) (e : Bool) :
    (Decoder.ch length).run ⟨memory, n, e⟩ =
      (cString memory, ⟨memory.drop length, n - length, e⟩) :=
  if_neg (Nat.not_lt.2 h)

/-- The strings follow one another. -/
theorem run_chs {length k n : ℕ} (h : length * k ≤ n) (memory : List UInt8) (e : Bool) :
    ((Decoder.ch length).times k).run ⟨memory, n, e⟩ =
      ((List.range k).map fun i => cString (memory.drop (length * i)),
        ⟨memory.drop (length * k), n - length * k, e⟩) := by
  induction k generalizing memory n with
  | zero => rfl
  | succ k ih =>
    rw [Nat.mul_succ] at h
    have htimes : (Decoder.ch length).times (k + 1) = (do
      let a ← Decoder.ch length
      let as ← (Decoder.ch length).times k
      pure (a :: as)) := rfl
    rw [htimes, StateM.run_seq, run_ch (by omega), StateM.run_seq,
      ih (n := n - length) (by omega)]
    refine Prod.ext ?_ ?_
    · change _ :: _ = _
      rw [List.range_succ_eq_map, List.map_cons, List.map_map]
      congr 1
      refine List.map_congr_left fun i _ => ?_
      rw [List.drop_drop, Function.comp_apply, Nat.succ_eq_add_one, Nat.mul_succ, Nat.add_comm]
    · change Decoder.mk _ _ _ = _
      rw [List.drop_drop, Nat.mul_succ, Nat.sub_sub, Nat.add_comm]

/-- The message at a pointer. -/
def ofMemory (memory : List UInt8) (extensionCount : ℕ) : MonVer where
  swVersion := cString memory
  hwVersion := cString (memory.drop 30)
  extensions := (List.range extensionCount).map fun i => cString (memory.drop (40 + 30 * i))

theorem run_parse {n : ℕ} (h : 40 ≤ n) (memory : List UInt8) :
    (MonVer.parse.run ⟨memory, n, false⟩).1 = .message (.ofMemory memory ((n - 40) / 30)) := by
  have hfit : 30 * ((n - 40) / 30) ≤ n - 30 - 10 := by
    rw [Nat.sub_sub]
    exact Nat.mul_div_le _ _
  rw [MonVer.parse, StateM.run_seq]
  change (StateT.run (if n < 40 then _ else _ : StateM Decoder (Result MonVer))
    ⟨memory, n, false⟩).1 = _
  rw [if_neg (Nat.not_lt.2 h)]
  simp only [StateM.run_seq, run_ch (show 30 ≤ n by omega), run_ch (show 10 ≤ n - 30 by omega),
    Decoder.run_remaining, run_chs hfit, Decoder.run_error, List.drop_drop, ofMemory]
  rfl

/-- The result for a payload, with `beyond` behind it in the memory. -/
def parsed (payload beyond : List UInt8) : Result MonVer :=
  (MonVer.parse.run (.create (payload ++ beyond) payload.length)).1

theorem parsed_short {payload : List UInt8} (h : payload.length < 40) (beyond : List UInt8) :
    parsed payload beyond = .null := by
  rw [parsed, MonVer.parse, StateM.run_seq]
  change (StateT.run (if payload.length < 40 then _ else _ : StateM Decoder (Result MonVer))
    _).1 = _
  rw [if_pos h]
  rfl

/-- Where the last string of a payload begins. -/
def lastStart (length : ℕ) : ℕ :=
  if (length - 40) / 30 = 0 then 30 else 40 + 30 * ((length - 40) / 30 - 1)

/-- The last string ends in the payload. -/
def Terminated (payload : List UInt8) : Prop := 0 ∈ payload.drop (lastStart payload.length)

instance (payload : List UInt8) : Decidable (Terminated payload) :=
  inferInstanceAs (Decidable (_ ∈ _))

theorem cString_append {l : List UInt8} (h : 0 ∈ l) (m : List UInt8) :
    cString (l ++ m) = cString l := by
  induction l with
  | nil => cases h
  | cons b l ih =>
    by_cases hb : b = 0
    · simp [cString, hb]
    · have htail : 0 ∈ l := by simpa [Ne.symm hb] using h
      simpa [cString, hb] using ih htail

theorem cString_of_not_mem {l : List UInt8} (h : 0 ∉ l) (m : List UInt8) :
    cString (l ++ m) = l ++ cString m := by
  induction l with
  | nil => rfl
  | cons b l ih =>
    have hb : b ≠ 0 := fun hb => h (by simp [hb])
    have htail : 0 ∉ l := fun hmem => h (List.mem_cons_of_mem b hmem)
    simpa [cString, hb] using ih htail

theorem lastStart_le {length : ℕ} (h : 40 ≤ length) : lastStart length ≤ length := by
  have hfit := Nat.mul_div_le (length - 40) 30
  unfold lastStart
  split_ifs <;> omega

/-- A string that begins before the last one ends where it does at the latest. -/
theorem Terminated.cString_eq {payload : List UInt8} (h : Terminated payload)
    (hlong : 40 ≤ payload.length) {start : ℕ} (hstart : start ≤ lastStart payload.length)
    (beyond : List UInt8) :
    cString ((payload ++ beyond).drop start) = cString (payload.drop start) := by
  have hmem : 0 ∈ payload.drop start := by
    have hdrop : payload.drop (lastStart payload.length) =
        (payload.drop start).drop (lastStart payload.length - start) := by
      rw [List.drop_drop, Nat.add_sub_cancel' hstart]
    rw [Terminated, hdrop] at h
    exact List.mem_of_mem_drop h
  rw [List.drop_append_of_le_length (hstart.trans (lastStart_le hlong)), cString_append hmem]

/-- The string that begins last. -/
def lastString (m : MonVer) : List UInt8 := m.extensions.getLastD m.hwVersion

theorem lastString_ofMemory (memory : List UInt8) (length : ℕ) :
    (ofMemory memory ((length - 40) / 30)).lastString =
      cString (memory.drop (lastStart length)) := by
  unfold lastString ofMemory lastStart
  cases (length - 40) / 30 with
  | zero => rfl
  | succ k =>
    rw [if_neg (Nat.succ_ne_zero k), List.range_succ]
    simp

/-- The message depends on the payload only exactly when its last string ends there. -/
theorem payload_only_iff (payload behind : List UInt8) :
    (∀ beyond, parsed payload behind = parsed payload beyond) ↔
      (40 ≤ payload.length → Terminated payload) := by
  constructor
  · intro h hlong
    by_contra hnot
    have hparsed : ∀ beyond, parsed payload beyond =
        .message (.ofMemory (payload ++ beyond) ((payload.length - 40) / 30)) :=
      fun beyond => run_parse hlong _
    have hlast : ∀ beyond, (ofMemory (payload ++ beyond) ((payload.length - 40) / 30)).lastString =
        payload.drop (lastStart payload.length) ++ cString beyond := fun beyond => by
      rw [lastString_ofMemory, List.drop_append_of_le_length (lastStart_le hlong),
        cString_of_not_mem hnot]
    have hsame := (h []).symm.trans (h [1])
    rw [hparsed, hparsed] at hsame
    have hstrings := congrArg lastString (Result.message.inj hsame)
    rw [hlast, hlast] at hstrings
    simp [cString] at hstrings
  · intro h beyond
    by_cases hlong : 40 ≤ payload.length
    · have hall : ∀ beyond, parsed payload beyond =
          .message (.ofMemory payload ((payload.length - 40) / 30)) := by
        intro beyond
        refine (run_parse hlong _).trans (congrArg Result.message ?_)
        have hcount := Nat.mul_div_le (payload.length - 40) 30
        have hsw := (h hlong).cString_eq hlong (Nat.zero_le _) beyond
        have hthirty : 30 ≤ lastStart payload.length := by
          unfold lastStart
          split_ifs <;> omega
        have hhw := (h hlong).cString_eq hlong hthirty beyond
        simp only [ofMemory]
        congr 1
        refine List.map_congr_left fun i hi => (h hlong).cString_eq hlong ?_ beyond
        rw [List.mem_range] at hi
        rw [lastStart, if_neg (by omega)]
        omega
      rw [hall, hall]
    · rw [parsed_short (by omega), parsed_short (by omega)]

end MonVer

/-! ### What the content of a frame depends on -/

/-- The content for a payload, with `beyond` behind it in the memory. -/
def decode (type : UInt16) (payload beyond : List UInt8) : Result Content :=
  ((parseContent type).run (.create (payload ++ beyond) payload.length)).1

theorem Result.map_injective {α β : Type} {f : α → β} (hf : Function.Injective f) :
    Function.Injective (Result.map f) := by
  intro r r' h
  cases r <;> cases r' <;> first | rfl | cases h | skip
  exact congrArg Result.message (hf (Result.message.inj h))

theorem decode_monVer (payload beyond : List UInt8) :
    decode 0x0A04 payload beyond = (MonVer.parsed payload beyond).map .monVer := rfl

theorem decode_payload_only_iff (type : UInt16) (payload behind : List UInt8) :
    (∀ beyond, decode type payload behind = decode type payload beyond) ↔
      (type = 0x0A04 → 40 ≤ payload.length → MonVer.Terminated payload) := by
  by_cases htype : type = 0x0A04
  · subst htype
    have hinjective : Function.Injective (Result.map Content.monVer) :=
      Result.map_injective fun m m' h => Content.monVer.inj h
    simp only [decode_monVer, hinjective.eq_iff, MonVer.payload_only_iff, forall_const]
  · refine iff_of_true (fun beyond => ?_) (fun h => absurd h htype)
    exact (agree_parseContent htype _ _ (SameWindow.create payload behind beyond)).1

end SuplLpp.Ubx
