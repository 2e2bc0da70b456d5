import SuplLpp.Spartn.Data

/-!
# OCB messages

Orbit, clock and bias corrections of one issue of data: one message for each constellation and
epoch time.

* `biasBlock` and `generateGpsBiasBlock` and the others, `ocbSatellite`, `ocbMessage`;
* `generateOcb`, as the source goes through the corrections.
-/

namespace SuplLpp.Spartn

open Asn Bits MessageBuilder

/-! ### Biases -/

/-- The flag says that the phase bias is an integer ambiguity; without an indicator it is. -/
def phaseBiasFixFlag (signal : SsrPhaseBiasSignalElement) : Bool :=
  match signal.phaseBiasIntegerIndicator with
  | some value => decide (value.1 ≠ 2)
  | none => true

def emitPhaseSlots (slots : BiasSlots) (ignoreL2lSlot2 : Bool) : List Bool :=
  (List.range 8).flatMap fun i =>
    match slots.entry i with
    | some e =>
      if ignoreL2lSlot2 && i == 2 then []
      else sf023 e.fixFlag ++ sf015 e.continuityIndicator ++ sf020 e.correction
    | none => []

def emitCodeSlots (slots : BiasSlots) : List Bool :=
  (List.range 8).flatMap fun i =>
    match slots.entry i with
    | some e => sf029 e.correction
    | none => []

/-- The three stages for the phase biases of a satellite. -/
def phaseSlots (sm : SystemMapping) (biasMap : BiasMap) (phaseBias : SsrPhaseBiasSatElement) :
    BiasSlots :=
  let set := phaseBias.ssrPhaseBiasSignalList.1.foldl
    (fun set signal => stage1Add sm set (signalId signal.signalAndTrackingModeId)
      (signal.phaseBias.1 * 0.001) 320 (phaseBiasFixFlag signal)) RinexBiasSet.empty
  stage3Assign sm (stage2Expand sm biasMap set false)

/-- The three stages for the code biases of a satellite. -/
def codeSlots (sm : SystemMapping) (biasMap : BiasMap) (codeBias : SsrCodeBiasSatElement) :
    BiasSlots :=
  let set := codeBias.ssrCodeBiasSignalList.1.foldl
    (fun set signal => stage1Add sm set (signalId signal.signalAndTrackingModeId)
      (signal.codeBias.1 * 0.01) 0 false) RinexBiasSet.empty
  stage3Assign sm (stage2Expand sm biasMap set true)

/-- The bias block of a satellite, with the mask fields of its system and what is done to the
slots before they are written. -/
def biasBlock (sm : SystemMapping) (biasMap : BiasMap) (phaseMaskRaw : Bool → ℕ → List Bool)
    (phaseMask : BiasSlots → List Bool) (codeMaskRaw : Bool → ℕ → List Bool)
    (codeMask : BiasSlots → List Bool) (adjust : BiasSlots → BiasSlots)
    (codeBias : Option SsrCodeBiasSatElement) (phaseBias : Option SsrPhaseBiasSatElement) :
    List Bool :=
  (match phaseBias with
    | none => phaseMaskRaw false 0
    | some phaseBias =>
      let slots := adjust (phaseSlots sm biasMap phaseBias)
      phaseMask slots ++ emitPhaseSlots slots false) ++
  match codeBias with
  | none => codeMaskRaw false 0
  | some codeBias =>
    let slots := adjust (codeSlots sm biasMap codeBias)
    codeMask slots ++ emitCodeSlots slots

section

variable (cfg : Config)

def generateGpsBiasBlock :=
  biasBlock gGpsSm cfg.mGpsBiasMap sf025Raw sf025 sf027Raw sf027 (maskIgnoreL2l · cfg.mIgnoreL2L)

def generateGloBiasBlock :=
  biasBlock gGloSm cfg.mGloBiasMap sf026Raw sf026 sf028Raw sf028 fun slots => slots

def generateGalBiasBlock :=
  biasBlock gGalSm cfg.mGalBiasMap sf102Raw sf102 sf105Raw sf105 fun slots => slots

def generateBdsBiasBlock :=
  biasBlock gBdsSm cfg.mBdsBiasMap sf103Raw sf103 sf106Raw sf106 fun slots => slots

/-! ### One satellite -/

/-- The continuity indicator that is configured, or the largest. -/
def continuityIndicator : ℚ :=
  if cfg.mContinuityIndicator ≥ 0 then cfg.mContinuityIndicator else 320

/-- LPP has no yaw angles. -/
def yawAnglePresent : Bool := false

def orbitBlock (gnssId : GnssId) (orbit : SsrOrbitCorrectionSatelliteElement) :
    Result (List Bool) := do
  let iode ← orbitIode gnssId orbit.iod
  let radial : ℚ := orbit.deltaRadial.1 * 0.0001
  let along : ℚ := orbit.deltaAlongTrack.1 * 0.0004
  let cross : ℚ := orbit.deltaCrossTrack.1 * 0.0004
  let radial := if cfg.mFlipOrbitCorrection then radial * -1 else radial
  let cross := if cfg.mFlipOrbitCorrection then cross * -1 else cross
  return iode ++ sf020 radial ++ sf020 along ++ sf020 cross ++
    if yawAnglePresent then sf021 0 else []

def uraField (ura : Option SsrUraSatElement) : List Bool :=
  if cfg.mUraOverride ≥ 0 then sf024Raw (clampOverride cfg.mUraOverride 7)
  else
    match ura with
    | some ura =>
      let quality := qualityIndicator ura.ssrUra
      if quality.invalid then sf024Raw (clampDefault cfg.mUraDefault 7) else sf024 quality.value
    | none => sf024Raw (clampDefault cfg.mUraDefault 7)

/-- The polynomial of the clock at its own reference time. -/
def clockBlock (epochTime : SpartnTime) (clock : SsrClockCorrectionSatelliteElement)
    (ura : Option SsrUraSatElement) : List Bool :=
  let c0 : ℚ := clock.deltaClockC0.1 * 0.0001
  let c1 := optional clock.deltaClockC1 0.000001
  let c2 := optional clock.deltaClockC2 0.00000002
  let t0 := epochTime.seconds
  let t := t0
  let dt := t - t0
  let dc := c0 + c1 * dt + c2 * dt * dt
  let dc := if cfg.mUBloxClockCorrection then dc * -1 else dc
  sf022 (continuityIndicator cfg) ++ sf020 dc ++ uraField cfg ura

def satelliteBiasBlock (gnssId : GnssId) (satellite : OcbSatellite) : Result (List Bool) :=
  if satellite.codeBias.isSome || satellite.phaseBias.isSome then
    match gnssId with
    | .gps => .ok (generateGpsBiasBlock cfg satellite.codeBias satellite.phaseBias)
    | .glonass => .ok (generateGloBiasBlock cfg satellite.codeBias satellite.phaseBias)
    | .galileo => .ok (generateGalBiasBlock cfg satellite.codeBias satellite.phaseBias)
    | .bds => .ok (generateBdsBiasBlock cfg satellite.codeBias satellite.phaseBias)
    | .sbas | .qzss | .navic => .error .unreachable
  else .ok []

variable (data : CorrectionData)

def doUseSatellite (gnssId : GnssId) (id : SvId) : Bool :=
  let doUse := if cfg.mDoNotUseSatellite then data.canUseSatellite gnssId id else true
  if doUse && cfg.mDoNotUseSatellite then !decide ((gnssId, id) ∈ data.stecDnuSatellites)
  else doUse

def ocbSatellite (corrections : OcbCorrections) (satellite : OcbSatellite) :
    Result (List Bool) := do
  let gnssId := corrections.gnssId
  let orbit ←
    (match satellite.orbit with
    | some orbit => orbitBlock cfg gnssId orbit
    | none => .ok [])
  let clock :=
    match satellite.clock with
    | some clock => clockBlock cfg corrections.epochTime clock satellite.ura
    | none => []
  let bias ← satelliteBiasBlock cfg gnssId satellite
  return sf013 (!doUseSatellite cfg data gnssId satellite.id) ++
    sf014 satellite.orbit.isSome satellite.clock.isSome
      (satellite.codeBias.isSome || satellite.phaseBias.isSome) ++
    sf015 (continuityIndicator cfg) ++ orbit ++ clock ++ bias

/-! ### The messages of an issue of data -/

/-- The payload of a message; the datum is ITRF. -/
def ocbPayload (siou : ℕ) (eos : Bool) (corrections : OcbCorrections) : Result (List Bool) := do
  let gnssId := corrections.gnssId
  let satellites := corrections.satellites
  let ephemeris ← ephemerisType gnssId
  let mask ← satelliteMask gnssId (satellites.map (·.id))
  let blocks ← satellites.mapM (ocbSatellite cfg data corrections)
  return sf005 siou ++ sf010 eos ++ sf069 ++ sf008 yawAnglePresent ++ sf009 0 ++ ephemeris ++
    mask ++ blocks.flatten

/-- The time tag of the corrections; zero means that the message is left out. -/
def OcbCorrections.timeTag (corrections : OcbCorrections) : ℕ :=
  spartnTimeForGnss corrections.epochTime corrections.gnssId

def ocbMessage (siou : ℕ) (eos : Bool) (corrections : OcbCorrections) : Result Message := do
  let subtype ← subtypeFromGnssId corrections.gnssId
  let payload ← ocbPayload cfg data siou eos corrections
  return build 0 subtype corrections.timeTag payload

/-- The loop of `generate_ocb`: the last of the corrections ends the set. -/
def ocbMessages (siou : ℕ) : List OcbCorrections → Result (List Message)
  | [] => .ok []
  | corrections :: rest =>
    if corrections.timeTag = 0 then ocbMessages siou rest
    else do
      let message ← ocbMessage cfg data siou rest.isEmpty corrections
      let messages ← ocbMessages siou rest
      return message :: messages

/-- The corrections of the systems that are supported, in an order of their container. -/
def ocbCandidates (ocbData : List (OcbKey × OcbCorrections)) : List OcbCorrections :=
  (ocbData.filter fun kvp => cfg.supported kvp.1.gnssId).map (·.2)

def generateOcb (lib : Library) (siou iod : ℕ) : Result (List Message) :=
  match data.ocb iod with
  | none => .ok []
  | some ocbData => do
    let messages ← sortBySubtype (·.gnssId) lib.ocbSorting
      (ocbCandidates cfg (lib.ocbIteration.order ocbData.pairs))
    ocbMessages cfg data siou messages

end

end SuplLpp.Spartn
