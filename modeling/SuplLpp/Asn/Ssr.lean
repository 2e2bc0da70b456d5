import SuplLpp.Asn.Types

/-!
# The SSR elements of an LPP message

The decoded elements that the SPARTN generator reads, with the constraints of the ASN.1
definitions.

* orbit, clock, code bias, phase bias and URA corrections; STEC and gridded corrections;
* correction points, real time integrity and the service alert;
* `SsrAssistData`, what the generator reads of a `ProvideAssistanceData`.
-/

namespace SuplLpp.Asn

/-! ### Orbit, clock and bias -/

structure SsrOrbitCorrectionSatelliteElement where
  svId : SvId
  iod : BitString 11
  deltaRadial : Integer (-2097152) 2097151
  deltaAlongTrack : Integer (-524288) 524287
  deltaCrossTrack : Integer (-524288) 524287

structure GnssSsrOrbitCorrections where
  epochTime : GnssSystemTime
  iodSsr : Integer 0 15
  ssrOrbitCorrectionList : SeqOf SsrOrbitCorrectionSatelliteElement 1 64

structure SsrClockCorrectionSatelliteElement where
  svId : SvId
  deltaClockC0 : Integer (-2097152) 2097151
  deltaClockC1 : Option (Integer (-1048576) 1048575)
  deltaClockC2 : Option (Integer (-67108864) 67108863)

structure GnssSsrClockCorrections where
  epochTime : GnssSystemTime
  iodSsr : Integer 0 15
  ssrClockCorrectionList : SeqOf SsrClockCorrectionSatelliteElement 1 64

structure SsrCodeBiasSignalElement where
  signalAndTrackingModeId : GnssSignalId
  codeBias : Integer (-8192) 8191

structure SsrCodeBiasSatElement where
  svId : SvId
  ssrCodeBiasSignalList : SeqOf SsrCodeBiasSignalElement 1 16

structure GnssSsrCodeBias where
  epochTime : GnssSystemTime
  iodSsr : Integer 0 15
  ssrCodeBiasSatList : SeqOf SsrCodeBiasSatElement 1 64

structure SsrPhaseBiasSignalElement where
  signalAndTrackingModeId : GnssSignalId
  phaseBias : Integer (-16384) 16383
  phaseBiasIntegerIndicator : Option (Integer 0 3)

structure SsrPhaseBiasSatElement where
  svId : SvId
  ssrPhaseBiasSignalList : SeqOf SsrPhaseBiasSignalElement 1 16

structure GnssSsrPhaseBias where
  epochTime : GnssSystemTime
  iodSsr : Integer 0 15
  ssrPhaseBiasSatList : SeqOf SsrPhaseBiasSatElement 1 64

structure SsrUraSatElement where
  svId : SvId
  ssrUra : BitString 6

structure GnssSsrUra where
  epochTime : GnssSystemTime
  iodSsr : Integer 0 15
  ssrUraSatList : SeqOf SsrUraSatElement 1 64

/-! ### Atmosphere -/

structure StecSatElement where
  svId : SvId
  stecQualityIndicator : BitString 6
  stecC00 : Integer (-8192) 8191
  stecC01 : Option (Integer (-2048) 2047)
  stecC10 : Option (Integer (-2048) 2047)
  stecC11 : Option (Integer (-512) 511)

structure GnssSsrStecCorrection where
  epochTime : GnssSystemTime
  iodSsr : Integer 0 15
  correctionPointSetId : Integer 0 16383
  stecSatList : SeqOf StecSatElement 1 64

structure TropospericDelayCorrection where
  tropoHydroStaticVerticalDelay : Integer (-256) 255
  tropoWetVerticalDelay : Integer (-128) 127

inductive StecResidualCorrection
  | b7 (value : Integer (-64) 63)
  | b16 (value : Integer (-32768) 32767)

structure StecResidualSatElement where
  svId : SvId
  stecResidualCorrection : StecResidualCorrection

structure GridElement where
  tropospericDelayCorrection : Option TropospericDelayCorrection
  stecResidualSatList : Option (SeqOf StecResidualSatElement 1 64)

structure GnssSsrGriddedCorrection where
  epochTime : GnssSystemTime
  iodSsr : Integer 0 15
  troposphericDelayQualityIndicator : Option (BitString 6)
  correctionPointSetId : Integer 0 16383
  gridList : SeqOf GridElement 1 64

structure GnssSsrArrayOfCorrectionPoints where
  referencePointLatitude : Integer (-16384) 16383
  referencePointLongitude : Integer (-32768) 32767
  numberOfStepsLatitude : Integer 0 63
  numberOfStepsLongitude : Integer 0 63
  stepOfLatitude : Integer 1 511
  stepOfLongitude : Integer 1 1023
  bitmaskOfGrids : Option (BitString 64)

inductive CorrectionPoints
  | listOfCorrectionPoints
  | arrayOfCorrectionPoints (array : GnssSsrArrayOfCorrectionPoints)

structure GnssSsrCorrectionPoints where
  correctionPointSetId : Integer 0 16383
  correctionPoints : CorrectionPoints

/-! ### Integrity -/

structure GnssSignalIds where
  gnssSignalIds : BitString 8
  gnssSignalIdsExt : Option (BitString 16)

structure BadSignalElement where
  badSvId : SvId
  badSignalId : Option GnssSignalIds

structure GnssRealTimeIntegrity where
  gnssBadSignalList : SeqOf BadSignalElement 1 64

structure GnssIntegrityServiceAlert where
  ionosphereDoNotUse : Bool
  troposphereDoNotUse : Bool

/-! ### The message -/

/-- The fields of `GNSS-CommonAssistData` for SSR. -/
structure SsrCommonAssistData where
  gnssSsrCorrectionPoints : Option GnssSsrCorrectionPoints
  gnssIntegrityServiceAlert : Option GnssIntegrityServiceAlert

/-- The fields of `GNSS-GenericAssistDataElement` for SSR. -/
structure SsrGenericAssistDataElement where
  gnssId : GnssId
  gnssRealTimeIntegrity : Option GnssRealTimeIntegrity
  gnssSsrOrbitCorrections : Option GnssSsrOrbitCorrections
  gnssSsrClockCorrections : Option GnssSsrClockCorrections
  gnssSsrCodeBias : Option GnssSsrCodeBias
  gnssSsrUra : Option GnssSsrUra
  gnssSsrPhaseBias : Option GnssSsrPhaseBias
  gnssSsrStecCorrection : Option GnssSsrStecCorrection
  gnssSsrGriddedCorrection : Option GnssSsrGriddedCorrection

/-- `A-GNSS-ProvideAssistanceData`. -/
structure SsrAssistData where
  gnssCommonAssistData : Option SsrCommonAssistData
  gnssGenericAssistData : Option (SeqOf SsrGenericAssistDataElement 1 16)

/-- `ProvideAssistanceData`, and any other body of an LPP message. -/
inductive SsrLppMessageBody
  | provideAssistanceDataR9 (aGnssProvideAssistanceData : Option SsrAssistData)
  | other

structure SsrLppMessage where
  lppMessageBody : Option SsrLppMessageBody

end SuplLpp.Asn
