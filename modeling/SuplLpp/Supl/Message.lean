import SuplLpp.Lpp.Endpoint

/-!
# SUPL messages

A decoded `ULP_PDU`, and what `decode.cpp` takes from it: the two session ids and one of the
three messages that a SUPL session knows.

`Identity.beq` is the comparison of `session.cpp`: an unknown identity equals nothing, and
two IP addresses of one version are always equal, because each is compared with itself.
-/

namespace SuplLpp.Supl

open SuplLpp.Lpp (Payload PayloadType Pos)

inductive Identity
  | unknown
  | msisdn (msisdn : UInt64)
  | imsi (imsi : UInt64)
  | ipv4 (ipv4 : List UInt8)
  | ipv6 (ipv6 : List UInt8)
  | fqdn (fqdn : List UInt8)
  deriving DecidableEq

def Identity.beq : Identity → Identity → Bool
  | .msisdn a, .msisdn b => a = b
  | .imsi a, .imsi b => a = b
  | .ipv4 _, .ipv4 _ => true
  | .ipv6 _, .ipv6 _ => true
  | .fqdn a, .fqdn b => a = b
  | _, _ => false

structure SET where
  isActive : Bool
  id : ℤ
  identity : Identity
  deriving DecidableEq

structure SLP where
  isActive : Bool
  id : List UInt8
  identity : Identity
  deriving DecidableEq

def SET.beq (a b : SET) : Bool :=
  a.id = b.id && a.isActive = b.isActive && a.identity.beq b.identity

def SLP.beq (a b : SLP) : Bool :=
  a.id = b.id && a.isActive = b.isActive && a.identity.beq b.identity

/-! ### The decoded PDU -/

inductive IPAddress
  | nothing
  | ipv4Address (buf : List UInt8)
  | ipv6Address (buf : List UInt8)
  deriving DecidableEq

/-- `other` stands for the choices that are not supported. -/
inductive SETId
  | msisdn (buf : List UInt8)
  | imsi (buf : List UInt8)
  | iPAddress (address : IPAddress)
  | other
  deriving DecidableEq

inductive SLPAddress
  | fQDN (buf : List UInt8)
  | iPAddress (address : IPAddress)
  deriving DecidableEq

structure SetSessionID where
  sessionId : ℤ
  setId : SETId
  deriving DecidableEq

structure SlpSessionID where
  sessionID : List UInt8
  slpId : SLPAddress
  deriving DecidableEq

inductive PosPayLoad
  | tia801payload (data : List UInt8)
  | rrcPayload (data : List UInt8)
  | rrlpPayload (data : List UInt8)
  | ver2 (lPPPayload tIA801Payload : List (List UInt8))
  deriving DecidableEq

inductive UlpMessage
  | msSUPLRESPONSE (posMethod : ℤ)
  | msSUPLEND
  | msSUPLPOS (posPayLoad : PosPayLoad)
  | other
  deriving DecidableEq

structure UlpPdu where
  setSessionID : Option SetSessionID
  slpSessionID : Option SlpSessionID
  message : UlpMessage
  deriving DecidableEq

/-! ### `decode.cpp` -/

def IPAddress.decodeIdentity : IPAddress → Identity
  | .nothing => .unknown
  | .ipv4Address buf => .ipv4 buf
  | .ipv6Address buf => .ipv6 buf

/-- Two decimal digits an octet, the low half first; `0xF` is a filler. -/
def decodeDigits (buf : List UInt8) : UInt64 :=
  buf.foldl
    (fun (number : UInt64) (byte : UInt8) =>
      let first := byte &&& 0xF
      let second := (byte >>> 4) &&& 0xF
      let number := if first ≠ 0xF then 10 * number + first.toUInt64 else number
      if second ≠ 0xF then 10 * number + second.toUInt64 else number)
    0

def SETId.decodeIdentity : SETId → Identity
  | .msisdn buf => .msisdn (decodeDigits buf)
  | .imsi buf => .imsi (decodeDigits buf)
  | .iPAddress address => address.decodeIdentity
  | .other => .unknown

def SLPAddress.decodeIdentity : SLPAddress → Identity
  | .fQDN buf => .fqdn buf
  | .iPAddress address => address.decodeIdentity

def UlpPdu.decodeSession (pdu : UlpPdu) : Option (SET × SLP) :=
  match pdu.setSessionID, pdu.slpSessionID with
  | some set, some slp =>
    some (⟨true, set.sessionId, set.setId.decodeIdentity⟩,
      ⟨true, slp.sessionID, slp.slpId.decodeIdentity⟩)
  | _, _ => none

structure Response where
  posMethod : ℤ
  deriving DecidableEq

def UlpPdu.decodeResponse (pdu : UlpPdu) : Option ((SET × SLP) × Response) :=
  match pdu.message with
  | .msSUPLRESPONSE posMethod => pdu.decodeSession.map fun s => (s, ⟨posMethod⟩)
  | _ => none

def UlpPdu.decodeEnd (pdu : UlpPdu) : Option (SET × SLP) :=
  match pdu.message with
  | .msSUPLEND => pdu.decodeSession
  | _ => none

def PosPayLoad.payloads : PosPayLoad → List Payload
  | .tia801payload data => [⟨.tia801, data⟩]
  | .rrcPayload data => [⟨.rrc, data⟩]
  | .rrlpPayload data => [⟨.rrlp, data⟩]
  | .ver2 lPPPayload tIA801Payload =>
    lPPPayload.map (⟨.lpp, ·⟩) ++ tIA801Payload.map (⟨.tia801, ·⟩)

def UlpPdu.decodePos (pdu : UlpPdu) : Option ((SET × SLP) × Pos) :=
  match pdu.message with
  | .msSUPLPOS posPayLoad => pdu.decodeSession.map fun s => (s, ⟨posPayLoad.payloads⟩)
  | _ => none

end SuplLpp.Supl
