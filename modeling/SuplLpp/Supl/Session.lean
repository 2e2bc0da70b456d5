import SuplLpp.Supl.Message
import SuplLpp.Lpp.Session

/-!
# `supl::Session`

The SUPL session on its TCP client: connecting, the receive buffer and the messages in it.

* `TcpClient`: what the network will do is a script, the bytes that come in and the outcome
  of every call, so any behaviour of the connection is some script;
* `Decoder`: the ASN.1 decoder of a `ULP_PDU`;
* `Session.api`: the session as `lpp::Session` uses it.

The receive buffer is the list of the bytes below `mReceiveBufferOffset`.  `handed` records
the messages that were taken out of it.
-/

namespace SuplLpp.Supl

open SuplLpp.Lpp (Pos Payload ConnectProgress Handshake Received SuplApi)

/-! ### The TCP client -/

inductive TcpState
  | disconnected
  | connecting
  | connected
  deriving DecidableEq

/-- The outcome of a read: up to so many bytes, with or without more plaintext that the TLS
backend holds already, or none. -/
inductive Read
  | ok (bytes : ℕ) (pending : Bool)
  | wouldBlock
  | closed
  | error
  deriving DecidableEq

/-- A TCP client and its script.  When a list of outcomes has ended, connections come up,
messages are sent and reads would block. -/
structure TcpClient where
  mState : TcpState
  mSocket : ℤ
  pending : Bool
  opens : Option ℤ
  progresses : List ConnectProgress
  sends : List Bool
  incoming : List UInt8
  reads : List Read
  deriving DecidableEq

namespace TcpClient

def isConnected (t : TcpClient) : Bool := t.mState = .connected

def isDisconnected (t : TcpClient) : Bool := t.mState = .disconnected

def connect (t : TcpClient) : TcpClient × Bool :=
  if !t.isDisconnected then (t, false)
  else
    match t.opens with
    | none => (t, false)
    | some fd => ({ t with mSocket := fd, mState := .connecting }, true)

def disconnect (t : TcpClient) : TcpClient := { t with mState := .disconnected }

def handleConnection (t : TcpClient) : TcpClient × ConnectProgress :=
  match t.mState with
  | .connected => (t, .done)
  | .disconnected => (t, .failed)
  | .connecting =>
    let t' := { t with progresses := t.progresses.tail }
    match t.progresses.head?.getD .done with
    | .done => ({ t' with mState := .connected }, .done)
    | .failed => (t'.disconnect, .failed)
    | r => (t', r)

/-- Whether the next message is encoded and sent whole. -/
def sendAll (t : TcpClient) : TcpClient × Bool :=
  ({ t with sends := t.sends.tail }, t.sends.head?.getD true)

/-- The bytes of a read into a buffer of `size` bytes, or the outcome of one that has none. -/
def receive (t : TcpClient) (size : ℕ) : TcpClient × Except Read (List UInt8) :=
  if !t.isConnected then (t, .error .error)
  else
    let t' := { t with reads := t.reads.tail, pending := false }
    match t.reads.head?.getD .wouldBlock with
    | .ok bytes pending =>
      let chunk := t.incoming.take (min bytes size)
      if chunk.isEmpty then (t', .error .wouldBlock)
      else
        ({ t' with incoming := t.incoming.drop (min bytes size), pending := pending }, .ok chunk)
    | r => (t', .error r)

def hasPendingData (t : TcpClient) : Bool := t.isConnected && t.pending

/-- A read leaves the connection as it is, and takes the bytes it yields from those to come. -/
theorem receive_kept (t : TcpClient) (size : ℕ) :
    (t.receive size).1.mState = t.mState ∧
      t.incoming = ((t.receive size).2.toOption.getD []) ++ (t.receive size).1.incoming := by
  unfold receive
  split_ifs
  · exact ⟨rfl, rfl⟩
  · dsimp only
    split
    · split_ifs
      · exact ⟨rfl, rfl⟩
      · exact ⟨rfl, (List.take_append_drop _ _).symm⟩
    · exact ⟨rfl, rfl⟩

end TcpClient

/-! ### The decoder -/

/-- The result of `uper_decode_complete`. -/
inductive Decoded
  | ok (pdu : UlpPdu) (consumed : ℕ)
  | wmore
  | fail (consumed : ℕ)
  deriving DecidableEq

/-- The ASN.1 decoder; a decoded message has at least one byte. -/
structure Decoder where
  decode : List UInt8 → Decoded
  consumed_pos : ∀ buffer pdu consumed, decode buffer = .ok pdu consumed → 0 < consumed

/-! ### The session -/

inductive State
  | unknown
  | connecting
  | connected
  | waitForHandshake
  | disconnected
  deriving DecidableEq

/-- `network` is the client that `connect` creates. -/
structure Session where
  mState : State
  mSETSession : SET
  mSLPSession : SLP
  mReceiveBuffer : List UInt8
  mReceiveBufferSize : ℕ
  mTcpClient : Option TcpClient
  network : TcpClient
  handed : List UlpPdu
  deriving DecidableEq

namespace Session

variable (decoder : Decoder)

def new (identity : Identity) (network : TcpClient) : Session where
  mState := .unknown
  mSETSession := ⟨true, 1024, identity⟩
  mSLPSession := ⟨false, [0, 0, 0, 0], .unknown⟩
  mReceiveBuffer := []
  mReceiveBufferSize := 65536
  mTcpClient := none
  network := network
  handed := []

def isConnected (s : Session) : Bool := s.mTcpClient.elim false TcpClient.isConnected

def isDisconnected (s : Session) : Bool := s.mState = .disconnected

def fd (s : Session) : ℤ := s.mTcpClient.elim (-1) TcpClient.mSocket

/-- The TCP client is there but its connection is not. -/
def lost (s : Session) : Bool := s.mTcpClient.elim true TcpClient.isDisconnected

/-- Changes the flags of the two sessions. -/
def setActive (s : Session) (set slp : Bool) : Session :=
  { s with
    mSETSession := { s.mSETSession with isActive := set }
    mSLPSession := { s.mSLPSession with isActive := slp } }

def connect (s : Session) : Session × Bool :=
  if s.mState ≠ .unknown then (s, false)
  else
    let r := s.network.connect
    if r.2 then ({ s with mTcpClient := some r.1, mState := .connecting }, true)
    else ({ s with mTcpClient := none }, false)

def handleConnection (s : Session) : Session × ConnectProgress :=
  if s.mState ≠ .connecting then (s, .failed)
  else
    match s.mTcpClient with
    | none => (s, .failed)
    | some client =>
      let r := client.handleConnection
      let s := { s with mTcpClient := some r.1 }
      match r.2 with
      | .done => ({ s with mState := .connected }.setActive true false, .done)
      | .wantRead => (s, .wantRead)
      | .wantWrite => (s, .wantWrite)
      | .failed => ({ s with mState := .disconnected }.setActive false false, .failed)

def disconnect (s : Session) : Session :=
  match s.mTcpClient with
  | none => s
  | some client => { s with mTcpClient := some client.disconnect }.setActive false false

/-- `send`, of any message. -/
def send (s : Session) : Session × Bool :=
  match s.mTcpClient with
  | none => (s, false)
  | some client =>
    if !client.isConnected then (s, false)
    else
      let r := client.sendAll
      ({ s with mTcpClient := some r.1 }, r.2)

def handshake (s : Session) : Session × Bool :=
  if s.mState ≠ .connected then (s, false)
  else
    let r := s.send
    if r.2 then ({ r.1 with mState := .waitForHandshake }, true) else (r.1, false)

/-! ### The receive buffer -/

def rbConsume (s : Session) (bytes : ℕ) : Session :=
  if bytes ≥ s.mReceiveBuffer.length then { s with mReceiveBuffer := [] }
  else { s with mReceiveBuffer := s.mReceiveBuffer.drop bytes }

def parseReceiveBuffer (s : Session) : Session × Option UlpPdu :=
  if s.mReceiveBuffer.length < 4 then (s, none)
  else
    match decoder.decode s.mReceiveBuffer with
    | .fail consumed => (s.rbConsume consumed, none)
    | .wmore => (s, none)
    | .ok pdu consumed =>
      ({ s.rbConsume consumed with handed := s.handed ++ [pdu] }, some pdu)

/-- The loop of `fill_receive_buffer`; every round but the last reads at least one byte. -/
def fill : ℕ → Session → Session × Bool
  | 0, s => (s, true)
  | fuel + 1, s =>
    let size := s.mReceiveBufferSize - s.mReceiveBuffer.length
    if size = 0 then (s, true)
    else
      match s.mTcpClient with
      | none => (s, false)
      | some client =>
        let r := client.receive size
        let s := { s with mTcpClient := some r.1 }
        match r.2 with
        | .ok chunk =>
          let s := { s with mReceiveBuffer := s.mReceiveBuffer ++ chunk }
          if r.1.hasPendingData then fill fuel s else (s, true)
        | .error .wouldBlock => (s, true)
        | .error _ => (s, false)

def fillReceiveBuffer (s : Session) : Session × Bool :=
  s.fill (s.mReceiveBufferSize - s.mReceiveBuffer.length + 1)

/-- `parse_message`; `response` and `pos` say which pointers are given, `end` always is. -/
def parseMessage (s : Session) (pdu : UlpPdu) (response pos : Bool) : Session × Received :=
  let check (ids : SET × SLP) (received : Received) : Session × Received :=
    if !ids.1.beq s.mSETSession then (s, .invalidSession)
    else if !s.mSLPSession.isActive then ({ s with mSLPSession := ids.2 }, received)
    else if !ids.2.beq s.mSLPSession then (s, .invalidSession)
    else (s, received)
  match (if response then pdu.decodeResponse else none) with
  | some (ids, _) => check ids .response
  | none =>
    match pdu.decodeEnd with
    | some ids => check ids .endSession
    | none =>
      match (if pos then pdu.decodePos else none) with
      | some (ids, message) => check ids (.pos message)
      | none => (s, .unknown)

def tryReceive (s : Session) (response pos : Bool) : Session × Received :=
  if !s.isConnected then (s, .sessionTerminated)
  else
    let r := s.parseReceiveBuffer decoder
    match r.2 with
    | none => (r.1, .noData)
    | some pdu => r.1.parseMessage pdu response pos

def handleHandshake (s : Session) : Session × Handshake :=
  if s.mState ≠ .waitForHandshake then (s, .error)
  else
    let r := s.fillReceiveBuffer
    if !r.2 then (r.1, .error)
    else
      let t := r.1.tryReceive decoder true false
      match t.2 with
      | .noData => (t.1, .noData)
      | .response => ({ t.1 with mState := .connected }, .ok)
      | _ => (t.1, .error)

/-! ### The session as `lpp::Session` uses it -/

/-- Looking at a message changes at most the SLP session. -/
theorem parseMessage_fst (s : Session) (pdu : UlpPdu) (response pos : Bool) :
    ∃ slp, (s.parseMessage pdu response pos).1 = { s with mSLPSession := slp } := by
  have hcheck : ∀ (ids : SET × SLP) (received : Received), ∃ slp,
      (if !ids.1.beq s.mSETSession then (s, .invalidSession)
        else if !s.mSLPSession.isActive then ({ s with mSLPSession := ids.2 }, received)
        else if !ids.2.beq s.mSLPSession then (s, .invalidSession)
        else (s, received) : Session × Received).1 = { s with mSLPSession := slp } := by
    intro ids received
    split_ifs
    · exact ⟨s.mSLPSession, rfl⟩
    · exact ⟨ids.2, rfl⟩
    · exact ⟨s.mSLPSession, rfl⟩
    · exact ⟨s.mSLPSession, rfl⟩
  unfold parseMessage
  dsimp only
  split
  · exact hcheck _ _
  · split
    · exact hcheck _ _
    · split
      · exact hcheck _ _
      · exact ⟨s.mSLPSession, rfl⟩

theorem parseMessage_buffer (s : Session) (pdu : UlpPdu) (response pos : Bool) :
    (s.parseMessage pdu response pos).1.mReceiveBuffer = s.mReceiveBuffer := by
  obtain ⟨slp, h⟩ := s.parseMessage_fst pdu response pos
  rw [h]

theorem fill_kept (fuel : ℕ) (s : Session) :
    (s.fill fuel).1.mSETSession = s.mSETSession ∧
      (s.fill fuel).1.isConnected = s.isConnected := by
  induction fuel generalizing s with
  | zero => exact ⟨rfl, rfl⟩
  | succ fuel ih =>
    unfold fill
    dsimp only
    split_ifs with hsize
    · exact ⟨rfl, rfl⟩
    · cases hclient : s.mTcpClient with
      | none => exact ⟨rfl, rfl⟩
      | some client =>
        have hsame : ∀ b, ({ s with
            mTcpClient := some (client.receive
              (s.mReceiveBufferSize - s.mReceiveBuffer.length)).1
            mReceiveBuffer := b } : Session).isConnected = s.isConnected := by
          intro b
          simp [isConnected, hclient, TcpClient.isConnected, client.receive_kept]
        dsimp only
        split
        · split_ifs
          · obtain ⟨hset, hconnected⟩ := ih _
            exact ⟨hset, hconnected.trans (hsame _)⟩
          · exact ⟨rfl, hsame _⟩
        · exact ⟨rfl, hsame _⟩
        · exact ⟨rfl, hsame _⟩

theorem fillReceiveBuffer_kept (s : Session) :
    s.fillReceiveBuffer.1.mSETSession = s.mSETSession ∧
      s.fillReceiveBuffer.1.isConnected = s.isConnected := fill_kept _ s

theorem rbConsume_eq (s : Session) (bytes : ℕ) :
    s.rbConsume bytes = { s with mReceiveBuffer := s.mReceiveBuffer.drop bytes } := by
  unfold rbConsume
  split_ifs with h
  · rw [List.drop_eq_nil_of_le h]
  · rfl

theorem rbConsume_lt {s : Session} {bytes : ℕ} (h : 0 < bytes) (hs : s.mReceiveBuffer ≠ []) :
    (s.rbConsume bytes).mReceiveBuffer.length < s.mReceiveBuffer.length := by
  have hpos : 0 < s.mReceiveBuffer.length := List.length_pos_iff.2 hs
  rw [rbConsume_eq, List.length_drop]
  omega

/-- A message that is handed out was in the buffer. -/
theorem tryReceive_lt (s : Session) (response pos : Bool)
    (h : (s.tryReceive decoder response pos).2.goesOn = true) :
    (s.tryReceive decoder response pos).1.mReceiveBuffer.length < s.mReceiveBuffer.length := by
  unfold tryReceive at h ⊢
  by_cases hc : (!s.isConnected) = true
  · rw [if_pos hc] at h
    cases h
  · rw [if_neg hc] at h ⊢
    unfold parseReceiveBuffer at h ⊢
    by_cases hlen : s.mReceiveBuffer.length < 4
    · rw [if_pos hlen] at h
      cases h
    · rw [if_neg hlen] at h ⊢
      have hne : s.mReceiveBuffer ≠ [] := by
        rintro hnil
        simp [hnil] at hlen
      cases hd : decoder.decode s.mReceiveBuffer with
      | fail consumed => simp [hd, Received.goesOn] at h
      | wmore => simp [hd, Received.goesOn] at h
      | ok pdu consumed =>
        simp only [parseMessage_buffer]
        exact rbConsume_lt (decoder.consumed_pos _ _ _ hd) hne

theorem send_buffer (s : Session) : s.send.1.mReceiveBuffer = s.mReceiveBuffer := by
  unfold send
  split
  · rfl
  · split <;> rfl

theorem disconnect_buffer (s : Session) : s.disconnect.mReceiveBuffer = s.mReceiveBuffer := by
  unfold disconnect
  split <;> rfl

def api : SuplApi Session where
  send s _ := s.send
  disconnect := disconnect
  connect := connect
  handleConnection := handleConnection
  handshake := handshake
  handleHandshake := handleHandshake decoder
  sendPosinit s _ := s.send
  fillReceiveBuffer := fillReceiveBuffer
  tryReceive s := s.tryReceive decoder false true
  fd := fd
  isDisconnected := isDisconnected
  lost := lost
  buffered s := s.mReceiveBuffer.length
  tryReceive_lt s h := tryReceive_lt decoder s false true h
  send_le s _ := (congrArg List.length (send_buffer s)).le
  disconnect_le s := (congrArg List.length (disconnect_buffer s)).le

end Session

end SuplLpp.Supl
