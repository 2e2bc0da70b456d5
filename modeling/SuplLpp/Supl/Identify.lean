import SuplLpp.Supl.Session

/-!
# The session identity check

`parse_message` compares the two session ids of a message, and the identities in them, with
those of the session.

* `Op`, `step`: the calls that are made of a session, each with the messages that
  `parse_message` is given during the call (`Examination`);
* `Agrees`: a message carries the ids and identities of the session;
* `Masquerades`: it does not, but the addresses of IP identities are all that differs;
* `identity_checked_iff`: the check is right in a run if and only if no message masquerades.
-/

namespace SuplLpp.Supl

open SuplLpp.Lpp (Handshake Received)

/-! ### The comparison -/

/-- Both are IP addresses of one version. -/
def Identity.SameVersion : Identity → Identity → Prop
  | .ipv4 _, .ipv4 _ => True
  | .ipv6 _, .ipv6 _ => True
  | _, _ => False

theorem Identity.beq_iff (a b : Identity) :
    a.beq b = true ↔ (a = b ∧ a ≠ .unknown) ∨ a.SameVersion b := by
  cases a <;> cases b <;> simp [beq, SameVersion]

/-- The ids of a message of one of the kinds that are looked for; an end always is. -/
def UlpPdu.ids (pdu : UlpPdu) (response pos : Bool) : Option (SET × SLP) :=
  match pdu.message with
  | .msSUPLRESPONSE _ => if response then pdu.decodeSession else none
  | .msSUPLEND => pdu.decodeSession
  | .msSUPLPOS _ => if pos then pdu.decodeSession else none
  | .other => none

theorem UlpPdu.decodeSession_isActive {pdu : UlpPdu} {ids : SET × SLP}
    (h : pdu.decodeSession = some ids) : ids.1.isActive = true ∧ ids.2.isActive = true := by
  unfold decodeSession at h
  split at h
  · obtain rfl := Option.some.inj h
    exact ⟨rfl, rfl⟩
  · cases h

theorem UlpPdu.ids_isActive {pdu : UlpPdu} {response pos : Bool} {ids : SET × SLP}
    (h : pdu.ids response pos = some ids) : ids.1.isActive = true ∧ ids.2.isActive = true := by
  unfold UlpPdu.ids at h
  split at h
  · split_ifs at h
    exact decodeSession_isActive h
  · exact decodeSession_isActive h
  · split_ifs at h
    exact decodeSession_isActive h
  · cases h

/-- The answer is that a message was received. -/
def Accepts : Received → Prop
  | .response | .endSession | .pos _ => True
  | _ => False

/-- A call of `parse_message`. -/
structure Examination where
  session : Session
  pdu : UlpPdu
  response : Bool
  pos : Bool

namespace Examination

def result (e : Examination) : Session × Received :=
  e.session.parseMessage e.pdu e.response e.pos

def ids (e : Examination) : Option (SET × SLP) := e.pdu.ids e.response e.pos

/-- The ids and identities are those of the session. -/
def Agrees (e : Examination) (ids : SET × SLP) : Prop :=
  ids.1.id = e.session.mSETSession.id ∧ ids.1.identity = e.session.mSETSession.identity ∧
    ids.2.id = e.session.mSLPSession.id ∧ ids.2.identity = e.session.mSLPSession.identity

/-- A message of the session is accepted only with the ids of the session; with any other ids
it is refused and changes nothing.  A message of no kind that is looked for is not accepted. -/
structure Checked (e : Examination) : Prop where
  accepted : Accepts e.result.2 → ∃ ids, e.ids = some ids ∧ e.Agrees ids
  refused : ∀ ids, e.ids = some ids → ¬e.Agrees ids → e.result = (e.session, .invalidSession)
  unsupported : e.ids = none → e.result = (e.session, .unknown)

/-- The ids are those of the session and the identities are known, and equal or IP addresses
of one version; but the addresses differ. -/
def Masquerades (e : Examination) : Prop :=
  ∃ ids, e.ids = some ids ∧ ¬e.Agrees ids ∧
    ids.1.id = e.session.mSETSession.id ∧ ids.2.id = e.session.mSLPSession.id ∧
    ((ids.1.identity = e.session.mSETSession.identity ∧ ids.1.identity ≠ .unknown) ∨
      ids.1.identity.SameVersion e.session.mSETSession.identity) ∧
    ((ids.2.identity = e.session.mSLPSession.identity ∧ ids.2.identity ≠ .unknown) ∨
      ids.2.identity.SameVersion e.session.mSLPSession.identity)

end Examination

/-! ### One call of `parse_message` -/

/-- In an active session a message is refused or changes nothing and is accepted. -/
theorem parseMessage_active {s : Session} (hslp : s.mSLPSession.isActive = true) (pdu : UlpPdu)
    (response pos : Bool) :
    match pdu.ids response pos with
    | none => s.parseMessage pdu response pos = (s, .unknown)
    | some ids =>
      if ids.1.beq s.mSETSession && ids.2.beq s.mSLPSession then
        ∃ received, Accepts received ∧ s.parseMessage pdu response pos = (s, received)
      else s.parseMessage pdu response pos = (s, .invalidSession) := by
  have hcheck : ∀ (ids : SET × SLP) (received : Received), Accepts received →
      if ids.1.beq s.mSETSession && ids.2.beq s.mSLPSession then
        ∃ r, Accepts r ∧ (if !ids.1.beq s.mSETSession then (s, .invalidSession)
          else if !s.mSLPSession.isActive then ({ s with mSLPSession := ids.2 }, received)
          else if !ids.2.beq s.mSLPSession then (s, .invalidSession)
          else (s, received) : Session × Received) = (s, r)
      else (if !ids.1.beq s.mSETSession then (s, .invalidSession)
          else if !s.mSLPSession.isActive then ({ s with mSLPSession := ids.2 }, received)
          else if !ids.2.beq s.mSLPSession then (s, .invalidSession)
          else (s, received) : Session × Received) = (s, .invalidSession) := by
    intro ids received hr
    rw [hslp]
    cases ids.1.beq s.mSETSession with
    | false => simp
    | true =>
      cases ids.2.beq s.mSLPSession with
      | false => simp
      | true => exact ⟨received, hr, by simp⟩
  unfold Session.parseMessage UlpPdu.ids UlpPdu.decodeResponse UlpPdu.decodeEnd UlpPdu.decodePos
  -- one case for each kind of message, and for whether it is looked for
  cases pdu.message with
  | msSUPLRESPONSE posMethod =>
    cases response with
    | false => simp
    | true =>
      cases pdu.decodeSession with
      | none => simp
      | some ids => exact hcheck ids .response trivial
  | msSUPLEND =>
    cases hids : pdu.decodeSession with
    | none => cases response <;> simp
    | some ids => cases response <;> exact hcheck ids .endSession trivial
  | msSUPLPOS posPayLoad =>
    cases pos with
    | false => cases response <;> simp
    | true =>
      cases pdu.decodeSession with
      | none => cases response <;> simp
      | some ids => cases response <;> exact hcheck ids (.pos ⟨posPayLoad.payloads⟩) trivial
  | other => cases response <;> cases pos <;> simp

namespace Examination

/-- **One call.**  In an active session the check of a message is right if and only if the
message does not masquerade. -/
theorem checked_iff {e : Examination} (hset : e.session.mSETSession.isActive = true)
    (hslp : e.session.mSLPSession.isActive = true) : e.Checked ↔ ¬e.Masquerades := by
  have hspec := parseMessage_active hslp e.pdu e.response e.pos
  cases hids : e.pdu.ids e.response e.pos with
  | none =>
    rw [hids] at hspec
    have hnone : ¬e.Masquerades := by
      rintro ⟨ids, h, -⟩
      rw [Examination.ids, hids] at h
      cases h
    refine iff_of_true ⟨?_, ?_, fun _ => hspec⟩ hnone
    · rw [result, hspec]
      exact False.elim
    · intro ids h
      rw [Examination.ids, hids] at h
      cases h
  | some ids =>
    rw [hids] at hspec
    dsimp only at hspec
    have hsome : e.ids = some ids := hids
    obtain ⟨hset', hslp'⟩ := UlpPdu.ids_isActive hids
    have hbeq : (ids.1.beq e.session.mSETSession && ids.2.beq e.session.mSLPSession) = true ↔
        ids.1.id = e.session.mSETSession.id ∧ ids.2.id = e.session.mSLPSession.id ∧
        ((ids.1.identity = e.session.mSETSession.identity ∧ ids.1.identity ≠ .unknown) ∨
          ids.1.identity.SameVersion e.session.mSETSession.identity) ∧
        ((ids.2.identity = e.session.mSLPSession.identity ∧ ids.2.identity ≠ .unknown) ∨
          ids.2.identity.SameVersion e.session.mSLPSession.identity) := by
      simp only [SET.beq, SLP.beq, hset, hslp, hset', hslp', Bool.and_eq_true,
        decide_eq_true_eq, ← Identity.beq_iff, and_true]
      tauto
    by_cases hagrees : e.Agrees ids
    · -- the session's own ids: the answer cannot be wrong
      have hnot : ¬e.Masquerades := by
        rintro ⟨ids', h, hnot, -⟩
        rw [hsome] at h
        exact hnot (Option.some.inj h ▸ hagrees)
      refine iff_of_true ⟨fun _ => ⟨ids, hsome, hagrees⟩, ?_, ?_⟩ hnot
      · intro ids' h hnot
        rw [hsome] at h
        exact absurd (Option.some.inj h ▸ hagrees) hnot
      · intro h
        rw [hsome] at h
        cases h
    · by_cases hb : (ids.1.beq e.session.mSETSession && ids.2.beq e.session.mSLPSession) = true
      · -- other ids that the comparison takes for the session's
        rw [if_pos hb] at hspec
        obtain ⟨received, haccepts, hresult⟩ := hspec
        refine iff_of_false ?_ (not_not_intro ⟨ids, hsome, hagrees, hbeq.1 hb⟩)
        intro hchecked
        obtain ⟨ids', h, hagrees'⟩ := hchecked.accepted (by rw [result, hresult]; exact haccepts)
        rw [hsome] at h
        exact hagrees (Option.some.inj h ▸ hagrees')
      · rw [if_neg hb] at hspec
        have hnot : ¬e.Masquerades := by
          rintro ⟨ids', h, -, hrest⟩
          rw [hsome] at h
          obtain rfl := Option.some.inj h
          exact hb (hbeq.2 hrest)
        refine iff_of_true ⟨?_, fun _ _ _ => hspec, ?_⟩ hnot
        · rw [result, hspec]
          exact False.elim
        · intro h
          rw [hsome] at h
          cases h

end Examination

/-! ### Runs -/

/-- The calls that are made of a session. -/
inductive Op
  | connect
  | handleConnection
  | handshake
  | handleHandshake
  | send
  | fillReceiveBuffer
  | tryReceive (response pos : Bool)
  | disconnect

namespace Session

variable (decoder : Decoder)

/-- The call of `parse_message` that `try_receive` makes. -/
def examines (s : Session) (response pos : Bool) : List Examination :=
  if !s.isConnected then []
  else
    let r := s.parseReceiveBuffer decoder
    match r.2 with
    | none => []
    | some pdu => [⟨r.1, pdu, response, pos⟩]

/-- A call, and the calls of `parse_message` that it makes. -/
def step (s : Session) : Op → Session × List Examination
  | .connect => (s.connect.1, [])
  | .handleConnection => (s.handleConnection.1, [])
  | .handshake => (s.handshake.1, [])
  | .handleHandshake =>
    ((s.handleHandshake decoder).1,
      if s.mState ≠ .waitForHandshake then []
      else
        let r := s.fillReceiveBuffer
        if !r.2 then [] else r.1.examines decoder true false)
  | .send => (s.send.1, [])
  | .fillReceiveBuffer => (s.fillReceiveBuffer.1, [])
  | .tryReceive response pos =>
    ((s.tryReceive decoder response pos).1, s.examines decoder response pos)
  | .disconnect => (s.disconnect, [])

/-- `try_receive` answers what `parse_message` answers. -/
theorem tryReceive_of_examines {s : Session} {response pos : Bool} {e : Examination}
    (h : e ∈ s.examines decoder response pos) :
    s.tryReceive decoder response pos = e.result := by
  unfold examines at h
  unfold tryReceive
  cases hc : s.isConnected with
  | false => simp [hc] at h
  | true =>
    simp only [hc, Bool.not_true, Bool.false_eq_true, if_false] at h ⊢
    cases hr : (s.parseReceiveBuffer decoder).2 with
    | none => simp [hr] at h
    | some pdu =>
      rw [hr] at h
      obtain rfl := List.mem_singleton.1 h
      rfl

/-! ### The SET session of a connected session is active -/

/-- While the connection is up the SET session is active. -/
def Attended (s : Session) : Prop := s.isConnected = true → s.mSETSession.isActive = true

variable {decoder}

theorem Attended.of_eq {s s' : Session} (h : s.Attended) (hset : s'.mSETSession = s.mSETSession)
    (hconnected : s'.isConnected = true → s.isConnected = true) : s'.Attended := by
  intro hc
  rw [hset]
  exact h (hconnected hc)

variable (decoder) in
theorem parseReceiveBuffer_kept (s : Session) :
    (s.parseReceiveBuffer decoder).1.mSETSession = s.mSETSession ∧
      (s.parseReceiveBuffer decoder).1.mTcpClient = s.mTcpClient := by
  unfold parseReceiveBuffer
  split_ifs
  · exact ⟨rfl, rfl⟩
  · split <;> simp only [rbConsume_eq, and_self]

variable (decoder) in
theorem tryReceive_kept (s : Session) (response pos : Bool) :
    (s.tryReceive decoder response pos).1.mSETSession = s.mSETSession ∧
      (s.tryReceive decoder response pos).1.mTcpClient = s.mTcpClient := by
  obtain ⟨hset, hclient⟩ := parseReceiveBuffer_kept decoder s
  unfold tryReceive
  split_ifs
  · exact ⟨rfl, rfl⟩
  · dsimp only
    split
    · exact ⟨hset, hclient⟩
    · rename_i pdu _
      obtain ⟨slp, h⟩ := (s.parseReceiveBuffer decoder).1.parseMessage_fst pdu response pos
      rw [h]
      exact ⟨hset, hclient⟩

theorem send_kept (s : Session) :
    s.send.1.mSETSession = s.mSETSession ∧ s.send.1.isConnected = s.isConnected := by
  unfold send
  cases hclient : s.mTcpClient with
  | none => exact ⟨rfl, rfl⟩
  | some client =>
    dsimp only
    split_ifs
    · exact ⟨rfl, rfl⟩
    · exact ⟨rfl, by simp [isConnected, hclient, TcpClient.isConnected, TcpClient.sendAll]⟩

theorem Attended.connect {s : Session} (h : s.Attended) : s.connect.1.Attended := by
  -- the client of a connection that was just opened is not connected yet
  have hopen : s.network.connect.2 = true → s.network.connect.1.isConnected = false := by
    unfold TcpClient.connect
    split_ifs
    · simp
    · split <;> simp [TcpClient.isConnected]
  unfold Session.connect
  dsimp only
  split_ifs with hstate hconnect
  · exact h
  · intro hc
    rw [show Session.isConnected _ = s.network.connect.1.isConnected from rfl,
      hopen hconnect] at hc
    cases hc
  · intro hc
    cases hc

theorem Attended.handleConnection {s : Session} (h : s.Attended) :
    s.handleConnection.1.Attended := by
  unfold Session.handleConnection
  split_ifs with hstate
  · exact h
  · cases hclient : s.mTcpClient with
    | none => exact h
    | some client =>
      have hwait : client.handleConnection.2 ≠ .done →
          client.handleConnection.1.isConnected = false := by
        unfold TcpClient.handleConnection
        split
        · simp
        · simp [TcpClient.isConnected, *]
        · dsimp only
          split <;> simp [TcpClient.isConnected, TcpClient.disconnect, *]
      dsimp only
      split
      · exact fun _ => rfl
      all_goals
        intro hc
        rename_i hr
        rw [show Session.isConnected _ = client.handleConnection.1.isConnected from rfl,
          hwait (by rw [hr]; decide)] at hc
        cases hc

theorem Attended.disconnect {s : Session} (h : s.Attended) : s.disconnect.Attended := by
  unfold Session.disconnect
  cases hclient : s.mTcpClient with
  | none => exact h
  | some client =>
    intro hc
    cases hc

theorem Attended.step {s : Session} (h : s.Attended) (op : Op) :
    (s.step decoder op).1.Attended := by
  have hfill : ∀ {s : Session}, s.Attended → s.fillReceiveBuffer.1.Attended := by
    intro s hs
    obtain ⟨hset, hconnected⟩ := fillReceiveBuffer_kept s
    exact hs.of_eq hset fun hc => hconnected ▸ hc
  have hsend : ∀ {s : Session}, s.Attended → s.send.1.Attended := by
    intro s hs
    obtain ⟨hset, hconnected⟩ := send_kept s
    exact hs.of_eq hset fun hc => hconnected ▸ hc
  have hreceive : ∀ {s : Session} (response pos : Bool), s.Attended →
      (s.tryReceive decoder response pos).1.Attended := by
    intro s response pos hs
    obtain ⟨hset, hclient⟩ := tryReceive_kept decoder s response pos
    refine hs.of_eq hset fun hc => ?_
    rw [isConnected, hclient] at hc
    exact hc
  cases op with
  | connect => exact h.connect
  | handleConnection => exact h.handleConnection
  | handshake =>
    show s.handshake.1.Attended
    unfold Session.handshake
    dsimp only
    split_ifs
    · exact h
    · exact (hsend h).of_eq rfl id
    · exact hsend h
  | handleHandshake =>
    show (s.handleHandshake decoder).1.Attended
    unfold Session.handleHandshake
    dsimp only
    split_ifs
    · exact h
    · exact hfill h
    · split
      · exact hreceive true false (hfill h)
      · exact (hreceive true false (hfill h)).of_eq rfl id
      · exact hreceive true false (hfill h)
  | send => exact hsend h
  | fillReceiveBuffer => exact hfill h
  | tryReceive response pos => exact hreceive response pos h
  | disconnect => exact h.disconnect

theorem attended_new (identity : Identity) (network : TcpClient) :
    (new identity network).Attended := fun _ => rfl

/-- The SET session is active whenever `parse_message` is called. -/
theorem Attended.examines {s : Session} (h : s.Attended) {response pos : Bool} {e : Examination}
    (he : e ∈ s.examines decoder response pos) : e.session.mSETSession.isActive = true := by
  unfold Session.examines at he
  cases hc : s.isConnected with
  | false => simp [hc] at he
  | true =>
    simp only [hc, Bool.not_true, Bool.false_eq_true, if_false] at he
    split at he
    · cases he
    · obtain rfl := List.mem_singleton.1 he
      rw [(parseReceiveBuffer_kept decoder s).1]
      exact h hc

theorem Attended.examination {s : Session} (h : s.Attended) {op : Op} {e : Examination}
    (he : e ∈ (s.step decoder op).2) : e.session.mSETSession.isActive = true := by
  cases op with
  | handleHandshake =>
    simp only [Session.step] at he
    split_ifs at he
    · cases he
    · cases he
    · obtain ⟨hset, hconnected⟩ := fillReceiveBuffer_kept s
      exact (h.of_eq hset fun hc => hconnected ▸ hc).examines he
  | tryReceive response pos => exact h.examines he
  | _ => cases he

end Session

/-! ### Whole runs -/

/-- **The session identity check.**  In a run of a session, every message that is examined
while the SLP session is active is accepted only with the ids and identities of the session,
and refused without an effect when one of them differs, if and only if none of these messages
masquerades. -/
theorem identity_checked_iff (decoder : Decoder) (identity : Identity) (network : TcpClient)
    (ops : List Op) :
    (∀ e ∈ (Mealy.run (Session.step decoder) (Session.new identity network) ops).2,
        e.session.mSLPSession.isActive = true → e.Checked) ↔
      Mealy.Along
        (fun s _ op => ∀ e ∈ (s.step decoder op).2,
          e.session.mSLPSession.isActive = true → ¬e.Masquerades)
        (Session.step decoder) (Session.new identity network) [] ops := by
  refine Mealy.outputs_iff_along (P := Session.Attended) (fun s op h => h.step op) ?_
    (Session.attended_new identity network) [] ops
  intro s op h
  constructor
  · intro hall e he hslp
    exact (Examination.checked_iff (h.examination he) hslp).1 (hall e he hslp)
  · intro hall e he hslp
    exact (Examination.checked_iff (h.examination he) hslp).2 (hall e he hslp)

/-! ### A message of a foreign session -/

/-- Two messages of a session with an IPv4 identity: a response, and an end that names
another address. -/
def foreignPdu (address : List UInt8) (message : UlpMessage) : UlpPdu where
  setSessionID := some ⟨1024, .iPAddress (.ipv4Address address)⟩
  slpSessionID := some ⟨[0, 0, 0, 1], .fQDN [115, 108, 112]⟩
  message := message

def foreignDecode : List UInt8 → Decoded
  | 0 :: 4 :: 0 :: 1 :: _ => .ok (foreignPdu [192, 168, 0, 1] (.msSUPLRESPONSE 0)) 4
  | 0 :: 4 :: 0 :: 2 :: _ => .ok (foreignPdu [10, 0, 0, 9] .msSUPLEND) 4
  | _ => .wmore

def foreignDecoder : Decoder where
  decode := foreignDecode
  consumed_pos := by
    intro buffer pdu consumed h
    unfold foreignDecode at h
    split at h
    · cases h
      decide
    · cases h
      decide
    · cases h

/-- The session of 192.168.0.1 accepts the end of the session of 10.0.0.9. -/
theorem foreign_end_accepted :
    ¬∀ (decoder : Decoder) (identity : Identity) (network : TcpClient) (ops : List Op),
      ∀ e ∈ (Mealy.run (Session.step decoder) (Session.new identity network) ops).2,
        e.session.mSLPSession.isActive = true → e.Checked := by
  intro hall
  have hchecked := hall foreignDecoder (.ipv4 [192, 168, 0, 1])
    ⟨.disconnected, -1, false, some 5, [], [], [0, 4, 0, 1, 0, 4, 0, 2], [.ok 8 false]⟩
    [.connect, .handleConnection, .handshake, .handleHandshake, .tryReceive false true]
  let e : Examination :=
    ⟨⟨.connected, ⟨true, 1024, .ipv4 [192, 168, 0, 1]⟩,
        ⟨true, [0, 0, 0, 1], .fqdn [115, 108, 112]⟩, [], 65536,
        some ⟨.connected, 5, false, some 5, [], [], [], []⟩,
        ⟨.disconnected, -1, false, some 5, [], [], [0, 4, 0, 1, 0, 4, 0, 2], [.ok 8 false]⟩,
        [foreignPdu [192, 168, 0, 1] (.msSUPLRESPONSE 0), foreignPdu [10, 0, 0, 9] .msSUPLEND]⟩,
      foreignPdu [10, 0, 0, 9] .msSUPLEND, false, true⟩
  have he := hchecked e (List.mem_of_mem_getLast? (by rfl)) rfl
  obtain ⟨ids, hids, -, hidentity, -⟩ := he.accepted trivial
  obtain rfl := Option.some.inj hids
  exact absurd hidentity (by decide)

end SuplLpp.Supl
