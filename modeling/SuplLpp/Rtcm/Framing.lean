import SuplLpp.Rtcm.Generator

/-!
# Any bytes over RTCM

What `generateFraming` sends, against what a receiver needs to put the bytes together again.

* `requestedNumber`, `multipleMessage`: the fields of the three bytes in front of a piece;
* `framingPayloads`, the payloads of the messages, and `framingPayload_bits`;
* `Reassembles`: the payloads give the bytes back, and announce what comes after them;
* `framed_iff`: this and the reported numbers are right exactly when the number that is asked for
  is the number that every message reports.
-/

namespace SuplLpp.Rtcm

open Bits

/-- The number that is asked for; one that does not fit twelve bits is replaced. -/
def requestedNumber (messageId : ℤ) : ℕ :=
  if 0 ≤ messageId ∧ messageId ≤ 4095 then messageId.toNat else 355

/-- The multiple-message bit, behind the number and the subtype. -/
def multipleMessage (payload : List UInt8) : Bool := (bytesBits payload).getD 16 false

/-- The payloads give the bytes back: every one has a header of three bytes and at most 1023
bytes, carries the number, and says whether another one follows. -/
structure Reassembles (number' : ℕ) (lppData : List UInt8) (payloads : List (List UInt8)) :
    Prop where
  data_eq : payloads.flatMap (·.drop 3) = lppData
  length_le : ∀ payload ∈ payloads, payload.length ≤ 1023
  number_eq : ∀ payload ∈ payloads, number payload = number'
  multiple : ∀ before payload after, payloads = before ++ payload :: after →
    (multipleMessage payload = true ↔ after ≠ [])

/-- The messages are frames of such payloads, and report the number that these carry. -/
def Framed (messageId : ℤ) (lppData : List UInt8) (messages : List Message) : Prop :=
  ∃ payloads, Reassembles (requestedNumber messageId) lppData payloads ∧
    List.Forall₂ (fun payload (message : Message) => IsFrame payload message.data) payloads
      messages ∧
    ∀ message ∈ messages, message.id.toNat = requestedNumber messageId

/-! ### One payload -/

theorem framingPayload_bits (messageId : ℤ) (multipleMessageBit : Bool) (lppData : List UInt8) :
    bytesBits (framingPayload messageId multipleMessageBit lppData).mBuffer =
      ofNat 12 (requestedNumber messageId) ++ ofNat 4 0 ++ [multipleMessageBit] ++ ofNat 7 0 ++
        bytesBits lppData := by
  set number' := if messageId < 0 ∨ messageId > 4095 then 355 else messageId with hnumber
  have hcast : (UInt16.ofInt number').toNat = requestedNumber messageId := by
    rw [UInt16.ofInt, UInt16.toNat_ofNat', hnumber, requestedNumber]
    split_ifs <;> omega
  have h1 := (Encoder.emits_u16 (show 12 ≤ 16 by omega) (UInt16.ofInt number')).new
  have h2 := Encoder.emits_u8 (show 4 ≤ 8 by omega) 0 _ _ h1
  have h3 := Encoder.emits_u8 (show 1 ≤ 8 by omega) (if multipleMessageBit then 1 else 0) _ _ h2
  have h4 := Encoder.emits_u8 (show 7 ≤ 8 by omega) 0 _ _ h3
  have h5 := (h4.copy (by simp) lppData).bytes
  have hflag : ofNat 1 (if multipleMessageBit then (1 : UInt8) else 0).toNat =
      [multipleMessageBit] := by
    cases multipleMessageBit <;> rfl
  have hzero : (0 : UInt8).toNat = 0 := rfl
  rw [hcast, hflag, hzero] at h5
  rw [framingPayload, ← hnumber, h5]
  simp only [List.length_append, length_ofNat, length_bytesBits, List.length_cons,
    List.length_nil, List.append_assoc]
  have hpad : (8 - (12 + (4 + (0 + 1 + (7 + 8 * lppData.length)))) % 8) % 8 = 0 := by omega
  simp [hpad]

/-- The three bytes of the header, and the piece behind them. -/
theorem framingPayload_bytes (messageId : ℤ) (multipleMessageBit : Bool) (lppData : List UInt8) :
    (framingPayload messageId multipleMessageBit lppData).mBuffer.length = lppData.length + 3 ∧
      (framingPayload messageId multipleMessageBit lppData).mBuffer.drop 3 = lppData ∧
      number (framingPayload messageId multipleMessageBit lppData).mBuffer =
        requestedNumber messageId ∧
      multipleMessage (framingPayload messageId multipleMessageBit lppData).mBuffer =
        multipleMessageBit := by
  have hbits := framingPayload_bits messageId multipleMessageBit lppData
  generalize (framingPayload messageId multipleMessageBit lppData).mBuffer = payload at hbits ⊢
  have hlength : payload.length = lppData.length + 3 := by
    have := congrArg List.length hbits
    simp only [List.length_append, length_ofNat, length_bytesBits, List.length_cons,
      List.length_nil] at this
    omega
  refine ⟨hlength, ?_, ?_, ?_⟩
  · apply bytesBits_injective
    have hsplit : bytesBits (payload.take 3) ++ bytesBits (payload.drop 3) = bytesBits payload := by
      rw [← bytesBits_append, List.take_append_drop]
    rw [hbits] at hsplit
    refine (List.append_inj hsplit ?_).2
    simp only [List.length_append, length_ofNat, length_bytesBits, List.length_cons,
      List.length_nil, List.length_take]
    omega
  · have hlt : requestedNumber messageId < 2 ^ 12 := by
      unfold requestedNumber
      split_ifs <;> omega
    rw [number, hbits, List.append_assoc, List.append_assoc, List.append_assoc,
      List.take_left' (length_ofNat ..), toNat_ofNat, Nat.mod_eq_of_lt hlt]
  · have hfront : (ofNat 12 (requestedNumber messageId) ++ ofNat 4 0).length = 16 := by simp
    rw [multipleMessage, hbits, List.append_assoc, List.append_assoc,
      List.getD_append_right _ _ _ _ (by omega), hfront]
    rfl

theorem generateFramingMessage_data (messageId : ℤ) (multipleMessageBit : Bool)
    (lppData : List UInt8) : (generateFramingMessage messageId multipleMessageBit lppData).data =
      frame (framingPayload messageId multipleMessageBit lppData) := by
  rw [generateFramingMessage]

theorem generateFramingMessage_isFrame (messageId : ℤ) (multipleMessageBit : Bool)
    {lppData : List UInt8} (hlen : lppData.length ≤ 1020) :
    IsFrame (framingPayload messageId multipleMessageBit lppData).mBuffer
      (generateFramingMessage messageId multipleMessageBit lppData).data := by
  have hlength := (framingPayload_bytes messageId multipleMessageBit lppData).1
  have hle : (framingPayload messageId multipleMessageBit lppData).byteCount ≤ 1023 := by
    rw [Encoder.byteCount, hlength]
    omega
  rw [generateFramingMessage_data]
  exact frame_isFrame hle

/-! ### All payloads -/

/-- The payloads of the messages of `generateFraming`. -/
def framingPayloads (messageId : ℤ) (lppData : List UInt8) : List (List UInt8) :=
  if _h : lppData = [] then []
  else
    let length := min lppData.length 1020
    (framingPayload messageId (decide (lppData.length > length)) (lppData.take length)).mBuffer ::
      framingPayloads messageId (lppData.drop length)
termination_by lppData.length
decreasing_by
  have := List.length_pos_of_ne_nil _h
  rw [List.length_drop]
  omega

theorem framingPayloads_eq_nil (messageId : ℤ) (lppData : List UInt8) :
    framingPayloads messageId lppData = [] ↔ lppData = [] := by
  rw [framingPayloads]
  split_ifs with h <;> simp [h]

/-- What is sent can be put together again. -/
theorem framingPayloads_reassembles (messageId : ℤ) (lppData : List UInt8) :
    Reassembles (requestedNumber messageId) lppData (framingPayloads messageId lppData) := by
  induction hn : lppData.length using Nat.strong_induction_on generalizing lppData with
  | _ n ih =>
    rw [framingPayloads]
    by_cases hempty : lppData = []
    · rw [dif_pos hempty]
      exact ⟨by simp [hempty], by simp, by simp, by simp⟩
    · have hpos := List.length_pos_of_ne_nil hempty
      have hrest := ih (lppData.drop (min lppData.length 1020)).length
        (by rw [List.length_drop]; omega) _ rfl
      obtain ⟨hlength, hdrop, hnumber, hmultiple⟩ := framingPayload_bytes messageId
        (decide (lppData.length > min lppData.length 1020))
        (lppData.take (min lppData.length 1020))
      rw [dif_neg hempty]
      dsimp only
      generalize (framingPayload messageId (decide (lppData.length > min lppData.length 1020))
        (lppData.take (min lppData.length 1020))).mBuffer = payload at *
      have hmore : multipleMessage payload = true ↔
          framingPayloads messageId (lppData.drop (min lppData.length 1020)) ≠ [] := by
        rw [hmultiple, decide_eq_true_iff, ne_eq, framingPayloads_eq_nil, List.drop_eq_nil_iff]
        omega
      constructor
      · rw [List.flatMap_cons, hdrop, hrest.data_eq, List.take_append_drop]
      · rw [List.forall_mem_cons]
        refine ⟨?_, hrest.length_le⟩
        rw [hlength, List.length_take]
        omega
      · rw [List.forall_mem_cons]
        exact ⟨hnumber, hrest.number_eq⟩
      · intro before payload' after heq
        cases before with
        | nil =>
          rw [List.nil_append, List.cons.injEq] at heq
          rw [← heq.1, ← heq.2]
          exact hmore
        | cons first before =>
          rw [List.cons_append, List.cons.injEq] at heq
          exact hrest.multiple before payload' after heq.2

/-- The messages are the frames of these payloads. -/
theorem generateFraming_frames (messageId : ℤ) (lppData : List UInt8) :
    List.Forall₂ (fun payload (message : Message) => IsFrame payload message.data)
        (framingPayloads messageId lppData) (generateFraming messageId lppData) ∧
      ∀ message ∈ generateFraming messageId lppData, message.id = 355 := by
  induction hn : lppData.length using Nat.strong_induction_on generalizing lppData with
  | _ n ih =>
    rw [framingPayloads, generateFraming]
    by_cases hempty : lppData = []
    · rw [dif_pos hempty, dif_pos hempty]
      exact ⟨List.Forall₂.nil, by simp⟩
    · have hpos := List.length_pos_of_ne_nil hempty
      obtain ⟨hframes, hids⟩ := ih (lppData.drop (min lppData.length 1020)).length
        (by rw [List.length_drop]; omega) _ rfl
      have hframe := generateFramingMessage_isFrame messageId
        (decide (lppData.length > min lppData.length 1020))
        (show (lppData.take (min lppData.length 1020)).length ≤ 1020 by
          rw [List.length_take]
          omega)
      rw [dif_neg hempty, dif_neg hempty]
      constructor
      · exact List.Forall₂.cons hframe hframes
      · rw [List.forall_mem_cons]
        exact ⟨rfl, hids⟩

/-- **Framing.**  The bytes can always be put together again, and the payloads carry the number
that is asked for; the messages report that number exactly when it is the one that they all
report, or there are no messages. -/
theorem framed_iff (messageId : ℤ) (lppData : List UInt8) :
    Framed messageId lppData (generateFraming messageId lppData) ↔
      lppData = [] ∨ messageId = 355 ∨ messageId < 0 ∨ 4095 < messageId := by
  have hrequested : requestedNumber messageId = 355 ↔
      messageId = 355 ∨ messageId < 0 ∨ 4095 < messageId := by
    unfold requestedNumber
    split_ifs <;> omega
  obtain ⟨hframes, hids⟩ := generateFraming_frames messageId lppData
  rw [← hrequested]
  constructor
  · rintro ⟨payloads, -, -, hreported⟩
    by_cases hempty : lppData = []
    · exact Or.inl hempty
    · have hsent : generateFraming messageId lppData ≠ [] := by
        intro hnone
        rw [hnone, List.forall₂_nil_right_iff, framingPayloads_eq_nil] at hframes
        exact hempty hframes
      obtain ⟨message, hmessage⟩ := List.exists_mem_of_ne_nil _ hsent
      have hid := hreported message hmessage
      rw [hids message hmessage] at hid
      exact Or.inr hid.symm
  · intro h
    refine ⟨framingPayloads messageId lppData, framingPayloads_reassembles messageId lppData,
      hframes, fun message hmessage => ?_⟩
    have hnumber := h.resolve_left (by
      rintro rfl
      rw [generateFraming, dif_pos rfl] at hmessage
      cases hmessage)
    rw [hids message hmessage, hnumber]
    rfl

/-- A message that is asked for with number 100 reports 355. -/
theorem not_framed_100 : ¬ Framed 100 [0] (generateFraming 100 [0]) := by
  rintro ⟨payloads, -, -, hreported⟩
  have hsent : generateFraming 100 [0] = [generateFramingMessage 100 false [0]] := by
    rw [generateFraming, dif_neg (by decide)]
    change generateFramingMessage 100 false [0] :: generateFraming 100 [] = _
    rw [generateFraming, dif_pos rfl]
  rw [hsent] at hreported
  exact absurd (hreported _ (List.mem_singleton_self _)) (by decide)

end SuplLpp.Rtcm
