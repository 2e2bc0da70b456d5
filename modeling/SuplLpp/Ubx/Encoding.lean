import SuplLpp.Ubx.Parser

/-!
# The frames that are sent to a receiver

UBX-CFG-VALSET sets one item, UBX-CFG-VALGET asks for the values of some keys.

* `CfgValset.set` and `CfgValget.poll`, over the encoder;
* `Writes`, `writeFrame_eq`: what a series of encoder calls leaves in the buffer;
* `isFrame_frameBytes`, `tryParse_frame`: a frame that was written is a frame, and the parser
  takes exactly this frame out of its buffer;
* `encoders_round_trip`: both encoders, and the keys and values that the decoder reads back.
-/

namespace SuplLpp.Ubx

open Helper LittleEndian

/-! ### The encoders -/

def CfgValue.size (value : CfgValue) : ℕ := sizeFromType value.type

/-- `serialize`; the unknown type is `UNREACHABLE()` and writes nothing. -/
def CfgValue.serialize (value : CfgValue) (e : Encoder) : Encoder :=
  match value with
  | .unknown => e
  | .l value => e.logical value
  | .u1 value => e.u1 value
  | .u2 value => e.u2 value
  | .u4 value => e.u4 value
  | .u8 value => e.u8 value

/-- The common form of the two encoders, and the number of bytes between the pointers. -/
def writeFrame (e : Encoder) (messageClass messageId : UInt8) (payloadSize : UInt16)
    (payload : Encoder → Encoder) : Encoder × ℕ :=
  let start := e.written.length
  let e := (e.u1 0xB5).u1 0x62
  let checksumBegin := e.written.length
  let e := ((e.u1 messageClass).u1 messageId).u2 payloadSize
  let e := payload e
  let e := e.u2 (checksum (e.written.drop checksumBegin))
  (e, e.written.length - start)

def CfgValset.set (e : Encoder) (layers : UInt8) (key : CfgKey) (value : CfgValue) :
    Encoder × ℕ :=
  let expectedType := typeFromKey key
  if value.type ≠ expectedType ∨ value.type = .unknown then (e, 0)
  else
    let payloadSize : UInt16 := 4 + 4 + value.size.toUInt16
    writeFrame e 0x06 0x8A payloadSize fun e =>
      value.serialize ((((e.u1 0).u1 layers).u2 0).u4 key)

/-- Only one layer can be polled. -/
def polledLayer (layer : UInt8) : UInt8 :=
  if layer &&& 0x01 ≠ 0 then 0
  else if layer &&& 0x02 ≠ 0 then 1
  else if layer &&& 0x04 ≠ 0 then 2
  else 0

/-- `none` is the assertion on the number of keys. -/
def CfgValget.poll (e : Encoder) (layer : UInt8) (position : UInt16) (keys : List CfgKey) :
    Option (Encoder × ℕ) :=
  if keys.length ≤ 0xFF then
    let payloadSize : UInt16 := 4 + 4 * keys.length.toUInt16
    some (writeFrame e 0x06 0x8B payloadSize fun e =>
      keys.foldl (fun e key => e.u4 key) (((e.u1 0).u1 (polledLayer layer)).u2 position))
  else none

/-! ### What encoder calls leave in the buffer -/

/-- The calls add these bytes when there is room for them. -/
def Writes (calls : Encoder → Encoder) (bytes : List UInt8) : Prop :=
  ∀ e : Encoder, bytes.length ≤ e.mPayloadLength →
    calls e = { e with
      written := e.written ++ bytes, mPayloadLength := e.mPayloadLength - bytes.length }

namespace Writes

theorem nothing : Writes id [] := fun e _ => by simp

theorem put (bytes : List UInt8) : Writes (·.put bytes) bytes := fun _ h => Encoder.put_of_le h

theorem comp {f g : Encoder → Encoder} {bs bs' : List UInt8} (hf : Writes f bs)
    (hg : Writes g bs') : Writes (fun e => g (f e)) (bs ++ bs') := by
  intro e h
  rw [List.length_append] at h
  change g (f e) = _
  rw [hf e (by omega), hg _ (by simp only; omega), List.length_append, List.append_assoc,
    Nat.sub_sub]

theorem u1 (value : UInt8) : Writes (·.u1 value) [value] := put [value]

theorem u2 (value : UInt16) : Writes (·.u2 value) (toBytes 2 value.toNat) := fun e h =>
  (e.x2_eq value).trans (put _ e h)

theorem u4 (value : UInt32) : Writes (·.u4 value) (toBytes 4 value.toNat) := fun e h =>
  (e.x4_eq value).trans (put _ e h)

theorem u8 (value : UInt64) : Writes (·.u8 value) (toBytes 8 value.toNat) := fun e h =>
  (e.x8_eq value).trans (put _ e h)

/-- A loop of calls. -/
theorem foldl {α : Type} {call : Encoder → α → Encoder} {bytes : α → List UInt8}
    (h : ∀ a, Writes (fun e => call e a) (bytes a)) (as : List α) :
    Writes (fun e => as.foldl call e) (as.flatMap bytes) := by
  induction as with
  | nil => exact nothing
  | cons a as ih => exact (h a).comp ih

end Writes

/-- The bytes of a value. -/
def CfgValue.bytes : CfgValue → List UInt8
  | .unknown => []
  | .l value => [if value then 1 else 0]
  | .u1 value => [value]
  | .u2 value => toBytes 2 value.toNat
  | .u4 value => toBytes 4 value.toNat
  | .u8 value => toBytes 8 value.toNat

theorem writes_serialize (value : CfgValue) : Writes value.serialize value.bytes := by
  cases value with
  | unknown => exact .nothing
  | l value => exact .u1 _
  | u1 value => exact .u1 value
  | u2 value => exact .u2 value
  | u4 value => exact .u4 value
  | u8 value => exact .u8 value

@[simp] theorem length_bytes (value : CfgValue) : value.bytes.length = value.size := by
  cases value <;> simp [CfgValue.bytes, CfgValue.size, CfgValue.type, sizeFromType]

/-- The bytes of a frame that the checksum covers. -/
def covered (messageClass messageId : UInt8) (payload : List UInt8) : List UInt8 :=
  messageClass :: messageId :: (toBytes 2 payload.length ++ payload)

def frameBytes (messageClass messageId : UInt8) (payload : List UInt8) : List UInt8 :=
  [0xB5, 0x62] ++ covered messageClass messageId payload ++
    toBytes 2 (checksum (covered messageClass messageId payload)).toNat

theorem length_frameBytes (messageClass messageId : UInt8) (payload : List UInt8) :
    (frameBytes messageClass messageId payload).length = payload.length + 8 := by
  simp [frameBytes, covered]
  omega

theorem writeFrame_eq {e : Encoder} {messageClass messageId : UInt8} {payloadSize : UInt16}
    {calls : Encoder → Encoder} {payload : List UInt8} (hcalls : Writes calls payload)
    (hsize : payloadSize.toNat = payload.length) (hroom : payload.length + 8 ≤ e.mPayloadLength) :
    writeFrame e messageClass messageId payloadSize calls =
      ({ e with
        written := e.written ++ frameBytes messageClass messageId payload
        mPayloadLength := e.mPayloadLength - (payload.length + 8) }, payload.length + 8) := by
  have hstart : Writes (fun e => (e.u1 0xB5).u1 0x62) [0xB5, 0x62] := (Writes.u1 _).comp (.u1 _)
  have hcovered : Writes (fun e => calls (((e.u1 messageClass).u1 messageId).u2 payloadSize))
      (covered messageClass messageId payload) := by
    have hall := (((Writes.u1 messageClass).comp (.u1 messageId)).comp (.u2 payloadSize)).comp
      hcalls
    rwa [hsize] at hall
  have hlength : (covered messageClass messageId payload).length = payload.length + 4 := by
    simp [covered]
    omega
  have hfirst := hstart e (by simp only [List.length_cons, List.length_nil]; omega)
  have hsecond := hcovered ⟨e.written ++ [0xB5, 0x62], e.mPayloadLength - 2, e.mError⟩
    (by simp only [hlength]; omega)
  simp only [List.length_cons, List.length_nil] at hfirst
  simp only [hlength] at hsecond
  simp only [writeFrame, hfirst, hsecond, List.drop_left]
  have hthird := Writes.u2 (checksum (covered messageClass messageId payload))
    ⟨e.written ++ [0xB5, 0x62] ++ covered messageClass messageId payload,
      e.mPayloadLength - 2 - (payload.length + 4), e.mError⟩
    (by simp only [length_toBytes]; omega)
  simp only [length_toBytes] at hthird
  rw [hthird]
  refine Prod.ext (congrArg₂ (Encoder.mk · · e.mError) ?_ (by omega)) ?_
  · simp only [frameBytes, List.append_assoc]
  · simp only [List.length_append, length_toBytes, hlength, List.length_cons, List.length_nil]
    omega

/-! ### What was written is a frame -/

/-- The two bytes of a checksum are put together again. -/
theorem checksum_joined (ck : UInt16) :
    (ck.toNat / 256).toUInt8.toUInt16 <<< 8 ||| ck.toNat.toUInt8.toUInt16 = ck := by
  have hvalue := Decoder.toNat_value2 (toBytes 2 ck.toNat)
  rw [← UInt16.toNat_inj]
  refine hvalue.trans ?_
  exact ofBytes_toBytes (k := 2) (lt_of_lt_of_eq ck.toNat_lt (by decide))

section Frame

variable (messageClass messageId : UInt8) {payload : List UInt8}

theorem lengthOf_frameBytes (h : payload.length < 65536) :
    lengthOf (frameBytes messageClass messageId payload) = payload.length :=
  ofBytes_toBytes (k := 2) h

theorem payloadOf_frameBytes : payloadOf (frameBytes messageClass messageId payload) = payload := by
  rw [payloadOf, length_frameBytes, Nat.add_sub_cancel]
  exact List.take_left

theorem typeOf_frameBytes :
    typeOf (frameBytes messageClass messageId payload) =
      messageClass.toUInt16 <<< 8 ||| messageId.toUInt16 := rfl

theorem isFrame_frameBytes (h : payload.length < 65536) :
    IsFrame (frameBytes messageClass messageId payload) := by
  have hlength := length_frameBytes messageClass messageId payload
  refine ⟨by omega, rfl, by rw [hlength, lengthOf_frameBytes _ _ h], ?_⟩
  have hcovered : ((frameBytes messageClass messageId payload).drop 2).take
      (payload.length + 8 - 4) = covered messageClass messageId payload := by
    refine List.take_left' ?_
    simp [covered]
    omega
  have hend : ∀ i < 2, (frameBytes messageClass messageId payload).getD (payload.length + 6 + i) 0 =
      (toBytes 2 (checksum (covered messageClass messageId payload)).toNat).getD i 0 := by
    intro i _
    rw [frameBytes, List.getD_append_right _ _ _ _ (by simp [covered]; omega)]
    congr 1
    simp [covered]
    omega
  rw [checksumMessage, expectedChecksum, hlength, hcovered,
    show payload.length + 8 - 1 = payload.length + 6 + 1 by omega,
    show payload.length + 8 - 2 = payload.length + 6 + 0 by omega, hend 0 (by decide),
    hend 1 (by decide)]
  exact (checksum_joined _).symm

end Frame

/-! ### The parser takes the frame -/

theorem search_frame {frame : List UInt8} (h : IsFrame frame) (rest : List UInt8) :
    Queue.search (frame ++ rest) = frame ++ rest := by
  have hlong := h.long
  have hstart := h.start
  match frame with
  | b :: c :: tail =>
    obtain ⟨rfl, rfl⟩ : b = 0xB5 ∧ c = 0x62 := by simpa using hstart
    simp only [List.length_cons] at hlong
    rw [List.cons_append, Queue.search, if_neg (by simp; omega)]
    rfl

/-- A frame in front of the buffer is taken out, and nothing else. -/
theorem tryParse_frame {frame rest : List UInt8} (h : IsFrame frame)
    (hshort : lengthOf frame ≤ 8192) {p : Parser} (hp : Repr p (frame ++ rest)) (memory : Memory) :
    Repr (tryParse memory p).1 rest ∧ ∃ beyond, (tryParse memory p).2 =
      [.copied 6, .copied frame.length, .parsed frame (messageOf frame beyond)] := by
  obtain ⟨hrepr, hevents⟩ := tryParse_repr hp memory
  have hlength := h.length
  have hlong := h.long
  have hfield : lengthOf (frame ++ rest) = lengthOf frame := by
    rw [lengthOf, lengthOf, List.getD_append _ _ _ _ (by omega),
      List.getD_append _ _ _ _ (by omega)]
  have hqueue : Queue.tryParse memory (frame ++ rest) = (rest, [.copied 6, .copied frame.length,
      .parsed frame (messageOf frame
        (frame.drop (lengthOf frame + 6) ++ memory.cells.drop (lengthOf frame + 8)))]) := by
    simp only [Queue.tryParse, search_frame h, hfield, ← hlength, List.take_left, List.drop_left,
      List.length_append]
    rw [if_neg (by omega), if_neg (by omega), if_neg (by omega), if_neg (not_not.2 h.checksum)]
  rw [hqueue] at hrepr hevents
  exact ⟨hrepr, _, hevents⟩

/-! ### Reading the keys and values back -/

/-- The program reads these bytes, wherever they stand, and answers this. -/
def Reads {α : Type} (x : StateM Decoder α) (bytes : List UInt8) (a : α) : Prop :=
  ∀ (rest : List UInt8) (n : ℕ) (e : Bool), bytes.length ≤ n →
    x.run ⟨bytes ++ rest, n, e⟩ = (a, ⟨rest, n - bytes.length, e⟩)

namespace Reads

variable {α β : Type}

theorem pure (a : α) : Reads (Pure.pure a) [] a := fun _ _ _ _ => rfl

theorem bind {x : StateM Decoder α} {f : α → StateM Decoder β} {bs bs' : List UInt8} {a : α}
    {b : β} (hx : Reads x bs a) (hf : Reads (f a) bs' b) : Reads (x >>= f) (bs ++ bs') b := by
  intro rest n e h
  rw [List.length_append] at h
  rw [StateM.run_seq, List.append_assoc, hx _ _ _ (by omega), hf _ _ _ (by omega),
    List.length_append, Nat.sub_sub]

theorem map {x : StateM Decoder α} {bs : List UInt8} {a : α} (hx : Reads x bs a) (f : α → β) :
    Reads (f <$> x) bs (f a) := fun rest n e h =>
  congrArg (Prod.map f id) (hx rest n e h)

theorem u1 (value : UInt8) : Reads Decoder.u1 [value] value := by
  intro rest n e h
  refine (Decoder.run_x1 (show [value].length = 1 from rfl) rest h e).trans ?_
  simp [ofBytes]

theorem u2 (value : UInt16) : Reads Decoder.u2 (toBytes 2 value.toNat) value := by
  intro rest n e h
  refine (Decoder.run_x2 (length_toBytes 2 _) rest h e).trans ?_
  rw [ofBytes_toBytes (lt_of_lt_of_eq value.toNat_lt (by decide)), length_toBytes]
  simp

theorem u4 (value : UInt32) : Reads Decoder.u4 (toBytes 4 value.toNat) value := by
  intro rest n e h
  refine (Decoder.run_x4 (length_toBytes 4 _) rest h e).trans ?_
  rw [ofBytes_toBytes (lt_of_lt_of_eq value.toNat_lt (by decide)), length_toBytes]
  simp

theorem u8 (value : UInt64) : Reads Decoder.u8 (toBytes 8 value.toNat) value := by
  intro rest n e h
  refine (Decoder.run_x8 (length_toBytes 8 _) rest h e).trans ?_
  rw [ofBytes_toBytes (lt_of_lt_of_eq value.toNat_lt (by decide)), length_toBytes]
  simp

/-- A loop of reads. -/
theorem times {x : StateM Decoder α} {bytes : α → List UInt8} (h : ∀ a, Reads x (bytes a) a)
    (as : List α) : Reads (x.times as.length) (as.flatMap bytes) as := by
  induction as with
  | nil => exact pure []
  | cons a as ih =>
    have hall := (h a).bind (f := fun a => x.times as.length >>= fun as => Pure.pure (a :: as))
      (ih.bind (pure (a :: as)))
    rwa [List.append_nil] at hall

/-- All of a payload is read. -/
theorem whole {x : StateM Decoder α} {bytes : List UInt8} {a : α} (h : Reads x bytes a)
    (beyond : List UInt8) :
    x.run (.create (bytes ++ beyond) bytes.length) = (a, ⟨beyond, 0, false⟩) := by
  rw [Decoder.create, h beyond _ false (Nat.le_refl _), Nat.sub_self]

end Reads

theorem reads_parseFromKey {key : CfgKey} {value : CfgValue} (htype : value.type = typeFromKey key)
    (hknown : value.type ≠ .unknown) : Reads (parseFromKey key) value.bytes (some value) := by
  rw [parseFromKey_eq, ← htype]
  cases value with
  | unknown => exact absurd rfl hknown
  | l value =>
    have hbyte := (Reads.u1 (if value then 1 else 0)).map fun b => some (CfgValue.l (b != 0))
    cases value <;> exact hbyte
  | u1 value => exact (Reads.u1 value).map _
  | u2 value => exact (Reads.u2 value).map _
  | u4 value => exact (Reads.u4 value).map _
  | u8 value => exact (Reads.u8 value).map _

/-- The fields of a UBX-CFG-VALSET payload with one item. -/
structure Setting where
  version : UInt8
  layers : UInt8
  reserved : UInt16
  key : CfgKey
  value : Option CfgValue

def readSetting : StateM Decoder Setting := do
  let version ← Decoder.u1
  let layers ← Decoder.u1
  let reserved ← Decoder.u2
  let key ← Decoder.u4
  let value ← parseFromKey key
  pure ⟨version, layers, reserved, key, value⟩

/-- The fields of a UBX-CFG-VALGET payload that asks for keys. -/
structure Request where
  version : UInt8
  layer : UInt8
  position : UInt16
  keys : List CfgKey

def readRequest (keyCount : ℕ) : StateM Decoder Request := do
  let version ← Decoder.u1
  let layer ← Decoder.u1
  let position ← Decoder.u2
  let keys ← Decoder.u4.times keyCount
  pure ⟨version, layer, position, keys⟩

def settingBytes (layers : UInt8) (key : CfgKey) (value : CfgValue) : List UInt8 :=
  [0] ++ ([layers] ++ (toBytes 2 0 ++ (toBytes 4 key.toNat ++ value.bytes)))

def requestBytes (layer : UInt8) (position : UInt16) (keys : List CfgKey) : List UInt8 :=
  [0] ++ ([polledLayer layer] ++ (toBytes 2 position.toNat ++
    keys.flatMap fun key => toBytes 4 key.toNat))

theorem reads_setting (layers : UInt8) {key : CfgKey} {value : CfgValue}
    (htype : value.type = typeFromKey key) (hknown : value.type ≠ .unknown) :
    Reads readSetting (settingBytes layers key value) ⟨0, layers, 0, key, some value⟩ := by
  refine (Reads.u1 0).bind ((Reads.u1 layers).bind ((Reads.u2 0).bind ((Reads.u4 key).bind ?_)))
  have hvalue := (reads_parseFromKey htype hknown).bind
    (f := fun v => Pure.pure (Setting.mk 0 layers 0 key v)) (.pure _)
  rwa [List.append_nil] at hvalue

theorem reads_request (layer : UInt8) (position : UInt16) (keys : List CfgKey) :
    Reads (readRequest keys.length) (requestBytes layer position keys)
      ⟨0, polledLayer layer, position, keys⟩ := by
  refine (Reads.u1 0).bind ((Reads.u1 _).bind ((Reads.u2 position).bind ?_))
  have hkeys := (Reads.times Reads.u4 keys).bind
    (f := fun ks => Pure.pure (Request.mk 0 (polledLayer layer) position ks)) (.pure _)
  rwa [List.append_nil] at hkeys

/-! ### Both encoders -/

/-- The encoder has written the frame, and reports its length. -/
def Written (e : Encoder) (r : Encoder × ℕ) (frame : List UInt8) : Prop :=
  r = ({ e with
    written := e.written ++ frame
    mPayloadLength := e.mPayloadLength - frame.length }, frame.length)

/-- In front of any bytes in any buffer, the parser takes the frame and leaves the rest. -/
def TakenAsOne (frame : List UInt8) : Prop :=
  ∀ (p : Parser) (rest : List UInt8) (memory : Memory), Repr p (frame ++ rest) →
    Repr (tryParse memory p).1 rest ∧ ∃ beyond, (tryParse memory p).2 =
      [.copied 6, .copied frame.length, .parsed frame (messageOf frame beyond)]

theorem takenAsOne_frameBytes (messageClass messageId : UInt8) {payload : List UInt8}
    (h : payload.length ≤ 8192) : TakenAsOne (frameBytes messageClass messageId payload) :=
  fun _ _ memory hp =>
    tryParse_frame (isFrame_frameBytes _ _ (by omega))
      (by rw [lengthOf_frameBytes _ _ (by omega)]; exact h) hp memory

theorem sizeFromType_le (type : CfgType) : sizeFromType type ≤ 8 := by
  cases type <;> decide

theorem length_settingBytes (layers : UInt8) (key : CfgKey) (value : CfgValue) :
    (settingBytes layers key value).length = 8 + value.size := by
  simp [settingBytes]
  omega

theorem length_keyBytes (keys : List CfgKey) :
    (keys.flatMap fun key => toBytes 4 key.toNat).length = 4 * keys.length := by
  induction keys with
  | nil => rfl
  | cons key keys ih =>
    rw [List.flatMap_cons, List.length_append, ih, length_toBytes, List.length_cons]
    omega

theorem length_requestBytes (layer : UInt8) (position : UInt16) (keys : List CfgKey) :
    (requestBytes layer position keys).length = 4 + 4 * keys.length := by
  simp only [requestBytes, List.length_append, length_toBytes, length_keyBytes, List.length_cons,
    List.length_nil]
  omega

theorem set_eq {e : Encoder} {layers : UInt8} {key : CfgKey} {value : CfgValue}
    (htype : value.type = typeFromKey key) (hknown : value.type ≠ .unknown)
    (hroom : value.size + 16 ≤ e.mPayloadLength) :
    Written e (CfgValset.set e layers key value)
      (frameBytes 0x06 0x8A (settingBytes layers key value)) := by
  have hsize : (4 + 4 + value.size.toUInt16).toNat =
      (settingBytes layers key value).length := by
    have hle := sizeFromType_le value.type
    rw [length_settingBytes, UInt16.toNat_add, Nat.toUInt16_eq, UInt16.toNat_ofNat']
    simp only [CfgValue.size, UInt16.reduceAdd, UInt16.reduceToNat]
    omega
  have hwrites : Writes (fun e => value.serialize ((((e.u1 0).u1 layers).u2 0).u4 key))
      (settingBytes layers key value) := by
    have hall := (Writes.u1 0).comp ((Writes.u1 layers).comp ((Writes.u2 0).comp
      ((Writes.u4 key).comp (writes_serialize value))))
    exact hall
  have hlength := length_settingBytes layers key value
  rw [Written, length_frameBytes, CfgValset.set, if_neg (by simp [htype, htype ▸ hknown])]
  exact writeFrame_eq hwrites hsize (by omega)

theorem poll_eq (layer : UInt8) (position : UInt16) {e : Encoder} {keys : List CfgKey}
    (hkeys : keys.length ≤ 0xFF) (hroom : 4 * keys.length + 12 ≤ e.mPayloadLength) :
    ∃ r, CfgValget.poll e layer position keys = some r ∧
      Written e r (frameBytes 0x06 0x8B (requestBytes layer position keys)) := by
  have hsize : (4 + 4 * keys.length.toUInt16).toNat =
      (requestBytes layer position keys).length := by
    rw [length_requestBytes, UInt16.toNat_add, UInt16.toNat_mul, Nat.toUInt16_eq,
      UInt16.toNat_ofNat']
    simp only [UInt16.reduceToNat]
    omega
  have hwrites : Writes
      (fun e => keys.foldl (fun e key => e.u4 key)
        (((e.u1 0).u1 (polledLayer layer)).u2 position))
      (requestBytes layer position keys) :=
    (Writes.u1 0).comp ((Writes.u1 _).comp ((Writes.u2 position).comp
      (Writes.foldl Writes.u4 keys)))
  have hlength := length_requestBytes layer position keys
  refine ⟨_, if_pos hkeys, ?_⟩
  rw [Written, length_frameBytes]
  exact writeFrame_eq hwrites hsize (by omega)

/-- The parser takes a poll for an answer. -/
theorem messageOf_request (payload beyond : List UInt8) :
    messageOf (frameBytes 0x06 0x8B payload) beyond =
      ((CfgValget.parsed payload beyond).map Content.cfgValget).map fun c =>
        ⟨0x06, 0x8B, frameBytes 0x06 0x8B payload, c⟩ := by
  have hdecode : decode 0x068B payload beyond =
      (CfgValget.parsed payload beyond).map .cfgValget := rfl
  rw [messageOf, payloadOf_frameBytes, typeOf_frameBytes, ← hdecode]
  rfl

/-- A poll for at most one key is taken for an answer without values. -/
theorem parsed_request {keys : List CfgKey} (h : keys.length ≤ 1) (layer : UInt8)
    (position : UInt16) (beyond : List UInt8) :
    CfgValget.parsed (requestBytes layer position keys) beyond =
      .message ⟨0, polledLayer layer, position, ∅⟩ := by
  have hlength := length_requestBytes layer position keys
  obtain ⟨items, left, stop, hitems, hstop, hresult⟩ := CfgValget.parsedWithin_eq
    (Nat.le_refl (requestBytes layer position keys).length) (by omega) beyond
  have hleft : ((requestBytes layer position keys).drop 4).length ≤ 4 := by
    rw [List.length_drop]
    omega
  have hdone : StopsAt .done ((requestBytes layer position keys).drop 4) := hleft
  obtain ⟨rfl, -, rfl⟩ := CfgValget.stop_unique hitems hstop (.nil _) hdone
  rw [CfgValget.parsed_eq, hresult]
  have hposition : (ofBytes (toBytes 2 position.toNat)).toUInt16 = position := by
    rw [ofBytes_toBytes (lt_of_lt_of_eq position.toNat_lt (by decide))]
    simp
  have hlayer : (ofBytes [polledLayer layer]).toUInt8 = polledLayer layer := by simp [ofBytes]
  refine congrArg Result.message ?_
  change CfgValget.mk 0 (ofBytes [polledLayer layer]).toUInt8
    (ofBytes (toBytes 2 position.toNat)).toUInt16 ∅ = _
  rw [hposition, hlayer]

/-- **Round trip.**  With room in the buffer, both encoders add one frame, with the length and the
checksum of a frame, that the parser takes out as one; its payload reads back as the keys and
values.  The frame that sets an item is a message of an unsupported type; the frame that asks
for at most one key is a message without values. -/
theorem encoders_round_trip :
    (∀ (e : Encoder) (layers : UInt8) (key : CfgKey) (value : CfgValue),
      value.type = typeFromKey key → value.type ≠ .unknown →
      value.size + 16 ≤ e.mPayloadLength →
      ∃ frame, Written e (CfgValset.set e layers key value) frame ∧ IsFrame frame ∧
        TakenAsOne frame ∧
        (∀ beyond, messageOf frame beyond = .message ⟨0x06, 0x8A, frame, .unsupported⟩) ∧
        ∀ beyond, readSetting.run (.create (payloadOf frame ++ beyond) (payloadOf frame).length) =
          (⟨0, layers, 0, key, some value⟩, ⟨beyond, 0, false⟩)) ∧
    ∀ (e : Encoder) (layer : UInt8) (position : UInt16) (keys : List CfgKey),
      keys.length ≤ 0xFF → 4 * keys.length + 12 ≤ e.mPayloadLength →
      ∃ r frame, CfgValget.poll e layer position keys = some r ∧ Written e r frame ∧
        IsFrame frame ∧ TakenAsOne frame ∧
        (keys.length ≤ 1 → ∀ beyond, messageOf frame beyond =
          .message ⟨0x06, 0x8B, frame, .cfgValget ⟨0, polledLayer layer, position, ∅⟩⟩) ∧
        ∀ beyond, (readRequest keys.length).run
            (.create (payloadOf frame ++ beyond) (payloadOf frame).length) =
          (⟨0, polledLayer layer, position, keys⟩, ⟨beyond, 0, false⟩) := by
  constructor
  · intro e layers key value htype hknown hroom
    have hlength := length_settingBytes layers key value
    have hsize := sizeFromType_le value.type
    rw [← CfgValue.size] at hsize
    refine ⟨_, set_eq htype hknown hroom, isFrame_frameBytes _ _ (by omega),
      takenAsOne_frameBytes _ _ (by omega), fun beyond => ?_, fun beyond => ?_⟩
    · have hdecode : decode 0x068A (settingBytes layers key value) beyond =
          .message .unsupported := rfl
      rw [messageOf, payloadOf_frameBytes, typeOf_frameBytes]
      change Result.map _ (decode 0x068A (settingBytes layers key value) beyond) = _
      rw [hdecode]
      rfl
    · rw [payloadOf_frameBytes]
      exact (reads_setting layers htype hknown).whole beyond
  · intro e layer position keys hkeys hroom
    have hlength := length_requestBytes layer position keys
    obtain ⟨r, hpoll, hwritten⟩ := poll_eq layer position hkeys hroom
    refine ⟨r, _, hpoll, hwritten, isFrame_frameBytes _ _ (by omega),
      takenAsOne_frameBytes _ _ (by omega), fun hone beyond => ?_, fun beyond => ?_⟩
    · rw [messageOf_request, parsed_request hone]
      rfl
    · rw [payloadOf_frameBytes]
      exact (reads_request layer position keys).whole beyond

/-- The parser takes the frame out and makes a message of it. -/
def Accepted (frame : List UInt8) : Prop :=
  ∀ (p : Parser) (rest : List UInt8) (memory : Memory), Repr p (frame ++ rest) →
    ∃ m, (tryParse memory p).2 = [.copied 6, .copied frame.length, .parsed frame (.message m)]

theorem not_accepted {frame : List UInt8} (hframe : IsFrame frame) (hshort : lengthOf frame ≤ 8192)
    (h : ∀ beyond m, messageOf frame beyond ≠ .message m) : ¬Accepted frame := by
  intro hall
  have hlength := hframe.length
  have hrepr : Repr ((Parser.new (fun _ => 0) parserBufferSize).append frame).1 (frame ++ []) := by
    rw [List.append_nil]
    refine append_room (q := []) (repr_new (fun _ => 0) (by decide) (by decide)) ?_
    rw [List.length_nil, Nat.zero_add]
    exact lt_of_le_of_lt (b := 8200) (by omega) (by decide)
  obtain ⟨-, beyond, hevents⟩ := tryParse_frame hframe hshort hrepr zeros
  obtain ⟨m, hm⟩ := hall _ _ zeros hrepr
  rw [hm] at hevents
  simp only [List.cons.injEq, Event.parsed.injEq, and_true, true_and] at hevents
  exact h beyond m hevents.symm

theorem not_accepted_poll {layer : UInt8} {position : UInt16} {keys : List CfgKey} {n : ℕ}
    (hkeys : keys.length ≤ 0xFF) (hroom : 4 * keys.length + 12 ≤ n)
    (h : ∀ m, CfgValget.parsed (requestBytes layer position keys) [] ≠ .message m) :
    ∃ r, CfgValget.poll (.create n) layer position keys = some r ∧ ¬Accepted r.1.written := by
  have hlength := length_requestBytes layer position keys
  obtain ⟨r, hpoll, hwritten⟩ := poll_eq layer position (e := .create n)
    hkeys hroom
  have hframe : r.1.written = frameBytes 0x06 0x8B (requestBytes layer position keys) :=
    congrArg (·.1.written) hwritten
  refine ⟨r, hpoll, ?_⟩
  rw [hframe]
  refine not_accepted (isFrame_frameBytes _ _ (by omega))
    (by rw [lengthOf_frameBytes _ _ (by omega)]; omega) fun beyond m hm => ?_
  rw [messageOf_request, CfgValget.parsed_bounded _ beyond []] at hm
  cases hparsed : CfgValget.parsed (requestBytes layer position keys) [] with
  | message m' => exact h m' hparsed
  | null =>
    rw [hparsed] at hm
    cases hm
  | unreachable =>
    rw [hparsed] at hm
    cases hm

/-- A poll for two keys is parsed as an answer with the first key and a part of the second one as
its value; here the value does not fit, and in the second poll the key has no width. -/
theorem not_polls_accepted :
    (∃ r, CfgValget.poll (.create 20) 0x01 0 [0x50110000, 0x20110001] = some r ∧
      ¬Accepted r.1.written) ∧
    ∃ r, CfgValget.poll (.create 20) 0x01 0 [0x00110000, 0x20110001] = some r ∧
      ¬Accepted r.1.written := by
  constructor
  · refine not_accepted_poll (by decide) (by decide) fun m hm => ?_
    have hnull : CfgValget.parsed (requestBytes 0x01 0 [0x50110000, 0x20110001]) [] = .null := rfl
    cases hnull.symm.trans hm
  · refine not_accepted_poll (by decide) (by decide) fun m hm => ?_
    have hunreachable : CfgValget.parsed (requestBytes 0x01 0 [0x00110000, 0x20110001]) [] =
      .unreachable := rfl
    cases hunreachable.symm.trans hm

end SuplLpp.Ubx
