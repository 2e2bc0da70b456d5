import SuplLpp.Lib.Table
import SuplLpp.Ubx.Coding

/-!
# Configuration items

A configuration item is a key of four bytes and a value whose width three bits of the key tell.
A UBX-CFG-VALGET message is a header and a list of items.

* `CfgValue`, `parseFromKey`, `CfgValget.parse`: reading items, as the source does;
* `Items b kvs left`: the bytes `b` begin with the items `kvs`, and `left` remains;
* `items_run`: what the loop over the items comes to;
* `Total`, `total_iff_clean`: for which payloads the message is parsed as it should be.
-/

namespace SuplLpp.Ubx

open LittleEndian

/-! ### Keys and values -/

abbrev CfgKey := UInt32

/-- `CfgValue::Type`. -/
inductive CfgType
  | unknown
  | l
  | u1
  | u2
  | u4
  | u8
  deriving DecidableEq

inductive CfgValue
  | unknown
  | l (value : Bool)
  | u1 (value : UInt8)
  | u2 (value : UInt16)
  | u4 (value : UInt32)
  | u8 (value : UInt64)
  deriving DecidableEq

def CfgValue.type : CfgValue → CfgType
  | .unknown => .unknown
  | .l _ => .l
  | .u1 _ => .u1
  | .u2 _ => .u2
  | .u4 _ => .u4
  | .u8 _ => .u8

def sizeBits (key : CfgKey) : UInt32 := (key &&& 0x70000000) >>> 28

def typeFromKey (key : CfgKey) : CfgType :=
  if sizeBits key = 1 then .l
  else if sizeBits key = 2 then .u1
  else if sizeBits key = 3 then .u2
  else if sizeBits key = 4 then .u4
  else if sizeBits key = 5 then .u8
  else .unknown

def sizeFromType : CfgType → ℕ
  | .l => 1
  | .u1 => 1
  | .u2 => 2
  | .u4 => 4
  | .u8 => 8
  | .unknown => 0

/-- `parse_from_type`; `none` is `UNREACHABLE()`. -/
def parseFromType : CfgType → StateM Decoder (Option CfgValue)
  | .l => (some ∘ CfgValue.l) <$> Decoder.logical
  | .u1 => (some ∘ CfgValue.u1) <$> Decoder.u1
  | .u2 => (some ∘ CfgValue.u2) <$> Decoder.u2
  | .u4 => (some ∘ CfgValue.u4) <$> Decoder.u4
  | .u8 => (some ∘ CfgValue.u8) <$> Decoder.u8
  | .unknown => pure none

/-- `parse_from_key`, with a `switch` of its own. -/
def parseFromKey (key : CfgKey) : StateM Decoder (Option CfgValue) :=
  if sizeBits key = 1 then parseFromType .l
  else if sizeBits key = 2 then parseFromType .u1
  else if sizeBits key = 3 then parseFromType .u2
  else if sizeBits key = 4 then parseFromType .u4
  else if sizeBits key = 5 then parseFromType .u8
  else pure none

theorem parseFromKey_eq (key : CfgKey) : parseFromKey key = parseFromType (typeFromKey key) := by
  unfold parseFromKey typeFromKey
  split_ifs <;> rfl

/-! ### UBX-CFG-VALGET -/

/-- What the parser of a message comes to. -/
inductive Result (α : Type)
  | unreachable
  | null
  | message (m : α)
  deriving DecidableEq

/-- `raw::CfgValget`. -/
structure CfgValget where
  version : UInt8
  layers : UInt8
  position : UInt16
  values : Table CfgKey CfgValue

/-- The loop over the items; `none` is `UNREACHABLE()`. -/
def parseItems : ℕ → Table CfgKey CfgValue → StateM Decoder (Option (Table CfgKey CfgValue))
  | 0, values => pure (some values)
  | rounds + 1, values => do
    let remaining ← Decoder.remaining
    let error ← Decoder.error
    if 4 < remaining ∧ error = false then
      let key ← Decoder.u4
      let value ← parseFromKey key
      match value with
      | none => pure none
      | some value => parseItems rounds (values.emplace key value)
    else pure (some values)

/-- `UbxCfgValget::parse`, with a bound on the rounds of its loop. -/
def CfgValget.parseWithin (rounds : ℕ) : StateM Decoder (Result CfgValget) := do
  let remaining ← Decoder.remaining
  if remaining < 4 then pure .null
  else
    let version ← Decoder.u1
    let layers ← Decoder.u1
    let position ← Decoder.u2
    let values ← parseItems rounds ∅
    let error ← Decoder.error
    match values with
    | none => pure .unreachable
    | some values => pure (if error then .null else .message ⟨version, layers, position, values⟩)

/-- Every round takes a byte at least. -/
def CfgValget.parse : StateM Decoder (Result CfgValget) := do
  let remaining ← Decoder.remaining
  CfgValget.parseWithin remaining

/-! ### Nothing behind the payload is read -/

theorem agree_parseFromType (type : CfgType) : Agree SameWindow (parseFromType type) := by
  cases type with
  | unknown => exact .pure none
  | l => exact Decoder.agree_logical.map _
  | u1 => exact Decoder.agree_x1.map _
  | u2 => exact Decoder.agree_x2.map _
  | u4 => exact Decoder.agree_x4.map _
  | u8 => exact Decoder.agree_x8.map _

theorem agree_parseItems (rounds : ℕ) (values : Table CfgKey CfgValue) :
    Agree SameWindow (parseItems rounds values) := by
  induction rounds generalizing values with
  | zero => exact .pure _
  | succ rounds ih =>
    refine Decoder.agree_remaining.bind fun remaining => Decoder.agree_error.bind fun error => ?_
    refine Agree.ite (Decoder.agree_x4.bind fun key => ?_) (.pure _)
    rw [parseFromKey_eq]
    refine (agree_parseFromType _).bind fun value => ?_
    cases value with
    | none => exact .pure none
    | some value => exact ih _

theorem CfgValget.agree_parse : Agree SameWindow CfgValget.parse := by
  refine Decoder.agree_remaining.bind fun rounds => ?_
  refine Decoder.agree_remaining.bind fun remaining => Agree.ite (.pure _) ?_
  refine Decoder.agree_x1.bind fun version => Decoder.agree_x1.bind fun layers => ?_
  refine Decoder.agree_x2.bind fun position => (agree_parseItems _ _).bind fun values => ?_
  refine Decoder.agree_error.bind fun error => ?_
  cases values with
  | none => exact .pure _
  | some values => exact .pure _

/-! ### The items of a payload -/

def Known (key : CfgKey) : Prop := typeFromKey key ≠ .unknown

instance (key : CfgKey) : Decidable (Known key) := inferInstanceAs (Decidable (_ ≠ _))

/-- The value that bytes stand for. -/
def valueOf (type : CfgType) (bytes : List UInt8) : CfgValue :=
  match type with
  | .unknown => .unknown
  | .l => .l ((ofBytes bytes).toUInt8 != 0)
  | .u1 => .u1 (ofBytes bytes).toUInt8
  | .u2 => .u2 (ofBytes bytes).toUInt16
  | .u4 => .u4 (ofBytes bytes).toUInt32
  | .u8 => .u8 (ofBytes bytes).toUInt64

def keyOf (bytes : List UInt8) : CfgKey := (ofBytes bytes).toUInt32

/-- The bytes begin with these items, and what is left stands behind them. -/
inductive Items : List UInt8 → List (CfgKey × CfgValue) → List UInt8 → Prop
  | nil (bytes : List UInt8) : Items bytes [] bytes
  | cons {key value bytes left : List UInt8} {items : List (CfgKey × CfgValue)}
      (hkey : key.length = 4) (hknown : Known (keyOf key))
      (hvalue : value.length = sizeFromType (typeFromKey (keyOf key)))
      (hitems : Items bytes items left) :
      Items (key ++ value ++ bytes)
        ((keyOf key, valueOf (typeFromKey (keyOf key)) value) :: items) left

theorem sizeFromType_pos {type : CfgType} (h : type ≠ .unknown) : 0 < sizeFromType type := by
  cases type with
  | unknown => exact absurd rfl h
  | _ => decide

/-- No item begins here. -/
def Stuck (left : List UInt8) : Prop := ∀ items left', Items left items left' → items = []

theorem stuck_of_length {left : List UInt8} (h : left.length ≤ 4) : Stuck left := by
  rintro items left' hitems
  cases hitems with
  | nil => rfl
  | cons hkey hknown hvalue =>
    have hpos := sizeFromType_pos hknown
    simp only [List.length_append] at h
    omega

theorem stuck_of_not_known {key rest : List UInt8} (hkey : key.length = 4)
    (hknown : ¬Known (keyOf key)) : Stuck (key ++ rest) := by
  generalize hleft : key ++ rest = left
  rintro items left' hitems
  cases hitems with
  | nil => rfl
  | @cons key' value bytes _ _ hkey' hknown' =>
    rw [List.append_assoc] at hleft
    obtain ⟨rfl, -⟩ := List.append_inj hleft (hkey.trans hkey'.symm)
    exact absurd hknown' hknown

theorem stuck_of_short {key rest : List UInt8} (hkey : key.length = 4)
    (hshort : rest.length < sizeFromType (typeFromKey (keyOf key))) : Stuck (key ++ rest) := by
  generalize hleft : key ++ rest = left
  rintro items left' hitems
  cases hitems with
  | nil => rfl
  | @cons key' value bytes _ _ hkey' _ hvalue' =>
    rw [List.append_assoc] at hleft
    obtain ⟨rfl, rfl⟩ := List.append_inj hleft (hkey.trans hkey'.symm)
    rw [List.length_append] at hshort
    omega

/-- Reading items is deterministic, up to where it stops. -/
theorem Items.unique {bytes left left' : List UInt8} {items items' : List (CfgKey × CfgValue)}
    (h : Items bytes items left) (h' : Items bytes items' left') (hstuck : Stuck left)
    (hstuck' : Stuck left') : items = items' ∧ left = left' := by
  induction h generalizing items' with
  | nil bytes =>
    cases h' with
    | nil => exact ⟨rfl, rfl⟩
    | cons hkey hknown hvalue hitems =>
      cases hstuck _ _ (.cons hkey hknown hvalue hitems)
  | @cons key value bytes left items hkey hknown hvalue hitems ih =>
    generalize hall : key ++ value ++ bytes = all at h'
    cases h' with
    | nil =>
      subst hall
      cases hstuck' _ _ (.cons hkey hknown hvalue hitems)
    | @cons key' value' bytes' _ items' hkey' hknown' hvalue' hitems' =>
      rw [List.append_assoc, List.append_assoc] at hall
      obtain ⟨rfl, hrest⟩ := List.append_inj hall (hkey.trans hkey'.symm)
      obtain ⟨rfl, rfl⟩ := List.append_inj hrest (hvalue.trans hvalue'.symm)
      obtain ⟨rfl, rfl⟩ := ih hitems' hstuck
      exact ⟨rfl, rfl⟩

/-! ### What the loop comes to -/

/-- How the loop over the items ends. -/
inductive Stop
  | done
  | unreachable
  | truncated
  deriving DecidableEq

/-- What is left when it ends so. -/
def StopsAt : Stop → List UInt8 → Prop
  | .done, left => left.length ≤ 4
  | .unreachable, left => ∃ key rest, left = key ++ rest ∧ key.length = 4 ∧ rest ≠ [] ∧
      ¬Known (keyOf key)
  | .truncated, left => ∃ key rest, left = key ++ rest ∧ key.length = 4 ∧ rest ≠ [] ∧
      Known (keyOf key) ∧ rest.length < sizeFromType (typeFromKey (keyOf key))

theorem StopsAt.stuck {stop : Stop} {left : List UInt8} (h : StopsAt stop left) : Stuck left := by
  cases stop with
  | done => exact stuck_of_length h
  | unreachable =>
    obtain ⟨key, rest, rfl, hkey, -, hknown⟩ := h
    exact stuck_of_not_known hkey hknown
  | truncated =>
    obtain ⟨key, rest, rfl, hkey, -, -, hshort⟩ := h
    exact stuck_of_short hkey hshort

/-- It ends in one way only. -/
theorem StopsAt.unique {stop stop' : Stop} {left : List UInt8} (h : StopsAt stop left)
    (h' : StopsAt stop' left) : stop = stop' := by
  have hsplit : ∀ {key rest key' rest' : List UInt8}, left = key ++ rest → left = key' ++ rest' →
      key.length = 4 → key'.length = 4 → key = key' :=
    fun hl hl' hk hk' => (List.append_inj (hl.symm.trans hl') (hk.trans hk'.symm)).1
  have hlong : ∀ {key rest : List UInt8}, left = key ++ rest → key.length = 4 → rest ≠ [] →
      ¬left.length ≤ 4 := by
    rintro key rest rfl hkey hrest
    have hpos := List.length_pos_iff.2 hrest
    rw [List.length_append]
    omega
  cases stop <;> cases stop' <;> first | rfl | skip
  · obtain ⟨key, rest, hl, hkey, hrest, -⟩ := h'
    exact absurd h (hlong hl hkey hrest)
  · obtain ⟨key, rest, hl, hkey, hrest, -⟩ := h'
    exact absurd h (hlong hl hkey hrest)
  · obtain ⟨key, rest, hl, hkey, hrest, -⟩ := h
    exact absurd h' (hlong hl hkey hrest)
  · obtain ⟨key, rest, hl, hkey, -, hknown⟩ := h
    obtain ⟨key', rest', hl', hkey', -, hknown', -⟩ := h'
    rw [hsplit hl hl' hkey hkey'] at hknown
    exact absurd hknown' hknown
  · obtain ⟨key, rest, hl, hkey, hrest, -⟩ := h
    exact absurd h' (hlong hl hkey hrest)
  · obtain ⟨key, rest, hl, hkey, -, hknown, -⟩ := h
    obtain ⟨key', rest', hl', hkey', -, hknown'⟩ := h'
    rw [hsplit hl hl' hkey hkey'] at hknown
    exact absurd hknown hknown'

theorem run_parseFromType {type : CfgType} (h : type ≠ .unknown) {bytes : List UInt8}
    (hbytes : bytes.length = sizeFromType type) (rest : List UInt8) {n : ℕ}
    (hn : sizeFromType type ≤ n) (e : Bool) :
    (parseFromType type).run ⟨bytes ++ rest, n, e⟩ =
      (some (valueOf type bytes), ⟨rest, n - sizeFromType type, e⟩) := by
  cases type with
  | unknown => exact absurd rfl h
  | l =>
    have hread := Decoder.run_x1 hbytes rest hn e
    exact congrArg (Prod.map (fun b => some (CfgValue.l (b != 0))) id) hread
  | u1 => exact congrArg (Prod.map (some ∘ CfgValue.u1) id) (Decoder.run_x1 hbytes rest hn e)
  | u2 => exact congrArg (Prod.map (some ∘ CfgValue.u2) id) (Decoder.run_x2 hbytes rest hn e)
  | u4 => exact congrArg (Prod.map (some ∘ CfgValue.u4) id) (Decoder.run_x4 hbytes rest hn e)
  | u8 => exact congrArg (Prod.map (some ∘ CfgValue.u8) id) (Decoder.run_x8 hbytes rest hn e)

/-- A value that does not fit sets the error. -/
theorem run_parseFromType_short {type : CfgType} {d : Decoder}
    (h : d.mPayloadLength < sizeFromType type) :
    ∃ value, (parseFromType type).run d = (some value, d.failed) := by
  cases type with
  | unknown => cases h
  | l => exact ⟨.l false,
      congrArg (Prod.map (fun b => some (CfgValue.l (b != 0))) id) (Decoder.run_word_short h)⟩
  | u1 => exact ⟨.u1 0, congrArg (Prod.map (some ∘ CfgValue.u1) id) (Decoder.run_word_short h)⟩
  | u2 => exact ⟨.u2 0, congrArg (Prod.map (some ∘ CfgValue.u2) id) (Decoder.run_word_short h)⟩
  | u4 => exact ⟨.u4 0, congrArg (Prod.map (some ∘ CfgValue.u4) id) (Decoder.run_word_short h)⟩
  | u8 => exact ⟨.u8 0, congrArg (Prod.map (some ∘ CfgValue.u8) id) (Decoder.run_word_short h)⟩

/-- The table of items, with the first one of each key. -/
def tableOf (values : Table CfgKey CfgValue) (items : List (CfgKey × CfgValue)) :
    Table CfgKey CfgValue :=
  items.foldl (fun t e => t.emplace e.1 e.2) values

/-- One round of the loop. -/
theorem run_parseItems_succ (rounds : ℕ) (values : Table CfgKey CfgValue) (d : Decoder) :
    (parseItems (rounds + 1) values).run d =
      if 4 < d.mPayloadLength ∧ d.mError = false then
        let key := Decoder.u4.run d
        let value := (parseFromType (typeFromKey key.1)).run key.2
        match value.1 with
        | none => (none, value.2)
        | some v => (parseItems rounds (values.emplace key.1 v)).run value.2
      else (some values, d) := by
  have hround : (parseItems (rounds + 1) values).run d =
      (if 4 < d.mPayloadLength ∧ d.mError = false then do
        let key ← Decoder.u4
        let value ← parseFromKey key
        match value with
        | none => pure none
        | some value => parseItems rounds (values.emplace key value)
      else pure (some values) : StateM Decoder _).run d := rfl
  rw [hround]
  by_cases hc : 4 < d.mPayloadLength ∧ d.mError = false
  · rw [if_pos hc, if_pos hc, StateT.run_bind]
    simp only [← parseFromKey_eq]
    change ((parseFromKey _ >>= _).run _) = _
    rw [StateT.run_bind]
    change (match ((parseFromKey _).run _).1 with
      | none => pure none
      | some value => parseItems rounds _ : StateM Decoder _).run _ = _
    cases ((parseFromKey (Decoder.u4.run d).1).run (Decoder.u4.run d).2).1 <;> rfl
  · rw [if_neg hc, if_neg hc]
    rfl

theorem run_parseItems_failed (rounds : ℕ) (values : Table CfgKey CfgValue) {d : Decoder}
    (h : d.mError = true) : (parseItems rounds values).run d = (some values, d) := by
  cases rounds with
  | zero => rfl
  | succ rounds => rw [run_parseItems_succ, if_neg (by simp [h])]

/-- What the loop answers when it stops so. -/
def Answers (stop : Stop) (table : Table CfgKey CfgValue) (left beyond : List UInt8)
    (r : Option (Table CfgKey CfgValue) × Decoder) : Prop :=
  match stop with
  | .done => r = (some table, ⟨left ++ beyond, left.length, false⟩)
  | .unreachable => r.1 = none
  | .truncated => (∃ values, r.1 = some values) ∧ r.2.mError = true

theorem items_run {rounds : ℕ} {bytes : List UInt8} (hrounds : bytes.length ≤ rounds)
    (beyond : List UInt8) (values : Table CfgKey CfgValue) :
    ∃ items left stop, Items bytes items left ∧ StopsAt stop left ∧
      Answers stop (tableOf values items) left beyond
        ((parseItems rounds values).run ⟨bytes ++ beyond, bytes.length, false⟩) := by
  induction rounds generalizing bytes values with
  | zero =>
    obtain rfl : bytes = [] := List.length_eq_zero_iff.1 (Nat.le_zero.1 hrounds)
    exact ⟨[], [], .done, .nil [], Nat.zero_le 4, rfl⟩
  | succ rounds ih =>
    by_cases hlong : 4 < bytes.length
    · -- the first four bytes are a key
      obtain ⟨key, rest, rfl, hkey⟩ : ∃ key rest, bytes = key ++ rest ∧ key.length = 4 :=
        ⟨bytes.take 4, bytes.drop 4, (List.take_append_drop 4 bytes).symm, by
          rw [List.length_take]
          omega⟩
      rw [List.length_append] at hlong hrounds
      have hrest : rest ≠ [] := List.length_pos_iff.1 (by omega)
      have hread : Decoder.u4.run ⟨key ++ rest ++ beyond, (key ++ rest).length, false⟩ =
          (keyOf key, ⟨rest ++ beyond, rest.length, false⟩) := by
        have hrun := Decoder.run_x4 hkey (rest ++ beyond) (n := (key ++ rest).length)
          (by rw [List.length_append]; omega) false
        rw [List.append_assoc]
        refine hrun.trans ?_
        rw [List.length_append, hkey, Nat.add_sub_cancel_left]
        rfl
      rw [run_parseItems_succ, if_pos ⟨by simp; omega, rfl⟩, hread]
      by_cases hknown : Known (keyOf key)
      · by_cases hfits : sizeFromType (typeFromKey (keyOf key)) ≤ rest.length
        · obtain ⟨value, tail, rfl, hvalue⟩ : ∃ value tail, rest = value ++ tail ∧
              value.length = sizeFromType (typeFromKey (keyOf key)) :=
            ⟨rest.take (sizeFromType (typeFromKey (keyOf key))), rest.drop _,
              (List.take_append_drop _ rest).symm, by
                rw [List.length_take]
                omega⟩
          have hpos := sizeFromType_pos hknown
          have hparse := run_parseFromType hknown hvalue (tail ++ beyond)
            (n := (value ++ tail).length) hfits false
          rw [List.length_append, hvalue, Nat.add_sub_cancel_left, ← List.append_assoc] at hparse
          have hlength : (value ++ tail).length =
              sizeFromType (typeFromKey (keyOf key)) + tail.length := by
            rw [List.length_append, hvalue]
          obtain ⟨items, left, stop, hitems, hstop, hanswer⟩ :=
            ih (show tail.length ≤ rounds by omega)
              (values.emplace (keyOf key) (valueOf (typeFromKey (keyOf key)) value))
          refine ⟨(keyOf key, valueOf (typeFromKey (keyOf key)) value) :: items, left, stop, ?_,
            hstop, ?_⟩
          · rw [← List.append_assoc]
            exact .cons hkey hknown hvalue hitems
          · rw [hlength]
            simp only [hparse]
            exact hanswer
        · -- the value does not fit
          have hshort : rest.length < sizeFromType (typeFromKey (keyOf key)) := Nat.not_le.1 hfits
          obtain ⟨value, hparse⟩ := run_parseFromType_short
            (d := ⟨rest ++ beyond, rest.length, false⟩) hshort
          refine ⟨[], key ++ rest, .truncated, .nil _,
            ⟨key, rest, rfl, hkey, hrest, hknown, by omega⟩, ?_⟩
          simp only [hparse]
          rw [run_parseItems_failed _ _ rfl]
          exact ⟨⟨_, rfl⟩, rfl⟩
      · refine ⟨[], key ++ rest, .unreachable, .nil _, ⟨key, rest, rfl, hkey, hrest, hknown⟩, ?_⟩
        rw [Known, not_ne_iff] at hknown
        simp only [hknown]
        rfl
    · refine ⟨[], bytes, .done, .nil bytes, Nat.not_lt.1 hlong, ?_⟩
      rw [run_parseItems_succ, if_neg fun h => hlong h.1]
      rfl

/-! ### The payloads that are parsed as they should be -/

namespace CfgValget

/-- The result for a payload, with `beyond` behind it in the memory. -/
def parsedWithin (rounds : ℕ) (payload beyond : List UInt8) : Result CfgValget :=
  ((parseWithin rounds).run (.create (payload ++ beyond) payload.length)).1

def parsed (payload beyond : List UInt8) : Result CfgValget :=
  (parse.run (.create (payload ++ beyond) payload.length)).1

/-- The parser terminates, at a message or null, reads the payload only, and a message has the
items of the payload. -/
structure Total (payload : List UInt8) : Prop where
  reachable : ∀ beyond, parsed payload beyond ≠ .unreachable
  bounded : ∀ beyond beyond', parsed payload beyond = parsed payload beyond'
  terminates : ∀ rounds, payload.length ≤ rounds → ∀ beyond,
    parsedWithin rounds payload beyond = parsed payload beyond
  exact : ∀ beyond m, parsed payload beyond = .message m →
    ∃ items left, Items (payload.drop 4) items left ∧ left.length ≤ 4 ∧
      ∀ k v, m.values.lookup k = some v ↔ (k, v) ∈ items

/-- The items have one value for each key. -/
def OneValue (items : List (CfgKey × CfgValue)) : Prop :=
  ∀ k v v', (k, v) ∈ items → (k, v') ∈ items → v = v'

/-- Every key that is reached tells a width, and no two items give a key different values. -/
structure Clean (payload : List UInt8) : Prop where
  known : ∀ items key rest, Items (payload.drop 4) items (key ++ rest) → key.length = 4 →
    rest ≠ [] → Known (keyOf key)
  oneValue : ∀ items left, Items (payload.drop 4) items left → left.length ≤ 4 → OneValue items

/-- The result when the loop stops so. -/
def resultOf (payload : List UInt8) (items : List (CfgKey × CfgValue)) :
    Stop → Result CfgValget
  | .done => .message
      ⟨(ofBytes (payload.take 1)).toUInt8, (ofBytes ((payload.drop 1).take 1)).toUInt8,
        (ofBytes ((payload.drop 2).take 2)).toUInt16, tableOf ∅ items⟩
  | .unreachable => .unreachable
  | .truncated => .null

/-- The parser, step by step. -/
theorem run_parseWithin (rounds : ℕ) (d : Decoder) :
    ((parseWithin rounds).run d).1 =
      if d.mPayloadLength < 4 then .null
      else
        let version := Decoder.x1.run d
        let layers := Decoder.x1.run version.2
        let position := Decoder.x2.run layers.2
        let values := (parseItems rounds ∅).run position.2
        match values.1 with
        | none => .unreachable
        | some table =>
          if values.2.mError then .null
          else .message ⟨version.1, layers.1, position.1, table⟩ := by
  rw [parseWithin, StateM.run_seq]
  change (StateT.run (if d.mPayloadLength < 4 then _ else _ : StateM Decoder _) d).1 = _
  by_cases hshort : d.mPayloadLength < 4
  · rw [if_pos hshort, if_pos hshort]
    rfl
  · rw [if_neg hshort, if_neg hshort]
    simp only [StateM.run_seq, Decoder.u1, Decoder.u2]
    cases ((parseItems rounds ∅).run (Decoder.x2.run (Decoder.x1.run (Decoder.x1.run d).2).2).2).1
      with
    | none => rfl
    | some table => rfl

theorem parsedWithin_short (rounds : ℕ) {payload : List UInt8} (h : payload.length < 4)
    (beyond : List UInt8) : parsedWithin rounds payload beyond = .null := by
  rw [parsedWithin, run_parseWithin]
  exact if_pos h

theorem parsedWithin_eq {rounds : ℕ} {payload : List UInt8} (hrounds : payload.length ≤ rounds)
    (hlong : 4 ≤ payload.length) (beyond : List UInt8) :
    ∃ items left stop, Items (payload.drop 4) items left ∧ StopsAt stop left ∧
      parsedWithin rounds payload beyond = resultOf payload items stop := by
  match payload, hlong with
  | a :: b :: c :: d :: body, _ =>
    have hbody : body.length ≤ rounds := by
      simp only [List.length_cons] at hrounds
      omega
    obtain ⟨items, left, stop, hitems, hstop, hanswer⟩ := items_run hbody beyond ∅
    refine ⟨items, left, stop, hitems, hstop, ?_⟩
    have hversion : Decoder.x1.run
        ⟨a :: b :: c :: d :: (body ++ beyond), body.length + 4, false⟩ =
        ((ofBytes [a]).toUInt8, ⟨b :: c :: d :: (body ++ beyond), body.length + 3, false⟩) :=
      Decoder.run_x1 (show [a].length = 1 from rfl) _ (by omega) false
    have hlayers : Decoder.x1.run ⟨b :: c :: d :: (body ++ beyond), body.length + 3, false⟩ =
        ((ofBytes [b]).toUInt8, ⟨c :: d :: (body ++ beyond), body.length + 2, false⟩) :=
      Decoder.run_x1 (show [b].length = 1 from rfl) _ (by omega) false
    have hposition : Decoder.x2.run ⟨c :: d :: (body ++ beyond), body.length + 2, false⟩ =
        ((ofBytes [c, d]).toUInt16, ⟨body ++ beyond, body.length, false⟩) :=
      Decoder.run_x2 (show [c, d].length = 2 from rfl) _ (by omega) false
    have hcreate : Decoder.create (a :: b :: c :: d :: body ++ beyond)
        (a :: b :: c :: d :: body).length =
        ⟨a :: b :: c :: d :: (body ++ beyond), body.length + 4, false⟩ := rfl
    have hlength : ¬body.length + 4 < 4 := by omega
    rw [parsedWithin, run_parseWithin, hcreate]
    simp only [if_neg hlength, hversion, hlayers, hposition]
    cases stop with
    | done =>
      rw [show (parseItems rounds ∅).run ⟨body ++ beyond, body.length, false⟩ = _ from hanswer]
      rfl
    | unreachable =>
      rw [show ((parseItems rounds ∅).run ⟨body ++ beyond, body.length, false⟩).1 = none
        from hanswer]
      rfl
    | truncated =>
      obtain ⟨⟨values, hvalues⟩, herror⟩ := hanswer
      simp only [hvalues, herror, if_true]
      rfl

theorem parsed_eq (payload beyond : List UInt8) :
    parsed payload beyond = parsedWithin payload.length payload beyond := rfl

/-- Two walks that stop are the same walk. -/
theorem stop_unique {bytes left left' : List UInt8} {items items' : List (CfgKey × CfgValue)}
    {stop stop' : Stop} (h : Items bytes items left) (hstop : StopsAt stop left)
    (h' : Items bytes items' left') (hstop' : StopsAt stop' left') :
    items = items' ∧ left = left' ∧ stop = stop' := by
  obtain ⟨rfl, rfl⟩ := h.unique h' hstop.stuck hstop'.stuck
  exact ⟨rfl, rfl, hstop.unique hstop'⟩

theorem parsed_terminates {payload : List UInt8} {rounds : ℕ} (h : payload.length ≤ rounds)
    (beyond : List UInt8) : parsedWithin rounds payload beyond = parsed payload beyond := by
  rw [parsed_eq]
  by_cases hshort : payload.length < 4
  · rw [parsedWithin_short _ hshort, parsedWithin_short _ hshort]
  · obtain ⟨items, left, stop, hitems, hstop, hresult⟩ :=
      parsedWithin_eq h (Nat.not_lt.1 hshort) beyond
    obtain ⟨items', left', stop', hitems', hstop', hresult'⟩ :=
      parsedWithin_eq (Nat.le_refl _) (Nat.not_lt.1 hshort) beyond
    obtain ⟨rfl, rfl, rfl⟩ := stop_unique hitems hstop hitems' hstop'
    rw [hresult, hresult']

theorem parsed_bounded (payload beyond beyond' : List UInt8) :
    parsed payload beyond = parsed payload beyond' :=
  (agree_parse _ _ (SameWindow.create payload beyond beyond')).1

/-- The items of a message are those of the payload when no key has two values. -/
theorem lookup_tableOf {items : List (CfgKey × CfgValue)} :
    (∀ k v, (tableOf ∅ items).lookup k = some v ↔ (k, v) ∈ items) ↔ OneValue items := by
  have hlookup : ∀ k, (tableOf ∅ items).lookup k = items.lookup k := fun k => by
    rw [tableOf, Table.lookup_foldl_emplace]
    rfl
  simp only [hlookup]
  exact Table.lookup_eq_some_iff_mem

theorem Total.clean {payload : List UInt8} (hlong : 4 ≤ payload.length) (h : Total payload) :
    Clean payload := by
  obtain ⟨items, left, stop, hitems, hstop, hresult⟩ :=
    parsedWithin_eq (Nat.le_refl _) hlong []
  rw [← parsed_eq] at hresult
  constructor
  · intro items' key rest hitems' hkey hrest
    by_contra hknown
    have hstop' : StopsAt .unreachable (key ++ rest) := ⟨key, rest, rfl, hkey, hrest, hknown⟩
    obtain ⟨rfl, rfl, rfl⟩ := stop_unique hitems hstop hitems' hstop'
    exact h.reachable [] hresult
  · intro items' left' hitems' hleft'
    obtain ⟨rfl, rfl, rfl⟩ := stop_unique hitems hstop hitems'
      (show StopsAt .done left' from hleft')
    obtain ⟨items', left', hitems', hleft', hlookup⟩ := h.exact [] _ hresult
    obtain ⟨rfl, -, -⟩ := stop_unique hitems' (show StopsAt .done left' from hleft') hitems hstop
    exact lookup_tableOf.1 hlookup

theorem Clean.total {payload : List UInt8} (hlong : 4 ≤ payload.length) (h : Clean payload) :
    Total payload := by
  have hresult : ∀ beyond, ∃ items left stop, Items (payload.drop 4) items left ∧
      StopsAt stop left ∧ stop ≠ .unreachable ∧ parsed payload beyond =
        resultOf payload items stop := by
    intro beyond
    obtain ⟨items, left, stop, hitems, hstop, hresult⟩ :=
      parsedWithin_eq (Nat.le_refl _) hlong beyond
    refine ⟨items, left, stop, hitems, hstop, ?_, hresult⟩
    rintro rfl
    obtain ⟨key, rest, rfl, hkey, hrest, hknown⟩ := hstop
    exact hknown (h.known items key rest hitems hkey hrest)
  refine ⟨fun beyond => ?_, parsed_bounded payload, fun rounds hrounds beyond =>
    parsed_terminates hrounds beyond, fun beyond m hm => ?_⟩
  · obtain ⟨items, left, stop, -, -, hreach, hparsed⟩ := hresult beyond
    rw [hparsed]
    cases stop with
    | done => nofun
    | unreachable => exact absurd rfl hreach
    | truncated => nofun
  · obtain ⟨items, left, stop, hitems, hstop, hreach, hparsed⟩ := hresult beyond
    rw [hparsed] at hm
    cases stop with
    | done =>
      obtain rfl := Result.message.inj hm
      exact ⟨items, left, hitems, hstop, lookup_tableOf.2 (h.oneValue items left hitems hstop)⟩
    | unreachable => exact absurd rfl hreach
    | truncated => cases hm

/-- A payload too short for the header is rejected. -/
theorem total_short {payload : List UInt8} (h : payload.length < 4) : Total payload := by
  have hnull : ∀ beyond, parsed payload beyond = .null := fun beyond =>
    parsedWithin_short _ h beyond
  refine ⟨fun beyond => ?_, parsed_bounded payload, fun rounds hrounds beyond =>
    parsed_terminates hrounds beyond, fun beyond m hm => ?_⟩
  · rw [hnull]
    nofun
  · rw [hnull] at hm
    cases hm

/-- The parser is total on a payload exactly when every key that it reaches, with a byte behind
it, tells a width, and no key is given two values. -/
theorem total_iff_clean (payload : List UInt8) :
    Total payload ↔ (4 ≤ payload.length → Clean payload) := by
  constructor
  · exact fun h hlong => h.clean hlong
  · intro h
    by_cases hlong : 4 ≤ payload.length
    · exact (h hlong).total hlong
    · exact total_short (Nat.not_le.1 hlong)

/-- A key of no width, with one byte behind it. -/
theorem not_total_unknown : ¬Total [1, 0, 0, 0, 0x01, 0x00, 0x00, 0x00, 0x2A] :=
  fun h => h.reachable [] rfl

end CfgValget

end SuplLpp.Ubx
