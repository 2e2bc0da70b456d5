import SuplLpp.Lib.LittleEndian

/-!
# Recorded streams

The file format of `format::tbin`, as the writer writes it and the reader reads it; numbers are
stored as the host has them, the low byte first.

* `Writer`, `Reader` and their functions;
* `Recording`: the calls that the writer has had, with the beginning of one more record;
* `Reader.open_recording`, `Reader.next_record`, `Reader.next_cut`: what the reader makes of it.
-/

namespace SuplLpp.Tbin

structure Message where
  timestampUs : Int64
  data : List UInt8
  deriving DecidableEq

/-- `MAGIC`. -/
def magic : List UInt8 := [0x54, 0x42, 0x49, 0x4E]

/-- `VERSION`. -/
def version : UInt8 := 1

/-! ### The writer -/

namespace Writer

/-- The bytes that `open` writes. -/
def openBytes (streamId : List UInt8) : List UInt8 :=
  let len := streamId.length.toUInt8
  magic ++ [version] ++ [len] ++ streamId.take len.toNat

/-- The bytes that `write` writes; the length is that of the data, as a `uint32_t`. -/
def writeBytes (m : Message) : List UInt8 :=
  LittleEndian.toBytes 8 m.timestampUs.toUInt64.toNat ++
    (LittleEndian.toBytes 4 m.data.length ++ m.data)

end Writer

/-! ### The reader -/

/-- The reader, with the bytes of the file that are not read yet. -/
structure Reader where
  mFile : Option (List UInt8)
  mStreamId : List UInt8
  mEof : Bool
  deriving DecidableEq

namespace Reader

def new : Reader := ⟨none, [], false⟩

/-- `fread` of `n` bytes: what it reads, and what is left. -/
def fread (n : ℕ) (file : List UInt8) : List UInt8 × List UInt8 := (file.take n, file.drop n)

/-- `open`, for a path where this file is, if there is one. -/
def openFile (r : Reader) (file : Option (List UInt8)) : Reader × Bool :=
  match file with
  | none => ({ r with mFile := none }, false)
  | some file =>
    let (found, file) := fread 4 file
    if found.length ≠ 4 ∨ found ≠ magic then ({ r with mFile := some file }, false)
    else
      let (found, file) := fread 1 file
      if found ≠ [version] then ({ r with mFile := some file }, false)
      else
        match fread 1 file with
        | ([len], file) =>
          let (streamId, file) := fread len.toNat file
          ({ r with mFile := some file, mStreamId := streamId }, streamId.length = len.toNat)
        | (_, file) => ({ r with mFile := some file }, false)

/-- `next`, with the message that the caller hands in. -/
def next (r : Reader) (msg : Message) : Reader × Message × Bool :=
  match r.mFile, r.mEof with
  | some file, false =>
    let (ts, file) := fread 8 file
    if ts.length ≠ 8 then ({ r with mFile := some file, mEof := true }, msg, false)
    else
      let (length, file) := fread 4 file
      if length.length ≠ 4 then ({ r with mFile := some file, mEof := true }, msg, false)
      else
        let length := LittleEndian.ofBytes length
        let (data, file) := fread length file
        -- the vector has its size before anything is read into it
        let msg : Message := ⟨(UInt64.ofNat (LittleEndian.ofBytes ts)).toInt64,
          data ++ List.replicate (length - data.length) 0⟩
        if data.length ≠ length then ({ r with mFile := some file, mEof := true }, msg, false)
        else ({ r with mFile := some file }, msg, true)
  | _, _ => (r, msg, false)

end Reader

/-! ### Recordings -/

/-- What the writer has written: the records, in the order of their time, and the beginning of one
more. -/
structure Recording where
  streamId : List UInt8
  records : List Message
  cut : List UInt8
  short : ∀ m ∈ records, m.data.length < 2 ^ 32
  ordered : records.Pairwise fun a b => a.timestampUs.toInt ≤ b.timestampUs.toInt
  unfinished : ∃ m : Message, m.data.length < 2 ^ 32 ∧ cut <+: Writer.writeBytes m ∧
    cut ≠ Writer.writeBytes m

/-- The bytes of the file. -/
def Recording.bytes (r : Recording) : List UInt8 :=
  Writer.openBytes r.streamId ++ (r.records.flatMap Writer.writeBytes ++ r.cut)

namespace Reader

theorem fread_append {n : ℕ} {found : List UInt8} (h : found.length = n) (rest : List UInt8) :
    fread n (found ++ rest) = (found, rest) := by
  rw [fread, List.take_left' h, List.drop_left' h]

theorem fread_short {n : ℕ} {file : List UInt8} (h : file.length < n) :
    (fread n file).1.length ≠ n := by
  rw [fread, List.length_take]
  omega

theorem open_recording (r : Recording) :
    ∃ streamId, new.openFile (some r.bytes) =
      (⟨some (r.records.flatMap Writer.writeBytes ++ r.cut), streamId, false⟩, true) := by
  have hlength : (r.streamId.take r.streamId.length.toUInt8.toNat).length =
      r.streamId.length.toUInt8.toNat := by
    rw [List.length_take, Nat.min_eq_left]
    rw [Nat.toUInt8_eq, UInt8.toNat_ofNat']
    exact Nat.mod_le _ _
  refine ⟨r.streamId.take r.streamId.length.toUInt8.toNat, ?_⟩
  have hmagic : magic.length = 4 := rfl
  have hone : ∀ x : UInt8, [x].length = 1 := fun _ => rfl
  simp only [Recording.bytes, Writer.openBytes, List.append_assoc, openFile, fread_append hmagic,
    fread_append (hone _), fread_append hlength, hmagic, hlength, ne_eq, not_true_eq_false,
    or_self, if_false, decide_true]
  rfl

/-- The bytes of a time are read as they are written. -/
theorem ofNat_ofBytes_timestamp (ts : Int64) :
    (UInt64.ofNat (LittleEndian.ofBytes (LittleEndian.toBytes 8 ts.toUInt64.toNat))).toInt64 =
      ts := by
  rw [LittleEndian.ofBytes_toBytes ts.toUInt64.toNat_lt, UInt64.ofNat_toNat,
    Int64.toInt64_toUInt64]

/-- **A record is read as it is written.** -/
theorem next_record {m : Message} (hm : m.data.length < 2 ^ 32) (rest streamId : List UInt8)
    (msg : Message) :
    (⟨some (Writer.writeBytes m ++ rest), streamId, false⟩ : Reader).next msg =
      (⟨some rest, streamId, false⟩, m, true) := by
  have hdata : LittleEndian.ofBytes (LittleEndian.toBytes 4 m.data.length) = m.data.length :=
    LittleEndian.ofBytes_toBytes hm
  simp only [next, Writer.writeBytes, List.append_assoc,
    fread_append (LittleEndian.length_toBytes 8 _), fread_append (LittleEndian.length_toBytes 4 _),
    LittleEndian.length_toBytes, hdata, fread_append (rfl : m.data.length = m.data.length),
    ofNat_ofBytes_timestamp, ne_eq, not_true_eq_false, if_false, Nat.sub_self,
    List.replicate_zero, List.append_nil]

/-- A beginning of two parts ends in the first one, or has it whole. -/
theorem prefix_append_cases {a b c : List UInt8} (h : c <+: a ++ b) (hne : c ≠ a ++ b) :
    c.length < a.length ∨ ∃ c', c = a ++ c' ∧ c' <+: b ∧ c' ≠ b := by
  rcases Nat.lt_or_ge c.length a.length with hlt | hge
  · exact .inl hlt
  · obtain ⟨c', rfl⟩ := List.prefix_of_prefix_length_le (List.prefix_append a b) h hge
    exact .inr ⟨c', rfl, (List.prefix_append_right_inj a).1 h, fun heq => hne (by rw [heq])⟩

/-- **The beginning of a record** is not read as one. -/
theorem next_cut {m : Message} (hm : m.data.length < 2 ^ 32) {cut : List UInt8}
    (hcut : cut <+: Writer.writeBytes m) (hne : cut ≠ Writer.writeBytes m)
    (streamId : List UInt8) (msg : Message) :
    ((⟨some cut, streamId, false⟩ : Reader).next msg).2.2 = false := by
  rcases prefix_append_cases hcut hne with hlt | ⟨cut, rfl, hcut, hne⟩
  · rw [LittleEndian.length_toBytes] at hlt
    simp only [next, if_pos (fread_short hlt)]
  · have hts := fread_append (LittleEndian.length_toBytes 8 m.timestampUs.toUInt64.toNat) cut
    rcases prefix_append_cases hcut hne with hlt | ⟨cut, rfl, hcut, hne⟩
    · rw [LittleEndian.length_toBytes] at hlt
      simp only [next, hts, LittleEndian.length_toBytes, ne_eq, not_true_eq_false, if_false]
      rw [if_pos (fread_short hlt)]
    · have hdata : LittleEndian.ofBytes (LittleEndian.toBytes 4 m.data.length) = m.data.length :=
        LittleEndian.ofBytes_toBytes hm
      have hlt : cut.length < m.data.length := by
        refine lt_of_le_of_ne hcut.length_le fun heq => hne (hcut.eq_of_length heq)
      simp only [next, hts, LittleEndian.length_toBytes, ne_eq, not_true_eq_false, if_false,
        fread_append (LittleEndian.length_toBytes 4 _), hdata]
      rw [if_pos (fread_short hlt)]

end Reader

end SuplLpp.Tbin
