import SuplLpp.Rtcm.Messages

/-!
# What the residual messages say

The messages 1030 and 1031 have a header, whose last number is a count of satellites, and a block
for each satellite.  A receiver reads the header and then as many blocks as it announces.

* `readResiduals`, the receiver; `headerNumbers` and `blockNumbers`, what it should read;
* `residualsPayload_bits`: what is written, each number cut to the width of its field;
* `residuals_faithful_iff`: both messages say what the list of LPP says exactly if there are at
  most 31 satellites, none of them the last one of LPP, the reference station has a number of 12
  bits, and the epoch is in a known system and has a time of day there.
-/

namespace SuplLpp.Rtcm

open Asn Bits

/-! ### The receiver -/

def headerWidths (timeBits : ℕ) : List ℕ := [12, timeBits, 12, 7, 5]

def blockWidths : List ℕ := [6, 8, 9, 6, 10, 10]

/-- The header, and as many blocks as its last number says. -/
def readResiduals (timeBits : ℕ) : Reader (List ℕ × List (List ℕ)) := do
  let header ← Reader.forEach Reader.nat (headerWidths timeBits)
  let blocks ← Reader.forEach (fun _ => Reader.forEach Reader.nat blockWidths)
    (List.range (header.getD 4 0))
  return (header, blocks)

/-- The numbers of the header, before they are cut to their widths. -/
def headerNumbers (messageId : ℕ) (time : ℤ) (src : GnssRtkResiduals) : List ℤ :=
  [messageId, time, src.referenceStationId.1, src.nRefs.1, src.rtkResidualsList.1.length]

/-- The numbers of a block: satellites are counted from one. -/
def blockNumbers (e : RtkResidualsElement) : List ℤ :=
  [e.svId.1 + 1, e.sOc.1, e.sOd.1, e.sOh.1, e.sLc.1, e.sLd.1]

/-- The payload of a frame: what is between the length and the checksum. -/
def framePayload (data : List UInt8) : List UInt8 := (data.drop 3).take (data.length - 6)

/-- The message is read as what the LPP list says, down to the padding of the last byte. -/
def ResidualsFaithful (timeBits : ℕ) (header : List ℤ) (blocks : List (List ℤ))
    (message : Message) : Prop :=
  ∃ hs bss rest, readResiduals timeBits (bytesBits (framePayload message.data)) =
      some ((hs, bss), rest) ∧ rest.length < 8 ∧ hs.map (fun n : ℕ => (n : ℤ)) = header ∧
    bss.map (fun ns => ns.map fun n : ℕ => (n : ℤ)) = blocks

/-! ### Numbers in fields -/

/-- A number cut to a width. -/
def cut (width : ℕ) (value : ℤ) : ℕ := (value % 2 ^ width).toNat

theorem cut_eq_iff {width : ℕ} {value : ℤ} :
    (cut width value : ℤ) = value ↔ 0 ≤ value ∧ value < 2 ^ width := by
  have hpos : (0 : ℤ) < 2 ^ width := by positivity
  unfold cut
  rw [Int.toNat_of_nonneg (Int.emod_nonneg _ hpos.ne')]
  constructor
  · intro h
    rw [← h]
    exact ⟨Int.emod_nonneg _ hpos.ne', Int.emod_lt_of_pos _ hpos⟩
  · rintro ⟨h0, hlt⟩
    exact Int.emod_eq_of_lt h0 hlt

/-- The bits of a row of fields. -/
def fieldBits (fields : List (ℕ × ℤ)) : List Bool := fields.flatMap fun f => ofNat f.1 (cut f.1 f.2)

theorem reads_fieldBits (widths : List ℕ) (values : List ℤ) (h : widths.length = values.length) :
    Reads (Reader.forEach Reader.nat widths) (fieldBits (widths.zip values))
      ((widths.zip values).map fun f => cut f.1 f.2) := by
  have hreads : Reads (Reader.forEach Reader.nat ((widths.zip values).map Prod.fst))
      ((widths.zip values).flatMap fun f => ofNat f.1 (cut f.1 f.2))
      ((widths.zip values).map fun f => cut f.1 f.2) :=
    Reads.forEach Prod.fst fun f _ => by
      have hf := Reads.nat f.1 (cut f.1 f.2)
      have hlt : cut f.1 f.2 < 2 ^ f.1 := by
        have hpos : (0 : ℤ) < 2 ^ f.1 := by positivity
        have hmod := Int.emod_lt_of_pos f.2 hpos
        unfold cut
        zify
        rw [Int.toNat_of_nonneg (Int.emod_nonneg _ hpos.ne')]
        exact hmod
      rwa [Nat.mod_eq_of_lt hlt] at hf
  rwa [List.map_fst_zip h.le] at hreads

/-- What is read is what was meant exactly if every number has room. -/
theorem map_cut_eq_iff (fields : List (ℕ × ℤ)) :
    (fields.map fun f => cut f.1 f.2).map (fun n : ℕ => (n : ℤ)) = fields.map Prod.snd ↔
      ∀ f ∈ fields, 0 ≤ f.2 ∧ f.2 < 2 ^ f.1 := by
  rw [List.map_map, List.map_inj_left]
  exact forall₂_congr fun f _ => cut_eq_iff

/-! ### What is written -/

section Writing

variable {w : ℕ}

theorem ofNat_cut (value : ℤ) {k : ℕ} (hk : w ≤ k) :
    ofNat w (value % 2 ^ k).toNat = ofNat w (cut w value) := by
  have hdvd : (2 : ℤ) ^ w ∣ 2 ^ k := pow_dvd_pow 2 hk
  have hpos : (0 : ℤ) < 2 ^ k := by positivity
  have hposw : (0 : ℤ) < 2 ^ w := by positivity
  rw [ofNat_eq_ofNat]
  unfold cut
  zify
  rw [Int.toNat_of_nonneg (Int.emod_nonneg _ hpos.ne'),
    Int.toNat_of_nonneg (Int.emod_nonneg _ hposw.ne'), Int.emod_emod_of_dvd _ hdvd,
    Int.emod_emod_of_dvd _ dvd_rfl]

theorem emits_u8_ofInt (hw : w ≤ 8) (value : ℤ) :
    Encoder.Emits (fun encoder => encoder.u8 w (UInt8.ofInt value)) (ofNat w (cut w value)) := by
  have h := Encoder.emits_u8 hw (UInt8.ofInt value)
  rw [← ofNat_cut value hw]
  rw [UInt8.ofInt, UInt8.toNat_ofNat'] at h
  rwa [Nat.mod_eq_of_lt (by omega)] at h

theorem emits_u32_ofInt (hw : w ≤ 32) (value : ℤ) :
    Encoder.Emits (fun encoder => encoder.u32 w (UInt32.ofInt value)) (ofNat w (cut w value)) := by
  have h := Encoder.emits_u32 hw (UInt32.ofInt value)
  rw [← ofNat_cut value hw]
  rw [UInt32.ofInt, UInt32.toNat_ofNat'] at h
  rwa [Nat.mod_eq_of_lt (by omega)] at h

/-- The numbers of LPP come out of their scaling unchanged. -/
theorem castU32_mul_div (n : ℤ) {scale : ℚ} (h : scale ≠ 0) :
    castU32 (n * scale / scale) = UInt32.ofInt n := by
  rw [mul_div_cancel_right₀ _ h, castU32, trunc]
  split_ifs
  · rw [Int.floor_intCast]
  · rw [Int.ceil_intCast]

theorem emits_block (gnssId : GenericGnssId) (number : ℤ) (e : RtkResidualsElement) :
    Encoder.Emits (residualFields · number (extractResidual gnssId e)) (fieldBits (blockWidths.zip
      [number, e.sOc.1, e.sOd.1, e.sOh.1, e.sLc.1, e.sLd.1])) := by
  have h1 := (emits_u8_ofInt (show 6 ≤ 8 by omega) number).comp
    (emits_u32_ofInt (show 8 ≤ 32 by omega) e.sOc.1)
  have h2 := (emits_u32_ofInt (show 9 ≤ 32 by omega) e.sOd.1).comp
    (emits_u32_ofInt (show 6 ≤ 32 by omega) e.sOh.1)
  have h3 := (emits_u32_ofInt (show 10 ≤ 32 by omega) e.sLc.1).comp
    (emits_u32_ofInt (show 10 ≤ 32 by omega) e.sLd.1)
  have h := h1.comp (h2.comp h3)
  have hbits : fieldBits (blockWidths.zip [number, e.sOc.1, e.sOd.1, e.sOh.1, e.sLc.1, e.sLd.1]) =
      ofNat 6 (cut 6 number) ++ ofNat 8 (cut 8 e.sOc.1) ++ (ofNat 9 (cut 9 e.sOd.1) ++
        ofNat 6 (cut 6 e.sOh.1) ++ (ofNat 10 (cut 10 e.sLc.1) ++ ofNat 10 (cut 10 e.sLd.1))) := by
    simp [fieldBits, blockWidths]
  rw [hbits]
  refine Eq.mp (congrArg (Encoder.Emits · _) ?_) h
  funext encoder
  simp only [residualFields, extractResidual]
  rw [castU32_mul_div _ (by norm_num), castU32_mul_div _ (by norm_num),
    castU32_mul_div _ (by norm_num), castU32_mul_div _ (by norm_num),
    castU32_mul_div _ (by norm_num)]

end Writing

/-- The ids of LPP are ids of satellites. -/
theorem fromLpp_svId (gnss : Gnss) (e : RtkResidualsElement) :
    SatelliteId.fromLpp gnss e.svId.1 = ⟨gnss, e.svId.1⟩ := by
  have h63 := e.svId.2.2
  exact if_neg (by unfold lppSatelliteIdLimit; omega)

section Message

variable {gnssId : GenericGnssId} {number : SatelliteId → Maybe ℤ}
  {src : GnssRtkResiduals} {residuals : Residuals}

/-- **The bits of a payload**: the header, and a block for every element of the list. -/
theorem residualsPayload_bits
    (hnumber : ∀ e : RtkResidualsElement,
      number (SatelliteId.fromLpp gnssId.gnss e.svId.1) = some (e.svId.1 + 1))
    (h : extractAnyResiduals gnssId src = some residuals) (messageId : UInt16) {timeBits : ℕ}
    (htime : timeBits ≤ 32) (time : ℤ) :
    (residualsPayload messageId timeBits time gnssId.gnss number residuals).Holds
      (fieldBits ((headerWidths timeBits).zip (headerNumbers messageId.toNat time src)) ++
        src.rtkResidualsList.1.flatMap fun e => fieldBits (blockWidths.zip (blockNumbers e))) := by
  obtain ⟨tai, -, rfl⟩ := Option.map_eq_some_iff.1 h
  set elements := src.rtkResidualsList.1 with helements
  -- every satellite of the list is counted
  have hfilter : (elements.map (extractResidual gnssId)).filter (fun satellite =>
      decide (satellite.id.gnss = gnssId.gnss) && (number satellite.id).isSome) =
        elements.map (extractResidual gnssId) := by
    rw [List.filter_eq_self]
    intro satellite hsatellite
    obtain ⟨e, -, rfl⟩ := List.mem_map.1 hsatellite
    have hid : (extractResidual gnssId e).id = ⟨gnssId.gnss, e.svId.1⟩ := fromLpp_svId _ e
    have hsome := hnumber e
    change number (extractResidual gnssId e).id = _ at hsome
    rw [hsome, hid]
    simp [SatelliteId.gnss]
  have hloop : Encoder.Emits (fun encoder => (elements.map (extractResidual gnssId)).foldl
      (fun encoder satellite => residualFields encoder (number satellite.id).value satellite)
        encoder)
      (elements.flatMap fun e => fieldBits (blockWidths.zip (blockNumbers e))) := by
    simp only [List.foldl_map]
    apply Encoder.Emits.foldl
    intro e _
    have hvalue : (number (extractResidual gnssId e).id).value = e.svId.1 + 1 := by
      change (number (SatelliteId.fromLpp gnssId.gnss e.svId.1)).value = _
      rw [hnumber e]
      rfl
    rw [hvalue]
    exact emits_block gnssId _ e
  have hbits : fieldBits ((headerWidths timeBits).zip (headerNumbers messageId.toNat time src)) =
      ofNat 12 messageId.toNat ++ ofNat timeBits (cut timeBits time) ++
        ofNat 12 (UInt32.ofInt src.referenceStationId.1).toUInt16.toNat ++
          ofNat 7 (UInt32.ofInt src.nRefs.1).toUInt8.toNat ++
            ofNat 5 elements.length.toUInt8.toNat := by
    have h12 : ofNat 12 (cut 12 messageId.toNat) = ofNat 12 messageId.toNat := by
      rw [ofNat_eq_ofNat, cut]
      omega
    have href : ofNat 12 (cut 12 src.referenceStationId.1) =
        ofNat 12 (UInt32.ofInt src.referenceStationId.1).toUInt16.toNat := by
      rw [ofNat_eq_ofNat, cut, UInt32.toNat_toUInt16, UInt32.ofInt, UInt32.toNat_ofNat']
      omega
    have hrefs : ofNat 7 (cut 7 src.nRefs.1) =
        ofNat 7 (UInt32.ofInt src.nRefs.1).toUInt8.toNat := by
      rw [ofNat_eq_ofNat, cut, UInt32.toNat_toUInt8, UInt32.ofInt, UInt32.toNat_ofNat']
      omega
    have hcount : ofNat 5 (cut 5 elements.length) = ofNat 5 elements.length.toUInt8.toNat := by
      rw [ofNat_eq_ofNat, cut, Nat.toUInt8_eq, UInt8.toNat_ofNat']
      omega
    simp [fieldBits, headerWidths, headerNumbers, ← helements, h12, href, hrefs, hcount]
  have h0 := (Encoder.emits_u16 (show 12 ≤ 16 by omega) messageId).new
  have h1 := emits_u32_ofInt htime time _ _ h0
  have h2 := Encoder.emits_u16 (show 12 ≤ 16 by omega)
    (UInt32.ofInt src.referenceStationId.1).toUInt16 _ _ h1
  have h3 := Encoder.emits_u8 (show 7 ≤ 8 by omega) (UInt32.ofInt src.nRefs.1).toUInt8 _ _ h2
  have h4 := Encoder.emits_u8 (show 5 ≤ 8 by omega) elements.length.toUInt8 _ _ h3
  have h5 := hloop _ _ h4
  rw [hbits]
  unfold residualsPayload
  dsimp only
  rw [hfilter, List.length_map]
  exact h5

end Message

/-! ### What is read -/

theorem framePayload_frame {encoder : Encoder} (hle : encoder.byteCount ≤ 1023) :
    framePayload (frame encoder) = encoder.mBuffer := by
  obtain ⟨c, -, hframe, -⟩ := (frame_isFrame hle).bytes
  unfold framePayload
  rw [hframe]
  simp

theorem length_fieldBits (fields : List (ℕ × ℤ)) :
    (fieldBits fields).length = (fields.map Prod.fst).sum := by
  simp [fieldBits, List.length_flatMap]

/-- The header is read, whatever follows, and then the blocks that it announces. -/
theorem readResiduals_header (timeBits messageId : ℕ) (time : ℤ) (src : GnssRtkResiduals)
    (rest : List Bool) :
    readResiduals timeBits
      (fieldBits ((headerWidths timeBits).zip (headerNumbers messageId time src)) ++ rest) =
      (Reader.forEach (fun _ => Reader.forEach Reader.nat blockWidths)
        (List.range (cut 5 src.rtkResidualsList.1.length)) rest).map fun p =>
          ((((headerWidths timeBits).zip (headerNumbers messageId time src)).map
            fun f => cut f.1 f.2, p.1), p.2) := by
  have hheader :=
    reads_fieldBits (headerWidths timeBits) (headerNumbers messageId time src) rfl rest
  set hs := ((headerWidths timeBits).zip (headerNumbers messageId time src)).map
    fun f => cut f.1 f.2 with hhs
  have hcount : hs.getD 4 0 = cut 5 src.rtkResidualsList.1.length := rfl
  change (Reader.forEach Reader.nat (headerWidths timeBits) _).bind (fun p =>
    (Reader.forEach (fun _ => Reader.forEach Reader.nat blockWidths)
      (List.range (p.1.getD 4 0)) p.2).bind fun q => some ((p.1, q.1), q.2)) = _
  rw [hheader, Option.bind_some, hcount]
  cases Reader.forEach (fun _ => Reader.forEach Reader.nat blockWidths)
    (List.range (cut 5 src.rtkResidualsList.1.length)) rest <;> rfl

/-- As many blocks are read as there are keys, if there are as many elements. -/
theorem reads_blocks {elements : List RtkResidualsElement} {keys : List ℕ}
    (h : keys.length = elements.length) :
    Reads (Reader.forEach (fun _ => Reader.forEach Reader.nat blockWidths) keys)
      (elements.flatMap fun e => fieldBits (blockWidths.zip (blockNumbers e)))
      (elements.map fun e => (blockWidths.zip (blockNumbers e)).map fun f => cut f.1 f.2) := by
  have hreads : Reads (Reader.forEach (fun _ => Reader.forEach Reader.nat blockWidths)
      ((elements.zip keys).map Prod.snd))
      ((elements.zip keys).flatMap fun p => fieldBits (blockWidths.zip (blockNumbers p.1)))
      ((elements.zip keys).map fun p =>
        (blockWidths.zip (blockNumbers p.1)).map fun f => cut f.1 f.2) :=
    Reads.forEach Prod.snd fun p _ => reads_fieldBits blockWidths (blockNumbers p.1) rfl
  have hfst : (elements.zip keys).map Prod.fst = elements := List.map_fst_zip h.ge
  rw [List.map_snd_zip h.le] at hreads
  nth_rewrite 1 [← hfst]
  nth_rewrite 2 [← hfst]
  rwa [List.flatMap_map, List.map_map]

/-- What LPP must say for the fields to have room. -/
def ResidualsFit (src : GnssRtkResiduals) : Prop :=
  src.rtkResidualsList.1.length ≤ 31 ∧ (∀ e ∈ src.rtkResidualsList.1, e.svId.1 ≤ 62) ∧
    src.referenceStationId.1 ≤ 4095

section Faithful

variable {gnssId : GenericGnssId} {number : SatelliteId → Maybe ℤ}
  {src : GnssRtkResiduals} {residuals : Residuals}

/-- The header has room for its numbers. -/
theorem header_fits_iff {messageId timeBits : ℕ} (hid : messageId < 4096) {time : ℤ} :
    (∀ f ∈ (headerWidths timeBits).zip (headerNumbers messageId time src),
      0 ≤ f.2 ∧ f.2 < 2 ^ f.1) ↔
      src.rtkResidualsList.1.length ≤ 31 ∧ src.referenceStationId.1 ≤ 4095 ∧
        0 ≤ time ∧ time < 2 ^ timeBits := by
  have href := src.referenceStationId.2.1
  obtain ⟨hrefs, hrefs'⟩ := src.nRefs.2
  simp only [headerWidths, headerNumbers, List.zip_cons_cons, List.zip_nil_right,
    List.mem_cons, List.not_mem_nil, or_false, forall_eq_or_imp, forall_eq]
  constructor
  · rintro ⟨-, htime, hstation, -, hcount⟩
    exact ⟨by omega, by omega, htime⟩
  · rintro ⟨hcount, hstation, htime⟩
    exact ⟨by omega, htime, by omega, by omega, by omega⟩

/-- A block has room for its numbers. -/
theorem block_fits_iff {e : RtkResidualsElement} :
    (∀ f ∈ blockWidths.zip (blockNumbers e), 0 ≤ f.2 ∧ f.2 < 2 ^ f.1) ↔ e.svId.1 ≤ 62 := by
  obtain ⟨hsv, hsv'⟩ := e.svId.2
  obtain ⟨hoc, hoc'⟩ := e.sOc.2
  obtain ⟨hod, hod'⟩ := e.sOd.2
  obtain ⟨hoh, hoh'⟩ := e.sOh.2
  obtain ⟨hlc, hlc'⟩ := e.sLc.2
  obtain ⟨hld, hld'⟩ := e.sLd.2
  simp only [blockWidths, blockNumbers, List.zip_cons_cons, List.zip_nil_right,
    List.mem_cons, List.not_mem_nil, or_false, forall_eq_or_imp, forall_eq]
  constructor
  · rintro ⟨h, -⟩
    omega
  · intro h
    exact ⟨by omega, by omega, by omega, by omega, by omega, by omega⟩

/-- **When a residual message says what the list says.** -/
theorem residualsFaithful_iff
    (hnumber : ∀ e : RtkResidualsElement,
      number (SatelliteId.fromLpp gnssId.gnss e.svId.1) = some (e.svId.1 + 1))
    (h : extractAnyResiduals gnssId src = some residuals) {messageId : UInt16} {id : UInt32}
    (hid : messageId.toNat < 4096) {timeBits : ℕ} (htime : timeBits ≤ 32) (time : ℤ) :
    ResidualsFaithful timeBits (headerNumbers messageId.toNat time src)
        (src.rtkResidualsList.1.map blockNumbers)
        ⟨id, frame (residualsPayload messageId timeBits time gnssId.gnss number residuals)⟩ ↔
      (0 ≤ time ∧ time < 2 ^ timeBits) ∧ ResidualsFit src := by
  have hbits := residualsPayload_bits hnumber h messageId htime time
  set encoder := residualsPayload messageId timeBits time gnssId.gnss number residuals
  set elements := src.rtkResidualsList.1 with helements
  have hcount : elements.length ≤ 64 := src.rtkResidualsList.2.2
  have hblocks : (elements.flatMap fun e => fieldBits (blockWidths.zip (blockNumbers e))).length =
      49 * elements.length := by
    rw [List.length_flatMap, List.map_congr_left fun e _ => length_fieldBits _]
    simp [blockWidths, blockNumbers, Nat.mul_comm]
  have hle : encoder.byteCount ≤ 1023 := by
    rw [hbits.byteCount_eq, List.length_append, hblocks, length_fieldBits]
    simp [headerWidths, headerNumbers]
    omega
  obtain ⟨pad, hpad, hbuffer⟩ := hbits.bits_eq
  unfold ResidualsFaithful
  simp only
  rw [framePayload_frame hle, hbuffer, List.append_assoc, readResiduals_header]
  have hheader : (((headerWidths timeBits).zip (headerNumbers messageId.toNat time src)).map
      fun f => cut f.1 f.2).map (fun n : ℕ => (n : ℤ)) = headerNumbers messageId.toNat time src ↔
      elements.length ≤ 31 ∧ src.referenceStationId.1 ≤ 4095 ∧ 0 ≤ time ∧ time < 2 ^ timeBits := by
    rw [← header_fits_iff hid, ← map_cut_eq_iff]
    rfl
  -- as many blocks as there are elements, if their number has room
  have hread : elements.length ≤ 31 →
      Reader.forEach (fun _ => Reader.forEach Reader.nat blockWidths)
        (List.range (cut 5 elements.length))
        ((elements.flatMap fun e => fieldBits (blockWidths.zip (blockNumbers e))) ++
          List.replicate pad false) =
        some (elements.map fun e => (blockWidths.zip (blockNumbers e)).map fun f => cut f.1 f.2,
          List.replicate pad false) := by
    intro h31
    have hcut : cut 5 elements.length = elements.length := by
      unfold cut
      omega
    rw [hcut]
    exact reads_blocks (List.length_range ..) _
  constructor
  · rintro ⟨hs, bss, rest, hsome, -, hhs, hbss⟩
    obtain ⟨p, hp, heq⟩ := Option.map_eq_some_iff.1 hsome
    simp only [Prod.mk.injEq] at heq
    obtain ⟨⟨rfl, rfl⟩, rfl⟩ := heq
    obtain ⟨h31, hstation, hfits⟩ := hheader.1 hhs
    rw [hread h31] at hp
    obtain rfl := Option.some.inj hp
    refine ⟨hfits, h31, ?_, hstation⟩
    intro e he
    rw [List.map_map, List.map_inj_left] at hbss
    exact block_fits_iff.1 ((map_cut_eq_iff _).1 (hbss e he))
  · rintro ⟨hfits, h31, hsv, hstation⟩
    refine ⟨_, _, _, by rw [hread h31]; rfl, ?_, hheader.2 ⟨h31, hstation, hfits⟩, ?_⟩
    · rw [List.length_replicate]
      exact hpad
    · rw [List.map_map]
      apply List.map_congr_left
      intro e he
      exact (map_cut_eq_iff _).2 (block_fits_iff.2 (hsv e he))

end Faithful

/-! ### The epochs -/

/-- The second of the week of a time that is not before the epoch of its system. -/
theorem timeOfWeek_seconds {t : Ts.Timestamp} (h : 0 ≤ t) :
    0 ≤ (Ts.timeOfWeek t).seconds ∧ (Ts.timeOfWeek t).seconds < 604800 := by
  have hfloor : 0 ≤ ⌊t⌋ := Int.floor_nonneg.2 h
  have hweek : Ts.week t = ⌊t⌋ / 604800 := Int.tdiv_eq_ediv_of_nonneg hfloor
  have hseconds : (Ts.timeOfWeek t).seconds = ⌊t⌋ - Ts.week t * 604800 := Int.floor_sub_intCast ..
  rw [hseconds, hweek]
  omega

/-- The second of the day, which is negative inside a day before the epoch. -/
theorem timeOfDay_seconds (t : Ts.Timestamp) :
    (0 ≤ (Ts.timeOfDay t).seconds ∧ (Ts.timeOfDay t).seconds < 2 ^ 17) ↔
      0 ≤ t ∨ 86400 ∣ ⌊t⌋ := by
  have hseconds : (Ts.timeOfDay t).seconds = ⌊t⌋ - ⌊t⌋.tdiv 86400 * 86400 :=
    Int.floor_sub_intCast ..
  have hmod : ⌊t⌋ - ⌊t⌋.tdiv 86400 * 86400 = ⌊t⌋.tmod 86400 := by
    have := Int.tmod_add_mul_tdiv ⌊t⌋ 86400
    omega
  rw [hseconds, hmod, show 0 ≤ t ↔ 0 ≤ ⌊t⌋ from Int.floor_nonneg.symm]
  rcases le_or_gt 0 ⌊t⌋ with hnn | hneg
  · have hemod : ⌊t⌋.tmod 86400 = ⌊t⌋ % 86400 := Int.tmod_eq_emod_of_nonneg hnn
    rw [hemod]
    constructor
    · intro _
      exact Or.inl hnn
    · intro _
      omega
  · -- before the epoch the remainder has the sign of the time
    have hle : ⌊t⌋.tmod 86400 ≤ 0 := by
      have hnn := Int.tmod_nonneg 86400 (show 0 ≤ -⌊t⌋ by omega)
      rw [Int.neg_tmod] at hnn
      omega
    constructor
    · rintro ⟨h0, -⟩
      exact Or.inr (Int.dvd_of_tmod_eq_zero (le_antisymm hle h0))
    · rintro (h | h)
      · omega
      · rw [Int.tmod_eq_zero_of_dvd h]
        norm_num

/-- An epoch of LPP is a time of one of the systems, and not before its epoch. -/
theorem epochTime_cases {srcTime : GnssSystemTime} {tai : Ts.Tai}
    (h : epochTime srcTime = some tai) : ∃ t : Ts.Timestamp, 0 ≤ t ∧
      (tai = .ofGps ⟨t⟩ ∨ tai = .ofGlo ⟨t⟩ ∨ tai = .ofGst ⟨t⟩ ∨ tai = .ofBdt ⟨t⟩) := by
  have hday : (0 : ℚ) ≤ srcTime.gnssDayNumber.1 := by exact_mod_cast srcTime.gnssDayNumber.2.1
  have htod : (0 : ℚ) ≤ srcTime.gnssTimeOfDay.1 := by exact_mod_cast srcTime.gnssTimeOfDay.2.1
  obtain ⟨system, -, rfl⟩ := Option.map_eq_some_iff.1 h
  have hpos : ∀ frac : ℚ, 0 ≤ frac → 0 ≤ Ts.fromDayTod srcTime.gnssDayNumber.1
      (srcTime.gnssTimeOfDay.1 + frac) := by
    intro frac hfrac
    unfold Ts.fromDayTod Ts.dayInSeconds
    push_cast
    linarith
  cases system <;> [
    refine ⟨_, hpos _ ?_, Or.inl rfl⟩;
    refine ⟨_, hpos _ ?_, Or.inr (Or.inl rfl)⟩;
    refine ⟨_, hpos _ ?_, Or.inr (Or.inr (Or.inl rfl))⟩;
    refine ⟨_, hpos _ ?_, Or.inr (Or.inr (Or.inr rfl))⟩]
  all_goals
    cases srcTime.gnssTimeOfDayFracMsec with
    | none => exact le_rfl
    | some msec =>
      have hmsec : (0 : ℚ) ≤ msec.1 := by exact_mod_cast msec.2.1
      exact div_nonneg hmsec (by norm_num)

/-- No epoch of LPP lies before the start of GPS time. -/
theorem epochTime_gps {srcTime : GnssSystemTime} {tai : Ts.Tai} (h : epochTime srcTime = some tai) :
    0 ≤ (Ts.Gps.ofTai tai).mTm := by
  obtain ⟨t, ht, rfl | rfl | rfl | rfl⟩ := epochTime_cases h
  · rw [Ts.Gps.ofTai_ofGps]
    exact ht
  · simp only [Ts.Gps.ofTai, Ts.Tai.ofGlo, Ts.Tai.ofUtc, Ts.Utc.ofTai, Ts.tai2utc, Ts.utc2tai,
      Ts.toUtc, Ts.utc2glo, Ts.utc2gps, Ts.dayInSeconds, Ts.hourInSeconds, Ts.yearInSeconds]
    push_cast
    linarith
  · simp only [Ts.Gps.ofTai, Ts.Tai.ofGst, Ts.Tai.ofUtc, Ts.Utc.ofTai, Ts.tai2utc, Ts.utc2tai,
      Ts.toUtc, Ts.utc2gst, Ts.utc2gps, Ts.dayInSeconds, Ts.leapSecondsCount, Ts.yearInSeconds]
    push_cast
    linarith
  · simp only [Ts.Gps.ofTai, Ts.Tai.ofBdt, Ts.Tai.ofUtc, Ts.Utc.ofTai, Ts.tai2utc, Ts.utc2tai,
      Ts.toUtc, Ts.utc2bdt, Ts.utc2gps, Ts.dayInSeconds, Ts.leapSecondsCount, Ts.yearInSeconds]
    push_cast
    linarith

/-! ### Both messages -/

/-- The message of a list of LPP, if there is one, says what the list says. -/
def Faithful1030 (src : GnssRtkResiduals) : Prop :=
  ∃ residuals, extractAnyResiduals .gps src = some residuals ∧
    ResidualsFaithful 20
      (headerNumbers 1030 (Ts.timeOfWeek (Ts.Gps.ofTai residuals.time).mTm).seconds src)
      (src.rtkResidualsList.1.map blockNumbers) (generate1030 residuals)

def Faithful1031 (src : GnssRtkResiduals) : Prop :=
  ∃ residuals, extractAnyResiduals .glonass src = some residuals ∧
    ResidualsFaithful 17
      (headerNumbers 1031 (Ts.timeOfDay (Ts.Glo.ofTai residuals.time).mTm).seconds src)
      (src.rtkResidualsList.1.map blockNumbers) (generate1031 residuals)

theorem asDf009_fromLpp (e : RtkResidualsElement) :
    (SatelliteId.fromLpp GenericGnssId.gps.gnss e.svId.1).asDf009 = some (e.svId.1 + 1) := by
  obtain ⟨h0, h63⟩ := e.svId.2
  have hlt : e.svId.1 < lppSatelliteIdLimit := by
    unfold lppSatelliteIdLimit
    omega
  rw [fromLpp_svId]
  exact if_pos ⟨rfl, h0, hlt⟩

theorem asDf038_fromLpp (e : RtkResidualsElement) :
    (SatelliteId.fromLpp GenericGnssId.glonass.gnss e.svId.1).asDf038 = some (e.svId.1 + 1) := by
  obtain ⟨h0, h63⟩ := e.svId.2
  have hlt : e.svId.1 < lppSatelliteIdLimit := by
    unfold lppSatelliteIdLimit
    omega
  rw [fromLpp_svId]
  exact if_pos ⟨rfl, h0, hlt⟩

/-- A list with a known epoch has a message. -/
theorem extractAnyResiduals_time {gnssId : GenericGnssId} {src : GnssRtkResiduals} {tai : Ts.Tai} :
    epochTime src.epochTime = some tai ↔
      ∃ residuals, extractAnyResiduals gnssId src = some residuals ∧ residuals.time = tai := by
  unfold extractAnyResiduals
  cases epochTime src.epochTime with
  | none => simp
  | some tai' => simp

theorem faithful1030_iff {src : GnssRtkResiduals} :
    Faithful1030 src ↔ (∃ tai, epochTime src.epochTime = some tai) ∧ ResidualsFit src := by
  have hiff := fun residuals h => @residualsFaithful_iff _ _ src residuals
    asDf009_fromLpp h 1030 1030 (by decide) 20 (by omega)
    (Ts.timeOfWeek (Ts.Gps.ofTai residuals.time).mTm).seconds
  constructor
  · rintro ⟨residuals, hextract, h⟩
    exact ⟨⟨_, extractAnyResiduals_time.2 ⟨residuals, hextract, rfl⟩⟩,
      ((hiff residuals hextract).1 h).2⟩
  · rintro ⟨⟨tai, htai⟩, hfit⟩
    obtain ⟨residuals, hextract, rfl⟩ := extractAnyResiduals_time.1 htai
    have hweek := timeOfWeek_seconds (epochTime_gps htai)
    exact ⟨residuals, hextract, (hiff residuals hextract).2 ⟨⟨hweek.1, by omega⟩, hfit⟩⟩

/-- An epoch with a time of day in GLONASS time. -/
def GloEpoch (tai : Ts.Tai) : Prop := 0 ≤ (Ts.Glo.ofTai tai).mTm ∨ 86400 ∣ ⌊(Ts.Glo.ofTai tai).mTm⌋

theorem faithful1031_iff {src : GnssRtkResiduals} :
    Faithful1031 src ↔
      (∃ tai, epochTime src.epochTime = some tai ∧ GloEpoch tai) ∧ ResidualsFit src := by
  have hiff := fun residuals h => @residualsFaithful_iff _ _ src residuals
    asDf038_fromLpp h 1031 1031 (by decide) 17 (by omega)
    (Ts.timeOfDay (Ts.Glo.ofTai residuals.time).mTm).seconds
  constructor
  · rintro ⟨residuals, hextract, h⟩
    obtain ⟨htime, hfit⟩ := (hiff residuals hextract).1 h
    exact ⟨⟨_, extractAnyResiduals_time.2 ⟨residuals, hextract, rfl⟩,
      (timeOfDay_seconds _).1 htime⟩, hfit⟩
  · rintro ⟨⟨tai, htai, hepoch⟩, hfit⟩
    obtain ⟨residuals, hextract, rfl⟩ := extractAnyResiduals_time.1 htai
    exact ⟨residuals, hextract,
      (hiff residuals hextract).2 ⟨(timeOfDay_seconds _).2 hepoch, hfit⟩⟩

/-- **The residual messages**, for every list of LPP. -/
theorem residuals_faithful_iff (src : GnssRtkResiduals) :
    (Faithful1030 src ↔ (∃ tai, epochTime src.epochTime = some tai) ∧ ResidualsFit src) ∧
    (Faithful1031 src ↔
      (∃ tai, epochTime src.epochTime = some tai ∧ GloEpoch tai) ∧ ResidualsFit src) :=
  ⟨faithful1030_iff, faithful1031_iff⟩

/-! ### A list that is too long -/

/-- 32 satellites at the start of GPS time. -/
def longResiduals : GnssRtkResiduals where
  epochTime := ⟨.gps, ⟨0, Integer.mem⟩, ⟨0, Integer.mem⟩, none⟩
  referenceStationId := ⟨0, Integer.mem⟩
  nRefs := ⟨0, Integer.mem⟩
  rtkResidualsList := ⟨(List.finRange 32).map fun k =>
    ⟨⟨(k.1 : ℤ), by omega⟩, ⟨0, Integer.mem⟩, ⟨0, Integer.mem⟩, ⟨0, Integer.mem⟩, ⟨0, Integer.mem⟩,
      ⟨0, Integer.mem⟩⟩, by simp⟩

/-- The count wraps around to zero, and no block is read. -/
theorem not_faithful1030_long : ¬Faithful1030 longResiduals := by
  intro h
  have hcount := (faithful1030_iff.1 h).2.1
  simp [longResiduals] at hcount

end SuplLpp.Rtcm
