import SuplLpp.Lib.Newest
import SuplLpp.Lib.Table
import SuplLpp.Gnss.Ids
import SuplLpp.Gnss.Validity
import Mathlib.Data.List.Lex
import Mathlib.Data.Prod.Lex

/-!
# The ephemerides of the generator

For each satellite the generator keeps a sorted list of at most `mEphemerisMaxCache` ephemerides.

* `isMatch` and `compare` of the four systems;
* `Kind`, what the generator asks of an ephemeris; `processEphemeris` and `findEphemeris`, one
  definition with the members of each system;
* `System`, a kind with its laws: `compare` is the order of a key, the week number first, and
  ephemerides of a satellite that it does not tell apart match;
* `System.list_run`: the list of a satellite is made of the ephemerides received for it alone;
* `System.Cached`: what holds of the lists all along a run, and what a search finds;
  `ephemerides_cached`, for the four systems.
-/

namespace SuplLpp

/-! ### The functions of the source -/

/-- `if (a < b) return true; if (a > b) return false;` and what follows. -/
def lessOr {α : Type} [LT α] [DecidableLT α] (a b : α) (rest : Bool) : Bool :=
  if a < b then true else if a > b then false else rest

/-- Two times that are not more than a millisecond apart. -/
def sameTime (a b : ℚ) : Bool := !decide (|a - b| > 1 / 1000)

def GpsEphemeris.isMatch (e other : GpsEphemeris) : Bool :=
  e.prn == other.prn && e.weekNumber == other.weekNumber && e.iode == other.iode &&
    e.iodc == other.iodc && e.lppIod == other.lppIod && sameTime e.toe other.toe &&
    sameTime e.toc other.toc && e.fitIntervalFlag == other.fitIntervalFlag &&
    e.svHealth == other.svHealth

def GpsEphemeris.compare (e other : GpsEphemeris) : Bool :=
  lessOr e.weekNumber other.weekNumber <| lessOr e.toe other.toe <| lessOr e.toc other.toc <|
    lessOr e.lppIod other.lppIod <| lessOr e.iode other.iode <| lessOr e.iodc other.iodc <|
    lessOr e.fitIntervalFlag.toNat other.fitIntervalFlag.toNat <|
    lessOr e.svHealth other.svHealth false

def GalEphemeris.isMatch (e other : GalEphemeris) : Bool :=
  e.prn == other.prn && e.weekNumber == other.weekNumber && e.iodNav == other.iodNav &&
    e.lppIod == other.lppIod && sameTime e.toe other.toe && sameTime e.toc other.toc

def GalEphemeris.compare (e other : GalEphemeris) : Bool :=
  lessOr e.weekNumber other.weekNumber <| lessOr e.toe other.toe <| lessOr e.toc other.toc <|
    lessOr e.lppIod other.lppIod <| lessOr e.iodNav other.iodNav false

def BdsEphemeris.isMatch (e other : BdsEphemeris) : Bool :=
  e.prn == other.prn && e.weekNumber == other.weekNumber && e.iode == other.iode &&
    e.iodc == other.iodc && e.lppIod == other.lppIod && sameTime e.toe other.toe &&
    sameTime e.toc other.toc && e.svHealth == other.svHealth

def BdsEphemeris.compare (e other : BdsEphemeris) : Bool :=
  lessOr e.weekNumber other.weekNumber <| lessOr e.toe other.toe <| lessOr e.toc other.toc <|
    lessOr e.lppIod other.lppIod <| lessOr e.iode other.iode <| lessOr e.iodc other.iodc <|
    lessOr e.svHealth other.svHealth false

def QzsEphemeris.isMatch (e other : QzsEphemeris) : Bool :=
  e.prn == other.prn && e.weekNumber == other.weekNumber && e.iode == other.iode &&
    e.iodc == other.iodc && e.lppIod == other.lppIod && sameTime e.toe other.toe &&
    sameTime e.toc other.toc && e.fitIntervalFlag == other.fitIntervalFlag &&
    e.svHealth == other.svHealth

def QzsEphemeris.compare (e other : QzsEphemeris) : Bool :=
  lessOr e.weekNumber other.weekNumber <| lessOr e.toe other.toe <| lessOr e.toc other.toc <|
    lessOr e.lppIod other.lppIod <| lessOr e.iode other.iode <| lessOr e.iodc other.iodc <|
    lessOr e.fitIntervalFlag.toNat other.fitIntervalFlag.toNat <|
    lessOr e.svHealth other.svHealth false

namespace SatelliteId

/-- The PRNs of a system, from `first` to `last`. -/
def fromPrn (gnss : Gnss) (first last prn : ℕ) : SatelliteId :=
  if first ≤ prn ∧ prn ≤ last then ⟨gnss, prn - first⟩ else invalid

def fromGpsPrn : ℕ → SatelliteId := fromPrn .gps 1 32

def fromGalPrn : ℕ → SatelliteId := fromPrn .galileo 1 36

def fromBdsPrn : ℕ → SatelliteId := fromPrn .beidou 1 63

def fromQzsPrn : ℕ → SatelliteId := fromPrn .qzss 193 202

end SatelliteId

namespace Tokoro

/-- `ephemeris::Ephemeris`. -/
inductive Ephemeris
  | gps (e : GpsEphemeris)
  | gal (e : GalEphemeris)
  | bds (e : BdsEphemeris)
  | qzs (e : QzsEphemeris)

/-- The issue of data. -/
def Ephemeris.iod : Ephemeris → ℕ
  | .gps e => e.lppIod
  | .gal e => e.lppIod
  | .bds e => e.lppIod
  | .qzs e => e.lppIod

/-- What the generator asks of an ephemeris of a system: the satellite, `match` and `compare`,
whether it is valid and whether it has the issue of data that is wanted. -/
structure Kind (α : Type) where
  satelliteId : α → SatelliteId
  isMatch : α → α → Bool
  compare : α → α → Bool
  isValid : α → Ts.Tai → Bool
  hasIod : α → ℕ → Bool
  ephemeris : α → Ephemeris

/-- GPS and QZSS compare the lower eight bits of the issue of data. -/
def Kind.gps : Kind GpsEphemeris where
  satelliteId e := .fromGpsPrn e.prn
  isMatch := GpsEphemeris.isMatch
  compare := GpsEphemeris.compare
  isValid e time := e.isValid (.ofTai time)
  hasIod e iod := e.lppIod % 256 == iod % 256
  ephemeris := .gps

def Kind.gal : Kind GalEphemeris where
  satelliteId e := .fromGalPrn e.prn
  isMatch := GalEphemeris.isMatch
  compare := GalEphemeris.compare
  isValid e time := e.isValid (.ofTai time)
  hasIod e iod := e.lppIod == iod
  ephemeris := .gal

def Kind.bds : Kind BdsEphemeris where
  satelliteId e := .fromBdsPrn e.prn
  isMatch := BdsEphemeris.isMatch
  compare := BdsEphemeris.compare
  isValid e time := e.isValid (.ofTai time)
  hasIod e iod := e.lppIod == iod
  ephemeris := .bds

def Kind.qzs : Kind QzsEphemeris where
  satelliteId e := .fromQzsPrn e.prn
  isMatch := QzsEphemeris.isMatch
  compare := QzsEphemeris.compare
  isValid e time := e.isValid (.ofTai time)
  hasIod e iod := e.lppIod % 256 == iod % 256
  ephemeris := .qzs

/-- The lists of a system. -/
abbrev Lists (α : Type) := Table SatelliteId (List α)

namespace Kind

variable {α : Type} (k : Kind α)

/-- A list once an ephemeris has come. -/
def processList (maxCache : ℕ) (list : List α) (e : α) : List α :=
  if list.any fun eph => k.isMatch eph e then list
  else
    let list := if list.length ≥ maxCache then list.tail else list
    (list ++ [e]).insertionSort fun a b => ¬k.compare b a

/-- `process_ephemeris`. -/
def processEphemeris (maxCache : ℕ) (lists : Lists α) (e : α) : Lists α :=
  if !(k.satelliteId e).isValid then lists
  else lists.upsert (k.satelliteId e) [] fun list => k.processList maxCache list e

/-- The branch of `find_ephemeris` for the system. -/
def findEphemeris (iodConsistencyCheck : Bool) (lists : Lists α) (svId : SatelliteId)
    (time : Ts.Tai) (iod : ℕ) : Option Ephemeris :=
  match lists.lookup svId with
  | none => none
  | some list =>
      (list.find? fun e => k.isValid e time && !(!k.hasIod e iod && iodConsistencyCheck)).map
        k.ephemeris

end Kind

/-- The members of the generator that are about ephemerides. -/
structure Ephemerides where
  mGpsEphemeris : Lists GpsEphemeris
  mGalEphemeris : Lists GalEphemeris
  mBdsEphemeris : Lists BdsEphemeris
  mQzsEphemeris : Lists QzsEphemeris
  mEphemerisMaxCache : ℕ
  mIodConsistencyCheck : Bool
  mMissingEphemeris : List (SatelliteId × ℕ)

namespace Ephemerides

def new (maxCache : ℕ) (iodConsistencyCheck : Bool) : Ephemerides :=
  ⟨∅, ∅, ∅, ∅, maxCache, iodConsistencyCheck, []⟩

def processEphemeris (g : Ephemerides) : Ephemeris → Ephemerides
  | .gps e =>
      { g with mGpsEphemeris := Kind.gps.processEphemeris g.mEphemerisMaxCache g.mGpsEphemeris e }
  | .gal e =>
      { g with mGalEphemeris := Kind.gal.processEphemeris g.mEphemerisMaxCache g.mGalEphemeris e }
  | .bds e =>
      { g with mBdsEphemeris := Kind.bds.processEphemeris g.mEphemerisMaxCache g.mBdsEphemeris e }
  | .qzs e =>
      { g with mQzsEphemeris := Kind.qzs.processEphemeris g.mEphemerisMaxCache g.mQzsEphemeris e }

/-- The ephemerides of `load_snapshot`, those that `msgpack_unpack` gives: they replace what is
there, and each goes to the end of its list. -/
def loadSnapshot (g : Ephemerides) (ephemerides : List Ephemeris) : Ephemerides :=
  ephemerides.foldl
    (fun g e =>
      match e with
      | .gps e =>
        { g with
          mGpsEphemeris := g.mGpsEphemeris.upsert (Kind.gps.satelliteId e) [] (· ++ [e]) }
      | .gal e =>
        { g with
          mGalEphemeris := g.mGalEphemeris.upsert (Kind.gal.satelliteId e) [] (· ++ [e]) }
      | .bds e =>
        { g with
          mBdsEphemeris := g.mBdsEphemeris.upsert (Kind.bds.satelliteId e) [] (· ++ [e]) }
      | .qzs e =>
        { g with
          mQzsEphemeris := g.mQzsEphemeris.upsert (Kind.qzs.satelliteId e) [] (· ++ [e]) })
    { g with mGpsEphemeris := ∅, mGalEphemeris := ∅, mBdsEphemeris := ∅, mQzsEphemeris := ∅ }

/-- What a search returns; what it does not find is missing. -/
def found (g : Ephemerides) (svId : SatelliteId) (iod : ℕ) :
    Option Ephemeris → Option Ephemeris × Ephemerides
  | some e => (some e, g)
  | none => (none, { g with mMissingEphemeris := g.mMissingEphemeris ++ [(svId, iod)] })

/-- There is no search for GLONASS. -/
def findEphemeris (g : Ephemerides) (svId : SatelliteId) (time : Ts.Tai) (iod : ℕ) :
    Option Ephemeris × Ephemerides :=
  match svId.gnss with
  | .gps => g.found svId iod
      (Kind.gps.findEphemeris g.mIodConsistencyCheck g.mGpsEphemeris svId time iod)
  | .galileo => g.found svId iod
      (Kind.gal.findEphemeris g.mIodConsistencyCheck g.mGalEphemeris svId time iod)
  | .beidou => g.found svId iod
      (Kind.bds.findEphemeris g.mIodConsistencyCheck g.mBdsEphemeris svId time iod)
  | .qzss => g.found svId iod
      (Kind.qzs.findEphemeris g.mIodConsistencyCheck g.mQzsEphemeris svId time iod)
  | .glonass | .unknown => (none, g)

/-- The generator after it has received ephemerides. -/
def run (g : Ephemerides) (received : List Ephemeris) : Ephemerides :=
  received.foldl processEphemeris g

end Ephemerides

/-! ### Order -/

theorem lessOr_iff {α : Type} [LinearOrder α] {a b : α} {rest : Bool} :
    lessOr a b rest = true ↔ a < b ∨ a = b ∧ rest = true := by
  unfold lessOr
  rcases lt_trichotomy a b with h | rfl | h
  · simp [h]
  · simp
  · simp [h, h.not_gt, h.ne']

theorem toNat_inj {a b : Bool} : a.toNat = b.toNat ↔ a = b := by
  cases a <;> cases b <;> simp

@[simp] theorem sameTime_self (a : ℚ) : sameTime a a = true := by simp [sameTime]

theorem sameTime_comm (a b : ℚ) : sameTime a b = sameTime b a := by
  rw [sameTime, sameTime, abs_sub_comm]

/-- What `compare` goes by: the week number, the reference times, and the other numbers. -/
abbrev Key := ℕ ×ₗ ℚ ×ₗ ℚ ×ₗ List ℕ

def key (weekNumber : ℕ) (toe toc : ℚ) (numbers : List ℕ) : Key :=
  toLex (weekNumber, toLex (toe, toLex (toc, numbers)))

theorem key_lt_iff {w w' : ℕ} {toe toe' toc toc' : ℚ} {l l' : List ℕ} :
    key w toe toc l < key w' toe' toc' l' ↔
      w < w' ∨ w = w' ∧ (toe < toe' ∨ toe = toe' ∧ (toc < toc' ∨ toc = toc' ∧ l < l')) := by
  simp only [key, Prod.Lex.toLex_lt_toLex]

theorem key_inj {w w' : ℕ} {toe toe' toc toc' : ℚ} {l l' : List ℕ} :
    key w toe toc l = key w' toe' toc' l' ↔ w = w' ∧ toe = toe' ∧ toc = toc' ∧ l = l' := by
  simp [key]

theorem fromPrn_inj {gnss : Gnss} {first last p q : ℕ}
    (hp : (SatelliteId.fromPrn gnss first last p).isValid = true)
    (h : SatelliteId.fromPrn gnss first last p = SatelliteId.fromPrn gnss first last q) :
    p = q := by
  unfold SatelliteId.fromPrn at h hp
  split_ifs at h hp with h1 h2
  · simp only [SatelliteId.mk.injEq, true_and] at h
    omega
  · rw [h] at hp
    simp [SatelliteId.isValid, SatelliteId.invalid] at hp
  · simp [SatelliteId.isValid, SatelliteId.invalid] at hp
  · simp [SatelliteId.isValid, SatelliteId.invalid] at hp

/-! ### The four systems -/

/-- A system: where the generator has its lists, and what `match` and `compare` do. -/
structure System (α : Type) extends Kind α where
  gnss : Gnss
  lists : Ephemerides → Lists α
  ofEphemeris : Ephemeris → Option α
  weekNumber : α → ℕ
  toe : α → ℚ
  toc : α → ℚ
  numbers : α → List ℕ
  lists_new : ∀ maxCache check, lists (.new maxCache check) = ∅
  lists_processEphemeris : ∀ g e, lists (g.processEphemeris e) =
    match ofEphemeris e with
    | some a => toKind.processEphemeris g.mEphemerisMaxCache (lists g) a
    | none => lists g
  findEphemeris_eq : ∀ (g : Ephemerides) (svId : SatelliteId) time iod, svId.gnss = gnss →
    g.findEphemeris svId time iod =
      g.found svId iod (toKind.findEphemeris g.mIodConsistencyCheck (lists g) svId time iod)
  isMatch_self : ∀ a, isMatch a a = true
  isMatch_symm : ∀ a b, isMatch a b = true → isMatch b a = true
  compare_iff : ∀ a b, compare a b = true ↔
    key (weekNumber a) (toe a) (toc a) (numbers a) < key (weekNumber b) (toe b) (toc b) (numbers b)
  isMatch_of_eq : ∀ a b, satelliteId a = satelliteId b → (satelliteId a).isValid = true →
    key (weekNumber a) (toe a) (toc a) (numbers a) =
      key (weekNumber b) (toe b) (toc b) (numbers b) → isMatch a b = true

def System.gps : System GpsEphemeris where
  toKind := .gps
  gnss := .gps
  lists := Ephemerides.mGpsEphemeris
  ofEphemeris
    | .gps e => some e
    | _ => none
  weekNumber := GpsEphemeris.weekNumber
  toe e := e.toe
  toc e := e.toc
  numbers e := [e.lppIod, e.iode, e.iodc, e.fitIntervalFlag.toNat, e.svHealth]
  lists_new _ _ := rfl
  lists_processEphemeris g e := by cases e <;> rfl
  findEphemeris_eq g svId time iod h := by rw [Ephemerides.findEphemeris, h]
  isMatch_self e := by simp [Kind.gps, GpsEphemeris.isMatch]
  isMatch_symm a b h := by
    simp only [Kind.gps, GpsEphemeris.isMatch, Bool.and_eq_true, beq_iff_eq] at h ⊢
    rw [sameTime_comm b.toe, sameTime_comm b.toc]
    tauto
  compare_iff a b := by
    simp only [Kind.gps, GpsEphemeris.compare, key_lt_iff, lessOr_iff, List.cons_lt_cons_iff,
      List.not_lt_nil, Bool.false_eq_true]
  isMatch_of_eq a b hid hvalid h := by
    have hprn := fromPrn_inj hvalid hid
    simp only [key_inj, List.cons.injEq, toNat_inj] at h
    simp [Kind.gps, GpsEphemeris.isMatch, hprn, h]

def System.gal : System GalEphemeris where
  toKind := .gal
  gnss := .galileo
  lists := Ephemerides.mGalEphemeris
  ofEphemeris
    | .gal e => some e
    | _ => none
  weekNumber := GalEphemeris.weekNumber
  toe e := e.toe
  toc e := e.toc
  numbers e := [e.lppIod, e.iodNav]
  lists_new _ _ := rfl
  lists_processEphemeris g e := by cases e <;> rfl
  findEphemeris_eq g svId time iod h := by rw [Ephemerides.findEphemeris, h]
  isMatch_self e := by simp [Kind.gal, GalEphemeris.isMatch]
  isMatch_symm a b h := by
    simp only [Kind.gal, GalEphemeris.isMatch, Bool.and_eq_true, beq_iff_eq] at h ⊢
    rw [sameTime_comm b.toe, sameTime_comm b.toc]
    tauto
  compare_iff a b := by
    simp only [Kind.gal, GalEphemeris.compare, key_lt_iff, lessOr_iff, List.cons_lt_cons_iff,
      List.not_lt_nil, Bool.false_eq_true]
  isMatch_of_eq a b hid hvalid h := by
    have hprn := fromPrn_inj hvalid hid
    simp only [key_inj, List.cons.injEq] at h
    simp [Kind.gal, GalEphemeris.isMatch, hprn, h]

def System.bds : System BdsEphemeris where
  toKind := .bds
  gnss := .beidou
  lists := Ephemerides.mBdsEphemeris
  ofEphemeris
    | .bds e => some e
    | _ => none
  weekNumber := BdsEphemeris.weekNumber
  toe e := e.toe
  toc e := e.toc
  numbers e := [e.lppIod, e.iode, e.iodc, e.svHealth]
  lists_new _ _ := rfl
  lists_processEphemeris g e := by cases e <;> rfl
  findEphemeris_eq g svId time iod h := by rw [Ephemerides.findEphemeris, h]
  isMatch_self e := by simp [Kind.bds, BdsEphemeris.isMatch]
  isMatch_symm a b h := by
    simp only [Kind.bds, BdsEphemeris.isMatch, Bool.and_eq_true, beq_iff_eq] at h ⊢
    rw [sameTime_comm b.toe, sameTime_comm b.toc]
    tauto
  compare_iff a b := by
    simp only [Kind.bds, BdsEphemeris.compare, key_lt_iff, lessOr_iff, List.cons_lt_cons_iff,
      List.not_lt_nil, Bool.false_eq_true]
  isMatch_of_eq a b hid hvalid h := by
    have hprn := fromPrn_inj hvalid hid
    simp only [key_inj, List.cons.injEq] at h
    simp [Kind.bds, BdsEphemeris.isMatch, hprn, h]

def System.qzs : System QzsEphemeris where
  toKind := .qzs
  gnss := .qzss
  lists := Ephemerides.mQzsEphemeris
  ofEphemeris
    | .qzs e => some e
    | _ => none
  weekNumber := QzsEphemeris.weekNumber
  toe e := e.toe
  toc e := e.toc
  numbers e := [e.lppIod, e.iode, e.iodc, e.fitIntervalFlag.toNat, e.svHealth]
  lists_new _ _ := rfl
  lists_processEphemeris g e := by cases e <;> rfl
  findEphemeris_eq g svId time iod h := by rw [Ephemerides.findEphemeris, h]
  isMatch_self e := by simp [Kind.qzs, QzsEphemeris.isMatch]
  isMatch_symm a b h := by
    simp only [Kind.qzs, QzsEphemeris.isMatch, Bool.and_eq_true, beq_iff_eq] at h ⊢
    rw [sameTime_comm b.toe, sameTime_comm b.toc]
    tauto
  compare_iff a b := by
    simp only [Kind.qzs, QzsEphemeris.compare, key_lt_iff, lessOr_iff, List.cons_lt_cons_iff,
      List.not_lt_nil, Bool.false_eq_true]
  isMatch_of_eq a b hid hvalid h := by
    have hprn := fromPrn_inj hvalid hid
    simp only [key_inj, List.cons.injEq, toNat_inj] at h
    simp [Kind.qzs, QzsEphemeris.isMatch, hprn, h]

/-! ### The list of a satellite -/

namespace System

variable {α : Type} (S : System α)

/-- What comes first in an ephemeris, as `compare` has it. -/
def keyOf (a : α) : Key := key (S.weekNumber a) (S.toe a) (S.toc a) (S.numbers a)

def Same (a b : α) : Prop := S.isMatch a b = true

instance : DecidableRel S.Same := fun a b => inferInstanceAs (Decidable (S.isMatch a b = true))

def list (g : Ephemerides) (svId : SatelliteId) : List α := ((S.lists g).lookup svId).getD []

/-- The ephemerides of a satellite among those received. -/
def own (svId : SatelliteId) (received : List Ephemeris) : List α :=
  (received.filterMap S.ofEphemeris).filter fun a => S.satelliteId a = svId

variable {S}

theorem processList_eq (maxCache : ℕ) (list : List α) (a : α) :
    S.processList maxCache list a = Newest.receive S.Same S.keyOf maxCache list a := by
  have horder : (fun a b => ¬S.compare b a) = fun a b => S.keyOf a ≤ S.keyOf b := by
    funext a b
    rw [S.compare_iff, not_lt]
    rfl
  have hsort : ∀ l : List α, (l.insertionSort fun a b => ¬S.compare b a) =
      l.insertionSort fun a b => S.keyOf a ≤ S.keyOf b := by
    intro l
    congr!
  unfold Kind.processList Newest.receive
  by_cases hsame : ∃ b ∈ list, S.Same b a
  · rw [if_pos hsame, if_pos (List.any_eq_true.2 hsame)]
  · rw [if_neg hsame, if_neg (mt List.any_eq_true.1 hsame)]
    exact hsort _

/-- One ephemeris. -/
theorem list_processEphemeris {svId : SatelliteId} (hvalid : svId.isValid = true)
    (g : Ephemerides) (e : Ephemeris) :
    S.list (g.processEphemeris e) svId =
      (S.own svId [e]).foldl (Newest.receive S.Same S.keyOf g.mEphemerisMaxCache)
        (S.list g svId) := by
  unfold list own
  rw [S.lists_processEphemeris]
  cases h : S.ofEphemeris e with
  | none => simp [h]
  | some a =>
    simp only [List.filterMap_cons, h, List.filterMap_nil, Kind.processEphemeris]
    by_cases hid : S.satelliteId a = svId
    · simp [hid, hvalid, Table.lookup_upsert, processList_eq]
    · have hne : svId ≠ S.satelliteId a := fun h => hid h.symm
      split_ifs with hother
      · simp [hid]
      · simp [hid, hne, Table.lookup_upsert]

@[simp] theorem own_append (svId : SatelliteId) (before received : List Ephemeris) :
    S.own svId (before ++ received) = S.own svId before ++ S.own svId received := by
  simp [own]

theorem maxCache_processEphemeris (g : Ephemerides) (e : Ephemeris) :
    (g.processEphemeris e).mEphemerisMaxCache = g.mEphemerisMaxCache := by
  cases e <;> rfl

theorem maxCache_run (g : Ephemerides) (received : List Ephemeris) :
    (g.run received).mEphemerisMaxCache = g.mEphemerisMaxCache := by
  induction received generalizing g with
  | nil => rfl
  | cons e received ih => exact (ih _).trans (maxCache_processEphemeris g e)

/-- **A run**: the list of a satellite is what its own ephemerides make of it. -/
theorem list_run {svId : SatelliteId} (hvalid : svId.isValid = true) (maxCache : ℕ) (check : Bool)
    (received : List Ephemeris) :
    S.list ((Ephemerides.new maxCache check).run received) svId =
      Newest.kept S.Same S.keyOf maxCache (S.own svId received) := by
  induction received using List.reverseRecOn with
  | nil => simp [Ephemerides.run, list, own, S.lists_new]
  | append_singleton received e ih =>
    have hrun : (Ephemerides.new maxCache check).run (received ++ [e]) =
        ((Ephemerides.new maxCache check).run received).processEphemeris e := by
      simp [Ephemerides.run]
    rw [hrun, list_processEphemeris hvalid, ih, maxCache_run, own_append, Newest.kept,
      Newest.kept, List.foldl_append]
    rfl

theorem satelliteId_of_mem_own {svId : SatelliteId} {received : List Ephemeris} {a : α}
    (h : a ∈ S.own svId received) : S.satelliteId a = svId := by
  simpa using (List.mem_filter.1 h).2

/-- The ephemerides of a satellite are told apart by their keys, unless they match. -/
theorem same_of_keyOf {svId : SatelliteId} (hvalid : svId.isValid = true)
    (received : List Ephemeris) : ∀ a ∈ S.own svId received, ∀ b ∈ S.own svId received,
      S.keyOf a = S.keyOf b → S.Same a b := by
  intro a ha b hb h
  have hid := satelliteId_of_mem_own ha
  exact S.isMatch_of_eq a b (hid.trans (satelliteId_of_mem_own hb).symm) (hid ▸ hvalid) h

/-- Where the own ephemerides stop, the run can be cut as well. -/
theorem exists_of_prefix {svId : SatelliteId} {received : List Ephemeris} {before : List α}
    (h : before <+: S.own svId received) :
    ∃ earlier, earlier <+: received ∧ S.own svId earlier = before := by
  obtain ⟨picked, hpicked, rfl⟩ := List.prefix_filter_iff.1 h
  obtain ⟨earlier, hearlier, rfl⟩ := List.prefix_filterMap_iff.1 hpicked
  exact ⟨earlier, hearlier, rfl⟩

/-- Each of them has come at some time of the run. -/
theorem exists_of_prefix_append {svId : SatelliteId} {received : List Ephemeris} {before : List α}
    {a : α} (h : before ++ [a] <+: S.own svId received) :
    ∃ earlier e, earlier ++ [e] <+: received ∧ S.ofEphemeris e = some a ∧
      S.satelliteId a = svId ∧ S.own svId earlier = before := by
  induction received using List.reverseRecOn with
  | nil => simp [own] at h
  | append_singleton received e ih =>
    have hearlier : before ++ [a] <+: S.own svId received →
        ∃ earlier e', earlier ++ [e'] <+: received ++ [e] ∧ S.ofEphemeris e' = some a ∧
          S.satelliteId a = svId ∧ S.own svId earlier = before := by
      intro h
      obtain ⟨earlier, e', hpre, hrest⟩ := ih h
      exact ⟨earlier, e', hpre.trans (List.prefix_append _ _), hrest⟩
    rw [own_append] at h
    cases hof : S.ofEphemeris e with
    | none => exact hearlier (by simpa [own, hof] using h)
    | some b =>
      by_cases hid : S.satelliteId b = svId
      · have hown : S.own svId [e] = [b] := by simp [own, hof, hid]
        rw [hown, List.prefix_concat_iff] at h
        rcases h with heq | hpre
        · obtain ⟨hbefore, hab⟩ := List.append_inj' heq rfl
          obtain rfl : a = b := by simpa using hab
          exact ⟨received, e, List.prefix_refl _, hof, hid, hbefore.symm⟩
        · exact hearlier hpre
      · exact hearlier (by simpa [own, hof, hid] using h)

/-! ### What the lists promise -/

variable (S)

/-- An ephemeris comes in time for the list that the generator has by then. -/
def InTime (maxCache : ℕ) (check : Bool) (svId : SatelliteId) (before : List Ephemeris) (a : α) :
    Prop :=
  Newest.InTime S.Same S.keyOf maxCache (Newest.distinct S.Same (S.own svId before))
    (S.list ((Ephemerides.new maxCache check).run before) svId) a

/-- The list has the newest of the distinct ephemerides received. -/
def HasNewest (maxCache : ℕ) (check : Bool) (svId : SatelliteId) (before : List Ephemeris) :
    Prop :=
  Newest.IsNewest S.keyOf maxCache (Newest.distinct S.Same (S.own svId before))
    (S.list ((Ephemerides.new maxCache check).run before) svId)

/-- What a search for an ephemeris of a satellite returns. -/
def Finds (g : Ephemerides) (svId : SatelliteId) (time : Ts.Tai) (iod : ℕ) : Prop :=
  (∃ a ∈ S.list g svId, g.findEphemeris svId time iod = (some (S.ephemeris a), g) ∧
      S.isValid a time = true ∧ (g.mIodConsistencyCheck = true → S.hasIod a iod = true)) ∨
    (g.findEphemeris svId time iod =
        (none, { g with mMissingEphemeris := g.mMissingEphemeris ++ [(svId, iod)] }) ∧
      ∀ a ∈ S.list g svId, S.isValid a time = true →
        g.mIodConsistencyCheck = true ∧ S.hasIod a iod = false)

/-- `compare` goes by the reference times of weeks that do not roll over in between. -/
def ByTime : Prop :=
  ∀ (a b : α) (first : ℤ), 0 ≤ S.toe a → S.toe a < 604800 → 0 ≤ S.toe b → S.toe b < 604800 →
    S.compare a b = true →
    referenceTime (S.toe a) (first + S.weekNumber a) ≤
      referenceTime (S.toe b) (first + S.weekNumber b)

/-- What holds of the list of a satellite. -/
structure Cached (maxCache : ℕ) (check : Bool) (svId : SatelliteId) (received : List Ephemeris) :
    Prop where
  apart : (S.list ((Ephemerides.new maxCache check).run received) svId).Pairwise
    fun a b => S.isMatch a b = false
  sorted : (S.list ((Ephemerides.new maxCache check).run received) svId).Pairwise
    fun a b => S.compare a b = true
  length_le : (S.list ((Ephemerides.new maxCache check).run received) svId).length ≤ maxCache
  subset : S.list ((Ephemerides.new maxCache check).run received) svId ⊆ S.own svId received
  newest : (∀ before, before <+: received → S.HasNewest maxCache check svId before) ↔
    ∀ before e, before ++ [e] <+: received → ∀ a, S.ofEphemeris e = some a →
      S.satelliteId a = svId → S.InTime maxCache check svId before a
  byTime : S.ByTime
  finds : svId.gnss = S.gnss →
    ∀ time iod, S.Finds ((Ephemerides.new maxCache check).run received) svId time iod

variable {S}

theorem finds (g : Ephemerides) {svId : SatelliteId} (hgnss : svId.gnss = S.gnss) (time : Ts.Tai)
    (iod : ℕ) : S.Finds g svId time iod := by
  unfold Finds list
  rw [S.findEphemeris_eq g svId time iod hgnss, Kind.findEphemeris]
  cases hlist : (S.lists g).lookup svId with
  | none => exact .inr ⟨rfl, by simp⟩
  | some list =>
    cases hfind : list.find? fun e =>
        S.isValid e time && !(!S.hasIod e iod && g.mIodConsistencyCheck) with
    | none =>
      refine .inr ⟨by simp only [hfind]; rfl, fun a ha hvalid => ?_⟩
      have hnot := List.find?_eq_none.1 hfind a (by simpa using ha)
      simpa [hvalid, and_comm] using hnot
    | some a =>
      have hgood := List.find?_some hfind
      rw [Bool.and_eq_true] at hgood
      refine .inl ⟨a, by simpa using List.mem_of_find?_eq_some hfind,
        by simp only [hfind]; rfl, hgood.1, fun hcheck => ?_⟩
      simpa [hcheck] using hgood.2

theorem byTime : S.ByTime := by
  intro a b first ha0 ha hb0 hb h
  rw [S.compare_iff, key_lt_iff] at h
  simp only [referenceTime]
  push_cast
  rcases h with hweek | ⟨hweek, htoe⟩
  · have hle : (S.weekNumber a : ℚ) + 1 ≤ S.weekNumber b := by exact_mod_cast hweek
    linarith
  · have hle : S.toe a ≤ S.toe b := by
      rcases htoe with hlt | ⟨heq, -⟩
      · exact hlt.le
      · exact heq.le
    rw [hweek]
    linarith

theorem cached_of_valid {maxCache : ℕ} (hpos : 1 ≤ maxCache) (check : Bool) {svId : SatelliteId}
    (hvalid : svId.isValid = true) (received : List Ephemeris) :
    S.Cached maxCache check svId received := by
  have hkept := Newest.kept_spec S.isMatch_symm hpos _ (same_of_keyOf hvalid received)
  refine ⟨?_, ?_, ?_, ?_, ?_, byTime, fun hgnss => finds _ hgnss⟩
  · rw [list_run hvalid]
    exact hkept.apart.imp fun h => Bool.eq_false_iff.2 h
  · rw [list_run hvalid]
    exact hkept.sorted.imp fun h => (S.compare_iff _ _).2 h
  · rw [list_run hvalid]
    exact hkept.length_le
  · rw [list_run hvalid]
    exact Newest.kept_subset _
  · have hiff := Newest.isNewest_iff S.isMatch_self S.isMatch_symm hpos _
      (same_of_keyOf hvalid received)
    simp only [HasNewest, InTime, list_run hvalid]
    constructor
    · intro h before e hpre a ha hid
      have hown : S.own svId [e] = [a] := by simp [own, ha, hid]
      refine hiff.1 (fun own hpre => ?_) (S.own svId before) a ?_
      · obtain ⟨earlier, hearlier, rfl⟩ := exists_of_prefix hpre
        exact h earlier hearlier
      · rw [← hown, ← own_append]
        exact (hpre.filterMap S.ofEphemeris).filter _
    · intro h before hpre
      refine hiff.2 (fun own a hown => ?_) _ ((hpre.filterMap S.ofEphemeris).filter _)
      obtain ⟨earlier, e, hearlier, ha, hid, rfl⟩ := exists_of_prefix_append hown
      exact h earlier e hearlier a ha hid

end System

/-- **The ephemerides of the generator**, of every satellite after every run. -/
theorem ephemerides_cached {maxCache : ℕ} (hpos : 1 ≤ maxCache) (check : Bool) {svId : SatelliteId}
    (hvalid : svId.isValid = true) (received : List Ephemeris) :
    System.gps.Cached maxCache check svId received ∧
      System.gal.Cached maxCache check svId received ∧
      System.bds.Cached maxCache check svId received ∧
      System.qzs.Cached maxCache check svId received :=
  ⟨System.cached_of_valid hpos check hvalid received,
    System.cached_of_valid hpos check hvalid received,
    System.cached_of_valid hpos check hvalid received,
    System.cached_of_valid hpos check hvalid received⟩

/-- An ephemeris of the first GPS satellite. -/
def broadcastAt (weekNumber : ℕ) (toe : ℚ) (lppIod : ℕ) : GpsEphemeris :=
  { endOfWeek with weekNumber := weekNumber, toe := toe, toc := toe, lppIod := lppIod }

theorem ephemerides_cached_gps :
    System.gps.Cached 1 true ⟨.gps, 0⟩
      [.gps (broadcastAt 100 0 1), .gps (broadcastAt 100 7200 2)] :=
  (ephemerides_cached (le_refl 1) true (by decide)
    [.gps (broadcastAt 100 0 1), .gps (broadcastAt 100 7200 2)]).1

/-- Two that come in the wrong order. -/
def late : List Ephemeris := [.gps (broadcastAt 100 7200 2), .gps (broadcastAt 100 0 1)]

/-- Two issues of data with the same lower eight bits. -/
def twoIssues : List Ephemeris := [.gps (broadcastAt 100 0 261), .gps (broadcastAt 100 7200 5)]

/-- The one that comes late drives out the newer one; and the other issue of data is found. -/
theorem not_cached_gps :
    ¬System.gps.HasNewest 1 true ⟨.gps, 0⟩ late ∧
      broadcastAt 100 7200 5 ∈
          System.gps.list ((Ephemerides.new 2 true).run twoIssues) ⟨.gps, 0⟩ ∧
        (((Ephemerides.new 2 true).run twoIssues).findEphemeris ⟨.gps, 0⟩
          (.ofGps ⟨604800 * 100 + 1000⟩) 5).1.map Ephemeris.iod = some 261 := by
  refine ⟨fun h => ?_, by decide +kernel, by decide +kernel⟩
  have hlt := h.older (broadcastAt 100 7200 2) (by decide +kernel) (by decide +kernel)
    (broadcastAt 100 0 1) (by decide +kernel)
  exact absurd hlt (by decide +kernel)

end Tokoro

end SuplLpp
