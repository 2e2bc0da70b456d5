import SuplLpp.Lib.Contraction
import SuplLpp.Tokoro.PhaseWindup

/-!
# Geodetic coordinates

Latitude, longitude and height of a point, over the real numbers.  The latitude is found by a loop
that has no bound in one implementation and ten rounds in the other.

* `llhToEcef` and `EcefToLlh`, with the unbounded loop; `llhToEcefImpl` and `ecefToLlhImpl`;
* `abs_latitudeStep_sub_le`: the loop iterates a contraction, a stronger one towards the poles;
* `ecefToLlh_llhToEcef`, `ecefToLlhImpl_llhToEcefImpl`: there and back; `poles`.
-/

namespace SuplLpp.Geodetic

noncomputable section

open Real Windup

/-! ### The ellipsoids -/

section Ellipsoids

local instance two_atLeastTwo : Nat.AtLeastTwo 2 := ⟨le_refl 2⟩

structure ReferenceEllipsoid where
  semiMajorAxis : ℝ
  semiMinorAxis : ℝ
  flattening : ℝ
  eccentricitySq : ℝ
  eccentricity : ℝ

def ReferenceEllipsoid.create (semiMajorAxis flattening : ℝ) : ReferenceEllipsoid where
  semiMajorAxis := semiMajorAxis
  semiMinorAxis := semiMajorAxis * (1 - flattening)
  flattening := flattening
  eccentricitySq := 2 * flattening - flattening * flattening
  eccentricity := √(2 * flattening - flattening * flattening)

def gWgs84 : ReferenceEllipsoid := .create 6378137 (1 / 298.257223563)

def gGrs80 : ReferenceEllipsoid := .create 6378137 (1 / 298.257222101)

def gPz90 : ReferenceEllipsoid := .create 6378136 (1 / 298.25)

def gPz9011 : ReferenceEllipsoid := .create 6378136 (1 / 298.257839303)

structure Ellipsoid where
  a : ℝ
  f : ℝ
  b : ℝ
  e2 : ℝ

def Ellipsoid.fromAF (a f : ℝ) : Ellipsoid := ⟨a, f, a * (1 - f), 2 * f - f * f⟩

def wgs84 : Ellipsoid := .fromAF 6378137 (1 / 298.257223563)

def grs80 : Ellipsoid := .fromAF 6378137 (1 / 298.257222101)

def pz90 : Ellipsoid := .fromAF 6378136 (1 / 298.25784)

end Ellipsoids

/-! ### The functions of the source -/

/-- The radius of curvature `n`. -/
def radius (a e2 phi : ℝ) : ℝ := a / √(1 - e2 * sin phi * sin phi)

/-- A round of the loops. -/
def latitudeStep (a e2 z p phi : ℝ) : ℝ := atan2 (z + radius a e2 phi * e2 * sin phi) p

/-- `ecef_to_llh` gives this result: its loop has no bound. -/
def EcefToLlh (ellipsoid : ReferenceEllipsoid) (ecef llh : Float3) : Prop :=
  let a := ellipsoid.semiMajorAxis
  let e2 := ellipsoid.eccentricitySq
  let lon := atan2 ecef.y ecef.x
  let p := √(ecef.x * ecef.x + ecef.y * ecef.y)
  let step := latitudeStep a e2 ecef.z p
  ∃ phi, While.Ends (Contraction.Far step 1e-12) step (atan2 ecef.z (p * (1 - e2))) phi ∧
    llh = ⟨step phi, lon, p / cos (step phi) - radius a e2 phi⟩

def llhToEcef (llh : Float3) (ellipsoid : ReferenceEllipsoid) : Float3 :=
  let lat := llh.x
  let lon := llh.y
  let h := llh.z
  let d := ellipsoid.eccentricity * sin lat
  let n := ellipsoid.semiMajorAxis / √(1 - d * d)
  ⟨(n + h) * cos lat * cos lon, (n + h) * cos lat * sin lon,
    (n * (1 - ellipsoid.eccentricitySq) + h) * sin lat⟩

/-- The loop of `ecef_to_llh_impl`. -/
def latitudeLoop (step : ℝ → ℝ) : ℕ → ℝ → ℝ
  | 0, lat => lat
  | rounds + 1, lat =>
    let latNew := step lat
    if |latNew - lat| < 1e-12 then latNew else latitudeLoop step rounds latNew

def ecefToLlhImpl (ecef : Float3) (e : Ellipsoid) : Float3 :=
  let lon := atan2 ecef.y ecef.x
  let p := √(ecef.x * ecef.x + ecef.y * ecef.y)
  let lat := latitudeLoop (latitudeStep e.a e.e2 ecef.z p) 10 (atan2 ecef.z (p * (1 - e.e2)))
  let n := radius e.a e.e2 lat
  ⟨lat, lon, if 1e-10 < |cos lat| then p / cos lat - n else |ecef.z| - e.b⟩

def llhToEcefImpl (llh : Float3) (e : Ellipsoid) : Float3 :=
  let n := radius e.a e.e2 llh.x
  ⟨(n + llh.z) * cos llh.x * cos llh.y, (n + llh.z) * cos llh.x * sin llh.y,
    (n * (1 - e.e2) + llh.z) * sin llh.x⟩

/-! ### The radius of curvature -/

section Radius

variable {a e2 : ℝ}

theorem root_bounds (he0 : 0 ≤ e2) (he1 : e2 ≤ 1 / 100) (phi : ℝ) :
    99 / 100 ≤ √(1 - e2 * sin phi * sin phi) ∧ √(1 - e2 * sin phi * sin phi) ≤ 1 := by
  have hsq : sin phi * sin phi ≤ 1 := by nlinarith [sin_sq_le_one phi]
  have hnonneg := mul_self_nonneg (sin phi)
  constructor
  · apply le_sqrt_of_sq_le
    nlinarith
  · rw [sqrt_le_one]
    nlinarith

theorem radius_bounds (ha : 0 < a) (he0 : 0 ≤ e2) (he1 : e2 ≤ 1 / 100) (phi : ℝ) :
    a ≤ radius a e2 phi ∧ radius a e2 phi ≤ 100 / 99 * a := by
  obtain ⟨hlow, hhigh⟩ := root_bounds he0 he1 phi
  have hpos : 0 < √(1 - e2 * sin phi * sin phi) := by linarith
  unfold radius
  constructor
  · rw [le_div_iff₀ hpos]
    nlinarith
  · rw [div_le_iff₀ hpos]
    nlinarith

theorem hasDerivAt_root (he0 : 0 ≤ e2) (he1 : e2 ≤ 1 / 100) (phi : ℝ) :
    HasDerivAt (fun x => √(1 - e2 * sin x * sin x))
      (-(e2 * sin phi * cos phi) / √(1 - e2 * sin phi * sin phi)) phi := by
  obtain ⟨hlow, -⟩ := root_bounds he0 he1 phi
  have hne : 1 - e2 * sin phi * sin phi ≠ 0 := by
    intro hzero
    rw [hzero, sqrt_zero] at hlow
    linarith
  have hinner := (((hasDerivAt_sin phi).const_mul e2).mul (hasDerivAt_sin phi)).const_sub 1
  refine (hinner.sqrt hne).congr_deriv ?_
  simp only [Pi.mul_apply]
  field_simp
  ring

theorem hasDerivAt_radius (he0 : 0 ≤ e2) (he1 : e2 ≤ 1 / 100) (phi : ℝ) :
    HasDerivAt (radius a e2)
      (a * e2 * sin phi * cos phi / √(1 - e2 * sin phi * sin phi) ^ 3) phi := by
  obtain ⟨hlow, -⟩ := root_bounds he0 he1 phi
  have hne : √(1 - e2 * sin phi * sin phi) ≠ 0 := by linarith
  refine ((hasDerivAt_const phi a).div (hasDerivAt_root he0 he1 phi) hne).congr_deriv ?_
  field_simp
  ring

theorem hasDerivAt_radius_mul_sin (he0 : 0 ≤ e2) (he1 : e2 ≤ 1 / 100) (phi : ℝ) :
    HasDerivAt (fun x => radius a e2 x * sin x)
      (a * cos phi / √(1 - e2 * sin phi * sin phi) ^ 3) phi := by
  obtain ⟨hlow, -⟩ := root_bounds he0 he1 phi
  have hpos : 0 < √(1 - e2 * sin phi * sin phi) := by linarith
  have hsq : √(1 - e2 * sin phi * sin phi) ^ 2 = 1 - e2 * sin phi * sin phi :=
    sq_sqrt (le_of_lt (sqrt_pos.1 hpos))
  refine ((hasDerivAt_radius he0 he1 phi).mul (hasDerivAt_sin phi)).congr_deriv ?_
  rw [radius]
  generalize √(1 - e2 * sin phi * sin phi) = w at hpos hsq ⊢
  rw [div_mul_eq_mul_div, div_mul_eq_mul_div, div_add_div _ _ (by positivity) (by positivity),
    div_eq_div_iff (by positivity) (by positivity)]
  linear_combination a * cos phi * w ^ 4 * hsq

end Radius

/-! ### A round of the loops -/

theorem atan2_of_pos {p : ℝ} (hp : 0 < p) (g : ℝ) : atan2 g p = arctan (g / p) := by
  have hre : 0 < (⟨p, g⟩ : ℂ).re := hp
  have habs := abs_lt.1 (Complex.abs_arg_lt_pi_div_two_iff.2 (Or.inl hre))
  rw [atan2, ← arctan_tan habs.1 habs.2, Complex.tan_arg]

/-- A point that is not far below the surface, off the axis. -/
structure OffAxis (a e2 r lat : ℝ) : Prop where
  a_pos : 0 < a
  e2_nonneg : 0 ≤ e2
  e2_le : e2 ≤ 1 / 100
  le_r : a / 2 ≤ r
  lat_low : -(π / 2) < lat
  lat_high : lat < π / 2

namespace OffAxis

variable {a e2 r lat : ℝ}

/-- The distance along the axis. -/
def z (a e2 r lat : ℝ) : ℝ := r * sin lat - radius a e2 lat * e2 * sin lat

theorem cos_pos (h : OffAxis a e2 r lat) : 0 < cos lat :=
  cos_pos_of_mem_Ioo ⟨h.lat_low, h.lat_high⟩

theorem r_pos (h : OffAxis a e2 r lat) : 0 < r := by
  have := h.a_pos
  have := h.le_r
  linarith

theorem abs_radius_mul_sin_le (h : OffAxis a e2 r lat) (phi : ℝ) :
    |radius a e2 phi * sin phi| ≤ 100 / 99 * a := by
  obtain ⟨hlow, hhigh⟩ := radius_bounds h.a_pos h.e2_nonneg h.e2_le phi
  have ha := h.a_pos
  rw [abs_mul, abs_of_pos (by linarith)]
  calc radius a e2 phi * |sin phi| ≤ radius a e2 phi * 1 :=
        mul_le_mul_of_nonneg_left (abs_sin_le_one phi) (by linarith)
    _ ≤ 100 / 99 * a := by linarith

/-- Whatever the latitude in a round, the point that it looks at is not near the centre. -/
theorem le_sq_add_sq (h : OffAxis a e2 r lat) (phi : ℝ) :
    91 / 100 * r ^ 2 ≤ (r * cos lat) ^ 2 +
      (z a e2 r lat + radius a e2 phi * e2 * sin phi) ^ 2 := by
  have ha := h.a_pos
  have hr := h.le_r
  have hd : |radius a e2 phi * sin phi - radius a e2 lat * sin lat| ≤ 200 / 99 * a := by
    have htriangle := abs_sub (radius a e2 phi * sin phi) (radius a e2 lat * sin lat)
    linarith [h.abs_radius_mul_sin_le phi, h.abs_radius_mul_sin_le lat]
  have hshift : |e2 * (radius a e2 phi * sin phi - radius a e2 lat * sin lat)| ≤
      9 / 200 * r := by
    rw [abs_mul, abs_of_nonneg h.e2_nonneg]
    calc e2 * |radius a e2 phi * sin phi - radius a e2 lat * sin lat|
        ≤ 1 / 100 * (200 / 99 * a) :=
          mul_le_mul h.e2_le hd (abs_nonneg _) (by norm_num)
      _ ≤ 9 / 200 * r := by linarith
  have hz : z a e2 r lat + radius a e2 phi * e2 * sin phi =
      r * sin lat + e2 * (radius a e2 phi * sin phi - radius a e2 lat * sin lat) := by
    unfold z
    ring
  rw [hz]
  generalize e2 * (radius a e2 phi * sin phi - radius a e2 lat * sin lat) = d at hshift ⊢
  have hpythagoras := sin_sq_add_cos_sq lat
  have hcross : |r * sin lat * d| ≤ r * (9 / 200 * r) := by
    rw [abs_mul, abs_mul, abs_of_pos h.r_pos]
    have hsin : r * |sin lat| ≤ r * 1 := mul_le_mul_of_nonneg_left (abs_sin_le_one lat) h.r_pos.le
    calc r * |sin lat| * |d| ≤ r * 1 * (9 / 200 * r) :=
          mul_le_mul hsin hshift (abs_nonneg _) (by linarith [h.r_pos])
      _ = r * (9 / 200 * r) := by ring
  have hlow := (abs_le.1 hcross).1
  nlinarith [sq_nonneg d]

/-- The latitude is where the loop stands still. -/
theorem latitudeStep_lat (h : OffAxis a e2 r lat) :
    latitudeStep a e2 (z a e2 r lat) (r * cos lat) lat = lat := by
  have hp : 0 < r * cos lat := mul_pos h.r_pos h.cos_pos
  have hz : z a e2 r lat + radius a e2 lat * e2 * sin lat = r * sin lat := by
    unfold z
    ring
  rw [latitudeStep, hz, atan2_of_pos hp, mul_div_mul_left _ _ h.r_pos.ne', ← tan_eq_sin_div_cos,
    arctan_tan h.lat_low h.lat_high]

/-- A round brings latitudes closer, and more so towards the poles. -/
theorem abs_latitudeStep_sub_le (h : OffAxis a e2 r lat) (x y : ℝ) :
    |latitudeStep a e2 (z a e2 r lat) (r * cos lat) x -
        latitudeStep a e2 (z a e2 r lat) (r * cos lat) y| ≤ cos lat / 40 * |x - y| := by
  have ha := h.a_pos
  have hr := h.r_pos
  have hcos := h.cos_pos
  have hp : 0 < r * cos lat := mul_pos hr hcos
  set g := fun phi => z a e2 r lat + radius a e2 phi * e2 * sin phi with hg
  have hderiv : ∀ phi, HasDerivAt (latitudeStep a e2 (z a e2 r lat) (r * cos lat))
      (1 / (1 + (g phi / (r * cos lat)) ^ 2) *
        (e2 * (a * cos phi / √(1 - e2 * sin phi * sin phi) ^ 3) / (r * cos lat))) phi := by
    intro phi
    have hgphi : HasDerivAt g (e2 * (a * cos phi / √(1 - e2 * sin phi * sin phi) ^ 3)) phi := by
      have hinner := ((hasDerivAt_radius_mul_sin (a := a) h.e2_nonneg h.e2_le phi).const_mul
        e2).const_add (z a e2 r lat)
      refine hinner.congr_of_eventuallyEq (Filter.Eventually.of_forall fun t => ?_)
      simp only [hg]
      ring
    have harctan := (hgphi.div_const (r * cos lat)).arctan
    refine harctan.congr_of_eventuallyEq (Filter.Eventually.of_forall fun t => ?_)
    exact atan2_of_pos hp _
  have hbound : ∀ phi, ‖1 / (1 + (g phi / (r * cos lat)) ^ 2) *
      (e2 * (a * cos phi / √(1 - e2 * sin phi * sin phi) ^ 3) / (r * cos lat))‖ ≤
        cos lat / 40 := by
    intro phi
    have hfar := h.le_sq_add_sq phi
    obtain ⟨hroot, -⟩ := root_bounds h.e2_nonneg h.e2_le phi
    have hcube : (97 : ℝ) / 100 ≤ √(1 - e2 * sin phi * sin phi) ^ 3 := by
      calc (97 : ℝ) / 100 ≤ (99 / 100) ^ 3 := by norm_num
        _ ≤ _ := pow_le_pow_left₀ (by norm_num) hroot 3
    have hrate : |e2 * (a * cos phi / √(1 - e2 * sin phi * sin phi) ^ 3)| ≤ 1 / 48 * r := by
      have hquot : |a * cos phi / √(1 - e2 * sin phi * sin phi) ^ 3| ≤ a / (97 / 100) := by
        have hpos : 0 < √(1 - e2 * sin phi * sin phi) ^ 3 := by linarith
        rw [abs_div, abs_mul, abs_of_pos ha, abs_of_pos hpos]
        exact div_le_div₀ ha.le (mul_le_of_le_one_right ha.le (abs_cos_le_one phi)) (by norm_num)
          hcube
      rw [abs_mul, abs_of_nonneg h.e2_nonneg]
      calc e2 * |a * cos phi / √(1 - e2 * sin phi * sin phi) ^ 3|
          ≤ 1 / 100 * (a / (97 / 100)) :=
            mul_le_mul h.e2_le hquot (abs_nonneg _) (by norm_num)
        _ ≤ 1 / 48 * r := by linarith [h.le_r]
    change 91 / 100 * r ^ 2 ≤ (r * cos lat) ^ 2 + g phi ^ 2 at hfar
    generalize e2 * (a * cos phi / √(1 - e2 * sin phi * sin phi) ^ 3) = rate at hrate ⊢
    generalize g phi = v at hfar ⊢
    have hsimple : 1 / (1 + (v / (r * cos lat)) ^ 2) * (rate / (r * cos lat)) =
        r * cos lat * rate / ((r * cos lat) ^ 2 + v ^ 2) := by
      field_simp
    have hsum : 0 < (r * cos lat) ^ 2 + v ^ 2 := by positivity
    rw [hsimple, norm_eq_abs, abs_div, abs_of_pos hsum, abs_mul, abs_of_pos hp,
      div_le_iff₀ hsum]
    calc r * cos lat * |rate| ≤ r * cos lat * (1 / 48 * r) :=
          mul_le_mul_of_nonneg_left hrate hp.le
      _ ≤ cos lat / 40 * (91 / 100 * r ^ 2) := by nlinarith [mul_pos hcos (sq_pos_of_pos hr)]
      _ ≤ cos lat / 40 * ((r * cos lat) ^ 2 + v ^ 2) :=
          mul_le_mul_of_nonneg_left hfar (by positivity)
  have hmean := convex_univ.norm_image_sub_le_of_norm_hasDerivWithin_le
    (fun phi _ => (hderiv phi).hasDerivWithinAt) (fun phi _ => hbound phi) (Set.mem_univ y)
    (Set.mem_univ x)
  rwa [norm_eq_abs, norm_eq_abs] at hmean

theorem factor_bounds (h : OffAxis a e2 r lat) : 0 ≤ cos lat / 40 ∧ cos lat / 40 ≤ 1 / 40 := by
  have hpos := h.cos_pos
  have hle := cos_le_one lat
  constructor <;> linarith

/-- What is left to the latitude where the loop ends, before the last round and after it. -/
theorem abs_sub_lat_le (h : OffAxis a e2 r lat) {phi : ℝ}
    (hphi : ¬ Contraction.Far (latitudeStep a e2 (z a e2 r lat) (r * cos lat)) 1e-12 phi) :
    |phi - lat| ≤ 1.1e-12 ∧
      |latitudeStep a e2 (z a e2 r lat) (r * cos lat) phi - lat| ≤ 2.6e-14 * cos lat := by
  obtain ⟨hfactor0, hfactor⟩ := h.factor_bounds
  obtain ⟨hbefore, hafter⟩ := Contraction.abs_sub_le_of_exit hfactor0 (by linarith)
    h.abs_latitudeStep_sub_le h.latitudeStep_lat hphi
  have hnonneg := abs_nonneg (phi - lat)
  have hnonneg' := abs_nonneg (latitudeStep a e2 (z a e2 r lat) (r * cos lat) phi - lat)
  constructor
  · nlinarith
  · nlinarith

theorem abs_radius_sub_le (h : OffAxis a e2 r lat) (x y : ℝ) :
    |radius a e2 x - radius a e2 y| ≤ r / 40 * |x - y| := by
  have ha := h.a_pos
  have hbound : ∀ phi, ‖a * e2 * sin phi * cos phi / √(1 - e2 * sin phi * sin phi) ^ 3‖ ≤
      r / 40 := by
    intro phi
    obtain ⟨hroot, -⟩ := root_bounds h.e2_nonneg h.e2_le phi
    have hcube : (97 : ℝ) / 100 ≤ √(1 - e2 * sin phi * sin phi) ^ 3 := by
      calc (97 : ℝ) / 100 ≤ (99 / 100) ^ 3 := by norm_num
        _ ≤ _ := pow_le_pow_left₀ (by norm_num) hroot 3
    have hpos : 0 < √(1 - e2 * sin phi * sin phi) ^ 3 := by linarith
    have hnum : |a * e2 * sin phi * cos phi| ≤ a * (1 / 100) := by
      rw [abs_mul, abs_mul, abs_mul, abs_of_pos ha, abs_of_nonneg h.e2_nonneg, mul_assoc]
      have hproduct : |sin phi| * |cos phi| ≤ 1 :=
        mul_le_one₀ (abs_sin_le_one phi) (abs_nonneg _) (abs_cos_le_one phi)
      calc a * e2 * (|sin phi| * |cos phi|) ≤ a * e2 * 1 :=
            mul_le_mul_of_nonneg_left hproduct (mul_nonneg ha.le h.e2_nonneg)
        _ ≤ a * (1 / 100) := by nlinarith [h.e2_le]
    rw [norm_eq_abs, abs_div, abs_of_pos hpos, div_le_iff₀ hpos]
    nlinarith [h.le_r]
  have hmean := convex_univ.norm_image_sub_le_of_norm_hasDerivWithin_le
    (fun phi _ => (hasDerivAt_radius (a := a) h.e2_nonneg h.e2_le phi).hasDerivWithinAt)
    (fun phi _ => hbound phi) (Set.mem_univ y) (Set.mem_univ x)
  rwa [norm_eq_abs, norm_eq_abs] at hmean

/-- The height that a latitude near the true one gives; `psi` is that of the radius. -/
theorem abs_height_sub_le (h : OffAxis a e2 r lat) {phi psi : ℝ}
    (hphi : |phi - lat| ≤ 2.6e-14 * cos lat) (hpsi : |psi - lat| ≤ 1.1e-12) :
    |r * cos lat / cos phi - radius a e2 psi - (r - radius a e2 lat)| ≤ 1e-13 * r := by
  have hr := h.r_pos
  have hcos := h.cos_pos
  have hcosine : |cos lat - cos phi| ≤ 2.6e-14 * cos lat := by
    rw [abs_sub_comm]
    exact (abs_cos_sub_cos_le phi lat).trans hphi
  have hlow : 0.99 * cos lat ≤ cos phi := by
    have hle := (abs_le.1 hcosine).2
    linarith
  have hpos : 0 < cos phi := by linarith
  have hfirst : |r * cos lat / cos phi - r| ≤ 3e-14 * r := by
    have hsplit : r * cos lat / cos phi - r = r * (cos lat - cos phi) / cos phi := by
      field_simp
    rw [hsplit, abs_div, abs_mul, abs_of_pos hr, abs_of_pos hpos, div_le_iff₀ hpos]
    nlinarith
  have hsecond := h.abs_radius_sub_le psi lat
  calc |r * cos lat / cos phi - radius a e2 psi - (r - radius a e2 lat)|
      = |r * cos lat / cos phi - r - (radius a e2 psi - radius a e2 lat)| := by
        congr 1
        ring
    _ ≤ |r * cos lat / cos phi - r| + |radius a e2 psi - radius a e2 lat| := abs_sub _ _
    _ ≤ 1e-13 * r := by nlinarith

end OffAxis

/-! ### There and back -/

section ThereAndBack

variable {a f lat lon h : ℝ}

theorem eccentricitySq_bounds (hf0 : 0 ≤ f) (hf1 : f ≤ 1 / 200) :
    0 ≤ 2 * f - f * f ∧ 2 * f - f * f ≤ 1 / 100 := by
  constructor <;> nlinarith

/-- Both implementations have the same position of a point. -/
theorem llhToEcef_eq (hf0 : 0 ≤ f) (hf1 : f ≤ 1 / 200) (llh : Float3) :
    llhToEcef llh (.create a f) = llhToEcefImpl llh (.fromAF a f) := by
  have hroot : √(2 * f - f * f) * √(2 * f - f * f) = 2 * f - f * f :=
    mul_self_sqrt (eccentricitySq_bounds hf0 hf1).1
  have hd : √(2 * f - f * f) * sin llh.x * (√(2 * f - f * f) * sin llh.x) =
      (2 * f - f * f) * sin llh.x * sin llh.x := by
    linear_combination sin llh.x * sin llh.x * hroot
  simp only [llhToEcef, llhToEcefImpl, ReferenceEllipsoid.create, Ellipsoid.fromAF, radius, hd]

theorem offAxis (ha : 0 < a) (hf0 : 0 ≤ f) (hf1 : f ≤ 1 / 200) (hlow : -(π / 2) < lat)
    (hhigh : lat < π / 2) (hh : -(a / 2) ≤ h) :
    OffAxis a (2 * f - f * f) (radius a (2 * f - f * f) lat + h) lat := by
  obtain ⟨he0, he1⟩ := eccentricitySq_bounds hf0 hf1
  have hradius := (radius_bounds ha he0 he1 lat).1
  exact ⟨ha, he0, he1, by linarith, hlow, hhigh⟩

/-- The position, by its distance from the axis and along it. -/
theorem llhToEcefImpl_eq (llh : Float3) (e : Ellipsoid) :
    llhToEcefImpl llh e =
      ⟨(radius e.a e.e2 llh.x + llh.z) * cos llh.x * cos llh.y,
        (radius e.a e.e2 llh.x + llh.z) * cos llh.x * sin llh.y,
        OffAxis.z e.a e.e2 (radius e.a e.e2 llh.x + llh.z) llh.x⟩ := by
  simp only [llhToEcefImpl, OffAxis.z, Float3.mk.injEq, true_and]
  ring

theorem distance_eq {p : ℝ} (hp : 0 ≤ p) (lon : ℝ) :
    √(p * cos lon * (p * cos lon) + p * sin lon * (p * sin lon)) = p := by
  have hsq : p * cos lon * (p * cos lon) + p * sin lon * (p * sin lon) = p * p := by
    linear_combination p * p * sin_sq_add_cos_sq lon
  rw [hsq, sqrt_mul_self hp]

theorem longitude_eq {p : ℝ} (hp : 0 < p) (hlow : -π < lon) (hhigh : lon ≤ π) :
    atan2 (p * sin lon) (p * cos lon) = lon := by
  have h := Complex.arg_mul_cos_add_sin_mul_I hp ⟨hlow, hhigh⟩
  rw [atan2]
  convert h using 2
  apply Complex.ext <;> simp [← Complex.ofReal_cos, ← Complex.ofReal_sin]

/-- **There and back, with the loop that has no bound.**  For a point off the axis that is not
deeper than half the radius of the earth, the loop ends, and the coordinates that it gives are the
ones that the point was made of, up to the error that its tolerance leaves, also near the poles. -/
theorem ecefToLlh_llhToEcef (ha : 0 < a) (hf0 : 0 ≤ f) (hf1 : f ≤ 1 / 200)
    (hlat : lat ∈ Set.Ioo (-(π / 2)) (π / 2)) (hlon : lon ∈ Set.Ioc (-π) π) (hh : -(a / 2) ≤ h) :
    ∃ llh, (∀ llh', EcefToLlh (.create a f) (llhToEcef ⟨lat, lon, h⟩ (.create a f)) llh' ↔
        llh' = llh) ∧
      |llh.x - lat| ≤ 1e-13 * cos lat ∧ llh.y = lon ∧
      |llh.z - h| ≤ 1e-13 * (radius a (2 * f - f * f) lat + h) := by
  have hoff := offAxis ha hf0 hf1 hlat.1 hlat.2 hh
  have hp : 0 < (radius a (2 * f - f * f) lat + h) * cos lat := mul_pos hoff.r_pos hoff.cos_pos
  obtain ⟨hfactor0, hfactor⟩ := hoff.factor_bounds
  obtain ⟨phi, hends⟩ := Contraction.ends hfactor0 (by linarith) hoff.abs_latitudeStep_sub_le
    (show (0 : ℝ) < 1e-12 by norm_num)
    (atan2 (OffAxis.z a (2 * f - f * f) (radius a (2 * f - f * f) lat + h) lat)
      ((radius a (2 * f - f * f) lat + h) * cos lat * (1 - (2 * f - f * f))))
  obtain ⟨hbefore, hafter⟩ := hoff.abs_sub_lat_le hends.exit
  rw [llhToEcef_eq hf0 hf1, llhToEcefImpl_eq]
  simp only [EcefToLlh, ReferenceEllipsoid.create, Ellipsoid.fromAF, distance_eq hp.le,
    longitude_eq hp hlon.1 hlon.2]
  refine ⟨_, fun llh' => ⟨?_, fun h' => ⟨phi, hends, h'⟩⟩, ?_, rfl, ?_⟩
  · rintro ⟨phi', hends', rfl⟩
    rw [hends'.unique hends]
  · exact hafter.trans (by linarith [hoff.cos_pos])
  · have hheight := hoff.abs_height_sub_le hafter hbefore
    rwa [add_sub_cancel_left] at hheight

theorem latitudeLoop_eq (step : ℝ → ℝ) (rounds : ℕ) (x : ℝ) :
    latitudeLoop step rounds x = Contraction.iterate step 1e-12 rounds x := by
  induction rounds generalizing x with
  | zero => rfl
  | succ rounds ih =>
    rw [latitudeLoop, Contraction.iterate, ih]
    by_cases hclose : |step x - x| < 1e-12
    · exact (if_pos hclose).trans (if_neg (not_not.2 hclose)).symm
    · exact (if_neg hclose).trans (if_pos hclose).symm

/-- Ten rounds are enough. -/
theorem latitudeLoop_exit {e2 r : ℝ} (h : OffAxis a e2 r lat) (z p : ℝ) :
    ∃ phi, ¬ Contraction.Far (latitudeStep a e2 (OffAxis.z a e2 r lat) (r * cos lat)) 1e-12 phi ∧
      latitudeLoop (latitudeStep a e2 (OffAxis.z a e2 r lat) (r * cos lat)) 10 (atan2 z p) =
        latitudeStep a e2 (OffAxis.z a e2 r lat) (r * cos lat) phi := by
  obtain ⟨hfactor0, hfactor⟩ := h.factor_bounds
  have hangles : |latitudeStep a e2 (OffAxis.z a e2 r lat) (r * cos lat) (atan2 z p) -
      atan2 z p| ≤ 2 * π := by
    have hnew : |latitudeStep a e2 (OffAxis.z a e2 r lat) (r * cos lat) (atan2 z p)| ≤ π :=
      Complex.abs_arg_le_pi _
    have hold : |atan2 z p| ≤ π := Complex.abs_arg_le_pi _
    exact (abs_sub _ _).trans (by linarith)
  have hsmall : (cos lat / 40) ^ 9 * |latitudeStep a e2 (OffAxis.z a e2 r lat) (r * cos lat)
      (atan2 z p) - atan2 z p| < 1e-12 := by
    calc (cos lat / 40) ^ 9 * |latitudeStep a e2 (OffAxis.z a e2 r lat) (r * cos lat)
          (atan2 z p) - atan2 z p| ≤ (1 / 40) ^ 9 * (2 * π) :=
          mul_le_mul (pow_le_pow_left₀ hfactor0 hfactor 9) hangles (abs_nonneg _) (by norm_num)
      _ < 1e-12 := by
        have hpi := pi_lt_four
        have hle : ((1 : ℝ) / 40) ^ 9 * (2 * π) ≤ (1 / 40) ^ 9 * (2 * 4) :=
          mul_le_mul_of_nonneg_left (by linarith) (by norm_num)
        exact hle.trans_lt (by norm_num)
  obtain ⟨phi, hphi, heq⟩ := Contraction.iterate_exit hfactor0 h.abs_latitudeStep_sub_le hsmall
  exact ⟨phi, hphi, by rw [latitudeLoop_eq, heq]⟩

/-- The height that the distance along the axis gives near a pole. -/
theorem abs_polarHeight_sub_le {r : ℝ} (hf0 : 0 ≤ f) (hf1 : f ≤ 1 / 200)
    (h : OffAxis a (2 * f - f * f) r lat) (hcos : cos lat ≤ 1.1e-10) :
    |(|OffAxis.z a (2 * f - f * f) r lat| - a * (1 - f)) - (r - radius a (2 * f - f * f) lat)| ≤
      1e-13 * r := by
  have ha := h.a_pos
  have hr := h.r_pos
  have hpos := h.cos_pos
  obtain ⟨hroot, hroot1⟩ := root_bounds h.e2_nonneg h.e2_le lat
  obtain ⟨hradius0, hradius⟩ := radius_bounds ha h.e2_nonneg h.e2_le lat
  have hpythagoras := sin_sq_add_cos_sq lat
  have hcossq : cos lat ^ 2 ≤ 1e-19 := (pow_le_pow_left₀ hpos.le hcos 2).trans (by norm_num)
  have hsin0 : 0 ≤ 1 - |sin lat| := by linarith [abs_sin_le_one lat]
  have hsin : 1 - |sin lat| ≤ 1e-19 := by
    rw [← sq_abs (sin lat)] at hpythagoras
    calc 1 - |sin lat| ≤ (1 - |sin lat|) * (1 + |sin lat|) :=
          le_mul_of_one_le_right hsin0 (by linarith [abs_nonneg (sin lat)])
      _ = cos lat ^ 2 := by linear_combination (-1 : ℝ) * hpythagoras
      _ ≤ 1e-19 := hcossq
  have hbelow : 0 < r - radius a (2 * f - f * f) lat * (2 * f - f * f) := by
    have hle := mul_le_mul hradius h.e2_le h.e2_nonneg (by linarith)
    linarith [h.le_r]
  have hz : |OffAxis.z a (2 * f - f * f) r lat| =
      (r - radius a (2 * f - f * f) lat * (2 * f - f * f)) * |sin lat| := by
    calc |OffAxis.z a (2 * f - f * f) r lat|
        = |(r - radius a (2 * f - f * f) lat * (2 * f - f * f)) * sin lat| := by
          rw [OffAxis.z]
          congr 1
          ring
      _ = _ := by rw [abs_mul, abs_of_pos hbelow]
  have hw : √(1 - (2 * f - f * f) * sin lat * sin lat) ^ 2 =
      (1 - f) ^ 2 + (2 * f - f * f) * cos lat ^ 2 := by
    rw [sq_sqrt (sqrt_pos.1 (by linarith)).le]
    linear_combination (-(2 * f - f * f)) * hpythagoras
  have hmul : radius a (2 * f - f * f) lat * √(1 - (2 * f - f * f) * sin lat * sin lat) = a :=
    div_mul_cancel₀ a (by linarith)
  generalize √(1 - (2 * f - f * f) * sin lat * sin lat) = w at hroot hroot1 hw hmul
  generalize radius a (2 * f - f * f) lat = n at hradius0 hradius hbelow hz hmul ⊢
  have he := h.e2_le
  have he0 := h.e2_nonneg
  have hgap : 0 ≤ w - (1 - f) ∧ w - (1 - f) ≤ 1e-21 := by
    have hsq := mul_nonneg he0 (sq_nonneg (cos lat))
    have hgap0 : 1 - f ≤ w := (sq_le_sq₀ (by linarith) (by linarith)).1 (by linarith)
    refine ⟨by linarith, ?_⟩
    calc w - (1 - f) ≤ (w - (1 - f)) * (w + (1 - f)) :=
          le_mul_of_one_le_right (by linarith) (by linarith)
      _ = (2 * f - f * f) * cos lat ^ 2 := by linear_combination hw
      _ ≤ 1 / 100 * 1e-19 := mul_le_mul he hcossq (sq_nonneg _) (by norm_num)
      _ = 1e-21 := by norm_num
  have hn : 0 < n := ha.trans_le hradius0
  -- The two radii of the ellipsoid at a pole.
  have hcurvature : n * (1 - f) ^ 2 - a * (1 - f) = -(n * (1 - f) * (w - (1 - f))) := by
    linear_combination (1 - f) * hmul
  have hsplit : |OffAxis.z a (2 * f - f * f) r lat| - a * (1 - f) - (r - n) =
      -((r - n * (2 * f - f * f)) * (1 - |sin lat|)) + -(n * (1 - f) * (w - (1 - f))) := by
    rw [hz, ← hcurvature]
    ring
  have hfirst : |(r - n * (2 * f - f * f)) * (1 - |sin lat|)| ≤ r * 1e-19 := by
    rw [abs_of_nonneg (mul_nonneg hbelow.le hsin0)]
    exact mul_le_mul (sub_le_self _ (mul_nonneg hn.le he0)) hsin hsin0 hr.le
  have hsecond : |n * (1 - f) * (w - (1 - f))| ≤ 3 * r * 1e-21 := by
    rw [abs_of_nonneg (mul_nonneg (mul_nonneg hn.le (by linarith)) hgap.1)]
    refine mul_le_mul ?_ hgap.2 hgap.1 (by linarith)
    calc n * (1 - f) ≤ n := mul_le_of_le_one_right hn.le (by linarith)
      _ ≤ 3 * r := by linarith [h.le_r]
  rw [hsplit]
  refine (abs_add_le _ _).trans ?_
  rw [abs_neg, abs_neg]
  linarith

/-- **There and back, with ten rounds.**  The same holds of the other implementation, whether it
takes the height from the distance to the axis or, near the poles, from that along it. -/
theorem ecefToLlhImpl_llhToEcefImpl (ha : 0 < a) (hf0 : 0 ≤ f) (hf1 : f ≤ 1 / 200)
    (hlat : lat ∈ Set.Ioo (-(π / 2)) (π / 2)) (hlon : lon ∈ Set.Ioc (-π) π) (hh : -(a / 2) ≤ h) :
    |(ecefToLlhImpl (llhToEcefImpl ⟨lat, lon, h⟩ (.fromAF a f)) (.fromAF a f)).x - lat| ≤
        1e-13 * cos lat ∧
      (ecefToLlhImpl (llhToEcefImpl ⟨lat, lon, h⟩ (.fromAF a f)) (.fromAF a f)).y = lon ∧
      |(ecefToLlhImpl (llhToEcefImpl ⟨lat, lon, h⟩ (.fromAF a f)) (.fromAF a f)).z - h| ≤
        1e-13 * (radius a (2 * f - f * f) lat + h) := by
  have hoff := offAxis ha hf0 hf1 hlat.1 hlat.2 hh
  have hp : 0 < (radius a (2 * f - f * f) lat + h) * cos lat := mul_pos hoff.r_pos hoff.cos_pos
  obtain ⟨phi, hexit, hloop⟩ := latitudeLoop_exit hoff
    (OffAxis.z a (2 * f - f * f) (radius a (2 * f - f * f) lat + h) lat)
    ((radius a (2 * f - f * f) lat + h) * cos lat * (1 - (2 * f - f * f)))
  obtain ⟨-, hnear⟩ := hoff.abs_sub_lat_le hexit
  rw [llhToEcefImpl_eq]
  simp only [ecefToLlhImpl, Ellipsoid.fromAF, distance_eq hp.le, longitude_eq hp hlon.1 hlon.2,
    hloop]
  generalize latitudeStep _ _ _ _ phi = lat' at hnear ⊢
  have hcos := hoff.cos_pos
  refine ⟨hnear.trans (by linarith), trivial, ?_⟩
  have hcosine : |cos lat' - cos lat| ≤ 2.6e-14 * cos lat :=
    (abs_cos_sub_cos_le lat' lat).trans hnear
  have hlow := (abs_le.1 hcosine).1
  split_ifs with hbranch
  · have hle := cos_le_one lat
    have hheight := hoff.abs_height_sub_le hnear (hnear.trans (by linarith))
    rwa [add_sub_cancel_left] at hheight
  · have habs := le_abs_self (cos lat')
    have hheight := abs_polarHeight_sub_le hf0 hf1 hoff (by linarith)
    rwa [add_sub_cancel_left] at hheight

/-! ### The poles -/

/-- On the axis, the latitude stands still from the start. -/
theorem latitudeStep_pole {e2 z : ℝ} (ha : 0 < a) (he0 : 0 ≤ e2) (he1 : e2 ≤ 1 / 100)
    (hlat : lat = π / 2 ∧ 0 < z ∨ lat = -(π / 2) ∧ z < 0) :
    atan2 z 0 = lat ∧ latitudeStep a e2 z 0 lat = lat := by
  have hradius := (radius_bounds ha he0 he1 lat).1
  have hshift : 0 ≤ radius a e2 lat * e2 := mul_nonneg (by linarith) he0
  obtain ⟨rfl, hz⟩ | ⟨rfl, hz⟩ := hlat
  · refine ⟨Complex.arg_eq_pi_div_two_iff.2 ⟨rfl, hz⟩, Complex.arg_eq_pi_div_two_iff.2 ⟨rfl, ?_⟩⟩
    rw [sin_pi_div_two]
    change 0 < z + radius a e2 (π / 2) * e2 * 1
    linarith
  · refine ⟨Complex.arg_eq_neg_pi_div_two_iff.2 ⟨rfl, hz⟩,
      Complex.arg_eq_neg_pi_div_two_iff.2 ⟨rfl, ?_⟩⟩
    rw [sin_neg, sin_pi_div_two]
    change z + radius a e2 (-(π / 2)) * e2 * -1 < 0
    linarith

theorem radius_pole (hf1 : f ≤ 1 / 200) (hlat : lat = π / 2 ∨ lat = -(π / 2)) :
    radius a (2 * f - f * f) lat = a / (1 - f) := by
  have hsq : 1 - (2 * f - f * f) * sin lat * sin lat = (1 - f) * (1 - f) := by
    obtain rfl | rfl := hlat
    · rw [sin_pi_div_two]
      ring
    · rw [sin_neg, sin_pi_div_two]
      ring
  rw [radius, hsq, sqrt_mul_self (by linarith)]

/-- **At the poles** the ten rounds lead back to the height, and the loop without a bound does
not: there the distance to the axis is zero, and what is left is minus the radius of curvature,
whatever the height was. -/
theorem poles (ha : 0 < a) (hf0 : 0 ≤ f) (hf1 : f ≤ 1 / 200)
    (hlat : lat = π / 2 ∨ lat = -(π / 2)) (hh : -(a / 2) ≤ h) :
    ecefToLlhImpl (llhToEcefImpl ⟨lat, lon, h⟩ (.fromAF a f)) (.fromAF a f) = ⟨lat, 0, h⟩ ∧
      ∀ llh, EcefToLlh (.create a f) (llhToEcef ⟨lat, lon, h⟩ (.create a f)) llh ↔
        llh = ⟨lat, 0, -(a / (1 - f))⟩ := by
  obtain ⟨he0, he1⟩ := eccentricitySq_bounds hf0 hf1
  have hcos : cos lat = 0 := by
    obtain rfl | rfl := hlat
    · exact cos_pi_div_two
    · rw [cos_neg, cos_pi_div_two]
  have hradius := radius_pole (a := a) hf1 hlat
  have hpolar : a / (1 - f) * (1 - (2 * f - f * f)) = a * (1 - f) := by
    have hne : 1 - f ≠ 0 := by linarith
    field_simp
    ring
  have habove : 0 < a * (1 - f) + h := by nlinarith
  have hsin : lat = π / 2 ∧ sin lat = 1 ∨ lat = -(π / 2) ∧ sin lat = -1 := by
    obtain rfl | rfl := hlat
    · exact Or.inl ⟨rfl, sin_pi_div_two⟩
    · exact Or.inr ⟨rfl, by rw [sin_neg, sin_pi_div_two]⟩
  have hposition : llhToEcefImpl ⟨lat, lon, h⟩ (.fromAF a f) =
      ⟨0, 0, (a * (1 - f) + h) * sin lat⟩ := by
    simp only [llhToEcefImpl, Ellipsoid.fromAF, hradius, hcos, hpolar, mul_zero, zero_mul]
  obtain ⟨hstart, hstep⟩ := latitudeStep_pole (z := (a * (1 - f) + h) * sin lat) ha he0 he1 (by
    obtain ⟨hl, hs⟩ | ⟨hl, hs⟩ := hsin
    · exact Or.inl ⟨hl, by rw [hs]; linarith⟩
    · exact Or.inr ⟨hl, by rw [hs]; linarith⟩)
  have hheight : |(a * (1 - f) + h) * sin lat| = a * (1 - f) + h := by
    obtain ⟨-, hs⟩ | ⟨-, hs⟩ := hsin
    · rw [hs, mul_one, abs_of_pos habove]
    · rw [hs, mul_neg_one, abs_neg, abs_of_pos habove]
  have hlon : atan2 0 0 = 0 := Complex.arg_zero
  have hclose : ¬ Contraction.Far (latitudeStep a (2 * f - f * f)
      ((a * (1 - f) + h) * sin lat) 0) 1e-12 lat := by
    rw [Contraction.Far, hstep, sub_self, abs_zero]
    norm_num
  constructor
  · have hloop : latitudeLoop (latitudeStep a (2 * f - f * f) ((a * (1 - f) + h) * sin lat) 0) 10
        lat = lat := by
      rw [latitudeLoop_eq, Contraction.iterate, if_neg hclose, hstep]
    rw [hposition]
    simp only [ecefToLlhImpl, Ellipsoid.fromAF, mul_zero, add_zero, sqrt_zero, zero_mul, hstart,
      hloop, hlon, hcos, abs_zero, hheight, Float3.mk.injEq, true_and]
    rw [if_neg (by norm_num), add_sub_cancel_left]
  · intro llh
    rw [llhToEcef_eq hf0 hf1, hposition]
    simp only [EcefToLlh, ReferenceEllipsoid.create, mul_zero, add_zero, sqrt_zero, zero_mul,
      hstart, hlon, zero_div, zero_sub]
    constructor
    · rintro ⟨phi, hends, rfl⟩
      rw [hends.unique (While.Ends.done hclose), hstep, hradius]
    · rintro rfl
      exact ⟨lat, While.Ends.done hclose, by rw [hstep, hradius]⟩

theorem ecefToLlh_llhToEcef_gWgs84 :
    ∃ llh, (∀ llh', EcefToLlh gWgs84 (llhToEcef ⟨0.9, 0.2, 100⟩ gWgs84) llh' ↔ llh' = llh) ∧
      |llh.x - 0.9| ≤ 1e-13 * cos 0.9 ∧ llh.y = 0.2 ∧
      |llh.z - 100| ≤ 1e-13 * (radius 6378137
        (2 * (1 / 298.257223563) - 1 / 298.257223563 * (1 / 298.257223563)) 0.9 + 100) := by
  have hpi := pi_gt_three
  exact ecefToLlh_llhToEcef (by norm_num) (by norm_num) (by norm_num)
    ⟨by linarith, by linarith⟩ ⟨by linarith, by linarith⟩ (by norm_num)

theorem ecefToLlhImpl_llhToEcefImpl_wgs84 :
    |(ecefToLlhImpl (llhToEcefImpl ⟨0.9, 0.2, 100⟩ wgs84) wgs84).x - 0.9| ≤ 1e-13 * cos 0.9 ∧
      (ecefToLlhImpl (llhToEcefImpl ⟨0.9, 0.2, 100⟩ wgs84) wgs84).y = 0.2 ∧
      |(ecefToLlhImpl (llhToEcefImpl ⟨0.9, 0.2, 100⟩ wgs84) wgs84).z - 100| ≤
        1e-13 * (radius 6378137
          (2 * (1 / 298.257223563) - 1 / 298.257223563 * (1 / 298.257223563)) 0.9 + 100) := by
  have hpi := pi_gt_three
  exact ecefToLlhImpl_llhToEcefImpl (by norm_num) (by norm_num) (by norm_num)
    ⟨by linarith, by linarith⟩ ⟨by linarith, by linarith⟩ (by norm_num)

/-- A point two kilometres above the north pole. -/
theorem poles_wgs84 :
    ecefToLlhImpl (llhToEcefImpl ⟨π / 2, 0, 2000⟩ wgs84) wgs84 = ⟨π / 2, 0, 2000⟩ ∧
      ∀ llh, EcefToLlh gWgs84 (llhToEcef ⟨π / 2, 0, 2000⟩ gWgs84) llh ↔
        llh = ⟨π / 2, 0, -(6378137 / (1 - 1 / 298.257223563))⟩ :=
  poles (by norm_num) (by norm_num) (by norm_num) (Or.inl rfl) (by norm_num)

end ThereAndBack

end

end SuplLpp.Geodetic
