import SuplLpp.Coordinates.Geodetic

/-!
# Coordinates about a point

East, north and up; north, east and down; azimuth, elevation and range.

* `enuRotationMatrix` and the two directions of each conversion;
* `enuToEcefImpl_ecefToEnuImpl` and the like: the directions undo each other;
* `aerToEcefImpl_ecefToAerImpl`, `angles_of_direction`: so do they for the angles;
  `local_round_trip`;
* `computeLookAngles` and `lineOfSight_eq`: the look angles name the line of sight.
-/

namespace SuplLpp.Geodetic

noncomputable section

open Real Windup

/-! ### The functions of the source -/

section Source

local instance turn_atLeastTwo : Nat.AtLeastTwo 2 := ⟨le_refl 2⟩

/-- The rows of the matrix: east, north and up. -/
def enuRotationMatrix (lat lon : ℝ) : Basis where
  x := ⟨-sin lon, cos lon, 0⟩
  y := ⟨-sin lat * cos lon, -sin lat * sin lon, cos lat⟩
  z := ⟨cos lat * cos lon, cos lat * sin lon, sin lat⟩

/-- A matrix, by its rows, times a vector. -/
def mulVec (m : Basis) (v : Float3) : Float3 :=
  ⟨Windup.dotProduct m.x v, Windup.dotProduct m.y v, Windup.dotProduct m.z v⟩

/-- The transposed matrix times a vector. -/
def transposeMulVec (m : Basis) (v : Float3) : Float3 where
  x := m.x.x * v.x + m.y.x * v.y + m.z.x * v.z
  y := m.x.y * v.x + m.y.y * v.y + m.z.y * v.z
  z := m.x.z * v.x + m.y.z * v.y + m.z.z * v.z

def ecefToEnuImpl (ecef originLlh : Float3) (ellipsoid : Ellipsoid) : Float3 :=
  mulVec (enuRotationMatrix originLlh.x originLlh.y) (ecef - llhToEcefImpl originLlh ellipsoid)

def enuToEcefImpl (enu originLlh : Float3) (ellipsoid : Ellipsoid) : Float3 :=
  llhToEcefImpl originLlh ellipsoid +
    transposeMulVec (enuRotationMatrix originLlh.x originLlh.y) enu

def ecefToNedImpl (ecef originLlh : Float3) (ellipsoid : Ellipsoid) : Float3 :=
  let enu := ecefToEnuImpl ecef originLlh ellipsoid
  ⟨enu.y, enu.x, -enu.z⟩

def nedToEcefImpl (ned originLlh : Float3) (ellipsoid : Ellipsoid) : Float3 :=
  enuToEcefImpl ⟨ned.y, ned.x, -ned.z⟩ originLlh ellipsoid

/-- The azimuth of a direction, from zero on. -/
def azimuthOf (enu : Float3) : ℝ :=
  let azimuth := atan2 enu.x enu.y
  if azimuth < 0 then azimuth + 2 * π else azimuth

def ecefToAerImpl (ecef originLlh : Float3) (ellipsoid : Ellipsoid) : Float3 :=
  let enu := ecefToEnuImpl ecef originLlh ellipsoid
  let range := enu.length
  ⟨azimuthOf enu, arcsin (enu.z / range), range⟩

/-- The direction with this azimuth and elevation. -/
def direction (az el : ℝ) : Float3 := ⟨cos el * sin az, cos el * cos az, sin el⟩

def aerToEcefImpl (aer originLlh : Float3) (ellipsoid : Ellipsoid) : Float3 :=
  enuToEcefImpl ⟨aer.z * cos aer.y * sin aer.x, aer.z * cos aer.y * cos aer.x,
    aer.z * sin aer.y⟩ originLlh ellipsoid

structure LookAngles where
  azimuth : ℝ
  elevation : ℝ
  nadir : ℝ

/-- `compute_look_angles`, with the length one that `normalize` leaves. -/
def computeLookAngles (groundEcef enu satelliteEcef : Float3) : LookAngles :=
  if gWgs84.semiMinorAxis ≤ groundEcef.length then
    let satelliteToEarth : Float3 := (-1 : ℝ) * satelliteEcef
    let satelliteToReceiver := groundEcef - satelliteEcef
    { azimuth := if 1e-12 ≤ enu.lengthSquared then azimuthOf enu else 0
      elevation := arcsin enu.z
      nadir := arccos (Windup.dotProduct satelliteToEarth satelliteToReceiver /
        (satelliteToEarth.length * satelliteToReceiver.length)) }
  else ⟨0, π / 2, 0⟩

def ecefToEnuAtLlh (llh ecefVector : Float3) : Float3 :=
  mulVec (enuRotationMatrix llh.x llh.y) ecefVector

end Source

/-! ### The rotation -/

section Rotation

variable (lat lon : ℝ) (v : Float3)

theorem transposeMulVec_mulVec :
    transposeMulVec (enuRotationMatrix lat lon) (mulVec (enuRotationMatrix lat lon) v) = v := by
  have hlat := sin_sq_add_cos_sq lat
  have hlon := sin_sq_add_cos_sq lon
  ext
  · simp only [transposeMulVec, mulVec, enuRotationMatrix, Windup.dotProduct]
    linear_combination v.x * hlon + (v.x * cos lon ^ 2 + v.y * cos lon * sin lon) * hlat
  · simp only [transposeMulVec, mulVec, enuRotationMatrix, Windup.dotProduct]
    linear_combination v.y * hlon + (v.y * sin lon ^ 2 + v.x * cos lon * sin lon) * hlat
  · simp only [transposeMulVec, mulVec, enuRotationMatrix, Windup.dotProduct]
    linear_combination v.z * hlat

theorem mulVec_transposeMulVec :
    mulVec (enuRotationMatrix lat lon) (transposeMulVec (enuRotationMatrix lat lon) v) = v := by
  have hlat := sin_sq_add_cos_sq lat
  have hlon := sin_sq_add_cos_sq lon
  ext
  · simp only [transposeMulVec, mulVec, enuRotationMatrix, Windup.dotProduct]
    linear_combination v.x * hlon
  · simp only [transposeMulVec, mulVec, enuRotationMatrix, Windup.dotProduct]
    linear_combination v.y * hlat + (v.y * sin lat ^ 2 - v.z * sin lat * cos lat) * hlon
  · simp only [transposeMulVec, mulVec, enuRotationMatrix, Windup.dotProduct]
    linear_combination v.z * hlat + (v.z * cos lat ^ 2 - v.y * sin lat * cos lat) * hlon

theorem lengthSquared_mulVec :
    (mulVec (enuRotationMatrix lat lon) v).lengthSquared = v.lengthSquared := by
  have hlat := sin_sq_add_cos_sq lat
  have hlon := sin_sq_add_cos_sq lon
  simp only [Float3.lengthSquared, mulVec, enuRotationMatrix, Windup.dotProduct]
  linear_combination (v.x ^ 2 + v.y ^ 2) * hlon +
    (v.z ^ 2 + (v.x * cos lon + v.y * sin lon) ^ 2) * hlat

end Rotation

/-! ### Angles of a direction -/

theorem azimuthOf_range (v : Float3) : 0 ≤ azimuthOf v ∧ azimuthOf v < 2 * π := by
  have hlow := Complex.neg_pi_lt_arg ⟨v.y, v.x⟩
  have hhigh := Complex.arg_le_pi ⟨v.y, v.x⟩
  have hpi := pi_pos
  unfold azimuthOf atan2
  dsimp only
  split_ifs with hneg
  · constructor <;> linarith
  · exact ⟨not_lt.1 hneg, by linarith⟩

theorem sin_cos_azimuthOf (v : Float3) :
    sin (azimuthOf v) = sin (atan2 v.x v.y) ∧ cos (azimuthOf v) = cos (atan2 v.x v.y) := by
  unfold azimuthOf
  dsimp only
  split_ifs
  · exact ⟨sin_add_two_pi _, cos_add_two_pi _⟩
  · exact ⟨rfl, rfl⟩

theorem norm_mul_azimuth (v : Float3) :
    √(v.x ^ 2 + v.y ^ 2) * sin (azimuthOf v) = v.x ∧
      √(v.x ^ 2 + v.y ^ 2) * cos (azimuthOf v) = v.y := by
  obtain ⟨hsin, hcos⟩ := sin_cos_azimuthOf v
  have hnorm : ‖(⟨v.y, v.x⟩ : ℂ)‖ = √(v.x ^ 2 + v.y ^ 2) := by
    rw [Complex.norm_eq_sqrt_sq_add_sq, add_comm]
  rw [hsin, hcos, ← hnorm]
  exact ⟨Complex.norm_mul_sin_arg _, Complex.norm_mul_cos_arg _⟩

theorem length_sq (v : Float3) : v.length ^ 2 = v.x ^ 2 + v.y ^ 2 + v.z ^ 2 := by
  have hnonneg : 0 ≤ v.lengthSquared :=
    add_nonneg (add_nonneg (mul_self_nonneg _) (mul_self_nonneg _)) (mul_self_nonneg _)
  rw [Float3.length, sq_sqrt hnonneg, Float3.lengthSquared]
  ring

/-- A vector, by its length and its two angles. -/
theorem length_mul_direction (v : Float3) :
    v.length * direction (azimuthOf v) (arcsin (v.z / v.length)) = v := by
  have hsq := length_sq v
  have hnonneg : 0 ≤ v.length := sqrt_nonneg _
  have hz : |v.z| ≤ v.length := abs_le_of_sq_le_sq (by nlinarith [sq_nonneg v.x, sq_nonneg v.y])
    hnonneg
  obtain hzero | hpos := hnonneg.eq_or_lt
  · rw [← hzero] at hsq hz ⊢
    have hx : v.x = 0 := by nlinarith [sq_nonneg v.x, sq_nonneg v.y, sq_nonneg v.z]
    have hy : v.y = 0 := by nlinarith [sq_nonneg v.x, sq_nonneg v.y, sq_nonneg v.z]
    have hz0 : v.z = 0 := abs_nonpos_iff.1 hz
    ext <;> simp [direction, Float3.mul_def, hx, hy, hz0]
  obtain ⟨hlow, hhigh⟩ := abs_le.1 hz
  have hsin : sin (arcsin (v.z / v.length)) = v.z / v.length :=
    sin_arcsin ((le_div_iff₀ hpos).2 (by linarith)) ((div_le_one hpos).2 hhigh)
  have hcos : v.length * cos (arcsin (v.z / v.length)) = √(v.x ^ 2 + v.y ^ 2) := by
    have hrest : v.length ^ 2 * (1 - (v.z / v.length) ^ 2) = v.x ^ 2 + v.y ^ 2 := by
      field_simp
      linarith
    rw [cos_arcsin, ← hrest, sqrt_mul (sq_nonneg _), sqrt_sq hnonneg]
  obtain ⟨haz, haz'⟩ := norm_mul_azimuth v
  ext
  · rw [Float3.mul_def, direction]
    dsimp only
    rw [← mul_assoc, hcos, haz]
  · rw [Float3.mul_def, direction]
    dsimp only
    rw [← mul_assoc, hcos, haz']
  · rw [Float3.mul_def, direction]
    dsimp only
    rw [hsin]
    field_simp

/-! ### There and back -/

section ThereAndBack

variable (origin : Float3) (e : Ellipsoid)

theorem enuToEcefImpl_ecefToEnuImpl (ecef : Float3) :
    enuToEcefImpl (ecefToEnuImpl ecef origin e) origin e = ecef := by
  rw [enuToEcefImpl, ecefToEnuImpl, transposeMulVec_mulVec]
  ext <;> simp [Float3.add_def, Float3.sub_def]

theorem ecefToEnuImpl_enuToEcefImpl (enu : Float3) :
    ecefToEnuImpl (enuToEcefImpl enu origin e) origin e = enu := by
  have hdiff : llhToEcefImpl origin e + transposeMulVec (enuRotationMatrix origin.x origin.y) enu -
      llhToEcefImpl origin e = transposeMulVec (enuRotationMatrix origin.x origin.y) enu := by
    ext <;> simp [Float3.add_def, Float3.sub_def]
  rw [enuToEcefImpl, ecefToEnuImpl, hdiff, mulVec_transposeMulVec]

theorem nedToEcefImpl_ecefToNedImpl (ecef : Float3) :
    nedToEcefImpl (ecefToNedImpl ecef origin e) origin e = ecef := by
  rw [nedToEcefImpl, ecefToNedImpl]
  simp only [neg_neg]
  exact enuToEcefImpl_ecefToEnuImpl origin e ecef

theorem length_ecefToEnuImpl (ecef : Float3) :
    (ecefToEnuImpl ecef origin e).length = (ecef - llhToEcefImpl origin e).length := by
  rw [Float3.length, Float3.length, ecefToEnuImpl, lengthSquared_mulVec]

theorem aerToEcefImpl_ecefToAerImpl (ecef : Float3) :
    aerToEcefImpl (ecefToAerImpl ecef origin e) origin e = ecef := by
  have hdirection := length_mul_direction (ecefToEnuImpl ecef origin e)
  rw [direction, Float3.mul_def] at hdirection
  rw [aerToEcefImpl, ecefToAerImpl]
  simp only [mul_assoc]
  rw [hdirection, enuToEcefImpl_ecefToEnuImpl]

/-- The angles of a direction that is not straight up or down. -/
theorem angles_of_direction {az el r : ℝ} (haz : az ∈ Set.Ico 0 (2 * π))
    (hel : el ∈ Set.Ioo (-(π / 2)) (π / 2)) (hr : 0 < r) :
    azimuthOf (r * direction az el) = az ∧ (r * direction az el).length = r ∧
      arcsin ((r * direction az el).z / r) = el := by
  have hcos : 0 < cos el := cos_pos_of_mem_Ioo hel
  have hp : 0 < r * cos el := mul_pos hr hcos
  have hazimuth : azimuthOf (r * direction az el) = az := by
    unfold azimuthOf
    simp only [direction, Float3.mul_def, ← mul_assoc]
    by_cases hle : az ≤ π
    · rw [longitude_eq hp (by linarith [haz.1, pi_pos]) hle, if_neg (not_lt.2 haz.1)]
    · have hlow : -π < az - 2 * π := by linarith
      have hback := longitude_eq hp hlow (by linarith [haz.2, pi_pos])
      rw [sin_sub_two_pi, cos_sub_two_pi] at hback
      rw [hback, if_pos (by linarith [haz.2]), sub_add_cancel]
  have hlength : (r * direction az el).length = r := by
    have hsq : (r * direction az el).lengthSquared = r * r := by
      simp only [direction, Float3.mul_def, Float3.lengthSquared]
      linear_combination r * r * cos el ^ 2 * sin_sq_add_cos_sq az + r * r * sin_sq_add_cos_sq el
    rw [Float3.length, hsq, sqrt_mul_self hr.le]
  refine ⟨hazimuth, hlength, ?_⟩
  have hz : (r * direction az el).z / r = sin el := mul_div_cancel_left₀ _ hr.ne'
  rw [hz, arcsin_sin hel.1.le hel.2.le]

/-- **Coordinates about a point.**  The two directions of each conversion undo each other: for
east, north and up and for north, east and down; for azimuth, elevation and range at every point but
the origin, and for all that are not straight up or down. -/
theorem local_round_trip :
    (∀ ecef, enuToEcefImpl (ecefToEnuImpl ecef origin e) origin e = ecef ∧
        nedToEcefImpl (ecefToNedImpl ecef origin e) origin e = ecef) ∧
      (∀ ecef, ecef ≠ llhToEcefImpl origin e →
        aerToEcefImpl (ecefToAerImpl ecef origin e) origin e = ecef ∧
        (ecefToAerImpl ecef origin e).x ∈ Set.Ico 0 (2 * π) ∧
        (ecefToAerImpl ecef origin e).y ∈ Set.Icc (-(π / 2)) (π / 2) ∧
        (ecefToAerImpl ecef origin e).z = (ecef - llhToEcefImpl origin e).length) ∧
      ∀ az ∈ Set.Ico 0 (2 * π), ∀ el ∈ Set.Ioo (-(π / 2)) (π / 2), ∀ r, 0 < r →
        ecefToAerImpl (aerToEcefImpl ⟨az, el, r⟩ origin e) origin e = ⟨az, el, r⟩ := by
  refine ⟨fun ecef => ?_, fun ecef _ => ?_, fun az haz el hel r hr => ?_⟩
  · exact ⟨enuToEcefImpl_ecefToEnuImpl origin e ecef, nedToEcefImpl_ecefToNedImpl origin e ecef⟩
  · exact ⟨aerToEcefImpl_ecefToAerImpl origin e ecef, azimuthOf_range _,
      ⟨neg_pi_div_two_le_arcsin _, arcsin_le_pi_div_two _⟩, length_ecefToEnuImpl origin e ecef⟩
  · obtain ⟨hazimuth, hlength, helevation⟩ := angles_of_direction haz hel hr
    have henu : ecefToEnuImpl (aerToEcefImpl ⟨az, el, r⟩ origin e) origin e =
        r * direction az el := by
      rw [aerToEcefImpl, ecefToEnuImpl_enuToEcefImpl, direction, Float3.mul_def]
      simp only [mul_assoc]
    rw [ecefToAerImpl]
    simp only [henu, hazimuth, hlength, helevation]

/-- From a place on the equator, a satellite low in the north-west. -/
theorem local_round_trip_equator :
    ecefToAerImpl (aerToEcefImpl ⟨5.5, 0.1, 23000000⟩ ⟨0, 0, 0⟩ wgs84) ⟨0, 0, 0⟩ wgs84 =
      ⟨5.5, 0.1, 23000000⟩ := by
  have hpi := pi_gt_three
  exact (local_round_trip ⟨0, 0, 0⟩ wgs84).2.2 5.5 ⟨by norm_num, by linarith⟩ 0.1
    ⟨by linarith, by linarith⟩ 23000000 (by norm_num)

end ThereAndBack

/-- **Look angles.**  For a receiver that is not inside the earth, azimuth and elevation name the
line of sight. -/
theorem lineOfSight_eq (llh ground satellite : Float3)
    (hground : gWgs84.semiMinorAxis ≤ ground.length) {sight : Float3} (hsight : sight.length = 1) :
    let angles := computeLookAngles ground (ecefToEnuAtLlh llh sight) satellite
    transposeMulVec (enuRotationMatrix llh.x llh.y) (direction angles.azimuth angles.elevation) =
        sight ∧ 0 ≤ angles.azimuth ∧ angles.azimuth < 2 * π := by
  have hlength : (ecefToEnuAtLlh llh sight).length = 1 := by
    rw [Float3.length, ecefToEnuAtLlh, lengthSquared_mulVec]
    exact hsight
  have hsq : (ecefToEnuAtLlh llh sight).lengthSquared = 1 := by
    rw [Float3.length, sqrt_eq_one] at hlength
    exact hlength
  have hdirection := length_mul_direction (ecefToEnuAtLlh llh sight)
  rw [hlength, div_one] at hdirection
  have hbranch : (1e-12 : ℝ) ≤ (ecefToEnuAtLlh llh sight).lengthSquared := by
    rw [hsq]
    norm_num
  simp only [computeLookAngles, if_pos hground, if_pos hbranch]
  refine ⟨?_, azimuthOf_range _⟩
  have hone : ∀ v : Float3, (1 : ℝ) * v = v := fun v => by
    ext <;> simp [Float3.mul_def]
  rw [hone] at hdirection
  rw [hdirection, ecefToEnuAtLlh, transposeMulVec_mulVec]

theorem lineOfSight_eq_equator :
    let angles := computeLookAngles ⟨6378137, 0, 0⟩ (ecefToEnuAtLlh ⟨0, 0, 0⟩ ⟨0.6, -0.8, 0⟩)
      ⟨20378137, -16000000, 0⟩
    transposeMulVec (enuRotationMatrix 0 0) (direction angles.azimuth angles.elevation) =
        ⟨0.6, -0.8, 0⟩ ∧ 0 ≤ angles.azimuth ∧ angles.azimuth < 2 * π := by
  have hground : gWgs84.semiMinorAxis ≤ (⟨6378137, 0, 0⟩ : Float3).length := by
    have hlength : (⟨6378137, 0, 0⟩ : Float3).length = 6378137 := by
      rw [Float3.length, sqrt_eq_iff_mul_self_eq (by norm_num [Float3.lengthSquared]) (by norm_num)]
      norm_num [Float3.lengthSquared]
    rw [hlength]
    norm_num [gWgs84, ReferenceEllipsoid.create]
  have hsight : (⟨0.6, -0.8, 0⟩ : Float3).length = 1 := by
    rw [Float3.length, sqrt_eq_one]
    norm_num [Float3.lengthSquared]
  exact lineOfSight_eq ⟨0, 0, 0⟩ ⟨6378137, 0, 0⟩ ⟨20378137, -16000000, 0⟩ hground hsight

end

end SuplLpp.Geodetic
