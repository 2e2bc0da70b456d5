import SuplLpp.Ephemeris.Motion
import SuplLpp.Time.Timestamp

/-!
# The orbit of a GLONASS satellite

A GLONASS ephemeris is a state at a reference time; `compute` integrates the equations of motion
from there, over the real numbers.

* `computeAcceleration`, `rk4Step`, `integrate` and `compute`;
* `integrate_steps`: which steps the integration takes; `stateAt_spec`: within its hundred rounds
  they lead to the time that is asked for;
* `hasDerivAt_jacobi`: along the motion that the integration follows, the energy in the frame of the
  earth changes by the work of the acceleration of the ephemeris only.
-/

namespace SuplLpp.Glonass

noncomputable section

open Real Windup

/-! ### The functions of the source -/

def gloMu : ℝ := 3.9860044e14

def gloJ2 : ℝ := 1.0826257e-3

def gloAe : ℝ := 6378136.0

def gloOmegaE : ℝ := 7.292115e-5

def gloC : ℝ := 2.99792458e8

def gloStepSize : ℝ := 60.0

def gloMaxIter : ℕ := 100

structure GloEphemeris where
  referenceTime : Ts.Glo
  position : Float3
  velocity : Float3
  acceleration : Float3
  tauN : ℝ
  gammaN : ℝ
  health : ℕ

/-- `compute_acceleration`, in kilometres. -/
def computeAcceleration (pos vel accEph : Float3) : Float3 :=
  let r := pos * (1000.0 : ℝ)
  let rMag := r.length
  let r2 := rMag * rMag
  let r3 := r2 * rMag
  if r2 ≤ 0 then ⟨0, 0, 0⟩
  else
    let a := 1.5 * gloJ2 * gloMu * gloAe * gloAe / r2 / r3
    let b := 5.0 * r.z * r.z / r2
    let c := -gloMu / r3 - a * (1 - b)
    let omg2 := gloOmegaE * gloOmegaE
    let aTotal : Float3 :=
      { x := (c + omg2) * r.x + 2.0 * gloOmegaE * vel.y * 1000.0 + accEph.x * 1000.0
        y := (c + omg2) * r.y - 2.0 * gloOmegaE * vel.x * 1000.0 + accEph.y * 1000.0
        z := (c - 2.0 * a) * r.z + accEph.z * 1000.0 }
    ⟨aTotal.x / 1000.0, aTotal.y / 1000.0, aTotal.z / 1000.0⟩

/-- A position and a velocity. -/
structure State where
  pos : Float3
  vel : Float3

def rk4Step (accEph : Float3) (dt : ℝ) (s : State) : State :=
  let k1Pos := s.vel
  let k1Vel := computeAcceleration s.pos s.vel accEph
  let pos2 := s.pos + k1Pos * (dt / 2.0)
  let vel2 := s.vel + k1Vel * (dt / 2.0)
  let k2Pos := vel2
  let k2Vel := computeAcceleration pos2 vel2 accEph
  let pos3 := s.pos + k2Pos * (dt / 2.0)
  let vel3 := s.vel + k2Vel * (dt / 2.0)
  let k3Pos := vel3
  let k3Vel := computeAcceleration pos3 vel3 accEph
  let pos4 := s.pos + k3Pos * dt
  let vel4 := s.vel + k3Vel * dt
  let k4Pos := vel4
  let k4Vel := computeAcceleration pos4 vel4 accEph
  { pos := s.pos + (k1Pos + k2Pos * (2.0 : ℝ) + k3Pos * (2.0 : ℝ) + k4Pos) * (dt / 6.0)
    vel := s.vel + (k1Vel + k2Vel * (2.0 : ℝ) + k3Vel * (2.0 : ℝ) + k4Vel) * (dt / 6.0) }

/-- The loop of `compute`, with the time that is left and the step. -/
def integrate {σ : Type} (advance : ℝ → σ → σ) : ℕ → ℝ → ℝ → σ → σ
  | 0, _, _, s => s
  | rounds + 1, t, step, s =>
    if 1e-9 < |t| then
      let step := if |t| < gloStepSize then t else step
      integrate advance rounds (t - step) step (advance step s)
    else s

namespace GloEphemeris

variable (e : GloEphemeris)

/-- The time since the reference time. -/
def elapsed (time : Ts.Glo) : ℝ := ((time.mTm - e.referenceTime.mTm : ℚ) : ℝ)

def isValid (time : Ts.Glo) : Prop := e.health = 0 ∧ |e.elapsed time| ≤ 1800.0

def calculateClockBias (dt : ℝ) : ℝ := -e.tauN + e.gammaN * dt

def calculateRelativisticCorrection (pos vel : Float3) : ℝ :=
  (-2.0) * Windup.dotProduct pos vel / (gloC * gloC)

/-- The state that the loop of `compute` ends with. -/
def stateAt (dt : ℝ) : State :=
  let step := if dt < 0 then -gloStepSize else gloStepSize
  integrate (rk4Step e.acceleration) gloMaxIter dt step ⟨e.position, e.velocity⟩

/-- `compute`; it leaves the other relativistic correction zero. -/
def compute (time : Ts.Glo) : EphemerisResult :=
  let dt := e.elapsed time
  let s := e.stateAt dt
  let posM := s.pos * (1000.0 : ℝ)
  let velM := s.vel * (1000.0 : ℝ)
  let dtR := calculateRelativisticCorrection posM velM
  let dtFull := e.calculateClockBias dt
  let dtFree := dtFull - dtR
  { position := posM
    velocity := velM
    clock := dtFree
    relativisticCorrectionBrdc := dtR
    relativisticCorrectionDotrv := 0 }

end GloEphemeris

/-! ### The steps -/

/-- The direction in time. -/
def direction (dt : ℝ) : ℝ := if dt < 0 then -1 else 1

/-- The steps that lead to a time: whole ones, a hundred at most, and what is left. -/
def steps (dt : ℝ) : List ℝ :=
  let n := min gloMaxIter ⌊|dt| / gloStepSize⌋₊
  let left := |dt| - n * gloStepSize
  List.replicate n (direction dt * gloStepSize) ++
    if n < gloMaxIter ∧ 1e-9 < left then [direction dt * left] else []

theorem gloStepSize_eq : gloStepSize = 60 := by norm_num [gloStepSize]

theorem direction_mul_abs (dt : ℝ) : direction dt * |dt| = dt := by
  rw [direction]
  split_ifs with h
  · rw [abs_of_neg h]
    ring
  · rw [abs_of_nonneg (not_lt.1 h), one_mul]

theorem abs_direction_mul (dt x : ℝ) : |direction dt * x| = |x| := by
  rw [direction, abs_mul]
  split_ifs <;> norm_num

section Steps

variable {σ : Type} (advance : ℝ → σ → σ) (dt : ℝ)

/-- Rounds that start with a whole step left take it. -/
theorem integrate_whole (rounds n : ℕ) {x : ℝ} (hn : n * 60 ≤ x) (s : σ) :
    integrate advance (rounds + n) (direction dt * x) (direction dt * 60) s =
      integrate advance rounds (direction dt * (x - n * 60)) (direction dt * 60)
        ((List.replicate n (direction dt * 60)).foldl (fun s step => advance step s) s) := by
  induction n generalizing x s with
  | zero => simp
  | succ n ih =>
    push_cast at hn
    have hpos : 60 ≤ x := by linarith [(Nat.cast_nonneg n : (0 : ℝ) ≤ n)]
    have habs : |direction dt * x| = x := by rw [abs_direction_mul, abs_of_nonneg (by linarith)]
    have hmore : (1e-9 : ℝ) < x := by linarith
    have hwhole : ¬ x < gloStepSize := not_lt.2 (gloStepSize_eq ▸ hpos)
    rw [← Nat.add_assoc, integrate, habs, if_pos hmore, if_neg hwhole]
    dsimp only
    rw [← mul_sub, ih (by linarith), List.replicate_succ, List.foldl_cons]
    congr 2
    push_cast
    ring

/-- Less than a step is one step, unless it is next to nothing. -/
theorem integrate_rest (rounds : ℕ) {x : ℝ} (hx : 0 ≤ x) (hlt : x < 60) (step : ℝ) (s : σ) :
    integrate advance (rounds + 1) (direction dt * x) step s =
      if 1e-9 < x then advance (direction dt * x) s else s := by
  have habs : |direction dt * x| = x := by rw [abs_direction_mul, abs_of_nonneg hx]
  have hless : x < gloStepSize := gloStepSize_eq ▸ hlt
  have hdone : ∀ (rounds : ℕ) (step : ℝ) (s : σ), integrate advance rounds 0 step s = s := by
    intro rounds step s
    cases rounds with
    | zero => rfl
    | succ rounds => rw [integrate, abs_zero, if_neg (by norm_num)]
  rw [integrate, habs, if_pos hless]
  split_ifs with hmore
  · dsimp only
    rw [sub_self, hdone]
  · rfl

/-- The loop takes the steps of the list. -/
theorem integrate_steps (s : σ) :
    integrate advance gloMaxIter dt (direction dt * 60) s =
      (steps dt).foldl (fun s step => advance step s) s := by
  have hfloor : (⌊|dt| / 60⌋₊ : ℝ) * 60 ≤ |dt| := by
    have h := Nat.floor_le (div_nonneg (abs_nonneg dt) (by norm_num : (0 : ℝ) ≤ 60))
    linarith
  have hceil : |dt| < (⌊|dt| / 60⌋₊ + 1 : ℝ) * 60 := by
    have h := Nat.lt_floor_add_one (|dt| / 60)
    linarith
  rw [steps, gloStepSize_eq]
  obtain ⟨n, hn⟩ : ∃ n, n = ⌊|dt| / 60⌋₊ := ⟨_, rfl⟩
  rw [← hn] at hfloor hceil ⊢
  obtain hlt | hge := lt_or_ge n gloMaxIter
  · obtain ⟨rounds, hrounds⟩ : ∃ rounds, gloMaxIter = rounds + 1 + n :=
      ⟨gloMaxIter - n - 1, by omega⟩
    have hleft : 0 ≤ |dt| - n * 60 := by linarith
    have hless : |dt| - n * 60 < 60 := by linarith
    have hloop := integrate_whole advance dt (rounds + 1) n hfloor s
    rw [direction_mul_abs, ← hrounds] at hloop
    rw [hloop, integrate_rest advance dt rounds hleft hless, min_eq_right hlt.le,
      List.foldl_append]
    simp only [hlt, true_and]
    split_ifs <;> rfl
  · have hcast : (gloMaxIter : ℝ) * 60 ≤ |dt| := by
      have h : (gloMaxIter : ℝ) ≤ n := by exact_mod_cast hge
      linarith
    have hloop := integrate_whole advance dt 0 gloMaxIter hcast s
    rw [direction_mul_abs, Nat.zero_add] at hloop
    rw [hloop, min_eq_left hge, integrate]
    simp

end Steps

/-- The steps add up to the time that is asked for, as far as a hundred of them reach. -/
theorem steps_sum (dt : ℝ) :
    (|dt| ≤ 6000 → |(steps dt).sum - dt| ≤ 1e-9) ∧
      (6000 ≤ |dt| → (steps dt).sum = direction dt * 6000) := by
  have hfloor : (⌊|dt| / 60⌋₊ : ℝ) * 60 ≤ |dt| := by
    have h := Nat.floor_le (div_nonneg (abs_nonneg dt) (by norm_num : (0 : ℝ) ≤ 60))
    linarith
  have hceil : |dt| < (⌊|dt| / 60⌋₊ + 1 : ℝ) * 60 := by
    have h := Nat.lt_floor_add_one (|dt| / 60)
    linarith
  rw [steps, gloStepSize_eq]
  obtain ⟨n, hn⟩ : ∃ n, n = ⌊|dt| / 60⌋₊ := ⟨_, rfl⟩
  rw [← hn] at hfloor hceil ⊢
  obtain hlt | hge := lt_or_ge n gloMaxIter
  · have hn99 : (n : ℝ) ≤ 99 := by
      have h : n ≤ 99 := Nat.le_of_lt_succ hlt
      exact_mod_cast h
    rw [min_eq_right hlt.le]
    refine ⟨fun _ => ?_, fun hfar => by linarith⟩
    have hdt := direction_mul_abs dt
    simp only [hlt, true_and]
    split_ifs with hmore
    · have hsum : direction dt * (|dt| - n * 60) + n * (direction dt * 60) - dt = 0 := by
        linear_combination hdt
      simp only [List.sum_append, List.sum_replicate, nsmul_eq_mul, List.sum_singleton]
      rw [add_comm, hsum, abs_zero]
      norm_num
    · simp only [List.append_nil, List.sum_replicate, nsmul_eq_mul]
      have hsum : n * (direction dt * 60) - dt = direction dt * (n * 60 - |dt|) := by
        linear_combination hdt
      rw [hsum, abs_direction_mul, abs_sub_comm, abs_of_nonneg (by linarith)]
      exact not_lt.1 hmore
  · have hcast : (gloMaxIter : ℝ) ≤ n := by exact_mod_cast hge
    have hfar : 6000 ≤ |dt| := by
      rw [gloMaxIter] at hcast
      push_cast at hcast
      linarith
    rw [min_eq_left hge]
    have hnot : ¬ (gloMaxIter < gloMaxIter ∧ 1e-9 < |dt| - gloMaxIter * 60) := fun h =>
      lt_irrefl _ h.1
    have hsum : (List.replicate gloMaxIter (direction dt * 60)).sum = direction dt * 6000 := by
      rw [List.sum_replicate, nsmul_eq_mul, gloMaxIter]
      push_cast
      ring
    rw [if_neg hnot, List.append_nil, hsum]
    refine ⟨fun hnear => ?_, fun _ => rfl⟩
    have heq : |dt| = 6000 := le_antisymm hnear hfar
    rw [← heq, direction_mul_abs, sub_self, abs_zero]
    norm_num

theorem abs_le_of_mem_steps {dt step : ℝ} (h : step ∈ steps dt) : |step| ≤ 60 := by
  have hceil : |dt| < (⌊|dt| / 60⌋₊ + 1 : ℝ) * 60 := by
    have hlt := Nat.lt_floor_add_one (|dt| / 60)
    linarith
  rw [steps, gloStepSize_eq, List.mem_append] at h
  obtain hwhole | hleft := h
  · rw [List.eq_of_mem_replicate hwhole, abs_direction_mul]
    norm_num
  · split_ifs at hleft with hmore
    · obtain ⟨hlt, hmore⟩ := hmore
      rw [min_eq_right (by omega)] at hleft hmore
      rw [List.mem_singleton.1 hleft, abs_direction_mul, abs_of_pos (by linarith)]
      linarith
    · exact absurd hleft List.not_mem_nil

namespace GloEphemeris

variable (e : GloEphemeris)

/-- **The integration ends at the time that is asked for.**  It takes steps of a minute at most from
the reference state, in the direction of the time; for a time at which the ephemeris is valid they
add up to it, and beyond a hundred minutes they stop short of it. -/
theorem stateAt_spec (time : Ts.Glo) :
    e.stateAt (e.elapsed time) =
        (steps (e.elapsed time)).foldl (fun s step => rk4Step e.acceleration step s)
          ⟨e.position, e.velocity⟩ ∧
      (∀ step ∈ steps (e.elapsed time), |step| ≤ 60) ∧
      (e.isValid time → |(steps (e.elapsed time)).sum - e.elapsed time| ≤ 1e-9) ∧
      (6000 ≤ |e.elapsed time| →
        (steps (e.elapsed time)).sum = direction (e.elapsed time) * 6000) := by
  obtain ⟨hnear, hfar⟩ := steps_sum (e.elapsed time)
  refine ⟨?_, fun step hstep => ?_, fun hvalid => hnear ?_, hfar⟩
  · rw [← integrate_steps, stateAt]
    congr 1
    rw [direction, gloStepSize_eq]
    split_ifs <;> norm_num
  · exact abs_le_of_mem_steps hstep
  · have h := hvalid.2
    norm_num at h
    linarith

end GloEphemeris

/-! ### Energy -/

/-- The potential of the earth, with its second zonal harmonic, in metres. -/
def potential (r : Float3) : ℝ :=
  gloMu / r.length +
    gloJ2 * gloMu * gloAe ^ 2 / 2.0 * (1 / r.length ^ 3 - 3.0 * r.z ^ 2 / r.length ^ 5)

/-- The energy in the frame that turns with the earth, from kilometres. -/
def jacobi (pos vel : Float3) : ℝ :=
  let r := pos * (1000.0 : ℝ)
  let v := vel * (1000.0 : ℝ)
  v.lengthSquared / 2.0 - potential r - gloOmegaE ^ 2 * (r.x ^ 2 + r.y ^ 2) / 2.0

theorem hasDerivAt_length {r : ℝ → Float3} {v : Float3} {t : ℝ} (hr : Moves r v t)
    (hne : (r t).length ≠ 0) :
    HasDerivAt (fun s => (r s).length) (Windup.dotProduct (r t) v / (r t).length) t := by
  have hsquare : HasDerivAt (fun s => (r s).lengthSquared) (2 * Windup.dotProduct (r t) v) t := by
    refine (((hr.x.mul hr.x).add (hr.y.mul hr.y)).add (hr.z.mul hr.z)).congr_deriv ?_
    rw [Windup.dotProduct]
    ring
  have hpos : (r t).lengthSquared ≠ 0 := by
    intro hzero
    rw [Float3.length, hzero, sqrt_zero] at hne
    exact hne rfl
  refine (hsquare.sqrt hpos).congr_deriv ?_
  rw [Float3.length, mul_div_mul_left _ _ two_ne_zero]

theorem hasDerivAt_potential {r : ℝ → Float3} {v : Float3} {t : ℝ} (hr : Moves r v t)
    (hne : (r t).length ≠ 0) :
    HasDerivAt (fun s => potential (r s))
      (-gloMu * Windup.dotProduct (r t) v / (r t).length ^ 3 -
        3 * (gloJ2 * gloMu * gloAe ^ 2 / 2) / (r t).length ^ 5 *
          ((1 - 5 * (r t).z ^ 2 / (r t).length ^ 2) * Windup.dotProduct (r t) v +
            2 * (r t).z * v.z)) t := by
  have hlength := hasDerivAt_length hr hne
  refine ((hasDerivAt_const t gloMu).div hlength hne).add
    ((((hasDerivAt_const t (1 : ℝ)).div (hlength.pow 3) (pow_ne_zero 3 hne)).sub
      (((hr.z.pow 2).const_mul 3.0).div (hlength.pow 5) (pow_ne_zero 5 hne))).const_mul
        (gloJ2 * gloMu * gloAe ^ 2 / 2.0)) |>.congr_deriv ?_
  simp only [Pi.pow_apply]
  generalize (r t).length = l at hne ⊢
  generalize Windup.dotProduct (r t) v = d
  norm_num
  field_simp
  ring

theorem mul_thousand (a : Float3) : a * (1000.0 : ℝ) = ⟨a.x * 1000, a.y * 1000, a.z * 1000⟩ := by
  have h : (1000.0 : ℝ) = 1000 := by norm_num
  rw [h]
  rfl

/-- The power of the acceleration: that of gravity, of the rotation, and of the ephemeris; the
force that turns with the velocity has none. -/
theorem dot_computeAcceleration {pos : Float3} (vel accEph : Float3)
    (hne : (pos * (1000.0 : ℝ)).length ≠ 0) :
    Windup.dotProduct (vel * (1000.0 : ℝ))
        (computeAcceleration pos vel accEph * (1000.0 : ℝ)) =
      -gloMu * Windup.dotProduct (pos * (1000.0 : ℝ)) (vel * (1000.0 : ℝ)) /
          (pos * (1000.0 : ℝ)).length ^ 3 -
        3 * (gloJ2 * gloMu * gloAe ^ 2 / 2) / (pos * (1000.0 : ℝ)).length ^ 5 *
          ((1 - 5 * (pos * (1000.0 : ℝ)).z ^ 2 / (pos * (1000.0 : ℝ)).length ^ 2) *
              Windup.dotProduct (pos * (1000.0 : ℝ)) (vel * (1000.0 : ℝ)) +
            2 * (pos * (1000.0 : ℝ)).z * (vel * (1000.0 : ℝ)).z) +
        gloOmegaE ^ 2 * ((pos * (1000.0 : ℝ)).x * (vel * (1000.0 : ℝ)).x +
          (pos * (1000.0 : ℝ)).y * (vel * (1000.0 : ℝ)).y) +
        1e6 * Windup.dotProduct accEph vel := by
  have hpos : ¬ (pos * (1000.0 : ℝ)).length * (pos * (1000.0 : ℝ)).length ≤ 0 :=
    not_le.2 (mul_self_pos.2 hne)
  simp only [computeAcceleration, if_neg hpos]
  generalize (pos * (1000.0 : ℝ)).length = l at hne ⊢
  simp only [mul_thousand, Windup.dotProduct]
  norm_num
  field_simp
  ring

/-- **The motion that is integrated.**  Along every motion with the acceleration of
`compute_acceleration` the energy in the turning frame changes by the power of the acceleration of
the ephemeris, and by nothing else; without that acceleration it stays as it is. -/
theorem hasDerivAt_jacobi {p q : ℝ → Float3} {accEph : Float3} {t : ℝ}
    (hp : Moves p (q t) t) (hq : Moves q (computeAcceleration (p t) (q t) accEph) t)
    (hne : (p t).length ≠ 0) :
    HasDerivAt (fun s => jacobi (p s) (q s)) (1e6 * Windup.dotProduct accEph (q t)) t := by
  have hscale : ∀ {r : ℝ → Float3} {v : Float3}, Moves r v t →
      Moves (fun s => r s * (1000.0 : ℝ)) (v * (1000.0 : ℝ)) t := fun h =>
    ⟨h.x.mul_const _, h.y.mul_const _, h.z.mul_const _⟩
  have hr := hscale hp
  have hv := hscale hq
  have hlength : (p t * (1000.0 : ℝ)).length ≠ 0 := by
    have hsq : (p t * (1000.0 : ℝ)).lengthSquared = 1000 ^ 2 * (p t).lengthSquared := by
      rw [mul_thousand, Float3.lengthSquared, Float3.lengthSquared]
      ring
    rw [Float3.length, hsq, sqrt_mul (sq_nonneg _), sqrt_sq (by norm_num)]
    exact mul_ne_zero (by norm_num) hne
  have hkinetic : HasDerivAt (fun s => (q s * (1000.0 : ℝ)).lengthSquared / 2.0)
      (Windup.dotProduct (q t * (1000.0 : ℝ))
        (computeAcceleration (p t) (q t) accEph * (1000.0 : ℝ))) t := by
    refine (((hv.x.mul hv.x).add (hv.y.mul hv.y)).add (hv.z.mul hv.z)).div_const 2.0
      |>.congr_deriv ?_
    rw [Windup.dotProduct]
    norm_num
    ring
  have hcentrifugal := (((hr.x.pow 2).add (hr.y.pow 2)).const_mul (gloOmegaE ^ 2)).div_const 2.0
  refine ((hkinetic.sub (hasDerivAt_potential hr hlength)).sub hcentrifugal).congr_deriv ?_
  rw [dot_computeAcceleration _ _ hlength]
  norm_num
  ring

/-- The acceleration over the equator. -/
def overEquator : Float3 := computeAcceleration ⟨25500.0, 0, 0⟩ ⟨0, 3.0, 0⟩ ⟨0, 1e-9, 0⟩

theorem hasDerivAt_jacobi_overEquator :
    HasDerivAt (fun s => jacobi ⟨25500.0, 3.0 * s, 0⟩
        ⟨overEquator.x * s, 3.0 + overEquator.y * s, overEquator.z * s⟩)
      (1e6 * Windup.dotProduct ⟨0, 1e-9, 0⟩
        ⟨overEquator.x * 0, 3.0 + overEquator.y * 0, overEquator.z * 0⟩) 0 := by
  have hlinear : ∀ c : ℝ, HasDerivAt (fun s => c * s) c 0 := fun c =>
    ((hasDerivAt_id (0 : ℝ)).const_mul c).congr_deriv (mul_one c)
  have hstart : computeAcceleration ⟨25500.0, 3.0 * 0, 0⟩
      ⟨overEquator.x * 0, 3.0 + overEquator.y * 0, overEquator.z * 0⟩ ⟨0, 1e-9, 0⟩ =
        overEquator := by
    simp only [mul_zero, add_zero, overEquator]
  refine hasDerivAt_jacobi (p := fun s => ⟨25500.0, 3.0 * s, 0⟩) ⟨?_, ?_, ?_⟩ ⟨?_, ?_, ?_⟩ ?_
  · exact (hasDerivAt_const 0 (25500.0 : ℝ)).congr_deriv (mul_zero _).symm
  · exact (hlinear 3.0).congr_deriv (by simp)
  · exact (hasDerivAt_const 0 (0 : ℝ)).congr_deriv (mul_zero _).symm
  · rw [hstart]
    exact hlinear _
  · rw [hstart]
    exact (hlinear _).const_add 3.0
  · rw [hstart]
    exact hlinear _
  · have hlength : (⟨25500.0, 3.0 * 0, 0⟩ : Float3).length = 25500 := by
      rw [Float3.length, Float3.lengthSquared]
      norm_num
    rw [hlength]
    norm_num

end

end SuplLpp.Glonass
