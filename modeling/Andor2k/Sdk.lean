/-
Return codes of the camera SDK, by the names the sources test for.  Their numbers
belong to the SDK and are not used.
-/
import Mathlib.Init

namespace Andor2k

inductive DrvCode where
  | success | notInitialized | acquiring | idle | tempcycle | accumTimeNotMet
  | kineticTimeNotMet | errorAck | acqBuffer | acqDownfifoFull | spoolerror
  | p1invalid | p2invalid | p3invalid | p4invalid | p5invalid | p6invalid
  | noNewData | vxdnotinstalled | inierror | errorPagelock | invalidFilter
  | binningError | spoolsetuperror | generalErrors
  | tempOff | tempNotReached | tempDrift | tempNotStabilized | tempStabilized
  | undocumented (code : Nat)
deriving DecidableEq, Repr

end Andor2k
