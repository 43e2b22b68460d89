import Endpoint.Proofs.List
import Endpoint.Telemetry.Exposition
import Mathlib

/-!
# What measurements add up to

Each sample adds to one series.  What measurements add to several series together is what their
samples add, so it may be counted measurement by measurement.
-/

namespace Endpoint

namespace Series

variable {handler handler' : String} {outcome outcome' : Outcome} {status status' : Nat}

end Series

namespace Measurement

/-- What samples add to the series for which a test holds. -/
def addedBy (samples : List (Series × Int)) (p : Series → Bool) : Int :=
  (samples.map fun sample => if p sample.1 then sample.2 else 0).sum

/-- What measurements add to the series for which a test holds. -/
def added (ms : List Measurement) (p : Series → Bool) : Int := addedBy (ms.flatMap samples) p

variable {samples : List (Series × Int)} {p : Series → Bool}

end Measurement

end Endpoint
