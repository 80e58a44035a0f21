import Larder.Candidate

namespace Larder

/-- The threshold for review and the time budgets in milliseconds: for processing one job as a whole,
for one extraction and for one look-up of a name. -/
structure IngestSettings where
  reviewThreshold : Float
  processTimeout : Nat
  extractTimeout : Nat
  resolveTimeout : Nat
deriving Inhabited

def IngestSettings.default : IngestSettings :=
  ⟨Candidate.defaultThreshold, 90000, 60000, 30000⟩

end Larder
