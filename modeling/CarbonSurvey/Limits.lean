/-! # Limits

How deep formulas may nest and how many bytes a document may have.
-/

namespace CarbonSurvey

structure Limits where
  maxResolutionDepth : Nat := 128
  maxModelBytes : Nat := 64 * 1024 * 1024
  maxSituationBytes : Nat := 1024 * 1024
  maxBatchBytes : Nat := 256 * 1024 * 1024
  deriving Repr, DecidableEq

end CarbonSurvey
