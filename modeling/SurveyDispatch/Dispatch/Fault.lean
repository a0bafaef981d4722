import SurveyDispatch.Store.Basic

/-!
# Faults of collaborators

A batch ends with the first fault of the store, of the coordinate lookup or of the publisher.
-/

namespace SurveyDispatch

/-- Why a batch ends early. -/
inductive DispatchFault where
  /-- The store or the source failed. -/
  | store (fault : StoreFault)
  /-- The publisher refused a message because it has no topic. -/
  | emptyTopic
  /-- The coordinate lookup failed. -/
  | lookup (reason : String)
  deriving DecidableEq, Repr

/-- The wording of a fault. -/
def DispatchFault.message : DispatchFault → String
  | store fault => fault.message
  | emptyTopic => "publish to  failed: empty topic"
  | lookup reason => s!"coordinate lookup failed: {reason}"

end SurveyDispatch
