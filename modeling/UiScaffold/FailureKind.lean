/-!
The coarse classes of failures, by which a caller decides what to show.
-/

set_option autoImplicit false
set_option relaxedAutoImplicit false

namespace UiScaffold

/-- What a failure blames. -/
inductive FailureKind where
  | invalidDescriptor
  | templateNotFound
  | invalidTemplate
  | writeFailed
  | installFailed
deriving DecidableEq, Repr

end UiScaffold
