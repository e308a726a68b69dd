import Typings.CommandLine.Run
import Typings.Proofs.Session.Document

/-!
# The ways to a document

A document is made from a source, from a tree, or from a file that holds one of these. All ways lead
through the same three steps: the whole tree is read, the errors in the source are checked, and only
then is anything rendered or recorded. They differ in one thing: a tree that is no program, or that
holds too long an integer where it must be shown, is rejected on the way to a document.
-/

namespace Typings

variable {ctx : Context}

/-! ## Failures on the way -/

/-- The errors in the source that a failure carries. -/
def Failure.errors : Failure → List ParseError
  | .rejected r => r.errors
  | _ => []

end Typings
