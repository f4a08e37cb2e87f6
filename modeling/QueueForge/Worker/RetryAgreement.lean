import QueueForge.Domain.ValueObjects
import QueueForge.Worker.ErrorClassifier

/-! Two classifiers judge whether a failure is worth another try: the one of the worker, and the
domain's own errors. They differ in what they make of a failure neither can name.
-/

namespace QueueForge.Worker

open QueueForge.Js
open QueueForge.Domain

-----------------------------------------------------------------------------------------
-- What each of the two reads off an error
-----------------------------------------------------------------------------------------

section
variable {error : Thrown} {statusCode : Option Int} {status : Int}

end

end QueueForge.Worker
