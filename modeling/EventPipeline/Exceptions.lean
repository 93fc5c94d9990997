/-! # Exceptions

One constructor for each exception class that can leave the modelled functions,
with the message the source gives it. `recursionError` stands for a recursion
that never ends; the limit the interpreter sets on the depth of a finite
recursion is not modelled.
-/

namespace EventPipeline

inductive PyError
  | indexError (message : String)
  | syntaxError (message : String)
  | yaccError (message : String)
  | attributeError (message : String)
  | valueError (message : String)
  | taskSwitchingError (message : String)
  | eventDone (message : String)
  | otherError (message : String)
  | stopIteration
  | recursionError
deriving DecidableEq, Repr

def PyError.IsSyntaxError : PyError → Prop
  | .syntaxError _ => True
  | _ => False

instance : DecidablePred PyError.IsSyntaxError
  | .syntaxError _ => isTrue trivial
  | .indexError _ | .yaccError _ | .attributeError _ | .valueError _ => isFalse id
  | .taskSwitchingError _ | .eventDone _ | .otherError _ | .stopIteration => isFalse id
  | .recursionError => isFalse id

end EventPipeline
