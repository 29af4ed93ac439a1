import LifeRom.Fault

/-! # Failures

A fault together with the stage of the work at which it arose, or a name that is not free.
-/

namespace LifeRom

inductive Failure
  | reading (source : String) (fault : Fault)
  | layout (source : String) (fault : Fault)
  | naming (fault : Fault)
  | nameTaken (name : String)
  | composition (selector : String) (fault : Fault)
  deriving DecidableEq, Repr

namespace Failure

/-- The fault behind a failure; a name that is not free has none. -/
def fault? : Failure → Option Fault
  | reading _ fault | layout _ fault | naming fault | composition _ fault => some fault
  | nameTaken _ => none

def message : Failure → String
  | reading source fault => "failed to parse " ++ source ++ ": " ++ fault.message
  | layout source fault => "failed to lay out " ++ source ++ ": " ++ fault.message
  | naming fault => fault.message
  | nameTaken name => "module name " ++ name ++ " is already taken"
  | composition selector fault => "failed to assemble " ++ selector ++ ": " ++ fault.message

end Failure

end LifeRom
