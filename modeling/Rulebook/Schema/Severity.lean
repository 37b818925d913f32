import Rulebook.Text.Blank
import Rulebook.Text.Case

/-!
# Severities

How much a failed assertion matters.
-/

namespace Rulebook

inductive Severity where
  | fatal
  | warning
  | info
deriving DecidableEq, Repr

namespace Severity

def name : Severity → String
  | fatal => "fatal"
  | warning => "warning"
  | info => "info"

/-- the severity with a name, in any case and with blanks around it; an unknown name is returned
as it was compared -/
def ofText (s : String) : Except String Severity :=
  let plain := Text.lowerAscii (Text.trim s)
  if ["fatal", "error"].contains plain then .ok fatal
  else if ["warning", "warn"].contains plain then .ok warning
  else if ["info", "information"].contains plain then .ok info
  else .error plain

/-- what is said of an unknown name -/
def unknownMessage (name : String) : String := "unknown severity '" ++ name ++ "'"

end Severity

end Rulebook
