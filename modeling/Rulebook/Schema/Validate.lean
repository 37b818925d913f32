import Rulebook.Schema.Execution
import Rulebook.Xml.Document

/-!
# Validating a text

All results of a schema for a document that is given as XML.
-/

namespace Rulebook

/-- reads a document and runs a schema on it to the end -/
def Schema.validateText (s : Schema) (xml : String) (filter : AssertionFilter)
    (options : ExecutionOptions) (cancelled : Nat → Bool) (now : Time.Instant) :
    Except StartError (List Result) :=
  match Document.ofXml? xml with
  | none => .error .document
  | some d =>
    match s.executeWith d .root filter options now with
    | .ok e => .ok (e.results cancelled)
    | .error e => .error (.validation e)

end Rulebook
