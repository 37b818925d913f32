import Rulebook.Regex.Machine
import Rulebook.Regex.Parser
import Rulebook.Regex.Size

/-!
# Compiling patterns

A pattern is given by its text and a text of flags, the letters `i`, `s`, `m` and `x`.  `compile`
makes of them the machine to match with; the flags are looked at before the pattern is, and a
pattern that would take too much room is refused.  `compileWith` does the same with any `Builder`
in place of `build`, so that what is kept of compiled patterns need not know the machine.
-/

namespace Rulebook.Regex

inductive PatternError where
  | unsupportedFlag (flag : Char)
  | badSyntax (e : SyntaxError)
  | tooLarge
deriving DecidableEq, Repr

/-- one flag more -/
def Flags.add (f : Flags) : Char → Except PatternError Flags
  | 'i' => .ok { f with ignoreCase := true }
  | 's' => .ok { f with dotAll := true }
  | 'm' => .ok { f with multiLine := true }
  | 'x' => .ok { f with extended := true }
  | other => .error (.unsupportedFlag other)

def Flags.ofText (text : String) : Except PatternError Flags :=
  text.toList.foldlM Flags.add Flags.standard

/-- makes what is matched with of the text of a pattern, under flags that are known -/
abbrev Builder (α : Type) := String → Flags → Except PatternError α

def build : Builder Machine := fun source f => do
  let p ← (Pattern.parse f source).mapError .badSyntax
  if p.tooLarge then throw .tooLarge
  return p.machine

/-- no builder sees a pattern with a flag that there is not -/
def compileWith {α : Type} (build : Builder α) (source flags : String) : Except PatternError α := do
  build source (← Flags.ofText flags)

def compile (source flags : String) : Except PatternError Machine := compileWith build source flags

end Rulebook.Regex
