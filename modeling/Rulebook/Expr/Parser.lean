import Rulebook.Expr.Grammar
import Rulebook.Text.Blank

/-!
# Reading expressions

`Expr.parse` reads a whole text, blanks at its ends aside.  It fails where no expression begins or
where one ends too early; either way the error shows what was left.
-/

namespace Rulebook

open Text

inductive ParseError where
  /-- an expression ends before the text does -/
  | leftover (source rest : String)
  /-- no expression begins, as no name does at the rest -/
  | noName (source rest : String)
deriving DecidableEq, Repr

/-! ## wording -/

/-- a character inside double quotes, control characters and quotes escaped -/
def quoteChar (c : Char) : List Char :=
  if c == '"' then ['\\', '"']
  else if c == '\\' then ['\\', '\\']
  else if c == '\n' then ['\\', 'n']
  else if c == '\t' then ['\\', 't']
  else if c == '\r' then ['\\', 'r']
  else if c.toNat == 0 then ['\\', '0']
  else if c.toNat < 32 || c.toNat == 127 then
    '\\' :: 'u' :: '\x7b' :: Nat.toDigits 16 c.toNat ++ ['\x7d']
  else [c]

def quoteText (s : String) : String :=
  "\"" ++ String.ofList (s.toList.flatMap quoteChar) ++ "\""

def ParseError.message : ParseError → String
  | .leftover source rest =>
    "XPath parse error in '" ++ source ++ "': Parser did not consume all input. Remainder: '" ++
      rest ++ "'"
  | .noName source rest =>
    "XPath parse error in '" ++ source ++ "': Parsing Error: Error \x7b input: " ++
      quoteText rest ++ ", code: TakeWhile1 \x7d"

/-! ## reading -/

namespace Grammar

/-- what is left where the first name of an expression is missed: signs, a leading `//` and an axis
come before it -/
def beforeName (cs : List Char) : List Char :=
  let rest := (Scan.collect (spaced (Scan.char '-')) cs).2
  let rest := (afterPrefix? ['/', '/'] rest).getD rest
  match axis rest with
  | some (_, rest) => rest
  | none => rest

/-- an expression at the front of a text, and what follows it -/
def read? (cs : List Char) : Option (Expr × List Char) := expression (single (cs.length + 1)) cs

end Grammar

def Expr.parse (source : String) : Except ParseError Expr :=
  let cs := trimChars source.toList
  match Grammar.read? cs with
  | some (e, []) => .ok e
  | some (_, rest) => .error (.leftover source (String.ofList rest))
  | none => .error (.noName source (String.ofList (Grammar.beforeName cs)))

theorem toOption_parse {source cs : List Char} (h : trimChars source = cs) :
    (Expr.parse (String.ofList source)).toOption = Scan.all? Grammar.read? cs := by
  unfold Expr.parse Scan.all?
  rw [String.toList_ofList, h]
  rcases hr : Grammar.read? cs with _ | ⟨e, _ | ⟨c, left⟩⟩ <;> simp only [hr] <;> rfl

end Rulebook
