import Rulebook.Eval.Evaluate

/-!
# Message templates

A template is text with placeholders for values of the item that a message is about.  Its compact
form writes a placeholder as an expression in braces and doubles the braces of the text.
`Template.parse` reads the compact form, `Template.display` writes it, and `Template.render` fills
the placeholders in.
-/

namespace Rulebook

inductive TemplatePart where
  | text (s : String)
  /-- the texts of the items that an expression selects -/
  | valueOf (source : String)
  /-- the name of the item, or of the first node that an expression selects -/
  | name (source : Option String)
deriving DecidableEq, Repr

structure Template where
  parts : List TemplatePart
deriving DecidableEq, Repr

namespace Template

def hasPlaceholders (t : Template) : Bool :=
  t.parts.any fun
    | .text _ => false
    | _ => true

/-! ## the compact form -/

/-- the rest of a placeholder and what follows its brace; braces in quotes or in pairs do not end
it, nor need it end -/
def readPlaceholder (depth : Nat) (quote : Option Char) : List Char → List Char × List Char
  | [] => ([], [])
  | c :: cs =>
    match quote with
    | some q =>
      let (body, rest) := readPlaceholder depth (if c == q then none else some q) cs
      (c :: body, rest)
    | none =>
      if c == '}' && depth ≤ 1 then ([], cs)
      else
        let depth := if c == '{' then depth + 1 else if c == '}' then depth - 1 else depth
        let quote := if c == '\'' || c == '"' then some c else none
        let (body, rest) := readPlaceholder depth quote cs
        (c :: body, rest)

theorem length_readPlaceholder_le (depth : Nat) (quote : Option Char) (cs : List Char) :
    (readPlaceholder depth quote cs).2.length ≤ cs.length := by
  induction cs generalizing depth quote with
  | nil => simp [readPlaceholder]
  | cons c cs ih =>
    cases quote with
    | some q =>
      simp only [readPlaceholder, List.length_cons]
      exact Nat.le_succ_of_le (ih _ _)
    | none =>
      simp only [readPlaceholder, List.length_cons]
      split
      · simp
      · exact Nat.le_succ_of_le (ih _ _)

/-- the text read so far, the last character first, as a part, if there is any -/
def flush (text : List Char) : List TemplatePart :=
  if text.isEmpty then [] else [.text (String.ofList text.reverse)]

def readParts (text : List Char) : List Char → List TemplatePart
  | [] => flush text
  | '{' :: '{' :: cs => readParts ('{' :: text) cs
  | '}' :: '}' :: cs => readParts ('}' :: text) cs
  | c :: cs =>
    if c == '{' then
      have := length_readPlaceholder_le 1 none cs
      flush text ++ .valueOf (String.ofList (Text.trimChars (readPlaceholder 1 none cs).1)) ::
        readParts [] (readPlaceholder 1 none cs).2
    else readParts (c :: text) cs
termination_by cs => cs.length

def parse (source : String) : Template := ⟨readParts [] source.toList⟩

/-- braces of text are doubled -/
def escapeChar (c : Char) : List Char := if c == '{' || c == '}' then [c, c] else [c]

def braced (source : String) : String := String.ofList ('{' :: source.toList ++ ['}'])

def displayPart : TemplatePart → String
  | .text s => String.ofList (s.toList.flatMap escapeChar)
  | .valueOf source => braced source
  | .name none => braced "name()"
  | .name (some source) => braced ("name(" ++ source ++ ")")

/-- the template as written -/
def display (t : Template) : String := String.join (t.parts.map displayPart)

/-! ## filling in -/

/-- the value of an expression that is given as text -/
def valueOf? (source : String) (c : Context) (binding : Binding) : Option Value := do
  let e ← (compile source binding .full).toOption
  (e.evaluate c).toOption

/-- a part filled in; a value that cannot be had stays as it is written, a name is left out -/
def renderPart (c : Context) (binding : Binding) : TemplatePart → String
  | .text s => s
  | .valueOf source =>
    match valueOf? source c binding with
    | some v => " ".intercalate (v.map (Item.text c.document))
    | none => braced source
  | .name source =>
    let node := match source with
      | none => c.item.node?
      | some source => ((valueOf? source c binding).bind List.head?).bind Item.node?
    ((node.bind c.document.name?).map Name.lexical).getD ""

def render (t : Template) (c : Context) (binding : Binding) : String :=
  String.join (t.parts.map (renderPart c binding))

end Template

end Rulebook
