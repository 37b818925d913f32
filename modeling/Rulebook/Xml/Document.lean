import Rulebook.Document.Tree
import Rulebook.Xml.Text

/-!
# Documents from XML

`Document.ofXml?` builds the document of an XML text, or nothing if the text is not well formed.
Character data that no markup interrupts is one text.  Namespace declarations are no attributes;
each name is resolved, and is shown with the prefix that its namespace was first given in scope.
-/

namespace Rulebook.Xml

/-! ## namespaces -/

/-- a declaration of a namespace; no prefix stands for the default one -/
structure Declaration where
  qualifier : Option String
  uri : String
deriving DecidableEq, Repr

/-- the declarations in scope, inner ones first -/
abbrev Scope := List Declaration

/-- the namespace that declares namespaces, which nothing may be bound to -/
def declarationNamespace : String := namespaceAuthority ++ "2000/xmlns/"

def Scope.uri? (s : Scope) (qualifier : Option String) : Option String :=
  (s.find? (·.qualifier == qualifier)).map (·.uri)

/-- one more declaration from further out, unless its prefix is taken -/
def Scope.inherit (s : Scope) (d : Declaration) : Scope :=
  if (s.uri? d.qualifier).isSome then s else s ++ [d]

/-- new declarations hide those of the same prefix further out -/
def Scope.extend (outer : Scope) (declared : List Declaration) : Scope :=
  if declared.isEmpty then outer else outer.foldl Scope.inherit declared

/-- the prefix of the first declaration of a namespace -/
def Scope.qualifierFor? (s : Scope) (uri : String) : Option String :=
  if uri == xmlNamespace then some "xml" else (s.find? (·.uri == uri)).bind (·.qualifier)

/-- a name in a namespace, shown as the scope has it -/
def Scope.nameIn (s : Scope) (uri : Option String) (localPart : String) : Name :=
  ⟨uri.bind s.qualifierFor?, uri, localPart⟩

/-- an unprefixed element is in the default namespace; other prefixes must be declared -/
def Scope.elementName? (s : Scope) (n : RawName) : Option Name :=
  if n.qualifier.isEmpty then some (s.nameIn (s.uri? none) n.localPart)
  else (s.uri? (some n.qualifier)).map fun uri => s.nameIn (some uri) n.localPart

/-- an unprefixed attribute is in no namespace; `xml` needs no declaration -/
def Scope.attributeName? (s : Scope) (n : RawName) : Option Name :=
  if n.qualifier == "xml" then some ⟨some "xml", some xmlNamespace, n.localPart⟩
  else if n.qualifier.isEmpty then some (.plain n.localPart)
  else (s.uri? (some n.qualifier)).map fun uri => s.nameIn (some uri) n.localPart

/-! ## tags -/

/-- what a tag says: its declarations, and its attributes with their values -/
structure TagParts where
  declared : List Declaration
  attributes : List (RawName × String)

/-- one more attribute of a tag -/
def TagParts.add? (t : TagParts) (name : RawName) (value : String) : Option TagParts :=
  if name.qualifier == "xmlns" then
    if value == declarationNamespace then none
    else if (name.localPart == "xml") != (value == xmlNamespace) then none
    else if t.declared.any (·.qualifier == some name.localPart) then none
    else if value == xmlNamespace then some t
    else some { t with declared := t.declared ++ [⟨some name.localPart, value⟩] }
  else if name.localPart == "xmlns" then
    if value == xmlNamespace || value == declarationNamespace then none
    else some { t with declared := t.declared ++ [⟨none, value⟩] }
  else some { t with attributes := t.attributes ++ [(name, value)] }

def TagParts.of? (attributes : List RawAttribute) : Option TagParts :=
  attributes.foldlM (fun t a => do t.add? a.name (← value? a.value)) ⟨[], []⟩

/-- attributes with their names resolved; no two may have the same namespace and local part -/
def resolve? (s : Scope) : List (RawName × String) → Option (List Attribute)
  | [] => some []
  | (raw, value) :: more => do
    let name ← s.attributeName? raw
    let others ← resolve? s more
    guard (!others.any fun a => a.name.uri == name.uri && a.name.localPart == name.localPart)
    return ⟨name, value⟩ :: others

/-! ## building -/

/-- an element whose end has not come; its content is in reverse -/
structure OpenElement where
  raw : RawName
  name : Name
  attributes : List Attribute
  scope : Scope
  content : List Tree

/-- the open elements from the innermost on, what is under the root in reverse, and text that more
text may follow -/
structure Building where
  stack : List OpenElement
  top : List Tree
  pending : Option String

namespace Building

def append (b : Building) (t : Tree) : Building :=
  match b.stack with
  | [] => { b with top := t :: b.top }
  | e :: stack => { b with stack := { e with content := t :: e.content } :: stack }

/-- text ends where markup comes -/
def flush (b : Building) : Building :=
  match b.pending with
  | none => b
  | some s => { b.append (.text s) with pending := none }

def addText (b : Building) (s : String) : Building :=
  { b with pending := some (b.pending.getD "" ++ s) }

def scope (b : Building) : Scope :=
  match b.stack with
  | [] => []
  | e :: _ => e.scope

def open? (b : Building) (raw : RawName) (attributes : List RawAttribute) : Option OpenElement := do
  guard (raw.qualifier != "xmlns")
  let parts ← TagParts.of? attributes
  let scope := b.scope.extend parts.declared
  let name ← scope.elementName? raw
  let attributes ← resolve? scope parts.attributes
  return ⟨raw, name, attributes, scope, []⟩

def step? (b : Building) : Token → Option Building
  | .text raw => (text? raw).map b.addText
  | .cdata raw => some (b.addText (sectionText raw))
  | .comment content => some (b.flush.append (.comment content))
  | .instruction target content => some (b.flush.append (.instruction target content))
  | .start raw attributes empty => do
    let b := b.flush
    let e ← b.open? raw attributes
    if empty then return b.append (.element e.name e.attributes [])
    else return { b with stack := e :: b.stack }
  | .close raw =>
    let b := b.flush
    match b.stack with
    | e :: stack =>
      if e.raw == raw then
        some ({ b with stack := stack }.append (.element e.name e.attributes e.content.reverse))
      else none
    | [] => none

end Building

end Rulebook.Xml

namespace Rulebook

/-- the document of an XML text -/
def Document.ofXml? (text : String) : Option Document := do
  let tokens ← Xml.tokens? text
  let b ← tokens.foldlM Xml.Building.step? ⟨[], [], none⟩
  guard b.stack.isEmpty
  return ⟨b.top.reverse⟩

end Rulebook
