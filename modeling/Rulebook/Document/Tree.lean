/-!
# Documents

A document is the list of trees under its root: elements, text, comments and processing
instructions.  Namespaces are resolved already: a name carries its namespace and the prefix it is
shown with.
-/

namespace Rulebook

/-- a name, its namespace if it has one, and the prefix it is shown with -/
structure Name where
  qualifier : Option String
  uri : Option String
  localPart : String
deriving DecidableEq, Repr, Inhabited

/-- a name without namespace -/
def Name.plain (localPart : String) : Name := ⟨none, none, localPart⟩

/-- the name as written: `prefix:local`, or the local part alone -/
def Name.lexical (n : Name) : String :=
  match n.qualifier with
  | some q => if q.isEmpty then n.localPart else q ++ ":" ++ n.localPart
  | none => n.localPart

/-- what the namespaces of the format itself begin with -/
def namespaceAuthority : String := "http://www.w3.org/"

/-- the namespace that the prefix `xml` always stands for -/
def xmlNamespace : String := namespaceAuthority ++ "XML/1998/namespace"

structure Attribute where
  name : Name
  value : String
deriving DecidableEq, Repr, Inhabited

inductive Tree where
  | element (name : Name) (attributes : List Attribute) (children : List Tree)
  | text (content : String)
  | comment (content : String)
  | instruction (target content : String)
deriving Repr, Inhabited

structure Document where
  content : List Tree
deriving Repr, Inhabited

namespace Tree

def children : Tree → List Tree
  | element _ _ children => children
  | _ => []

def attributes : Tree → List Attribute
  | element _ attributes _ => attributes
  | _ => []

def isElement : Tree → Bool
  | element .. => true
  | _ => false

/-! ## text -/

mutual

/-- the text in a tree; comments and processing instructions have none -/
def textContent : Tree → String
  | element _ _ children => forestText children
  | text content => content
  | comment _ => ""
  | instruction _ _ => ""

/-- the text in a list of trees -/
def forestText : List Tree → String
  | [] => ""
  | t :: ts => t.textContent ++ forestText ts

end

end Tree

/-! ## places -/

namespace Document

variable (d : Document)

/-- the trees that lie in the tree at a path; the path is the index of the tree among those around
it, then the index of what it lies in, and so on up to the root -/
def below : List Nat → List Tree
  | [] => d.content
  | i :: path =>
    match (below path)[i]? with
    | some t => t.children
    | none => []

/-- the tree at a path; the root itself is none -/
def tree? : List Nat → Option Tree
  | [] => none
  | i :: path => (d.below path)[i]?

end Document

end Rulebook
