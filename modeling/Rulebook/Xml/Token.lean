import Rulebook.Text.Scan

/-!
# Markup

An XML text as the tokens it consists of: tags, character data, comments and processing
instructions, with names and values as written.  A document type declaration is not read, and a
text that has one is refused.
-/

namespace Rulebook.Xml

open Text

/-! ## characters -/

def isSpace (c : Char) : Bool := c == ' ' || c == '\t' || c == '\n' || c == '\r'

/-- a character that may occur in a document at all -/
def isAllowed (c : Char) : Bool :=
  if c.toNat < 0x20 then isSpace c else c.toNat != 0xFFFE && c.toNat != 0xFFFF

private def within (lo hi : Nat) (c : Char) : Bool := lo ≤ c.toNat && c.toNat ≤ hi

def isNameStart (c : Char) : Bool :=
  if c.toNat ≤ 128 then c.isAlpha || c == ':' || c == '_'
  else within 0xC0 0xD6 c || within 0xD8 0xF6 c || within 0xF8 0x2FF c || within 0x370 0x37D c ||
    within 0x37F 0x1FFF c || within 0x200C 0x200D c || within 0x2070 0x218F c ||
    within 0x2C00 0x2FEF c || within 0x3001 0xD7FF c || within 0xF900 0xFDCF c ||
    within 0xFDF0 0xFFFD c || within 0x10000 0xEFFFF c

def isNameChar (c : Char) : Bool :=
  isNameStart c || c.isDigit || c == '-' || c == '.' || c.toNat == 0xB7 ||
    within 0x300 0x36F c || within 0x203F 0x2040 c

/-! ## tokens -/

/-- a name as written; without colon the qualifier is empty -/
structure RawName where
  qualifier : String
  localPart : String
deriving DecidableEq, Repr

structure RawAttribute where
  name : RawName
  value : List Char

inductive Token where
  /-- a start tag; `empty` if it ends its element as well -/
  | start (name : RawName) (attributes : List RawAttribute) (empty : Bool)
  | close (name : RawName)
  | text (raw : List Char)
  | cdata (raw : List Char)
  | comment (content : String)
  | instruction (target content : String)

/-! ## scans -/

def spaces : Scan (List Char) := Scan.takeWhile isSpace

/-- characters up to the first that is not wanted; all must be allowed, that one too -/
def run (wanted : Char → Bool) : Scan (List Char) := fun cs =>
  let taken := cs.takeWhile fun c => isAllowed c && wanted c
  match cs.drop taken.length with
  | [] => some (taken, [])
  | c :: rest => if isAllowed c then some (taken, c :: rest) else none

/-- the characters before the first occurrence of `stop`, which is read too -/
def upTo (stop : List Char) : Scan (List Char)
  | [] => none
  | c :: cs =>
    match afterPrefix? stop (c :: cs) with
    | some rest => some ([], rest)
    | none =>
      if isAllowed c then
        match upTo stop cs with
        | some (taken, rest) => some (c :: taken, rest)
        | none => none
      else none

/-- a name with colons in it -/
def plainName : Scan String := do
  let c ← Scan.satisfy isNameStart
  let cs ← Scan.takeWhile isNameChar
  return String.ofList (c :: cs)

/-- a name with at most one colon, both of whose parts begin as names do -/
def qualifiedName : Scan RawName := do
  let cs ← Scan.takeWhile isNameChar
  let first := cs.takeWhile (· != ':')
  let startsName (part : List Char) : Bool := part.head?.any isNameStart
  match cs.drop first.length with
  | [] =>
    guard (startsName first)
    return ⟨"", String.ofList first⟩
  | _ :: second =>
    guard ((first.isEmpty || startsName first) && startsName second && !second.contains ':')
    return ⟨String.ofList first, String.ofList second⟩

/-- a name, an equals sign and a value in quotes, in which `<` is not allowed -/
def rawAttribute : Scan RawAttribute := do
  let name ← qualifiedName
  let _ ← spaces
  Scan.char '='
  let _ ← spaces
  let quote ← Scan.satisfy fun c => c == '"' || c == '\''
  let value ← run fun c => c != quote && c != '<'
  Scan.char quote
  return ⟨name, value⟩

/-- an attribute after at least one space -/
def spacedAttribute : Scan RawAttribute := do
  let _ ← Scan.takeWhile1 isSpace
  rawAttribute

def startTag : Scan Token := do
  Scan.char '<'
  let name ← qualifiedName
  let attributes ← Scan.many spacedAttribute
  let _ ← spaces
  let empty ← Scan.optional? (Scan.char '/')
  Scan.char '>'
  return .start name attributes empty.isSome

def closeTag : Scan Token := do
  Scan.text "</"
  let name ← qualifiedName
  let _ ← spaces
  Scan.char '>'
  return .close name

private def hasDoubleHyphen : List Char → Bool
  | '-' :: '-' :: _ => true
  | _ :: cs => hasDoubleHyphen cs
  | [] => false

/-- two hyphens only end a comment, and no third stands before them -/
def comment : Scan Token := do
  Scan.text "<!--"
  let content ← upTo ['-', '-', '>']
  guard (!hasDoubleHyphen content && content.getLast? != some '-')
  return .comment (String.ofList content)

/-- a target and what follows the spaces after it; an XML declaration is no instruction -/
def instruction : Scan Token := do
  Scan.notFollowedBy (Scan.text "<?xml ")
  Scan.text "<?"
  let target ← plainName
  let _ ← spaces
  let content ← upTo ['?', '>']
  return .instruction target (String.ofList content)

def cdata : Scan Token := do
  Scan.text "<![CDATA["
  let content ← upTo [']', ']', '>']
  return .cdata content

private def hasSectionEnd : List Char → Bool
  | ']' :: ']' :: '>' :: _ => true
  | _ :: cs => hasSectionEnd cs
  | [] => false

/-- character data up to the next markup -/
def charData : Scan Token := do
  let raw ← run (· != '<')
  guard (!raw.isEmpty && !hasSectionEnd raw)
  return .text raw

/-- one token of the content of an element -/
def contentToken : Scan Token :=
  Scan.first [comment, cdata, instruction, closeTag, startTag, charData]

/-! ## the parts of a document -/

/-- comments and instructions, with spaces between them -/
def miscellany : Scan (List Token) := do
  let tokens ← Scan.many (spaces *> (comment <|> instruction))
  let _ ← spaces
  return tokens

private def spacesOrEnd : Scan Unit := fun cs =>
  match cs with
  | c :: _ =>
    if isSpace c then some ((), cs.dropWhile isSpace)
    else if (afterPrefix? ['?', '>'] cs).isSome then some ((), cs)
    else none
  | [] => some ((), [])

/-- an attribute of the declaration whose name begins with the given word -/
private def declared (name : String) : Scan Unit := do
  Scan.lookAhead (Scan.text name)
  let _ ← rawAttribute
  spacesOrEnd

def declaration : Scan Unit := do
  Scan.text "<?xml"
  spacesOrEnd
  declared "version"
  let encoding ← Scan.optional? (Scan.lookAhead (Scan.text "encoding"))
  if encoding.isSome then declared "encoding"
  let standalone ← Scan.optional? (Scan.lookAhead (Scan.text "standalone"))
  if standalone.isSome then
    let _ ← rawAttribute
  let _ ← spaces
  Scan.text "?>"

/-- a byte order mark and a declaration, either of which may be missing -/
def preamble : Scan Unit := do
  let _ ← Scan.optional? (Scan.char '\ufeff')
  let declares ← Scan.optional? (Scan.lookAhead (Scan.text "<?xml "))
  if declares.isSome then declaration

/-- tokens up to the close tag of an element that is `depth` levels out -/
def contentTokens (depth : Nat) (cs : List Char) : Option (List Token × List Char) :=
  if depth = 0 then some ([], cs) else
  match contentToken cs with
  | none => none
  | some (token, rest) =>
    if rest.length < cs.length then
      let depth := match token with
        | .start _ _ false => depth + 1
        | .close _ => depth - 1
        | _ => depth
      (contentTokens depth rest).map fun (tokens, rest) => (token :: tokens, rest)
    else none
termination_by cs.length

/-- the outermost element -/
def element : Scan (List Token) := fun cs =>
  match startTag cs with
  | some (.start name attributes false, rest) =>
    (contentTokens 1 rest).map fun (tokens, rest) => (.start name attributes false :: tokens, rest)
  | some (token, rest) => some ([token], rest)
  | none => none

def document : Scan (List Token) := do
  preamble
  let before ← miscellany
  let root ← element
  let after ← miscellany
  return before ++ root ++ after

/-- the tokens of a text with one outermost element -/
def tokens? (text : String) : Option (List Token) := document.all? text.toList

end Rulebook.Xml
