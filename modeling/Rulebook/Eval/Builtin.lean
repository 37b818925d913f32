import Rulebook.Eval.Context
import Rulebook.Regex.Compile
import Rulebook.Text.Case
import Rulebook.Text.Search

/-!
# Built-in functions

`Builtin.invoke` gives the value of a call.  Each function looks at the arguments it has; a call
with more or fewer is an error.
-/

namespace Rulebook

open Text

inductive Builtin where
  | position | last | current
  | name | localName | namespaceUri
  | count | string | number | boolean | exists | empty | lang
  | concat | contains | startsWith | endsWith
  | substring | substringBefore | substringAfter | stringLength
  | normalizeSpace | translate | upperCase | lowerCase | stringJoin | matches
  | not | true | false
  | sum | floor | ceiling | round | abs
  | currentDateTime | currentDate | dateTime | date
deriving DecidableEq, Repr

namespace Builtin

/-! ## names and arguments -/

def label : Builtin → String
  | position => "position"
  | last => "last"
  | current => "current"
  | name => "name"
  | localName => "local-name"
  | namespaceUri => "namespace-uri"
  | count => "count"
  | string => "string"
  | number => "number"
  | boolean => "boolean"
  | .exists => "exists"
  | empty => "empty"
  | lang => "lang"
  | concat => "concat"
  | contains => "contains"
  | startsWith => "starts-with"
  | endsWith => "ends-with"
  | substring => "substring"
  | substringBefore => "substring-before"
  | substringAfter => "substring-after"
  | stringLength => "string-length"
  | normalizeSpace => "normalize-space"
  | translate => "translate"
  | upperCase => "upper-case"
  | lowerCase => "lower-case"
  | stringJoin => "string-join"
  | .matches => "matches"
  | not => "not"
  | true => "true"
  | false => "false"
  | sum => "sum"
  | floor => "floor"
  | ceiling => "ceiling"
  | round => "round"
  | abs => "abs"
  | currentDateTime => "current-dateTime"
  | currentDate => "current-date"
  | dateTime => "xs:dateTime"
  | date => "xs:date"

def all : List Builtin :=
  [position, last, current, name, localName, namespaceUri, count, string, number, boolean, .exists,
    empty, lang, concat, contains, startsWith, endsWith, substring, substringBefore,
    substringAfter, stringLength, normalizeSpace, translate, upperCase, lowerCase, stringJoin,
    .matches, not, true, false, sum, floor, ceiling, round, abs, currentDateTime, currentDate,
    dateTime, date]

/-- the function with a name, with or without the prefix `fn:` -/
def ofName? (s : String) : Option Builtin := all.find? fun b => b.label == plainFunctionName s

/-- the fewest and, if there is a limit, the most arguments -/
def arity : Builtin → Nat × Option Nat
  | position | last | current | true | false | currentDateTime | currentDate => (0, some 0)
  | name | localName | namespaceUri | string | number | stringLength | normalizeSpace => (0, some 1)
  | stringJoin => (1, some 2)
  | contains | startsWith | endsWith | substringBefore | substringAfter => (2, some 2)
  | substring | .matches => (2, some 3)
  | translate => (3, some 3)
  | concat => (2, none)
  | _ => (1, some 1)

def wrongArity (b : Builtin) (actual : Nat) : EvalError :=
  .arity b.label b.arity.1 b.arity.2 actual

/-! ## nodes -/

/-- a part of the name of a node, empty for what has none -/
def namePart (c : Context) (part : Name → String) (n : Node) : Value :=
  .ofText (((c.document.name? n).map part).getD "")

/-- a part of the name of the first item, which must be a node -/
def nameOf (b : Builtin) (c : Context) (part : Name → String) : Value → Except EvalError Value
  | [] => .ok (.ofText "")
  | .node n :: _ => .ok (namePart c part n)
  | .atomic a :: _ => .error (.argumentNotNode b.label a.typeName)

/-- the language that a node itself declares -/
def declaredLanguage? (d : Document) (n : Node) : Option String :=
  (d.attributes n).findSome? fun a =>
    match d.name? a with
    | some q => if q.qualifier == some "xml" && q.localPart == "lang" then some (d.stringValue a) else none
    | none => none

/-- the nearest declared language is `tested` or a variant of it -/
def speaks (d : Document) (n : Node) (tested : String) : Bool :=
  match n.ancestorsOrSelf.findSome? (declaredLanguage? d) with
  | some declared =>
    let declared := lower declared
    let tested := lower tested
    declared == tested || begins (tested ++ "-") declared
  | none => Bool.false

/-! ## texts -/

/-- the characters whose places, counted from one, are at least `first` and less than `bound` -/
def sliceFrom (first bound : Float) (place : Nat) : List Char → List Char
  | [] => []
  | c :: cs =>
    let x := Number.ofNat place
    let rest := sliceFrom first bound (place + 1) cs
    if first ≤ x && x < bound then c :: rest else rest

def slice (s : String) (first bound : Float) : String :=
  String.ofList (sliceFrom first bound 1 s.toList)

/-- some part of a text matches a pattern with flags -/
def matchesPattern (s pattern flags : String) : Except EvalError Bool :=
  match Regex.compile pattern flags with
  | .ok m => .ok (m.matchesIn s)
  | .error (.unsupportedFlag flag) => .error (.unsupportedFlag flag)
  | .error (.badSyntax e) => .error (.badPattern e.message)
  | .error .tooLarge => .error (.badPattern "pattern is too large")

/-! ## instants -/

/-- the instant that a single literal is, its time of day dropped or kept -/
def instantOf (b : Builtin) (c : Context) (part : Time.Instant → Time.Instant) (v : Value) :
    Except EvalError Value := do
  match ← v.single? c.document with
  | none => return []
  | some a =>
    match a.asInstant? with
    | some t => return .ofInstant (part t)
    | none => throw (.notInstant b.label a.asText)

/-! ## calls -/

/-- the value of a call in a context -/
def invoke (b : Builtin) (args : List Value) (c : Context) : Except EvalError Value :=
  let text := Value.text c.document
  let number := Value.number c.document
  match b, args with
  | position, [] => .ok (.ofNumber (Number.ofNat c.position))
  | last, [] => .ok (.ofNumber (Number.ofNat c.size))
  | current, [] => .ok [c.current]
  | name, [] => c.node.map (namePart c Name.lexical)
  | name, [v] => nameOf b c Name.lexical v
  | localName, [] => c.node.map (namePart c Name.localPart)
  | localName, [v] => nameOf b c Name.localPart v
  | namespaceUri, [] => c.node.map (namePart c fun n => n.uri.getD "")
  | namespaceUri, [v] => nameOf b c (fun n => n.uri.getD "") v
  | count, [v] => .ok (.ofNumber (Number.ofNat v.length))
  | string, [] => .ok (.ofText (c.item.text c.document))
  | string, [v] => .ok (.ofText (text v))
  | .number, [] => .ok (.ofNumber (Number.parse (c.item.text c.document)))
  | .number, [v] => .ok (.ofNumber (number v))
  | boolean, [v] => .ok (.ofBool v.truth)
  | .exists, [v] => .ok (.ofBool !v.isEmpty)
  | empty, [v] => .ok (.ofBool v.isEmpty)
  | lang, [v] => c.node.map fun n => .ofBool (speaks c.document n (text v))
  | concat, v :: w :: rest => .ok (.ofText (String.join ((v :: w :: rest).map text)))
  | contains, [v, w] => .ok (.ofBool (occursIn (text w) (text v)))
  | startsWith, [v, w] => .ok (.ofBool (begins (text w) (text v)))
  | endsWith, [v, w] => .ok (.ofBool (ends (text w) (text v)))
  | substring, [v, w] => .ok (.ofText (slice (text v) (Number.roundHalfUp (number w)) Number.infinity))
  | substring, [v, w, x] =>
    let first := Number.roundHalfUp (number w)
    .ok (.ofText (slice (text v) first (first + Number.roundHalfUp (number x))))
  | substringBefore, [v, w] => .ok (.ofText (textBefore (text w) (text v)))
  | substringAfter, [v, w] => .ok (.ofText (textAfter (text w) (text v)))
  | stringLength, [] => .ok (.ofNumber (Number.ofNat (c.item.text c.document).length))
  | stringLength, [v] => .ok (.ofNumber (Number.ofNat (text v).length))
  | normalizeSpace, [] => .ok (.ofText (Text.normalizeSpace (c.item.text c.document)))
  | normalizeSpace, [v] => .ok (.ofText (Text.normalizeSpace (text v)))
  | translate, [v, w, x] =>
    .ok (.ofText (String.ofList (Text.translate (text w).toList (text x).toList (text v).toList)))
  | upperCase, [v] => .ok (.ofText (upper (text v)))
  | lowerCase, [v] => .ok (.ofText (lower (text v)))
  | stringJoin, [v] => .ok (.ofText (String.join (v.map (Item.text c.document))))
  | stringJoin, [v, w] => .ok (.ofText ((text w).intercalate (v.map (Item.text c.document))))
  | .matches, [v, w] => (matchesPattern (text v) (text w) "").map .ofBool
  | .matches, [v, w, x] => (matchesPattern (text v) (text w) (text x)).map .ofBool
  | not, [v] => .ok (.ofBool !v.truth)
  | true, [] => .ok (.ofBool Bool.true)
  | false, [] => .ok (.ofBool Bool.false)
  | sum, [v] => .ok (.ofNumber (Number.sum ((v.atomize c.document).map Atomic.asNumber)))
  | floor, [v] => .ok (.ofNumber (number v).floor)
  | ceiling, [v] => .ok (.ofNumber (number v).ceil)
  | round, [v] => .ok (.ofNumber (Number.roundHalfUp (number v)))
  | abs, [v] => .ok (.ofNumber (number v).abs)
  | currentDateTime, [] => .ok (.ofInstant c.now)
  | currentDate, [] => .ok (.ofInstant c.now.midnight)
  | dateTime, [v] => instantOf b c id v
  | date, [v] => instantOf b c Time.Instant.midnight v
  | b, args => .error (b.wrongArity args.length)

end Builtin

end Rulebook
