import Rulebook.Property.Age
import Rulebook.Property.Folding
import Rulebook.Property.Segmentation

/-!
# Sets of characters

What one place of a pattern may be: the classes that patterns abbreviate, the properties that they
name, and sets folded so that they hold characters in either case.
-/

namespace Rulebook.Regex

open Text

abbrev CharSet := Ranges

namespace CharSet

/-! ## folding -/

/-- the characters that differ from `c` in case alone, with or without those beyond ASCII -/
def variants (unicode : Bool) (c : Char) : List Char :=
  if unicode then Property.Folding.variants c
  else if c.isUpper then [c, c.toLower]
  else [c, c.toUpper]

/-- the letters `A` to `Z` in a set, in either case -/
def foldAscii (s : CharSet) : CharSet :=
  let small := (List.range 26).map fun i => Char.ofNat (97 + i)
  s.union (.ofChars ((small.filter fun c => s.contains c || s.contains c.toUpper).flatMap fun c =>
    [c, c.toUpper]))

/-- with each character of a set those that differ from it in case alone -/
def fold (unicode : Bool) (s : CharSet) : CharSet :=
  if unicode then Property.Folding.close s else foldAscii s

/-! ## classes -/

def ofPairs (ps : List (Char × Char)) : CharSet := .ofList (ps.map fun p => (p.1.toNat, p.2.toNat))

def asciiDigit : CharSet := .range '0' '9'

def asciiSpace : CharSet := ofPairs [('\t', '\x0d'), (' ', ' ')]

def asciiWord : CharSet := ofPairs [('0', '9'), ('A', 'Z'), ('_', '_'), ('a', 'z')]

open Property.Category Property.Binary in
/-- letters with their marks, decimal digits, connectors and joiners -/
def fullWord : CharSet := .unions [alphabetic, rangesOf [mn, mc, me, nd, pc], joinControl]

/-- `\d` -/
def digit (unicode : Bool) : CharSet :=
  if unicode then Property.Category.nd.ranges else asciiDigit

/-- `\s` -/
def space (unicode : Bool) : CharSet :=
  if unicode then Property.Binary.whiteSpace else asciiSpace

/-- `\w` -/
def word (unicode : Bool) : CharSet := if unicode then fullWord else asciiWord

/-- the classes of ASCII characters that are written `[:name:]` -/
def posix? : String → Option CharSet
  | "alnum" => some (ofPairs [('0', '9'), ('A', 'Z'), ('a', 'z')])
  | "alpha" => some (ofPairs [('A', 'Z'), ('a', 'z')])
  | "ascii" => some (.range '\x00' '\x7f')
  | "blank" => some (ofPairs [('\t', '\t'), (' ', ' ')])
  | "cntrl" => some (ofPairs [('\x00', '\x1f'), ('\x7f', '\x7f')])
  | "digit" => some asciiDigit
  | "graph" => some (.range '!' '~')
  | "lower" => some (.range 'a' 'z')
  | "print" => some (.range ' ' '~')
  | "punct" => some (ofPairs [('!', '/'), (':', '@'), ('[', '`'), ('\x7b', '~')])
  | "space" => some asciiSpace
  | "upper" => some (.range 'A' 'Z')
  | "word" => some asciiWord
  | "xdigit" => some (ofPairs [('0', '9'), ('A', 'F'), ('a', 'f')])
  | _ => none

/-! ## properties -/

open Property

/-- the set that `\p` with a name stands for: a property, a category or a script -/
def named? (name : String) : Option CharSet :=
  let plain := plainName name
  find? Binary.named plain <|> find? Category.named plain <|> find? Script.named plain

/-- properties whose values are named, under their own names -/
def valuesOf? (plain : String) : Option (List Named) :=
  if ["generalcategory", "gc"].contains plain then some Category.named
  else if ["script", "sc"].contains plain then some Script.named
  else if ["scriptextensions", "scx"].contains plain then some Script.namedExtensions
  else if plain == "age" then some Age.named
  else if ["graphemeclusterbreak", "gcb"].contains plain then some Segmentation.graphemes
  else if ["wordbreak", "wb"].contains plain then some Segmentation.words
  else if ["sentencebreak", "sb"].contains plain then some Segmentation.sentences
  else none

/-- the set that `\p` with a property and its value stands for -/
def valued? (key value : String) : Option CharSet := do
  find? (← valuesOf? (plainName key)) (plainName value)

end CharSet

end Rulebook.Regex
