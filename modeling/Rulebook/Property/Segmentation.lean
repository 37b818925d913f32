import Rulebook.Property.Binary
import Rulebook.Property.Script

/-!
# Classes of characters at breaks

Where a text may be broken between graphemes, words and sentences depends on a class of each
character.  A character without a class is in none of the lists.
-/

namespace Rulebook.Property

open Text

namespace Segmentation

open Category Binary

/-- controls; those that join or extend are none -/
def control : Ranges :=
  (Ranges.unions [rangesOf [zl, zp, cc, cf], unassigned.inter defaultIgnorable]).diff
    (.unions [.ofText "a d 200c-200d", prependedConcatenationMark, graphemeExtend])

/-- the lines' ends -/
def carriageReturn : Ranges := .single '\x0d'

def lineFeed : Ranges := .single '\n'

def zeroWidthJoiner : Ranges := .single '\u200d'

def namedIn (table : List Script) (name : String) : Ranges :=
  .unions ((table.filter fun s => s.names.contains name).map Script.own)

/-! ## graphemes -/

/-- marks that take room of their own -/
def spacingMark : Ranges :=
  ((mc.ranges.union (.ofText "e33 eb3")).diff graphemeExtend).diff (.ofText
    "102b-102c 1038 1062-1064 1067-106d 1083 1087-108c 108f 109a-109c 1a61 1a63-1a64 aa7b aa7d
    11720-11721")

/-- Hangul syllables without and with a final consonant -/
def openSyllable : Ranges :=
  .ofList ((List.range 399).map fun i => (0xAC00 + 28 * i, 0xAC00 + 28 * i))

def closedSyllable : Ranges := (Ranges.range '\uac00' '\ud7a3').diff openSyllable

def graphemes : List Named :=
  [⟨["cr"], carriageReturn⟩,
    ⟨["lf"], lineFeed⟩,
    ⟨["cn", "control"], control⟩,
    ⟨["ex", "extend"], graphemeExtend.union emojiModifier⟩,
    ⟨["l"], .ofText "1100-115f a960-a97c"⟩,
    ⟨["lv"], openSyllable⟩,
    ⟨["lvt"], closedSyllable⟩,
    ⟨["pp", "prepend"], prependedConcatenationMark.union (.ofText
      "d4e 111c2-111c3 113d1 1193f 11941 11a3a 11a84-11a89 11d46 11f02")⟩,
    ⟨["ri", "regionalindicator"], regionalIndicator⟩,
    ⟨["sm", "spacingmark"], spacingMark⟩,
    ⟨["t"], .ofText "11a8-11ff d7cb-d7fb"⟩,
    ⟨["v"], .ofText "1160-11a7 d7b0-d7c6 16d63 16d67-16d6a"⟩,
    ⟨["zwj"], zeroWidthJoiner⟩]

/-! ## words -/

def wordExtend : Ranges :=
  (Ranges.unions [graphemeExtend, mc.ranges, emojiModifier]).diff zeroWidthJoiner

/-- digits, and what is read as part of a number -/
def wordNumeric : Ranges := nd.ranges.union (.ofText "600-605 66b 6dd 890-891 8e2 19da 110bd 110cd")

def wordFormat : Ranges :=
  cf.ranges.diff (.unions [.ofText "70f 200b-200d", wordExtend, wordNumeric])

def katakana : Ranges :=
  (namedIn Script.proper "katakana").union (.ofText "3031-3035 309b-309c 30a0 30fc ff70")

def hebrewLetter : Ranges := (namedIn Script.proper "hebrew").inter lo.ranges

/-- letters of scripts that are written without spaces between words -/
def spaceless : Ranges := .ofText
  "e01-e3a e40-e4e e81-e82 e84 e86-e8a e8c-ea3 ea5 ea7-ebd ec0-ec4 ec6 ec8-ece edc-edf 1000-103f
  1050-108f 109a-109f 1780-17d3 17d7 17dc-17dd 1950-196d 1970-1974 1980-19ab 19b0-19c9 19de-19df
  1a20-1a5e 1a60-1a7c 1aa0-1aad a9e0-a9ef a9fa-a9fe aa60-aac2 aadb-aadf 11700-1171a 1171d-1172b
  1173a-1173b 1173f-11746"

def wordLetter : Ranges :=
  (alphabetic.union (.ofText
    "b8 2c2-2c5 2d2-2d7 2de-2df 2e5-2eb 2ed 2ef-2ff 55a-55c 55e 58a 5f3 70f a708-a716 a720-a721
    a789-a78a ab5b")).diff
    (.unions [ideographic, katakana, spaceless, namedIn Script.proper "hiragana", wordExtend,
      hebrewLetter])

def words : List Named :=
  [⟨["cr"], carriageReturn⟩,
    ⟨["lf"], lineFeed⟩,
    ⟨["dq", "doublequote"], .single '"'⟩,
    ⟨["ex", "extendnumlet"], pc.ranges.union (.single '\u202f')⟩,
    ⟨["extend"], wordExtend⟩,
    ⟨["fo", "format"], wordFormat⟩,
    ⟨["hl", "hebrewletter"], hebrewLetter⟩,
    ⟨["ka", "katakana"], katakana⟩,
    ⟨["le", "aletter"], wordLetter⟩,
    ⟨["mb", "midnumlet"], .ofText "2e 2018-2019 2024 fe52 ff07 ff0e"⟩,
    ⟨["ml", "midletter"], .ofText "3a b7 387 55f 5f4 2027 fe13 fe55 ff1a"⟩,
    ⟨["mn", "midnum"], .ofText
      "2c 3b 37e 589 60c-60d 66c 7f8 2044 fe50 fe54 ff0c ff1b"⟩,
    ⟨["nl", "newline"], .ofText "b-c 85 2028-2029"⟩,
    ⟨["nu", "numeric"], wordNumeric⟩,
    ⟨["ri", "regionalindicator"], regionalIndicator⟩,
    ⟨["sq", "singlequote"], .single '\''⟩,
    ⟨["wsegspace"], zs.ranges.diff (.ofText "a0 2007 202f")⟩,
    ⟨["zwj"], zeroWidthJoiner⟩]

/-! ## sentences -/

def sentenceExtend : Ranges := .unions [graphemeExtend, mc.ranges, zeroWidthJoiner]

def sentenceNumeric : Ranges := wordNumeric.union (.single '\u066c')

def sentenceFormat : Ranges :=
  cf.ranges.diff (.unions [zeroWidthJoiner, sentenceExtend, sentenceNumeric])

def sentenceLower : Ranges := (lowercase.diff graphemeExtend).diff (.ofText "10d0-10fa 10fd-10ff")

def sentenceUpper : Ranges := (lt.ranges.union uppercase).diff (.ofText "1c90-1cba 1cbd-1cbf")

def sentenceLetter : Ranges :=
  (alphabetic.union (.single '\u05f3')).diff
    (.unions [sentenceLower, sentenceUpper, sentenceExtend])

/-- full stops, which may stand inside of a sentence -/
def fullStop : Ranges := .ofText "2e 2024 fe52 ff0e"

def sentenceTerm : Ranges := sentenceTerminal.diff fullStop

def quotation : Ranges := .ofText
  "22 27 ab bb 2018-2019 201b-201d 201f 2039-203a 275b-2760 2e00-2e0d 2e1c-2e1d 2e20-2e21
  1f676-1f678"

def sentences : List Named :=
  [⟨["cr"], carriageReturn⟩,
    ⟨["lf"], lineFeed⟩,
    ⟨["at", "aterm"], fullStop⟩,
    ⟨["cl", "close"],
      ((rangesOf [ps, pe, pi, pf]).union quotation).diff (fullStop.union sentenceTerm)⟩,
    ⟨["ex", "extend"], sentenceExtend⟩,
    ⟨["fo", "format"], sentenceFormat⟩,
    ⟨["le", "oletter"], sentenceLetter⟩,
    ⟨["lo", "lower"], sentenceLower⟩,
    ⟨["nu", "numeric"], sentenceNumeric⟩,
    ⟨["sc", "scontinue"], .ofText
      "2c-2d 3a-3b 37e 55d 60c-60d 7f8 1802 1808 2013-2014 3001 fe10-fe11 fe13-fe14 fe31-fe32
      fe50-fe51 fe54-fe55 fe58 fe63 ff0c-ff0d ff1a-ff1b ff64"⟩,
    ⟨["se", "sep"], .ofText "85 2028-2029"⟩,
    ⟨["sp"], whiteSpace.diff (.ofText "a d 85 2028-2029")⟩,
    ⟨["st", "sterm"], sentenceTerm⟩,
    ⟨["up", "upper"], sentenceUpper⟩]

end Segmentation

end Rulebook.Property
