import QueryEngine.Unicode.Core
import QueryEngine.Unicode.Script

namespace QueryEngine.Unicode

def prependedMarks : CharSet := .ofTable "600-605 6dd 70f 890-891 8e2 110bd 110cd"

def script (name : String) : CharSet := (script? name).getD .empty

def emojiModifiers : CharSet := .ofTable "1f3fb-1f3ff"

def regionalIndicators : CharSet := .ofTable "1f1e6-1f1ff"

def carriageReturn : CharSet := .single '\r'

def lineFeed : CharSet := .single '\n'

def zeroWidthJoiner : CharSet := .ofTable "200d"

def openSyllables : CharSet :=
  .ofCodePoints ((List.range 399).map fun i => 0xAC00 + 28 * i)

def syllables : CharSet := .ofTable "ac00-d7a3"

def vowelJamo : CharSet := .ofTable "1160-11a7 d7b0-d7c6 16d63 16d67-16d6a"

def detachedMarks : CharSet := .ofTable "
  102b-102c 1038 1062-1064 1067-106d 1083 1087-108c 108f 109a-109c 1a61 1a63-1a64 aa7b aa7d
  11720-11721"

def prepending : CharSet := .ofTable "
  d4e 111c2-111c3 113d1 1193f 11941 11a3a 11a84-11a89 11d46 11f02"

def graphemeControls : CharSet :=
  (CharSet.unions [lineSeparators, paragraphSeparators, controls, formats,
    unassigned.inter defaultIgnorable]).diff
    (.unions [prependedMarks, graphemeExtend, zeroWidthJoiner, carriageReturn, lineFeed])

def graphemeExtenders : CharSet := graphemeExtend.union emojiModifiers

def graphemeBreaks : List (List String × CharSet) := [
  (["cn", "control"], graphemeControls), (["cr"], carriageReturn), (["lf"], lineFeed),
  (["ex", "extend"], graphemeExtenders), (["l"], .ofTable "1100-115f a960-a97c"),
  (["v"], vowelJamo), (["t"], .ofTable "11a8-11ff d7cb-d7fb"), (["lv"], openSyllables),
  (["lvt"], syllables.diff openSyllables), (["pp", "prepend"], prependedMarks.union prepending),
  (["ri", "regionalindicator"], regionalIndicators),
  (["sm", "spacingmark"],
    (spacingMarks.diff (graphemeExtend.union detachedMarks)).union (.ofTable "e33 eb3")),
  (["zwj"], zeroWidthJoiner)]

/-- The letters of scripts whose words are found with a dictionary. -/
def unspacedLetters : CharSet :=
  .unions (["thai", "laoo", "mymr", "khmr", "tale", "talu", "lana", "tavt", "ahom"].map script)

def katakana : CharSet :=
  (script "kana").union (.ofTable "3031-3035 309b-309c 30a0 30fc ff70")

def hebrewLetters : CharSet := (script "hebr").inter otherLetters

def ideographs : CharSet := .ofTable "
  3006-3007 3021-3029 3038-303a 3400-4dbf 4e00-9fff f900-fa6d fa70-fad9 16fe4 17000-187f7
  18800-18cd5 18cff-18d08 1b170-1b2fb 20000-2a6df 2a700-2b739 2b740-2b81d 2b820-2cea1 2ceb0-2ebe0
  2ebf0-2ee5d 2f800-2fa1d 30000-3134a 31350-323af"

def otherWordLetters : CharSet := .ofTable "
  2c2-2c5 2d2-2d7 2de-2df 2e5-2eb 2ed 2ef-2ff 55a-55c 55e 58a 5f3 70f a708-a716 a720-a721
  a789-a78a ab5b"

def wordLetters : CharSet :=
  (alphabetic.diff (.unions [ideographs, katakana, script "hira", graphemeExtend, spacingMarks,
    hebrewLetters, unspacedLetters])).union otherWordLetters

def wordExtenders : CharSet := .unions [graphemeExtenders, spacingMarks]

def numberSigns : CharSet := prependedMarks.diff (.ofTable "70f")

def wordFormats : CharSet :=
  formats.diff (.unions [prependedMarks, graphemeExtend, zeroWidthJoiner, .ofTable "200b"])

def wordBreaks : List (List String × CharSet) := [
  (["cr"], carriageReturn), (["lf"], lineFeed),
  (["nl", "newline"], .ofTable "b-c 85 2028-2029"), (["dq", "doublequote"], .single '"'),
  (["sq", "singlequote"], .single '\''), (["le", "aletter"], wordLetters),
  (["hl", "hebrewletter"], hebrewLetters), (["ka", "katakana"], katakana),
  (["nu", "numeric"], .unions [decimalNumbers, numberSigns, .ofTable "66b"]),
  (["ex", "extendnumlet"], connectorPunctuation.union (.ofTable "202f")),
  (["extend"], wordExtenders), (["fo", "format"], wordFormats),
  (["ml", "midletter"], .ofTable "3a b7 387 55f 5f4 2027 fe13 fe55 ff1a"),
  (["mn", "midnum"], .ofTable "2c 3b 37e 589 60c-60d 66c 7f8 2044 fe10 fe14 fe50 fe54 ff0c ff1b"),
  (["mb", "midnumlet"], .ofTable "2e 2018-2019 2024 fe52 ff07 ff0e"),
  (["ri", "regionalindicator"], regionalIndicators),
  (["wsegspace"], .ofTable "20 1680 2000-2006 2008-200a 205f 3000"), (["zwj"], zeroWidthJoiner)]

def sentenceTerminals : CharSet := .ofTable "
  21 2e 3f 589 61d-61f 6d4 700-702 7f9 837 839 83d-83e 964-965 104a-104b 1362 1367-1368 166e
  1735-1736 17d4-17d5 1803 1809 1944-1945 1aa8-1aab 1b4e-1b4f 1b5a-1b5b 1b5e-1b5f 1b7d-1b7f
  1c3b-1c3c 1c7e-1c7f 2024 203c-203d 2047-2049 2cf9-2cfb 2e2e 2e3c 2e53-2e54 3002 a4ff a60e-a60f
  a6f3 a6f7 a876-a877 a8ce-a8cf a92f a9c8-a9c9 aa5d-aa5f aaf0-aaf1 abeb fe12 fe15-fe16 fe52
  fe56-fe57 ff01 ff0e ff1f ff61 10a56-10a57 10f55-10f59 10f86-10f89 11047-11048 110be-110c1
  11141-11143 111c5-111c6 111cd 111de-111df 11238-11239 1123b-1123c 112a9 113d4-113d5 1144b-1144c
  115c2-115c3 115c9-115d7 11641-11642 1173c-1173e 11944 11946 11a42-11a43 11a9b-11a9c 11c41-11c42
  11ef7-11ef8 11f43-11f44 16a6e-16a6f 16af5 16b37-16b38 16b44 16d6e-16d6f 16e98 1bc9f 1da88"

def fullStops : CharSet := .ofTable "2e 2024 fe52 ff0e"

def caselessGeorgian : CharSet := .ofTable "10d0-10fa 10fd-10ff 1c90-1cba 1cbd-1cbf"

def sentenceLower : CharSet := anyLowercase.diff (graphemeExtend.union caselessGeorgian)

def sentenceUpper : CharSet := (anyUppercase.union titlecaseLetters).diff caselessGeorgian

def sentenceExtenders : CharSet := .unions [graphemeExtend, spacingMarks, zeroWidthJoiner]

def otherSentenceLetters : CharSet :=
  (alphabetic.diff (.unions [sentenceLower, sentenceUpper, sentenceExtenders])).union
    (.ofTable "5f3")

def otherClosing : CharSet := .ofTable "22 27 275b-2760 2e00-2e01 2e06-2e08 2e0b 1f676-1f678"

def sentenceBreaks : List (List String × CharSet) := [
  (["at", "aterm"], fullStops), (["cr"], carriageReturn), (["lf"], lineFeed),
  (["cl", "close"], .unions [openPunctuation, closePunctuation, initialPunctuation,
    finalPunctuation, otherClosing]),
  (["ex", "extend"], sentenceExtenders),
  (["fo", "format"], formats.diff (.unions [prependedMarks, sentenceExtenders])),
  (["le", "oletter"], otherSentenceLetters), (["lo", "lower"], sentenceLower),
  (["nu", "numeric"], .unions [decimalNumbers, numberSigns, .ofTable "66b-66c"]),
  (["sc", "scontinue"], .ofTable "
    2c-2d 3a-3b 37e 55d 60c-60d 7f8 1802 1808 2013-2014 3001 fe10-fe11 fe13-fe14 fe31-fe32
    fe50-fe51 fe54-fe55 fe58 fe63 ff0c-ff0d ff1a-ff1b ff64"),
  (["se", "sep"], .ofTable "85 2028-2029"),
  (["sp"], .ofTable "9 b-c 20 a0 1680 2000-200a 202f 205f 3000"),
  (["st", "sterm"], sentenceTerminals.diff fullStops), (["up", "upper"], sentenceUpper)]

end QueryEngine.Unicode
