import TopicBroker.Text.Property
import TopicBroker.Text.Script

/-!
# Classes of characters at text boundaries

Where a text may be cut into clusters of characters that are seen as one, into words and into
sentences is decided by three sets of classes. Within each of the three a code point belongs to one
class at most. A class is given with its names, written as they are compared: in lower case and
without separators.
-/

namespace TopicBroker.Text.Boundary

open Category Property

/-- The set `\r`. -/
def carriageReturn : CodeSet := .single 0xD

/-- The set `\n`. -/
def lineFeed : CodeSet := .single 0xA

/-- The character that joins what stands before and after it. -/
def joiner : CodeSet := .single 0x200D

/-- Characters that change the one before them, for clusters. -/
def clusterExtend : CodeSet := graphemeExtend.union emojiModifier

/-- Characters without a width that end a cluster. -/
def clusterControl : CodeSet :=
  (CodeSet.unions [control, format, lineSeparator, paragraphSeparator,
    defaultIgnorableCodePoint.inter unassigned]).diff
    (.unions [carriageReturn, lineFeed, joiner, prependedConcatenationMark, clusterExtend])

/-- Spacing marks that stand apart from the letter before them. -/
def detachedMark : CodeSet := .ofRows [
  "102B-102C 1038 1062-1064 1067-106D 1083 1087-108C 108F 109A-109C 1A61 1A63-1A64 AA7B AA7D",
  "11720-11721"]

/-- Spacing marks that form a cluster with the letter before them. -/
def clusterSpacing : CodeSet :=
  (spacingMark.diff (clusterExtend.union detachedMark)).union (.ofRows ["E33 EB3"])

/-- Characters that form a cluster with the letter after them. -/
def clusterPrepend : CodeSet := prependedConcatenationMark.union <|
  .ofRows ["D4E 111C2-111C3 113D1 1193F 11941 11A84-11A89 11D46 11F02"]

/-- The syllables of Hangul. -/
def syllable : CodeSet := .range 0xAC00 0xD7A3

/-- The syllables of Hangul that end with a vowel: every 28th. -/
def openSyllable : CodeSet :=
  .ofRanges ((List.range 399).map fun i => (0xAC00 + 28 * i, 0xAC00 + 28 * i))

/-- The classes that decide where clusters end. -/
def clusterClasses : List (List String × CodeSet) := [
  (["control", "cn"], clusterControl),
  (["cr"], carriageReturn),
  (["extend", "ex"], clusterExtend),
  (["l"], .ofRows ["1100-115F A960-A97C"]),
  (["lf"], lineFeed),
  (["lv"], openSyllable),
  (["lvt"], syllable.diff openSyllable),
  (["prepend", "pp"], clusterPrepend),
  (["regionalindicator", "ri"], regionalIndicator),
  (["spacingmark", "sm"], clusterSpacing),
  (["t"], .ofRows ["11A8-11FF D7CB-D7FB"]),
  (["v"], .ofRows ["1160-11A7 D7B0-D7C6 16D63 16D67-16D6A"]),
  (["zwj"], joiner)]

/-- Characters that change the one before them, for words. -/
def wordExtend : CodeSet := .unions [graphemeExtend, spacingMark, emojiModifier]

/-- Digits of numbers and the signs that stand in front of them. -/
def wordNumeric : CodeSet := .union decimalNumber <|
  .ofRows ["600-605 66B 6DD 890-891 8E2 19DA 110BD 110CD"]

/-- Format characters that words look past. -/
def wordFormat : CodeSet :=
  (format.diff (.unions [wordExtend, wordNumeric])).diff (.ofRows ["70F 200B-200D"])

/-- The characters of a script. -/
def script (name : String) : CodeSet := (Script.ofName? name).elim .empty Script.members

/-- The letters of Hebrew. -/
def hebrewLetter : CodeSet := (script "hebrew").inter otherLetter

/-- The characters of Katakana and the signs used with them. -/
def katakana : CodeSet :=
  (script "katakana").union (.ofRows ["3031-3035 309B-309C 30A0 30FC FF70"])

/-- Letters of scripts that write words without anything between them. -/
def unspacedLetter : CodeSet := .ofRows [
  "E01-E30 E32-E33 E40-E46 E81-E82 E84 E86-E8A E8C-EA3 EA5 EA7-EB0 EB2-EB3 EBD EC0-EC4 EC6",
  "EDC-EDF 1000-102A 103F 1050-1055 105A-105D 1061 1065-1066 106E-1070 1075-1081 108E",
  "1780-17B3 17D7 17DC 1950-196D 1970-1974 1980-19AB 19B0-19C9 1A20-1A54 1AA7 A9E0-A9E4",
  "A9E6-A9EF A9FA-A9FE AA60-AA76 AA7A AA7E-AAAF AAB1 AAB5-AAB6 AAB9-AABD AAC0 AAC2 AADB-AADD",
  "11700-1171A 11740-11746"]

/-- The letters of all other scripts and signs that stand within words. -/
def wordLetter : CodeSet :=
  (alphabetic.diff (.unions [ideographic, katakana, script "hiragana", hebrewLetter, wordExtend,
    wordNumeric, unspacedLetter])).union <| .ofRows [
  "B8 2C2-2C5 2D2-2D7 2DE-2DF 2E5-2EB 2ED 2EF-2FF 55A-55C 55E 58A 5F3 70F A708-A716 A720-A721",
  "A789-A78A AB5B"]

/-- The classes that decide where words end. -/
def wordClasses : List (List String × CodeSet) := [
  (["aletter", "le"], wordLetter),
  (["cr"], carriageReturn),
  (["doublequote", "dq"], .single 0x22),
  (["extend"], wordExtend),
  (["extendnumlet", "ex"], .ofRows ["5F 202F 203F-2040 2054 FE33-FE34 FE4D-FE4F FF3F"]),
  (["format", "fo"], wordFormat),
  (["hebrewletter", "hl"], hebrewLetter),
  (["katakana", "ka"], katakana),
  (["lf"], lineFeed),
  (["midletter", "ml"], .ofRows ["3A B7 387 55F 5F4 2027 FE13 FE55 FF1A"]),
  (["midnum", "mn"], .ofRows ["2C 3B 37E 589 60C-60D 66C 7F8 2044 FE50 FE54 FF0C FF1B"]),
  (["midnumlet", "mb"], .ofRows ["2E 2018-2019 2024 FE52 FF07 FF0E"]),
  (["newline", "nl"], .ofRows ["B-C 85 2028-2029"]),
  (["numeric", "nu"], wordNumeric),
  (["regionalindicator", "ri"], regionalIndicator),
  (["singlequote", "sq"], .single 0x27),
  (["wsegspace"], .ofRows ["20 1680 2000-2006 2008-200A 205F 3000"]),
  (["zwj"], joiner)]

/-- Characters that change the one before them, for sentences. -/
def sentenceExtend : CodeSet := .unions [graphemeExtend, spacingMark, joiner]

/-- Separators of paragraphs, line ends left aside. -/
def sentenceSeparator : CodeSet := .ofRows ["85 2028-2029"]

/-- Digits of numbers and the signs that stand in front of them or between them. -/
def sentenceNumeric : CodeSet := wordNumeric.union (.single 0x66C)

/-- Full stops that need not end a sentence. -/
def fullStop : CodeSet := .ofRows ["2E 2024 FE52 FF0E"]

/-- Lowercase letters; those of Georgian start sentences too. -/
def sentenceLower : CodeSet :=
  Property.lowercase.diff (graphemeExtend.union (.ofRows ["10D0-10FA 10FD-10FF"]))

/-- Letters in upper or title case; those of Georgian do not start sentences. -/
def sentenceUpper : CodeSet :=
  (titlecaseLetter.union uppercase).diff (.ofRows ["1C90-1CBA 1CBD-1CBF"])

/-- The marks that end a sentence. -/
def sentenceEnd : CodeSet := sentenceTerminal.diff fullStop

/-- Brackets and quotation marks. -/
def sentenceClose : CodeSet := .unions [openPunctuation, closePunctuation, initialPunctuation,
  finalPunctuation, .ofRows ["22 27 275B-2760 2E00-2E01 2E06-2E08 2E0B 1F676-1F678"]]

/-- The classes that decide where sentences end. -/
def sentenceClasses : List (List String × CodeSet) := [
  (["aterm", "at"], fullStop),
  (["close", "cl"], sentenceClose),
  (["cr"], carriageReturn),
  (["extend", "ex"], sentenceExtend),
  (["format", "fo"],
    (format.diff (.unions [sentenceExtend, sentenceNumeric])).diff (.ofRows ["200C-200D"])),
  (["lf"], lineFeed),
  (["lower", "lo"], sentenceLower),
  (["numeric", "nu"], sentenceNumeric),
  (["oletter", "le"], (alphabetic.union (.single 0x5F3)).diff
    (.unions [sentenceLower, sentenceUpper, sentenceExtend])),
  (["scontinue", "sc"], .ofRows [
    "2C-2D 3A-3B 37E 55D 60C-60D 7F8 1802 1808 2013-2014 3001 FE10-FE11 FE13-FE14 FE31-FE32",
    "FE50-FE51 FE54-FE55 FE58 FE63 FF0C-FF0D FF1A-FF1B FF64"]),
  (["sep", "se"], sentenceSeparator),
  (["sp"], whiteSpace.diff (.unions [carriageReturn, lineFeed, sentenceSeparator])),
  (["sterm", "st"], sentenceEnd),
  (["upper", "up"], sentenceUpper)]

end TopicBroker.Text.Boundary
