import TopicBroker.Text.Age
import TopicBroker.Text.Boundary

/-!
# Names of character properties

Properties are named loosely: case, blanks, underscores, dashes and a leading `is` do not count. A
name alone is looked up among the binary properties, the general categories and the scripts, in
this order. A property with values is a general category, a script, the script extensions, an age
or one of the three that decide where text may be cut.
-/

namespace TopicBroker.Text.PropertyName

/-- Whether a character of a name counts. -/
def counts (c : Char) : Bool := c.toNat < 0x80 && c != ' ' && c != '_' && c != '-'

/-- A name without what does not count. -/
def normal (name : String) : String :=
  let cs := name.toList
  let startsWithIs :=
    match cs with
    | i :: s :: _ => i.toLower == 'i' && s.toLower == 's'
    | _ => false
  let kept := ((if startsWithIs then cs.drop 2 else cs).filter counts).map Char.toLower
  if startsWithIs && kept == ['c'] then "isc" else String.ofList kept

/-- The binary properties by name. -/
def binary : List (List String × CodeSet) := [
  (["asciihexdigit", "ahex"], Property.asciiHexDigit),
  (["alphabetic", "alpha"], Property.alphabetic),
  (["bidicontrol", "bidic"], Property.bidiControl),
  (["bidimirrored", "bidim"], Property.bidiMirrored),
  (["cased"], Property.cased),
  (["caseignorable", "ci"], Property.caseIgnorable),
  (["changeswhencasefolded", "cwcf"], Property.changesWhenCasefolded),
  (["changeswhencasemapped", "cwcm"], Property.changesWhenCasemapped),
  (["changeswhenlowercased", "cwl"], Property.changesWhenLowercased),
  (["changeswhentitlecased", "cwt"], Property.changesWhenTitlecased),
  (["changeswhenuppercased", "cwu"], Property.changesWhenUppercased),
  (["dash"], Property.dash),
  (["defaultignorablecodepoint", "di"], Property.defaultIgnorableCodePoint),
  (["deprecated", "dep"], Property.deprecated),
  (["diacritic", "dia"], Property.diacritic),
  (["emoji"], Property.emoji),
  (["emojicomponent", "ecomp"], Property.emojiComponent),
  (["emojimodifier", "emod"], Property.emojiModifier),
  (["emojimodifierbase", "ebase"], Property.emojiModifierBase),
  (["emojipresentation", "epres"], Property.emojiPresentation),
  (["extendedpictographic", "extpict"], Property.extendedPictographic),
  (["extender", "ext"], Property.extender),
  (["graphemebase", "grbase"], Property.graphemeBase),
  (["graphemeextend", "grext"], Property.graphemeExtend),
  (["graphemelink", "grlink"], Property.graphemeLink),
  (["hexdigit", "hex"], Property.hexDigit),
  (["hyphen"], Property.hyphen),
  (["idcompatmathcontinue"], Property.idCompatMathContinue),
  (["idcompatmathstart"], Property.idCompatMathStart),
  (["idcontinue", "idc"], Property.idContinue),
  (["idstart", "ids"], Property.idStart),
  (["ideographic", "ideo"], Property.ideographic),
  (["idsbinaryoperator", "idsb"], Property.idsBinaryOperator),
  (["idstrinaryoperator", "idst"], Property.idsTrinaryOperator),
  (["idsunaryoperator", "idsu"], Property.idsUnaryOperator),
  (["joincontrol", "joinc"], Property.joinControl),
  (["logicalorderexception", "loe"], Property.logicalOrderException),
  (["lowercase", "lower"], Property.lowercase),
  (["math"], Property.math),
  (["modifiercombiningmark", "mcm"], Property.modifierCombiningMark),
  (["noncharactercodepoint", "nchar"], Property.noncharacterCodePoint),
  (["otheralphabetic", "oalpha"], Property.otherAlphabetic),
  (["otherdefaultignorablecodepoint", "odi"], Property.otherDefaultIgnorable),
  (["othergraphemeextend", "ogrext"], Property.otherGraphemeExtend),
  (["otheridcontinue", "oidc"], Property.otherIdContinue),
  (["otheridstart", "oids"], Property.otherIdStart),
  (["otherlowercase", "olower"], Property.otherLowercase),
  (["othermath", "omath"], Property.otherMath),
  (["otheruppercase", "oupper"], Property.otherUppercase),
  (["patternsyntax", "patsyn"], Property.patternSyntax),
  (["patternwhitespace", "patws"], Property.patternWhiteSpace),
  (["prependedconcatenationmark", "pcm"], Property.prependedConcatenationMark),
  (["quotationmark", "qmark"], Property.quotationMark),
  (["radical"], Property.radical),
  (["regionalindicator", "ri"], Property.regionalIndicator),
  (["sentenceterminal", "sterm"], Property.sentenceTerminal),
  (["softdotted", "sd"], Property.softDotted),
  (["terminalpunctuation", "term"], Property.terminalPunctuation),
  (["unifiedideograph", "uideo"], Property.unifiedIdeograph),
  (["uppercase", "upper"], Property.uppercase),
  (["variationselector", "vs"], Property.variationSelector),
  (["whitespace", "wspace", "space"], Property.whiteSpace),
  (["xidcontinue", "xidc"], Property.xidContinue),
  (["xidstart", "xids"], Property.xidStart)]

/-- The letters that have upper, lower or title case. -/
def casedLetter : CodeSet :=
  .unions [Category.uppercaseLetter, Category.lowercaseLetter, Category.titlecaseLetter]

/-- The general categories and their groups by name. -/
def categories : List (List String × CodeSet) := [
  (["any"], CodeSet.all),
  (["assigned"], Category.unassigned.complement),
  (["ascii"], CodeSet.range 0 0x7F),
  (["casedletter", "lc"], casedLetter),
  (["closepunctuation", "pe"], Category.closePunctuation),
  (["connectorpunctuation", "pc"], Category.connectorPunctuation),
  (["control", "cc", "cntrl"], Category.control),
  (["currencysymbol", "sc"], Category.currencySymbol),
  (["dashpunctuation", "pd"], Category.dashPunctuation),
  (["decimalnumber", "nd", "digit"], Category.decimalNumber),
  (["enclosingmark", "me"], Category.enclosingMark),
  (["finalpunctuation", "pf"], Category.finalPunctuation),
  (["format", "cf"], Category.format),
  (["initialpunctuation", "pi"], Category.initialPunctuation),
  (["letter", "l"], Property.letter),
  (["letternumber", "nl"], Category.letterNumber),
  (["lineseparator", "zl"], Category.lineSeparator),
  (["lowercaseletter", "ll"], Category.lowercaseLetter),
  (["mark", "m", "combiningmark"], Property.mark),
  (["mathsymbol", "sm"], Category.mathSymbol),
  (["modifierletter", "lm"], Category.modifierLetter),
  (["modifiersymbol", "sk"], Category.modifierSymbol),
  (["nonspacingmark", "mn"], Category.nonspacingMark),
  (["number", "n"],
    .unions [Category.decimalNumber, Category.letterNumber, Category.otherNumber]),
  (["openpunctuation", "ps"], Category.openPunctuation),
  (["other", "c"],
    .unions [Category.control, Category.format, Category.privateUse, Category.unassigned]),
  (["otherletter", "lo"], Category.otherLetter),
  (["othernumber", "no"], Category.otherNumber),
  (["otherpunctuation", "po"], Category.otherPunctuation),
  (["othersymbol", "so"], Category.otherSymbol),
  (["paragraphseparator", "zp"], Category.paragraphSeparator),
  (["privateuse", "co"], Category.privateUse),
  (["punctuation", "p", "punct"],
    .unions [Category.connectorPunctuation, Category.dashPunctuation, Category.openPunctuation,
      Category.closePunctuation, Category.initialPunctuation, Category.finalPunctuation,
      Category.otherPunctuation]),
  (["separator", "z"],
    .unions [Category.spaceSeparator, Category.lineSeparator, Category.paragraphSeparator]),
  (["spaceseparator", "zs"], Category.spaceSeparator),
  (["spacingmark", "mc"], Category.spacingMark),
  (["symbol", "s"],
    .unions [Category.mathSymbol, Category.currencySymbol, Category.modifierSymbol,
      Category.otherSymbol]),
  (["titlecaseletter", "lt"], Category.titlecaseLetter),
  (["unassigned", "cn"], Category.unassigned),
  (["uppercaseletter", "lu"], Category.uppercaseLetter)]

/-- The set with the given name in a table. -/
def find? (table : List (List String × CodeSet)) (name : String) : Option CodeSet :=
  (table.find? fun entry => entry.1.contains name).map (·.2)

/-- The characters with the general category of the given name. -/
def category? (name : String) : Option CodeSet := find? categories name

/-- The characters of the script of the given name. -/
def script? (name : String) : Option CodeSet := (Script.ofName? name).map Script.members

/-- Names that a general category shares with a property that is not binary. -/
def categoryFirst : List String := ["cf", "sc", "lc"]

/-- The characters that a name alone stands for. -/
def members? (name : String) : Option CodeSet :=
  let name := normal name
  let property := if categoryFirst.contains name then none else find? binary name
  property.or ((category? name).or (script? name))

/-- The characters for which a property has the given value. -/
def valueMembers? (property value : String) : Option CodeSet :=
  let value := normal value
  match normal property with
  | "generalcategory" | "gc" => category? value
  | "script" | "sc" => script? value
  | "scriptextensions" | "scx" => (Script.ofName? value).map Script.extended
  | "age" => Age.members? value
  | "graphemeclusterbreak" | "gcb" => find? Boundary.clusterClasses value
  | "wordbreak" | "wb" => find? Boundary.wordClasses value
  | "sentencebreak" | "sb" => find? Boundary.sentenceClasses value
  | _ => none

end TopicBroker.Text.PropertyName
