import TopicBroker.Text.Property

/-!
# Characters of the newest repertoire

Patterns know the characters of Unicode 16; all other texts are read with Unicode 17, which assigned
further code points and took the case from one letter. The sets below are those of the former with
this difference.
-/

namespace TopicBroker.Text.Repertoire

open Category

/-- The code points that Unicode 17 was the first to assign. -/
def added : CodeSet := .ofRows [
  "88F C5C CDC 1ACF-1ADD 1AE0-1AEB 20C1 2B96 A7CE-A7CF A7D2 A7D4 A7F1 FBC3-FBD2 FD90-FD91",
  "FDC8-FDCE 10940-10959 10EC5-10EC7 10ED0-10ED8 10EFA-10EFB 11B60-11B67 11DB0-11DDB",
  "11DE0-11DE9 16EA0-16EB8 16EBB-16ED3 16FF2-16FF6 187F8-187FF 18D09-18D1E 18D80-18DF2",
  "1CCFA-1CCFC 1CEBA-1CED0 1CEE0-1CEF0 1E6C0-1E6DE 1E6E0-1E6F5 1E6FE-1E6FF 1F6D8 1F777-1F77A",
  "1F8D0-1F8D8 1FA54-1FA57 1FA8A 1FA8E 1FAC8 1FACD 1FAEA 1FAEF 1FBFA 2B73A-2B73F 2CEA2-2CEAD",
  "323B0-33479"]

/-- Alphabetic characters. -/
def alphabetic : CodeSet := Property.alphabetic.union <| .ofRows [
  "88F C5C CDC A7CE-A7CF A7D2 A7D4 A7F1 10940-10959 10EC5-10EC7 10EFA-10EFB 11B60-11B67",
  "11DB0-11DDB 16EA0-16EB8 16EBB-16ED3 16FF2-16FF6 187F8-187FF 18D09-18D1E 18D80-18DF2",
  "1E6C0-1E6DE 1E6E0-1E6F5 1E6FE-1E6FF 2B73A-2B73F 2CEA2-2CEAD 323B0-33479"]

/-- Alphabetic characters and numbers. -/
def alphanumeric : CodeSet := .unions [alphabetic, decimalNumber, letterNumber, otherNumber,
  .ofRows ["11DE0-11DE9"]]

/-- Characters in upper, lower or title case. -/
def cased : CodeSet := (Property.cased.diff (.single 0x295)).union <|
  .ofRows ["A7CE-A7CF A7D2 A7D4 A7F1 16EA0-16EB8 16EBB-16ED3"]

/-- Characters without a say in the case of those around them. -/
def caseIgnorable : CodeSet := Property.caseIgnorable.union <| .ofRows [
  "1ACF-1ADD 1AE0-1AEB A7F1 10EC5 10EFA-10EFB 11B60 11B62-11B64 11B66 11DD9 16FF2-16FF3 1E6E3",
  "1E6E6 1E6EE-1E6EF 1E6F5 1E6FF"]

/-- Characters that change the one before them. -/
def graphemeExtend : CodeSet := Property.graphemeExtend.union <| .ofRows [
  "1ACF-1ADD 1AE0-1AEB 10EFA-10EFB 11B60 11B62-11B64 11B66 1E6E3 1E6E6 1E6EE-1E6EF 1E6F5"]

/-- Code points without a character. -/
def unassigned : CodeSet := Category.unassigned.diff added

end TopicBroker.Text.Repertoire
