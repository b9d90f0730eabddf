import TopicBroker.Text.Repertoire

/-!
# Quoted text

A text between double quotes, in which a reader of a log can tell every character: quotes,
backslashes and line ends are escaped, and so is each character that has no glyph of its own.
-/

namespace TopicBroker.Text.Quoted

open Category

/-- The escape of a code point: its number in hexadecimal between braces. -/
def codeEscape (c : Char) : List Char :=
  ['\\', 'u', '\x7b'] ++ Nat.toDigits 16 c.toNat ++ ['\x7d']

/-- The characters beyond ASCII that cannot be told by their glyph: controls, format characters,
private and unassigned code points, blanks, fillers, and all that change the character before them.
The two halfwidth sound marks have a place of their own. -/
def hidden : CodeSet :=
  (CodeSet.unions [control, format, privateUse, Repertoire.unassigned, lineSeparator,
    paragraphSeparator, spaceSeparator, Repertoire.graphemeExtend,
    Property.defaultIgnorableCodePoint]).diff (.ofRows ["FF9E-FF9F"])

/-- Whether a character stands for itself between quotes. -/
def isPlain (c : Char) : Bool :=
  if c.toNat < 0x7F then 0x20 ≤ c.toNat else !hidden.containsChar c

/-- How a character is written between quotes. -/
def escape (c : Char) : List Char :=
  if c == '\x00' then ['\\', '0']
  else if c == '\t' then ['\\', 't']
  else if c == '\n' then ['\\', 'n']
  else if c == '\r' then ['\\', 'r']
  else if c == '\\' || c == '"' then ['\\', c]
  else if isPlain c then [c]
  else codeEscape c

end Quoted

/-- The text between double quotes. -/
def quote (s : String) : String :=
  String.ofList ('"' :: s.toList.flatMap Quoted.escape ++ ['"'])

end TopicBroker.Text
