import TopicBroker.Document

/-!
# Writing documents

The text form of a document on one line, without blanks between its parts.
-/

namespace TopicBroker.Document

namespace Printer

/-- The last hexadecimal digit of a number, in lower case. -/
def hexDigit (n : Nat) : Char :=
  let d := n % 16
  Char.ofNat (if d < 10 then 48 + d else 87 + d)

/-- How a character is written inside quotes: quotes, backslashes and controls are escaped. -/
def escape (c : Char) : List Char :=
  if c == '"' || c == '\\' then ['\\', c]
  else if c == '\n' then ['\\', 'n']
  else if c == '\r' then ['\\', 'r']
  else if c == '\t' then ['\\', 't']
  else if c == '\x08' then ['\\', 'b']
  else if c == '\x0c' then ['\\', 'f']
  else if c.toNat < 0x20 then ['\\', 'u', '0', '0', hexDigit (c.toNat / 16), hexDigit c.toNat]
  else [c]

/-- A text between quotes. -/
def quoted (s : String) : String := String.ofList ('"' :: s.toList.flatMap escape ++ ['"'])

mutual

/-- A value. -/
def value : Document → String
  | .null => "null"
  | .bool b => if b then "true" else "false"
  | .int i => Decimal.ofInt i
  | .float x => x.toCompactText
  | .text s => quoted s
  | .list items => "[" ++ values "" items ++ "]"
  | .map fields => "\x7b" ++ members "" fields ++ "\x7d"

/-- The items of a list, each but the first after a comma. -/
def values (separator : String) : List Document → String
  | [] => ""
  | d :: rest => separator ++ value d ++ values "," rest

/-- The fields of a map, each but the first after a comma. -/
def members (separator : String) : List (String × Document) → String
  | [] => ""
  | (name, d) :: rest => separator ++ quoted name ++ ":" ++ value d ++ members "," rest

end

end Printer

/-- The text of a document. -/
def write (d : Document) : String := Printer.value d

end TopicBroker.Document
