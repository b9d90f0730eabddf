import TopicBroker.Document
import TopicBroker.Number.Scaling

/-!
# Reading documents

The text form of a document: `null`, truth values, numbers, quoted texts, lists in square brackets
and maps in braces. A number without fraction and exponent that fits in 64 bits is an integer; any
other is a floating point number. Each step takes at least one character off the text, so the
length of the text bounds the depth of the descent.
-/

namespace TopicBroker.Document

namespace Reader

/-- Whether a character may stand between two parts of a document. -/
def isGap (c : Char) : Bool := c == ' ' || c == '\n' || c == '\t' || c == '\r'

/-- Skip what may stand between two parts. -/
def skipGap (cs : List Char) : List Char := cs.dropWhile isGap

/-- The value of a hexadecimal digit. -/
def hexDigit? (c : Char) : Option Nat :=
  if c.isDigit then some (c.toNat - 48)
  else if 'a' ≤ c && c ≤ 'f' then some (c.toNat - 87)
  else if 'A' ≤ c && c ≤ 'F' then some (c.toNat - 55)
  else none

/-- The value of four hexadecimal digits at the head, and what follows them. -/
def fourDigits? : List Char → Option (Nat × List Char)
  | a :: b :: c :: d :: rest => do
    let a ← hexDigit? a
    let b ← hexDigit? b
    let c ← hexDigit? c
    let d ← hexDigit? d
    some (4096 * a + 256 * b + 16 * c + d, rest)
  | _ => none

/-- The character of a numeric escape, which takes two numbers beyond the first plane. -/
def unicodeEscape? (cs : List Char) : Option (Char × List Char) := do
  let (unit, rest) ← fourDigits? cs
  if 0xD800 ≤ unit && unit < 0xDC00 then
    match rest with
    | '\\' :: 'u' :: low =>
      let (second, rest) ← fourDigits? low
      if 0xDC00 ≤ second && second < 0xE000 then
        some (Char.ofNat (0x10000 + 1024 * (unit - 0xD800) + (second - 0xDC00)), rest)
      else none
    | _ => none
  else if 0xDC00 ≤ unit && unit < 0xE000 then none
  else some (Char.ofNat unit, rest)

/-- The character that an escape after a backslash stands for, and what follows it. -/
def escape? : List Char → Option (Char × List Char)
  | 'u' :: rest => unicodeEscape? rest
  | c :: rest =>
    if c == '"' || c == '\\' || c == '/' then some (c, rest)
    else if c == 'b' then some ('\x08', rest)
    else if c == 'f' then some ('\x0c', rest)
    else if c == 'n' then some ('\n', rest)
    else if c == 'r' then some ('\r', rest)
    else if c == 't' then some ('\t', rest)
    else none
  | [] => none

/-- The rest of a quoted text up to its closing quote. -/
def quoted? : Nat → List Char → List Char → Option (String × List Char)
  | 0, _, _ => none
  | _ + 1, _, [] => none
  | fuel + 1, done, c :: rest =>
    if c == '"' then some (String.ofList done.reverse, rest)
    else if c == '\\' then
      match escape? rest with
      | none => none
      | some (d, rest) => quoted? fuel (d :: done) rest
    else if c.toNat < 0x20 then none
    else quoted? fuel (c :: done) rest

/-- Digits at the head, of which there must be one. -/
def digits? (cs : List Char) : Option (List Char × List Char) :=
  let ds := cs.takeWhile Char.isDigit
  if ds.isEmpty then none else some (ds, cs.dropWhile Char.isDigit)

/-- The digits behind the point of a number, if there is a point. -/
def fraction? : List Char → Option (List Char × List Char)
  | '.' :: rest => digits? rest
  | cs => some ([], cs)

/-- The value of an exponent behind its letter. -/
def signedExponent? : List Char → Option (Int × List Char)
  | '-' :: rest => (digits? rest).map fun p => (-(Decimal.value p.1 : Int), p.2)
  | '+' :: rest => (digits? rest).map fun p => ((Decimal.value p.1 : Int), p.2)
  | rest => (digits? rest).map fun p => ((Decimal.value p.1 : Int), p.2)

/-- The exponent of a number, if there is one. -/
def exponent? : List Char → Option (Option Int × List Char)
  | [] => some (none, [])
  | c :: rest =>
    if c == 'e' || c == 'E' then (signedExponent? rest).map fun p => (some p.1, p.2)
    else some (none, c :: rest)

/-- The value of a numeral: an integer if it fits in 64 bits, signed or unsigned. Other numbers are
read quickly; those that are too large have no value. -/
def numeral? (negative : Bool) (whole fraction : List Char) (exponent : Option Int) :
    Option Document :=
  let n := Decimal.value whole
  let isInteger := fraction.isEmpty && exponent.isNone
  if isInteger && !negative && n < Word.size 64 then some (.int n)
  else if isInteger && negative && n != 0 && n ≤ Word.size 63 then some (.int (-(n : Int)))
  else (Binary64.ofParts? negative whole fraction (exponent.getD 0)).map .float

/-- A number without its sign. -/
def number? (negative : Bool) (cs : List Char) : Option (Document × List Char) := do
  let (whole, rest) ← digits? cs
  if whole.head? == some '0' && 1 < whole.length then none
  let (fraction, rest) ← fraction? rest
  let (exponent, rest) ← exponent? rest
  let d ← numeral? negative whole fraction exponent
  some (d, rest)

/-- The rest after a word at the head of the text. -/
def word? (word : String) (cs : List Char) : Option (List Char) :=
  if word.toList.isPrefixOf cs then some (cs.drop word.length) else none

mutual

/-- The value at the head of the text. -/
def value? : Nat → List Char → Option (Document × List Char)
  | 0, _ => none
  | fuel + 1, cs =>
    match skipGap cs with
    | [] => none
    | c :: rest =>
      if c == '"' then (quoted? fuel [] rest).map fun p => (.text p.1, p.2)
      else if c == '[' then
        match skipGap rest with
        | ']' :: rest => some (.list [], rest)
        | rest => (items? fuel [] rest).map fun p => (.list p.1, p.2)
      else if c == '\x7b' then
        match skipGap rest with
        | '\x7d' :: rest => some (.map [], rest)
        | rest => (members? fuel [] rest).map fun p => (ofFields p.1, p.2)
      else if c == 'n' then (word? "ull" rest).map fun rest => (.null, rest)
      else if c == 't' then (word? "rue" rest).map fun rest => (.bool true, rest)
      else if c == 'f' then (word? "alse" rest).map fun rest => (.bool false, rest)
      else if c == '-' then number? true rest
      else number? false (c :: rest)

/-- The items of a list up to its closing bracket. -/
def items? : Nat → List Document → List Char → Option (List Document × List Char)
  | 0, _, _ => none
  | fuel + 1, done, cs =>
    match value? fuel cs with
    | none => none
    | some (v, rest) =>
      match skipGap rest with
      | ',' :: rest => items? fuel (v :: done) rest
      | ']' :: rest => some ((v :: done).reverse, rest)
      | _ => none

/-- The fields of a map up to its closing brace. -/
def members? : Nat → List (String × Document) → List Char →
    Option (List (String × Document) × List Char)
  | 0, _, _ => none
  | fuel + 1, done, cs =>
    match skipGap cs with
    | '"' :: rest =>
      match quoted? fuel [] rest with
      | none => none
      | some (name, rest) =>
        match skipGap rest with
        | ':' :: rest =>
          match value? fuel rest with
          | none => none
          | some (v, rest) =>
            match skipGap rest with
            | ',' :: rest => members? fuel ((name, v) :: done) rest
            | '\x7d' :: rest => some (((name, v) :: done).reverse, rest)
            | _ => none
        | _ => none
    | _ => none

end

end Reader

/-- The document that a text holds, if it holds exactly one. -/
def read? (s : String) : Option Document :=
  match Reader.value? (s.length + 1) s.toList with
  | some (d, rest) => if (Reader.skipGap rest).isEmpty then some d else none
  | none => none

end TopicBroker.Document
