import TopicBroker.Number.Decimal
import TopicBroker.Number.Word
import TopicBroker.Pattern.Regex.Syntax
import TopicBroker.Text.Blank
import TopicBroker.Text.Repertoire

/-!
# Reading regular expressions

From the text of a regular expression to its syntax. Nothing is returned for a text that is not
well formed. In extended mode blanks and comments are skipped between any two characters that are
not written together; every reader below takes the mode as its first argument. A step takes at
least one character off the text, so the length of the text bounds every loop.
-/

namespace TopicBroker.Regex.Reader

open Text (isBlank)

/-- Skip blanks and comments; the first argument says whether a comment is open. -/
def skipTrivia : Bool → List Char → List Char
  | _, [] => []
  | true, c :: rest => skipTrivia (c != '\n') rest
  | false, c :: rest =>
    if isBlank c then skipTrivia false rest
    else if c == '#' then skipTrivia true rest
    else c :: rest

/-- Skip what extended mode ignores. -/
def skip (extended : Bool) (cs : List Char) : List Char :=
  if extended then skipTrivia false cs else cs

/-- The next character after blanks, where the first `#` counts as a blank too. -/
def firstVisible : Bool → List Char → Option Char
  | _, [] => none
  | inComment, c :: rest =>
    if isBlank c then firstVisible inComment rest
    else if c == '#' && !inComment then firstVisible true rest
    else some c

/-- The next character, looking past what extended mode ignores. -/
def peek (extended : Bool) (cs : List Char) : Option Char :=
  if extended then (firstVisible false cs).or cs.head? else cs.head?

/-- Digits, in extended mode also with blanks between them. -/
def decimalDigits (extended : Bool) : Nat → List Char → List Char × List Char
  | 0, cs => ([], cs)
  | _ + 1, [] => ([], [])
  | fuel + 1, c :: rest =>
    if c.isDigit then
      let (ds, rest) := decimalDigits extended fuel (skip extended rest)
      (c :: ds, rest)
    else ([], c :: rest)

/-- A number of turns, between blanks. -/
def count? (extended : Bool) (cs : List Char) : Option (Nat × List Char) :=
  let (ds, rest) := decimalDigits extended cs.length (cs.dropWhile isBlank)
  let n := Decimal.value ds
  if ds.isEmpty || Word.size 32 ≤ n then none
  else
    let rest := if rest.head?.any isBlank then skip extended (rest.dropWhile isBlank) else rest
    some (n, rest)

/-- The value of a hexadecimal digit. -/
def hexDigit? (c : Char) : Option Nat :=
  if c.isDigit then some (c.toNat - 48)
  else if 'a' ≤ c && c ≤ 'f' then some (c.toNat - 87)
  else if 'A' ≤ c && c ≤ 'F' then some (c.toNat - 55)
  else none

/-- The character with the given code point. -/
def charOf? (n : Nat) : Option Char := if n.isValidChar then some (Char.ofNat n) else none

/-- Exactly so many hexadecimal digits after the given value. -/
def hexRun? (extended : Bool) : Nat → Nat → List Char → Option (Nat × List Char)
  | 0, value, cs => some (value, cs)
  | _ + 1, _, [] => none
  | n + 1, value, c :: rest =>
    match hexDigit? c with
    | none => none
    | some d => hexRun? extended n (16 * value + d) (skip extended rest)

/-- Hexadecimal digits up to a closing brace; there must be one. -/
def hexBrace? (extended : Bool) : Nat → Option Nat → List Char → Option (Nat × List Char)
  | 0, _, _ => none
  | _ + 1, _, [] => none
  | fuel + 1, value, c :: rest =>
    if c == '\x7d' then value.map fun v => (v, skip extended rest)
    else
      match hexDigit? c with
      | none => none
      | some d => hexBrace? extended fuel (some (16 * value.getD 0 + d)) (skip extended rest)

/-- A character written by its code point, after the letter that says with how many digits. -/
def hexLiteral? (extended : Bool) (width : Nat) (cs : List Char) : Option (Tree × List Char) :=
  match skip extended cs with
  | [] => none
  | c :: rest =>
    if c == '\x7b' then do
      let rest := skip extended rest
      let (n, rest) ← hexBrace? extended (rest.length + 1) none rest
      let char ← charOf? n
      some (.literal { char }, rest)
    else do
      let (n, rest) ← hexRun? extended width 0 (c :: rest)
      let char ← charOf? n
      some (.literal { char, isHexPair := width == 2 }, rest)

/-- The characters up to a closing brace. -/
def upToBrace? (extended : Bool) : Nat → List Char → List Char → Option (List Char × List Char)
  | 0, _, _ => none
  | _ + 1, _, [] => none
  | fuel + 1, done, c :: rest =>
    if c == '\x7d' then some (done.reverse, rest)
    else upToBrace? extended fuel (c :: done) (skip extended rest)

/-- Cut a list in front of the first place where another list stands, which is dropped. -/
def cutAt? (mark : List Char) : List Char → Option (List Char × List Char)
  | [] => none
  | c :: rest =>
    if mark.isPrefixOf (c :: rest) then some ([], (c :: rest).drop mark.length)
    else (cutAt? mark rest).map fun p => (c :: p.1, p.2)

/-- The name of a property, perhaps with a value after one of three marks, of which `!=` asks for
all other values. -/
def propertyName (cs : List Char) : PropertyName :=
  match cutAt? ['!', '='] cs, (cutAt? [':'] cs).or (cutAt? ['='] cs) with
  | some (name, value), _ => .valued (String.ofList name) true (String.ofList value)
  | none, some (name, value) => .valued (String.ofList name) false (String.ofList value)
  | none, none => .plain (String.ofList cs)

/-- What follows `\p`: one letter or a name in braces. -/
def property? (extended negated : Bool) (cs : List Char) : Option (Tree × List Char) :=
  match skip extended cs with
  | [] => none
  | c :: rest =>
    if c == '\x7b' then do
      let rest := skip extended rest
      let (name, rest) ← upToBrace? extended (rest.length + 1) [] rest
      some (.property negated (propertyName name), rest)
    else if c == '\\' then none
    else some (.property negated (.plain (String.singleton c)), skip extended rest)

/-- The letters and dashes of a boundary's name. -/
def boundaryName (extended : Bool) : Nat → List Char → List Char × List Char
  | 0, cs => ([], cs)
  | _ + 1, [] => ([], [])
  | fuel + 1, c :: rest =>
    if c.isAlpha || c == '-' then
      let (name, rest) := boundaryName extended fuel (skip extended rest)
      (c :: name, rest)
    else ([], c :: rest)

/-- The boundary with the given name. -/
def boundary? (name : List Char) : Option Anchor :=
  if name == "start".toList then some .wordStart
  else if name == "end".toList then some .wordEnd
  else if name == "start-half".toList then some .wordStartHalf
  else if name == "end-half".toList then some .wordEndHalf
  else none

/-- What follows `\b`: a name in braces picks one side of the boundary. A brace before anything
else opens a repetition. -/
def afterBoundary? (extended : Bool) (cs : List Char) : Option (Tree × List Char) :=
  match cs with
  | '\x7b' :: rest =>
    match skip extended rest with
    | [] => none
    | c :: inner =>
      if c.isAlpha || c == '-' then
        match boundaryName extended (inner.length + 1) (c :: inner) with
        | (name, '\x7d' :: rest) => (boundary? name).map fun a => (.anchor a, rest)
        | _ => none
      else some (.anchor .wordBoundary, cs)
  | _ => some (.anchor .wordBoundary, cs)

/-- Whether a character without a meaning of its own may follow a backslash. -/
def isEscapable (c : Char) : Bool := c.toNat < 0x80 && !c.isAlphanum && c != '<' && c != '>'

/-- The control character that a letter after a backslash names. -/
def control? (c : Char) : Option Char :=
  if c == 'a' then some '\x07'
  else if c == 'f' then some '\x0c'
  else if c == 't' then some '\t'
  else if c == 'n' then some '\n'
  else if c == 'r' then some '\r'
  else if c == 'v' then some '\x0b'
  else none

/-- The class that a letter after a backslash names, and whether it is negated. -/
def shorthand? (c : Char) : Option (Bool × Shorthand) :=
  if c == 'd' then some (false, .digit)
  else if c == 'D' then some (true, .digit)
  else if c == 's' then some (false, .space)
  else if c == 'S' then some (true, .space)
  else if c == 'w' then some (false, .word)
  else if c == 'W' then some (true, .word)
  else none

/-- The condition that a character after a backslash names. -/
def anchor? (c : Char) : Option Anchor :=
  if c == 'A' then some .startText
  else if c == 'z' then some .endText
  else if c == 'B' then some .notWordBoundary
  else if c == '<' then some .wordStart
  else if c == '>' then some .wordEnd
  else none

/-- What follows a backslash. -/
def escape? (extended : Bool) : List Char → Option (Tree × List Char)
  | [] => none
  | c :: rest =>
    if c == 'x' then hexLiteral? extended 2 rest
    else if c == 'u' then hexLiteral? extended 4 rest
    else if c == 'U' then hexLiteral? extended 8 rest
    else if c == 'p' || c == 'P' then property? extended (c == 'P') rest
    else if c == 'b' then afterBoundary? extended rest
    else if isEscapable c then some (.literal { char := c }, rest)
    else
      match shorthand? c, control? c, anchor? c with
      | some (negated, kind), _, _ => some (.shorthand negated kind, rest)
      | none, some char, _ => some (.literal { char }, rest)
      | none, none, some a => some (.anchor a, rest)
      | none, none, none => none

/-- The members of the classes that are named between colons. -/
def namedMembers? (name : String) : Option (List (Nat × Nat)) :=
  [ ("alnum", [(0x30, 0x39), (0x41, 0x5A), (0x61, 0x7A)]),
    ("alpha", [(0x41, 0x5A), (0x61, 0x7A)]),
    ("ascii", [(0, 0x7F)]),
    ("blank", [(9, 9), (0x20, 0x20)]),
    ("cntrl", [(0, 0x1F), (0x7F, 0x7F)]),
    ("digit", [(0x30, 0x39)]),
    ("graph", [(0x21, 0x7E)]),
    ("lower", [(0x61, 0x7A)]),
    ("print", [(0x20, 0x7E)]),
    ("punct", [(0x21, 0x2F), (0x3A, 0x40), (0x5B, 0x60), (0x7B, 0x7E)]),
    ("space", [(9, 0xD), (0x20, 0x20)]),
    ("upper", [(0x41, 0x5A)]),
    ("word", [(0x30, 0x39), (0x41, 0x5A), (0x5F, 0x5F), (0x61, 0x7A)]),
    ("xdigit", [(0x30, 0x39), (0x41, 0x46), (0x61, 0x66)]) ].lookup name

/-- A class named between colons, after its opening bracket. -/
def namedClass? : List Char → Option (ClassTerm × List Char)
  | ':' :: rest =>
    let (negated, rest) :=
      match rest with
      | '^' :: tail => (true, tail)
      | _ => (false, rest)
    match rest.dropWhile (· != ':') with
    | ':' :: ']' :: after =>
      (namedMembers? (String.ofList (rest.takeWhile (· != ':')))).map fun members =>
        (.named negated members, after)
    | _ => none
  | _ => none

/-- What opens a class after its bracket: a negation, dashes, and a closing bracket that comes
first, which is a literal. -/
def openClass? (extended : Bool) (cs : List Char) : Option (Bool × List ClassTerm × List Char) :=
  let cs := skip extended cs
  let (negated, cs) :=
    match cs with
    | '^' :: rest => (true, skip extended rest)
    | _ => (false, cs)
  let rec dashes : Nat → List ClassTerm → List Char → List ClassTerm × List Char
    | 0, terms, cs => (terms, cs)
    | fuel + 1, terms, cs =>
      match cs with
      | '-' :: rest => dashes fuel (.literal { char := '-' } :: terms) (skip extended rest)
      | _ => (terms, cs)
  let (terms, cs) := dashes cs.length [] cs
  match terms, cs with
  | _, [] => none
  | [], ']' :: rest =>
    let rest := skip extended rest
    if rest.isEmpty then none else some (negated, [.literal { char := ']' }], rest)
  | _, _ => some (negated, terms, cs)

/-- One item of a class: a character or what a backslash introduces. -/
def classItem? (extended : Bool) : List Char → Option (Tree × List Char)
  | [] => none
  | c :: rest =>
    if c == '\\' then escape? extended rest else some (.literal { char := c }, rest)

/-- An item as a term, if a class can hold it. -/
def itemTerm? : Tree → Option ClassTerm
  | .literal l => some (.literal l)
  | .property negated name => some (.property negated name)
  | .shorthand negated kind => some (.shorthand negated kind)
  | _ => none

/-- A range between two literals, which must not be turned round. -/
def rangeTerm? : Tree → Tree → Option ClassTerm
  | .literal low, .literal high => if low.char ≤ high.char then some (.range low high) else none
  | _, _ => none

/-- An item or a range. A dash before a closing bracket or another dash makes no range. -/
def classRange? (extended : Bool) (cs : List Char) : Option (ClassTerm × List Char) := do
  let (first, rest) ← classItem? extended cs
  match skip extended rest with
  | [] => none
  | '-' :: after =>
    if peek extended after == some ']' || peek extended after == some '-' then
      (itemTerm? first).map fun t => (t, '-' :: after)
    else
      let (second, rest) ← classItem? extended (skip extended after)
      (rangeTerm? first second).map fun t => (t, rest)
  | rest => (itemTerm? first).map fun t => (t, rest)

/-- The operation that two equal characters at the head stand for. -/
def setOp? : List Char → Option (SetOp × List Char)
  | '&' :: '&' :: rest => some (.intersection, rest)
  | '-' :: '-' :: rest => some (.difference, rest)
  | '~' :: '~' :: rest => some (.symmetricDifference, rest)
  | _ => none

/-- Join the terms read since the last operation with what came before it. -/
def joinPending (pending : Option (SetOp × ClassTerm)) (terms : List ClassTerm) : ClassTerm :=
  let right := ClassTerm.ofTerms terms.reverse
  match pending with
  | none => right
  | some (op, left) => .combine op left right

/-- The inside of a class up to its closing bracket. -/
def classBody? (extended : Bool) : Nat → List ClassTerm → Option (SetOp × ClassTerm) →
    List Char → Option (ClassTerm × List Char)
  | 0, _, _, _ => none
  | fuel + 1, terms, pending, cs =>
    match skip extended cs with
    | [] => none
    | '[' :: rest =>
      match namedClass? rest with
      | some (t, rest) => classBody? extended fuel (t :: terms) pending rest
      | none =>
        match openClass? extended rest with
        | none => none
        | some (negated, first, rest) =>
          match classBody? extended fuel first none rest with
          | none => none
          | some (inner, rest) =>
            classBody? extended fuel (.bracketed negated inner :: terms) pending rest
    | ']' :: rest => some (joinPending pending terms, rest)
    | rest =>
      match setOp? rest with
      | some (op, rest) => classBody? extended fuel [] (some (op, joinPending pending terms)) rest
      | none =>
        match classRange? extended rest with
        | none => none
        | some (t, rest) => classBody? extended fuel (t :: terms) pending rest

/-- A class in brackets, after its opening bracket. -/
def class? (extended : Bool) (cs : List Char) : Option (Tree × List Char) := do
  let (negated, first, rest) ← openClass? extended cs
  let (inner, rest) ← classBody? extended (cs.length + 1) first none rest
  some (.bracketed negated inner, rest)

/-- How often something is repeated, and whether it is marked as preferring the other number of
turns. -/
structure Turns where
  /-- The least number of turns. -/
  least : Nat
  /-- The greatest number of turns, if there is one. -/
  most : Option Nat
  /-- Whether the mark is set. -/
  marked : Bool

/-- Turns with the mark, if it follows. -/
def Turns.read (least : Nat) (most : Option Nat) : List Char → Turns × List Char
  | '?' :: rest => (⟨least, most, true⟩, rest)
  | cs => (⟨least, most, false⟩, cs)

/-- The numbers of turns in braces, after the opening one. -/
def turns? (extended : Bool) (cs : List Char) : Option ((Nat × Option Nat) × List Char) := do
  let (least, rest) ← count? extended (skip extended cs)
  match rest with
  | '\x7d' :: rest => some ((least, some least), rest)
  | ',' :: rest =>
    match skip extended rest with
    | '\x7d' :: rest => some ((least, none), rest)
    | rest =>
      let (most, rest) ← count? extended rest
      match rest with
      | '\x7d' :: rest => if least ≤ most then some ((least, some most), rest) else none
      | _ => none
  | _ => none

/-- How often what stands before is repeated, and what follows. -/
def repetition? (extended : Bool) : List Char → Option (Turns × List Char)
  | '?' :: rest => some (Turns.read 0 (some 1) rest)
  | '*' :: rest => some (Turns.read 0 none rest)
  | '+' :: rest => some (Turns.read 1 none rest)
  | '\x7b' :: rest =>
    (turns? extended rest).map fun ((least, most), rest) =>
      Turns.read least most (skip extended rest)
  | _ => none

/-- The flag that a letter names. -/
def flag? (c : Char) : Option Flag :=
  [('i', Flag.ignoreCase), ('m', .multiLine), ('s', .dotAll), ('U', .swapGreed), ('u', .unicode),
    ('R', .crlf), ('x', .extended)].lookup c

/-- Flags up to a colon or a closing parenthesis, which is kept. Each may be set once, and one
dash may stand before those that are switched off. -/
def flags? : Settings → Option Bool → List Char → Option (Settings × List Char)
  | _, _, [] => none
  | settings, dash, c :: rest =>
    if c == ':' || c == ')' then
      if dash == some true then none else some (settings.reverse, c :: rest)
    else if c == '-' then
      if dash.isSome then none else flags? settings (some true) rest
    else
      match flag? c with
      | none => none
      | some f =>
        if (settings.lookup f).isSome then none
        else flags? ((f, dash.isNone) :: settings) (dash.map fun _ => false) rest

/-- Whether a character may stand in a group's name. -/
def isNameChar (first : Bool) (c : Char) : Bool :=
  if first then c == '_' || Text.Repertoire.alphabetic.containsChar c
  else c == '_' || c == '.' || c == '[' || c == ']' || Text.Repertoire.alphanumeric.containsChar c

/-- The name of a group up to its closing angle. -/
def groupName? (cs : List Char) : Option (String × List Char) :=
  let name := cs.takeWhile (· != '>')
  match name, cs.dropWhile (· != '>') with
  | c :: more, _ :: rest =>
    if isNameChar true c && more.all (isNameChar false) then some (String.ofList name, rest)
    else none
  | _, _ => none

/-- Where reading stands: the mode, the group names in use, and the rest of the text. -/
structure Cursor where
  /-- Whether blanks and comments are skipped. -/
  extended : Bool
  /-- Names of groups so far. -/
  names : List String
  /-- What is still to be read. -/
  rest : List Char

/-- How an opening parenthesis goes on. -/
inductive Opening where
  /-- Flags for the rest of the enclosing group. -/
  | flags (settings : Settings)
  /-- A group. -/
  | group (captures : Bool) (settings : Settings)

/-- What follows an opening parenthesis. -/
def opening? (cur : Cursor) : Option (Opening × Cursor) :=
  let named (cs : List Char) : Option (Opening × Cursor) :=
    (groupName? cs).bind fun (name, rest) =>
      if cur.names.contains name then none
      else some (.group true [], { cur with names := name :: cur.names, rest })
  match skip cur.extended cur.rest with
  | '?' :: '=' :: _ | '?' :: '!' :: _ | '?' :: '<' :: '=' :: _ | '?' :: '<' :: '!' :: _ => none
  | '?' :: 'P' :: '<' :: rest => named rest
  | '?' :: '<' :: rest => named rest
  | '?' :: rest =>
    match flags? [] none rest with
    | some (settings, ')' :: rest) =>
      if settings.isEmpty then none else some (.flags settings, { cur with rest })
    | some (settings, _ :: rest) => some (.group false settings, { cur with rest })
    | _ => none
  | rest => some (.group true [], { cur with rest })

/-- The mode after some settings. -/
def modeAfter (extended : Bool) (settings : Settings) : Bool :=
  (settings.state? .extended).getD extended

/-- One literal, class or condition. -/
def primitive? (extended : Bool) : List Char → Option (Tree × List Char)
  | [] => none
  | c :: rest =>
    if c == '\\' then escape? extended rest
    else if c == '[' then class? extended rest
    else if c == '.' then some (.dot, rest)
    else if c == '^' then some (.anchor .startLine, rest)
    else if c == '$' then some (.anchor .endLine, rest)
    else some (.literal { char := c }, rest)

/-- The alternatives of a group, of which the last one and its parts were read last. -/
def finish (branches parts : List Tree) : Tree :=
  Tree.ofBranches (Tree.ofParts parts.reverse :: branches).reverse

/-- The alternatives of a group up to its closing parenthesis, which is kept. -/
def body? : Nat → Cursor → List Tree → List Tree → Option (Tree × Cursor)
  | 0, _, _, _ => none
  | fuel + 1, cur, branches, parts =>
    match skip cur.extended cur.rest with
    | [] => some (finish branches parts, { cur with rest := [] })
    | ')' :: rest => some (finish branches parts, { cur with rest := ')' :: rest })
    | '|' :: rest => body? fuel { cur with rest } (Tree.ofParts parts.reverse :: branches) []
    | '(' :: rest =>
      match opening? { cur with rest } with
      | none => none
      | some (.flags settings, cur) =>
        body? fuel { cur with extended := modeAfter cur.extended settings } branches
          (.flags settings :: parts)
      | some (.group captures settings, cur) =>
        match body? fuel { cur with extended := modeAfter cur.extended settings } [] [] with
        | none => none
        | some (inner, after) =>
          match after.rest with
          | ')' :: rest =>
            body? fuel { after with extended := cur.extended, rest } branches
              (.group captures settings inner :: parts)
          | _ => none
    | rest =>
      match repetition? cur.extended rest, rest with
      | some (turns, rest), _ =>
        match parts with
        | [] => none
        | last :: parts =>
          if last.isRepeatable then
            body? fuel { cur with rest } branches
              (.repetition last turns.least turns.most turns.marked :: parts)
          else none
      | none, '\x7b' :: _ => none
      | none, _ =>
        match primitive? cur.extended rest with
        | none => none
        | some (t, rest) => body? fuel { cur with rest } branches (t :: parts)

end Reader

/-- How deeply the parts of an expression may be nested. -/
def nestLimit : Nat := 250

/-- The expression that a text holds, if the text is well formed and not nested too deeply. -/
def Tree.ofText? (s : String) : Option Tree := do
  let cs := s.toList
  let (tree, after) ← Reader.body? (cs.length + 1) ⟨false, [], cs⟩ [] []
  if after.rest.isEmpty && tree.depth ≤ nestLimit then some tree else none

end TopicBroker.Regex
