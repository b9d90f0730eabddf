import TopicBroker.Pattern.Glob.Token

/-!
# Reading glob patterns

From the text of a glob pattern to its tokens: `?` and `*` for one and any number of bytes,
classes in square brackets, choices in braces, and a backslash before a character that is meant
literally. Classes know no escapes.
-/

namespace TopicBroker.Glob.Reader

/-- Whether a character separates the components of a path. -/
def isSeparator (c : Char) : Bool := c == '/'

/-- What has been read: the sequences under construction, the innermost first and each last token
first, and for every open brace the number of sequences outside it. -/
structure State where
  /-- The sequences under construction. -/
  branches : List (List Token) := [[]]
  /-- Sequences outside each open brace, the innermost brace first. -/
  outside : List Nat := []

namespace State

/-- Add a token to the current sequence. -/
def push (s : State) (t : Token) : State :=
  match s.branches with
  | [] => { s with branches := [[t]] }
  | b :: rest => { s with branches := (t :: b) :: rest }

/-- Start a sequence. -/
def startBranch (s : State) : State := { s with branches := [] :: s.branches }

/-- Open a brace. -/
def openChoice (s : State) : State :=
  { s.startBranch with outside := s.branches.length :: s.outside }

/-- Close the innermost brace, if one is open. -/
def closeChoice? (s : State) : Option State :=
  match s.outside with
  | [] => none
  | n :: outside =>
    let count := s.branches.length - n
    let inner := (s.branches.take count).reverse.map List.reverse
    some (push { branches := s.branches.drop count, outside } (.choice inner))

/-- Whether the current sequence has no token yet. -/
def atStart (s : State) : Bool := s.branches.head?.all List.isEmpty

/-- Whether more than one sequence is under construction. -/
def inChoice (s : State) : Bool := 2 ≤ s.branches.length

/-- Replace the last token, which a path token takes with it, by a path token. -/
def pushPath (s : State) (path : Token) : State :=
  match s.branches with
  | (t :: b) :: rest =>
    match t with
    | .leadingPath | .trailingPath => s
    | _ => { s with branches := (path :: b) :: rest }
  | _ => s.push path

end State

/-- What two stars stand for, given the character before them and the text after them. Only a
whole component of a path has a meaning of its own; the last character read is returned too. -/
def doubleStar (s : State) (before : Option Char) (rest : List Char) :
    State × Char × List Char :=
  let plain := ((s.push .many).push .many, '*', rest)
  if s.atStart then
    match rest with
    | [] => (s.push .leadingPath, '*', [])
    | c :: tail => if isSeparator c then (s.push .leadingPath, c, tail) else plain
  else if !before.any isSeparator &&
      !(s.inChoice && (before == some ',' || before == some '\x7b')) then plain
  else
    match rest with
    | [] => (s.pushPath .trailingPath, '*', [])
    | c :: tail =>
      if (c == ',' || c == '\x7d') && s.inChoice then (s.pushPath .trailingPath, '*', rest)
      else if isSeparator c then (s.pushPath .innerPath, c, tail)
      else plain

/-- The ranges of a class, last first, and whether a dash waits for the end of a range. -/
structure Ranges where
  /-- First and last character of each range. -/
  done : List (Char × Char) := []
  /-- Whether a dash was read after the last range. -/
  dash : Bool := false

/-- Add a character to a class: it ends a range or stands alone. -/
def Ranges.add? (r : Ranges) (c : Char) : Option Ranges :=
  match r.dash, r.done with
  | true, (low, _) :: rest => if c < low then none else some ⟨(low, c) :: rest, false⟩
  | _, done => some ⟨(c, c) :: done, false⟩

/-- The inside of a class up to its closing bracket, which is a literal where it comes first. -/
def classRanges? : Bool → Ranges → List Char → Option (List (Char × Char) × List Char)
  | _, _, [] => none
  | first, r, c :: rest =>
    if c == ']' && !first then
      some ((if r.dash then ('-', '-') :: r.done else r.done).reverse, rest)
    else if c == '-' && !first && !r.dash then classRanges? false { r with dash := true } rest
    else
      match r.add? c with
      | none => none
      | some r => classRanges? false r rest

/-- The byte ranges of a range of characters. The bytes of each end stand for themselves, but the
last of the first end and the first of the second are the ends of a range. -/
def byteRanges (range : Char × Char) : List (UInt8 × UInt8) :=
  let alone (bytes : List UInt8) := bytes.map fun b => (b, b)
  let low := charBytes range.1
  let high := charBytes range.2
  if range.1 == range.2 then alone low
  else alone low.dropLast ++ (low.getLast?.toList.zip high.head?.toList) ++ alone high.tail

/-- A class after its opening bracket. -/
def class? (cs : List Char) : Option (Token × List Char) :=
  let (negated, cs) :=
    match cs with
    | '!' :: rest | '^' :: rest => (true, rest)
    | _ => (false, cs)
  (classRanges? true {} cs).map fun (ranges, rest) =>
    (.oneOf negated (ranges.flatMap byteRanges), rest)

/-- Read the rest of a pattern; each step takes a character, so its length bounds the fuel. -/
def read? : Nat → State → Option Char → List Char → Option State
  | 0, s, _, _ => some s
  | _ + 1, s, _, [] => some s
  | fuel + 1, s, before, c :: rest =>
    if c == '?' then read? fuel (s.push .any) (some c) rest
    else if c == '*' then
      match rest with
      | '*' :: rest =>
        let (s, last, rest) := doubleStar s before rest
        read? fuel s (some last) rest
      | _ => read? fuel (s.push .many) (some c) rest
    else if c == '[' then
      match class? rest with
      | none => none
      | some (t, rest) => read? fuel (s.push t) (some ']') rest
    else if c == '\x7b' then read? fuel s.openChoice (some c) rest
    else if c == '\x7d' then
      match s.closeChoice? with
      | none => none
      | some s => read? fuel s (some c) rest
    else if c == ',' && !s.outside.isEmpty then read? fuel s.startBranch (some c) rest
    else if c == '\\' then
      match rest with
      | [] => none
      | d :: rest => read? fuel (s.push (.ofChar d)) (some d) rest
    else read? fuel (s.push (.ofChar c)) (some c) rest

end TopicBroker.Glob.Reader
