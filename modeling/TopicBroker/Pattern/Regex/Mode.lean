import TopicBroker.Pattern.Regex.Expr
import TopicBroker.Pattern.Regex.Syntax
import TopicBroker.Text.CaseFold
import TopicBroker.Text.PropertyName

/-!
# Interpretation of regular expressions

What a regular expression as written stands for depends on the flags in force. Interpreting it fails
where a class would leave the characters: a property in a group without Unicode, or a set of bytes
that reaches beyond ASCII.
-/

namespace TopicBroker.Regex

open Text

/-- The flags that are in force. -/
structure Mode where
  /-- Letters match in either case. -/
  ignoreCase : Bool := false
  /-- The line anchors match at every line. -/
  multiLine : Bool := false
  /-- The dot matches a line end too. -/
  dotAll : Bool := false
  /-- Repetitions prefer the fewest turns. -/
  swapGreed : Bool := false
  /-- Classes range over all characters. -/
  unicode : Bool := true
  /-- A carriage return before a line feed belongs to the line end. -/
  crlf : Bool := false

/-- The mode after some settings. -/
def Mode.apply (m : Mode) (settings : Settings) : Mode :=
  { ignoreCase := (settings.state? .ignoreCase).getD m.ignoreCase
    multiLine := (settings.state? .multiLine).getD m.multiLine
    dotAll := (settings.state? .dotAll).getD m.dotAll
    swapGreed := (settings.state? .swapGreed).getD m.swapGreed
    unicode := (settings.state? .unicode).getD m.unicode
    crlf := (settings.state? .crlf).getD m.crlf }

namespace Mode

/-- The members of a set and, if case is ignored, all that differ from one in case only. -/
def fold (m : Mode) (s : CodeSet) : CodeSet :=
  if !m.ignoreCase then s
  else if m.unicode then CaseFold.close s
  else CaseFold.closeAscii s

/-- A set or its complement. Without Unicode the complement is taken among the bytes, and a set
that reaches beyond ASCII is refused. -/
def negate? (m : Mode) (negated : Bool) (s : CodeSet) : Option CodeSet :=
  if m.unicode then some (if negated then s.complement else s)
  else
    let s := if negated then s.complementUpTo 0xFF else s
    if s.below 0x80 then some s else none

/-- Fold first, then negate. -/
def foldNegate? (m : Mode) (negated : Bool) (s : CodeSet) : Option CodeSet :=
  m.negate? negated (m.fold s)

/-- The members of a class that is named by one letter. -/
def shorthand? (m : Mode) (negated : Bool) (kind : Shorthand) : Option CodeSet :=
  m.negate? negated <|
    match kind, m.unicode with
    | .digit, true => Category.decimalNumber
    | .space, true => Property.whiteSpace
    | .word, true => Property.word
    | .digit, false => .ofRanges [(0x30, 0x39)]
    | .space, false => .ofRanges [(9, 0xD), (0x20, 0x20)]
    | .word, false => .ofRanges [(0x30, 0x39), (0x41, 0x5A), (0x5F, 0x5F), (0x61, 0x7A)]

/-- The members of a class that is named by a property. -/
def property? (m : Mode) (negated : Bool) (name : PropertyName) : Option CodeSet :=
  if !m.unicode then none
  else
    match name with
    | .plain name => (Text.PropertyName.members? name).bind (m.foldNegate? negated)
    | .valued name differs value =>
      (Text.PropertyName.valueMembers? name value).bind (m.foldNegate? (negated != differs))

/-- The code point of a literal in a class, which is ASCII where Unicode is off. -/
def classCode? (m : Mode) (l : Literal) : Option Nat :=
  if m.unicode || l.char.toNat < 0x80 then some l.char.toNat else none

/-- The two sets that an operation takes, folded, and its result. -/
def combine (m : Mode) (op : SetOp) (left right : CodeSet) : CodeSet :=
  match op with
  | .intersection => (m.fold left).inter (m.fold right)
  | .difference => (m.fold left).diff (m.fold right)
  | .symmetricDifference => (m.fold left).symmDiff (m.fold right)

mutual

/-- The members of a term, before folding. -/
def term? (m : Mode) : ClassTerm → Option CodeSet
  | .empty => some .empty
  | .literal l => (m.classCode? l).map .single
  | .range low high => do
    let a ← m.classCode? low
    let b ← m.classCode? high
    some (.range a b)
  | .named negated members => m.foldNegate? negated (.ofRanges members)
  | .property negated name => m.property? negated name
  | .shorthand negated kind => m.shorthand? negated kind
  | .bracketed negated inner => (m.term? inner).bind (m.foldNegate? negated)
  | .union terms => (m.terms? terms).map .unions
  | .combine op left right => do
    let a ← m.term? left
    let b ← m.term? right
    some (m.combine op a b)

/-- The members of each of several terms. -/
def terms? (m : Mode) : List ClassTerm → Option (List CodeSet)
  | [] => some []
  | t :: rest => do
    let s ← m.term? t
    let sets ← m.terms? rest
    some (s :: sets)

end

/-- One literal character. Without Unicode a byte beyond ASCII is refused. -/
def literal? (m : Mode) (l : Literal) : Option Expr :=
  let code := l.char.toNat
  if !m.unicode && 0x80 ≤ code then if l.isHexPair then none else some (.literal [l.char])
  else if m.ignoreCase then some (.ofSet (m.fold (.single code)))
  else some (.literal [l.char])

/-- Any character, or any that does not end a line. -/
def dot? (m : Mode) : Option Expr :=
  if !m.unicode then none
  else if m.dotAll then some (.ofSet .all)
  else if m.crlf then some (.ofSet (CodeSet.ofRanges [(0xA, 0xA), (0xD, 0xD)]).complement)
  else some (.ofSet (CodeSet.single 0xA).complement)

/-- The condition that an anchor stands for. -/
def look (m : Mode) : Anchor → Look
  | .startLine => if m.multiLine then .lineStart m.crlf else .start
  | .endLine => if m.multiLine then .lineEnd m.crlf else .finish
  | .startText => .start
  | .endText => .finish
  | .wordBoundary => .boundary m.unicode
  | .notWordBoundary => .notBoundary m.unicode
  | .wordStart => .wordStart m.unicode
  | .wordEnd => .wordEnd m.unicode
  | .wordStartHalf => .noWordBefore m.unicode
  | .wordEndHalf => .noWordAfter m.unicode

mutual

/-- The expression that a tree stands for, and the mode for what follows in the same group. -/
def expr? (m : Mode) : Tree → Option (Expr × Mode)
  | .empty => some (.empty, m)
  | .flags settings => some (.empty, m.apply settings)
  | .literal l => (m.literal? l).map (·, m)
  | .dot => m.dot?.map (·, m)
  | .anchor a => some (.look (m.look a), m)
  | .property negated name => (m.property? negated name).map fun s => (.ofSet s, m)
  | .shorthand negated kind => (m.shorthand? negated kind).map fun s => (.ofSet s, m)
  | .bracketed negated inner =>
    ((m.term? inner).bind (m.foldNegate? negated)).map fun s => (.ofSet s, m)
  | .repetition body least most marked => do
    let (e, m) ← m.expr? body
    some (e.repeated least most (marked == m.swapGreed), m)
  | .group captures settings body => do
    let (e, _) ← (m.apply settings).expr? body
    some (if captures then .capture e else e, m)
  | .alternation branches => do
    let (es, m) ← m.exprs? branches
    some (.oneOf es, m)
  | .concat parts => do
    let (es, m) ← m.exprs? parts
    some (.sequence es, m)

/-- The expressions that several trees stand for, each read in the mode that the one before it
left. -/
def exprs? (m : Mode) : List Tree → Option (List Expr × Mode)
  | [] => some ([], m)
  | t :: rest => do
    let (e, m) ← m.expr? t
    let (es, m) ← m.exprs? rest
    some (e :: es, m)

end

end Mode

/-- The expression that a tree stands for. -/
def Expr.ofTree? (t : Tree) : Option Expr := (({} : Mode).expr? t).map (·.1)

end TopicBroker.Regex
