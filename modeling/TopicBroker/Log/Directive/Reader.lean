import TopicBroker.Log.Directive
import TopicBroker.Text.Blank
import TopicBroker.Text.Repertoire

/-!
# Reading log directives

A directive is a level alone, a target alone, or a target, a span with a field in brackets, or both
of them, behind which a level may follow after an equals sign. Without a level everything is
written.

Where the parts lie is found in the text without the blanks around it; the parts are then cut out of
the whole text at these places, which are counted in bytes.
-/

namespace TopicBroker

/-- Why a text is no directive. -/
inductive DirectiveError where
  /-- The parts do not fit together. -/
  | malformed
  /-- The level has no such name. -/
  | unknownLevel
  /-- The field asks for a pattern that cannot be read. -/
  | invalidField
  deriving Repr, DecidableEq, Inhabited

/-- The error as a text. -/
def DirectiveError.message : DirectiveError → String
  | .malformed => "invalid filter directive"
  | .unknownLevel =>
    "error parsing level filter: expected one of \"off\", \"error\", \"warn\", \"info\", " ++
      "\"debug\", \"trace\", or a number 0-5"
  | .invalidField => "invalid field filter: <error>"

namespace LogDirective

/-- The length of a text in bytes. -/
def byteCount (cs : List Char) : Nat := cs.foldl (fun n c => n + c.utf8Size) 0

/-- Drop so many bytes, if no character is cut in two. -/
def dropBytes? : Nat → List Char → Option (List Char)
  | 0, cs => some cs
  | _ + 1, [] => none
  | n + 1, c :: cs => if c.utf8Size ≤ n + 1 then dropBytes? (n + 1 - c.utf8Size) cs else none

/-- Take so many bytes, if no character is cut in two. -/
def takeBytes? : Nat → List Char → Option (List Char)
  | 0, _ => some []
  | _ + 1, [] => none
  | n + 1, c :: cs =>
    if c.utf8Size ≤ n + 1 then (takeBytes? (n + 1 - c.utf8Size) cs).map (c :: ·) else none

/-- A stretch of a text: its first byte and the one behind its last. -/
structure Extent where
  /-- The first byte. -/
  first : Nat
  /-- The byte behind the last. -/
  last : Nat
  deriving Repr, DecidableEq

/-- The text in an extent. -/
def Extent.cut? (e : Extent) (cs : List Char) : Option String :=
  ((dropBytes? e.first cs).bind (takeBytes? (e.last - e.first))).map String.ofList

/-- Where the parts of a directive lie. -/
structure Outline where
  /-- The target. -/
  target : Option Extent := none
  /-- The span. -/
  span : Option Extent := none
  /-- The field. -/
  field : Option Extent := none
  /-- The first byte of the level. -/
  level : Option Nat := none
  deriving Repr, DecidableEq

/-- Whether a directive may start with a character, apart from a bracket. -/
def canStart (c : Char) : Bool :=
  c.isAlphanum || c == '-' || c == ':' || c == '_' || Text.Repertoire.alphanumeric.containsChar c

/-- The part behind the brackets, which starts at the given byte. -/
def levelOutline? (o : Outline) (start : Nat) : List Char → Option Outline
  | [] => some o
  | '=' :: _ => some { o with level := some (start + 1) }
  | _ => none

/-- The part behind an opening brace, which starts at the given byte. -/
def fieldOutline? (o : Outline) (start : Nat) (cs : List Char) : Option Outline :=
  let field := cs.takeWhile (· != '\x7d')
  let last := start + byteCount field
  match field, cs.drop field.length with
  | _ :: _, '\x7d' :: ']' :: rest =>
    levelOutline? { o with field := some ⟨start, last⟩ } (last + 2) rest
  | _, _ => none

/-- The part behind an opening bracket, which starts at the given byte. -/
def spanOutline? (o : Outline) (start : Nat) (cs : List Char) : Option Outline :=
  let name := cs.takeWhile fun c => c != ']' && c != '\x7b'
  let last := start + byteCount name
  match cs.drop name.length with
  | ']' :: rest => levelOutline? { o with span := some ⟨start, last⟩ } (last + 1) rest
  | '\x7b' :: rest =>
    let span := if name.isEmpty then none else some ⟨start, last⟩
    fieldOutline? { o with span } (last + 1) rest
  | _ => none

/-- Where the parts of a text lie; without any sign between them, nowhere. -/
def outline? : List Char → Option (Option Outline)
  | [] => none
  | '[' :: rest => (spanOutline? {} 1 rest).map some
  | c :: rest =>
    if canStart c then
      let head := (c :: rest).takeWhile fun c => c != '=' && c != '['
      let target : Outline := { target := some ⟨0, byteCount head⟩ }
      match (c :: rest).drop head.length with
      | [] => some none
      | '=' :: _ => some (some { target with level := some (byteCount head + 1) })
      | _ :: tail => (spanOutline? target (byteCount head + 1) tail).map some
    else none

/-- The part of a text in an extent, if there is one. -/
def part (cs : List Char) : Option Extent → Except DirectiveError (Option String)
  | none => .ok none
  | some e =>
    match e.cut? cs with
    | some s => .ok (some s)
    | none => .error .malformed

/-- The threshold that a text stands for; an empty one lets everything through. -/
def readLevel (s : String) : Except DirectiveError LogThreshold :=
  if s.isEmpty then .ok (.upTo .trace)
  else
    match LogThreshold.ofText? s with
    | some t => .ok t
    | none => .error .unknownLevel

/-- The field that a text asks for. -/
def readField : Option String → Except DirectiveError (Option FieldMatch)
  | none => .ok none
  | some s =>
    match FieldMatch.ofText? s with
    | some m => .ok (some m)
    | none => .error .invalidField

/-- The directive whose parts lie in a text as outlined. -/
def ofOutline (cs : List Char) (o : Outline) : Except DirectiveError LogDirective := do
  let target ← part cs o.target
  let span ← part cs o.span
  let field ← readField (← part cs o.field)
  let level ← part cs (o.level.map fun first => ⟨first, byteCount cs⟩)
  let threshold ← readLevel (level.getD "")
  return { target, span, field, threshold }

/-- The directive of a text without any sign in it: a level or, failing that, a target. -/
def ofWord (s : String) : LogDirective :=
  match LogThreshold.ofText? s with
  | some threshold => { threshold }
  | none => { target := some s }

/-- The directive that a text spells out. -/
def ofText (s : String) : Except DirectiveError LogDirective :=
  match outline? (Text.trimChars s.toList) with
  | none => .error .malformed
  | some none => .ok (ofWord s)
  | some (some o) => ofOutline s.toList o

end LogDirective

end TopicBroker
