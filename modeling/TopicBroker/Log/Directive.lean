import TopicBroker.Log.Directive.Field
import TopicBroker.Log.Threshold

/-!
# Log directives

A directive says up to which level records are written that come from a certain part of the program,
belong to a certain span of work, or have a certain field. Of several directives the most specific
one decides: first the one with the longest target, then one that asks for a span, then one that
asks for a field.
-/

namespace TopicBroker

/-- A rule that says which records are written. -/
structure LogDirective where
  /-- The start of the names of the parts of the program that it is about; without it, all. -/
  target : Option String := none
  /-- The span of work that it is about. -/
  span : Option String := none
  /-- The field that it is about. -/
  field : Option FieldMatch := none
  /-- Up to which level records are written. -/
  threshold : LogThreshold := .upTo .trace
  deriving Repr, DecidableEq, Inhabited

namespace LogDirective

/-- Whether a directive is about more than targets: spans or fields. -/
def isDynamic (d : LogDirective) : Bool := d.span.isSome || d.field.isSome

/-- Whether a directive can be decided for a record alone: it asks for no span and no value. -/
def isStatic (d : LogDirective) : Bool :=
  d.span.isNone && d.field.all fun m => m.value.isNone

/-- Whether a directive asks for the value of a field. -/
def asksValue (d : LogDirective) : Bool := d.field.any fun m => m.value.isSome

/-- What a directive asks of spans and fields, as a text. -/
def scopeText (d : LogDirective) : String :=
  if d.isDynamic then
    let field := (d.field.map fun m => "\x7b" ++ m.describe ++ "\x7d").getD ""
    "[" ++ d.span.getD "" ++ field ++ "]"
  else ""

/-- The directive as a text. -/
def describe (d : LogDirective) : String :=
  let about := d.target.getD "" ++ d.scopeText
  let sign := if d.target.isSome || d.isDynamic then "=" else ""
  about ++ sign ++ d.threshold.name

/-- The length of the target in bytes. -/
def targetLength (d : LogDirective) : Option Nat := d.target.map String.utf8ByteSize

/-- The order of two fields, of which either may be missing. -/
def fieldOrder : Option FieldMatch → Option FieldMatch → Ordering
  | some m, some n => m.order n
  | none, none => .eq
  | none, some _ => .lt
  | some _, none => .gt

/-- The order of specificity; of equally specific directives the texts decide. -/
def order (d e : LogDirective) : Ordering :=
  (compare d.targetLength e.targetLength).then <|
    (compare d.span.isSome e.span.isSome).then <|
      (compare d.field.isSome e.field.isSome).then <|
        (compare d.target e.target).then <|
          (compare d.span e.span).then (fieldOrder d.field e.field)

/-- Put a directive into its place, the most specific first; one that is about the same is
replaced. -/
def insert (d : LogDirective) : List LogDirective → List LogDirective
  | [] => [d]
  | e :: rest =>
    match d.order e with
    | .gt => d :: e :: rest
    | .eq => d :: rest
    | .lt => e :: insert d rest

/-- Whether a directive is about a target. -/
def coversTarget (d : LogDirective) (target : String) : Bool :=
  d.target.all fun start => start.toList.isPrefixOf target.toList

/-- Whether a directive is about the records of a target that have the given fields. -/
def covers (d : LogDirective) (target : String) (fields : List String) : Bool :=
  d.coversTarget target && d.field.all fun m => fields.contains m.name

end LogDirective

end TopicBroker
