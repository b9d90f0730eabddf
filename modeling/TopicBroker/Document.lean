import TopicBroker.Number.Shortest
import TopicBroker.Text.Quoted

/-!
# Documents

Values of a self-describing data format: the form in which settings, requests and answers are
written. A map keeps its fields in increasing order of their names.
-/

namespace TopicBroker

/-- A value of a self-describing data format. -/
inductive Document where
  /-- No value. -/
  | null
  /-- A truth value. -/
  | bool (value : Bool)
  /-- An integer. -/
  | int (value : Int)
  /-- A number with a fraction or an exponent. -/
  | float (value : Binary64)
  /-- A text. -/
  | text (value : String)
  /-- Values in order. -/
  | list (items : List Document)
  /-- Values by name. -/
  | map (fields : List (String × Document))
  deriving Inhabited

namespace Document

/-- The value of a text in a document, if it is one. -/
def text? : Document → Option String
  | .text s => some s
  | _ => none

/-- The truth value, if the document is one. -/
def bool? : Document → Option Bool
  | .bool b => some b
  | _ => none

/-- The integer, if the document is one. -/
def int? : Document → Option Int
  | .int i => some i
  | _ => none

/-- The items, if the document is a list. -/
def list? : Document → Option (List Document)
  | .list items => some items
  | _ => none

/-- The fields of a map; any other value has none. -/
def fields : Document → List (String × Document)
  | .map fields => fields
  | _ => []

/-- The value of a field that is present and not null. -/
def field? (d : Document) (name : String) : Option Document :=
  match d.fields.lookup name with
  | none | some .null => none
  | some value => some value

/-- The items of a field that holds a list; without such a field there are none. -/
def items (d : Document) (name : String) : List Document := ((d.field? name).bind list?).getD []

/-- The text of a field; without such a field it is empty. -/
def textAt (d : Document) (name : String) : String := ((d.field? name).bind text?).getD ""

/-- The text of a field, if it holds one. -/
def textAt? (d : Document) (name : String) : Option String := (d.field? name).bind text?

/-- Whether a field holds true. -/
def flagAt (d : Document) (name : String) : Bool := ((d.field? name).bind bool?).getD false

/-- The integer of a field, if it holds one. -/
def intAt? (d : Document) (name : String) : Option Int := (d.field? name).bind int?

/-- A text or, without one, null. -/
def optional : Option String → Document
  | none => .null
  | some s => .text s

/-- A natural number. -/
def ofNat (n : Nat) : Document := .int n

/-- A list of texts. -/
def texts (items : List String) : Document := .list (items.map .text)

/-- Put a field into its place; a field of the same name is replaced. -/
def insertField (name : String) (value : Document) :
    List (String × Document) → List (String × Document)
  | [] => [(name, value)]
  | (n, v) :: rest =>
    if name == n then (name, value) :: rest
    else if name < n then (name, value) :: (n, v) :: rest
    else (n, v) :: insertField name value rest

/-- The map with the given fields; of two fields of one name the later counts. -/
def ofFields (fields : List (String × Document)) : Document :=
  .map (fields.foldl (fun acc f => insertField f.1 f.2 acc) [])

/-- How a message names a value that was not expected. -/
def describe : Document → String
  | .null => "null"
  | .bool b => "boolean `" ++ (if b then "true" else "false") ++ "`"
  | .int i => "integer `" ++ Decimal.ofInt i ++ "`"
  | .float x => "floating point `" ++ x.toCompactText ++ "`"
  | .text s => "string " ++ Text.quote s
  | .list _ => "sequence"
  | .map _ => "map"

/-- A field that was just put in is found. -/
theorem lookup_insertField_self (name : String) (value : Document)
    (fields : List (String × Document)) :
    (insertField name value fields).lookup name = some value := by
  induction fields with
  | nil => simp [insertField]
  | cons f rest ih =>
    obtain ⟨n, v⟩ := f
    unfold insertField
    split
    · simp
    · next h =>
      split
      · simp
      · simpa [List.lookup_cons, h] using ih

end Document

end TopicBroker
