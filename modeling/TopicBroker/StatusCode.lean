import TopicBroker.Document.Refusal
import TopicBroker.Log.Record
import TopicBroker.Number.Word

/-!
# Status codes

A status code says in one number what kind of error there is: below 1000 there is none, codes from
1000 on concern the program as a whole and its configuration, codes from 2000 on topics and
handlers. Only a few of the numbers are codes.
-/

namespace TopicBroker

/-- What kind of error there is. -/
inductive StatusCode where
  /-- There is no error. -/
  | success
  /-- The kind is not known. -/
  | unknown
  /-- Something is not supported. -/
  | unsupported
  /-- Something failed inside of the program. -/
  | internal
  /-- The caller gave a value that is not allowed. -/
  | invalidArgs
  /-- The configuration does not allow this. -/
  | invalidConfig
  /-- Something is not there. -/
  | notFound
  deriving Repr, DecidableEq, Inhabited

namespace StatusCode

/-- The number of a code. -/
def code : StatusCode → UInt32
  | .success => 0
  | .unknown => 1000
  | .unsupported => 1001
  | .internal => 1003
  | .invalidArgs => 1004
  | .invalidConfig => 1006
  | .notFound => 2000

/-- All codes in increasing order of their numbers. -/
def all : List StatusCode :=
  [.success, .unknown, .unsupported, .internal, .invalidArgs, .invalidConfig, .notFound]

/-- The code with a number. -/
def ofCode? (n : UInt32) : Option StatusCode := all.find? fun s => s.code == n

/-- Every code is listed. -/
theorem mem_all (s : StatusCode) : s ∈ all := by cases s <;> decide

/-- A code is found by its number. -/
@[simp] theorem ofCode?_code (s : StatusCode) : ofCode? s.code = some s := by cases s <;> decide

/-- A code that is found has the number that was looked for. -/
theorem code_of_ofCode? {n : UInt32} {s : StatusCode} (h : ofCode? n = some s) : s.code = n := by
  simpa using List.find?_some h

/-- Why a number is no code. -/
def unknownMessage (n : UInt32) : String :=
  "No discriminant in enum `StatusCode` matches the value `" ++ Decimal.ofNat n.toNat ++ "`"

/-- The name of a code in diagnostic texts. -/
def name : StatusCode → String
  | .success => "Success"
  | .unknown => "Unknown"
  | .unsupported => "Unsupported"
  | .internal => "Internal"
  | .invalidArgs => "InvalidArgs"
  | .invalidConfig => "InvalidConfig"
  | .notFound => "NotFound"

/-- A code as a text: its name and its number. -/
def describe (s : StatusCode) : String := s.name ++ " (" ++ Decimal.ofNat s.code.toNat ++ ")"

/-- Whether a number says that there is no error. -/
def isSuccess (n : UInt32) : Bool := n == success.code

/-- Whether the caller made the error. -/
def isClientError (s : StatusCode) : Bool :=
  (2000 ≤ s.code && s.code ≤ 2999) || s == .invalidArgs

/-- Whether the program or its configuration is at fault. -/
def isServerError (s : StatusCode) : Bool :=
  (1000 ≤ s.code && s.code ≤ 1999) && s != .invalidArgs

/-- The level at which an error of this kind is logged. -/
def logLevel : StatusCode → LogLevel
  | .success => .trace
  | .notFound => .debug
  | .invalidArgs => .info
  | .invalidConfig | .internal => .error
  | .unknown | .unsupported => .warn

/-- Whether texts of this kind of error are kept from callers. -/
def isHidden : StatusCode → Bool
  | .unknown | .internal => true
  | _ => false

/-- The numbers of all codes, as a text. -/
def allCodes : String := ", ".intercalate (all.map fun s => Decimal.ofNat s.code.toNat)

/-- The code that a document holds as its number. -/
def ofDocument : Document → Except Refusal StatusCode
  | .int i =>
    if Word.holds 32 i then
      match ofCode? (UInt32.ofNat i.toNat) with
      | some s => .ok s
      | none => .error ("invalid value: " ++ Decimal.ofInt i ++ ", expected one of: " ++ allCodes)
    else .error ((Document.int i).outOfRange "u32")
  | d => .error (d.refused "u32")

end StatusCode

end TopicBroker
