import TopicBroker.Document.Printer
import TopicBroker.Log.Ansi
import TopicBroker.Log.Config

/-!
# Layouts of log records

A record is written on one line, or on several lines that end with an empty one, or as a document.
What differs from run to run, the time and the place in the program, is written as a word that
stands for it.
-/

namespace TopicBroker

/-- The text of a value in the plain layouts. -/
def LogValue.describe : LogValue → String
  | .text s => Text.quote s
  | .plain s => s
  | .number i => Decimal.ofInt i
  | .truth b => if b then "true" else "false"

/-- The document of a value. -/
def LogValue.toDocument : LogValue → Document
  | .text s | .plain s => .text s
  | .number i => .int i
  | .truth b => .bool b

/-- The name of a level, filled up to five characters. -/
def LogLevel.paddedLabel (level : LogLevel) : String :=
  String.ofList (List.replicate (5 - level.label.length) ' ') ++ level.label

/-- The code of the colour of a level. -/
def LogLevel.colour : LogLevel → String
  | .error => "31"
  | .warn => "33"
  | .info => "32"
  | .debug => "34"
  | .trace => "35"

namespace LogRecord

/-- What stands for the time of a record. -/
def timeMark : String := "TIME"

/-- What stands for the place in the program. -/
def placeMark : String := "FILE:LINE"

/-- The number of the thread on which everything runs. -/
def threadNumber : String := "1"

/-- The head of a record in the plain layouts: its time and its level. -/
def head (r : LogRecord) (styled : Bool) : String :=
  Ansi.paint styled Ansi.dimmed timeMark ++ " " ++
    Ansi.paint styled r.level.colour r.level.paddedLabel ++ " "

/-- The record on one line. -/
def compactText (r : LogRecord) (c : LoggingConfig) : String :=
  let styled := c.withAnsi
  let thread := if c.withThreadIds then "ThreadId(0" ++ threadNumber ++ ") " else ""
  let target :=
    if c.withTarget then
      Ansi.paint styled Ansi.dimmed r.target ++ Ansi.paint styled Ansi.dimmed ":" ++ " "
    else ""
  let field (f : String × LogValue) :=
    " " ++ Ansi.paint styled Ansi.italic f.1 ++ Ansi.paint styled Ansi.dimmed "=" ++ f.2.describe
  r.head styled ++ thread ++ target ++ r.message ++ String.join (r.fields.map field) ++ "\n"

/-- A name in bold that is followed by text in the colour of the level. -/
def boldName (r : LogRecord) (styled : Bool) (name : String) : String :=
  Ansi.paint styled (Ansi.both Ansi.bold r.level.colour) name ++
    Ansi.opening styled r.level.colour

/-- The record on several lines. -/
def prettyText (r : LogRecord) (c : LoggingConfig) : String :=
  let styled := c.withAnsi
  let target := if c.withTarget then r.boldName styled r.target ++ ":" else ""
  let field (f : String × LogValue) :=
    ", " ++ r.boldName styled f.1 ++ ": " ++ f.2.describe
  let note := Ansi.both Ansi.dimmed Ansi.italic
  let thread :=
    if c.withThreadIds then
      " " ++ Ansi.paint styled note "on" ++ " ThreadId(" ++ threadNumber ++ ")"
    else ""
  "  " ++ r.head styled ++ target ++ " " ++ Ansi.opening styled r.level.colour ++ r.message ++
    String.join (r.fields.map field) ++ Ansi.closing styled ++ "\n" ++
    "    " ++ Ansi.paint styled note "at" ++ " " ++ placeMark ++ thread ++ "\n\n"

/-- The parts of the document of a record, without its time, in the order in which they are
written. -/
def parts (r : LogRecord) (c : LoggingConfig) : List (String × Document) :=
  let fields := (LogFilter.messageField, Document.text r.message) ::
    r.fields.map fun f => (f.1, f.2.toDocument)
  [("level", .text r.level.label), ("fields", .map fields)] ++
    (if c.withTarget then [("target", .text r.target)] else []) ++
    if c.withThreadIds then [("threadId", .text ("ThreadId(" ++ threadNumber ++ ")"))] else []

/-- The record as a document on one line. -/
def jsonText (r : LogRecord) (c : LoggingConfig) : String :=
  (Document.map (("timestamp", .text timeMark) :: r.parts c)).write ++ "\n"

/-- The record in the layout of a configuration. -/
def layOut (r : LogRecord) (c : LoggingConfig) : String :=
  match c.format with
  | .pretty => r.prettyText c
  | .compact => r.compactText c
  | .json => r.jsonText c

end LogRecord

end TopicBroker
