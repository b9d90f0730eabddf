/-!
# Terminal styles

Styles of text on a terminal: codes between an escape sequence and a letter. They can be switched
off, and then texts stay as they are.
-/

namespace TopicBroker.Ansi

/-- The code of bold text. -/
def bold : String := "1"

/-- The code of dimmed text. -/
def dimmed : String := "2"

/-- The code of italic text. -/
def italic : String := "3"

/-- The codes of several styles at once. -/
def both (first second : String) : String := first ++ ";" ++ second

/-- Switch a style on. -/
def opening (styled : Bool) (code : String) : String :=
  if styled then "\x1b[" ++ code ++ "m" else ""

/-- Switch all styles off. -/
def closing (styled : Bool) : String := if styled then "\x1b[0m" else ""

/-- A text in a style. -/
def paint (styled : Bool) (code text : String) : String :=
  opening styled code ++ text ++ closing styled

/-- Without styles a text stays as it is. -/
@[simp] theorem paint_false (code text : String) : paint false code text = text := by
  simp [paint, opening, closing]

end TopicBroker.Ansi
