import TopicBroker.Text.Blank

/-!
# Keywords

Words that stand for one of a few values. They are read without regard to the case of ASCII letters
and to blanks at either end.
-/

namespace TopicBroker.Text

/-- The text with its ASCII letters in lower case. -/
def asciiLower (s : String) : String := String.ofList (s.toList.map Char.toLower)

/-- The value whose word a text is. -/
def keyword? {α : Type} (words : List (String × α)) (s : String) : Option α :=
  words.lookup (asciiLower (trim s))

end TopicBroker.Text
