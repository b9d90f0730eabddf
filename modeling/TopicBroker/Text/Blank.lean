/-!
# Blanks and trimming

The white space of Unicode, and texts without it at either end.
-/

namespace TopicBroker.Text

/-- The twenty-five characters with the property `White_Space`. -/
def isBlank (c : Char) : Bool :=
  let n := c.toNat
  (9 ≤ n && n ≤ 13) || n == 0x20 || n == 0x85 || n == 0xA0 || n == 0x1680 ||
    (0x2000 ≤ n && n ≤ 0x200A) || n == 0x2028 || n == 0x2029 || n == 0x202F || n == 0x205F ||
    n == 0x3000

/-- Every blank of core is a blank. -/
theorem isBlank_of_isWhitespace {c : Char} (h : c.isWhitespace = true) : isBlank c = true := by
  simp only [Char.isWhitespace, Bool.or_eq_true, decide_eq_true_eq] at h
  rcases h with ((h | h) | h) | h <;> subst h <;> decide

/-- Drop the blanks at both ends. -/
def trimChars (cs : List Char) : List Char :=
  ((cs.dropWhile isBlank).reverse.dropWhile isBlank).reverse

/-- The text without the blanks at its ends. -/
def trim (s : String) : String := String.ofList (trimChars s.toList)

/-- Dropping a prefix of blanks leaves nothing exactly when all are blank. -/
theorem dropWhile_isBlank_eq_nil {cs : List Char} :
    cs.dropWhile isBlank = [] ↔ ∀ c ∈ cs, isBlank c = true := by
  induction cs with
  | nil => simp
  | cons c rest ih =>
    by_cases h : isBlank c = true
    · simp [h, ih]
    · simp [h]

/-- Nothing is left of a text exactly when all its characters are blank. -/
theorem trimChars_eq_nil {cs : List Char} : trimChars cs = [] ↔ ∀ c ∈ cs, isBlank c = true := by
  unfold trimChars
  rw [List.reverse_eq_nil_iff, dropWhile_isBlank_eq_nil]
  constructor
  · intro h
    have rest : (cs.dropWhile isBlank).dropWhile isBlank = [] :=
      dropWhile_isBlank_eq_nil.2 fun c hc => h c (List.mem_reverse.2 hc)
    refine dropWhile_isBlank_eq_nil.1 ?_
    cases hd : cs.dropWhile isBlank with
    | nil => rfl
    | cons c tail =>
      have blank : isBlank c = true := h c (by rw [hd]; simp)
      have notBlank := List.head?_dropWhile_not isBlank cs
      rw [hd] at notBlank
      simp [blank] at notBlank
  · intro h c hc
    exact h c ((List.dropWhile_sublist isBlank).subset (List.mem_reverse.1 hc))

/-- Whether nothing but blanks is in the text. -/
def isBlankText (s : String) : Bool := (trim s).isEmpty

end TopicBroker.Text
