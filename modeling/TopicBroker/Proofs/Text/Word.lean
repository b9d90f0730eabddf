import TopicBroker.Proofs.Text.Ascii
import TopicBroker.Text.Fields

/-!
# Words between separators

A word is a text of ASCII letters. No sign, no digit and no blank is in it, so it is one field of a
text with separators, and nothing of it is trimmed. Main statement: behind a separator, a text without
one is the last field.
-/

namespace TopicBroker.Text

/-- Every text has a field. -/
theorem cut_ne_nil (separator : Char) (cs : List Char) : cut separator cs ≠ [] := by
  cases cs with
  | nil => simp [cut]
  | cons c rest =>
    unfold cut
    split
    · simp
    · split <;> simp

/-- The fields of two texts with a separator between them are the fields of both. -/
theorem cut_append_separator (separator : Char) (cs rest : List Char) :
    cut separator (cs ++ separator :: rest) = cut separator cs ++ cut separator rest := by
  induction cs with
  | nil => simp [cut]
  | cons c cs ih =>
    by_cases same : c = separator
    · simp [cut, same, ih]
    · simp only [List.cons_append, cut, same, if_false, ih]
      cases first : cut separator cs with
      | nil => exact absurd first (cut_ne_nil separator cs)
      | cons field fields => rfl

/-- A text without separator, behind one, is the last field. -/
theorem fields_append {separator : Char} (s : String) {last : String}
    (h : separator ∉ last.toList) :
    fields separator (s ++ String.singleton separator ++ last) = fields separator s ++ [last] := by
  have chars : (s ++ String.singleton separator ++ last).toList =
      s.toList ++ separator :: last.toList := by
    simp
  rw [fields, fields, chars, cut_append_separator, cut_of_not_mem h, List.map_append, List.map_cons,
    List.map_nil, String.ofList_toList]

/-- A text without blanks has none at its ends. -/
theorem trimChars_eq_self {cs : List Char} (h : ∀ c ∈ cs, isBlank c = false) :
    trimChars cs = cs := by
  have same {ds : List Char} (h : ∀ c ∈ ds, isBlank c = false) : ds.dropWhile isBlank = ds := by
    cases ds with
    | nil => rfl
    | cons d ds => rw [List.dropWhile_cons_of_neg (by simp [h d List.mem_cons_self])]
  rw [trimChars, same h, same fun c hc => h c (List.mem_reverse.mp hc), List.reverse_reverse]

/-- Whether a text holds nothing but ASCII letters, and at least one. -/
def IsWord (s : String) : Prop := s ≠ "" ∧ ∀ c ∈ s.toList, c.isAlpha = true

instance (s : String) : Decidable (IsWord s) :=
  decidable_of_iff (s ≠ "" ∧ s.toList.all Char.isAlpha = true) (by simp [IsWord])

variable {c : Char}

/-- Letters of ASCII are characters of ASCII. -/
theorem ascii_of_isAlpha (alpha : c.isAlpha = true) : c.toNat < 0x80 := by
  rcases Bool.or_eq_true_iff.mp alpha with upper | lower
  · have bound : c.val ≤ 'Z'.val := (of_decide_eq_true upper).2
    exact Nat.lt_of_le_of_lt bound (by decide)
  · have bound : c.val ≤ 'z'.val := of_decide_eq_true (Bool.and_eq_true_iff.mp lower).2
    exact Nat.lt_of_le_of_lt bound (by decide)

/-- A letter is different from what is no letter. -/
theorem ne_of_isAlpha {d : Char} (alpha : c.isAlpha = true) (other : d.isAlpha = false) : c ≠ d := by
  rintro rfl
  rw [alpha] at other
  cases other

/-- A letter is no digit and no blank. -/
theorem separate_of_isAlpha (alpha : c.isAlpha = true) : c.isDigit = false ∧ isBlank c = false := by
  have all := of_ascii (c := c) (p := fun c => !c.isAlpha || (!c.isDigit && !isBlank c))
    (by decide +kernel) (ascii_of_isAlpha alpha)
  simpa [alpha] using all

/-- A text is a word if its lower case is one. -/
theorem isWord_of_asciiLower {s : String} (ne : asciiLower s ≠ "")
    (lower : (asciiLower s).toList.all Char.isLower = true) : IsWord s := by
  refine ⟨fun empty => ne (by rw [empty]; rfl), fun c mem => ?_⟩
  have own : c.toLower.isLower = true := by
    refine List.all_eq_true.mp lower _ ?_
    rw [toList_asciiLower]
    exact List.mem_map_of_mem mem
  have ascii : c.toNat < 0x80 :=
    ascii_of_toLower (ascii_of_isAlpha (Bool.or_eq_true_iff.mpr (.inr own)))
  have all := of_ascii (c := c) (p := fun c => !c.toLower.isLower || c.isAlpha) (by decide +kernel)
    ascii
  rwa [own] at all

end TopicBroker.Text
