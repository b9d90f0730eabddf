/-!
# Texts with separators

A text is cut at every separator, so that it has one field more than separators. Main statement:
joining fields that hold no separator and cutting the result gives the fields back.
-/

namespace TopicBroker.Text

/-- Cut a text at every separator. -/
def cut (separator : Char) : List Char → List (List Char)
  | [] => [[]]
  | c :: rest =>
    if c = separator then [] :: cut separator rest
    else
      match cut separator rest with
      | [] => [[c]]
      | field :: fields => (c :: field) :: fields

/-- Join fields with a separator between any two. -/
def join (separator : Char) : List (List Char) → List Char
  | [] => []
  | [field] => field
  | field :: fields => field ++ separator :: join separator fields

/-- A text without separator is one field. -/
theorem cut_of_not_mem {separator : Char} {cs : List Char} (h : separator ∉ cs) :
    cut separator cs = [cs] := by
  induction cs with
  | nil => rfl
  | cons c rest ih =>
    have ne : c ≠ separator := fun eq => h (eq ▸ List.mem_cons_self)
    have tail : separator ∉ rest := fun mem => h (List.mem_cons_of_mem _ mem)
    simp [cut, ne, ih tail]

/-- A field without separator in front of a separator is cut off. -/
theorem cut_append {separator : Char} {field : List Char} (h : separator ∉ field)
    (rest : List Char) :
    cut separator (field ++ separator :: rest) = field :: cut separator rest := by
  induction field with
  | nil => simp [cut]
  | cons c field ih =>
    have ne : c ≠ separator := fun eq => h (eq ▸ List.mem_cons_self)
    have tail : separator ∉ field := fun mem => h (List.mem_cons_of_mem _ mem)
    simp [cut, ne, ih tail]

/-- Cutting undoes joining. -/
theorem cut_join {separator : Char} {fields : List (List Char)} (ne : fields ≠ [])
    (h : ∀ field ∈ fields, separator ∉ field) : cut separator (join separator fields) = fields := by
  induction fields with
  | nil => exact absurd rfl ne
  | cons field rest ih =>
    cases rest with
    | nil => exact cut_of_not_mem (h field (by simp))
    | cons second rest =>
      have tail := ih (by simp) fun f hf => h f (List.mem_cons_of_mem _ hf)
      simp only [join] at tail ⊢
      rw [cut_append (h field (by simp)), tail]

/-- The fields of a text. -/
def fields (separator : Char) (s : String) : List String :=
  (cut separator s.toList).map String.ofList

end TopicBroker.Text
