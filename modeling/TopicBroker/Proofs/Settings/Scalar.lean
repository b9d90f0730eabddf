import Mathlib.Data.List.TakeWhile
import TopicBroker.Proofs.Text.Ascii
import TopicBroker.Settings.Environment

/-!
# Values that are no texts

Truth values and numbers are written with few characters. So a text in which any other character
stands, for instance a comma or most of the letters, is a text for the configuration too. What is
taken for a truth value or for a number is still a text where one is expected, but it is written
anew, and that with the same few characters.
-/

namespace TopicBroker

/-- Whether a character occurs where truth values and numbers are written: digits, signs, a point,
and in letters of any case `true`, `false`, `infinity`, `nan` and the mark of an exponent. -/
def Text.isScalarChar (c : Char) : Bool :=
  c.isDigit || "+-.aefilnrstuy".toList.contains c.toLower

namespace Text

variable {c : Char}

/-- Any other character is no digit. -/
theorem isDigit_of_foreign (foreign : isScalarChar c = false) : c.isDigit = false :=
  (Bool.or_eq_false_iff.mp foreign).1

/-- Any other character is different from the letters and signs, whatever its case. -/
theorem toLower_ne_of_foreign (foreign : isScalarChar c = false) {d : Char}
    (own : d ∈ "+-.aefilnrstuy".toList) : c.toLower ≠ d := by
  rintro rfl
  have absent := (Bool.or_eq_false_iff.mp foreign).2
  rw [List.contains_iff_mem.mpr own] at absent
  cases absent

/-- So it does not stand in their place. -/
theorem ne_of_foreign (foreign : isScalarChar c = false) {d : Char}
    (own : d ∈ "+-.aefilnrstuy".toList) (lower : d.toLower = d) : c ≠ d := by
  rintro rfl
  exact toLower_ne_of_foreign foreign own lower

/-- The case of a letter makes no difference. -/
theorem foreign_of_toLower (ascii : c.toLower.toNat < 0x80)
    (foreign : isScalarChar c.toLower = false) :
    c.toNat < 0x80 ∧ isScalarChar c = false := by
  have same : (isScalarChar c.toLower == isScalarChar c) = true :=
    of_ascii (p := fun c => isScalarChar c.toLower == isScalarChar c) (by decide +kernel)
      (ascii_of_toLower ascii)
  exact ⟨ascii_of_toLower ascii, (eq_of_beq same).symm.trans foreign⟩

end Text

open Text

variable {c : Char} {cs : List Char}

namespace Decimal

/-- A numeral without sign holds digits only. -/
theorem natValue?_of_foreign (mem : c ∈ cs) (foreign : isScalarChar c = false) :
    natValue? cs = none := by
  have notDigits : cs.all Char.isDigit = false := by
    rw [List.all_eq_false]
    exact ⟨c, mem, by simp [isDigit_of_foreign foreign]⟩
  simp [natValue?, notDigits]

/-- A numeral with a sign holds the sign and digits. -/
theorem intValue?_of_foreign (mem : c ∈ cs) (foreign : isScalarChar c = false) :
    intValue? cs = none := by
  have behind {d : Char} {rest : List Char} (mem : c ∈ d :: rest)
      (own : d ∈ "+-.aefilnrstuy".toList) (lower : d.toLower = d) : natValue? rest = none :=
    natValue?_of_foreign ((List.mem_cons.mp mem).resolve_left (ne_of_foreign foreign own lower))
      foreign
  unfold intValue?
  split
  · rw [behind mem (by decide) (by decide)]
    rfl
  · rw [behind mem (by decide) (by decide)]
    rfl
  · rw [natValue?_of_foreign mem foreign]
    rfl

end Decimal

namespace Binary64

/-- What follows the digits at the head of a text holds the characters that are no digits. -/
theorem mem_dropWhile_isDigit (mem : c ∈ cs) (foreign : isScalarChar c = false) :
    c ∈ cs.dropWhile Char.isDigit := by
  rw [← List.takeWhile_append_dropWhile (p := Char.isDigit) (l := cs)] at mem
  rcases List.mem_append.mp mem with inside | behind
  · have digit := List.mem_takeWhile_imp inside
    rw [isDigit_of_foreign foreign] at digit
    cases digit
  · exact behind

/-- An exponent holds its mark, a sign and digits. -/
theorem exponentPart?_of_foreign (mem : c ∈ cs) (foreign : isScalarChar c = false) :
    exponentPart? cs = none := by
  cases cs with
  | nil => exact absurd mem List.not_mem_nil
  | cons d rest =>
    simp only [exponentPart?]
    split
    · next mark =>
      have other : c ≠ d := by
        rintro rfl
        rcases Bool.or_eq_true_iff.mp mark with small | capital
        · exact ne_of_foreign foreign (by decide) (by decide) (eq_of_beq small)
        · rw [eq_of_beq capital] at foreign
          exact absurd foreign (by decide)
      exact Decimal.intValue?_of_foreign ((List.mem_cons.mp mem).resolve_left other) foreign
    · rfl

/-- A numeral holds digits, a point, more digits and an exponent. -/
theorem ofNumeral?_of_foreign (mem : c ∈ cs) (foreign : isScalarChar c = false)
    (negative : Bool) : ofNumeral? negative cs = none := by
  have behind := mem_dropWhile_isDigit mem foreign
  unfold ofNumeral?
  generalize cs.dropWhile Char.isDigit = rest at behind ⊢
  dsimp only
  split
  · have noPoint : c ≠ '.' := ne_of_foreign foreign (by decide) (by decide)
    have noExponent := exponentPart?_of_foreign (mem_dropWhile_isDigit
      (List.mem_of_ne_of_mem noPoint behind) foreign) foreign
    simp only [noExponent, Option.map_none, ite_self]
  · simp only [exponentPart?_of_foreign behind foreign, Option.map_none, ite_self]

/-- A word for one of the other values holds its letters. -/
theorem ofUnsigned?_of_foreign (mem : c ∈ cs) (foreign : isScalarChar c = false)
    (negative : Bool) : ofUnsigned? negative cs = none := by
  have noWord (word : List Char) (letters : word.all "+-.aefilnrstuy".toList.contains = true) :
      (cs.map Char.toLower == word) = false := by
    rw [beq_eq_false_iff_ne]
    rintro rfl
    have own := List.all_eq_true.mp letters _ (List.mem_map_of_mem mem)
    exact toLower_ne_of_foreign foreign (List.contains_iff_mem.mp own) rfl
  simp only [ofUnsigned?, noWord "inf".toList (by decide), noWord "infinity".toList (by decide),
    noWord "nan".toList (by decide), Bool.or_self, Bool.false_eq_true, if_false]
  exact ofNumeral?_of_foreign mem foreign negative

/-- A number is written with digits, signs, a point and the letters of its words. -/
theorem ofChars?_of_foreign (mem : c ∈ cs) (foreign : isScalarChar c = false) :
    ofChars? cs = none := by
  have behind {d : Char} {rest : List Char} (mem : c ∈ d :: rest)
      (own : d ∈ "+-.aefilnrstuy".toList) (lower : d.toLower = d) : c ∈ rest :=
    (List.mem_cons.mp mem).resolve_left (ne_of_foreign foreign own lower)
  unfold ofChars?
  split
  · exact ofUnsigned?_of_foreign (behind mem (by decide) (by decide)) foreign _
  · exact ofUnsigned?_of_foreign (behind mem (by decide) (by decide)) foreign _
  · exact ofUnsigned?_of_foreign mem foreign _

end Binary64

namespace Settings

/-- A text with an ASCII character that truth values and numbers are not written with reads neither
as a truth value nor as a number. -/
theorem scalar?_of_foreign {s : String} (mem : c ∈ s.toList) (ascii : c.toNat < 0x80)
    (foreign : isScalarChar c = false) : scalar? s = none := by
  have kept : c.toLower ∈ (Text.lowercase s).toList := by
    rw [Text.lowercase, String.toList_ofList]
    exact Text.toLower_mem_lowercaseAfter mem ascii []
  have noWord (word : String)
      (letters : word.toList.all "+-.aefilnrstuy".toList.contains = true) :
      Text.lowercase s ≠ word := by
    rintro rfl
    have own := List.all_eq_true.mp letters _ kept
    exact toLower_ne_of_foreign foreign (List.contains_iff_mem.mp own) rfl
  simp only [scalar?, noWord "true" (by decide), noWord "false" (by decide), if_false,
    Decimal.intValue?_of_foreign mem foreign, Binary64.ofChars?_of_foreign mem foreign]
  rfl

end Settings

namespace Decimal

/-- The digits of a number are characters of numbers. -/
theorem isScalarChar_of_mem_digits {n : Nat} (mem : c ∈ digits n) : isScalarChar c = true := by
  rw [isScalarChar, isDigit_of_mem_digits mem, Bool.true_or]

/-- So are those of a number with a sign. -/
theorem isScalarChar_of_mem_intChars {i : Int} (mem : c ∈ intChars i) : isScalarChar c = true := by
  unfold intChars at mem
  split at mem
  · rcases List.mem_cons.mp mem with rfl | digit
    · decide
    · exact isScalarChar_of_mem_digits digit
  · exact isScalarChar_of_mem_digits mem

end Decimal

namespace Binary64

/-- A number in positional notation is written with digits and a point. -/
theorem isScalarChar_of_mem_positional {coefficient : Nat} {power : Int}
    (mem : c ∈ positional coefficient power) : isScalarChar c = true := by
  have zero {n : Nat} (mem : c ∈ List.replicate n '0') : isScalarChar c = true := by
    rw [List.eq_of_mem_replicate mem]
    decide
  unfold positional at mem
  dsimp only at mem
  split at mem
  · rcases List.mem_append.mp mem with digit | filler
    · exact Decimal.isScalarChar_of_mem_digits digit
    · exact zero filler
  · generalize places : (-power).toNat = n at mem
    generalize all : List.replicate _ '0' ++ Decimal.digits coefficient = padded at mem
    have own {d : Char} (mem : d ∈ padded) : isScalarChar d = true := by
      rw [← all] at mem
      rcases List.mem_append.mp mem with filler | digit
      · rw [List.eq_of_mem_replicate filler]
        decide
      · exact Decimal.isScalarChar_of_mem_digits digit
    split at mem
    · exact own (List.mem_of_mem_take mem)
    · rcases List.mem_append.mp mem with whole | behind
      · exact own (List.mem_of_mem_take whole)
      · rcases List.mem_cons.mp behind with rfl | fraction
        · decide
        · have kept := (List.dropWhile_sublist _).subset (List.mem_reverse.mp fraction)
          exact own (List.mem_of_mem_drop (List.mem_reverse.mp kept))

/-- The text of a number is written with digits, a sign and a point, or it is a word. -/
theorem isScalarChar_of_mem_toText {x : Binary64} (mem : c ∈ x.toText.toList) :
    isScalarChar c = true := by
  have word {s : String} (letters : s.toList.all isScalarChar = true) (mem : c ∈ s.toList) :
      isScalarChar c = true := List.all_eq_true.mp letters c mem
  unfold toText at mem
  split at mem
  · exact word (by decide) mem
  · split at mem
    · exact word (by decide) mem
    · exact word (by decide) mem
  · dsimp only at mem
    rw [String.toList_ofList] at mem
    split at mem
    · rcases List.mem_cons.mp mem with rfl | digit
      · decide
      · exact isScalarChar_of_mem_positional digit
    · exact isScalarChar_of_mem_positional mem

end Binary64

namespace Settings

variable {s : String} {d : Document}

/-- What a text reads as is a truth value, an integer or another number. -/
theorem scalar?_cases (reads : scalar? s = some d) :
    (∃ b, d = .bool b) ∨ (∃ i, d = .int i) ∨ ∃ x, d = .float x := by
  unfold scalar? at reads
  dsimp only at reads
  split at reads
  · exact .inl ⟨true, (Option.some.inj reads).symm⟩
  · split at reads
    · exact .inl ⟨false, (Option.some.inj reads).symm⟩
    · rcases Option.or_eq_some_iff.mp reads with int | ⟨-, float⟩
      · obtain ⟨i, -, same⟩ := Option.map_eq_some_iff.mp int
        exact .inr (.inl ⟨i, same.symm⟩)
      · obtain ⟨x, -, same⟩ := Option.map_eq_some_iff.mp float
        exact .inr (.inr ⟨x, same.symm⟩)

/-- How a truth value or a number is written where a text is expected. -/
def scalarText : Document → String
  | .bool b => if b then "true" else "false"
  | .int i => Decimal.ofInt i
  | .float x => x.toText
  | _ => ""

/-- What becomes of a text that goes through a configuration: one that reads as a truth value or as
a number is written anew, and any other stays as it is. -/
def retold (s : String) : String := ((scalar? s).map scalarText).getD s

/-- A text that is no truth value and no number stays as it is. -/
theorem retold_of_none (text : scalar? s = none) : retold s = s := by
  rw [retold, text]
  rfl

/-- Any other is written anew. -/
theorem retold_of_some (reads : scalar? s = some d) : retold s = scalarText d := by
  rw [retold, reads]
  rfl

/-- Truth values and numbers have a text under every key. -/
theorem textOf_of_scalar? (reads : scalar? s = some d) (key : String) :
    textOf key d = .ok (scalarText d) := by
  rcases scalar?_cases reads with ⟨b, rfl⟩ | ⟨i, rfl⟩ | ⟨x, rfl⟩ <;> rfl

/-- The text of any key but the topics is always there. -/
theorem textOf_valueOf {key : String} (other : key ≠ topicsKey) (s : String) :
    textOf key (valueOf key s) = .ok (retold s) := by
  unfold valueOf
  cases reads : scalar? s with
  | none =>
    rw [retold_of_none reads]
    dsimp only
    rw [if_neg other]
    rfl
  | some d =>
    rw [retold_of_some reads]
    exact textOf_of_scalar? reads key

/-- What is written anew is written with the characters of truth values and numbers. -/
theorem isScalarChar_of_mem_scalarText (reads : scalar? s = some d)
    (mem : c ∈ (scalarText d).toList) : isScalarChar c = true := by
  rcases scalar?_cases reads with ⟨b, rfl⟩ | ⟨i, rfl⟩ | ⟨x, rfl⟩
  · have letters : ∀ b, (scalarText (.bool b)).toList.all isScalarChar = true := by decide
    exact List.all_eq_true.mp (letters b) c mem
  · rw [scalarText, Decimal.ofInt, String.toList_ofList] at mem
    exact Decimal.isScalarChar_of_mem_intChars mem
  · exact Binary64.isScalarChar_of_mem_toText mem

end Settings

end TopicBroker
