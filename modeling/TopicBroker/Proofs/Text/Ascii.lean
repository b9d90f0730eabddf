import Mathlib.Init
import TopicBroker.Text.Keyword
import TopicBroker.Text.Lowercase

/-!
# Case in ASCII

The case of a text that holds nothing but ASCII is the case of its letters, one by one. Of other
texts this is true for the ASCII characters in them: each is mapped to its own lower case, whatever
stands around it.
-/

namespace TopicBroker.Text

variable {c : Char}

/-- What is true of the ASCII characters one by one is true of all of them. -/
theorem of_ascii {p : Char → Bool} (all : ∀ n ∈ List.range 0x80, p (Char.ofNat n) = true)
    (ascii : c.toNat < 0x80) : p c = true := by
  have own := all c.toNat (List.mem_range.mpr ascii)
  rwa [Char.ofNat_toNat] at own

/-- A character that is mapped into ASCII is one of ASCII. -/
theorem ascii_of_toLower (lower : c.toLower.toNat < 0x80) : c.toNat < 0x80 := by
  unfold Char.toLower at lower
  split at lower
  · next capital =>
    have bound : c.toNat ≤ 'Z'.toNat := capital.2
    exact Nat.lt_of_le_of_lt bound (by decide)
  · exact lower

/-- Digits are characters of ASCII. -/
theorem ascii_of_isDigit (digit : c.isDigit = true) : c.toNat < 0x80 := by
  have bound : c.val ≤ '9'.val := of_decide_eq_true (Bool.and_eq_true_iff.mp digit).2
  exact Nat.lt_of_le_of_lt bound (by decide)

/-- An ASCII character has the lower case that it has on its own, whatever stands around it. -/
theorem lowercaseAfter_cons (ascii : c.toNat < 0x80) (before rest : List Char) :
    lowercaseAfter before (c :: rest) = c.toLower :: lowercaseAfter (c :: before) rest := by
  have noSigma : (c.toNat == 0x3A3) = false := by
    rw [beq_eq_false_iff_ne]
    omega
  simp [lowercaseAfter, noSigma, lowercaseChar, ascii]

/-- The lower case of an ASCII character stands in the lower case of the text. -/
theorem toLower_mem_lowercaseAfter {cs : List Char} (mem : c ∈ cs) (ascii : c.toNat < 0x80)
    (before : List Char) : c.toLower ∈ lowercaseAfter before cs := by
  induction cs generalizing before with
  | nil => exact absurd mem List.not_mem_nil
  | cons d rest ih =>
    rcases List.mem_cons.mp mem with rfl | later
    · rw [lowercaseAfter_cons ascii]
      exact List.mem_cons_self
    · unfold lowercaseAfter
      exact List.mem_append_right _ (ih later (d :: before))

/-- An ASCII text is mapped letter by letter. -/
theorem lowercase_of_ascii {s : String} (ascii : ∀ c ∈ s.toList, c.toNat < 0x80) :
    lowercase s = asciiLower s := by
  have chars {cs : List Char} (ascii : ∀ c ∈ cs, c.toNat < 0x80) (before : List Char) :
      lowercaseAfter before cs = cs.map Char.toLower := by
    induction cs generalizing before with
    | nil => rfl
    | cons c rest ih =>
      rw [lowercaseAfter_cons (ascii c List.mem_cons_self),
        ih fun d hd => ascii d (List.mem_cons_of_mem _ hd)]
      rfl
  rw [lowercase, chars ascii, asciiLower]

/-- The characters of a text in lower case are those of the text, in lower case. -/
theorem toList_asciiLower (s : String) : (asciiLower s).toList = s.toList.map Char.toLower :=
  String.toList_ofList

end TopicBroker.Text
