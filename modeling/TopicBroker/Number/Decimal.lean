/-!
# Decimal numerals

Natural numbers and integers written in base ten without leading zeros, and the value of a run of
digits. Main statement: reading what was written gives the number back.
-/

namespace TopicBroker.Decimal

/-- The digit character of a number below ten. -/
def digitChar (d : Nat) : Char := Char.ofNat (48 + d)

/-- The value of a digit character. -/
def digitValue (c : Char) : Nat := c.toNat - 48

/-- Reading a digit character gives the digit. -/
theorem digitValue_digitChar {d : Nat} (h : d < 10) : digitValue (digitChar d) = d := by
  have all : ∀ e ∈ List.range 10, digitValue (digitChar e) = e := by decide
  exact all d (List.mem_range.2 h)

/-- A digit character is a digit. -/
theorem isDigit_digitChar {d : Nat} (h : d < 10) : (digitChar d).isDigit = true := by
  have all : ∀ e ∈ List.range 10, (digitChar e).isDigit = true := by decide
  exact all d (List.mem_range.2 h)

/-- The digits of a number, highest first. -/
def digits (n : Nat) : List Char :=
  if n < 10 then [digitChar n] else digits (n / 10) ++ [digitChar (n % 10)]
  termination_by n
  decreasing_by omega

/-- The value of a run of digits. -/
def value (cs : List Char) : Nat := cs.foldl (fun n c => 10 * n + digitValue c) 0

/-- Appending a digit multiplies by ten and adds it. -/
theorem value_append_digit (cs : List Char) (c : Char) :
    value (cs ++ [c]) = 10 * value cs + digitValue c := by
  simp [value, List.foldl_append]

/-- Reading the digits of a number gives the number. -/
theorem value_digits (n : Nat) : value (digits n) = n := by
  induction n using Nat.strongRecOn with
  | _ n ih =>
    rw [digits]
    split
    · next h => simpa [value] using digitValue_digitChar h
    · next h =>
      rw [value_append_digit, ih (n / 10) (by omega), digitValue_digitChar (by omega)]
      omega

/-- Two numbers with the same digits are equal. -/
theorem digits_injective {m n : Nat} (h : digits m = digits n) : m = n := by
  rw [← value_digits m, h, value_digits]

/-- Every character of a numeral is a digit. -/
theorem isDigit_of_mem_digits {n : Nat} {c : Char} (h : c ∈ digits n) : c.isDigit = true := by
  induction n using Nat.strongRecOn with
  | _ n ih =>
    rw [digits] at h
    split at h
    · next hn =>
      rw [List.mem_singleton.1 h]
      exact isDigit_digitChar hn
    · next hn =>
      rcases List.mem_append.1 h with h | h
      · exact ih (n / 10) (by omega) h
      · rw [List.mem_singleton.1 h]
        exact isDigit_digitChar (by omega)

/-- A numeral has at least one digit. -/
theorem digits_ne_nil (n : Nat) : digits n ≠ [] := by
  rw [digits]
  split <;> simp

/-- A number as text. -/
def ofNat (n : Nat) : String := String.ofList (digits n)

/-- An integer as characters: a minus sign before the digits of a negative one. -/
def intChars (i : Int) : List Char :=
  if i < 0 then '-' :: digits i.natAbs else digits i.natAbs

/-- An integer as text. -/
def ofInt (i : Int) : String := String.ofList (intChars i)

/-- The value of a text of digits; an empty text has none. -/
def natValue? (cs : List Char) : Option Nat :=
  if cs.isEmpty || !cs.all Char.isDigit then none else some (value cs)

/-- The value of digits with an optional sign. -/
def intValue? : List Char → Option Int
  | '-' :: cs => (natValue? cs).map fun n => -(n : Int)
  | '+' :: cs => (natValue? cs).map fun n => (n : Int)
  | cs => (natValue? cs).map fun n => (n : Int)

end TopicBroker.Decimal
