/-!
# Words

The numbers that fit in a word of so many bits, as a natural or with a sign. Main statement: the
numbers with a sign that fit in a word are as many as the naturals.
-/

namespace TopicBroker.Word

/-- How many values a word of so many bits has. -/
def size (bits : Nat) : Nat := 1 <<< bits

/-- A further bit doubles the values. -/
theorem size_succ (bits : Nat) : size (bits + 1) = 2 * size bits := by
  rw [size, size, Nat.shiftLeft_succ]

/-- Whether a number is a natural that fits in so many bits. -/
def holds (bits : Nat) (i : Int) : Bool := 0 ≤ i && i < size bits

/-- Whether a number fits in so many bits, of which one is the sign. -/
def holdsSigned (bits : Nat) (i : Int) : Bool :=
  -(size (bits - 1) : Int) ≤ i && i < size (bits - 1)

/-- Moving the least number with a sign to zero makes a natural of the same width. -/
theorem holdsSigned_succ (bits : Nat) (i : Int) :
    holdsSigned (bits + 1) i = holds (bits + 1) (i + size bits) := by
  have double := size_succ bits
  rw [Bool.eq_iff_iff]
  simp only [holdsSigned, holds, Nat.add_sub_cancel, Bool.and_eq_true, decide_eq_true_eq]
  omega

end TopicBroker.Word
