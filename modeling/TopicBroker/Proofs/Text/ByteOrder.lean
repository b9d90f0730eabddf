import Mathlib.Init

/-!
# The order of texts by their bytes

Texts are compared character by character, by code points. Their encodings in UTF-8 are in the same
order, byte by byte, so a list of texts that increases also increases by bytes.
-/

namespace TopicBroker.Text

/-- The bytes of a text in UTF-8. -/
def bytes (s : String) : List UInt8 := s.toByteArray.data.toList

/-- The bytes of a text are those of its characters. -/
theorem bytes_eq_flatMap (s : String) : bytes s = s.toList.flatMap String.utf8EncodeChar := by
  have encoded : s.toByteArray = s.toList.utf8Encode := by
    rw [← String.toByteArray_ofList, String.ofList_toList]
  rw [bytes, encoded, List.utf8Encode, List.data_toByteArray]

/-- A byte that continues an encoding does not overflow. -/
private theorem continuation_mod (q : Nat) : (q % 64 + 128) % 256 = q % 64 + 128 := by
  omega

/-- A byte that starts an encoding of four bytes does not overflow. -/
private theorem start_mod (q : Nat) : (q % 8 + 240) % 256 = q % 8 + 240 := by
  omega

/-- Of two code points the lesser one has the lesser digits to the base 64. -/
private theorem digits_lt {m n : Nat} (lt : m < n) (bound : n < 0x110000) :
    m / 262144 % 8 < n / 262144 % 8 ∨ m / 262144 % 8 = n / 262144 % 8 ∧
      (m / 4096 % 64 < n / 4096 % 64 ∨ m / 4096 % 64 = n / 4096 % 64 ∧
        (m / 64 % 64 < n / 64 % 64 ∨ m / 64 % 64 = n / 64 % 64 ∧ m % 64 < n % 64)) := by
  have first : m / 262144 ≤ n / 262144 := Nat.div_le_div_right (Nat.le_of_lt lt)
  rcases Nat.lt_or_eq_of_le first with less | same
  · omega
  refine .inr ⟨by rw [same], ?_⟩
  have second : m / 4096 ≤ n / 4096 := Nat.div_le_div_right (Nat.le_of_lt lt)
  rcases Nat.lt_or_eq_of_le second with less | same
  · omega
  refine .inr ⟨by rw [same], ?_⟩
  omega

/-- A character with the lesser code point has the lesser bytes, whatever follows. -/
theorem utf8EncodeChar_lt {c d : Char} (h : c < d) (xs ys : List UInt8) :
    String.utf8EncodeChar c ++ xs < String.utf8EncodeChar d ++ ys := by
  have lt : c.val.toNat < d.val.toNat := h
  have bound : d.val.toNat < 0x110000 := by
    have valid := d.valid
    simp only [UInt32.isValidChar, Nat.isValidChar] at valid
    omega
  unfold String.utf8EncodeChar
  generalize c.val.toNat = m at *
  generalize d.val.toNat = n at *
  have digits := digits_lt lt bound
  -- a longer encoding starts with a greater byte; of two equally long ones the digits decide
  dsimp only
  repeat' split
  all_goals
    simp only [List.cons_append, List.nil_append, List.cons_lt_cons_iff, UInt8.lt_iff_toNat_lt,
      ← UInt8.toNat_inj, UInt8.toNat_ofNat', Nat.reducePow, continuation_mod, start_mod]
    omega

/-- The encodings of texts are in the order of the texts. -/
theorem flatMap_utf8EncodeChar_lt {cs ds : List Char} (h : cs < ds) :
    cs.flatMap String.utf8EncodeChar < ds.flatMap String.utf8EncodeChar := by
  induction cs generalizing ds with
  | nil =>
    cases ds with
    | nil => exact absurd h (List.lt_irrefl _)
    | cons d ds =>
      rw [List.flatMap_nil, List.flatMap_cons]
      cases encoded : String.utf8EncodeChar d with
      | nil => exact absurd encoded String.utf8EncodeChar_ne_nil
      | cons b bs => exact List.nil_lt_cons _ _
  | cons c cs ih =>
    cases ds with
    | nil => exact absurd h (List.not_lt_nil _)
    | cons d ds =>
      rw [List.flatMap_cons, List.flatMap_cons]
      rcases List.cons_lt_cons_iff.mp h with lt | ⟨rfl, lt⟩
      · exact utf8EncodeChar_lt lt _ _
      · exact List.append_left_lt (ih lt)

/-- A lesser text has lesser bytes. -/
theorem bytes_lt {s t : String} (h : s < t) : bytes s < bytes t := by
  rw [bytes_eq_flatMap, bytes_eq_flatMap]
  exact flatMap_utf8EncodeChar_lt (String.lt_iff.mp h)

/-- Whether a list of texts increases strictly by bytes. -/
def Ascending (names : List String) : Prop := names.Pairwise fun s t => bytes s < bytes t

/-- A list of texts that increases also increases by bytes. -/
theorem ascending_of_pairwise_lt {names : List String} (h : names.Pairwise (· < ·)) :
    Ascending names :=
  h.imp bytes_lt

end TopicBroker.Text
