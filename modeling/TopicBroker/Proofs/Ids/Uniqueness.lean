import Mathlib.Data.List.Induction
import Mathlib.Data.List.Nodup
import TopicBroker.Ids.Counter

/-!
# Counted ids are unique

A counted id is a text, a dash and a number. The text may hold dashes and digits itself, but the
number holds no dash, so the last dash of an id is the one in front of the number. Main statement: as
long as the word of a counter does not overflow, its ids are numbered from one on, and two ids are
equal only if they have the same text and the same number, whether they come from one counter or
from two.
-/

namespace TopicBroker

namespace Decimal

variable {cs : List Char} {c : Char} {n : Nat}

/-- The decimal notation of a positive number: digits with its value, the first of which is no
zero. -/
structure IsNumeral (cs : List Char) (n : Nat) : Prop where
  /-- There is nothing but digits. -/
  allDigits : ∀ c ∈ cs, c.isDigit = true
  /-- Their value is the number. -/
  value : value cs = n
  /-- There are no leading zeros. -/
  noZero : cs.head? ≠ some '0'

/-- A digit has a value below ten, and is the digit of this value. -/
theorem digitChar_digitValue (digit : c.isDigit = true) :
    digitValue c < 10 ∧ digitChar (digitValue c) = c := by
  obtain ⟨low, high⟩ := Bool.and_eq_true_iff.mp digit
  have above : '0'.toNat ≤ c.toNat := of_decide_eq_true low
  have below : c.toNat ≤ '9'.toNat := of_decide_eq_true high
  have zero : '0'.toNat = 48 := rfl
  have nine : '9'.toNat = 57 := rfl
  refine ⟨by unfold digitValue; omega, ?_⟩
  rw [digitChar, digitValue, Nat.add_sub_of_le (by omega), Char.ofNat_toNat]

/-- The digits of a positive number do not start with a zero. -/
theorem head?_digits_ne_zero (positive : 0 < n) : (digits n).head? ≠ some '0' := by
  induction n using Nat.strongRecOn with
  | _ n ih =>
    rw [digits]
    split
    · next small =>
      intro zero
      have value := digitValue_digitChar small
      rw [Option.some.inj zero] at value
      exact absurd value (by simp only [digitValue]; exact Nat.ne_of_lt positive)
    · rw [List.head?_append_of_ne_nil _ (digits_ne_nil _)]
      exact ih (n / 10) (by omega) (by omega)

/-- A numeral is the numeral of its value, which is positive. -/
theorem IsNumeral.eq_digits (h : IsNumeral cs n) (filled : cs ≠ []) : 0 < n ∧ cs = digits n := by
  -- the last digit is taken off, and what is in front of it is a numeral again
  induction cs using List.reverseRecOn generalizing n with
  | nil => exact absurd rfl filled
  | append_singleton front c ih =>
    obtain ⟨small, char⟩ := digitChar_digitValue (h.allDigits c (by simp))
    have value := h.value
    rw [value_append_digit] at value
    by_cases first : front = []
    · subst first
      have number : digitValue c = n := by simpa [Decimal.value] using value
      have positive : 0 < n := by
        refine Nat.pos_of_ne_zero fun zero => h.noZero ?_
        rw [number, zero] at char
        exact congrArg some char.symm
      rw [digits, if_pos (by omega), ← number, char]
      exact ⟨number ▸ positive, rfl⟩
    · have head : front.head? ≠ some '0' := by
        have noZero := h.noZero
        rwa [List.head?_append_of_ne_nil _ first] at noZero
      have rest : IsNumeral front (Decimal.value front) :=
        ⟨fun d hd => h.allDigits d (List.mem_append_left _ hd), rfl, head⟩
      obtain ⟨positive, eq⟩ := ih rest first
      have tens : n / 10 = Decimal.value front := by omega
      have ones : n % 10 = digitValue c := by omega
      refine ⟨by omega, ?_⟩
      rw [digits, if_neg (by omega), tens, ones, char, ← eq]

/-- A positive number has one numeral, and that is what it is written as. -/
theorem isNumeral_iff (positive : 0 < n) : IsNumeral cs n ↔ cs = (ofNat n).toList := by
  rw [ofNat, String.toList_ofList]
  constructor
  · intro h
    refine (h.eq_digits ?_).2
    rintro rfl
    exact absurd h.value (Nat.ne_of_lt positive)
  · rintro rfl
    exact ⟨fun c => isDigit_of_mem_digits, value_digits n, head?_digits_ne_zero positive⟩

/-- There is no dash in a numeral. -/
theorem dash_notMem_digits (n : Nat) : '-' ∉ digits n := fun mem =>
  absurd (isDigit_of_mem_digits mem) (by decide)

end Decimal

namespace Counter

variable {p q label : String} {m n k : Nat}

/-- In front of the only dash of a text that starts with it there is nothing. -/
theorem eq_nil_of_dash {between bs ds : List Char} (noDash : '-' ∉ bs)
    (same : '-' :: bs = between ++ '-' :: ds) : between = [] := by
  cases between with
  | nil => rfl
  | cons c between =>
    refine absurd ?_ noDash
    rw [(List.cons.inj same).2]
    exact List.mem_append_right _ List.mem_cons_self

/-- Where neither part holds a dash, a text behind the last dash is told from the text in front of
it. -/
theorem eq_of_append_dash {as bs cs ds : List Char} (noDash : '-' ∉ bs) (noDash' : '-' ∉ ds)
    (same : as ++ '-' :: bs = cs ++ '-' :: ds) : as = cs ∧ bs = ds := by
  rcases List.append_eq_append_iff.mp same with ⟨between, rfl, rest⟩ | ⟨between, rfl, rest⟩
  · obtain rfl := eq_nil_of_dash noDash rest
    exact ⟨(List.append_nil as).symm, List.tail_eq_of_cons_eq rest⟩
  · obtain rfl := eq_nil_of_dash noDash' rest
    exact ⟨List.append_nil cs, (List.tail_eq_of_cons_eq rest).symm⟩

/-- Ids are equal only if they have the same text in front and the same number. -/
theorem idText_eq_iff : idText p m = idText q n ↔ p = q ∧ m = n := by
  constructor
  · intro same
    have lists := congrArg String.toList same
    simp only [idText, String.toList_append, Decimal.ofNat, String.toList_ofList,
      List.append_assoc] at lists
    obtain ⟨labels, numbers⟩ :=
      eq_of_append_dash (Decimal.dash_notMem_digits m) (Decimal.dash_notMem_digits n) lists
    exact ⟨String.toList_inj.mp labels, Decimal.digits_injective numbers⟩
  · rintro ⟨rfl, rfl⟩
    rfl

example : idText "a-1" 2 = "a-1-2" ∧ idText "a" 12 = "a-12" ∧ idText "" 7 = "-7" := by
  decide +kernel

/-- The numbers that a counter puts into its ids, and the one with which it goes on, are those that
follow each other, in a word of 64 bits. -/
theorem generateMany_ofNat (label : String) (k n : Nat) :
    generateMany n ⟨label, UInt64.ofNat k⟩ =
      ((List.range' k n).map fun i => idText label (UInt64.ofNat i).toNat,
        ⟨label, UInt64.ofNat (k + n)⟩) := by
  induction n generalizing k with
  | zero => rfl
  | succ n ih =>
    have next : UInt64.ofNat k + 1 = UInt64.ofNat (k + 1) := (UInt64.ofNat_add k 1).symm
    simp only [generateMany, generate, next, ih, List.range'_succ, List.map_cons,
      Nat.add_right_comm k 1 n]
    rfl

/-- What several calls of a new counter return. -/
theorem fst_generateMany_new (label : String) (n : Nat) : (generateMany n (new label)).1 =
    (List.range' 1 n).map fun i => idText label (UInt64.ofNat i).toNat :=
  congrArg Prod.fst (generateMany_ofNat label 1 n)

/-- With which number the counter goes on. -/
theorem next_generateMany_new (label : String) (n : Nat) :
    (generateMany n (new label)).2.next = UInt64.ofNat (n + 1) := by
  rw [Nat.add_comm]
  exact congrArg (fun r => r.2.next) (generateMany_ofNat label 1 n)

/-- One call more than a counter is made for, and it goes on with zero. -/
example (label : String) : (generateMany (UInt64.size - 1) (new label)).2.next = 0 :=
  next_generateMany_new label _

/-- What the call with the given number of a new counter returns; calls are counted from one. -/
def idOfCall (label : String) (m : Nat) : String := (generateMany (m - 1) (new label)).2.generate.1

/-- It is the id with the number of the call. -/
theorem idOfCall_eq (positive : 0 < m) (fits : m < UInt64.size) :
    idOfCall label m = idText label m := by
  have made := generateMany_ofNat label 1 (m - 1)
  rw [Nat.add_sub_of_le positive] at made
  change (generateMany (m - 1) ⟨label, UInt64.ofNat 1⟩).2.generate.1 = _
  rw [made, generate, UInt64.toNat_ofNat_of_lt' fits]

/-- What the calls of a new counter give. -/
structure Issues (label : String) (n : Nat) : Prop where
  /-- The ids are made of the text, a dash and the numbers from one on. -/
  ids : (generateMany n (new label)).1 =
    (List.range' 1 n).map fun k => label ++ "-" ++ Decimal.ofNat k
  /-- The numbers are written in decimal notation without leading zeros. -/
  numerals : ∀ k, 0 < k → ∀ cs, Decimal.IsNumeral cs k ↔ cs = (Decimal.ofNat k).toList
  /-- No id is returned twice. -/
  nodup : (generateMany n (new label)).1.Nodup
  /-- Up to then the word of the counter holds the number with which it goes on. So it has not
  overflown, and is never too small to take one from it. -/
  next : ∀ k ≤ n, (generateMany k (new label)).2.next.toNat = k + 1
  /-- As many ids were issued as there were calls. -/
  issued : ∀ k ≤ n, (generateMany k (new label)).2.issued.toNat = k
  /-- The ids are those of the calls, one by one. -/
  calls : ∀ k, 0 < k → k ≤ n →
    (generateMany n (new label)).1[k - 1]? = some (idOfCall label k)

/-- As long as there is room in the word of the counter, its calls give what they should. -/
theorem issues (label : String) (room : n ≤ UInt64.size - 2) : Issues label n := by
  have two : 2 ≤ UInt64.size := by decide
  have fits {k : Nat} (le : k ≤ n) : k + 1 < UInt64.size := by omega
  have fits' {k : Nat} (le : k ≤ n) : k < UInt64.size := Nat.lt_of_succ_lt (fits le)
  have ids : (generateMany n (new label)).1 = (List.range' 1 n).map (idText label) := by
    rw [fst_generateMany_new]
    refine List.map_congr_left fun k mem => ?_
    have le : k ≤ n := by have := (List.mem_range'_1.mp mem).2; omega
    rw [UInt64.toNat_ofNat_of_lt' (fits' le)]
  have next (k) (le : k ≤ n) : (generateMany k (new label)).2.next.toNat = k + 1 := by
    rw [next_generateMany_new, UInt64.toNat_ofNat_of_lt' (fits le)]
  refine ⟨ids, fun k positive cs => Decimal.isNumeral_iff positive, ?_, next, fun k le => ?_,
    fun k positive le => ?_⟩
  · rw [ids]
    exact (List.nodup_range' 1).map fun _ _ => idText_injective
  · have one : (1 : UInt64) ≤ (generateMany k (new label)).2.next := by
      rw [UInt64.le_iff_toNat_le, next k le]
      exact Nat.succ_le_succ (Nat.zero_le k)
    rw [issued, UInt64.toNat_sub_of_le _ _ one, next k le]
    rfl
  · have place : (List.range' 1 n)[k - 1]? = some k := by
      rw [List.getElem?_range' (by omega)]
      congr 1
      omega
    rw [ids, List.getElem?_map, place, Option.map_some, idOfCall_eq positive (fits' le)]

/-- Counted ids are numbered from one on, as long as there is room in the word of the counter, and
different calls return different ids, of one counter or of counters with different texts. -/
theorem uniqueIds :
    (∀ label n, n ≤ UInt64.size - 2 → Issues label n) ∧
      ∀ p q m n, 0 < m → m < UInt64.size → 0 < n → n < UInt64.size →
        (idOfCall p m = idOfCall q n ↔ p = q ∧ m = n) := by
  refine ⟨fun label n room => issues label room, fun p q m n hm fitsM hn fitsN => ?_⟩
  rw [idOfCall_eq hm fitsM, idOfCall_eq hn fitsN]
  exact idText_eq_iff

/-- The text of one counter is an id of the other, and up to the last number of its word no id of
the one is an id of the other. -/
theorem uniqueIds_nested :
    idOfCall "a" 1 = "a-1" ∧ Issues "a" (UInt64.size - 2) ∧
      idOfCall "a-1" 1 ≠ idOfCall "a" (UInt64.size - 1) := by
  have apart := (uniqueIds.2 "a-1" "a" 1 (UInt64.size - 1) (by decide) (by decide) (by decide)
    (by decide)).not.mpr (by decide)
  exact ⟨by decide +kernel, uniqueIds.1 "a" (UInt64.size - 2) (Nat.le_refl _), apart⟩

end Counter

end TopicBroker
