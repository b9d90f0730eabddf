import TopicBroker.Proofs.Delivery.Draws
import TopicBroker.Proofs.Settings.Variables

/-!
# The text in front of counted ids

A variable holds the text that a counter puts in front of its numbers. Every text is accepted, but
like any other value of the environment it goes through a configuration. So a text that reads as a
truth value or as a number is written anew, without capitals, leading zeros, a plus sign or an
exponent, and the ids start with what comes of it. It is the same as before only if it was written
in this form already. All other texts arrive as they are.
-/

namespace TopicBroker

namespace Decimal

variable {c : Char} {cs : List Char} {i : Int}

/-- Reading the digits of a number gives the number. -/
theorem natValue?_digits (n : Nat) : natValue? (digits n) = some n := by
  have all : (digits n).all Char.isDigit = true :=
    List.all_eq_true.mpr fun _ => isDigit_of_mem_digits
  simp [natValue?, all, digits_ne_nil, value_digits]

/-- What reads as a number without a sign holds digits only. -/
theorem isDigit_of_natValue? {n : Nat} (reads : natValue? cs = some n) (mem : c ∈ cs) :
    c.isDigit = true := by
  unfold natValue? at reads
  split at reads
  · cases reads
  · next filled =>
    rw [Bool.or_eq_true, not_or, Bool.not_eq_true', Bool.not_eq_false] at filled
    exact List.all_eq_true.mp filled.2 c mem

/-- What reads as an integer is a natural, in front of which a sign may stand. -/
theorem exists_of_intValue? (reads : intValue? cs = some i) : ∃ n rest,
    natValue? rest = some n ∧ (cs = '-' :: rest ∨ cs = '+' :: rest ∨ cs = rest) := by
  -- the naturals are cast before the sign is put in front of them
  have natural {rest : List Char} {f : Int → Int}
      (reads : ((natValue? rest).bind fun n => some (n : Int)).map f = some i) :
      ∃ n, natValue? rest = some n := by
    obtain ⟨j, cast, -⟩ := Option.map_eq_some_iff.mp reads
    obtain ⟨n, own, -⟩ := Option.bind_eq_some_iff.mp cast
    exact ⟨n, own⟩
  unfold intValue? at reads
  split at reads
  · next rest =>
    obtain ⟨n, own⟩ := natural reads
    exact ⟨n, rest, own, .inl rfl⟩
  · next rest =>
    obtain ⟨n, own⟩ := natural reads
    exact ⟨n, rest, own, .inr (.inl rfl)⟩
  · obtain ⟨n, own⟩ := natural reads
    exact ⟨n, cs, own, .inr (.inr rfl)⟩

/-- So it holds digits and signs only. -/
theorem isDigit_or_sign_of_intValue? (reads : intValue? cs = some i) (mem : c ∈ cs) :
    c.isDigit = true ∨ c = '-' ∨ c = '+' := by
  obtain ⟨n, rest, natural, rfl | rfl | rfl⟩ := exists_of_intValue? reads
  · rcases List.mem_cons.mp mem with rfl | digit
    · exact .inr (.inl rfl)
    · exact .inl (isDigit_of_natValue? natural digit)
  · rcases List.mem_cons.mp mem with rfl | digit
    · exact .inr (.inr rfl)
    · exact .inl (isDigit_of_natValue? natural digit)
  · exact .inl (isDigit_of_natValue? natural mem)

/-- Reading an integer as it is written gives the integer. -/
theorem intValue?_intChars (i : Int) : intValue? (intChars i) = some i := by
  unfold intChars
  split
  · next negative =>
    have value : -(i.natAbs : Int) = i := by omega
    rw [intValue?, natValue?_digits]
    exact congrArg some value
  · next natural =>
    have value : (i.natAbs : Int) = i := by omega
    have noSign {sign : Char} {rest : List Char} (noDigit : sign.isDigit = false) :
        digits i.natAbs ≠ sign :: rest := fun same => by
      have digit := isDigit_of_mem_digits (n := i.natAbs) (same ▸ List.mem_cons_self)
      rw [noDigit] at digit
      cases digit
    unfold intValue?
    split
    · next same => exact absurd same (noSign (by decide))
    · next same => exact absurd same (noSign (by decide))
    · rw [natValue?_digits]
      exact congrArg some value

end Decimal

namespace Settings

variable {s : String} {i : Int}

/-- Digits and signs have no case. -/
theorem lowercase_of_intValue? (reads : Decimal.intValue? s.toList = some i) :
    Text.lowercase s = s := by
  have numeral {c : Char} (mem : c ∈ s.toList) : c.toNat < 0x80 ∧ c.toLower = c := by
    rcases Decimal.isDigit_or_sign_of_intValue? reads mem with digit | rfl | rfl
    · have ascii := Text.ascii_of_isDigit digit
      have all : (!c.isDigit || c.toLower == c) = true :=
        Text.of_ascii (p := fun c => !c.isDigit || c.toLower == c) (by decide +kernel) ascii
      rw [digit, Bool.not_true, Bool.false_or, beq_iff_eq] at all
      exact ⟨ascii, all⟩
    · decide
    · decide
  rw [Text.lowercase_of_ascii fun c mem => (numeral mem).1, Text.asciiLower,
    List.map_congr_left fun c mem => (numeral mem).2, List.map_id', String.ofList_toList]

/-- What reads as an integer of 64 bits is one. -/
theorem scalar?_of_intValue? (reads : Decimal.intValue? s.toList = some i)
    (fits : Word.holdsSigned 64 i = true) : scalar? s = some (.int i) := by
  have noWord {word : String} (letters : Decimal.intValue? word.toList = none) : s ≠ word := by
    rintro rfl
    rw [reads] at letters
    cases letters
  have noTrue : s ≠ "true" := noWord (by decide)
  have noFalse : s ≠ "false" := noWord (by decide)
  simp [scalar?, lowercase_of_intValue? reads, noTrue, noFalse, reads, fits]

/-- Integers of more bits are read as other numbers. -/
theorem holdsSigned_of_scalar? (reads : scalar? s = some (.int i)) :
    Word.holdsSigned 64 i = true := by
  unfold scalar? at reads
  dsimp only at reads
  split at reads
  · cases reads
  · split at reads
    · cases reads
    · rcases Option.or_eq_some_iff.mp reads with int | ⟨-, float⟩
      · obtain ⟨j, kept, same⟩ := Option.map_eq_some_iff.mp int
        cases same
        exact (Option.filter_eq_some_iff.mp kept).2
      · obtain ⟨x, -, same⟩ := Option.map_eq_some_iff.mp float
        cases same

/-- Of an integer nothing but the number is kept. -/
theorem retold_of_intValue? (reads : Decimal.intValue? s.toList = some i)
    (fits : Word.holdsSigned 64 i = true) : retold s = Decimal.ofInt i :=
  retold_of_some (scalar?_of_intValue? reads fits)

/-- A text that is neither a truth value nor a number, or that is written as these are. -/
def IsOwnText (s : String) : Prop :=
  scalar? s = none ∨ s = "true" ∨ s = "false" ∨
    (∃ i, Word.holdsSigned 64 i = true ∧ s = Decimal.ofInt i) ∨
    ∃ x, scalar? s = some (.float x) ∧ s = x.toText

/-- Just these texts go through a configuration as they are. -/
theorem retold_eq_self_iff : retold s = s ↔ IsOwnText s := by
  constructor
  · intro same
    cases reads : scalar? s with
    | none => exact .inl reads
    | some d =>
      rw [retold_of_some reads] at same
      rcases scalar?_cases reads with ⟨b, rfl⟩ | ⟨i, rfl⟩ | ⟨x, rfl⟩
      · cases b with
        | true => exact .inr (.inl same.symm)
        | false => exact .inr (.inr (.inl same.symm))
      · exact .inr (.inr (.inr (.inl ⟨i, holdsSigned_of_scalar? reads, same.symm⟩)))
      · exact .inr (.inr (.inr (.inr ⟨x, reads, same.symm⟩)))
  · rintro (text | rfl | rfl | ⟨i, fits, rfl⟩ | ⟨x, reads, same⟩)
    · exact retold_of_none text
    · decide +kernel
    · decide +kernel
    · refine retold_of_intValue? ?_ fits
      rw [Decimal.ofInt, String.toList_ofList, Decimal.intValue?_intChars]
    · exact (retold_of_some reads).trans same.symm

example : ["007", "+5", "-0", "TRUE", "1e3", "2.50", "Infinity", "nan"].map retold =
    ["7", "5", "0", "true", "1000", "2.5", "inf", "NaN"] := by decide +kernel

end Settings

/-- What becomes of a text in front of counted ids that is written into the environment. -/
structure LabelArrives (env : Environment) (label : String) : Prop where
  /-- The settings are accepted, whatever the text is, and hold what becomes of it. -/
  loads : Settings.load Settings.defaultPrefix env =
    .ok { idGenerator := .counter, idPrefix := Settings.retold label }
  /-- They hold the text itself if and only if it goes through a configuration as it is. -/
  verbatim : Settings.load Settings.defaultPrefix env =
    .ok { idGenerator := .counter, idPrefix := label } ↔ Settings.IsOwnText label
  /-- A broker that is built from the settings counts its ids, and whatever happens to it, they are
  made of what became of the text, a dash and the numbers from one on. -/
  ids : ∀ s seed, Settings.load Settings.defaultPrefix env = .ok s →
    ∃ w, Broker.fromSettings s seed = .ok w ∧
      w.broker.ids = .counted (Settings.retold label) ∧
      ∀ past e, Course w past e → ∀ k x, k + 1 < UInt64.size → (fillings past)[k]? = some x →
        x.value = Settings.retold label ++ "-" ++ Decimal.ofNat (k + 1)

/-- The ids of a counter are made of its text, a dash and the numbers from one on, as long as these
fit in its word. -/
theorem Course.value_of_counted {w : World} {past : List Execution} {e : Execution}
    (c : Course w past e) {label : String} (source : w.broker.ids = .counted label) {k : Nat}
    {x : Filling} (few : k + 1 < UInt64.size) (drawn : (fillings past)[k]? = some x) :
    x.value = label ++ "-" ++ Decimal.ofNat (k + 1) := by
  have value := congrArg (Option.map Filling.value) drawn
  obtain ⟨inside, -⟩ := List.getElem?_eq_some_iff.mp drawn
  rw [← List.getElem?_map, c.values_fillings, source, IdSource.map_ids_counted, List.getElem?_map,
    List.getElem?_range' inside, Option.map_some, Option.map_some, Nat.one_mul, Nat.add_comm,
    Nat.mod_eq_of_lt few] at value
  exact (Option.some.inj value).symm

namespace Settings

/-- The text in front of counted ids arrives through the environment as it went through the
configuration. -/
theorem labelArrives {env : Environment} {label : String}
    (sets : env.Sets [(.idGenerator, "counter"), (.idPrefix, label)]) : LabelArrives env label := by
  have counter : Setting.ofVariable .idGenerator (some "counter") = .ok .counter := by
    decide +kernel
  have loads : load defaultPrefix env =
      .ok { idGenerator := .counter, idPrefix := retold label } := by
    rw [load_of_sets sets]
    refine assemble_eq_ok_iff.mpr fun f => ?_
    cases f with
    | idGenerator => exact counter
    | idPrefix => exact Setting.ofVariable_idPrefix label
    | matchStrategy => exact Setting.ofVariable_none .matchStrategy
    | topics => exact Setting.ofVariable_none .topics
  refine ⟨loads, ?_, fun s seed loaded => ?_⟩
  · rw [loads, ← retold_eq_self_iff]
    simp
  · rw [loads] at loaded
    obtain rfl := Except.ok.inj loaded
    exact ⟨_, rfl, rfl, fun past e c k x few drawn => c.value_of_counted rfl few drawn⟩

/-- A text that only ends with a number is kept, and so are its blanks. -/
theorem labelArrives_room :
    let env : Environment :=
      [("HUBBUB_ID_PREFIX", " room 007"), ("HOME", "/"), ("HUBBUB_ID_GENERATOR", "counter")]
    load defaultPrefix env = .ok { idGenerator := .counter, idPrefix := " room 007" } ∧
      LabelArrives env " room 007" := by
  intro env
  have sets : env.Sets [(.idGenerator, "counter"), (.idPrefix, " room 007")] :=
    ⟨by decide, by decide +kernel, by decide +kernel⟩
  have arrives := labelArrives sets
  exact ⟨arrives.verbatim.mpr (.inl (by decide +kernel)), arrives⟩

/-- A number with zeros in front does not arrive as it is written. -/
theorem load_paddedLabel :
    let env : Environment := [("HUBBUB_ID_GENERATOR", "counter"), ("HUBBUB_ID_PREFIX", "007")]
    env.Sets [(.idGenerator, "counter"), (.idPrefix, "007")] ∧
      load defaultPrefix env = .ok { idGenerator := .counter, idPrefix := "7" } := by
  intro env
  exact ⟨⟨by decide, by decide +kernel, by decide +kernel⟩, by decide +kernel⟩

end Settings

end TopicBroker
