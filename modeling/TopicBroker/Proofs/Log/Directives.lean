import TopicBroker.Log.Filter
import TopicBroker.Proofs.Text.Word

/-!
# Reading levels out of directives

The name of a level is a directive by itself, and behind a word and an equals sign it is the level of
all targets that start with the word. Main statements: both are read so, in letters of any case. The
parts of a directive are found in the text as characters and cut out of it as bytes, so the two ways
to count have to agree.
-/

namespace TopicBroker

namespace LogThreshold

/-- The word for a threshold. -/
def word : LogThreshold → String
  | .off => "off"
  | .upTo .error => "error"
  | .upTo .warn => "warn"
  | .upTo .info => "info"
  | .upTo .debug => "debug"
  | .upTo .trace => "trace"

/-- Whether a text is the word for a threshold, in letters of any case. -/
def IsNamed (t : LogThreshold) (s : String) : Prop := Text.asciiLower s = t.word

instance (t : LogThreshold) (s : String) : Decidable (t.IsNamed s) :=
  inferInstanceAs (Decidable (_ = _))

/-- The levels up to a threshold. -/
def levels : LogThreshold → List LogLevel
  | .off => []
  | .upTo .error => [.error]
  | .upTo .warn => [.error, .warn]
  | .upTo .info => [.error, .warn, .info]
  | .upTo .debug => [.error, .warn, .info, .debug]
  | .upTo .trace => [.error, .warn, .info, .debug, .trace]

variable {t : LogThreshold} {s : String}

/-- The word for a threshold is its name. -/
theorem word_eq_name (t : LogThreshold) : t.word = t.name := by
  rcases t with _ | level
  · rfl
  · cases level <;> rfl

/-- The levels up to a threshold are those that it lets through. -/
theorem allows_eq_true_iff {level : LogLevel} : t.allows level = true ↔ level ∈ t.levels := by
  rcases t with _ | most
  · simp [allows_off, levels]
  · cases most <;> cases level <;> decide

/-- The word for a threshold consists of small letters. -/
theorem isLower_word (t : LogThreshold) :
    t.word ≠ "" ∧ t.word.toList.all Char.isLower = true := by
  rcases t with _ | level
  · decide
  · cases level <;> decide

/-- So it is a word, in letters of any case. -/
theorem IsNamed.isWord (named : t.IsNamed s) : Text.IsWord s := by
  obtain ⟨ne, lower⟩ := t.isLower_word
  rw [← named] at ne lower
  exact Text.isWord_of_asciiLower ne lower

/-- A word is no numeral. -/
theorem ofNumeral?_of_isWord (word : Text.IsWord s) : ofNumeral? s.toList = none := by
  obtain ⟨ne, letters⟩ := word
  have noNumber {c : Char} {cs : List Char} (alpha : c.isAlpha = true) :
      Decimal.natValue? (c :: cs) = none := by
    simp [Decimal.natValue?, (Text.separate_of_isAlpha alpha).1]
  cases chars : s.toList with
  | nil => rfl
  | cons c cs =>
    have alpha := letters c (by rw [chars]; exact List.mem_cons_self)
    have noPlus : c ≠ '+' := Text.ne_of_isAlpha alpha (by decide)
    unfold ofNumeral?
    split
    · next eq => exact absurd (List.cons.inj eq).1 noPlus
    · rw [noNumber alpha]
      rfl

/-- A threshold is read back from its name, in letters of any case. -/
theorem ofText?_of_isNamed (named : t.IsNamed s) : ofText? s = some t := by
  rw [ofText?, ofNumeral?_of_isWord named.isWord, Option.none_or, named, word_eq_name]
  rcases t with _ | level
  · decide
  · cases level <;> decide

end LogThreshold

namespace LogDirective

variable {t : LogThreshold} {scope s : String}

/-- The bytes of two texts are counted one after the other. -/
theorem byteCount_append (cs ds : List Char) :
    byteCount (cs ++ ds) = byteCount cs + byteCount ds := by
  have from_ (n : Nat) (cs : List Char) :
      cs.foldl (fun n c => n + c.utf8Size) n = n + byteCount cs := by
    unfold byteCount
    induction cs generalizing n with
    | nil => rfl
    | cons c cs ih =>
      rw [List.foldl_cons, List.foldl_cons, ih, ih (0 + c.utf8Size)]
      omega
  rw [byteCount, List.foldl_append, from_, ← byteCount]

theorem byteCount_cons (c : Char) (cs : List Char) :
    byteCount (c :: cs) = c.utf8Size + byteCount cs :=
  (byteCount_append [c] cs).trans (by simp [byteCount])

/-- A character has at least one byte, and behind its bytes are the others. -/
theorem exists_size_add (n : Nat) (c : Char) :
    ∃ k, c.utf8Size + n = k + 1 ∧ c.utf8Size ≤ k + 1 ∧ k + 1 - c.utf8Size = n := by
  obtain ⟨k, size⟩ := Nat.exists_eq_add_of_lt (Nat.lt_add_right n c.utf8Size_pos)
  exact ⟨k, by omega, by omega, by omega⟩

/-- The bytes of the first character are dropped with it. -/
theorem dropBytes?_cons (n : Nat) (c : Char) (cs : List Char) :
    dropBytes? (c.utf8Size + n) (c :: cs) = dropBytes? n cs := by
  obtain ⟨k, size, fits, rest⟩ := exists_size_add n c
  rw [size, dropBytes?, if_pos fits, rest]

/-- The bytes of the first character are taken with it. -/
theorem takeBytes?_cons (n : Nat) (c : Char) (cs : List Char) :
    takeBytes? (c.utf8Size + n) (c :: cs) = (takeBytes? n cs).map (c :: ·) := by
  obtain ⟨k, size, fits, rest⟩ := exists_size_add n c
  rw [size, takeBytes?, if_pos fits, rest]

/-- Behind its first bytes a text goes on. -/
theorem dropBytes?_append (cs ds : List Char) : dropBytes? (byteCount cs) (cs ++ ds) = some ds := by
  induction cs with
  | nil => cases ds <;> rfl
  | cons c cs ih => rw [byteCount_cons, List.cons_append, dropBytes?_cons, ih]

/-- The first bytes of a text are those of its head. -/
theorem takeBytes?_append (cs ds : List Char) : takeBytes? (byteCount cs) (cs ++ ds) = some cs := by
  induction cs with
  | nil => cases ds <;> rfl
  | cons c cs ih =>
    rw [byteCount_cons, List.cons_append, takeBytes?_cons, ih]
    rfl

/-- The text in front of another one. -/
theorem cut?_head (cs ds : List Char) :
    Extent.cut? ⟨0, byteCount cs⟩ (cs ++ ds) = some (String.ofList cs) := by
  rw [Extent.cut?, show dropBytes? 0 (cs ++ ds) = some (cs ++ ds) by cases cs ++ ds <;> rfl]
  simp [takeBytes?_append]

/-- The text behind another one. -/
theorem cut?_tail (cs ds : List Char) :
    Extent.cut? ⟨byteCount cs, byteCount (cs ++ ds)⟩ (cs ++ ds) = some (String.ofList ds) := by
  have whole : takeBytes? (byteCount ds) ds = some ds := by
    simpa using takeBytes?_append ds []
  rw [Extent.cut?, dropBytes?_append, Option.bind_some, byteCount_append, Nat.add_sub_cancel_left,
    whole]
  rfl

/-- A word at the start of a text is what is taken for its head, up to a sign. -/
theorem outline?_append {word : List Char} (rest : List Char) (ne : word ≠ [])
    (letters : ∀ c ∈ word, c.isAlpha = true)
    (sign : ∀ c ∈ rest.head?, c = '=') :
    outline? (word ++ rest) = some (if rest.isEmpty then none else
      some { target := some ⟨0, byteCount word⟩, level := some (byteCount word + 1) }) := by
  have head : (word ++ rest).takeWhile (fun c => c != '=' && c != '[') = word := by
    rw [List.takeWhile_append_of_pos]
    · cases rest with
      | nil => simp
      | cons d tail =>
        obtain rfl := sign d rfl
        simp
    · intro c mem
      have noEquals : c ≠ '=' := Text.ne_of_isAlpha (letters c mem) (by decide)
      have noBracket : c ≠ '[' := Text.ne_of_isAlpha (letters c mem) (by decide)
      simp [noEquals, noBracket]
  obtain ⟨c, cs, rfl⟩ := List.exists_cons_of_ne_nil ne
  have alpha := letters c List.mem_cons_self
  have start : canStart c = true := by simp [canStart, Char.isAlphanum, alpha]
  have noBracket : c ≠ '[' := Text.ne_of_isAlpha alpha (by decide)
  rw [List.cons_append] at head ⊢
  unfold outline?
  split
  · next eq => cases eq
  · next eq => exact absurd (List.cons.inj eq).1 noBracket
  · next eq =>
    obtain ⟨rfl, rfl⟩ := List.cons.inj eq
    rw [if_pos start, head, ← List.cons_append]
    dsimp only
    rw [List.drop_left]
    cases rest with
    | nil => rfl
    | cons d tail =>
      obtain rfl := sign d rfl
      rfl

/-- The name of a level is a directive for all targets. -/
theorem ofText_of_isNamed (named : t.IsNamed s) : ofText s = .ok { threshold := t } := by
  obtain ⟨ne, letters⟩ := named.isWord
  have trimmed : Text.trimChars s.toList = s.toList :=
    Text.trimChars_eq_self fun c mem => (Text.separate_of_isAlpha (letters c mem)).2
  have chars : s.toList ≠ [] := fun empty => ne (String.toList_eq_nil_iff.mp empty)
  have outline := outline?_append [] chars letters (by simp)
  rw [List.append_nil] at outline
  rw [ofText, trimmed, outline, ofWord, LogThreshold.ofText?_of_isNamed named]
  rfl

/-- The text of a level is read, unless it is empty. -/
theorem readLevel_of_isNamed (named : t.IsNamed s) : readLevel s = .ok t := by
  have ne : s.isEmpty = false := by simpa using named.isWord.1
  rw [readLevel, ne, LogThreshold.ofText?_of_isNamed named]
  rfl

/-- Behind a name and an equals sign it is one for the targets that start with the name. -/
theorem ofText_level (word : Text.IsWord scope) (named : t.IsNamed s) :
    ofText (scope ++ "=" ++ s) = .ok { target := some scope, threshold := t } := by
  have chars : (scope ++ "=" ++ s).toList = scope.toList ++ '=' :: s.toList := by simp
  have parts : scope.toList ++ '=' :: s.toList = (scope.toList ++ ['=']) ++ s.toList := by simp
  have trimmed : Text.trimChars (scope.toList ++ '=' :: s.toList) =
      scope.toList ++ '=' :: s.toList := by
    refine Text.trimChars_eq_self fun c mem => ?_
    rcases List.mem_append.mp mem with inScope | behind
    · exact (Text.separate_of_isAlpha (word.2 c inScope)).2
    · rcases List.mem_cons.mp behind with rfl | inLevel
      · decide
      · exact (Text.separate_of_isAlpha (named.isWord.2 c inLevel)).2
  have outline := outline?_append ('=' :: s.toList)
    (fun empty => word.1 (String.toList_eq_nil_iff.mp empty)) word.2 (by simp)
  have target : part (scope.toList ++ '=' :: s.toList) (some ⟨0, byteCount scope.toList⟩) =
      .ok (some scope) := by
    rw [part, cut?_head, String.ofList_toList]
  have level : part (scope.toList ++ '=' :: s.toList)
      (some ⟨byteCount scope.toList + 1, byteCount (scope.toList ++ '=' :: s.toList)⟩) =
        .ok (some s) := by
    have first : byteCount scope.toList + 1 = byteCount (scope.toList ++ ['=']) := by
      rw [byteCount_append]
      rfl
    rw [part, first, parts, cut?_tail, String.ofList_toList]
  rw [ofText, chars, trimmed, outline]
  simp only [List.isEmpty_cons, Bool.false_eq_true, if_false, ofOutline, target, Option.map_some,
    level]
  show (readLevel s).map _ = _
  rw [readLevel_of_isNamed named]
  rfl

end LogDirective

end TopicBroker
