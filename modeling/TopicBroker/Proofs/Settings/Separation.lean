import Mathlib.Data.List.Infix
import TopicBroker.Log.Config
import TopicBroker.Proofs.Settings.Variables

/-!
# Settings and other variables

Here names are made of ASCII letters, digits and underscores, as names of variables usually are.
Then settings depend on nothing but the last values of their own four variables, and each of them on
nothing but the last value of its own one. Which variables are others is less clear than it seems,
since the name of one label may go on where that of another ends: what separates them is that no
word for a setting ends with an underscore and another word.
-/

namespace TopicBroker

namespace Text

/-- Whether a text is made of ASCII letters, digits and underscores. -/
def isPlain (s : String) : Bool := s.toList.all fun c => c.isAlphanum || c == '_'

/-- Whether two names are the same up to the case of ASCII letters. -/
def sameName (s t : String) : Bool := asciiLower s == asciiLower t

/-- Names are the same if they have the same lower case. -/
theorem sameName_iff {s t : String} : sameName s t = true ↔ asciiLower s = asciiLower t :=
  beq_iff_eq

/-- Letters, digits and underscores are characters of ASCII. -/
theorem ascii_of_isAlphanum {c : Char} (plain : (c.isAlphanum || c == '_') = true) :
    c.toNat < 0x80 := by
  rcases Bool.or_eq_true_iff.mp plain with alphanum | underscore
  · rcases Bool.or_eq_true_iff.mp alphanum with letter | digit
    · rcases Bool.or_eq_true_iff.mp letter with upper | lower
      · have bound : c.val ≤ 'Z'.val := (of_decide_eq_true upper).2
        exact Nat.lt_of_le_of_lt bound (by decide)
      · have bound : c.val ≤ 'z'.val := of_decide_eq_true (Bool.and_eq_true_iff.mp lower).2
        exact Nat.lt_of_le_of_lt bound (by decide)
    · exact ascii_of_isDigit digit
  · rw [eq_of_beq underscore]
    decide

/-- In lower case they may stand in the name of a field. -/
theorem isNameChar_toLower {c : Char} (plain : (c.isAlphanum || c == '_') = true) :
    Path.isNameChar c.toLower = true := by
  have all : (!(c.isAlphanum || c == '_') || Path.isNameChar c.toLower) = true :=
    of_ascii (p := fun c => !(c.isAlphanum || c == '_') || Path.isNameChar c.toLower)
      (by decide +kernel) (ascii_of_isAlphanum plain)
  simpa [plain] using all

/-- A plain text is mapped letter by letter. -/
theorem lowercase_of_plain {s : String} (plain : isPlain s = true) : lowercase s = asciiLower s :=
  lowercase_of_ascii fun c mem => ascii_of_isAlphanum (List.all_eq_true.mp plain c mem)

/-- The lower case of two texts in a row. -/
theorem asciiLower_append (s t : String) : asciiLower (s ++ t) = asciiLower s ++ asciiLower t := by
  rw [← String.toList_inj, String.toList_append]
  simp only [toList_asciiLower, String.toList_append, List.map_append]

end Text

open Text

/-- A name of letters, digits and the like is the name of a field. -/
theorem Path.ofText_of_isNameChar {s : String} (all : ∀ c ∈ s.toList, isNameChar c = true) :
    ofText s = [.field s] := by
  have taken : s.toList.takeWhile isNameChar = s.toList := List.takeWhile_eq_self_iff.mpr all
  have left : s.toList.dropWhile isNameChar = [] := List.dropWhile_eq_nil_iff.mpr all
  unfold ofText name?
  dsimp only
  rw [taken, left, String.ofList_toList]
  by_cases empty : s.toList.isEmpty = true
  · simp [empty]
  · simp [empty, steps?]

/-- An environment of variables with plain names. -/
def Environment.Plain (env : Environment) : Prop := ∀ a ∈ env, isPlain a.1 = true

instance (env : Environment) : Decidable env.Plain :=
  inferInstanceAs (Decidable (∀ a ∈ env, isPlain a.1 = true))

namespace Settings

/-- The name of the variable of a setting, in lower case, ends with the key of the setting. -/
theorem asciiLower_variableName (label : String) (f : Setting) :
    asciiLower (f.variableName label) = asciiLower (label ++ "_") ++ f.key := by
  have word : asciiLower f.word = f.key := by cases f <;> decide +kernel
  rw [Setting.variableName, asciiLower_append, word]

/-- The key for which a variable stands is what follows the label. -/
theorem keyOf?_eq_some_iff {label name key : String} (plainLabel : isPlain label = true)
    (plainName : isPlain name = true) :
    keyOf? label name = some key ↔ asciiLower name = asciiLower (label ++ "_") ++ key := by
  have plainStart : isPlain (label ++ "_") = true := by
    unfold isPlain at plainLabel ⊢
    rw [String.toList_append, List.all_append, plainLabel]
    decide
  unfold keyOf?
  rw [lowercase_of_plain plainStart, lowercase_of_plain plainName]
  generalize asciiLower (label ++ "_") = start
  generalize asciiLower name = whole
  dsimp only
  constructor
  · intro isKey
    split at isKey
    · next begins =>
      obtain ⟨rest, split⟩ := List.isPrefixOf_iff_prefix.mp begins
      rw [← split, List.drop_left] at isKey
      rw [← Option.some.inj isKey, ← String.toList_inj, ← split, String.toList_append,
        String.toList_ofList]
    · cases isKey
  · rintro rfl
    have begins : start.toList.isPrefixOf (start ++ key).toList = true := by
      rw [String.toList_append, List.isPrefixOf_iff_prefix]
      exact List.prefix_append _ _
    rw [if_pos begins, String.toList_append, List.drop_left, String.ofList_toList]

variable {label : String} {env env' : Environment}

/-- A variable stands for a setting exactly if it has the name of the variable of the setting. -/
theorem keyOf?_eq_key_iff {name : String} (plainLabel : isPlain label = true)
    (plainName : isPlain name = true) (f : Setting) :
    keyOf? label name = some f.key ↔ sameName name (f.variableName label) = true := by
  rw [keyOf?_eq_some_iff plainLabel plainName, sameName_iff, asciiLower_variableName]

/-- Variables with plain names stand for fields of the configuration. -/
theorem direct_of_plain (plainLabel : isPlain label = true) (plain : env.Plain) :
    Direct label env := by
  intro a ha key isKey
  have name := (keyOf?_eq_some_iff plainLabel (plain a ha)).mp isKey
  refine Path.ofText_of_isNameChar fun c hc => ?_
  have mem : c ∈ (asciiLower a.1).toList := by
    rw [name, String.toList_append]
    exact List.mem_append_right _ hc
  rw [toList_asciiLower] at mem
  obtain ⟨d, hd, rfl⟩ := List.mem_map.mp mem
  exact isNameChar_toLower (List.all_eq_true.mp (plain a ha) d hd)

end Settings

namespace Environment

/-- The last value that an environment has for a name, in whatever case the name is written. -/
def last? (env : Environment) (name : String) : Option String :=
  (env.filterMap fun a => if sameName a.1 name then some a.2 else none).getLast?

/-- The variables of the given names. -/
def only (env : Environment) (names : List String) : Environment :=
  env.filter fun a => names.any (sameName a.1)

/-- All variables but those of the given names. -/
def without (env : Environment) (names : List String) : Environment :=
  env.filter fun a => !names.any (sameName a.1)

variable {names : List String} {name : String}

/-- The other variables do not matter for the last value. -/
theorem last?_only (env : Environment) (mem : name ∈ names) :
    (env.only names).last? name = env.last? name := by
  unfold last? only
  rw [List.filterMap_filter]
  refine congrArg List.getLast? (List.filterMap_congr fun a _ => ?_)
  by_cases own : sameName a.1 name = true
  · have listed : names.any (sameName a.1) = true := List.any_eq_true.mpr ⟨name, mem, own⟩
    rw [if_pos listed]
  · rw [if_neg own, ite_self]

/-- A variable of another name does not matter for it. -/
theorem last?_without (env : Environment) (other : ∀ n ∈ names, sameName n name = false) :
    (env.without names).last? name = env.last? name := by
  unfold last? without
  rw [List.filterMap_filter]
  refine congrArg List.getLast? (List.filterMap_congr fun a _ => ?_)
  by_cases own : sameName a.1 name = true
  · have unlisted : names.any (sameName a.1) = false := by
      rw [List.any_eq_false]
      intro n hn same
      have others := other n hn
      rw [sameName, ← sameName_iff.mp same, sameName_iff.mp own, beq_self_eq_true] at others
      cases others
    rw [unlisted]
    rfl
  · rw [if_neg own, ite_self]

end Environment

namespace Settings

variable {label : String} {env env' : Environment}

/-- Settings are made from the last values of their variables. -/
theorem load_of_plain (plainLabel : isPlain label = true) (plain : env.Plain) :
    load label env = assemble fun f => f.ofVariable (env.last? (f.variableName label)) := by
  have same (f : Setting) : lastFor? label f.key env = env.last? (f.variableName label) := by
    have chosen : ∀ a ∈ env, (if keyOf? label a.1 = some f.key then some a.2 else none) =
        if sameName a.1 (f.variableName label) then some a.2 else none := fun a ha => by
      simp only [keyOf?_eq_key_iff plainLabel (plain a ha)]
    rw [lastFor?, Environment.last?, List.filterMap_congr chosen]
  simp only [load_eq_assemble (direct_of_plain plainLabel plain), same]

/-- Environments with the same last values give the same settings. -/
theorem load_congr (plainLabel : isPlain label = true) (plain : env.Plain) (plain' : env'.Plain)
    (same : ∀ f : Setting, env'.last? (f.variableName label) = env.last? (f.variableName label)) :
    load label env' = load label env := by
  rw [load_of_plain plainLabel plain, load_of_plain plainLabel plain']
  simp only [same]

/-- The names of the variables that hold settings. -/
def variableNames (label : String) : List String :=
  [.idGenerator, .idPrefix, .matchStrategy, .topics].map fun f : Setting => f.variableName label

/-- Every setting has its variable. -/
theorem mem_variableNames {name : String} :
    name ∈ variableNames label ↔ ∃ f : Setting, name = f.variableName label := by
  constructor
  · intro mem
    obtain ⟨f, -, rfl⟩ := List.mem_map.mp mem
    exact ⟨f, rfl⟩
  · rintro ⟨f, rfl⟩
    exact List.mem_map_of_mem (by cases f <;> decide)

/-- What is in front of the word in the name of a variable. -/
theorem toList_asciiLower_variableName (label : String) (f : Setting) :
    (asciiLower (f.variableName label)).toList =
      (asciiLower label).toList ++ '_' :: f.key.toList := by
  rw [asciiLower_variableName, String.toList_append, asciiLower_append, String.toList_append,
    List.append_assoc]
  rfl

/-- No key ends with an underscore and another key, so a name ends with one key only. -/
theorem eq_of_append_key {start start' : List Char} {f g : Setting}
    (same : start ++ '_' :: f.key.toList = start' ++ '_' :: g.key.toList) :
    f = g ∧ start = start' := by
  have apart : ∀ f g : Setting, '_' :: g.key.toList <:+ '_' :: f.key.toList → f = g := by
    intro f g
    cases f <;> cases g <;> decide +kernel
  have own : f = g := by
    rcases List.append_eq_append_iff.mp same with ⟨between, -, ends⟩ | ⟨between, -, ends⟩
    · exact apart f g ⟨between, ends.symm⟩
    · exact (apart g f ⟨between, ends.symm⟩).symm
  subst own
  exact ⟨rfl, List.append_cancel_right same⟩

/-- Variables of different labels, or for different settings, have different names. -/
theorem sameName_variableName {label label' : String} {f g : Setting}
    (same : sameName (f.variableName label) (g.variableName label') = true) :
    f = g ∧ sameName label label' = true := by
  have lists := congrArg String.toList (sameName_iff.mp same)
  rw [toList_asciiLower_variableName, toList_asciiLower_variableName] at lists
  obtain ⟨own, front⟩ := eq_of_append_key lists
  exact ⟨own, sameName_iff.mpr (String.toList_inj.mp front)⟩

/-- The variable for the layout of the log holds no setting, whatever the label. -/
theorem sameName_formatVariable (label : String) (f : Setting) :
    sameName LoggingConfig.formatVariable (f.variableName label) = false := by
  have apart : ¬ '_' :: f.key.toList <:+ (asciiLower LoggingConfig.formatVariable).toList := by
    cases f <;> decide +kernel
  rw [← Bool.not_eq_true, sameName_iff]
  intro same
  rw [same, toList_asciiLower_variableName] at apart
  exact apart (List.suffix_append _ _)

/-- What settings depend on that are loaded from an environment. -/
structure OwnVariables (label : String) (env : Environment) : Prop where
  /-- They are put together from single settings, each made from the last value of its variable. -/
  made : load label env = assemble fun f => f.ofVariable (env.last? (f.variableName label))
  /-- So they depend on the last values of their variables. -/
  last : ∀ env' : Environment, env'.Plain →
    (∀ f : Setting, env'.last? (f.variableName label) = env.last? (f.variableName label)) →
    load label env' = load label env
  /-- Other variables can be added, removed and put in another order. -/
  others : ∀ env' : Environment, env'.Plain →
    env'.only (variableNames label) = env.only (variableNames label) →
    load label env' = load label env
  /-- Others are the variables for the settings under another label, also where one of the labels
  goes on where the other ends. -/
  labels : ∀ label' : String, sameName label' label = false → ∀ env' : Environment, env'.Plain →
    env'.without (variableNames label') = env.without (variableNames label') →
    load label env' = load label env
  /-- So is the variable for the layout of the log. -/
  layout : ∀ env' : Environment, env'.Plain →
    env'.without [LoggingConfig.formatVariable] = env.without [LoggingConfig.formatVariable] →
    load label env' = load label env
  /-- A setting is the default one if its variable is not there. -/
  absent : ∀ s, load label env = .ok s → ∀ f : Setting,
    env.last? (f.variableName label) = none → s.get f = default.get f
  /-- Every setting depends on the last value of its own variable. -/
  single : ∀ s, load label env = .ok s → ∀ (env' : Environment) (s' : Settings), env'.Plain →
    load label env' = .ok s' → ∀ f : Setting,
    env'.last? (f.variableName label) = env.last? (f.variableName label) → s'.get f = s.get f

/-- Settings depend on their own variables only. -/
theorem ownVariables {label : String} (plainLabel : isPlain label = true) {env : Environment}
    (plain : env.Plain) : OwnVariables label env := by
  have congruent (env' : Environment) (plain' : env'.Plain)
      (same : ∀ f : Setting, env'.last? (f.variableName label) = env.last? (f.variableName label)) :
      load label env' = load label env := load_congr plainLabel plain plain' same
  have own {env : Environment} (plain : env.Plain) {s : Settings} (made : load label env = .ok s)
      (f : Setting) : f.ofVariable (env.last? (f.variableName label)) = .ok (s.get f) := by
    rw [load_of_plain plainLabel plain] at made
    exact assemble_eq_ok_iff.mp made f
  refine ⟨load_of_plain plainLabel plain, congruent, fun env' plain' same => ?_,
    fun label' other env' plain' same => ?_,
    fun env' plain' same => ?_, fun s made f none => ?_,
    fun s made env' s' plain' made' f same => ?_⟩
  · refine congruent env' plain' fun f => ?_
    have mem : f.variableName label ∈ variableNames label := mem_variableNames.mpr ⟨f, rfl⟩
    rw [← env'.last?_only mem, ← env.last?_only mem, same]
  · refine congruent env' plain' fun f => ?_
    have apart : ∀ n ∈ variableNames label', sameName n (f.variableName label) = false := by
      intro n hn
      obtain ⟨g, rfl⟩ := mem_variableNames.mp hn
      rw [← Bool.not_eq_true] at other ⊢
      exact fun clash => other (sameName_variableName clash).2
    rw [← env'.last?_without apart, ← env.last?_without apart, same]
  · refine congruent env' plain' fun f => ?_
    have apart : ∀ n ∈ [LoggingConfig.formatVariable], sameName n (f.variableName label) = false :=
      List.forall_mem_singleton.mpr (sameName_formatVariable label f)
    rw [← env'.last?_without apart, ← env.last?_without apart, same]
  · have made := own plain made f
    rw [none, f.ofVariable_none] at made
    exact (Except.ok.inj made).symm
  · have made' := own plain' made' f
    rw [same, own plain made f] at made'
    exact (Except.ok.inj made').symm

/-- A longer label and the layout of the log do not matter, and neither does the first of two
spellings of one name. -/
theorem ownVariables_longerLabel :
    let env : Environment := [("HUBBUB_T1_ID_PREFIX", "t"), ("hubbub_id_prefix", "a"),
      ("HUBBUB_LOG_FORMAT", "%m"), ("HUBBUB_T1_TOPICS", "x,y"), ("HUBBUB_ID_PREFIX", "b")]
    let own : Environment := [("HUBBUB_ID_PREFIX", "b")]
    load defaultPrefix env = load defaultPrefix own ∧
      load defaultPrefix own = .ok { idPrefix := "b" } := by
  intro env own
  have plainLabel : isPlain defaultPrefix = true := by decide +kernel
  have plain : own.Plain := by decide +kernel
  have plain' : env.Plain := by decide +kernel
  have same (f : Setting) : env.last? (f.variableName defaultPrefix) =
      own.last? (f.variableName defaultPrefix) := by
    cases f <;> decide +kernel
  exact ⟨(ownVariables plainLabel plain).last env plain' same, by decide +kernel⟩

end Settings

end TopicBroker
