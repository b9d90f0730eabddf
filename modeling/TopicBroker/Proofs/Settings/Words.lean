import TopicBroker.Proofs.Settings.Variables
import TopicBroker.Settings.Reader

/-!
# Words for settings

The strategy and the kind of ids are chosen by words. A text chooses one of them if, without the
blanks at its ends, it is the name up to the case of ASCII letters, and it does not matter on which
way the text comes: by itself, in a document or through the environment. On the last way a text may
be taken for a truth value or for a number and be written anew. That never makes a word out of a
text that is none, nor the other way round, since every word holds a letter that truth values and
numbers are not written with.
-/

namespace TopicBroker

namespace Text

/-- A text without the blanks at its ends is a name, up to the case of ASCII letters. -/
def Names (s name : String) : Prop := asciiLower (trim s) = asciiLower name

instance (s name : String) : Decidable (Names s name) :=
  inferInstanceAs (Decidable (asciiLower (trim s) = asciiLower name))

/-- The characters that are left after trimming were there before. -/
theorem mem_of_mem_trim {s : String} {c : Char} (mem : c ∈ (trim s).toList) : c ∈ s.toList := by
  rw [trim, String.toList_ofList, trimChars, List.mem_reverse] at mem
  have kept := List.mem_reverse.mp ((List.dropWhile_sublist _).subset mem)
  exact (List.dropWhile_sublist _).subset kept

/-- Whether a word holds an ASCII character that truth values and numbers are not written with. -/
def isDistinct (word : String) : Bool :=
  word.toList.any fun d => d.toNat < 0x80 && !isScalarChar d

variable {α : Type} {words : List (String × α)} {s : String}

/-- A text that is one of some words holds such a character if every word does. -/
theorem exists_foreign_of_keyword? (distinct : ∀ a ∈ words, isDistinct a.1 = true) {value : α}
    (chosen : keyword? words s = some value) :
    ∃ c ∈ s.toList, c.toNat < 0x80 ∧ isScalarChar c = false := by
  obtain ⟨before, after, split, -⟩ := List.lookup_eq_some_iff.mp chosen
  have own : (asciiLower (trim s), value) ∈ words := by simp [split]
  obtain ⟨d, hd, letter⟩ := List.any_eq_true.mp (distinct _ own)
  rw [Bool.and_eq_true, decide_eq_true_eq, Bool.not_eq_true'] at letter
  rw [toList_asciiLower] at hd
  obtain ⟨c, hc, rfl⟩ := List.mem_map.mp hd
  exact ⟨c, mem_of_mem_trim hc, foreign_of_toLower letter.1 letter.2⟩

end Text

namespace Settings

open Text

/-- A text that goes through a configuration chooses what it would choose by itself. -/
theorem keyword?_retold {α : Type} {words : List (String × α)}
    (distinct : ∀ a ∈ words, isDistinct a.1 = true) (s : String) :
    keyword? words (retold s) = keyword? words s := by
  cases reads : scalar? s with
  | none => rw [retold_of_none reads]
  | some d =>
    have before : keyword? words s = none := by
      rw [Option.eq_none_iff_forall_ne_some]
      intro value chosen
      obtain ⟨c, mem, ascii, foreign⟩ := exists_foreign_of_keyword? distinct chosen
      rw [scalar?_of_foreign mem ascii foreign] at reads
      cases reads
    have after : keyword? words (retold s) = none := by
      rw [Option.eq_none_iff_forall_ne_some]
      intro value chosen
      obtain ⟨c, mem, -, foreign⟩ := exists_foreign_of_keyword? distinct chosen
      rw [retold_of_some reads] at mem
      rw [isScalarChar_of_mem_scalarText reads mem] at foreign
      cases foreign
    rw [before, after]

/-- On which texts a setting is given, and what is said of all others: a text by itself, the same
text in a document, and the same text in the environment. -/
structure OneGrammar (f : Setting) (name : f.Value → String) (unknown : String → SettingsError)
    (parse : String → Except SettingsError f.Value) (read : Document → Except Refusal f.Value)
    (s : String) : Prop where
  /-- A text by itself is accepted exactly if it is one of the names. -/
  parse_iff : ∀ value, parse s = .ok value ↔ Names s (name value)
  /-- In a document the same texts are accepted, and they mean the same. -/
  read_iff : ∀ value, read (.text s) = .ok value ↔ Names s (name value)
  /-- Through the environment the same texts are accepted, and they mean the same; the other
  settings are the default ones. -/
  load_iff : ∀ env : Environment, env.Sets [(f, s)] → ∀ value,
    load defaultPrefix env = .ok (default.set f value) ↔ Names s (name value)
  /-- Any other text is refused as it stands. -/
  parse_unknown : (∀ value, ¬ Names s (name value)) → parse s = .error (unknown s)
  /-- In a document that is what is said of it. -/
  read_unknown : (∀ value, ¬ Names s (name value)) → read (.text s) = .error (unknown s).message
  /-- Through the environment it is refused for the same reason, and what is refused is the text as
  it went through the configuration. -/
  load_unknown : (∀ value, ¬ Names s (name value)) → ∀ env : Environment, env.Sets [(f, s)] →
    load defaultPrefix env = .error (unknown (retold s))

/-- A setting that is chosen by distinct words, one for each name, has one grammar. -/
theorem oneGrammar_of_words (f : Setting) (words : List (String × f.Value))
    {name : f.Value → String} {unknown : String → SettingsError}
    {parse : String → Except SettingsError f.Value} {read : Document → Except Refusal f.Value}
    (distinct : ∀ a ∈ words, isDistinct a.1 = true)
    (own : ∀ a ∈ words, a.1 = asciiLower (name a.2))
    (named : ∀ value, words.lookup (asciiLower (name value)) = some value)
    (parses : ∀ s, parse s =
      match keyword? words s with
      | some value => .ok value
      | none => .error (unknown s))
    (reads : ∀ s, read (.text s) = (parse s).mapError SettingsError.message)
    (loads : ∀ s, f.ofVariable (some s) = parse (retold s)) (s : String) :
    OneGrammar f name unknown parse read s := by
  have chosen (value : f.Value) : keyword? words s = some value ↔ Names s (name value) := by
    constructor
    · intro found
      obtain ⟨before, after, split, -⟩ := List.lookup_eq_some_iff.mp found
      exact own (asciiLower (trim s), value) (by simp [split])
    · intro names
      rw [keyword?, names, named]
  have none_of (nameless : ∀ value, ¬ Names s (name value)) : keyword? words s = none := by
    rw [Option.eq_none_iff_forall_ne_some]
    exact fun value own => nameless value ((chosen value).mp own)
  have loaded (env : Environment) (sets : env.Sets [(f, s)]) : load defaultPrefix env =
      match keyword? words s with
      | some value => .ok (default.set f value)
      | none => .error (unknown (retold s)) := by
    rw [load_of_sets_single sets, loads, parses, keyword?_retold distinct]
    cases keyword? words s <;> rfl
  refine ⟨fun value => ?_, fun value => ?_, fun env sets value => ?_, fun nameless => ?_,
    fun nameless => ?_, fun nameless env sets => ?_⟩
  · rw [← chosen, parses]
    cases keyword? words s <;> simp
  · rw [← chosen, reads, parses]
    cases keyword? words s <;> simp [Except.mapError]
  · rw [← chosen, loaded env sets]
    cases keyword? words s with
    | none => simp
    | some value' =>
      simp only [Except.ok.injEq, Option.some.injEq]
      refine ⟨fun same => ?_, fun same => by rw [same]⟩
      rw [← get_set_self default f value', same, get_set_self]
  · rw [parses, none_of nameless]
  · rw [reads, parses, none_of nameless]
    rfl
  · rw [loaded env sets, none_of nameless]

/-- Strategies and kinds of ids are written in the same way wherever they are written. -/
theorem oneGrammar (s : String) :
    OneGrammar .matchStrategy MatchStrategy.name .unknownMatchStrategy MatchStrategy.parse
        readMatchStrategy s ∧
      OneGrammar .idGenerator IdGeneratorKind.name .unknownIdGenerator IdGeneratorKind.parse
        readIdGenerator s := by
  refine ⟨oneGrammar_of_words .matchStrategy MatchStrategy.words ?_ ?_ ?_ ?_ ?_ ?_ s,
    oneGrammar_of_words .idGenerator IdGeneratorKind.words ?_ ?_ ?_ ?_ ?_ ?_ s⟩
  · decide +kernel
  · decide +kernel
  · intro value
    cases value <;> decide +kernel
  · intro s
    unfold MatchStrategy.parse MatchStrategy.ofText?
    cases keyword? MatchStrategy.words s <;> rfl
  · intro s
    simp only [readMatchStrategy, Document.readText, bind, Except.bind]
  · exact Setting.ofVariable_matchStrategy
  · decide +kernel
  · decide +kernel
  · intro value
    cases value <;> decide +kernel
  · intro s
    unfold IdGeneratorKind.parse IdGeneratorKind.ofText?
    cases keyword? IdGeneratorKind.words s <;> rfl
  · intro s
    simp only [readIdGenerator, Document.readText, bind, Except.bind]
  · exact Setting.ofVariable_idGenerator

/-- A name in capitals and with blanks around it is accepted. A truth value is refused, in the form
that it has got on its way. -/
theorem oneGrammar_shouted :
    let env : Environment := [("HOME", "/"), ("HUBBUB_MATCH_STRATEGY", " GLOB\t")]
    let env' : Environment := [("HUBBUB_ID_GENERATOR", "TRUE"), ("HUBBUBX", "uuid")]
    load defaultPrefix env = .ok { matchStrategy := .glob } ∧
      load defaultPrefix env' = .error (.unknownIdGenerator "true") := by
  intro env env'
  have sets : env.Sets [(.matchStrategy, " GLOB\t")] :=
    ⟨by decide, by decide +kernel, by decide +kernel⟩
  have sets' : env'.Sets [(.idGenerator, "TRUE")] :=
    ⟨by decide, by decide +kernel, by decide +kernel⟩
  have nameless : ∀ kind : IdGeneratorKind, ¬ Names "TRUE" kind.name := by
    intro kind
    cases kind <;> decide +kernel
  have glob : Names " GLOB\t" MatchStrategy.glob.name := by decide +kernel
  have retold : retold "TRUE" = "true" := by decide +kernel
  refine ⟨((oneGrammar _).1.load_iff env sets .glob).mpr glob, ?_⟩
  rw [(oneGrammar _).2.load_unknown nameless env' sets', retold]

end Settings

end TopicBroker
