import TopicBroker.Log.Config.Reader
import TopicBroker.Proofs.Text.Ascii

/-!
# Two ways to choose a layout

The layout of records is chosen by a word, in a document or by a variable of the environment. The two
have the same words for the same layouts, but only the variable takes them in letters of any case.
Main statement: which texts are accepted on either way, and that a document with a layout comes to
the same as the document without it and the variable if and only if the text has no capitals, or is
accepted on neither way.
-/

namespace TopicBroker

namespace LogFormat

variable {s : String} {f : LogFormat}

/-- The word for a layout. -/
def word (f : LogFormat) : String := Text.asciiLower f.name

/-- The words stand for these layouts. -/
theorem lookup_words : words.lookup s = some f ↔ s = f.word := by
  constructor
  · intro found
    obtain ⟨before, after, split, -⟩ := List.lookup_eq_some_iff.mp found
    have own : ∀ w ∈ words, w.1 = w.2.word := by decide +kernel
    exact own (s, f) (by simp [split])
  · rintro rfl
    cases f <;> decide +kernel

/-- A word has no capitals. -/
theorem asciiLower_word (f : LogFormat) : Text.asciiLower f.word = f.word := by
  cases f <;> decide +kernel

/-- By itself a text is a layout if it is the word for it in letters of any case. -/
theorem ofText?_eq_some_iff : ofText? s = some f ↔ Text.asciiLower s = f.word := lookup_words

/-- In a document a text is a layout if it is just the word for it. -/
theorem ofDocument_text_eq_ok_iff : ofDocument (.text s) = .ok f ↔ s = f.word := by
  rw [← lookup_words, ofDocument, ofWord]
  cases words.lookup s <;> simp

/-- So documents accept less, and what they accept means the same by itself. -/
theorem ofDocument_eq_ok_iff_ofText? :
    ofDocument (.text s) = .ok f ↔ ofText? s = some f ∧ Text.asciiLower s = s := by
  rw [ofDocument_text_eq_ok_iff, ofText?_eq_some_iff]
  constructor
  · rintro rfl
    exact ⟨asciiLower_word f, asciiLower_word f⟩
  · rintro ⟨own, lower⟩
    rw [← lower, own]

end LogFormat

namespace LoggingConfig

variable {s : String} {f : LogFormat} {c c₀ c' : LoggingConfig} {d d' : Document}
  {fields front back : List (String × Document)} {env : Environment}

/-- The field that holds the layout. -/
def formatField : String := "format"

/-- The configuration with another layout. -/
def withFormat (f : LogFormat) (c : LoggingConfig) : LoggingConfig := { c with format := f }

/-- Whether a document is another one, in which no layout is chosen, and the text of a layout
besides. In a list the layout stands at the third place. -/
inductive AddsFormat (s : String) : Document → Document → Prop
  /-- A field of a map. -/
  | field {front back : List (String × Document)}
    (free : ∀ x ∈ front ++ back, x.1 ≠ formatField) :
    AddsFormat s (.map (front ++ back)) (.map (front ++ (formatField, .text s) :: back))
  /-- An item of a list. -/
  | item (level brokerLevel : Document) :
    AddsFormat s (.list [level, brokerLevel]) (.list [level, brokerLevel, .text s])

/-- The other fields are read whatever the layout is. -/
theorem readField_withFormat (f : LogFormat) (c : LoggingConfig) {x : String × Document}
    (other : x.1 ≠ formatField) :
    readField (withFormat f c) x = (readField c x).map (withFormat f) := by
  obtain ⟨name, value⟩ := x
  unfold readField
  dsimp only
  split
  · cases value.readText <;> rfl
  · cases value.readOptionalText <;> rfl
  · exact absurd rfl other
  · cases value.readTruth <;> rfl
  · cases value.readTruth <;> rfl
  · cases value.readTruth <;> rfl
  · rfl

/-- So a layout that is put in first stays until all of them are read. -/
theorem foldlM_withFormat (f : LogFormat) (c : LoggingConfig)
    (free : ∀ x ∈ fields, x.1 ≠ formatField) :
    fields.foldlM readField (withFormat f c) = (fields.foldlM readField c).map (withFormat f) := by
  induction fields generalizing c with
  | nil => rfl
  | cons x rest ih =>
    rw [List.foldlM_cons, List.foldlM_cons, readField_withFormat f c (free x List.mem_cons_self)]
    cases readField c x with
    | error e => rfl
    | ok c => exact ih c fun y hy => free y (List.mem_cons_of_mem _ hy)

/-- The layout among other fields is read as it is by itself. -/
theorem readField_format (c : LoggingConfig) (value : Document) :
    readField c (formatField, value) = (LogFormat.ofDocument value).map fun f => withFormat f c := by
  simp only [readField, formatField]
  cases LogFormat.ofDocument value <;> rfl

/-- A layout is put among other fields: they are read, it is read, and it takes its place. -/
theorem foldlM_format_eq_ok_iff (free : ∀ x ∈ front ++ back, x.1 ≠ formatField) :
    (front ++ (formatField, .text s) :: back).foldlM readField c₀ = .ok c' ↔
      ∃ c f, (front ++ back).foldlM readField c₀ = .ok c ∧
        LogFormat.ofDocument (.text s) = .ok f ∧ withFormat f c = c' := by
  rw [List.foldlM_append, List.foldlM_append]
  cases front.foldlM readField c₀ with
  | error e => simp [bind, Except.bind]
  | ok c₁ =>
    have later (x) (hx : x ∈ back) : x.1 ≠ formatField := free x (List.mem_append_right _ hx)
    simp only [bind, Except.bind, List.foldlM_cons, readField_format]
    cases LogFormat.ofDocument (.text s) with
    | error e => simp [Except.map]
    | ok f =>
      simp only [Except.map, foldlM_withFormat f c₁ later]
      cases back.foldlM readField c₁ <;> simp

/-- A list that is not too long is read like the map of its items. -/
theorem ofDocument_list {items : List Document} (short : items.length ≤ fieldNames.length) :
    ofDocument (.list items) = ofDocument (.map (fieldNames.zip items)) := by
  simp only [ofDocument, short, if_true]
  exact bind_pure _

/-- A document with a layout is accepted if the document without it is and the layout is, and it
differs in the layout only. -/
theorem ofDocument_eq_ok_iff_of_addsFormat (adds : AddsFormat s d d') :
    ofDocument d' = .ok c' ↔
      ∃ c f, ofDocument d = .ok c ∧ LogFormat.ofDocument (.text s) = .ok f ∧
        withFormat f c = c' := by
  cases adds with
  | field free => exact foldlM_format_eq_ok_iff free
  | item level brokerLevel =>
    have free : ∀ x ∈ [("level", level), ("broker_level", brokerLevel)] ++ [],
        x.1 ≠ formatField := by simp [formatField]
    rw [ofDocument_list (by simp [fieldNames]), ofDocument_list (by simp [fieldNames])]
    exact foldlM_format_eq_ok_iff free

/-- The variable chooses a layout without a notice if its text is accepted, and only then. -/
theorem override_eq_silent_iff (chosen : env.get? formatVariable = some s) :
    c.override env = (c', []) ↔ ∃ f, LogFormat.ofText? s = some f ∧ withFormat f c = c' := by
  simp only [override, chosen]
  cases LogFormat.ofText? s <;> simp [withFormat]

/-- How the layout is chosen by a text, in a document and by the variable. -/
structure FormatReadings (s : String) : Prop where
  /-- By itself a text is a layout if it is the word for it in letters of any case. -/
  alone : ∀ f, LogFormat.ofText? s = some f ↔ Text.asciiLower s = f.word
  /-- In a document it is one if it is just the word. -/
  written : ∀ f, LogFormat.ofDocument (.text s) = .ok f ↔ s = f.word
  /-- So the two agree if and only if the text has no capitals, or is no layout at all. -/
  agree : (∀ f, LogFormat.ofText? s = some f ↔ LogFormat.ofDocument (.text s) = .ok f) ↔
    Text.asciiLower s = s ∨ LogFormat.ofText? s = none
  /-- A document with the layout is accepted if and only if the document without it is, the variable
  is, and the text has no capitals. Then both ways lead to the same configuration. -/
  config : ∀ env : Environment, env.get? formatVariable = some s → ∀ d d', AddsFormat s d d' →
    ∀ c', ofDocument d' = .ok c' ↔
      ∃ c, ofDocument d = .ok c ∧ c.override env = (c', []) ∧ Text.asciiLower s = s
  /-- A text that is no word is refused in a document, as it stands. -/
  refused : (∀ f : LogFormat, s ≠ f.word) → LogFormat.ofDocument (.text s) =
    .error ("unknown variant `" ++ s ++ "`, expected one of `pretty`, `compact`, `json`")
  /-- A variable that holds no word in letters of any case leaves every configuration as it is. -/
  kept : (∀ f : LogFormat, Text.asciiLower s ≠ f.word) → ∀ env : Environment,
    env.get? formatVariable = some s → ∀ c : LoggingConfig, c.override env =
      (c, ["unknown log format: " ++ Text.asciiLower s ++ "; keeping " ++ c.format.name])

/-- A layout is chosen by the same words in a document and by the variable, but in a document
capitals count. -/
theorem formatReadings (s : String) : FormatReadings s := by
  refine ⟨fun f => LogFormat.ofText?_eq_some_iff, fun f => LogFormat.ofDocument_text_eq_ok_iff,
    ⟨fun agree => ?_, ?_⟩, fun env chosen d d' adds c' => ?_, fun noWord => ?_,
    fun noWord env chosen c => ?_⟩
  · cases own : LogFormat.ofText? s with
    | none => exact .inr rfl
    | some f => exact .inl (LogFormat.ofDocument_eq_ok_iff_ofText?.mp ((agree f).mp own)).2
  · rintro (lower | none) f
    · rw [LogFormat.ofDocument_eq_ok_iff_ofText?, and_iff_left lower]
    · rw [LogFormat.ofDocument_eq_ok_iff_ofText?, none]
      simp
  · rw [ofDocument_eq_ok_iff_of_addsFormat adds]
    simp only [override_eq_silent_iff chosen, LogFormat.ofDocument_eq_ok_iff_ofText?]
    constructor
    · rintro ⟨c, f, read, ⟨own, lower⟩, same⟩
      exact ⟨c, read, ⟨f, own, same⟩, lower⟩
    · rintro ⟨c, read, ⟨f, own, same⟩, lower⟩
      exact ⟨c, f, read, ⟨own, lower⟩, same⟩
  · have unknown : LogFormat.words.lookup s = none :=
      Option.eq_none_iff_forall_ne_some.mpr fun f found => noWord f (LogFormat.lookup_words.mp found)
    have known : "`, expected one of " ++
        ", ".intercalate (LogFormat.words.map fun w => "`" ++ w.1 ++ "`") =
          "`, expected one of `pretty`, `compact`, `json`" := by decide +kernel
    rw [LogFormat.ofDocument, LogFormat.ofWord, unknown]
    dsimp only
    rw [String.append_assoc, known]
  · have unknown : LogFormat.ofText? s = none :=
      Option.eq_none_iff_forall_ne_some.mpr fun f found =>
        noWord f (LogFormat.ofText?_eq_some_iff.mp found)
    unfold override LogFormat.unknownMessage
    simp only [chosen, unknown]

/-- Among other fields the word for a layout comes to the same as by the variable. -/
theorem formatReadings_amongFields :
    let c : LoggingConfig := { level := "warn", brokerLevel := some "debug" }
    let env : Environment := [("HOME", "/"), ("HUBBUB_LOG_FORMAT", "compact")]
    ofDocument (.map [("broker_level", .text "debug"), ("level", .text "warn")]) = .ok c ∧
      c.override env = ({ c with format := .compact }, []) ∧
      ofDocument (.map [("broker_level", .text "debug"), ("format", .text "compact"),
        ("level", .text "warn")]) = .ok { c with format := .compact } := by
  intro c env
  have free : ∀ x ∈ [("broker_level", Document.text "debug")] ++ [("level", .text "warn")],
      x.1 ≠ formatField := by simp [formatField]
  have adds : AddsFormat "compact" _ _ := .field free
  have overridden : c.override env = ({ c with format := .compact }, []) := by decide +kernel
  have chosen : env.get? formatVariable = some "compact" := by decide +kernel
  have lower : Text.asciiLower "compact" = "compact" := by decide +kernel
  exact ⟨rfl, overridden,
    ((formatReadings "compact").config env chosen _ _ adds _).mpr ⟨c, rfl, overridden, lower⟩⟩

/-- A layout in capitals is chosen by the variable. In a document it is refused, and with it the
whole configuration. -/
theorem ofDocument_capitals :
    LogFormat.ofText? "JSON" = some .json ∧
      default.override [("HUBBUB_LOG_FORMAT", "JSON")] = ({ format := .json }, []) ∧
      LogFormat.ofDocument (.text "JSON") =
        .error "unknown variant `JSON`, expected one of `pretty`, `compact`, `json`" ∧
      ofDocument (.map [("format", .text "JSON")]) =
        .error "unknown variant `JSON`, expected one of `pretty`, `compact`, `json`" := by
  refine ⟨?_, ?_, ?_, ?_⟩
  · decide +kernel
  · decide +kernel
  · rfl
  · rfl

end LoggingConfig

end TopicBroker
