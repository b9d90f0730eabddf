import TopicBroker.Proofs.Delivery.Creation
import TopicBroker.Proofs.Settings.Variables

/-!
# Topics from the environment

A list of topics is written into one variable, with commas in between. Loading the settings gives
the list back, blanks around the names included, and a broker that is built from the settings has
just these topics, without the blanks. There is one exception: a single topic that reads as a truth
value or as a number is taken for one, and then the settings are refused.
-/

namespace TopicBroker

namespace Settings

variable {name : String} {value d : Document}

/-- A field that was set has its value. -/
theorem valueAt_setAt_self : valueAt (d.setAt [.field name] value) name = value := by
  rw [valueAt_setAt, if_pos rfl]

/-- Texts are read as they are. -/
theorem mapM_textOf_texts (key : String) (texts : List String) :
    (texts.map Document.text).mapM (textOf key) = .ok texts := by
  induction texts with
  | nil => rfl
  | cons text rest ih =>
    rw [List.map_cons, List.mapM_cons, ih]
    rfl

/-- A field that was set to a list of texts holds these texts. -/
theorem textsAt_setAt_texts (texts : List String) :
    textsAt (d.setAt [.field name] (.texts texts)) name = .ok texts := by
  rw [textsAt, valueAt_setAt_self, Document.texts]
  dsimp only
  rw [mapM_textOf_texts]
  rfl

end Settings

/-- The variable that holds the topics. -/
def Settings.topicsVariable : String := "HUBBUB_TOPICS"

/-- Topics with commas in between. -/
def Settings.topicsText (topics : List String) : String :=
  String.ofList (Text.join ',' (topics.map String.toList))

/-- An environment in which the topics are set, and nothing else that settings are read from. -/
structure Environment.SetsTopics (env : Environment) (value : String) : Prop where
  /-- The variable has the value. -/
  set : (Settings.topicsVariable, value) ∈ env
  /-- No other variable counts. -/
  only : ∀ name value', (name, value') ∈ env →
    (Settings.keyOf? Settings.defaultPrefix name).isSome = true →
    name = Settings.topicsVariable ∧ value' = value

namespace Settings

/-- Then just the topics are set. -/
theorem sets_of_setsTopics {env : Environment} {value : String} (only : env.SetsTopics value) :
    env.Sets [(.topics, value)] := by
  refine ⟨List.nodup_singleton _, fun a mem => ?_, fun a mem counts => ?_⟩
  · rw [List.mem_singleton.mp mem]
    exact only.set
  · obtain ⟨name, value'⟩ := a
    obtain ⟨rfl, rfl⟩ := only.only name value' mem counts
    exact List.mem_singleton_self _

/-- Where only the topics are set, all other settings are the default ones. -/
theorem load_of_setsTopics {env : Environment} {value : String} (only : env.SetsTopics value) :
    load defaultPrefix env =
      (textsAt (defaults.setAt [.field topicsKey] (valueOf topicsKey value)) topicsKey).map
        fun topics => { topics } := by
  rw [load_of_sets_single (sets_of_setsTopics only), textsAt_eq_ofValue, valueAt_setAt_self]
  rfl

variable {topics : List String}

/-- Cutting at the commas gives the topics back. -/
theorem fields_topicsText (ne : topics ≠ []) (noComma : ∀ t ∈ topics, ',' ∉ t.toList) :
    Text.fields ',' (topicsText topics) = topics := by
  have free : ∀ field ∈ topics.map String.toList, ',' ∉ field := by
    intro field hfield
    obtain ⟨t, ht, rfl⟩ := List.mem_map.mp hfield
    exact noComma t ht
  rw [Text.fields, topicsText, String.toList_ofList, Text.cut_join (by simpa using ne) free,
    List.map_map]
  exact (List.map_congr_left fun t _ => String.ofList_toList).trans (List.map_id topics)

/-- Two topics or more have a comma in between. -/
theorem comma_mem_topicsText (a b : String) (rest : List String) :
    ',' ∈ (topicsText (a :: b :: rest)).toList := by
  rw [topicsText, String.toList_ofList, List.map_cons, List.map_cons, Text.join]
  · exact List.mem_append_right _ List.mem_cons_self
  · simp

/-- A single topic is written as it is. -/
theorem topicsText_singleton (t : String) : topicsText [t] = t := String.ofList_toList

/-- Topics are not taken for something else, unless there is only one, and it reads as a truth value
or as a number. -/
theorem scalar?_topicsText (ne : topics ≠ []) (texts : ∀ t, topics = [t] → scalar? t = none) :
    scalar? (topicsText topics) = none := by
  match topics with
  | [] => exact absurd rfl ne
  | [t] =>
    rw [topicsText_singleton]
    exact texts t rfl
  | a :: b :: rest =>
    exact scalar?_of_foreign (comma_mem_topicsText a b rest) (by decide) (by decide)

end Settings

namespace Broker

/-- A name in which not all is blank is no blank name. -/
theorem isBlankText_of_mem {t : String} {c : Char} (mem : c ∈ t.toList)
    (visible : Text.isBlank c = false) : Text.isBlankText t = false := by
  rw [Text.isBlankText, Text.trim, String.isEmpty_eq_false_iff, ne_eq, ← String.toList_inj,
    String.toList_ofList]
  intro nothing
  have blank := Text.trimChars_eq_nil.mp nothing c mem
  rw [visible] at blank
  cases blank

/-- A broker that is built from settings has the topics of the settings, and they are listed in the
order of their bytes, each of them once. -/
theorem exists_fromSettings {s : Settings} (named : ∀ t ∈ s.topics, Text.isBlankText t = false)
    (seed : UInt64) :
    ∃ w, fromSettings s seed = .ok w ∧ Text.Ascending w.broker.registry.listTopics ∧
      ∀ topic, topic ∈ w.broker.registry.listTopics ↔ topic ∈ s.topics.map Text.trim := by
  have notEmpty (t : String) (mem : t ∈ s.topics) : Text.trim t ≠ "" := by
    rw [ne_eq, ← isBlankText_iff, named t mem]
    exact Bool.false_ne_true
  obtain ⟨w, made, new⟩ := exists_isNew notEmpty seed
  exact ⟨w, made, new.ascending, new.listed⟩

end Broker

/-- What becomes of topics that are written into the environment. -/
structure TopicsArrive (env : Environment) (topics : List String) : Prop where
  /-- The settings hold the topics as they were written, and are otherwise the default ones. -/
  loads : (∀ t, topics = [t] → Settings.scalar? t = none) →
    Settings.load Settings.defaultPrefix env = .ok { topics }
  /-- A broker that is built from the settings lists the topics without the blanks around them, in
  the order of their bytes and each of them once. -/
  listed : ∀ s seed, Settings.load Settings.defaultPrefix env = .ok s →
    ∃ w, Broker.fromSettings s seed = .ok w ∧
      ∃ names, (w.perform .listTopics).2 = .names names ∧ Text.Ascending names ∧
        ∀ topic, topic ∈ names ↔ topic ∈ topics.map Text.trim
  /-- A single topic that reads as a truth value or as a number is refused. -/
  refused : ∀ t value, topics = [t] → Settings.scalar? t = some value →
    Settings.load Settings.defaultPrefix env =
      .error (.config (.wrongType (Settings.describeValue value) "a sequence" Settings.topicsKey))

namespace Settings

/-- What reads as a truth value or as a number is no list. -/
theorem ne_list_of_scalar? {s : String} {value : Document} (reads : scalar? s = some value)
    (items : List Document) : value ≠ .list items := by
  rintro rfl
  rcases scalar?_cases reads with ⟨_, wrong⟩ | ⟨_, wrong⟩ | ⟨_, wrong⟩ <;> cases wrong

/-- Topics in which not all is blank and which hold no comma reach the broker through the
environment, unless there is only one, and it reads as a truth value or as a number. -/
theorem topicsArrive {topics : List String} (ne : topics ≠ [])
    (named : ∀ t ∈ topics, ∃ c ∈ t.toList, Text.isBlank c = false)
    (noComma : ∀ t ∈ topics, ',' ∉ t.toList) {env : Environment}
    (only : env.SetsTopics (topicsText topics)) : TopicsArrive env topics := by
  have loads (texts : ∀ t, topics = [t] → scalar? t = none) :
      load defaultPrefix env = .ok { topics } := by
    rw [load_of_setsTopics only, valueOf, scalar?_topicsText ne texts]
    dsimp only
    rw [if_pos rfl, fields_topicsText ne noComma, textsAt_setAt_texts]
    rfl
  have refused (t : String) (value : Document) (single : topics = [t])
      (reads : scalar? t = some value) : load defaultPrefix env =
        .error (.config (.wrongType (describeValue value) "a sequence" topicsKey)) := by
    subst single
    rw [load_of_setsTopics only, topicsText_singleton, valueOf, reads, textsAt, valueAt_setAt_self]
    have noList := ne_list_of_scalar? reads
    cases value with
    | list items => exact absurd rfl (noList items)
    | _ => rfl
  refine ⟨loads, fun s seed loaded => ?_, refused⟩
  have texts : ∀ t, topics = [t] → scalar? t = none := by
    intro t single
    cases reads : scalar? t with
    | none => rfl
    | some value =>
      rw [refused t value single reads] at loaded
      cases loaded
  rw [loads texts] at loaded
  obtain rfl := Except.ok.inj loaded
  have notBlank : ∀ t ∈ topics, Text.isBlankText t = false := by
    intro t ht
    obtain ⟨c, mem, visible⟩ := named t ht
    exact Broker.isBlankText_of_mem mem visible
  obtain ⟨w, made, ascending, has⟩ := Broker.exists_fromSettings (s := { topics }) notBlank seed
  exact ⟨w, made, _, rfl, ascending, has⟩

/-- A number next to other topics is a topic, and so are names with blanks around them. -/
theorem topicsArrive_untidy :
    let env : Environment := [("HOME", "/"), ("HUBBUB_TOPICS", " b ,5,true,b")]
    (∃ s, load defaultPrefix env = .ok s ∧ s.topics = [" b ", "5", "true", "b"]) ∧
      TopicsArrive env [" b ", "5", "true", "b"] := by
  intro env
  have only : env.SetsTopics (topicsText [" b ", "5", "true", "b"]) := by
    refine ⟨by decide +kernel, fun name value mem counts => ?_⟩
    rcases List.mem_pair.mp mem with same | same
    · cases same
      exact absurd counts (by decide +kernel)
    · cases same
      exact ⟨by decide +kernel, by decide +kernel⟩
  have named : ∀ t ∈ [" b ", "5", "true", "b"], ∃ c ∈ t.toList, Text.isBlank c = false := by
    simp only [List.forall_mem_cons, List.not_mem_nil, false_implies, implies_true, and_true]
    exact ⟨⟨'b', by decide, by decide⟩, ⟨'5', by decide, by decide⟩, ⟨'t', by decide, by decide⟩,
      ⟨'b', by decide, by decide⟩⟩
  have arrive := topicsArrive (by decide) named (by decide +kernel) only
  exact ⟨⟨_, arrive.loads (by simp), rfl⟩, arrive⟩

/-- A single topic that is a number does not arrive, though it is a name like any other. -/
theorem load_number :
    let env : Environment := [("HUBBUB_TOPICS", "5")]
    env.SetsTopics (topicsText ["5"]) ∧ (∃ c ∈ "5".toList, Text.isBlank c = false) ∧
      ',' ∉ "5".toList ∧
      load defaultPrefix env =
        .error (.config (.wrongType "integer `5`" "a sequence" "topics")) := by
  intro env
  have only : env.SetsTopics (topicsText ["5"]) := by
    refine ⟨by decide +kernel, fun name value mem _ => ?_⟩
    cases List.mem_singleton.mp mem
    exact ⟨by decide +kernel, by decide +kernel⟩
  refine ⟨only, ⟨'5', by decide, by decide⟩, by decide, ?_⟩
  have reads : valueOf topicsKey (topicsText ["5"]) = .int 5 := by rfl
  rw [load_of_setsTopics only, reads, textsAt, valueAt_setAt_self]
  decide +kernel

end Settings

end TopicBroker
