import Mathlib.Data.List.Induction
import Mathlib.Data.List.Nodup
import TopicBroker.Proofs.Settings.Scalar

/-!
# Settings by variables

Every setting has a key of its own in the configuration, and it is made from the value of this key
alone. A variable sets the value of one key, unless its name spells out a longer way into the
configuration, and of several variables for one key the last one counts. So settings are loaded from
at most one value each.
-/

namespace TopicBroker

namespace Document

/-- The other fields stay when one is put in. -/
theorem lookup_insertField_of_ne {name other : String} (ne : other ≠ name) (value : Document)
    (fields : List (String × Document)) :
    (insertField name value fields).lookup other = fields.lookup other := by
  have head (v : Document) (rest : List (String × Document)) :
      List.lookup other ((name, v) :: rest) = rest.lookup other := by
    rw [List.lookup_cons, beq_eq_false_iff_ne.mpr ne]
  induction fields with
  | nil => exact head value []
  | cons f rest ih =>
    obtain ⟨n, v⟩ := f
    unfold insertField
    split
    · next same =>
      obtain rfl := eq_of_beq same
      rw [head, head]
    · split
      · exact head value _
      · rw [List.lookup_cons, List.lookup_cons, ih]

/-- Setting a field of a map is putting it in. -/
theorem setAt_field (d : Document) (name : String) (value : Document) :
    d.setAt [.field name] value = .map (insertField name value d.fields) := by
  rw [setAt, setAt]

end Document

namespace Settings

/-- Setting a field changes its value and leaves those of the other fields. -/
theorem valueAt_setAt (d : Document) (name other : String) (value : Document) :
    valueAt (d.setAt [.field name] value) other =
      if other = name then value else valueAt d other := by
  rw [valueAt, Document.setAt_field, Document.fields]
  split
  · next same =>
    rw [same, Document.lookup_insertField_self]
    rfl
  · next ne =>
    rw [Document.lookup_insertField_of_ne ne]
    rfl

end Settings

/-- One of the settings. -/
inductive Setting where
  /-- How ids are made. -/
  | idGenerator
  /-- The text in front of counted ids. -/
  | idPrefix
  /-- How patterns are read. -/
  | matchStrategy
  /-- The topics that are registered at once. -/
  | topics
  deriving Repr, DecidableEq

namespace Setting

/-- What a setting is set to. -/
abbrev Value : Setting → Type
  | .idGenerator => IdGeneratorKind
  | .idPrefix => String
  | .matchStrategy => MatchStrategy
  | .topics => List String

/-- The key of a setting in the configuration. -/
def key : Setting → String
  | .idGenerator => "id_generator"
  | .idPrefix => "id_prefix"
  | .matchStrategy => "match_strategy"
  | .topics => Settings.topicsKey

/-- How the name of the variable of a setting ends. -/
def word : Setting → String
  | .idGenerator => "ID_GENERATOR"
  | .idPrefix => "ID_PREFIX"
  | .matchStrategy => "MATCH_STRATEGY"
  | .topics => "TOPICS"

/-- The variable of a setting among those whose names start with the given word. -/
def variableName (label : String) (f : Setting) : String := label ++ "_" ++ f.word

/-- What the value of its key makes a setting. -/
def ofValue : (f : Setting) → Document → Except SettingsError f.Value
  | .idGenerator, d => do
    IdGeneratorKind.parse (← (Settings.textOf "id_generator" d).mapError .config)
  | .idPrefix, d => (Settings.textOf "id_prefix" d).mapError .config
  | .matchStrategy, d => do
    MatchStrategy.parse (← (Settings.textOf "match_strategy" d).mapError .config)
  | .topics, .list items => (items.mapM (Settings.textOf Settings.topicsKey)).mapError .config
  | .topics, d =>
    .error (.config (.wrongType (Settings.describeValue d) "a sequence" Settings.topicsKey))

/-- What a setting becomes if its variable has the given value, or if it has none. -/
def ofVariable (f : Setting) (value : Option String) : Except SettingsError f.Value :=
  f.ofValue ((value.map (Settings.valueOf f.key)).getD (Settings.valueAt Settings.defaults f.key))

/-- Different settings have different keys. -/
theorem key_injective {f g : Setting} (same : f.key = g.key) : f = g := by
  cases f <;> cases g <;> first | rfl | exact absurd same (by decide)

/-- The key of a setting is the name of a field. -/
theorem ofText_key (f : Setting) : Path.ofText f.key = [.field f.key] := by
  cases f <;> decide +kernel

end Setting

namespace Settings

/-- One of the settings out of all. -/
def get (s : Settings) : (f : Setting) → f.Value
  | .idGenerator => s.idGenerator
  | .idPrefix => s.idPrefix
  | .matchStrategy => s.matchStrategy
  | .topics => s.topics

/-- The settings with another value for one of them. -/
def set (s : Settings) : (f : Setting) → f.Value → Settings
  | .idGenerator, value => { s with idGenerator := value }
  | .idPrefix, value => { s with idPrefix := value }
  | .matchStrategy, value => { s with matchStrategy := value }
  | .topics, value => { s with topics := value }

/-- A setting that was set has its value. -/
theorem get_set_self (s : Settings) (f : Setting) (value : f.Value) :
    (s.set f value).get f = value := by
  cases f <;> rfl

/-- The other settings have the values that they had. -/
theorem get_set_of_ne (s : Settings) {f g : Setting} (ne : g ≠ f) (value : f.Value) :
    (s.set f value).get g = s.get g := by
  cases f <;> cases g <;> first | rfl | exact absurd rfl ne

/-- All settings out of single ones, of which the first one that is refused counts. -/
def assemble (part : (f : Setting) → Except SettingsError f.Value) :
    Except SettingsError Settings := do
  let idGenerator ← part .idGenerator
  let idPrefix ← part .idPrefix
  let matchStrategy ← part .matchStrategy
  let topics ← part .topics
  return { idGenerator, idPrefix, matchStrategy, topics }

variable {part : (f : Setting) → Except SettingsError f.Value}

/-- Settings come about exactly if every one of them does. -/
theorem assemble_eq_ok_iff {s : Settings} :
    assemble part = .ok s ↔ ∀ f, part f = .ok (s.get f) := by
  constructor
  · intro made
    unfold assemble at made
    cases generator : part .idGenerator with
    | error e => simp [generator, bind, Except.bind] at made
    | ok idGenerator =>
      cases label : part .idPrefix with
      | error e => simp [generator, label, bind, Except.bind] at made
      | ok idPrefix =>
        cases strategy : part .matchStrategy with
        | error e => simp [generator, label, strategy, bind, Except.bind] at made
        | ok matchStrategy =>
          cases list : part .topics with
          | error e => simp [generator, label, strategy, list, bind, Except.bind] at made
          | ok topics =>
            simp only [generator, label, strategy, list, bind, Except.bind, pure, Except.pure,
              Except.ok.injEq] at made
            subst made
            intro f
            cases f <;> assumption
  · intro all
    unfold assemble
    rw [all .idGenerator, all .idPrefix, all .matchStrategy, all .topics]
    rfl

/-- If just one of the settings is refused, that is why all are. -/
theorem assemble_eq_error {f : Setting} {e : SettingsError} (refused : part f = .error e)
    (others : ∀ g, g ≠ f → ∃ x, part g = .ok x) : assemble part = .error e := by
  unfold assemble
  cases f with
  | idGenerator =>
    rw [refused]
    rfl
  | idPrefix =>
    obtain ⟨_, generator⟩ := others .idGenerator (by decide)
    rw [generator, refused]
    rfl
  | matchStrategy =>
    obtain ⟨_, generator⟩ := others .idGenerator (by decide)
    obtain ⟨_, label⟩ := others .idPrefix (by decide)
    rw [generator, label, refused]
    rfl
  | topics =>
    obtain ⟨_, generator⟩ := others .idGenerator (by decide)
    obtain ⟨_, label⟩ := others .idPrefix (by decide)
    obtain ⟨_, strategy⟩ := others .matchStrategy (by decide)
    rw [generator, label, strategy, refused]
    rfl

/-- The topics of a configuration are made from the value of their key. -/
theorem textsAt_eq_ofValue (d : Document) :
    textsAt d topicsKey = Setting.ofValue .topics (valueAt d topicsKey) := by
  unfold textsAt Setting.ofValue
  cases valueAt d topicsKey <;> rfl

/-- A configuration holds every setting under its key. -/
theorem ofConfiguration_eq_assemble (d : Document) :
    ofConfiguration d = assemble fun f => f.ofValue (valueAt d f.key) := by
  unfold ofConfiguration assemble
  rw [textsAt_eq_ofValue]
  simp only [Setting.ofValue, textAt, Setting.key, bind_assoc]

end Settings

namespace Environment

/-- The first variable of a name has its value. -/
theorem get?_cons (name other value : String) (rest : Environment) :
    get? ((name, value) :: rest) other = if other = name then some value else rest.get? other := by
  rw [get?, List.lookup_cons]
  by_cases same : other = name
  · simp [same]
  · rw [beq_eq_false_iff_ne.mpr same, if_neg same]
    rfl

/-- Setting a variable changes its value and leaves those of the others. -/
theorem get?_set (env : Environment) (name other value : String) :
    (env.set name value).get? other = if other = name then some value else env.get? other := by
  induction env with
  | nil => exact get?_cons name other value []
  | cons a rest ih =>
    obtain ⟨n, v⟩ := a
    unfold set
    split
    · next own =>
      subst own
      rw [get?_cons, get?_cons]
      split <;> rfl
    · next ne =>
      rw [get?_cons, get?_cons, ih]
      by_cases head : other = n
      · subst head
        simp [ne]
      · simp [head]

/-- Setting a variable keeps its place or puts it last. -/
theorem names_set (env : Environment) (name value : String) :
    (env.set name value).map (·.1) =
      if name ∈ env.map (·.1) then env.map (·.1) else env.map (·.1) ++ [name] := by
  induction env with
  | nil => simp [set]
  | cons a rest ih =>
    obtain ⟨n, v⟩ := a
    unfold set
    by_cases own : n = name
    · simp [own]
    · simp only [own, if_false, List.map_cons, ih, List.mem_cons, Ne.symm own, false_or]
      split <;> rfl

/-- No variable occurs twice among those that were set one after the other. -/
theorem nodup_ofAssignments (assignments : List (String × String)) :
    ((ofAssignments assignments).map (·.1)).Nodup := by
  unfold ofAssignments
  induction assignments using List.reverseRecOn with
  | nil => exact List.nodup_nil
  | append_singleton assignments a ih =>
    rw [List.foldl_append, List.foldl_cons, List.foldl_nil, names_set]
    split
    · exact ih
    · next new => exact ih.append (List.nodup_singleton _) (List.disjoint_singleton.mpr new)

/-- A variable has the last value that it was set to. -/
theorem get?_ofAssignments (assignments : List (String × String)) (name : String) :
    (ofAssignments assignments).get? name =
      (assignments.filterMap fun a => if a.1 = name then some a.2 else none).getLast? := by
  unfold ofAssignments
  induction assignments using List.reverseRecOn with
  | nil => rfl
  | append_singleton assignments a ih =>
    rw [List.foldl_append, List.foldl_cons, List.foldl_nil, get?_set, ih, List.filterMap_append]
    by_cases own : a.1 = name
    · simp [own]
    · simp [own, Ne.symm own]

end Environment

namespace Settings

/-- The value of the last variable that stands for a key. -/
def lastFor? (label key : String) (env : Environment) : Option String :=
  (env.filterMap fun a => if keyOf? label a.1 = some key then some a.2 else none).getLast?

/-- Of the variables for a key the last one counts. -/
theorem get?_assignments (label key : String) (env : Environment) :
    (assignments label env).get? key = lastFor? label key env := by
  rw [assignments, Environment.get?_ofAssignments, List.filterMap_filterMap, lastFor?]
  refine congrArg List.getLast? (List.filterMap_congr fun a _ => ?_)
  dsimp only
  cases keyOf? label a.1 <;> simp

/-- An environment in which every variable that counts stands for a field of the configuration, not
for a longer way into it. -/
def Direct (label : String) (env : Environment) : Prop :=
  ∀ a ∈ env, ∀ key, keyOf? label a.1 = some key → Path.ofText key = [.field key]

/-- Setting several fields one after the other gives each of them its value. -/
theorem valueAt_foldl_setAt {settings : Environment} (once : (settings.map (·.1)).Nodup)
    (direct : ∀ a ∈ settings, Path.ofText a.1 = [.field a.1]) (d : Document) (key : String) :
    valueAt (settings.foldl (fun d a => d.setAt (Path.ofText a.1) (valueOf a.1 a.2)) d) key =
      ((settings.get? key).map (valueOf key)).getD (valueAt d key) := by
  induction settings generalizing d with
  | nil => rfl
  | cons a rest ih =>
    obtain ⟨name, value⟩ := a
    obtain ⟨new, once⟩ := List.nodup_cons.mp once
    rw [List.foldl_cons, ih once fun b hb => direct b (List.mem_cons_of_mem _ hb),
      direct _ List.mem_cons_self, valueAt_setAt]
    rw [Environment.get?_cons]
    by_cases own : key = name
    · subst own
      have absent : Environment.get? rest key = none := by
        rw [Environment.get?, List.lookup_eq_none_iff]
        intro b hb
        rw [bne_iff_ne]
        intro same
        exact new (List.mem_map.mpr ⟨b, hb, same.symm⟩)
      simp [absent]
    · simp [own]

/-- The keys that are set are those of the variables that count. -/
theorem exists_keyOf?_of_mem_assignments {label : String} {env : Environment}
    {a : String × String} (mem : a ∈ assignments label env) :
    ∃ b ∈ env, keyOf? label b.1 = some a.1 := by
  have found : (assignments label env).get? a.1 ≠ none := by
    rw [Environment.get?, ne_eq, List.lookup_eq_none_iff]
    intro others
    have other := others a mem
    rw [bne_self_eq_false] at other
    cases other
  rw [get?_assignments, lastFor?, ne_eq, List.getLast?_eq_none_iff, List.filterMap_eq_nil_iff,
    not_forall] at found
  obtain ⟨b, found⟩ := found
  rw [Classical.not_imp, ite_eq_right_iff, Classical.not_imp] at found
  exact ⟨b, found.1, found.2.1⟩

/-- A key of the configuration has the value of the last variable for it, and if there is none, the
value that it has at first. -/
theorem valueAt_configuration {label : String} {env : Environment} (direct : Direct label env)
    (key : String) :
    valueAt (configuration label env) key =
      ((lastFor? label key env).map (valueOf key)).getD (valueAt defaults key) := by
  rw [← get?_assignments]
  refine valueAt_foldl_setAt (Environment.nodup_ofAssignments _) (fun a ha => ?_) defaults key
  obtain ⟨b, hb, isKey⟩ := exists_keyOf?_of_mem_assignments ha
  exact direct b hb a.1 isKey

/-- Every setting is made from the value of the last variable for it. -/
theorem load_eq_assemble {label : String} {env : Environment} (direct : Direct label env) :
    load label env = assemble fun f => f.ofVariable (lastFor? label f.key env) := by
  rw [load, ofConfiguration_eq_assemble]
  refine congrArg assemble (funext fun f => ?_)
  rw [valueAt_configuration direct]
  rfl

end Settings

namespace Setting

/-- A setting whose variable has no value is the default one. -/
theorem ofVariable_none (f : Setting) : f.ofVariable none = .ok (Settings.default.get f) := by
  cases f <;> decide +kernel

/-- The kind of ids is chosen by what becomes of the text. -/
theorem ofVariable_idGenerator (s : String) :
    ofVariable .idGenerator (some s) = IdGeneratorKind.parse (Settings.retold s) := by
  rw [ofVariable, Option.map_some, Option.getD_some, ofValue, key,
    Settings.textOf_valueOf (by decide)]
  simp only [Except.mapError, bind, Except.bind]

/-- So is the strategy. -/
theorem ofVariable_matchStrategy (s : String) :
    ofVariable .matchStrategy (some s) = MatchStrategy.parse (Settings.retold s) := by
  rw [ofVariable, Option.map_some, Option.getD_some, ofValue, key,
    Settings.textOf_valueOf (by decide)]
  simp only [Except.mapError, bind, Except.bind]

/-- The text in front of counted ids is what becomes of the text of its variable. -/
theorem ofVariable_idPrefix (s : String) :
    ofVariable .idPrefix (some s) = .ok (Settings.retold s) := by
  rw [ofVariable, Option.map_some, Option.getD_some, ofValue, key,
    Settings.textOf_valueOf (by decide)]
  rfl

end Setting

/-- The variables that give settings their values. -/
def Settings.variables (given : List (Setting × String)) : Environment :=
  given.map fun a => (a.1.variableName Settings.defaultPrefix, a.2)

/-- An environment in which the given settings are set, and nothing else that settings are read
from. -/
structure Environment.Sets (env : Environment) (given : List (Setting × String)) : Prop where
  /-- Each setting is given one value. -/
  once : (given.map (·.1)).Nodup
  /-- The variables of the settings have the given values. -/
  set : ∀ a ∈ Settings.variables given, a ∈ env
  /-- No other variable counts. -/
  only : ∀ a ∈ env, (Settings.keyOf? Settings.defaultPrefix a.1).isSome = true →
    a ∈ Settings.variables given

namespace Settings

/-- The variable of a setting stands for the key of the setting. -/
theorem keyOf?_variableName (f : Setting) :
    keyOf? defaultPrefix (f.variableName defaultPrefix) = some f.key := by
  cases f <;> decide +kernel

variable {env : Environment} {given : List (Setting × String)}

/-- A value is given to a setting exactly if the setting is listed with it. -/
theorem lookup_eq_some_iff_mem (once : (given.map (·.1)).Nodup) {f : Setting} {value : String} :
    given.lookup f = some value ↔ (f, value) ∈ given := by
  induction given with
  | nil => simp
  | cons a rest ih =>
    obtain ⟨g, v⟩ := a
    obtain ⟨new, once⟩ := List.nodup_cons.mp once
    rw [List.lookup_cons]
    by_cases own : f = g
    · subst own
      have absent : (f, value) ∉ rest := fun mem => new (List.mem_map.mpr ⟨_, mem, rfl⟩)
      simp [absent, eq_comm]
    · simp [beq_eq_false_iff_ne.mpr own, own, ih once]

/-- Only settings are set there, and nothing within them. -/
theorem direct_of_sets (sets : env.Sets given) : Direct defaultPrefix env := by
  intro a mem key isKey
  obtain ⟨⟨f, value⟩, -, rfl⟩ := List.mem_map.mp (sets.only a mem (by rw [isKey]; rfl))
  rw [keyOf?_variableName] at isKey
  rw [← Option.some.inj isKey]
  exact f.ofText_key

/-- The last value for a setting is the given one. -/
theorem lastFor?_of_sets (sets : env.Sets given) (f : Setting) :
    lastFor? defaultPrefix f.key env = given.lookup f := by
  unfold lastFor?
  cases last : (env.filterMap _).getLast? with
  | none =>
    rw [List.getLast?_eq_none_iff, List.filterMap_eq_nil_iff] at last
    cases own : given.lookup f with
    | none => rfl
    | some value =>
      have listed := (lookup_eq_some_iff_mem sets.once).mp own
      have silent := last _ (sets.set _ (List.mem_map_of_mem listed))
      rw [keyOf?_variableName, if_pos rfl] at silent
      cases silent
  | some value =>
    obtain ⟨a, mem, found⟩ := List.mem_filterMap.mp (List.mem_of_getLast? last)
    rw [Option.ite_none_right_eq_some] at found
    obtain ⟨isKey, same⟩ := found
    obtain ⟨⟨g, value'⟩, listed, rfl⟩ := List.mem_map.mp (sets.only a mem (by rw [isKey]; rfl))
    rw [keyOf?_variableName] at isKey
    obtain rfl := Setting.key_injective (Option.some.inj isKey)
    rw [← same, (lookup_eq_some_iff_mem sets.once).mpr listed]

/-- Settings are made from the given values. -/
theorem load_of_sets (sets : env.Sets given) :
    load defaultPrefix env = assemble fun f => f.ofVariable (given.lookup f) := by
  rw [load_eq_assemble (direct_of_sets sets)]
  simp only [lastFor?_of_sets sets]

/-- Where a single setting is set, it is the only one that is not the default one, and it alone
decides whether settings are refused. -/
theorem load_of_sets_single {f : Setting} {value : String} (sets : env.Sets [(f, value)]) :
    load defaultPrefix env = (f.ofVariable (some value)).map (default.set f) := by
  have own : List.lookup f [(f, value)] = some value := by simp
  have others {g : Setting} (ne : g ≠ f) :
      g.ofVariable (List.lookup g [(f, value)]) = .ok (default.get g) := by
    have absent : List.lookup g [(f, value)] = none := by
      rw [List.lookup_cons, beq_eq_false_iff_ne.mpr ne]
      rfl
    rw [absent, g.ofVariable_none]
  rw [load_of_sets sets]
  cases made : f.ofVariable (some value) with
  | error e =>
    refine assemble_eq_error (f := f) ?_ fun g ne => ⟨_, others ne⟩
    rw [own, made]
  | ok x =>
    refine assemble_eq_ok_iff.mpr fun g => ?_
    by_cases same : g = f
    · subst same
      rw [own, made, get_set_self]
    · rw [others same, get_set_of_ne _ same]

end Settings

end TopicBroker
