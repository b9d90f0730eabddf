import TopicBroker.Log.Config
import TopicBroker.Proofs.Log.Directives

/-!
# What the levels of a configuration mean

The levels of a configuration are written into one text of directives, read out of it again, and
resolved for every target by how specific the directives are. Main statements: a directive behind a
comma is added to those in front of it and decides nothing that it is not about; so the filter lets
through what the levels say, the level of the broker at its own targets and the other one at all
others, unless a variable of the environment chooses another filter.
-/

namespace TopicBroker

namespace LogDirective

variable {d e : LogDirective} {es : List LogDirective} {p : LogDirective → Bool}

/-- Directives that are equally specific are about the same targets, and ask for a field or not. -/
theorem eq_of_order (same : d.order e = .eq) :
    e.target = d.target ∧ e.field.isSome = d.field.isSome := by
  simp only [order, Ordering.then_eq_eq, Std.LawfulEqCmp.compare_eq_iff_eq] at same
  obtain ⟨-, -, fields, targets, -, -⟩ := same
  exact ⟨targets.symm, fields.symm⟩

/-- So they are about the records of the same targets. -/
theorem coversTarget_of_order (same : d.order e = .eq) (target : String) :
    e.coversTarget target = d.coversTarget target := by
  rw [coversTarget, coversTarget, (eq_of_order same).1]

/-- If they ask for no field, they are about the same records. -/
theorem covers_of_order (same : d.order e = .eq) (plain : d.field = none) (target : String)
    (fields : List String) : e.covers target fields = d.covers target fields := by
  have none : e.field = none := by
    have asks := (eq_of_order same).2
    rw [plain] at asks
    simpa using asks
  rw [covers, covers, coversTarget_of_order same, plain, none]

/-- A directive is put among the others, and nothing else comes in. -/
theorem mem_insert (h : e ∈ d.insert es) : e = d ∨ e ∈ es := by
  induction es with
  | nil => exact .inl (List.mem_singleton.mp h)
  | cons first rest ih =>
    unfold insert at h
    split at h
    · exact List.mem_cons.mp h
    · rcases List.mem_cons.mp h with own | other
      · exact .inl own
      · exact .inr (List.mem_cons_of_mem _ other)
    · rcases List.mem_cons.mp h with own | other
      · exact .inr (own ▸ List.mem_cons_self)
      · exact (ih other).imp_right (List.mem_cons_of_mem _)

/-- A directive that is not asked for, and takes no place of one that is, changes nothing. -/
theorem find?_insert (same : ∀ e, d.order e = .eq → p e = p d) (other : p d = false) :
    (d.insert es).find? p = es.find? p := by
  induction es with
  | nil => simp [insert, other]
  | cons e rest ih =>
    unfold insert
    split
    · rw [List.find?_cons_of_neg (by simp [other])]
    · next eq =>
      rw [List.find?_cons_of_neg (by simp [other]),
        List.find?_cons_of_neg (by simp [same e eq, other])]
    · rw [List.find?_cons, List.find?_cons, ih]

end LogDirective

namespace LogFilter

variable {f : LogFilter} {d : LogDirective}

/-- The last directive is added to the others. -/
theorem ofDirectives_append_singleton (ds : List LogDirective) (d : LogDirective) :
    ofDirectives (ds ++ [d]) = (ofDirectives ds).add d := by
  simp [ofDirectives]

/-- A directive behind a comma is added to those in front of it, if these can be read. -/
theorem ofText_append (s : String) {last : String} (ne : last ≠ "") (noComma : ',' ∉ last.toList)
    (read : LogDirective.ofText last = .ok d) :
    ofText (s ++ "," ++ last) = (ofText s).map (·.add d) := by
  have pieces : Text.fields ',' (s ++ "," ++ last) = Text.fields ',' s ++ [last] :=
    Text.fields_append s noComma
  have kept : ([last].filter fun piece => !piece.isEmpty) = [last] := by simp [ne]
  rw [ofText, ofText, pieces, List.filter_append, kept, List.mapM_append]
  cases (Text.fields ',' s |>.filter fun piece => !piece.isEmpty).mapM LogDirective.ofText with
  | error e => rfl
  | ok ds =>
    simp only [List.mapM_cons, List.mapM_nil, read]
    show Except.ok (ofDirectives (ds ++ [d])) = Except.ok ((ofDirectives ds).add d)
    rw [ofDirectives_append_singleton]

/-- A directive decides nothing that it is not about. -/
theorem decides_add {p : LogDirective → Bool} (same : ∀ e, d.order e = .eq → p e = p d)
    (other : p d = false) (level : LogLevel) : (f.add d).decides p level = f.decides p level := by
  have first : (f.add d).statics.find? p = f.statics.find? p := by
    simp only [add]
    split
    · exact LogDirective.find?_insert same other
    · rfl
  rw [decides, decides, first]

/-- Whether no directive lets more through than the most verbose threshold. -/
def Bounded (f : LogFilter) : Prop := ∀ d ∈ f.statics, d.threshold.verbosity ≤ f.most.verbosity

/-- The most verbose threshold goes up with the directives. -/
theorem Bounded.add (h : f.Bounded) (d : LogDirective) : (f.add d).Bounded := by
  have most : f.most.verbosity ≤ (f.add d).most.verbosity ∧
      d.threshold.verbosity ≤ (f.add d).most.verbosity := by
    simp only [LogFilter.add, LogThreshold.max]
    split <;> omega
  intro e mem
  have known : e = d ∨ e ∈ f.statics := by
    simp only [LogFilter.add] at mem
    split at mem
    · exact LogDirective.mem_insert mem
    · exact .inr mem
  rcases known with rfl | old
  · exact most.2
  · exact Nat.le_trans (h e old) most.1

/-- A filter that is made of directives is bounded by the most verbose of them. -/
theorem bounded_ofDirectives (ds : List LogDirective) : (ofDirectives ds).Bounded := by
  have fold (f : LogFilter) (h : f.Bounded) : (ds.foldl LogFilter.add f).Bounded := by
    induction ds generalizing f with
    | nil => exact h
    | cons d ds ih => exact ih _ (h.add d)
  exact fold {} (by simp [Bounded])

/-- A filter that is read from a text is made of directives. -/
theorem bounded_of_ofText {s : String} (read : ofText s = .ok f) : f.Bounded := by
  have made : ∃ ds, ofDirectives ds = f := by
    rw [ofText] at read
    cases pieces : ((Text.fields ',' s).filter fun piece => !piece.isEmpty).mapM
        LogDirective.ofText with
    | error e =>
      rw [pieces] at read
      cases read
    | ok ds =>
      rw [pieces] at read
      exact ⟨ds, Except.ok.inj read⟩
  obtain ⟨ds, rfl⟩ := made
  exact bounded_ofDirectives ds

/-- What is let through anywhere is not beyond the limit. -/
theorem Bounded.limit_allows (h : f.Bounded) {target : String} {level : LogLevel}
    (enabled : f.enables target level = true) : f.limit.allows level = true := by
  unfold limit
  split
  · cases level <;> rfl
  · unfold enables decides at enabled
    split at enabled
    · next d found =>
      have below := h d (List.mem_of_find?_eq_some found)
      simp only [LogThreshold.allows, decide_eq_true_eq] at enabled ⊢
      omega
    · cases enabled

/-- The filter of a level for all targets and, if there is one, of a level for those of the broker. -/
def ofLevels (base : LogThreshold) (broker : Option LogThreshold) : LogFilter :=
  let all := ofDirectives [{ threshold := base }]
  match broker with
  | none => all
  | some t => all.add { target := some LoggingConfig.brokerScope, threshold := t }

/-- The directive about the broker decides if it is asked for, and otherwise the one about all. -/
theorem decides_ofLevels {p : LogDirective → Bool} {own : Bool}
    (all : ∀ t, p { threshold := t } = true)
    (broker : ∀ t, p { target := some LoggingConfig.brokerScope, threshold := t } = own)
    (base : LogThreshold) (t : Option LogThreshold) (level : LogLevel) :
    (ofLevels base t).decides p level = (if own then t.getD base else base).allows level := by
  cases t with
  | none =>
    have only : (ofLevels base none).statics = [{ threshold := base }] := rfl
    rw [decides, only, List.find?_cons_of_pos (all base)]
    cases own <;> rfl
  | some t =>
    have both : (ofLevels base (some t)).statics =
        [{ target := some LoggingConfig.brokerScope, threshold := t }, { threshold := base }] := rfl
    rw [decides, both, List.find?_cons, broker t]
    cases own with
    | true => rfl
    | false =>
      rw [List.find?_cons_of_pos (all base)]
      rfl

end LogFilter

namespace LoggingConfig

variable {c : LoggingConfig} {env : Environment} {base t : LogThreshold}
  {broker : Option LogThreshold} {s : String}

/-- Whether a target is one of the broker. -/
def isBrokerTarget (target : String) : Bool := "hubbub".toList.isPrefixOf target.toList

/-- Whether the levels of a configuration are names of thresholds. -/
structure HasLevels (c : LoggingConfig) (base : LogThreshold) (broker : Option LogThreshold) :
    Prop where
  /-- The level for the whole program. -/
  base : base.IsNamed c.level
  /-- The level for the broker, if there is one. -/
  broker : Option.Rel (fun t s => LogThreshold.IsNamed t s) broker c.brokerLevel

/-- The threshold for a target. -/
def thresholdAt (base : LogThreshold) (broker : Option LogThreshold) (target : String) :
    LogThreshold :=
  if isBrokerTarget target then broker.getD base else base

/-- The name of a level is a filter. -/
theorem ofText_of_isNamed (named : base.IsNamed s) :
    LogFilter.ofText s = .ok (.ofLevels base none) := by
  have noComma : ',' ∉ s.toList := fun mem =>
    Text.ne_of_isAlpha (named.isWord.2 _ mem) (by decide) rfl
  have pieces : Text.fields ',' s = [s] := by
    rw [Text.fields, Text.cut_of_not_mem noComma, List.map_singleton, String.ofList_toList]
  have kept : ([s].filter fun piece => !piece.isEmpty) = [s] := by simp [named.isWord.1]
  rw [LogFilter.ofText, pieces, kept, List.mapM_cons, LogDirective.ofText_of_isNamed named]
  rfl

/-- A level for the broker adds a directive to those of the configuration. -/
theorem ofText_directive (chosen : c.brokerLevel = some s) (named : t.IsNamed s) :
    LogFilter.ofText c.directive =
      (LogFilter.ofText c.level).map (·.add { target := some brokerScope, threshold := t }) := by
  have scope : Text.IsWord brokerScope := by decide
  have noComma : ',' ∉ (brokerScope ++ "=" ++ s).toList := by
    simp only [String.toList_append, List.mem_append, not_or]
    exact ⟨⟨by decide, by decide⟩, fun mem =>
      Text.ne_of_isAlpha (named.isWord.2 _ mem) (by decide) rfl⟩
  have ne : brokerScope ++ "=" ++ s ≠ "" := by
    simp [brokerScope]
  have text : c.directive = c.level ++ "," ++ (brokerScope ++ "=" ++ s) := by
    simp only [directive, chosen, String.append_assoc]
  rw [text, LogFilter.ofText_append c.level ne noComma (LogDirective.ofText_level scope named)]

/-- The directives of levels are read back. -/
theorem ofText_of_hasLevels (levels : c.HasLevels base broker) :
    LogFilter.ofText c.directive = .ok (.ofLevels base broker) := by
  obtain ⟨own, other⟩ := levels
  cases chosen : c.brokerLevel with
  | none =>
    rw [chosen] at other
    cases other
    rw [directive, chosen]
    exact ofText_of_isNamed own
  | some s =>
    rw [chosen] at other
    cases other with
    | some named =>
      rw [ofText_directive chosen named, ofText_of_isNamed own]
      rfl

/-- Whether an environment chooses a filter: the text of its variable can be read. -/
def Chooses (env : Environment) (filter : LogFilter) : Prop :=
  ∃ s, env.get? "RUST_LOG" = some s ∧ LogFilter.ofText s = .ok filter

/-- What the environment chooses comes first. -/
theorem filter_of_chooses {filter : LogFilter} (c : LoggingConfig) (chosen : Chooses env filter) :
    c.filter env = (filter, []) := by
  obtain ⟨s, found, read⟩ := chosen
  rw [LoggingConfig.filter, filterVariable, found, Option.map_some, read]

/-- Otherwise the directives of the configuration count. -/
theorem filter_of_not_chooses (c : LoggingConfig) (free : ∀ filter, ¬ Chooses env filter) :
    c.filter env = c.ownFilter := by
  rw [LoggingConfig.filter]
  split
  · next filter found =>
    obtain ⟨s, chosen, read⟩ := Option.map_eq_some_iff.mp found
    exact absurd ⟨s, chosen, read⟩ (free filter)
  · rfl

/-- The filter of directives that can be read. -/
theorem ownFilter_of_ofText {filter : LogFilter} (read : LogFilter.ofText c.directive = .ok filter) :
    c.ownFilter.1 = filter := by
  rw [ownFilter, read]

/-- The filter instead of directives that cannot be read. -/
theorem ownFilter_of_error {e : DirectiveError} (refused : LogFilter.ofText c.directive = .error e) :
    c.ownFilter.1 = fallbackFilter := by
  rw [ownFilter, refused]

/-- It is that of a level. -/
theorem ofText_fallback : LogFilter.ofText fallbackDirective = .ok fallbackFilter := by
  have read := ofText_fallbackDirective
  cases fallback : LogFilter.ofText fallbackDirective with
  | error e =>
    rw [fallback] at read
    cases read
  | ok filter =>
    rw [fallback] at read
    exact congrArg Except.ok (Option.some.inj read)

/-- No filter lets more through than its most verbose threshold. -/
theorem bounded_filter (c : LoggingConfig) (env : Environment) : (c.filter env).1.Bounded := by
  by_cases chosen : ∃ filter, Chooses env filter
  · obtain ⟨filter, chosen⟩ := chosen
    rw [filter_of_chooses c chosen]
    obtain ⟨s, -, read⟩ := chosen
    exact LogFilter.bounded_of_ofText read
  · rw [filter_of_not_chooses c fun filter h => chosen ⟨filter, h⟩]
    cases read : LogFilter.ofText c.directive with
    | ok filter =>
      rw [ownFilter_of_ofText read]
      exact LogFilter.bounded_of_ofText read
    | error e =>
      rw [ownFilter_of_error read]
      exact LogFilter.bounded_of_ofText ofText_fallback

/-- A level for the broker changes no decision that is not about the broker. -/
theorem decides_brokerLevel {p : LogDirective → Bool} (c : LoggingConfig) (env : Environment)
    (named : t.IsNamed s)
    (same : ∀ e, LogDirective.order { target := some brokerScope, threshold := t } e = .eq →
      p e = p { target := some brokerScope, threshold := t })
    (other : p { target := some brokerScope, threshold := t } = false) (level : LogLevel) :
    ({ c with brokerLevel := some s }.filter env).1.decides p level =
      ({ c with brokerLevel := none }.filter env).1.decides p level := by
  by_cases chosen : ∃ filter, Chooses env filter
  · obtain ⟨filter, chosen⟩ := chosen
    rw [filter_of_chooses _ chosen, filter_of_chooses _ chosen]
  · have free : ∀ filter, ¬ Chooses env filter := fun filter h => chosen ⟨filter, h⟩
    rw [filter_of_not_chooses _ free, filter_of_not_chooses _ free]
    have added := ofText_directive (c := { c with brokerLevel := some s }) rfl named
    cases own : LogFilter.ofText c.level with
    | error e =>
      -- the directives cannot be read with or without the level of the broker
      rw [own] at added
      rw [ownFilter_of_error added, ownFilter_of_error (c := { c with brokerLevel := none }) own]
    | ok filter =>
      rw [own] at added
      rw [ownFilter_of_ofText added, ownFilter_of_ofText (c := { c with brokerLevel := none }) own]
      exact LogFilter.decides_add same other level

/-- What the filter of a configuration means under an environment. -/
structure FilterMeaning (c : LoggingConfig) (env : Environment) : Prop where
  /-- If the environment chooses a filter, it is this one, and the configuration does not matter. -/
  chosen : ∀ filter, Chooses env filter → c.filter env = (filter, [])
  /-- Otherwise, if the levels are names, what is let through at a target are the levels up to that
  of the broker, if it has one and the target is one of its own, or else up to that of the whole
  program. -/
  enables : (∀ filter, ¬ Chooses env filter) → ∀ base broker, c.HasLevels base broker →
    ∀ target level, (c.filter env).1.enables target level = true ↔
      level ∈ (thresholdAt base broker target).levels
  /-- So these are the records that are written. -/
  accepts : (∀ filter, ¬ Chooses env filter) → ∀ base broker, c.HasLevels base broker →
    ∀ record, (c.filter env).1.accepts record = true ↔
      record.level ∈ (thresholdAt base broker record.target).levels
  /-- A level for the broker changes nothing at targets that are not its own, whatever the directives
  for the whole program are. -/
  others : ∀ t s, LogThreshold.IsNamed t s → ∀ target, isBrokerTarget target = false →
    ∀ level, ({ c with brokerLevel := some s }.filter env).1.enables target level =
      ({ c with brokerLevel := none }.filter env).1.enables target level
  /-- Nor does it change which of their records are written. -/
  otherRecords : ∀ t s, LogThreshold.IsNamed t s → ∀ record, isBrokerTarget record.target = false →
    ({ c with brokerLevel := some s }.filter env).1.accepts record =
      ({ c with brokerLevel := none }.filter env).1.accepts record
  /-- In any case there is a filter: that of the directives, if these can be read, -/
  own : (∀ filter, ¬ Chooses env filter) → ∀ filter, LogFilter.ofText c.directive = .ok filter →
    (c.filter env).1 = filter
  /-- and else that of the level `info`. -/
  fallback : (∀ filter, ¬ Chooses env filter) → ∀ e, LogFilter.ofText c.directive = .error e →
    LogFilter.ofText "info" = .ok (c.filter env).1
  /-- Nothing is let through that the limit of the filter holds back. -/
  limit : ∀ target level, (c.filter env).1.enables target level = true →
    (c.filter env).1.limit.allows level = true

/-- The filter of a configuration means what the configuration says. -/
theorem filterMeaning (c : LoggingConfig) (env : Environment) : FilterMeaning c env where
  chosen _ := filter_of_chooses c
  enables free base broker levels target level := by
    rw [filter_of_not_chooses c free, ownFilter_of_ofText (ofText_of_hasLevels levels),
      ← LogThreshold.allows_eq_true_iff, LogFilter.enables,
      LogFilter.decides_ofLevels (fun _ => rfl) (fun _ => rfl) base broker level]
    rfl
  accepts free base broker levels record := by
    rw [filter_of_not_chooses c free, ownFilter_of_ofText (ofText_of_hasLevels levels),
      ← LogThreshold.allows_eq_true_iff, LogFilter.accepts,
      LogFilter.decides_ofLevels (fun _ => rfl) (fun _ => Bool.and_true _) base broker record.level]
    rfl
  others t s named target other level :=
    decides_brokerLevel c env named (fun _ same => LogDirective.coversTarget_of_order same target)
      other level
  otherRecords t s named record other :=
    decides_brokerLevel c env named
      (fun _ same => LogDirective.covers_of_order same rfl record.target _)
      (by rw [LogDirective.covers, Bool.and_eq_false_iff]; exact .inl other) record.level
  own free filter read := by
    rw [filter_of_not_chooses c free, ownFilter_of_ofText read]
  fallback free e refused := by
    rw [filter_of_not_chooses c free, ownFilter_of_error refused]
    exact ofText_fallback
  limit _ _ := (bounded_filter c env).limit_allows

/-- Levels in letters of any case. Under a variable with a text that cannot be read, the broker is
silent, and what else there is writes warnings; a text that can be read makes the broker talk, whatever
the configuration says. -/
theorem filterMeaning_silent :
    let c : LoggingConfig := { level := "Warn", brokerLevel := some "OFF" }
    let unread : Environment := [("RUST_LOG", "app=loud")]
    let read : Environment := [("HOME", "/"), ("RUST_LOG", "warn,hubbub=debug")]
    ((c.filter unread).1.enables "hubbub::pubsub" .error = false ∧
      (c.filter unread).1.enables "app" .warn = true ∧
      (c.filter unread).1.enables "app" .info = false) ∧
      c.filter read = ({} : LoggingConfig).filter read ∧
      (c.filter read).1.enables "hubbub::pubsub" .debug = true ∧
      (c.filter read).1.enables "app" .info = false := by
  intro c unread read
  have free : ∀ filter, ¬ Chooses unread filter := by
    rintro filter ⟨s, found, read⟩
    obtain rfl : "app=loud" = s := Option.some.inj found
    have refused : (LogFilter.ofText "app=loud").toOption = none := by decide +kernel
    rw [read] at refused
    cases refused
  have levels : c.HasLevels (.upTo .warn) (some .off) := by
    refine ⟨?_, .some ?_⟩ <;> decide +kernel
  have meaning := (filterMeaning c unread).enables free _ _ levels
  have chooses : Chooses read (.ofLevels (.upTo .warn) (some (.upTo .debug))) := by
    have named : ({ level := "warn", brokerLevel := some "debug" } : LoggingConfig).HasLevels
        (.upTo .warn) (some (.upTo .debug)) := by
      refine ⟨?_, .some ?_⟩ <;> decide +kernel
    exact ⟨_, rfl, ofText_of_hasLevels named⟩
  have chosen := (filterMeaning c read).chosen _ chooses
  have other := (filterMeaning {} read).chosen _ chooses
  refine ⟨⟨?_, ?_, ?_⟩, chosen.trans other.symm, ?_, ?_⟩
  · exact Bool.eq_false_iff.mpr (mt (meaning _ _).mp (by decide))
  · exact (meaning _ _).mpr (by decide)
  · exact Bool.eq_false_iff.mpr (mt (meaning _ _).mp (by decide))
  · rw [chosen]
    decide +kernel
  · rw [chosen]
    decide +kernel

end LoggingConfig

end TopicBroker
