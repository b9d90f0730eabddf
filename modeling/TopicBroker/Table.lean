/-!
# Tables

Finite maps from names to values. The entries are kept in increasing order of their names, so two
tables with the same look-ups are equal. Main statements: what each operation does to a look-up, and
extensionality.
-/

namespace TopicBroker

/-- A finite map from names. -/
structure Table (α : Type) where
  /-- The entries in increasing order of their names. -/
  entries : List (String × α)
  /-- No name occurs twice, and the names increase. -/
  sorted : entries.Pairwise fun a b => a.1 < b.1

namespace Table

variable {α β : Type}

/-- The value of a name in a list of entries. -/
def valueIn (name : String) : List (String × α) → Option α
  | [] => none
  | (n, v) :: rest => if name = n then some v else valueIn name rest

/-- Put a value into its place in a list of entries, instead of one with the same name. -/
def insertInto (name : String) (value : α) : List (String × α) → List (String × α)
  | [] => [(name, value)]
  | (n, v) :: rest =>
    if name = n then (name, value) :: rest
    else if name < n then (name, value) :: (n, v) :: rest
    else (n, v) :: insertInto name value rest

/-- An entry after an insertion is the new one or was there before. -/
theorem mem_insertInto {name : String} {value : α} {es : List (String × α)} {e : String × α}
    (h : e ∈ insertInto name value es) : e = (name, value) ∨ e ∈ es := by
  induction es with
  | nil => simpa [insertInto] using h
  | cons head rest ih =>
    obtain ⟨n, v⟩ := head
    unfold insertInto at h
    split at h
    · rcases List.mem_cons.1 h with h | h
      · exact .inl h
      · exact .inr (List.mem_cons_of_mem _ h)
    · split at h
      · rcases List.mem_cons.1 h with h | h
        · exact .inl h
        · exact .inr h
      · rcases List.mem_cons.1 h with h | h
        · exact .inr (h ▸ List.mem_cons_self)
        · rcases ih h with h | h
          · exact .inl h
          · exact .inr (List.mem_cons_of_mem _ h)

/-- Of two different names one is below the other. -/
theorem lt_of_not {a b : String} (ne : a ≠ b) (h : ¬ a < b) : b < a := by
  rcases Classical.em (b < a) with lt | nlt
  · exact lt
  · exact absurd (String.le_antisymm (String.not_lt.1 nlt) (String.not_lt.1 h)) ne

/-- An insertion keeps the order. -/
theorem sorted_insertInto {name : String} {value : α} {es : List (String × α)}
    (h : es.Pairwise fun a b => a.1 < b.1) :
    (insertInto name value es).Pairwise fun a b => a.1 < b.1 := by
  induction es with
  | nil => simp [insertInto]
  | cons head rest ih =>
    obtain ⟨n, v⟩ := head
    obtain ⟨above, tail⟩ := List.pairwise_cons.1 h
    unfold insertInto
    split
    · next eq => exact List.pairwise_cons.2 ⟨fun e he => eq ▸ above e he, tail⟩
    · next ne =>
      split
      · next lt =>
        refine List.pairwise_cons.2 ⟨fun e he => ?_, h⟩
        rcases List.mem_cons.1 he with he | he
        · exact he ▸ lt
        · exact String.lt_trans lt (above e he)
      · next nlt =>
        refine List.pairwise_cons.2 ⟨fun e he => ?_, ih tail⟩
        rcases mem_insertInto he with he | he
        · exact he ▸ lt_of_not ne nlt
        · exact above e he

/-- An insertion changes the value of one name. -/
theorem valueIn_insertInto (name other : String) (value : α) (es : List (String × α)) :
    valueIn other (insertInto name value es) =
      if other = name then some value else valueIn other es := by
  induction es with
  | nil => simp [insertInto, valueIn]
  | cons head rest ih =>
    obtain ⟨n, v⟩ := head
    unfold insertInto
    split
    · next eq => subst eq; by_cases h : other = name <;> simp [valueIn, h]
    · next ne =>
      split
      · simp [valueIn]
      · by_cases h : other = n
        · subst h
          simp [valueIn, Ne.symm ne]
        · simp [valueIn, h, ih]

/-- Leaving a name out leaves the values of the others. -/
theorem valueIn_filter_ne (name other : String) (es : List (String × α)) :
    valueIn other (es.filter fun e => e.1 != name) =
      if other = name then none else valueIn other es := by
  induction es with
  | nil => simp [valueIn]
  | cons head rest ih =>
    obtain ⟨n, v⟩ := head
    by_cases hn : n = name
    · subst hn
      by_cases h : other = n
      · subst h
        simpa using ih
      · simpa [valueIn, h] using ih
    · by_cases h : other = n
      · subst h
        simp [valueIn, hn]
      · simp [valueIn, hn, h, ih]

/-- Names in front of a list of entries have no value in it. -/
theorem valueIn_eq_none_of_lt {name : String} {es : List (String × α)}
    (h : ∀ e ∈ es, name < e.1) : valueIn name es = none := by
  induction es with
  | nil => rfl
  | cons head rest ih =>
    have ne : name ≠ head.1 := fun eq =>
      String.lt_irrefl head.1 (by simpa [eq] using h head List.mem_cons_self)
    simp [valueIn, ne, ih fun e he => h e (List.mem_cons_of_mem _ he)]

/-- Mapping the values commutes with looking one up. -/
theorem valueIn_map (f : String → α → β) (name : String) (es : List (String × α)) :
    valueIn name (es.map fun e => (e.1, f e.1 e.2)) = (valueIn name es).map (f name) := by
  induction es with
  | nil => rfl
  | cons head rest ih =>
    by_cases h : name = head.1
    · simp [valueIn, h]
    · simp [valueIn, h, ih]

/-- A name has a value exactly when an entry bears it. -/
theorem isSome_valueIn {name : String} {es : List (String × α)} :
    (valueIn name es).isSome = true ↔ name ∈ es.map (·.1) := by
  induction es with
  | nil => simp [valueIn]
  | cons head rest ih =>
    by_cases h : name = head.1
    · simp [valueIn, h]
    · simp [valueIn, h, ih]

/-- A value that is found belongs to an entry. -/
theorem mem_of_valueIn {name : String} {value : α} {es : List (String × α)}
    (h : valueIn name es = some value) : (name, value) ∈ es := by
  induction es with
  | nil => simp [valueIn] at h
  | cons head rest ih =>
    obtain ⟨n, v⟩ := head
    unfold valueIn at h
    split at h
    · next eq =>
      cases h
      exact eq ▸ List.mem_cons_self
    · exact List.mem_cons_of_mem _ (ih h)

/-- In an ordered list of entries, the value of an entry's name is the entry's. -/
theorem valueIn_of_mem {name : String} {value : α} {es : List (String × α)}
    (sorted : es.Pairwise fun a b => a.1 < b.1) (h : (name, value) ∈ es) :
    valueIn name es = some value := by
  induction es with
  | nil => simp at h
  | cons head rest ih =>
    obtain ⟨n, v⟩ := head
    obtain ⟨above, tail⟩ := List.pairwise_cons.1 sorted
    rcases List.mem_cons.1 h with eq | later
    · cases eq
      simp [valueIn]
    · have ne : name ≠ n := fun eq =>
        String.lt_irrefl n (by simpa [eq] using above _ later)
      simpa [valueIn, ne] using ih tail later

/-- Ordered lists of entries with the same values are equal. -/
theorem eq_of_valueIn_eq {es fs : List (String × α)} (he : es.Pairwise fun a b => a.1 < b.1)
    (hf : fs.Pairwise fun a b => a.1 < b.1) (h : ∀ name, valueIn name es = valueIn name fs) :
    es = fs := by
  induction es generalizing fs with
  | nil =>
    cases fs with
    | nil => rfl
    | cons f fs =>
      have found := h f.1
      simp [valueIn] at found
  | cons e es ih =>
    cases fs with
    | nil =>
      have found := h e.1
      simp [valueIn] at found
    | cons f fs =>
      obtain ⟨n, v⟩ := e
      obtain ⟨m, w⟩ := f
      obtain ⟨eAbove, eTail⟩ := List.pairwise_cons.1 he
      obtain ⟨fAbove, fTail⟩ := List.pairwise_cons.1 hf
      have same : n = m := by
        rcases Classical.em (n = m) with eq | ne
        · exact eq
        · exfalso
          rcases Classical.em (n < m) with lt | nlt
          · have found := h n
            simp [valueIn, ne,
              valueIn_eq_none_of_lt fun e he => String.lt_trans lt (fAbove e he)] at found
          · have lt := lt_of_not ne nlt
            have found := h m
            simp [valueIn, Ne.symm ne,
              valueIn_eq_none_of_lt fun e he => String.lt_trans lt (eAbove e he)] at found
      subst same
      have value : v = w := by simpa [valueIn] using h n
      subst value
      congr 1
      refine ih eTail fTail fun name => ?_
      rcases Classical.em (name = n) with eq | ne
      · subst eq
        rw [valueIn_eq_none_of_lt eAbove, valueIn_eq_none_of_lt fAbove]
      · simpa [valueIn, ne] using h name

/-- The table without entries. -/
def empty : Table α := ⟨[], .nil⟩

instance : Inhabited (Table α) := ⟨empty⟩

/-- The value of a name. -/
def get? (t : Table α) (name : String) : Option α := valueIn name t.entries

/-- Whether a name has a value. -/
def contains (t : Table α) (name : String) : Bool := (t.get? name).isSome

/-- Give a name a value. -/
def insert (t : Table α) (name : String) (value : α) : Table α :=
  ⟨insertInto name value t.entries, sorted_insertInto t.sorted⟩

/-- Take a name out. -/
def erase (t : Table α) (name : String) : Table α :=
  ⟨t.entries.filter fun e => e.1 != name, t.sorted.filter _⟩

/-- Change every value, knowing its name. -/
def map (f : String → α → β) (t : Table α) : Table β :=
  ⟨t.entries.map fun e => (e.1, f e.1 e.2), List.pairwise_map.2 t.sorted⟩

/-- The names in increasing order. -/
def names (t : Table α) : List String := t.entries.map (·.1)

/-- The number of entries. -/
def size (t : Table α) : Nat := t.entries.length

/-- The table of a list of pairs, of which later ones count. -/
def ofList (pairs : List (String × α)) : Table α :=
  pairs.foldl (fun t p => t.insert p.1 p.2) empty

/-- Two tables with the same look-ups are equal. -/
theorem ext {s t : Table α} (h : ∀ name, s.get? name = t.get? name) : s = t := by
  obtain ⟨es, hs⟩ := s
  obtain ⟨fs, ht⟩ := t
  have same : es = fs := eq_of_valueIn_eq hs ht h
  subst same
  rfl

@[simp] theorem get?_empty (name : String) : (empty : Table α).get? name = none := rfl

/-- An insertion changes the value of one name. -/
theorem get?_insert (t : Table α) (name other : String) (value : α) :
    (t.insert name value).get? other = if other = name then some value else t.get? other :=
  valueIn_insertInto name other value t.entries

/-- Taking a name out leaves the others. -/
theorem get?_erase (t : Table α) (name other : String) :
    (t.erase name).get? other = if other = name then none else t.get? other :=
  valueIn_filter_ne name other t.entries

/-- Taking out a name without a value changes nothing. -/
theorem erase_of_get?_eq_none {t : Table α} {name : String} (h : t.get? name = none) :
    t.erase name = t := by
  refine ext fun other => ?_
  rw [get?_erase]
  split
  · next eq => rw [eq, h]
  · rfl

/-- A mapped table has the mapped values. -/
theorem get?_map (f : String → α → β) (t : Table α) (name : String) :
    (t.map f).get? name = (t.get? name).map (f name) :=
  valueIn_map f name t.entries

/-- A value belongs to a name exactly when the two are an entry. -/
theorem get?_eq_some_iff {t : Table α} {name : String} {value : α} :
    t.get? name = some value ↔ (name, value) ∈ t.entries :=
  ⟨mem_of_valueIn, valueIn_of_mem t.sorted⟩

/-- A name is listed exactly when it has a value. -/
theorem mem_names {t : Table α} {name : String} : name ∈ t.names ↔ t.contains name = true :=
  isSome_valueIn.symm

/-- The listed names increase strictly. -/
theorem names_sorted (t : Table α) : t.names.Pairwise (· < ·) := List.pairwise_map.2 t.sorted

/-- No name is listed twice. -/
theorem names_nodup (t : Table α) : t.names.Nodup := by
  refine t.names_sorted.imp ?_
  rintro name _ lt rfl
  exact String.lt_irrefl name lt

end Table

end TopicBroker
