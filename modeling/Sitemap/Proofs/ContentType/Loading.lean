/-
Which mappings are loaded as content types, what they become, and why others are refused.

`Describes` says which content type a value describes, `Valid` which values describe one, and
`Violates` which check a value fails first.  A mapping of names is loaded when all its values are
valid, and then becomes, name by name, what they describe; otherwise its first value that is not valid
is blamed.  All of this is read off one lemma for each outcome of each reader.

The texts of the patterns have no part in it.  Other texts in their places, whatever brackets they
have, are loaded as well and change nothing else (`catalogue_rewordAll`).  And what is found under a
name depends on the value under that name only, so that feeds of that name build the same query.
Together this is `loads_exactly`.
-/
import Sitemap.Proofs.Feed.Transparency
import Sitemap.Proofs.Outcome

namespace Sitemap
namespace ContentType

variable {s : Settings} {v : Value} {c : ContentType} {cause : Cause} {data raw : Entries Value}

/-! ## Content types -/

/-- A mapping with a pattern: a text with something in it. -/
def HasPattern (v : Value) (p : String) : Prop :=
  ∃ entry, v = .mapping entry ∧ Entries.get? "pattern" entry = some (.text p) ∧ p ≠ ""

/-- The options of a mapping: none when they are left out or count as not given. -/
inductive HasOptions (data : Entries Value) : Entries Value → Prop where
  | given {options : Entries Value} (there : Entries.get? "options" data = some (.mapping options)) :
      HasOptions data options
  | absent (none : ∀ v, Entries.get? "options" data = some v → v.truthy = false) :
      HasOptions data []

/-- The content type that a value describes. -/
inductive Describes : Value → ContentType → Prop where
  | mapping {data languages options : Entries Value} {patterns : Entries String}
      (found : Entries.get? "languages" data = some (.mapping languages))
      (read : List.Forall₂ (fun e l => l.1 = e.1 ∧ HasPattern e.2 l.2) languages patterns)
      (optional : HasOptions data options) : Describes (.mapping data) ⟨patterns, options⟩

/-- A mapping with languages that all have a pattern, and with options that are a mapping or count as
not given. -/
inductive Valid : Value → Prop where
  | mapping {data languages : Entries Value}
      (found : Entries.get? "languages" data = some (.mapping languages))
      (patterns : ∀ e ∈ languages, ∃ p, HasPattern e.2 p)
      (optional : ∀ v, Entries.get? "options" data = some v →
        v.truthy = false ∨ ∃ options, v = .mapping options) : Valid (.mapping data)

/-- The first check that a value fails. -/
inductive Violates : Value → Cause → Prop where
  | notMapping {v : Value} (other : ∀ data, v ≠ .mapping data) :
      Violates v (.notMapping v.typeName)
  | languages {data : Entries Value}
      (other : ∀ languages, Entries.get? "languages" data ≠ some (.mapping languages)) :
      Violates (.mapping data) .languages
  /-- The first language without a pattern. -/
  | withoutPattern {data before after : Entries Value} {e : String × Value}
      (found : Entries.get? "languages" data = some (.mapping (before ++ e :: after)))
      (fine : ∀ e' ∈ before, ∃ p, HasPattern e'.2 p) (lacks : ∀ p, ¬HasPattern e.2 p) :
      Violates (.mapping data) (.withoutPattern e.1)
  | options {data languages : Entries Value} {v : Value}
      (found : Entries.get? "languages" data = some (.mapping languages))
      (fine : ∀ e ∈ languages, ∃ p, HasPattern e.2 p)
      (there : Entries.get? "options" data = some v) (truthy : v.truthy = true)
      (other : ∀ options, v ≠ .mapping options) : Violates (.mapping data) .options

/-! ## Reading one value -/

theorem patternOf?_mapping (entry : Entries Value) :
    patternOf? (.mapping entry) = match Entries.get? "pattern" entry with
      | some (.text p) => if p = "" then none else some p
      | _ => none :=
  rfl

theorem patternOf?_eq_some_iff {p : String} : patternOf? v = some p ↔ HasPattern v p := by
  constructor
  · intro read
    unfold patternOf? at read
    split at read
    · next entry =>
      split at read
      · next q there =>
        split at read
        · cases read
        · next something =>
          cases read
          exact ⟨entry, rfl, there, something⟩
      · cases read
    · cases read
  · rintro ⟨entry, rfl, there, something⟩
    rw [patternOf?_mapping, there]
    exact if_neg something

theorem readLanguage_eq_ok_iff {e : String × Value} {l : String × String} :
    readLanguage e = .ok l ↔ l.1 = e.1 ∧ HasPattern e.2 l.2 := by
  obtain ⟨language, p⟩ := l
  rw [← patternOf?_eq_some_iff]
  unfold readLanguage
  cases patternOf? e.2 with
  | none => simp
  | some q => simp [eq_comm]

theorem readLanguage_eq_error_iff {e : String × Value} :
    readLanguage e = .error cause ↔ (∀ p, ¬HasPattern e.2 p) ∧ cause = .withoutPattern e.1 := by
  simp only [← patternOf?_eq_some_iff]
  unfold readLanguage
  cases patternOf? e.2 with
  | none => simp [eq_comm]
  | some q => simp

theorem exists_readLanguage_iff {e : String × Value} :
    (∃ l, readLanguage e = .ok l) ↔ ∃ p, HasPattern e.2 p := by
  simp only [readLanguage_eq_ok_iff]
  constructor
  · rintro ⟨l, -, has⟩
    exact ⟨l.2, has⟩
  · rintro ⟨p, has⟩
    exact ⟨(e.1, p), rfl, has⟩

theorem readOptions_eq_ok_iff {options : Entries Value} :
    readOptions data = .ok options ↔ HasOptions data options := by
  unfold readOptions
  constructor
  · intro read
    split at read
    · next none =>
      cases read
      exact .absent fun v there => by rw [none] at there; cases there
    · next there =>
      cases read
      exact .given there
    · next v _ there =>
      split at read
      · cases read
      · next falsy =>
        cases read
        refine .absent fun w there' => ?_
        rw [there] at there'
        cases there'
        exact Bool.eq_false_iff.mpr falsy
  · intro has
    cases has with
    | given there => rw [there]
    | absent none =>
      split
      · rfl
      · next es there =>
        have falsy := none _ there
        cases es with
        | nil => rfl
        | cons e es => cases falsy
      · next v _ there => rw [none v there]; rfl

theorem readOptions_eq_error_iff :
    readOptions data = .error cause ↔ ∃ v, Entries.get? "options" data = some v ∧
      v.truthy = true ∧ (∀ options, v ≠ .mapping options) ∧ cause = .options := by
  unfold readOptions
  split
  · next none => simp [none]
  · next there => simp [there]
  · next v other there =>
    have other : ∀ options, v ≠ .mapping options := other
    cases truthy : v.truthy with
    | false => simp [there, truthy]
    | true => simpa [there, truthy, other] using eq_comm

theorem readOptions_congr {other : Entries Value}
    (same : Entries.get? "options" other = Entries.get? "options" data) :
    readOptions other = readOptions data := by
  unfold readOptions
  rw [same]

/-- What is read of a mapping with languages. -/
theorem read_mapping {languages : Entries Value}
    (found : Entries.get? "languages" data = some (.mapping languages)) :
    read (.mapping data) = (do
      let patterns ← languages.mapM readLanguage
      let options ← readOptions data
      return ⟨patterns, options⟩) := by
  simp only [read, found]

theorem read_of_no_languages
    (other : ∀ languages, Entries.get? "languages" data ≠ some (.mapping languages)) :
    read (.mapping data) = .error .languages := by
  simp only [read]

theorem read_of_not_mapping (other : ∀ data, v ≠ .mapping data) :
    read v = .error (.notMapping v.typeName) := by
  unfold read
  split
  · next data => exact absurd rfl (other data)
  · rfl

/-- A value has languages, or lacks them in one of two ways. -/
theorem languages_cases (v : Value) :
    (∃ data languages, v = .mapping data ∧
      Entries.get? "languages" data = some (.mapping languages)) ∨
    (∃ data, v = .mapping data ∧
      ∀ languages, Entries.get? "languages" data ≠ some (.mapping languages)) ∨
    ∀ data, v ≠ .mapping data := by
  by_cases shape : ∃ data, v = .mapping data
  · obtain ⟨data, rfl⟩ := shape
    by_cases found : ∃ languages, Entries.get? "languages" data = some (.mapping languages)
    · obtain ⟨languages, found⟩ := found
      exact .inl ⟨data, languages, rfl, found⟩
    · exact .inr (.inl ⟨data, rfl, not_exists.mp found⟩)
  · exact .inr (.inr (not_exists.mp shape))

theorem mapM_readLanguage_iff {languages : Entries Value} {patterns : Entries String} :
    languages.mapM readLanguage = .ok patterns ↔
      List.Forall₂ (fun e l => l.1 = e.1 ∧ HasPattern e.2 l.2) languages patterns :=
  mapM_eq_ok_iff fun _ _ => readLanguage_eq_ok_iff

theorem exists_mapM_readLanguage_iff {languages : Entries Value} :
    (∃ patterns, languages.mapM readLanguage = .ok patterns) ↔
      ∀ e ∈ languages, ∃ p, HasPattern e.2 p := by
  rw [exists_mapM_iff]
  exact forall₂_congr fun _ _ => exists_readLanguage_iff

theorem read_eq_ok_iff : read v = .ok c ↔ Describes v c := by
  constructor
  · intro done
    rcases languages_cases v with ⟨data, languages, rfl, found⟩ | ⟨data, rfl, other⟩ | other
    · rw [read_mapping found] at done
      obtain ⟨patterns, each, done⟩ := exists_of_bind done
      obtain ⟨options, optional, done⟩ := exists_of_bind done
      cases done
      exact .mapping found (mapM_readLanguage_iff.mp each) (readOptions_eq_ok_iff.mp optional)
    · rw [read_of_no_languages other] at done
      cases done
    · rw [read_of_not_mapping other] at done
      cases done
  · rintro ⟨found, each, optional⟩
    rw [read_mapping found, mapM_readLanguage_iff.mpr each, readOptions_eq_ok_iff.mpr optional]
    rfl

theorem read_eq_error_iff : read v = .error cause ↔ Violates v cause := by
  constructor
  · intro fails
    rcases languages_cases v with ⟨data, languages, rfl, found⟩ | ⟨data, rfl, other⟩ | other
    · rw [read_mapping found] at fails
      rcases bind_eq_error_iff.mp fails with fails | ⟨patterns, each, fails⟩
      · obtain ⟨before, e, after, rfl, fine, fails⟩ := mapM_eq_error_iff.mp fails
        obtain ⟨lacks, rfl⟩ := readLanguage_eq_error_iff.mp fails
        exact .withoutPattern found (fun e' mem => exists_readLanguage_iff.mp (fine e' mem)) lacks
      · rcases bind_eq_error_iff.mp fails with fails | ⟨_, _, done⟩
        · obtain ⟨v, there, truthy, other, rfl⟩ := readOptions_eq_error_iff.mp fails
          have fine := exists_mapM_readLanguage_iff.mp ⟨patterns, each⟩
          exact .options found fine there truthy other
        · cases done
    · rw [read_of_no_languages other] at fails
      cases fails
      exact .languages other
    · rw [read_of_not_mapping other] at fails
      cases fails
      exact .notMapping other
  · intro violates
    cases violates with
    | notMapping other => exact read_of_not_mapping other
    | languages other => exact read_of_no_languages other
    | @withoutPattern data before after e found fine lacks =>
      have fails : (before ++ e :: after).mapM readLanguage = .error (.withoutPattern e.1) :=
        mapM_eq_error_iff.mpr ⟨before, e, after, rfl,
          fun e' mem => exists_readLanguage_iff.mpr (fine e' mem),
          readLanguage_eq_error_iff.mpr ⟨lacks, rfl⟩⟩
      rw [read_mapping found, fails]
      rfl
    | options found fine there truthy other =>
      obtain ⟨patterns, each⟩ := exists_mapM_readLanguage_iff.mpr fine
      rw [read_mapping found, each,
        readOptions_eq_error_iff.mpr ⟨_, there, truthy, other, rfl⟩]
      rfl

theorem exists_hasOptions_iff : (∃ options, HasOptions data options) ↔
    ∀ v, Entries.get? "options" data = some v → v.truthy = false ∨ ∃ options, v = .mapping options := by
  constructor
  · rintro ⟨options, there | none⟩ v found
    · rw [there] at found
      cases found
      exact .inr ⟨options, rfl⟩
    · exact .inl (none v found)
  · intro optional
    cases done : readOptions data with
    | ok options => exact ⟨options, readOptions_eq_ok_iff.mp done⟩
    | error cause =>
      obtain ⟨v, there, truthy, other, -⟩ := readOptions_eq_error_iff.mp done
      rcases optional v there with falsy | ⟨options, e⟩
      · rw [truthy] at falsy
        cases falsy
      · exact absurd e (other options)

theorem valid_iff : Valid v ↔ ∃ c, read v = .ok c := by
  simp only [read_eq_ok_iff]
  constructor
  · rintro ⟨found, patterns, optional⟩
    obtain ⟨ps, each⟩ := exists_mapM_readLanguage_iff.mpr patterns
    obtain ⟨options, optional⟩ := exists_hasOptions_iff.mpr optional
    exact ⟨⟨ps, options⟩, .mapping found (mapM_readLanguage_iff.mp each) optional⟩
  · rintro ⟨_, found, each, optional⟩
    have patterns := exists_mapM_readLanguage_iff.mp ⟨_, mapM_readLanguage_iff.mpr each⟩
    exact .mapping found patterns (exists_hasOptions_iff.mp ⟨_, optional⟩)

/-! ## Loading -/

theorem catalogue_mapping (s : Settings) (raw : Entries Value) :
    catalogue s (.mapping raw) = (readAll raw).mapError .config := by
  unfold catalogue
  rw [if_neg (by simp)]
  rfl

/-- What a mapping is refused with: the first check that its first value that is not valid fails. -/
inductive Refused (raw : Entries Value) : Failure → Prop where
  | entry {before after : Entries Value} {name : String} {v : Value} {cause : Cause}
      (split : raw = before ++ (name, v) :: after) (fine : ∀ e ∈ before, Valid e.2)
      (violates : Violates v cause) : Refused raw (.config ⟨.text name, cause⟩)

theorem readEntry_eq_ok_iff {e : String × Value} {n : String × ContentType} :
    readEntry e = .ok n ↔ n.1 = e.1 ∧ Describes e.2 n.2 := by
  obtain ⟨name, c⟩ := n
  rw [← read_eq_ok_iff]
  unfold readEntry ofValue
  cases read e.2 with
  | error cause => simp [Except.mapError, Except.map]
  | ok c' => simp [Except.mapError, Except.map, eq_comm]

theorem readEntry_eq_error_iff {e : String × Value} {error : ConfigError} :
    readEntry e = .error error ↔ ∃ cause, Violates e.2 cause ∧ error = ⟨.text e.1, cause⟩ := by
  unfold readEntry ofValue
  rw [map_eq_error_iff, mapError_eq_error_iff]
  exact exists_congr fun cause => and_congr read_eq_error_iff eq_comm

theorem exists_readEntry_iff {e : String × Value} : (∃ n, readEntry e = .ok n) ↔ Valid e.2 := by
  rw [valid_iff]
  unfold readEntry ofValue
  cases read e.2 <;> simp [Except.mapError, Except.map]

theorem readAll_eq_ok_iff {cs : Entries ContentType} :
    readAll raw = .ok cs ↔
      List.Forall₂ (fun e n => n.1 = e.1 ∧ Describes e.2 n.2) raw cs :=
  mapM_eq_ok_iff fun _ _ => readEntry_eq_ok_iff

theorem exists_readAll_iff : (∃ cs, readAll raw = .ok cs) ↔ ∀ e ∈ raw, Valid e.2 := by
  unfold readAll
  rw [exists_mapM_iff]
  exact forall₂_congr fun _ _ => exists_readEntry_iff

theorem catalogue_eq_ok_iff {cs : Entries ContentType} :
    catalogue s (.mapping raw) = .ok cs ↔ readAll raw = .ok cs := by
  rw [catalogue_mapping]
  cases readAll raw <;> simp [Except.mapError]

theorem catalogue_eq_error_iff {failure : Failure} :
    catalogue s (.mapping raw) = .error failure ↔ Refused raw failure := by
  rw [catalogue_mapping, mapError_eq_error_iff]
  constructor
  · rintro ⟨error, fails, rfl⟩
    obtain ⟨before, ⟨name, v⟩, after, rfl, fine, fails⟩ := mapM_eq_error_iff.mp fails
    obtain ⟨cause, violates, rfl⟩ := readEntry_eq_error_iff.mp fails
    exact .entry rfl (fun e mem => exists_readEntry_iff.mp (fine e mem)) violates
  · rintro ⟨rfl, fine, violates⟩
    exact ⟨_, mapM_eq_error_iff.mpr ⟨_, _, _, rfl,
      fun e mem => exists_readEntry_iff.mpr (fine e mem),
      readEntry_eq_error_iff.mpr ⟨_, violates, rfl⟩⟩, rfl⟩

/-- What is found under a name is what the value under that name describes. -/
theorem get?_readAll {cs : Entries ContentType} (done : readAll raw = .ok cs) (name : String) :
    Entries.get? name cs = (Entries.get? name raw).bind fun v => (read v).toOption := by
  induction readAll_eq_ok_iff.mp done with
  | nil => rfl
  | @cons e n raw cs here rest ih =>
    obtain ⟨same, describes⟩ := here
    unfold Entries.get?
    rw [same]
    split
    · rw [Option.bind_some, read_eq_ok_iff.mpr describes]
      rfl
    · exact ih (readAll_eq_ok_iff.mpr rest)

theorem find?_of_catalogue {cs : Entries ContentType}
    (done : catalogue s (.mapping raw) = .ok cs) (name : String) :
    find? s (.mapping raw) name
      = .ok ((Entries.get? name raw).bind fun v => (read v).toOption) := by
  unfold find?
  rw [done]
  exact congrArg Except.ok (get?_readAll (catalogue_eq_ok_iff.mp done) name)

/-! ## Other patterns -/

/-- A mapping with its values changed; any other value as it is. -/
def mapValues (f : String → Value → Value) : Value → Value
  | .mapping es => .mapping (Entries.mapWithKey f es)
  | v => v

/-- A mapping with the value of one key changed. -/
def mapAt (key : String) (f : Value → Value) : Value → Value :=
  mapValues fun k v => if k = key then f v else v

def mapText (f : String → String) : Value → Value
  | .text p => .text (f p)
  | v => v

/-- Languages, as a value, with other texts as their patterns. -/
def rewordLanguages (g : String → String → String) : Value → Value :=
  mapValues fun language => mapAt "pattern" (mapText (g language))

/-- A content type, as a value, with other texts as the patterns of its languages. -/
def rewordValue (g : String → String → String) : Value → Value :=
  mapAt "languages" (rewordLanguages g)

/-- A content type with other patterns. -/
def reword (g : String → String → String) (c : ContentType) : ContentType :=
  { c with languages := Entries.mapWithKey g c.languages }

theorem get?_mapAt_self (key : String) (f : Value → Value) (es : Entries Value) :
    Entries.get? key (Entries.mapWithKey (fun k v => if k = key then f v else v) es)
      = (Entries.get? key es).map f := by
  rw [Entries.get?_mapWithKey]
  simp only [if_true]

theorem get?_mapAt_of_ne {key k : String} (ne : k ≠ key) (f : Value → Value) (es : Entries Value) :
    Entries.get? k (Entries.mapWithKey (fun k v => if k = key then f v else v) es)
      = Entries.get? k es := by
  rw [Entries.get?_mapWithKey]
  simp only [if_neg ne]
  exact Option.map_id' ..

theorem map_mapValues_ne {f : String → Value → Value} {found : Option Value}
    (other : ∀ es, found ≠ some (.mapping es)) (es : Entries Value) :
    found.map (mapValues f) ≠ some (.mapping es) := by
  cases found with
  | none => exact nofun
  | some v =>
    cases v with
    | mapping es => exact absurd rfl (other es)
    | _ => exact nofun

theorem patternOf?_mapText {f : String → String} (keeps : ∀ p, f p = "" ↔ p = "") (v : Value) :
    patternOf? (mapAt "pattern" (mapText f) v) = (patternOf? v).map f := by
  cases v with
  | mapping entry =>
    show patternOf? (.mapping (Entries.mapWithKey _ entry)) = _
    rw [patternOf?_mapping, patternOf?_mapping, get?_mapAt_self]
    cases Entries.get? "pattern" entry with
    | none => rfl
    | some v =>
      cases v with
      | text p =>
        show (if f p = "" then none else some (f p)) = Option.map f (if p = "" then none else some p)
        by_cases empty : p = ""
        · rw [if_pos empty, if_pos ((keeps p).mpr empty)]
          rfl
        · rw [if_neg empty, if_neg (mt (keeps p).mp empty)]
          rfl
      | _ => rfl
  | _ => rfl

theorem readLanguage_mapText {g : String → String → String} (keeps : ∀ l p, g l p = "" ↔ p = "")
    (e : String × Value) :
    readLanguage (e.1, mapAt "pattern" (mapText (g e.1)) e.2)
      = (readLanguage e).map fun l => (l.1, g l.1 l.2) := by
  unfold readLanguage
  rw [patternOf?_mapText (keeps e.1)]
  cases patternOf? e.2 <;> rfl

theorem read_rewordValue {g : String → String → String} (keeps : ∀ l p, g l p = "" ↔ p = "")
    (v : Value) : read (rewordValue g v) = (read v).map (reword g) := by
  rcases languages_cases v with ⟨data, languages, rfl, found⟩ | ⟨data, rfl, other⟩ | other
  · have found' := get?_mapAt_self "languages" (rewordLanguages g) data
    rw [found] at found'
    have each : (Entries.mapWithKey (fun language => mapAt "pattern" (mapText (g language)))
        languages).mapM readLanguage
          = (languages.mapM readLanguage).map (Entries.mapWithKey g) :=
      mapM_map_of_comm (readLanguage_mapText keeps) languages
    -- The options stand under another key and are left alone.
    have apart : "options" ≠ "languages" := by decide
    have optional := readOptions_congr (get?_mapAt_of_ne apart (rewordLanguages g) data)
    show read (.mapping (Entries.mapWithKey _ data)) = _
    rw [read_mapping found', read_mapping found, each, optional]
    cases languages.mapM readLanguage with
    | error cause => rfl
    | ok patterns => cases readOptions data <;> rfl
  · rw [read_of_no_languages other]
    refine read_of_no_languages fun languages there => ?_
    rw [get?_mapAt_self] at there
    exact map_mapValues_ne other languages there
  · have same : rewordValue g v = v := by
      cases v with
      | mapping data => exact absurd rfl (other data)
      | _ => rfl
    rw [same, read_of_not_mapping other]
    rfl

/-- A mapping of names with other texts as the patterns. -/
def rewordAll (g : String → String → String → String) (raw : Entries Value) : Entries Value :=
  Entries.mapWithKey (fun name => rewordValue (g name)) raw

theorem catalogue_rewordAll {g : String → String → String → String}
    (keeps : ∀ n l p, g n l p = "" ↔ p = "") (s : Settings) (raw : Entries Value) :
    catalogue s (.mapping (rewordAll g raw))
      = (catalogue s (.mapping raw)).map (Entries.mapWithKey fun name => reword (g name)) := by
  have each (e : String × Value) : readEntry (e.1, rewordValue (g e.1) e.2)
      = (readEntry e).map fun n => (n.1, reword (g n.1) n.2) := by
    unfold readEntry ofValue
    rw [read_rewordValue (keeps e.1)]
    cases read e.2 <;> rfl
  have all : readAll (rewordAll g raw)
      = (readAll raw).map (Entries.mapWithKey fun name => reword (g name)) :=
    mapM_map_of_comm each raw
  rw [catalogue_mapping, catalogue_mapping, all]
  cases readAll raw <;> rfl

end ContentType

/-! ## Feeds -/

namespace Feed

/-- Other content types in the settings change the query of a feed only by what is found under its
name. -/
theorem build_congr {s : Settings} {f : Feed} {here there : Value}
    (same : ContentType.find? { s with contentTypes := here } .null f.name
      = ContentType.find? { s with contentTypes := there } .null f.name) (pageId : Value) :
    f.build { s with contentTypes := here } pageId
      = f.build { s with contentTypes := there } pageId := by
  have found : f.getContentType { s with contentTypes := here }
      = f.getContentType { s with contentTypes := there } := by
    cases set : f.contentType with
    | some c => rw [getContentType_of_some set, getContentType_of_some set]
    | none => rw [getContentType_of_none set, getContentType_of_none set, same]
  rw [build_eq, build_eq, found]
  unfold query
  rw [found]
  rfl

end Feed

namespace ContentType

/-- The content types that a mapping of names is loaded as. -/
structure LoadsExactly (s : Settings) (raw : Entries Value) : Prop where
  loads : (∃ cs, catalogue s (.mapping raw) = .ok cs) ↔ ∀ e ∈ raw, Valid e.2
  /-- The same names in the same order, each with what its value describes. -/
  content : ∀ cs, catalogue s (.mapping raw) = .ok cs ↔
    List.Forall₂ (fun e n => n.1 = e.1 ∧ Describes e.2 n.2) raw cs
  refuses : ∀ failure, catalogue s (.mapping raw) = .error failure ↔ Refused raw failure
  /-- Other texts in the places of the patterns have the same outcome, up to these texts, as long as
  there is a text where there was one. -/
  unparsed : ∀ g : String → String → String → String, (∀ n l p, g n l p = "" ↔ p = "") →
    catalogue s (.mapping (rewordAll g raw))
      = (catalogue s (.mapping raw)).map (Entries.mapWithKey fun name => reword (g name))
  /-- Two mappings that are loaded and have the same under a name give it the same content type and
  the same queries. -/
  isolated : ∀ other name, (∃ cs, catalogue s (.mapping raw) = .ok cs) →
    (∃ cs, catalogue s (.mapping other) = .ok cs) →
    Entries.get? name raw = Entries.get? name other →
      find? s (.mapping raw) name = find? s (.mapping other) name ∧
      ∀ (f : Feed) pageId, f.name = name →
        f.build { s with contentTypes := .mapping raw } pageId
          = f.build { s with contentTypes := .mapping other } pageId
  /-- The content types of the settings are loaded in the same way. -/
  setting : catalogue { s with contentTypes := .mapping raw } .null = catalogue s (.mapping raw)

/-- Loading accepts the mappings with valid values only, and keeps content types apart. -/
theorem loads_exactly (s : Settings) (raw : Entries Value) : LoadsExactly s raw where
  loads := by
    simp only [catalogue_eq_ok_iff]
    exact exists_readAll_iff
  content cs := catalogue_eq_ok_iff.trans readAll_eq_ok_iff
  refuses _ := catalogue_eq_error_iff
  unparsed _ keeps := catalogue_rewordAll keeps s raw
  isolated := by
    rintro other name ⟨cs, loads⟩ ⟨cs', loads'⟩ agree
    have same : find? s (.mapping raw) name = find? s (.mapping other) name := by
      rw [find?_of_catalogue loads, find?_of_catalogue loads', agree]
    refine ⟨same, fun f pageId named => Feed.build_congr ?_ pageId⟩
    rw [named]
    exact same
  setting := rfl

/-- Brackets that do not match are loaded like any other text. -/
example : catalogue {} (.mapping [("posts", .mapping [("languages",
    .mapping [("en", .mapping [("pattern", .text "/]a[")])])])])
      = .ok [("posts", ⟨[("en", "/]a[")], []⟩)] := rfl

end ContentType
end Sitemap
