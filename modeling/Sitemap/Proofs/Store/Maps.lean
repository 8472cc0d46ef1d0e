/-
The store, asked for one operation after another, is two finite maps.

A document is kept under its name and its part number, and a cache under its name.  `Maps` holds what
is kept under each key, and the identifiers that have been given out; `Maps.Answers` says what an
operation answers, and what it leaves behind.  The store answers any operations in this way, and at
every time its rows are those of the maps, one for each key: `behaves_of_requests`.

`Fills` ties a table to a map through a list of the map's entries without repeats, whose rows are the
rows of the table in their order.  Each change of a table has one lemma that keeps it, for whatever
keys and rows.
-/
import Sitemap.Proofs.Store.Deletion

namespace Sitemap
namespace Store

/-! ## Requests and maps -/

/-- An operation on names that are texts and part numbers that are whole numbers. -/
inductive Request where
  | createSitemap (body : Value) (name : String) (delta : Int)
  | getSitemap (name : String) (delta : Int)
  | deleteSitemap (name : String)
  | createCache (json : Value) (name : String)
  | updateCache (json : Value) (name : String)
  | getCache (name : String)

def Request.operation : Request → Operation
  | .createSitemap body name delta => .createSitemap body (.text name) (.int delta)
  | .getSitemap name delta => .getSitemap (.text name) (.int delta)
  | .deleteSitemap name => .deleteSitemap (.text name)
  | .createCache json name => .createCache json (.text name)
  | .updateCache json name => .updateCache json (.text name)
  | .getCache name => .getCache (.text name)

/-- What is kept under a key: the identifier of its row, and what was written last. -/
structure Kept where
  id : Int
  body : Value

/-- What is kept under each key, and the identifiers that have been given out. -/
structure Shelf (κ : Type) where
  kept : κ → Option Kept := fun _ => none
  given : List Int := []

namespace Shelf

variable {κ : Type} [DecidableEq κ]

/-- Keep something under a key, with an identifier that is given out for it. -/
def put (k : κ) (e : Kept) (m : Shelf κ) : Shelf κ :=
  ⟨Function.update m.kept k (some e), e.id :: m.given⟩

/-- Change what is kept under a key. -/
def change (k : κ) (e : Kept) (m : Shelf κ) : Shelf κ :=
  { m with kept := Function.update m.kept k (some e) }

/-- Keep nothing under some keys. -/
def without (p : κ → Bool) (m : Shelf κ) : Shelf κ :=
  { m with kept := fun k => if p k then none else m.kept k }

end Shelf

/-- The documents by name and part number, and the caches by name. -/
structure Maps where
  documents : Shelf (String × Int) := {}
  caches : Shelf String := {}

def documentRow (k : String × Int) (e : Kept) : Row :=
  ⟨e.id, [("sitemap_string", e.body), ("name", .text k.1), ("delta", .int k.2)]⟩

def cacheRow (name : String) (e : Kept) : Row :=
  ⟨e.id, [("sitemap_json", e.body), ("name", .text name)]⟩

/-- What a request answers, and the maps after it. -/
inductive Maps.Answers (m : Maps) : Request → Option Row → Maps → Prop where
  /-- A creation sets its key, with an identifier above all that were given out. -/
  | createSitemap {body : Value} {name : String} {delta id : Int}
      (new : ∀ n ∈ m.documents.given, n < id) :
      Answers m (.createSitemap body name delta) (some (documentRow (name, delta) ⟨id, body⟩))
        { m with documents := m.documents.put (name, delta) ⟨id, body⟩ }
  | getSitemap {name : String} {delta : Int} :
      Answers m (.getSitemap name delta)
        ((m.documents.kept (name, delta)).map (documentRow (name, delta))) m
  /-- A deletion takes what is kept under its name, whatever the part number. -/
  | deleteSitemap {name : String} :
      Answers m (.deleteSitemap name) none
        { m with documents := m.documents.without fun k => k.1 = name }
  | createCache {json : Value} {name : String} {id : Int} (new : ∀ n ∈ m.caches.given, n < id) :
      Answers m (.createCache json name) (some (cacheRow name ⟨id, json⟩))
        { m with caches := m.caches.put name ⟨id, json⟩ }
  /-- An update leaves the identifier as it is. -/
  | updateCache {json : Value} {name : String} {e : Kept} (there : m.caches.kept name = some e) :
      Answers m (.updateCache json name) (some (cacheRow name ⟨e.id, json⟩))
        { m with caches := m.caches.change name ⟨e.id, json⟩ }
  /-- With nothing to update, it changes nothing. -/
  | missing {json : Value} {name : String} (none_there : m.caches.kept name = none) :
      Answers m (.updateCache json name) none m
  | getCache {name : String} :
      Answers m (.getCache name) ((m.caches.kept name).map (cacheRow name)) m

/-- The rows of a table are those of a map, one for each key. -/
structure Shelf.Lists {κ : Type} (row : κ → Kept → Row) (m : Shelf κ) (t : Table) : Prop where
  rows : ∀ r, r ∈ t.rows ↔ ∃ k e, m.kept k = some e ∧ r = row k e
  count : ∃ keys : Finset κ, (∀ k, k ∈ keys ↔ (m.kept k).isSome = true) ∧
    t.rows.length = keys.card

structure Maps.Lists (m : Maps) (tables : TableName → Table) : Prop where
  documents : m.documents.Lists documentRow (tables .sitemaps)
  caches : m.caches.Lists cacheRow (tables .caches)

/-- From a state on, requests are answered one after another as the maps answer them, and the tables
have the rows of the maps all the time. -/
inductive Behaves : State → Maps → List Request → Prop where
  | stop {s : State} {m : Maps} (lists : m.Lists s.tables) : Behaves s m []
  | next {s : State} {m m' : Maps} {r : Request} {rs : List Request} {answer : Option Row}
      (lists : m.Lists s.tables)
      (ended : (s.perform calm () r.operation).2.outcome? 0 = some (.ok answer))
      (answers : m.Answers r answer m')
      (later : Behaves (s.perform calm () r.operation).2 m' rs) : Behaves s m (r :: rs)

/-! ## Tables that are filled from a map -/

/-- The rows of a table come from the entries of a map, which are listed without repeats. -/
structure Shelf.Fills {κ : Type} (row : κ → Kept → Row) (m : Shelf κ) (t : Table) : Prop where
  numbered : t.Numbered
  given : ∀ n ∈ m.given, n < t.nextId
  held : ∃ held : List (κ × Kept), t.rows = held.map (fun x => row x.1 x.2) ∧
    (held.map Prod.fst).Nodup ∧ ∀ k e, (k, e) ∈ held ↔ m.kept k = some e

namespace Shelf

variable {κ : Type} {row : κ → Kept → Row} {m : Shelf κ} {t : Table}

/-- What is put under a key takes the place of what was kept there. -/
theorem put_without [DecidableEq κ] (k : κ) (e : Kept) (m : Shelf κ) :
    (m.without fun l => decide (l = k)).put k e = m.put k e := by
  have same : Function.update (m.without fun l => decide (l = k)).kept k (some e)
      = Function.update m.kept k (some e) := by
    funext l
    by_cases here : l = k
    · rw [here, Function.update_self, Function.update_self]
    · rw [Function.update_of_ne here, Function.update_of_ne here]
      exact if_neg (by simpa using here)
  unfold put
  rw [same]
  rfl

namespace Fills

theorem empty : Fills row {} {} where
  numbered := ⟨List.nodup_nil, by simp⟩
  given := by simp
  held := ⟨[], rfl, List.nodup_nil, by simp⟩

theorem lists (h : Fills row m t) : m.Lists row t := by
  classical
  obtain ⟨held, rows, own, entries⟩ := h.held
  refine ⟨fun r => ?_, (held.map Prod.fst).toFinset, fun k => ?_, ?_⟩
  · rw [rows, List.mem_map]
    constructor
    · rintro ⟨⟨k, e⟩, mem, rfl⟩
      exact ⟨k, e, (entries k e).mp mem, rfl⟩
    · rintro ⟨k, e, kept, rfl⟩
      exact ⟨(k, e), (entries k e).mpr kept, rfl⟩
  · rw [List.mem_toFinset, Option.isSome_iff_exists]
    constructor
    · intro listed
      obtain ⟨⟨_, e⟩, mem, rfl⟩ := List.mem_map.mp listed
      exact ⟨e, (entries _ e).mp mem⟩
    · rintro ⟨e, kept⟩
      exact List.mem_map.mpr ⟨(k, e), (entries k e).mpr kept, rfl⟩
  · rw [List.toFinset_card_of_nodup own, rows, List.length_map, List.length_map]

theorem without (h : Fills row m t) {p : Row → Bool} {q : κ → Bool}
    (same : ∀ k e, p (row k e) = q k) : Fills row (m.without q) (t.without p) where
  numbered := h.numbered.without p
  given := h.given
  held := by
    obtain ⟨held, rows, own, entries⟩ := h.held
    refine ⟨held.filter fun x => !q x.1, ?_, own.sublist (List.filter_sublist.map _),
      fun k e => ?_⟩
    · show t.rows.filter (fun r => !p r) = _
      rw [rows, List.filter_map]
      congr 1
      exact List.filter_congr fun x _ => congrArg not (same x.1 x.2)
    · rw [List.mem_filter, entries]
      show m.kept k = some e ∧ (!q k) = true ↔ (if q k then none else m.kept k) = some e
      cases q k <;> simp

theorem insert [DecidableEq κ] (h : Fills row m t) {k : κ} {e : Kept} {data : Entries Value}
    (free : m.kept k = none) (id : e.id = t.newId) (shape : row k e = t.newRow data) :
    Fills row (m.put k e) (t.insert data) where
  numbered := h.numbered.insert data
  given n hn := by
    show n < max t.nextId (t.newId + 1)
    rcases List.mem_cons.mp hn with rfl | hn
    · omega
    · have := h.given n hn
      omega
  held := by
    obtain ⟨held, rows, own, entries⟩ := h.held
    have fresh : k ∉ held.map Prod.fst := by
      intro listed
      obtain ⟨⟨_, e'⟩, mem, rfl⟩ := List.mem_map.mp listed
      rw [(entries _ e').mp mem] at free
      cases free
    refine ⟨held ++ [(k, e)], ?_, ?_, fun l e' => ?_⟩
    · show t.rows ++ [t.newRow data] = _
      rw [rows, List.map_append, ← shape]
      rfl
    · rw [List.map_append]
      exact List.nodup_append.mpr ⟨own, List.nodup_singleton _, fun a ha b hb => by
        rw [List.mem_singleton.mp hb]
        rintro rfl
        exact fresh ha⟩
    · rw [List.mem_append, List.mem_singleton, entries]
      show _ ↔ Function.update m.kept k (some e) l = some e'
      by_cases here : l = k
      · subst here
        rw [free, Function.update_self]
        simp [eq_comm]
      · rw [Function.update_of_ne here]
        simp [here]

/-- A key has one identifier, and an identifier one key. -/
theorem eq_of_id (h : Fills row m t) (ids : ∀ k e, (row k e).id = e.id) {held : List (κ × Kept)}
    (rows : t.rows = held.map fun x => row x.1 x.2) {x y : κ × Kept} (hx : x ∈ held)
    (hy : y ∈ held) (same : x.2.id = y.2.id) : x = y := by
  have own : (held.map fun x => x.2.id).Nodup := by
    have listed := h.numbered.own
    rw [rows, List.map_map] at listed
    rwa [List.map_congr_left (g := fun x => x.2.id) fun x _ => ids x.1 x.2] at listed
  exact List.inj_on_of_nodup_map own hx hy same

theorem change [DecidableEq κ] (h : Fills row m t) (ids : ∀ k e, (row k e).id = e.id) {k : κ}
    {e e' : Kept} {data : Entries Value} (there : m.kept k = some e)
    (shape : ⟨e.id, Entries.merge (row k e).data data⟩ = row k e') :
    Fills row (m.change k e') (t.update e.id data) where
  numbered := h.numbered.update e.id data
  given := h.given
  held := by
    obtain ⟨held, rows, own, entries⟩ := h.held
    have here : (k, e) ∈ held := (entries k e).mpr there
    have only {x : κ × Kept} (hx : x ∈ held) : x.1 = k ↔ x.2.id = e.id := by
      constructor
      · intro same
        rw [List.inj_on_of_nodup_map own hx here same]
      · intro same
        rw [h.eq_of_id ids rows hx here same]
    refine ⟨held.map fun x => if x.1 = k then (k, e') else x, ?_, ?_, fun l e'' => ?_⟩
    · show t.rows.map (fun r => if r.id = e.id then ⟨e.id, Entries.merge r.data data⟩ else r) = _
      rw [rows, List.map_map, List.map_map]
      refine List.map_congr_left fun x hx => ?_
      show (if (row x.1 x.2).id = e.id then _ else _)
        = row (if x.1 = k then (k, e') else x).1 (if x.1 = k then (k, e') else x).2
      rw [ids]
      by_cases same : x.1 = k
      · rw [if_pos ((only hx).mp same), if_pos same, ← shape,
          List.inj_on_of_nodup_map own hx here same]
      · rw [if_neg (mt (only hx).mpr same), if_neg same]
    · rw [List.map_map]
      rwa [List.map_congr_left (g := Prod.fst) fun x _ => by
        show (if x.1 = k then (k, e') else x).1 = x.1
        split
        · next same => exact same.symm
        · rfl]
    · show _ ↔ Function.update m.kept k (some e') l = some e''
      rw [List.mem_map]
      by_cases same : l = k
      · subst same
        rw [Function.update_self]
        constructor
        · rintro ⟨x, _, changed⟩
          split at changed
          · exact congrArg some (congrArg Prod.snd changed)
          · next ne => exact absurd (congrArg Prod.fst changed) ne
        · intro kept
          cases kept
          exact ⟨(l, e), here, if_pos rfl⟩
      · rw [Function.update_of_ne same, ← entries]
        constructor
        · rintro ⟨x, hx, changed⟩
          split at changed
          · exact absurd (congrArg Prod.fst changed).symm same
          · rwa [← changed]
        · intro mem
          exact ⟨(l, e''), mem, if_neg same⟩

theorem head?_filter [DecidableEq κ] (h : Fills row m t) {p : Row → Bool} {k : κ}
    (same : ∀ l e, p (row l e) = decide (l = k)) :
    (t.rows.filter p).head? = (m.kept k).map (row k) := by
  have mem (r : Row) : r ∈ t.rows.filter p ↔ ∃ e, m.kept k = some e ∧ r = row k e := by
    rw [List.mem_filter, h.lists.rows]
    constructor
    · rintro ⟨⟨l, e, kept, rfl⟩, here⟩
      rw [same] at here
      obtain rfl : l = k := of_decide_eq_true here
      exact ⟨e, kept, rfl⟩
    · rintro ⟨e, kept, rfl⟩
      exact ⟨⟨k, e, kept, rfl⟩, by rw [same]; exact decide_eq_true rfl⟩
  cases found : t.rows.filter p with
  | nil =>
    cases kept : m.kept k with
    | none => rfl
    | some e =>
      have there := (mem (row k e)).mpr ⟨e, kept, rfl⟩
      rw [found] at there
      cases there
  | cons r rest =>
    obtain ⟨e, kept, rfl⟩ := (mem r).mp (by rw [found]; exact List.mem_cons_self)
    rw [kept]
    rfl

theorem new (h : Fills row m t) : ∀ n ∈ m.given, n < t.newId :=
  fun n hn => Int.lt_of_lt_of_le (h.given n hn) t.nextId_le_newId

/-- A row takes the place of those of its key, with an identifier of its own. -/
theorem replace [DecidableEq κ] (h : Fills row m t) {p : Row → Bool} {k : κ} {body : Value}
    {data : Entries Value} (same : ∀ l e, p (row l e) = decide (l = k))
    (shape : ∀ id, row k ⟨id, body⟩ = ⟨id, data⟩) :
    Fills row (m.put k ⟨t.newId, body⟩) ((t.without p).insert data) := by
  have id : t.newId = (t.without p).newId :=
    h.numbered.newId_eq.trans (h.numbered.without p).newId_eq.symm
  rw [← put_without, id]
  exact (h.without same).insert (if_pos (decide_eq_true rfl)) rfl (shape _)

end Fills
end Shelf

/-! ## The store -/

theorem alike_text (a b : String) : (Value.text a).alike (.text b) = decide (a = b) := by
  simp [Value.alike, Value.solitary, Value.canonical]

theorem alike_int (a b : Int) : (Value.int a).alike (.int b) = decide (a = b) := by
  simp [Value.alike, Value.solitary, Value.canonical]

theorem documentRow_meets (k : String × Int) (e : Kept) (name : String) (delta : Int) :
    ((documentRow k e).key .sitemaps).meets (.sitemap (.text name) (.int delta))
      = decide (k = (name, delta)) := by
  show ((Value.text k.1).alike (.text name) && (Value.int k.2).alike (.int delta)) = _
  rw [alike_text, alike_int, ← Bool.decide_and]
  simp [Prod.ext_iff]

theorem cacheRow_meets (k : String) (e : Kept) (name : String) :
    ((cacheRow k e).key .caches).meets (.cache (.text name)) = decide (k = name) :=
  alike_text k name

/-- A lookup answers the first row of its key. -/
theorem State.outcome_getSitemap (s : State) (name delta : Value) :
    (s.perform calm () (.getSitemap name delta)).2.outcome? 0
      = some (.ok ((s.tables .sitemaps).ofKey (.sitemap name delta)).head?) := rfl

theorem State.outcome_getCache (s : State) (name : Value) :
    (s.perform calm () (.getCache name)).2.outcome? 0
      = some (.ok ((s.tables .caches).ofKey (.cache name)).head?) := rfl

/-- A state without locks, whose tables are filled from the maps. -/
structure Maps.Holds (m : Maps) (s : State) : Prop where
  unlocked : s.locks.size = 0
  documents : m.documents.Fills documentRow (s.tables .sitemaps)
  caches : m.caches.Fills cacheRow (s.tables .caches)

/-- A request is answered as the maps answer it, and the state after it is that of the maps. -/
inductive Maps.Serves (m : Maps) (s : State) (r : Request) : Prop where
  | intro {answer : Option Row} {m' : Maps}
      (ended : (s.perform calm () r.operation).2.outcome? 0 = some (.ok answer))
      (answers : m.Answers r answer m') (after : m'.Holds (s.perform calm () r.operation).2) :
      Serves m s r

namespace Maps.Holds

variable {m : Maps} {s : State}

theorem numbered (h : m.Holds s) : ∀ name, (s.tables name).Numbered
  | .sitemaps => h.documents.numbered
  | .caches => h.caches.numbered

theorem lists (h : m.Holds s) : m.Lists s.tables := ⟨h.documents.lists, h.caches.lists⟩

theorem lockable (h : m.Holds s) :
    ∀ r ∈ (s.tables .sitemaps).rows, (r.key .sitemaps).lockable = true := by
  intro r hr
  obtain ⟨k, e, _, rfl⟩ := (h.documents.lists.rows r).mp hr
  rfl

/-- The tables after an operation are those that it makes in one go. -/
theorem of_apply (h : m.Holds s) {m' : Maps} {op : Operation}
    (documents : m'.documents.Fills documentRow (op.apply s.tables .sitemaps))
    (caches : m'.caches.Fills cacheRow (op.apply s.tables .caches)) :
    m'.Holds (s.perform calm () op).2 := by
  obtain ⟨tables, _, free⟩ := State.perform_eq h.unlocked h.numbered op
  rw [← tables] at documents caches
  exact ⟨free, documents, caches⟩

theorem outcome (h : m.Holds s) {op : Operation} (key : (Job.operation op).lockKey?.isSome = true) :
    (s.perform calm () op).2.outcome? 0 = some (op.answer s.tables) :=
  (State.perform_eq h.unlocked h.numbered op).2.1 key

theorem firstCache (h : m.Holds s) (name : String) :
    ((s.tables .caches).ofKey (.cache (.text name))).head?
      = (m.caches.kept name).map (cacheRow name) :=
  h.caches.head?_filter fun k e => cacheRow_meets k e name

theorem createSitemap (h : m.Holds s) (body : Value) (name : String) (delta : Int) :
    m.Serves s (.createSitemap body name delta) := by
  have put : (m.documents.put (name, delta) ⟨(s.tables .sitemaps).newId, body⟩).Fills documentRow
      ((Request.createSitemap body name delta).operation.apply s.tables .sitemaps) :=
    h.documents.replace (fun k e => documentRow_meets k e name delta) fun _ => rfl
  exact .intro (h.outcome rfl) (.createSitemap h.documents.new) (h.of_apply put h.caches)

theorem getSitemap (h : m.Holds s) (name : String) (delta : Int) :
    m.Serves s (.getSitemap name delta) := by
  have first : ((s.tables .sitemaps).ofKey (.sitemap (.text name) (.int delta))).head?
      = (m.documents.kept (name, delta)).map (documentRow (name, delta)) :=
    h.documents.head?_filter fun k e => documentRow_meets k e name delta
  have ended := State.outcome_getSitemap s (.text name) (.int delta)
  rw [first] at ended
  exact .intro ended .getSitemap (h.of_apply h.documents h.caches)

theorem deleteSitemap (h : m.Holds s) (name : String) : m.Serves s (.deleteSitemap name) := by
  have left : (m.documents.without fun k => k.1 = name).Fills documentRow
      ((Request.deleteSitemap name).operation.apply s.tables .sitemaps) := by
    refine h.documents.without fun k e => ?_
    show ((Value.text k.1).alike (.text name) && true) = decide (k.1 = name)
    rw [Bool.and_true, alike_text]
  exact .intro (State.outcome_deleteSitemap h.unlocked h.numbered h.lockable (.text name))
    .deleteSitemap (h.of_apply left h.caches)

theorem createCache (h : m.Holds s) (json : Value) (name : String) :
    m.Serves s (.createCache json name) := by
  have put : (m.caches.put name ⟨(s.tables .caches).newId, json⟩).Fills cacheRow
      ((Request.createCache json name).operation.apply s.tables .caches) :=
    h.caches.replace (fun k e => cacheRow_meets k e name) fun _ => rfl
  exact .intro (h.outcome rfl) (.createCache h.caches.new) (h.of_apply h.documents put)

theorem updateCache (h : m.Holds s) (json : Value) (name : String) :
    m.Serves s (.updateCache json name) := by
  have lockable : (Key.cache (.text name)).lockable = true := rfl
  obtain ⟨applied, answered⟩ := Operation.apply_updateCache json lockable s.tables
  have ended : (s.perform calm () (.updateCache json (.text name))).2.outcome? 0
    = some ((Operation.updateCache json (.text name)).answer s.tables) := h.outcome rfl
  rw [answered, h.firstCache] at ended
  have first : ((s.tables (Key.cache (.text name)).table).ofKey (.cache (.text name))).head?
      = (m.caches.kept name).map (cacheRow name) := h.firstCache name
  unfold updateFirst at applied
  rw [first] at applied
  cases there : m.caches.kept name with
  | none =>
    rw [there] at ended applied
    refine .intro ended (.missing there) (h.of_apply ?_ ?_)
    · rw [Request.operation, applied]
      exact h.documents
    · rw [Request.operation, applied]
      exact h.caches
  | some e =>
    -- The columns of the new data are those of the row, so that all of them are replaced.
    rw [there] at ended applied
    have mem : cacheRow name e ∈ (s.tables .caches).rows :=
      (h.caches.lists.rows _).mpr ⟨name, e, there, rfl⟩
    have shape : ⟨e.id, Entries.merge (cacheRow name e).data
        (Operation.updateCache json (.text name)).data⟩ = cacheRow name ⟨e.id, json⟩ := by
      simp [cacheRow, Operation.data, Entries.merge, Entries.put]
    have found : (s.perform calm () (.updateCache json (.text name))).2.outcome? 0
        = some (.ok (some (cacheRow name ⟨e.id, json⟩))) := by
      rw [ended, ← shape]
      exact congrArg (fun r => some (Except.ok r)) (h.caches.numbered.find?_update mem _)
    refine .intro found (.updateCache there) (h.of_apply ?_ ?_)
    · rw [Request.operation, applied]
      exact h.documents
    · rw [Request.operation, applied]
      exact h.caches.change (fun _ _ => rfl) there shape

theorem getCache (h : m.Holds s) (name : String) : m.Serves s (.getCache name) := by
  have ended := State.outcome_getCache s (.text name)
  rw [h.firstCache] at ended
  exact .intro ended .getCache (h.of_apply h.documents h.caches)

theorem serves (h : m.Holds s) : ∀ r, m.Serves s r
  | .createSitemap body name delta => h.createSitemap body name delta
  | .getSitemap name delta => h.getSitemap name delta
  | .deleteSitemap name => h.deleteSitemap name
  | .createCache json name => h.createCache json name
  | .updateCache json name => h.updateCache json name
  | .getCache name => h.getCache name

theorem behaves (h : m.Holds s) (requests : List Request) : Behaves s m requests := by
  induction requests generalizing s m with
  | nil => exact .stop h.lists
  | cons r rs ih =>
    obtain ⟨ended, answers, held⟩ := h.serves r
    exact .next h.lists ended answers (ih held)

end Maps.Holds

/-- From empty tables on, the store answers like two finite maps. -/
theorem behaves_of_requests (requests : List Request) : Behaves {} {} requests :=
  Maps.Holds.behaves ⟨rfl, .empty, .empty⟩ requests

end Store
end Sitemap
