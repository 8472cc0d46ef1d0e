/-
The tables as if every operation took effect at its commit step.

Between the steps of a creation the rows of its key are on their way out, and those that a deletion
has listed are there until its tasks have come to them.  `Mirrors s T` says that the tables `T` have
taken in the committed operations and no others: apart from rows that a creation is clearing, `T` has
the rows of the state `s` that no deletion has listed, in their order.  A step that commits applies
its operation to `T`, and every other step leaves `T` as it is: `Mirrors.of_turn`.
-/
import Sitemap.Proofs.Store.Commit
import Sitemap.Proofs.Store.Tracking

namespace Sitemap
namespace Store

/-! ## What an operation does in one go -/

/-- Put a table in its place. -/
def put (name : TableName) (t : Table) (tables : TableName → Table) : TableName → Table :=
  fun n => if n = name then t else tables n

def Table.without (p : Row → Bool) (t : Table) : Table := { t with rows := t.rows.filter fun r => !p r }

/-- The rows of a key make way for a new one. -/
def replaceRows (k : Key) (data : Entries Value) (tables : TableName → Table) : TableName → Table :=
  put k.table (((tables k.table).without fun r => (r.key k.table).meets k).insert data) tables

/-- The first row of a key takes in new data. -/
def updateFirst (k : Key) (data : Entries Value) (tables : TableName → Table) : TableName → Table :=
  match ((tables k.table).ofKey k).head? with
  | some r => put k.table ((tables k.table).update r.id data) tables
  | none => tables

namespace Operation

/-- The tables after an operation.  What has a key that cannot be locked stays as it is. -/
def apply (op : Operation) (tables : TableName → Table) : TableName → Table :=
  match op with
  | .createSitemap _ name delta =>
    if (Key.sitemap name delta).lockable then replaceRows (.sitemap name delta) op.data tables
    else tables
  | .createCache _ name =>
    if (Key.cache name).lockable then replaceRows (.cache name) op.data tables else tables
  | .updateCache _ name =>
    if (Key.cache name).lockable then updateFirst (.cache name) op.data tables else tables
  | .deleteSitemap name =>
    put .sitemaps ((tables .sitemaps).without fun r =>
      (r.column "name").alike name && (r.key .sitemaps).lockable) tables
  | .getSitemap _ _ => tables
  | .getCache _ => tables

/-- The outcome of a creation or an update. -/
def answer (op : Operation) (tables : TableName → Table) : Outcome :=
  match op, (Job.operation op).lockKey? with
  | _, none => .ok none
  | .updateCache _ _, some k =>
    if k.lockable then
      match ((tables k.table).ofKey k).head? with
      | some r => .ok (((tables k.table).update r.id op.data).find? r.id)
      | none => .ok none
    else .error (.shape .unhashable)
  | _, some k =>
    if k.lockable then .ok (some ((tables k.table).newRow op.data)) else .error (.shape .unhashable)

theorem apply_of_clearing {op : Operation} {k : Key} {l : Nat} {ids : List Int}
    (fits : (Job.operation op).fits (.clearing l ids) = true)
    (key : (Job.operation op).lockKey? = some k) (lockable : k.lockable = true)
    (tables : TableName → Table) :
    op.apply tables = replaceRows k op.data tables ∧
      op.answer tables = .ok (some ((tables k.table).newRow op.data)) := by
  cases op with
  | createSitemap _ _ _ | createCache _ _ =>
    cases key
    exact ⟨if_pos lockable, if_pos lockable⟩
  | updateCache _ _ | getSitemap _ _ | deleteSitemap _ | getCache _ => cases fits

theorem apply_of_not_lockable {op : Operation} {k : Key}
    (key : (Job.operation op).lockKey? = some k) (lockable : k.lockable = false)
    (tables : TableName → Table) :
    op.apply tables = tables ∧ op.answer tables = .error (.shape .unhashable) := by
  have no : ¬ k.lockable = true := by rw [lockable]; exact Bool.false_ne_true
  cases op with
  | createSitemap _ _ _ | createCache _ _ | updateCache _ _ =>
    cases key
    exact ⟨if_neg no, if_neg no⟩
  | getSitemap _ _ | deleteSitemap _ | getCache _ => cases key

theorem apply_updateCache (json : Value) {name : Value} (lockable : (Key.cache name).lockable = true)
    (tables : TableName → Table) :
    (updateCache json name).apply tables
        = updateFirst (.cache name) (updateCache json name).data tables ∧
      (updateCache json name).answer tables
        = match ((tables .caches).ofKey (.cache name)).head? with
          | some r => .ok (((tables .caches).update r.id (updateCache json name).data).find? r.id)
          | none => .ok none :=
  ⟨if_pos lockable, if_pos lockable⟩

end Operation

/-! ## Rows on their way out -/

/-- Whether a task is clearing the key of a row. -/
def Task.clears (name : TableName) (r : Row) (t : Task) : Bool :=
  match t.job, t.phase with
  | .operation op, .clearing _ _ => (Job.operation op).lockKey?.any fun k => (r.key name).meets k
  | _, _ => false

theorem Task.clears_of_clearing {op : Operation} {k : Key} {l : Nat} {ids : List Int}
    {name : TableName} {r : Row} (key : (Job.operation op).lockKey? = some k) :
    Task.clears name r ⟨.operation op, .clearing l ids⟩ = (r.key name).meets k := by
  show (Job.operation op).lockKey?.any _ = _
  rw [key]
  rfl

/-- Whether a task is about to delete a row for a deletion. -/
def Task.dooms (name : TableName) (r : Row) (t : Task) : Bool :=
  match t.job, t.phase with
  | .eraseRow k id _, .idle => k.lockable && name = .sitemaps && r.id = id
  | .eraseRow _ id _, .waiting _ => name = .sitemaps && r.id = id
  | .eraseRow _ id _, .erasing _ => name = .sitemaps && r.id = id
  | _, _ => false

namespace State

def clearing (name : TableName) (r : Row) (s : State) : Bool := s.stages.any (Task.clears name r)

def doomed (name : TableName) (r : Row) (s : State) : Bool := s.stages.any (Task.dooms name r)

end State

theorem any_eq_or {α : Type} {xs : List α} {i : Nat} {a : α} (f : α → Bool) (h : xs[i]? = some a) :
    xs.any f = (f a || (xs.eraseIdx i).any f) := by
  induction xs generalizing i with
  | nil => simp at h
  | cons x xs ih =>
    cases i with
    | zero =>
      obtain rfl : x = a := by simpa using h
      rfl
    | succ i =>
      rw [List.any_cons, ih (i := i) (by simpa using h), List.eraseIdx_cons_succ, List.any_cons,
        Bool.or_left_comm]

theorem any_set {α : Type} {xs : List α} {i : Nat} {a b : α} (f : α → Bool) (h : xs[i]? = some a) :
    (xs.set i b).any f = (f b || (xs.eraseIdx i).any f) := by
  rw [any_eq_or f (getElem?_set_of_some h), List.eraseIdx_set_eq]

theorem any_set_of_eq {α : Type} {xs : List α} {i : Nat} {a b : α} {f : α → Bool}
    (h : xs[i]? = some a) (same : f b = f a) : (xs.set i b).any f = xs.any f := by
  rw [any_set f h, any_eq_or f h, same]

namespace State

variable {s v : State} {i : Nat} {t u : Task} {name : TableName} {r : Row}

theorem clearing_eq (hi : s.stages[i]? = some t) (e : v.stages = s.stages.set i u)
    (same : u.clears name r = t.clears name r) : v.clearing name r = s.clearing name r := by
  unfold clearing
  rw [e, any_set_of_eq hi same]

theorem doomed_eq (hi : s.stages[i]? = some t) (e : v.stages = s.stages.set i u)
    (same : u.dooms name r = t.dooms name r) : v.doomed name r = s.doomed name r := by
  unfold doomed
  rw [e, any_set_of_eq hi same]

end State

theorem filter_and_congr {α : Type} {xs ys : List α} {p q : α → Bool} (h : xs.filter p = ys.filter q)
    (m : α → Bool) : (xs.filter fun a => m a && p a) = ys.filter fun a => m a && q a := by
  rw [← List.filter_filter, h, List.filter_filter]

theorem put_self (name : TableName) (t : Table) (tables : TableName → Table) :
    put name t tables name = t := if_pos rfl

theorem put_of_ne {name n : TableName} (ne : n ≠ name) (t : Table) (tables : TableName → Table) :
    put name t tables n = tables n := if_neg ne

theorem Table.Numbered.without {t : Table} (h : t.Numbered) (p : Row → Bool) :
    (t.without p).Numbered where
  own := h.own.sublist (List.filter_sublist.map _)
  given r hr := h.given r (List.mem_filter.mp hr).1

theorem State.doomed_caches (r : Row) (s : State) : s.doomed .caches r = false := by
  refine List.any_eq_false.mpr fun t _ => ?_
  unfold Task.dooms
  split <;> simp

/-- The tables `T` have taken in what has been committed before the state `s`. -/
structure Mirrors (s : State) (T : TableName → Table) : Prop where
  numbered : ∀ name, (T name).Numbered
  nextId : ∀ name, (T name).nextId = (s.tables name).nextId
  rows : ∀ name, (T name).rows.filter (fun r => !s.clearing name r)
    = (s.tables name).rows.filter fun r => !s.clearing name r && !s.doomed name r

namespace Mirrors

variable {s v : State} {T : TableName → Table} {i : Nat} {t u : Task}

theorem quiet (h : Mirrors s T) (hi : s.stages[i]? = some t) (e : v.stages = s.stages.set i u)
    (tables : v.tables = s.tables) (clears : ∀ name r, u.clears name r = t.clears name r)
    (dooms : ∀ name r, u.dooms name r = t.dooms name r) : Mirrors v T := by
  have clearing (name : TableName) (r : Row) : v.clearing name r = s.clearing name r :=
    State.clearing_eq hi e (clears name r)
  have doomed (name : TableName) (r : Row) : v.doomed name r = s.doomed name r :=
    State.doomed_eq hi e (dooms name r)
  refine ⟨h.numbered, by rw [tables]; exact h.nextId, fun name => ?_⟩
  simp only [clearing, doomed, tables]
  exact h.rows name

theorem mark (h : Mirrors s T) {op : Operation} {k : Key} {l m : Nat} {ids : List Int}
    (hi : s.stages[i]? = some ⟨.operation op, .finding l⟩)
    (e : v.stages = s.stages.set i ⟨.operation op, .clearing m ids⟩) (tables : v.tables = s.tables)
    (key : (Job.operation op).lockKey? = some k) : Mirrors v T := by
  have clearing (name : TableName) (r : Row) :
      v.clearing name r = ((r.key name).meets k || s.clearing name r) := by
    rw [State.clearing, e, any_set _ hi, Task.clears_of_clearing key, State.clearing,
      any_eq_or _ hi]
    rfl
  have doomed (name : TableName) (r : Row) : v.doomed name r = s.doomed name r :=
    State.doomed_eq hi e rfl
  refine ⟨h.numbered, by rw [tables]; exact h.nextId, fun name => ?_⟩
  simp only [clearing, doomed, tables, Bool.not_or, Bool.and_assoc]
  exact filter_and_congr (h.rows name) _

theorem clear (h : Mirrors s T) {op : Operation} {k : Key} {l : Nat} {id : Int} {ids : List Int}
    (hi : s.stages[i]? = some ⟨.operation op, .clearing l (id :: ids)⟩)
    (e : v.stages = s.stages.set i ⟨.operation op, .clearing l ids⟩)
    (tables : v.tables = (s.erase k.table id).tables)
    (key : (Job.operation op).lockKey? = some k)
    (own : ∀ r ∈ (s.tables k.table).rows, r.id = id → (r.key k.table).meets k = true) :
    Mirrors v T := by
  have clearing (name : TableName) (r : Row) : v.clearing name r = s.clearing name r :=
    State.clearing_eq hi e rfl
  have doomed (name : TableName) (r : Row) : v.doomed name r = s.doomed name r :=
    State.doomed_eq hi e rfl
  have cleared {r : Row} (meets : (r.key k.table).meets k = true) : s.clearing k.table r = true := by
    refine List.any_eq_true.mpr ⟨_, List.mem_of_getElem? hi, ?_⟩
    rw [Task.clears_of_clearing key]
    exact meets
  have table (name : TableName) : v.tables name = s.tables name ∨
      name = k.table ∧ v.tables name = (s.tables name).erase id := by
    rw [tables]
    by_cases ne : name = k.table
    · subst ne
      exact .inr ⟨rfl, State.erase_table _ _ _⟩
    · exact .inl (State.erase_table_of_ne ne _ _)
  refine ⟨h.numbered, fun name => ?_, fun name => ?_⟩
  · rcases table name with same | ⟨_, same⟩ <;> rw [same]
    · exact h.nextId name
    · exact h.nextId name
  · simp only [clearing, doomed]
    rw [h.rows name]
    rcases table name with same | ⟨rfl, same⟩
    · rw [same]
    · rw [same, Table.erase, List.filter_filter]
      refine List.filter_congr fun r hr => ?_
      by_cases eq : r.id = id
      · rw [cleared (own r hr eq)]
        rfl
      · rw [decide_eq_true eq, Bool.and_true]

theorem erase (h : Mirrors s T) {k : Key} {id : Int} {parent l : Nat} {o : Outcome}
    (hi : s.stages[i]? = some ⟨.eraseRow k id parent, .erasing l⟩)
    (e : v.stages = s.stages.set i ⟨.eraseRow k id parent, .leaving l o⟩)
    (tables : v.tables = (s.erase k.table id).tables) (sitemaps : k.table = .sitemaps) :
    Mirrors v T := by
  have clearing (name : TableName) (r : Row) : v.clearing name r = s.clearing name r :=
    State.clearing_eq hi e rfl
  have doomed (name : TableName) (r : Row) :
      s.doomed name r = ((decide (name = .sitemaps) && decide (r.id = id)) || v.doomed name r) := by
    have before : Task.dooms name r ⟨.eraseRow k id parent, .erasing l⟩
        = (decide (name = .sitemaps) && decide (r.id = id)) := rfl
    have after : Task.dooms name r ⟨.eraseRow k id parent, .leaving l o⟩ = false := rfl
    rw [State.doomed, State.doomed, e, any_set _ hi, any_eq_or _ hi, before, after, Bool.false_or]
  refine ⟨h.numbered, fun name => ?_, fun name => ?_⟩
  · rw [h.nextId name, tables]
    by_cases ne : name = k.table
    · subst ne; rw [State.erase_table]; rfl
    · rw [State.erase_table_of_ne ne]
  · simp only [clearing]
    rw [h.rows name, tables]
    by_cases ne : name = k.table
    · subst ne
      rw [State.erase_table, Table.erase, List.filter_filter]
      refine List.filter_congr fun r _ => ?_
      rw [doomed, sitemaps]
      by_cases eq : r.id = id
      · simp [eq]
      · simp [eq]
    · rw [State.erase_table_of_ne ne]
      refine List.filter_congr fun r _ => ?_
      rw [sitemaps] at ne
      rw [doomed, decide_eq_false ne, Bool.false_and, Bool.false_or]

theorem insert (h : Mirrors s T) {op : Operation} {k : Key} {l : Nat} {o : Outcome}
    (hi : s.stages[i]? = some ⟨.operation op, .clearing l []⟩)
    (e : v.stages = s.stages.set i ⟨.operation op, .leaving l o⟩)
    (tables : v.tables = (s.insert k op.data).tables)
    (key : (Job.operation op).lockKey? = some k) (numbered : (s.tables k.table).Numbered)
    (none : (s.tables k.table).ofKey k = [])
    (fresh : s.doomed k.table ((s.tables k.table).newRow op.data) = false) :
    Mirrors v (replaceRows k op.data T) := by
  have clearing (name : TableName) (r : Row) :
      s.clearing name r = ((r.key name).meets k || v.clearing name r) := by
    have after : Task.clears name r ⟨.operation op, .leaving l o⟩ = false := rfl
    rw [State.clearing, State.clearing, e, any_set _ hi, any_eq_or _ hi,
      Task.clears_of_clearing key, after, Bool.false_or]
  have doomed (name : TableName) (r : Row) : v.doomed name r = s.doomed name r :=
    State.doomed_eq hi e rfl
  have cut := (h.numbered k.table).without fun r => (r.key k.table).meets k
  have newId : ((T k.table).without fun r => (r.key k.table).meets k).newId
      = (s.tables k.table).newId := by
    rw [cut.newId_eq, numbered.newId_eq]
    exact h.nextId k.table
  refine ⟨fun name => ?_, fun name => ?_, fun name => ?_⟩
  · by_cases eq : name = k.table
    · subst eq
      rw [replaceRows, put_self]
      exact cut.insert _
    · rw [replaceRows, put_of_ne eq]
      exact h.numbered name
  · rw [tables]
    by_cases eq : name = k.table
    · subst eq
      rw [replaceRows, put_self, State.insert_table]
      show max (T k.table).nextId _ = max (s.tables k.table).nextId _
      rw [h.nextId, Table.newRow, Table.newRow, newId]
    · rw [replaceRows, put_of_ne eq, State.insert_table_of_ne eq]
      exact h.nextId name
  · have before := h.rows name
    simp only [clearing] at before
    rw [tables]
    by_cases eq : name = k.table
    · subst eq
      rw [replaceRows, put_self, State.insert_table]
      show (((T k.table).rows.filter _) ++ [_]).filter _ = ((s.tables k.table).rows ++ [_]).filter _
      rw [List.filter_append, List.filter_append, List.filter_filter]
      refine congrArg₂ (· ++ ·) ?_ ?_
      · -- The state has no rows of the key left.
        calc _ = (T k.table).rows.filter fun r =>
              !((r.key k.table).meets k || v.clearing k.table r) :=
              List.filter_congr fun r _ => by rw [Bool.not_or, Bool.and_comm]
          _ = _ := before
          _ = _ := List.filter_congr fun r hr => by
              have other : (r.key k.table).meets k = false := by
                by_contra meets
                have : r ∈ (s.tables k.table).ofKey k :=
                  Table.mem_ofKey.mpr ⟨hr, by simpa using meets⟩
                rw [none] at this
                cases this
              rw [other, Bool.false_or, doomed]
      · simp only [doomed]
        have same : Table.newRow op.data ((T k.table).without fun r => (r.key k.table).meets k)
            = (s.tables k.table).newRow op.data := congrArg (Row.mk · op.data) newId
        rw [same, List.filter_singleton, List.filter_singleton, fresh, Bool.not_false, Bool.and_true]
    · rw [replaceRows, put_of_ne eq, State.insert_table_of_ne eq]
      have other (r : Row) : (r.key name).meets k = false := by
        by_contra meets
        have same := Key.table_eq_of_meets (by simpa using meets)
        have own : (r.key name).table = name := by cases name <;> rfl
        exact eq (own.symm.trans same)
      simp only [other, Bool.false_or] at before
      simp only [doomed]
      exact before

theorem rows_caches (h : Mirrors s T) :
    (T .caches).rows.filter (fun r => !s.clearing .caches r)
      = (s.tables .caches).rows.filter fun r => !s.clearing .caches r := by
  have both := h.rows .caches
  simp only [State.doomed_caches, Bool.not_false, Bool.and_true] at both
  exact both

theorem ofKey_eq (h : Mirrors s T) {k : Key} (cache : k.table = .caches)
    (alone : ∀ r : Row, (r.key .caches).meets k = true → s.clearing .caches r = false) :
    (T k.table).ofKey k = (s.tables k.table).ofKey k := by
  have both := filter_and_congr h.rows_caches fun r => (r.key .caches).meets k
  have part (r : Row) : ((r.key .caches).meets k && !s.clearing .caches r)
      = (r.key .caches).meets k := by
    by_cases meets : (r.key .caches).meets k = true
    · rw [alone r meets, meets]
      rfl
    · rw [Bool.eq_false_iff.mpr meets]
      rfl
  simp only [part] at both
  unfold Table.ofKey
  rw [cache]
  exact both

theorem update (h : Mirrors s T) {op : Operation} {k : Key} {l : Nat} {id : Int} {o : Outcome}
    (hi : s.stages[i]? = some ⟨.operation op, .updating l id⟩)
    (e : v.stages = s.stages.set i ⟨.operation op, .leaving l o⟩)
    (tables : v.tables = (s.update k.table id op.data).tables)
    (key : (Job.operation op).lockKey? = some k) (cache : k.table = .caches)
    (head : ((s.tables k.table).ofKey k).head?.map Row.id = some id)
    (numbered : (s.tables k.table).Numbered)
    (alone : ∀ r : Row, (r.key .caches).meets k = true → s.clearing .caches r = false) :
    Mirrors v (updateFirst k op.data T) ∧
      ∃ r, ((T k.table).ofKey k).head? = some r ∧
        ((T k.table).update r.id op.data).find? r.id
          = ((s.tables k.table).update id op.data).find? id := by
  obtain ⟨r, first, rfl⟩ := Option.map_eq_some_iff.mp head
  have first' : ((T k.table).ofKey k).head? = some r := by rw [h.ofKey_eq cache alone, first]
  obtain ⟨hr, meets⟩ := Table.mem_ofKey.mp (List.mem_of_mem_head? first)
  obtain ⟨hr', _⟩ := Table.mem_ofKey.mp (List.mem_of_mem_head? first')
  have clearing (name : TableName) (r : Row) : v.clearing name r = s.clearing name r :=
    State.clearing_eq hi e rfl
  have doomed (name : TableName) (r : Row) : v.doomed name r = s.doomed name r :=
    State.doomed_eq hi e rfl
  -- The row is nobody's to clear, before the update and after it.
  have same {t : Table} (numbered : t.Numbered) (mem : r ∈ t.rows) : ∀ r' ∈ t.rows, r'.id = r.id →
      (!s.clearing .caches ⟨r.id, Entries.merge r'.data op.data⟩) = !s.clearing .caches r' := by
    intro r' hr' eq
    obtain rfl := numbered.eq_of_id hr' mem eq
    rw [cache] at meets
    have after : (Row.key ⟨r'.id, Entries.merge r'.data op.data⟩ .caches).meets k = true := by
      have own := key_of_merge key r'.id r'.data
      rw [cache] at own
      rw [own]
      exact Key.meets_trans (Key.meets_symm meets) meets
    rw [alone _ after, alone _ meets]
  refine ⟨⟨fun name => ?_, fun name => ?_, fun name => ?_⟩, r, first', ?_⟩
  · rw [updateFirst, first']
    by_cases eq : name = k.table
    · subst eq
      simp only [put_self]
      exact (h.numbered _).update _ _
    · simp only [put_of_ne eq]
      exact h.numbered name
  · rw [updateFirst, first', tables]
    by_cases eq : name = k.table
    · subst eq
      simp only [put_self, State.update_table]
      exact h.nextId k.table
    · simp only [put_of_ne eq, State.update_table_of_ne eq]
      exact h.nextId name
  · rw [updateFirst, first', tables]
    simp only [clearing, doomed]
    by_cases eq : name = k.table
    · subst eq
      simp only [put_self, State.update_table]
      have numbered' := h.numbered k.table
      simp only [cache] at hr hr' numbered numbered' ⊢
      simp only [State.doomed_caches, Bool.not_false, Bool.and_true]
      rw [Table.filter_update (same numbered' hr'), Table.filter_update (same numbered hr),
        h.rows_caches]
    · simp only [put_of_ne eq, State.update_table_of_ne eq]
      exact h.rows name
  · rw [(h.numbered _).find?_update hr', numbered.find?_update hr]

theorem list (h : Mirrors s T) {name : Value}
    (hi : s.stages[i]? = some ⟨.operation (.deleteSitemap name), .idle⟩)
    (e : v.stages = s.stages.set i ⟨.operation (.deleteSitemap name), .gathering 0 0 none⟩
      ++ State.erasers i ((s.tables .sitemaps).ofName name))
    (tables : v.tables = s.tables) (numbered : (s.tables .sitemaps).Numbered) :
    Mirrors v ((Operation.deleteSitemap name).apply T) := by
  have clearing (n : TableName) (r : Row) : v.clearing n r = s.clearing n r := by
    have none : (State.erasers i ((s.tables .sitemaps).ofName name)).any (Task.clears n r)
        = false := by
      refine List.any_eq_false.mpr fun t ht => ?_
      obtain ⟨_, _, rfl⟩ := State.mem_erasers.mp ht
      exact Bool.false_ne_true
    rw [State.clearing, e, List.any_append, none, Bool.or_false, any_set_of_eq hi]
    · rfl
    · rfl
  have doomed (n : TableName) (r : Row) : v.doomed n r
      = (s.doomed n r || (State.erasers i ((s.tables .sitemaps).ofName name)).any (Task.dooms n r)) := by
    rw [State.doomed, e, List.any_append, any_set_of_eq hi]
    · rfl
    · rfl
  have listed {r : Row} (hr : r ∈ (s.tables .sitemaps).rows) :
      (State.erasers i ((s.tables .sitemaps).ofName name)).any (Task.dooms .sitemaps r)
        = ((r.column "name").alike name && (r.key .sitemaps).lockable) := by
    rw [Bool.eq_iff_iff, List.any_eq_true, Bool.and_eq_true]
    constructor
    · rintro ⟨t, ht, dooms⟩
      obtain ⟨r', hr', rfl⟩ := State.mem_erasers.mp ht
      obtain ⟨mem, alike⟩ := List.mem_filter.mp hr'
      have : (r'.key .sitemaps).lockable = true ∧ r.id = r'.id := by
        simpa [Task.dooms] using dooms
      obtain rfl := numbered.eq_of_id hr mem this.2
      exact ⟨alike, this.1⟩
    · rintro ⟨alike, lockable⟩
      refine ⟨_, State.mem_erasers.mpr ⟨r, List.mem_filter.mpr ⟨hr, alike⟩, rfl⟩, ?_⟩
      simp [Task.dooms, lockable]
  refine ⟨fun n => ?_, fun n => ?_, fun n => ?_⟩
  · cases n with
    | sitemaps => exact (h.numbered .sitemaps).without _
    | caches => exact h.numbered .caches
  · rw [tables]
    cases n with
    | sitemaps => exact h.nextId .sitemaps
    | caches => exact h.nextId .caches
  · simp only [clearing, tables]
    cases n with
    | caches =>
      simp only [State.doomed_caches, Bool.not_false, Bool.and_true]
      exact h.rows_caches
    | sitemaps =>
      show ((T .sitemaps).rows.filter _).filter _ = _
      rw [List.filter_filter]
      have both := filter_and_congr (h.rows .sitemaps) fun r =>
        !((r.column "name").alike name && (r.key .sitemaps).lockable)
      calc _ = (T .sitemaps).rows.filter fun r =>
            !((r.column "name").alike name && (r.key .sitemaps).lockable)
              && !s.clearing .sitemaps r := List.filter_congr fun r _ => Bool.and_comm _ _
        _ = _ := both
        _ = _ := List.filter_congr fun r hr => by
            rw [doomed, listed hr, Bool.not_or, Bool.and_comm, Bool.and_assoc]

end Mirrors

/-! ## Steps -/

/-- The outcome that a task has settled on. -/
def Phase.answer? : Phase → Option Outcome
  | .leaving _ o => some o
  | .done o => some o
  | _ => none

/-- Tables that mirror the state before a step mirror the state after it once they have taken in the
operation that the step commits, if it commits one. -/
structure Advances (s v : State) (i : Nat) (t : Task) (T : TableName → Table) : Prop where
  passes : t.commits s.tables = false → Mirrors v T
  commits : t.commits s.tables = true → ∃ op, t.job = .operation op ∧ Mirrors v (op.apply T) ∧
    ((Job.operation op).lockKey?.isSome = true →
      ∃ p, v.stages[i]? = some ⟨.operation op, p⟩ ∧ p.answer? = some (op.answer T))

namespace Advances

variable {s v : State} {T : TableName → Table} {i : Nat} {t : Task}

theorem of_pass (no : t.commits s.tables = false) (h : Mirrors v T) : Advances s v i t T where
  passes _ := h
  commits yes := by rw [no] at yes; cases yes

theorem of_commit {op : Operation} {p : Phase} {u : Task} (yes : t.commits s.tables = true)
    (job : t.job = .operation op) (h : Mirrors v (op.apply T)) (hi : s.stages[i]? = some u)
    (e : v.stages = s.stages.set i ⟨.operation op, p⟩)
    (answer : (Job.operation op).lockKey?.isSome = true → p.answer? = some (op.answer T)) :
    Advances s v i t T where
  passes no := by rw [yes] at no; cases no
  commits _ := ⟨op, job, h, fun key => ⟨p, by rw [e, getElem?_set_of_some hi], answer key⟩⟩

end Advances

theorem State.Sound.not_clearing {s : State} (h : s.Sound) {i : Nat} {t : Task} {k : Key}
    (hi : s.stages[i]? = some t) (key : t.job.lockKey? = some k) (holds : t.holds = true)
    (no : ∀ l ids, t.phase ≠ .clearing l ids) (name : TableName) (r : Row)
    (meets : (r.key name).meets k = true) : s.clearing name r = false := by
  refine List.any_eq_false.mpr fun u hu clears => ?_
  obtain ⟨j, hj⟩ := List.mem_iff_getElem?.mp hu
  unfold Task.clears at clears
  split at clears
  · next op l ids job phase =>
    have ne : i ≠ j := by
      rintro rfl
      obtain rfl := Option.some.inj (hi.symm.trans hj)
      exact no l ids phase
    obtain ⟨k', key', meets'⟩ := (Option.any_eq_true _ _).mp clears
    have apart := h.locks.keys_apart hi hj ne key (by rw [job]; exact key') holds
      (by unfold Task.holds; rw [phase])
    rw [Key.meets_trans (Key.meets_symm meets) meets'] at apart
    cases apart
  · cases clears

theorem Operation.eq_updateCache_of_fits {op : Operation} {l : Nat} {id : Int}
    (fits : (Job.operation op).fits (.updating l id) = true) :
    ∃ json name, op = .updateCache json name := by
  cases op with
  | updateCache json name => exact ⟨json, name, rfl⟩
  | _ => cases fits

theorem State.Sound.not_doomed {s : State} (h : s.Sound) (name : TableName) (data : Entries Value) :
    s.doomed name ((s.tables name).newRow data) = false := by
  cases name with
  | caches => exact State.doomed_caches _ _
  | sitemaps =>
    refine List.any_eq_false.mpr fun t ht dooms => ?_
    obtain ⟨j, hj⟩ := List.mem_iff_getElem?.mp ht
    obtain ⟨job, p⟩ := t
    cases job with
    | operation op => cases dooms
    | eraseRow k id parent =>
      have given := (h.tracks.started j k id parent p hj).2
      have most := Table.nextId_le_newId (s.tables .sitemaps)
      have same : (s.tables .sitemaps).newId = id := by
        cases p with
        | idle | waiting _ | erasing _ =>
          simp only [Task.dooms, Bool.and_eq_true, decide_eq_true_eq] at dooms
          exact dooms.2
        | _ => cases dooms
      omega

namespace Mirrors

variable {s : State} {T : TableName → Table} {i : Nat}

theorem of_find (h : Mirrors s T) (sound : s.Sound) {l : Nat} {op : Operation} {k : Key}
    (ht : s.tasks[i]? = some ⟨.operation op, .finding l⟩)
    (key : (Job.operation op).lockKey? = some k) :
    Advances s (s.setPhase i ⟨.operation op, .finding l⟩
      (State.afterFind (.operation op) l ((s.tables k.table).ofKey k))) i
      ⟨.operation op, .finding l⟩ T := by
  have hi := State.stages_of_tasks ht
  cases op with
  | updateCache json name =>
    cases key
    have lockable := sound.lockable i l _ _ hi rfl rfl
    have same : (T .caches).ofKey (.cache name) = (s.tables .caches).ofKey (.cache name) :=
      h.ofKey_eq rfl fun r meets =>
        sound.not_clearing hi rfl rfl (fun _ _ no => by cases no) _ r meets
    obtain ⟨applied, answer⟩ := Operation.apply_updateCache json lockable T
    have commits : Task.commits s.tables ⟨.operation (.updateCache json name), .finding l⟩
        = ((s.tables .caches).ofKey (.cache name)).isEmpty := rfl
    cases rows : (s.tables .caches).ofKey (.cache name) with
    | nil =>
      rw [rows] at same commits
      have e : (s.setPhase i ⟨.operation (.updateCache json name), .finding l⟩
          (.leaving l (.ok none))).stages = _ := State.stages_setPhase s rfl
      have stays : updateFirst (.cache name) (Operation.updateCache json name).data T = T := by
        unfold updateFirst
        rw [show (T (Key.cache name).table).ofKey (.cache name) = [] from same]
        rfl
      simp only [Key.table, rows]
      refine .of_commit commits rfl ?_ hi e ?_
      · rw [applied, stays]
        exact h.quiet hi e rfl (fun _ _ => rfl) (fun _ _ => rfl)
      · intro _
        rw [answer, same]
        rfl
    | cons r rest =>
      rw [rows] at commits
      simp only [Key.table, rows]
      exact .of_pass commits
        (h.quiet hi (State.stages_setPhase s rfl) rfl (fun _ _ => rfl) (fun _ _ => rfl))
  | createSitemap _ _ _ | createCache _ _ =>
    cases key
    exact .of_pass rfl (h.mark hi (State.stages_setPhase s rfl) rfl rfl)
  | getSitemap _ _ | deleteSitemap _ | getCache _ => cases key

theorem of_turnedAway (h : Mirrors s T) {job : Job} {k : Key} (ht : s.tasks[i]? = some ⟨job, .idle⟩)
    (key : job.lockKey? = some k) (lockable : k.lockable = false) :
    Advances s (s.finish i ⟨job, .idle⟩ (.error (.shape .unhashable))) i ⟨job, .idle⟩ T := by
  have hi := State.stages_of_tasks ht
  have e := State.stages_finish i ⟨job, .idle⟩ (.error (.shape .unhashable)) s
  have tables := State.finish_tables i ⟨job, .idle⟩ (.error (.shape .unhashable)) s
  cases job with
  | operation op =>
    obtain ⟨same, answer⟩ := Operation.apply_of_not_lockable key lockable T
    refine .of_commit ?_ rfl ?_ hi e ?_
    · rw [Task.commits_idle key, Option.any_some, lockable]
      rfl
    · rw [same]
      exact h.quiet hi e tables (fun _ _ => rfl) (fun _ _ => rfl)
    · intro _
      rw [answer]
      rfl
  | eraseRow k' id parent =>
    cases key
    refine .of_pass rfl (h.quiet hi e tables (fun _ _ => rfl) (fun name r => ?_))
    show false = (k.lockable && decide (name = .sitemaps) && decide (r.id = id))
    rw [lockable]
    rfl

theorem of_insert (h : Mirrors s T) (sound : s.Sound) {op : Operation} {k : Key} {l : Nat}
    (ht : s.tasks[i]? = some ⟨.operation op, .clearing l []⟩)
    (key : (Job.operation op).lockKey? = some k) :
    Advances s ((s.insert k op.data).setPhase i ⟨.operation op, .clearing l []⟩
      (.leaving l (.ok (some ((s.tables k.table).newRow op.data))))) i
      ⟨.operation op, .clearing l []⟩ T := by
  have hi := State.stages_of_tasks ht
  have lockable := sound.lockable i l _ k hi rfl key
  have fits := sound.fits _ (List.mem_of_getElem? ht)
  obtain ⟨applied, answer⟩ := Operation.apply_of_clearing fits key lockable T
  have numbered := sound.tracks.numbered k.table
  have e : ((s.insert k op.data).setPhase i ⟨.operation op, .clearing l []⟩
    (.leaving l (.ok (some ((s.tables k.table).newRow op.data))))).stages = _ :=
    State.stages_setPhase _ rfl
  refine .of_commit (by cases op <;> rfl) rfl ?_ hi e ?_
  · rw [applied]
    exact h.insert hi e rfl key numbered (sound.clears.ofKey_eq_nil ht key) (sound.not_doomed _ _)
  · intro _
    rw [answer]
    have same : (T k.table).newId = (s.tables k.table).newId := by
      rw [(h.numbered _).newId_eq, numbered.newId_eq, h.nextId]
    rw [Table.newRow, Table.newRow, same]
    rfl

theorem of_update (h : Mirrors s T) (sound : s.Sound) {op : Operation} {k : Key} {l : Nat} {id : Int}
    (ht : s.tasks[i]? = some ⟨.operation op, .updating l id⟩)
    (key : (Job.operation op).lockKey? = some k) :
    Advances s ((s.update k.table id op.data).setPhase i ⟨.operation op, .updating l id⟩
      (.leaving l (.ok (((s.tables k.table).update id op.data).find? id)))) i
      ⟨.operation op, .updating l id⟩ T := by
  have hi := State.stages_of_tasks ht
  obtain ⟨json, name, rfl⟩ :=
    Operation.eq_updateCache_of_fits (sound.fits _ (List.mem_of_getElem? ht))
  cases key
  have lockable := sound.lockable i l _ _ hi rfl rfl
  obtain ⟨cache, head⟩ := sound.tracks.chosen i l _ _ id hi rfl
  obtain ⟨applied, answer⟩ := Operation.apply_updateCache json lockable T
  have e : ((s.update .caches id (Operation.updateCache json name).data).setPhase i
    ⟨.operation (.updateCache json name), .updating l id⟩
    (.leaving l (.ok (((s.tables .caches).update id
      (Operation.updateCache json name).data).find? id)))).stages = _ :=
    State.stages_setPhase _ rfl
  obtain ⟨mirrors, r, first, same⟩ := h.update hi e rfl rfl cache head (sound.tracks.numbered _)
    fun r meets => sound.not_clearing hi rfl rfl (fun _ _ no => by cases no) _ r meets
  refine .of_commit rfl rfl ?_ hi e ?_
  · rw [applied]
    exact mirrors
  · intro _
    have first' : ((T .caches).ofKey (.cache name)).head? = some r := first
    rw [answer, first']
    exact congrArg (fun o => some (Except.ok o)) same.symm

end Mirrors

/-- Every step advances the tables. -/
theorem Mirrors.of_turn {s v : State} {T : TableName → Table} {i : Nat} {t : Task} (h : Mirrors s T)
    (sound : s.Sound) (ht : s.tasks[i]? = some t) (turn : Turn s i t none v) :
    Advances s v i t T := by
  have hi := State.stages_of_tasks ht
  cases turn with
  | @ask job k _ key lockable =>
    refine .of_pass ?_ (h.quiet hi (State.stages_setPhase _ rfl) rfl ?_ ?_)
    · cases job with
      | operation op =>
        rw [Task.commits_idle key, Option.any_some, lockable]
        rfl
      | eraseRow _ _ _ => rfl
    · intro name r
      cases job <;> rfl
    · intro name r
      cases job with
      | operation op => rfl
      | eraseRow k' id parent =>
        cases key
        show _ = (k.lockable && decide (name = .sitemaps) && decide (r.id = id))
        rw [lockable, Bool.true_and]
        rfl
  | turnedAway key lockable => exact h.of_turnedAway ht key lockable
  | @read op _ o key answer =>
    have e : (s.setPhase i ⟨.operation op, .idle⟩ (.done o)).stages = _ := State.stages_setPhase _ rfl
    refine .of_commit ?_ rfl ?_ hi e ?_
    · rw [Task.commits_idle key]
      rfl
    · have same : op.apply T = T := by
        cases op with
        | getSitemap _ _ | getCache _ => rfl
        | deleteSitemap name => exact absurd rfl (answer rfl name)
        | createSitemap _ _ _ | createCache _ _ | updateCache _ _ => cases key
      rw [same]
      exact h.quiet hi e rfl (fun _ _ => rfl) (fun _ _ => rfl)
    · rw [key]
      intro no
      cases no
  | @list name rows listed =>
    subst listed
    have e := State.stages_list i ⟨.operation (.deleteSitemap name), .idle⟩
      ((s.tables .sitemaps).ofName name).length ((s.tables .sitemaps).ofName name).length
      ((s.tables .sitemaps).ofName name) s
    refine ⟨fun no => ?_, fun _ => ⟨_, rfl, ?_, fun no => ?_⟩⟩
    · cases no
    · exact h.list hi e rfl (sound.tracks.numbered .sitemaps)
    · cases no
  | @take job l _ _ =>
    refine .of_pass ?_ (h.quiet hi
      (State.stages_setPhase _ (State.afterLock_isGathering job l)) rfl ?_ ?_)
    · cases job with
      | operation op => cases op <;> rfl
      | eraseRow _ _ _ => rfl
    · intro name r
      cases job <;> rfl
    · intro name r
      cases job <;> rfl
  | @find op k l key => exact h.of_find sound ht key
  | @clear op k l id ids key =>
    refine .of_pass (by cases op <;> rfl) (h.clear hi (State.stages_setPhase _ rfl) rfl key ?_)
    exact (sound.tracks.listed i l op k (id :: ids) hi key id List.mem_cons_self).own
  | insert key => exact h.of_insert sound ht key
  | update key => exact h.of_update sound ht key
  | @erase k id parent l =>
    exact .of_pass rfl (h.erase hi (State.stages_setPhase _ rfl) rfl
      (sound.tracks.started i k id parent _ hi).1)
  | @leave job l _ o =>
    refine .of_pass ?_ (h.quiet hi (State.stages_finish _ _ _ _) (State.finish_tables _ _ _ _) ?_ ?_)
    · cases job with
      | operation op => cases op <;> rfl
      | eraseRow _ _ _ => rfl
    · intro name r
      cases job <;> rfl
    · intro name r
      cases job <;> rfl
  | gathered _ =>
    exact .of_pass rfl (h.quiet hi (State.stages_finish _ _ _ _) (State.finish_tables _ _ _ _)
      (fun _ _ => rfl) (fun _ _ => rfl))

end Store
end Sitemap
