/-
A fetch in batches reads every row once.

Batches are read until one is short.  With a size of one or more that is the batch after all the full
ones, which is empty when the rows fill whole batches; with a size of zero no batch is ever short, and
no bound on their number is enough.  `readPages_eq` says this for the loop from any batch on, with
everything that it leaves behind, by induction on the bound; `fetch_reads_all` is the whole fetch.

What a fetch asks for before the first batch is no batch and is not reported: `isPreparation_ask`.
-/
import Mathlib
import Sitemap.Fetch
import Sitemap.Proofs.Outcome

namespace Sitemap

/-- Whether rows are asked for. -/
def Request.isSlice : Request → Bool
  | .slice _ _ => true
  | _ => false

/-- How many rows are reported. -/
def Notice.rowsReported : Notice → Nat
  | .fetched count _ _ => count
  | _ => 0

namespace BatchSize

theorem count_whole (size : Nat) : count (.whole size) = size := by
  simp [count, number?, Ratio.ofInt, Ratio.truncate]

end BatchSize

namespace Run

variable {α β : Type}

/-- Nothing is reported and no rows are asked for. -/
structure IsPreparation (r : Run α) : Prop where
  silent : r.notices = []
  sliceless : ∀ q ∈ r.requests, q.isSlice = false

theorem isPreparation_lift (r : Except Failure α) : (lift r).IsPreparation :=
  ⟨rfl, fun _ mem => nomatch mem⟩

theorem isPreparation_request {q : Request} (h : q.isSlice = false) : (request q).IsPreparation := by
  refine ⟨rfl, fun p mem => ?_⟩
  rw [List.mem_singleton.mp mem, h]

theorem IsPreparation.bind {r : Run α} {f : α → Run β} (first : r.IsPreparation)
    (next : ∀ a, (f a).IsPreparation) : (r >>= f).IsPreparation := by
  obtain ⟨requests, notices, result⟩ := r
  cases result with
  | error e => exact ⟨first.silent, first.sliceless⟩
  | ok a =>
    refine ⟨?_, List.forall_mem_append.mpr ⟨first.sliceless, (next a).sliceless⟩⟩
    show notices ++ (f a).notices = []
    rw [show notices = [] from first.silent, (next a).silent]
    rfl

theorem bind_pure_append (a b : List α) (p q : List Request)
    (m n : List Notice) :
    ((⟨p, m, .ok a⟩ : Run (List α)) >>= fun x => (⟨q, n, .ok b⟩ : Run (List α)) >>= fun y =>
      Pure.pure (x ++ y)) = ⟨p ++ q, m ++ n, .ok (a ++ b)⟩ := by
  show (⟨p ++ (q ++ []), m ++ (n ++ []), .ok (a ++ b)⟩ : Run (List α)) = _
  rw [List.append_nil, List.append_nil]

end Run

namespace Fetch

open Run

theorem isPreparation_ask (source : PageSource) (wanted : Wanted) :
    (ask source wanted).IsPreparation := by
  unfold ask
  refine (isPreparation_lift _).bind fun condition => ?_
  refine (isPreparation_request rfl).bind fun _ => ?_
  refine (isPreparation_lift _).bind fun selected => ?_
  refine (isPreparation_lift _).bind fun relations => ?_
  -- Whether or not relations are loaded with the rows, the order comes last.
  split
  on_goal 1 => refine (isPreparation_request rfl).bind fun _ => ?_
  all_goals
    refine (isPreparation_lift _).bind fun order => ?_
    cases order with
    | some name => exact (isPreparation_request rfl).bind fun _ => isPreparation_lift _
    | none => exact (isPreparation_lift _).bind fun _ => isPreparation_lift _

/-! ## The loop -/

/-- The rows of a batch. -/
def batchOf (size : Nat) (rows : List Value) (k : Nat) : List Value := (rows.drop (k * size)).take size

/-- The requests of some batches from an index on. -/
def slices (size index count : Nat) : List Request :=
  (List.range count).map fun k =>
    .slice (.int ((index + k : Nat) * size)) (.int ((index + k + 1 : Nat) * size))

/-- What is reported of some batches from an index on, where the rows are those that are left. -/
def lines (model : String) (size index : Nat) (rows : List Value) (count : Nat) : List Notice :=
  (List.range count).map fun k =>
    .fetched (batchOf size rows k).length model (.int ((index + k : Nat) * size))

theorem slices_succ (size index count : Nat) :
    slices size index (count + 1)
      = .slice (.int (index * size)) (.int ((index + 1 : Nat) * size))
        :: slices size (index + 1) count := by
  unfold slices
  rw [List.range_succ_eq_map, List.map_cons, List.map_map]
  congr 1
  apply List.map_congr_left
  intro k _
  have shift : index + 1 + k = index + (k + 1) := by omega
  show Request.slice _ _ = Request.slice _ _
  rw [shift]

theorem lines_succ (model : String) (size index : Nat) (rows : List Value) (count : Nat) :
    lines model size index rows (count + 1)
      = .fetched (rows.take size).length model (.int (index * size))
        :: lines model size (index + 1) (rows.drop size) count := by
  have first : batchOf size rows 0 = rows.take size := by
    unfold batchOf
    rw [Nat.zero_mul, List.drop_zero]
  unfold lines
  rw [List.range_succ_eq_map, List.map_cons, List.map_map, first]
  congr 1
  apply List.map_congr_left
  intro k _
  have shift : index + 1 + k = index + (k + 1) := by omega
  have next : batchOf size rows (k + 1) = batchOf size (rows.drop size) k := by
    unfold batchOf
    rw [List.drop_drop, Nat.succ_mul, Nat.add_comm]
  show Notice.fetched _ model _ = Notice.fetched _ model _
  rw [shift, next]

section

variable {build : Value → Except ShapeFault (Entries Value)} {model : String} {size : Nat}
  {rows : List Value} {records : List (Entries Value)}

theorem readBatch_of_built (index : Nat)
    (built : List.Forall₂ (fun row r => build row = .ok r) rows records) :
    readBatch build model (.whole size) index rows
      = ⟨[.slice (.int (index * size)) (.int ((index + 1 : Nat) * size))],
          [.fetched rows.length model (.int (index * size))], .ok records⟩ := by
  unfold readBatch
  rw [mapM_of_forall₂ built]
  rfl

/-- With batches of a size of one or more, the loop ends when it may read one batch more than there
are full ones. -/
theorem readPages_eq (positive : 1 ≤ size) (bound index : Nat)
    (built : List.Forall₂ (fun row r => build row = .ok r) rows records) :
    readPages build model (.whole size) bound index rows =
      if rows.length / size < bound then
        some ⟨slices size index (rows.length / size + 1),
          lines model size index rows (rows.length / size + 1), .ok records⟩
      else none := by
  -- What a batch leaves is read as if it were all there is, from the next index on.
  induction bound generalizing index rows records with
  | zero => rfl
  | succ bound ih =>
    rw [readPages]
    simp only [BatchSize.count_whole, BatchSize.isShort_whole]
    by_cases short : rows.length < size
    · have none : rows.length / size = 0 := Nat.div_eq_of_lt short
      have all : rows.take size = rows := List.take_of_length_le (Nat.le_of_lt short)
      rw [all, if_pos (decide_eq_true short), readBatch_of_built index built, none,
        if_pos (Nat.succ_pos bound), slices_succ, lines_succ, all]
      rfl
    · have full : (rows.take size).length = size := by
        rw [List.length_take]
        omega
      -- A full batch takes one from the number of full batches, and one from the bound.
      have quotient : rows.length / size = (rows.drop size).length / size + 1 := by
        rw [List.length_drop, Nat.div_eq_sub_div (by omega) (by omega)]
      have first := List.forall₂_take size built
      have later := List.forall₂_drop size built
      rw [full, if_neg (by simp), readBatch_of_built index first, ih (index + 1) later, quotient,
        full]
      by_cases enough : (rows.drop size).length / size < bound
      · rw [if_pos enough, if_pos (Nat.succ_lt_succ enough),
          slices_succ size index ((rows.drop size).length / size + 1),
          lines_succ model size index rows ((rows.drop size).length / size + 1), full,
          Option.map_some, Run.bind_pure_append, List.take_append_drop]
        rfl
      · rw [if_neg enough, if_neg fun h => enough (Nat.lt_of_succ_lt_succ h)]
        rfl

/-- Batches of no rows are never short. -/
theorem readPages_zero (bound index : Nat) (rows : List Value) :
    readPages build model (.whole (0 : Nat)) bound index rows = none := by
  induction bound generalizing index rows with
  | zero => rfl
  | succ bound ih =>
    rw [readPages]
    simp only [BatchSize.isShort_whole]
    rw [if_neg (by simp), ih]
    rfl

end

/-! ## What was read -/

/-- The first batches hold the rows up to where the next one begins. -/
theorem flatten_batches (size : Nat) (rows : List Value) (count : Nat) :
    ((List.range count).map (batchOf size rows)).flatten = rows.take (count * size) := by
  induction count with
  | zero => rw [Nat.zero_mul]; rfl
  | succ count ih =>
    rw [List.range_succ, List.map_append, List.flatten_append, ih, Nat.succ_mul, List.take_add]
    simp [batchOf]

/-- Every row is reported once. -/
theorem sum_rowsReported (model : String) {size : Nat} (positive : 1 ≤ size) (rows : List Value) :
    ((lines model size 0 rows (rows.length / size + 1)).map Notice.rowsReported).sum
      = rows.length := by
  have counts : (lines model size 0 rows (rows.length / size + 1)).map Notice.rowsReported
      = ((List.range (rows.length / size + 1)).map (batchOf size rows)).map List.length := by
    unfold lines
    rw [List.map_map, List.map_map]
    rfl
  -- The batch after the full ones reaches past the last row.
  have all : rows.length ≤ (rows.length / size + 1) * size :=
    Nat.le_of_lt (Nat.lt_mul_of_div_lt (Nat.lt_succ_self _) positive)
  rw [counts, ← List.length_flatten, flatten_batches, List.take_of_length_le all]

/-- What reading the rows in batches leaves behind, after some requests. -/
structure ReadsAll (model : String) (size : Nat) (rows : List Value)
    (records : List (Entries Value)) (before : List Request) (run : Run (List (Entries Value))) :
    Prop where
  records : run.result = .ok records
  /-- The batches follow each other from the first row on, and the last one is short. -/
  requests : run.requests = before ++ (List.range (rows.length / size + 1)).map fun k =>
    .slice (.int (k * size)) (.int ((k + 1 : Nat) * size))
  notices : run.notices = (List.range (rows.length / size + 1)).map fun k =>
    .fetched (batchOf size rows k).length model (.int (k * size))
  counted : (run.notices.map Notice.rowsReported).sum = rows.length

section

variable {build : Value → Except ShapeFault (Entries Value)} {model : String} {size : Nat}
  {rows : List Value} {records : List (Entries Value)}

theorem readsAll_batches (positive : 1 ≤ size) (before : List Request) :
    ReadsAll model size rows records before
      ⟨before ++ slices size 0 (rows.length / size + 1),
        lines model size 0 rows (rows.length / size + 1), .ok records⟩ where
  records := rfl
  requests := by simp [slices]
  notices := by simp [lines]
  counted := sum_rowsReported model positive rows

end

variable {s : Settings} {source : PageSource} {wanted : Wanted} {given : Value} {listing : Listing}
  {size : Nat} {rows : List Value} {records : List (Entries Value)}

/-- A fetch whose rows can be listed reads them, and adds nothing but what it asked for before. -/
theorem fetch_of_listed (asked : (ask source wanted).result = .ok listing)
    (sized : BatchSize.ofValue (if given = .null then s.pageSize else given) = .ok (.whole size))
    (listed : listing (.whole size) = .ok rows) :
    fetch s source wanted given =
      (readPages (fun obj => Record.build obj wanted.fields wanted.populate) source.model.name
        (.whole size) (rows.length + 1) 0 rows).map fun read =>
          ⟨(ask source wanted).requests ++ read.requests, read.notices, read.result⟩ := by
  have silent := (isPreparation_ask source wanted).silent
  have prepared : (do
      let listing ← ask source wanted
      let size ← Run.liftShape (BatchSize.ofValue (if given = .null then s.pageSize else given))
      Pure.pure (listing, size) : Run (Listing × BatchSize))
      = ⟨(ask source wanted).requests, [], .ok (listing, .whole size)⟩ := by
    generalize ask source wanted = run at asked silent ⊢
    obtain ⟨requests, notices, result⟩ := run
    obtain rfl : notices = [] := silent
    obtain rfl : result = .ok listing := asked
    rw [sized]
    show (⟨requests ++ [], [], .ok (listing, .whole size)⟩ : Run (Listing × BatchSize)) = _
    rw [List.append_nil]
  unfold fetch
  simp only [prepared, listed]
  rfl

/-- A fetch whose rows can all be built ends exactly when its batches are of one row or more, and
then its result is the records of all rows in order, whatever the size.  It does not matter how many
batches the loop may read, as long as it ends. -/
theorem fetch_reads_all (asked : (ask source wanted).result = .ok listing)
    (sized : BatchSize.ofValue (if given = .null then s.pageSize else given) = .ok (.whole size))
    (listed : listing (.whole size) = .ok rows)
    (built : List.Forall₂
      (fun row r => Record.build row wanted.fields wanted.populate = .ok r) rows records) :
    let loop := fun bound =>
      readPages (fun obj => Record.build obj wanted.fields wanted.populate) source.model.name
        (.whole size) bound 0 rows
    ((∃ bound, (loop bound).isSome) ↔ 1 ≤ size) ∧
      (∀ bound run, loop bound = some run →
        ReadsAll source.model.name size rows records [] run) ∧
      ((fetch s source wanted given).isSome ↔ 1 ≤ size) ∧
      (∀ q ∈ (ask source wanted).requests, q.isSlice = false) ∧
      ∀ run, fetch s source wanted given = some run →
        ReadsAll source.model.name size rows records (ask source wanted).requests run := by
  intro loop
  have fetched : fetch s source wanted given = (loop (rows.length + 1)).map fun read =>
      ⟨(ask source wanted).requests ++ read.requests, read.notices, read.result⟩ :=
    fetch_of_listed asked sized listed
  have sliceless := (isPreparation_ask source wanted).sliceless
  rw [fetched]
  rcases Nat.eq_zero_or_pos size with rfl | positive
  · have endless : ∀ bound, loop bound = none := fun bound => readPages_zero bound 0 rows
    simp only [endless]
    simpa using sliceless
  · have read : ∀ bound, loop bound = _ := fun bound => readPages_eq positive bound 0 built
    have enough : rows.length / size < rows.length + 1 :=
      Nat.lt_succ_of_le (Nat.div_le_self _ _)
    have last := read (rows.length + 1)
    rw [if_pos enough] at last
    rw [last]
    refine ⟨iff_of_true ⟨rows.length + 1, by rw [last]; rfl⟩ positive, ?_, iff_of_true rfl positive,
      sliceless, ?_⟩
    · intro bound run ended
      rw [read] at ended
      split at ended
      · obtain rfl := Option.some.inj ended
        exact readsAll_batches positive []
      · cases ended
    · intro run ended
      obtain rfl := Option.some.inj ended
      exact readsAll_batches positive _

/-- Notes that fill two batches of two. -/
def notes : List Value :=
  [.object [("slug", .text "one")], .object [("slug", .text "two")],
    .object [("slug", .text "three")], .object [("slug", .text "four")]]

def noteRecords : List (Entries Value) :=
  [[("slug", .text "one")], [("slug", .text "two")], [("slug", .text "three")],
    [("slug", .text "four")]]

def noteSource : PageSource where
  model := { name := "Note", fields := [{ name := "slug", column := .text "slug" }] }
  select := fun _ => .ok fun _ => .ok fun _ => .ok notes

def wantedNotes : Wanted where
  condition := .ok {}
  populate := .mapping []
  orderBy := .text "slug"
  fields := .texts ["slug"]

def notesInTwos : Settings := { pageSize := .int 2 }

theorem fetch_reads_notes :
    (ask noteSource wantedNotes).result = .ok (fun _ => .ok notes) ∧
      List.Forall₂ (fun row r =>
        Record.build row wantedNotes.fields wantedNotes.populate = .ok r) notes noteRecords ∧
      ∃ run, fetch notesInTwos noteSource wantedNotes .null = some run ∧
        ReadsAll "Note" 2 notes noteRecords (ask noteSource wantedNotes).requests run := by
  have asked : (ask noteSource wantedNotes).result = .ok (fun _ => .ok notes) := rfl
  have built : List.Forall₂ (fun row r =>
      Record.build row wantedNotes.fields wantedNotes.populate = .ok r) notes noteRecords :=
    .cons (by cbv) (.cons (by cbv) (.cons (by cbv) (.cons (by cbv) .nil)))
  have sized : BatchSize.ofValue (if Value.null = .null then notesInTwos.pageSize else .null)
      = .ok (.whole (2 : Nat)) := rfl
  obtain ⟨-, -, ends, -, reads⟩ := fetch_reads_all asked sized rfl built
  obtain ⟨run, ended⟩ := Option.isSome_iff_exists.mp (ends.mpr (by decide))
  exact ⟨asked, built, run, ended, reads run ended⟩

end Fetch
end Sitemap
