/-
Every answer between two reloads comes from one snapshot of the user's settings.

A reader has two memories: the user's settings as they were first looked at, and the values that it
has handed out.  They are filled at different times, and only a reload empties them.  A `Session` has
the first memory alone, and is told the defaults with every step.  The theorem this file exists for
is `snapshotted_of_start`: a reader answers any steps as a session does over the defaults that the
reader was given, so that a value handed out before is what the snapshot would give again.

A reader that is given no defaults takes the usual ones.  It answers under their names, where a
session over no defaults refuses every name: `not_answers_over_nothing`.

`Follows` relates the two.  Its invariant is that each value handed out is that of the snapshot, or
the default where the snapshot has none; `Follows.step` keeps it step by step.
-/
import Sitemap.Settings.Reader

namespace Sitemap
namespace Settings

/-- The names under which a reader tells what it is made of. -/
def Reader.stateNames : List String := ["defaults", "user_settings", "_user_settings"]

/-- The names under which a reader answers with what is its own, and not with a setting. -/
def Reader.ownNames : List String := stateNames ++ memberNames

/-! ## Sessions -/

/-- The user's settings as they are now, and as they were first looked at since the last reload. -/
structure Session where
  user : Entries Value
  snapshot : Option (Entries Value) := none

namespace Session

/-- The settings that answers are taken from until the next reload. -/
def current (w : Session) : Entries Value := w.snapshot.getD w.user

/-- The snapshot is there: the one that was, or that of the user's settings now. -/
def looked (w : Session) : Session := { w with snapshot := some w.current }

/-- A name with a default is looked for in the snapshot, and another name is refused. -/
def setting (defaults : Entries Value) (w : Session) (name : String) :
    Except Refusal Value × Session :=
  match Entries.get? name defaults with
  | some default => (.ok ((Entries.get? name w.current).getD default), w.looked)
  | none => (.error (.unknown name), w)

/-- What is answered under a name of the reader's own. -/
def own (defaults : Entries Value) (w : Session) (name : String) :
    Except Refusal Value × Session :=
  match name, w.snapshot with
  | "defaults", _ => (.ok (.mapping defaults), w)
  | "user_settings", _ => (.ok (.mapping w.current), w.looked)
  | "_user_settings", some snapshot => (.ok (.mapping snapshot), w)
  | "_user_settings", none => (.error (.unknown name), w)
  | name, _ => (.error (.member name), w)

def get (defaults : Entries Value) (w : Session) (name : String) :
    Except Refusal Value × Session :=
  if name ∈ Reader.ownNames then w.own defaults name else w.setting defaults name

def step (defaults : Entries Value) (w : Session) : Step → Except Refusal Value × Session
  | .get name => w.get defaults name
  | .set user => (.ok .null, { w with user := user })
  | .unset => (.ok .null, { w with user := [] })
  | .reload => (.ok .null, { w with snapshot := none })

def run (defaults : Entries Value) (w : Session) : List Step → List (Except Refusal Value)
  | [] => []
  | s :: steps => (w.step defaults s).1 :: run defaults (w.step defaults s).2 steps

variable {defaults snapshot : Entries Value} {w : Session} {name : String} {s : Step}

theorem get_of_member (member : name ∈ Reader.memberNames) :
    w.get defaults name = (.error (.member name), w) := by
  have own : name ∈ Reader.ownNames := List.mem_append_right _ member
  rw [get, if_pos own]
  unfold Session.own
  split
  · exact absurd member (by decide)
  · exact absurd member (by decide)
  · exact absurd member (by decide)
  · exact absurd member (by decide)
  · rfl

theorem looked_snapshot (w : Session) : w.looked.snapshot = some w.current := rfl

/-- A name leaves the session as it was, or takes the snapshot. -/
theorem get_snd (defaults : Entries Value) (w : Session) (name : String) :
    (w.get defaults name).2 = w ∨ (w.get defaults name).2 = w.looked := by
  unfold get
  split
  · unfold own
    split
    · exact .inl rfl
    · exact .inr rfl
    · exact .inl rfl
    · exact .inl rfl
    · exact .inl rfl
  · unfold setting
    split
    · exact .inr rfl
    · exact .inl rfl

/-- A snapshot that was taken stays until a reload. -/
theorem snapshot_step (goesOn : s ≠ .reload) (taken : w.snapshot = some snapshot) :
    (w.step defaults s).2.snapshot = some snapshot := by
  cases s with
  | reload => exact absurd rfl goesOn
  | set _ | unset => exact taken
  | get name =>
    show (w.get defaults name).2.snapshot = some snapshot
    rcases get_snd defaults w name with same | looked
    · rw [same, taken]
    · rw [looked, looked_snapshot, current, taken, Option.getD_some]

end Session

/-! ## Readers as sessions -/

namespace Reader

/-- A reader after some steps. -/
def after (r : Reader) (steps : List Step) : Reader := steps.foldl (fun r s => (r.step s).2) r

theorem after_append (r : Reader) (before later : List Step) :
    r.after (before ++ later) = (r.after before).after later := List.foldl_append

/-- Each value handed out is that of the snapshot, or the default where the snapshot has none. -/
def Fresh (defaults : Entries Value) (r : Reader) : Prop :=
  ∀ name v, Entries.get? name r.cached = some v → ∃ snapshot default, r.snapshot = some snapshot ∧
    Entries.get? name defaults = some default ∧ v = (Entries.get? name snapshot).getD default

/-- The reader has the defaults and the memory of the session, and what it has handed out is
fresh. -/
structure Follows (defaults : Entries Value) (r : Reader) (w : Session) : Prop where
  base : r.defaults = defaults
  user : r.user = w.user
  snapshot : r.snapshot = w.snapshot
  fresh : r.Fresh defaults

variable {defaults : Entries Value} {r : Reader} {w : Session} {name : String}

/-- With no default under its name, the snapshot is found. -/
theorem whole_eq (free : Entries.get? "_user_settings" r.defaults = none) :
    r.whole = (.ok (r.snapshot.getD r.user),
      { r with snapshot := some (r.snapshot.getD r.user) }) := by
  unfold whole
  rw [free]
  rfl

theorem look_eq {default : Value} (known : Entries.get? name r.defaults = some default)
    (free : Entries.get? "_user_settings" r.defaults = none) :
    r.look name = (.ok ((Entries.get? name (r.snapshot.getD r.user)).getD default),
      { r with
        snapshot := some (r.snapshot.getD r.user)
        cached := Entries.put name ((Entries.get? name (r.snapshot.getD r.user)).getD default)
          r.cached }) := by
  rw [look, known, whole_eq free]

theorem reload_eq (free : Entries.get? "_user_settings" r.defaults = none) :
    r.reload = (.ok .null, { defaults := r.defaults, user := r.user }) := by
  unfold reload
  rw [free]
  rfl

theorem get_of_member (member : name ∈ memberNames) : r.get name = (.error (.member name), r) := by
  unfold get
  rw [if_pos member]

theorem get_of_not_own (other : name ∉ ownNames) : r.get name = r.setting name := by
  obtain ⟨apart, values⟩ := not_or.mp (mt List.mem_append.mpr other)
  unfold get
  rw [if_neg values]
  split
  · exact absurd (by decide) apart
  · exact absurd (by decide) apart
  · exact absurd (by decide) apart
  · rfl

namespace Follows

theorem current (h : Follows defaults r w) : r.snapshot.getD r.user = w.current := by
  rw [h.user, h.snapshot]
  rfl

theorem free_base (h : Follows defaults r w) (free : Entries.get? "_user_settings" defaults = none) :
    Entries.get? "_user_settings" r.defaults = none := by
  rw [h.base, free]

/-- Looking at the user's settings as a whole takes the snapshot. -/
theorem looked (h : Follows defaults r w) :
    Follows defaults { r with snapshot := some w.current } w.looked where
  base := h.base
  user := h.user
  snapshot := rfl
  fresh name v handed := by
    obtain ⟨snapshot, default, taken, known, value⟩ := h.fresh name v handed
    have same : w.current = snapshot := by
      rw [Session.current, ← h.snapshot, taken, Option.getD_some]
    exact ⟨snapshot, default, congrArg some same, known, value⟩

/-- The value that is handed out is fresh, as those before are. -/
theorem handOut (h : Follows defaults r w) {default : Value}
    (known : Entries.get? name defaults = some default) :
    Follows defaults { r with
      snapshot := some w.current
      cached := Entries.put name ((Entries.get? name w.current).getD default) r.cached } w.looked
    where
  base := h.base
  user := h.user
  snapshot := rfl
  fresh other v handed := by
    rw [Entries.get?_put] at handed
    by_cases same : other = name
    · rw [if_pos same] at handed
      subst same
      exact ⟨w.current, default, rfl, known, (Option.some.inj handed).symm⟩
    · rw [if_neg same] at handed
      exact h.looked.fresh other v handed

/-- A name without a default was never handed out, and is refused. -/
theorem refused (h : Follows defaults r w) (unknown : Entries.get? name defaults = none) :
    r.setting name = (.error (.unknown name), r) := by
  unfold Reader.setting
  cases handed : Entries.get? name r.cached with
  | some v =>
    obtain ⟨_, _, _, known, _⟩ := h.fresh name v handed
    rw [unknown] at known
    cases known
  | none =>
    show r.look name = _
    rw [look, h.base, unknown]

theorem setting (h : Follows defaults r w) (free : Entries.get? "_user_settings" defaults = none)
    (name : String) :
    (r.setting name).1 = (w.setting defaults name).1 ∧
      Follows defaults (r.setting name).2 (w.setting defaults name).2 := by
  unfold Session.setting
  cases known : Entries.get? name defaults with
  | none =>
    rw [h.refused known]
    exact ⟨rfl, h⟩
  | some default =>
    unfold Reader.setting
    cases handed : Entries.get? name r.cached with
    | some v =>
      -- It was handed out before, so the snapshot is there.
      obtain ⟨snapshot, default', taken, known', rfl⟩ := h.fresh name v handed
      obtain rfl : default = default' := Option.some.inj (known.symm.trans known')
      have held : w.snapshot = some snapshot := by rw [← h.snapshot, taken]
      have current : w.current = snapshot := by rw [Session.current, held, Option.getD_some]
      have still : w.looked = w := by
        unfold Session.looked
        rw [current, ← held]
      rw [still, current]
      exact ⟨rfl, h⟩
    | none =>
      show (r.look name).1 = _ ∧ Follows defaults (r.look name).2 _
      rw [look_eq (by rw [h.base, known]) (h.free_base free), h.current]
      exact ⟨rfl, h.handOut known⟩

theorem get (h : Follows defaults r w) (free : Entries.get? "_user_settings" defaults = none)
    (name : String) :
    (r.get name).1 = (w.get defaults name).1 ∧
      Follows defaults (r.get name).2 (w.get defaults name).2 := by
  by_cases own : name ∈ ownNames
  · rcases List.mem_append.mp own with state | member
    · rcases state with _ | ⟨_, _ | ⟨_, _ | ⟨_, ⟨⟩⟩⟩⟩
      · show Except.ok (Value.mapping r.defaults) = .ok (.mapping defaults) ∧ Follows defaults r w
        rw [h.base]
        exact ⟨rfl, h⟩
      · show r.whole.1.map Value.mapping = .ok (.mapping w.current) ∧
          Follows defaults r.whole.2 w.looked
        rw [whole_eq (h.free_base free), h.current]
        exact ⟨rfl, h.looked⟩
      · unfold Reader.get Session.get Session.own
        rw [← h.snapshot]
        cases r.snapshot with
        | some snapshot => exact ⟨rfl, h⟩
        | none =>
          show (r.setting "_user_settings").1 = .error (.unknown "_user_settings") ∧
            Follows defaults (r.setting "_user_settings").2 w
          rw [h.refused free]
          exact ⟨rfl, h⟩
    · rw [Reader.get_of_member member, Session.get_of_member member]
      exact ⟨rfl, h⟩
  · rw [Reader.get_of_not_own own, Session.get, if_neg own]
    exact h.setting free name

/-- A reader that follows a session answers a step as the session does, and follows it still. -/
theorem step (h : Follows defaults r w) (free : Entries.get? "_user_settings" defaults = none)
    (s : Step) :
    (r.step s).1 = (w.step defaults s).1 ∧ Follows defaults (r.step s).2 (w.step defaults s).2 := by
  cases s with
  | get name => exact h.get free name
  | set _ | unset => exact ⟨rfl, h.base, rfl, h.snapshot, h.fresh⟩
  | reload =>
    show r.reload.1 = _ ∧ Follows defaults r.reload.2 _
    rw [reload_eq (h.free_base free)]
    exact ⟨rfl, h.base, h.user, rfl, by intro _ _ handed; cases handed⟩

theorem run (h : Follows defaults r w) (free : Entries.get? "_user_settings" defaults = none)
    (steps : List Step) : r.run steps = w.run defaults steps := by
  induction steps generalizing r w with
  | nil => rfl
  | cons s steps ih =>
    obtain ⟨answer, follows⟩ := h.step free s
    show (r.step s).1 :: (r.step s).2.run steps = _
    rw [answer, ih follows]
    rfl

theorem after (h : Follows defaults r w) (free : Entries.get? "_user_settings" defaults = none)
    (steps : List Step) : ∃ w', Follows defaults (r.after steps) w' := by
  induction steps generalizing r w with
  | nil => exact ⟨w, h⟩
  | cons s steps ih => exact ih (h.step free s).2

/-- One snapshot lasts until the next reload. -/
theorem snapshot_after (h : Follows defaults r w)
    (free : Entries.get? "_user_settings" defaults = none) {snapshot : Entries Value}
    {steps : List Step} (goesOn : .reload ∉ steps) (taken : r.snapshot = some snapshot) :
    (r.after steps).snapshot = some snapshot := by
  induction steps generalizing r w with
  | nil => exact taken
  | cons s steps ih =>
    obtain ⟨here, rest⟩ := not_or.mp (mt List.mem_cons.mpr goesOn)
    have follows := (h.step free s).2
    refine ih follows rest ?_
    rw [follows.snapshot]
    exact Session.snapshot_step (Ne.symm here) (by rw [← h.snapshot, taken])

end Follows

/-! ## New readers -/

/-- What a new reader answers from then on, over these defaults and with these settings of the
user. -/
structure Snapshotted (defaults user : Entries Value) (r : Reader) : Prop where
  /-- Any steps are answered as by a session. -/
  answers : ∀ steps, r.run steps = Session.run defaults { user := user } steps
  /-- Between two reloads there is one snapshot at most. -/
  single : ∀ before later snapshot, .reload ∉ later → (r.after before).snapshot = some snapshot →
    (r.after (before ++ later)).snapshot = some snapshot
  /-- A value handed out is at no time another than that of the snapshot. -/
  fresh : ∀ steps, (r.after steps).Fresh defaults
  /-- A name without a default is refused, and leaves the reader as it was. -/
  refused : ∀ steps name, name ∉ Entries.keys defaults → name ∉ ownNames →
    (r.after steps).get name = (.error (.unknown name), r.after steps)
  /-- A reload makes a new reader, of the user's settings as they are then. -/
  reloaded : ∀ steps,
    r.after (steps ++ [.reload]) = { defaults := defaults, user := (r.after steps).user }

theorem Follows.snapshotted {user : Entries Value} (h : Follows defaults r { user := user })
    (free : Entries.get? "_user_settings" defaults = none) : r.Snapshotted defaults user where
  answers := h.run free
  single before later snapshot goesOn taken := by
    obtain ⟨_, held⟩ := h.after free before
    rw [after_append]
    exact held.snapshot_after free goesOn taken
  fresh steps := (h.after free steps).choose_spec.fresh
  refused steps name unknown other := by
    obtain ⟨_, held⟩ := h.after free steps
    rw [get_of_not_own other, held.refused (Entries.get?_eq_none_iff.mpr unknown)]
  reloaded steps := by
    obtain ⟨_, held⟩ := h.after free steps
    rw [after_append]
    show (r.after steps).reload.2 = _
    rw [reload_eq (held.free_base free), held.base]

/-- A reader answers as a session does over the defaults that it was given, or over the usual ones if
it was given none, whatever is asked of it and whenever the user's settings change. -/
theorem snapshotted_of_start {given user : Entries Value}
    (others : ∀ name ∈ ownNames, name ∉ Entries.keys given) :
    (Reader.start given user).Snapshotted (if given = [] then Settings.defaults else given) user := by
  have free : Entries.get? "_user_settings" (if given = [] then Settings.defaults else given)
      = none := by
    split
    · rfl
    · exact Entries.get?_eq_none_iff.mpr (others _ (by decide))
  have follows : Follows (if given = [] then Settings.defaults else given)
      (Reader.start given user) { user := user } :=
    ⟨rfl, rfl, rfl, by intro _ _ handed; cases handed⟩
  exact follows.snapshotted free

/-- The second name is looked for in the snapshot that was taken for the first one, although the
user has given it a value since. -/
theorem snapshotted_of_two_names :
    (∀ name ∈ ownNames, name ∉ Entries.keys [("A", Value.int 1), ("B", .int 2)]) ∧
      (Reader.start [("A", .int 1), ("B", .int 2)] [("A", .int 5)]).Snapshotted
        [("A", .int 1), ("B", .int 2)] [("A", .int 5)] ∧
      (Reader.start [("A", .int 1), ("B", .int 2)] [("A", .int 5)]).run
          [.get "C", .get "reload", .set [("A", .int 6)], .get "A",
            .set [("A", .int 7), ("B", .int 8)], .get "B", .get "A", .reload, .get "B"]
        = [.error (.unknown "C"), .error (.member "reload"), .ok .null, .ok (.int 6), .ok .null,
            .ok (.int 2), .ok (.int 6), .ok .null, .ok (.int 8)] := by
  have others : ∀ name ∈ ownNames, name ∉ Entries.keys [("A", Value.int 1), ("B", .int 2)] := by
    decide
  exact ⟨others, snapshotted_of_start others, rfl⟩

/-- Given no defaults, a reader answers under the name of a usual one, which over no defaults is
refused. -/
theorem not_answers_over_nothing :
    (∀ name ∈ ownNames, name ∉ Entries.keys ([] : Entries Value)) ∧
      (Reader.start [] []).run [.get "PAGE_SIZE"] = [.ok (.int 100)] ∧
      Session.run [] { user := [] } [.get "PAGE_SIZE"] = [.error (.unknown "PAGE_SIZE")] ∧
      ¬(Reader.start [] []).Snapshotted [] [] := by
  refine ⟨by decide, rfl, rfl, fun all => ?_⟩
  have same := all.answers [.get "PAGE_SIZE"]
  cases same

end Reader
end Settings
end Sitemap
