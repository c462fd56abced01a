import InventorySearch.Proofs.Service.Consistency
import Mathlib.Data.List.Perm.Basic

/-! Requests that are carried out at once. Storing a group and replacing the extensions take several accesses
to the state: something is checked first and takes effect later, and nothing holds other requests back in
between. The state fits together again behind any accesses none of which undoes what another request has
checked, and requests that are compatible never do. -/

namespace InventorySearch.Service

/-- What is left of a request that stores a group or replaces the extensions. -/
inductive Task where
  | store (rawName : String) (input : GroupInput)
  /-- The query has been checked. -/
  | put (name : String) (description query : Option String)
  | replace (e : Extensions)
  /-- The defaults and the stored queries have been checked. -/
  | retype (e : Extensions)
  /-- The inventory has been typed anew. -/
  | publish (e : Extensions)
  | answered (reply : Reply)

namespace Task

/-- One access of a request to the state, and what is left of the request behind it. -/
def step (s : State) : Task → State × Task
  | store rawName input =>
      match groupName rawName with
      | .error e => (s, answered (.ofError e))
      | .ok name =>
          match s.checkedQuery input with
          | .error e => (s, answered (.ofError (.ofSearch e)))
          | .ok query => (s, put name (input.description.filter fun text => !Text.isBlankText text) query)
  | put name description query =>
      let o := s.storeGroup name description query
      (o.state, answered o.reply)
  | replace e =>
      match checkNames e with
      | .error error => (s, answered (.ofError error))
      | .ok () =>
          match s.defaults.check (.extended e) with
          | .error error => (s, answered (.ofError (.ofConfig error)))
          | .ok () =>
              match invalidatedGroups (.extended e) s.defaults s.groups with
              | [] => (s, retype e)
              | names => (s, answered (.ofError (invalidatedError names)))
  | retype e =>
      match s.engine.retype (.extended e) with
      | .error cause => (s, answered (.ofError cause.toApiError))
      | .ok engine => ({ s with engine := engine }, publish e)
  | publish e =>
      let o := s.publish e (.extended e) s.engine
      (o.state, answered o.reply)
  | answered reply => (s, answered reply)

/-- The state and the reply that a task leads to when nothing else happens. -/
def finish (s : State) (t : Task) : Nat → State × Task
  | 0 => (s, t)
  | n + 1 => finish (t.step s).1 (t.step s).2 n

/-- The accesses of storing a group make up what the request does on its own. -/
theorem finish_store (s : State) (rawName : String) (input : GroupInput) :
    let o := s.upsertGroup rawName input
    finish s (store rawName input) 2 = (o.state, answered o.reply) := by
  rw [finish, step, State.upsertGroup]
  cases hname : groupName rawName with
  | error e => rfl
  | ok name =>
      cases hquery : s.checkedQuery input with
      | error e => rfl
      | ok query => rfl

theorem finish_replace (s : State) (e : Extensions) :
    let o := s.replaceExtensions e
    finish s (replace e) 3 = (o.state, answered o.reply) := by
  have hrebuild := s.rebuild_replaceExtensions e
  generalize s.replaceExtensions e = o at hrebuild
  cases hrebuild with
  | blankName error hnames =>
      simp only [finish, step, hnames]
      rfl
  | unfitDefaults error hnames hdefaults =>
      simp only [finish, step, hnames, hdefaults]
      rfl
  | unreadQueries reports hnames hdefaults hgroups =>
      cases hinvalidated : invalidatedGroups (.extended e) s.defaults s.groups with
      | nil => exact absurd hinvalidated hgroups
      | cons name names =>
          simp only [finish, step, hnames, hdefaults, hinvalidated]
          rfl
  | unfitValue cause hnames hdefaults hgroups hengine =>
      simp only [finish, step, hnames, hdefaults, hgroups, hengine]
      rfl
  | published engine hnames hdefaults hgroups hengine =>
      simp only [finish, step, hnames, hdefaults, hgroups, hengine]
      rfl

/-! ### One access -/

/-- What an access can do: a request is refused or checked, or it changes one part of the state. -/
inductive Move (s : State) : Task → State → Task → Prop
  | refused {t : Task} (reply : Reply) (hpublish : ∀ e, t ≠ publish e) : Move s t s (answered reply)
  | checked (rawName : String) (input : GroupInput) (name : String) (description query : Option String)
      (hquery : ∀ text, query = some text → ∃ request, savedRequest s.catalog s.defaults text = .ok request) :
      Move s (store rawName input) s (put name description query)
  | stored (name : String) (description query : Option String) (reply : Reply) :
      Move s (put name description query) { s with groups := s.groups.upsert name description query }
        (answered reply)
  | accepted (e : Extensions) (hgroups : QueriesReadable (.extended e) s.defaults s.groups) :
      Move s (replace e) s (retype e)
  | retyped (e : Extensions) (engine : Engine) (hengine : s.engine.retype (.extended e) = .ok engine) :
      Move s (retype e) { s with engine := engine } (publish e)
  | published (e : Extensions) (reply : Reply) :
      Move s (publish e) { s with catalog := .extended e } (answered reply)

theorem move_step (s : State) (t : Task) : Move s t (t.step s).1 (t.step s).2 := by
  cases t with
  | store rawName input =>
      rw [step]
      split
      · exact .refused _ nofun
      · split
        · exact .refused _ nofun
        next hquery => exact .checked _ _ _ _ _ fun _ => s.savedRequest_of_checkedQuery hquery
  | put name description query => exact .stored name description query _
  | replace e =>
      rw [step]
      split
      · exact .refused _ nofun
      · split
        · exact .refused _ nofun
        · split
          next hgroups => exact .accepted e (invalidatedGroups_eq_nil_iff.mp hgroups)
          next => exact .refused _ nofun
  | retype e =>
      rw [step]
      split
      · exact .refused _ nofun
      next engine hengine => exact .retyped e engine hengine
  | publish e => exact .published e _
  | answered reply => exact .refused reply nofun

/-- What a request has checked still holds. -/
def Founded (s : State) : Task → Prop
  | put _ _ query =>
      ∀ text, query = some text → ∃ request, savedRequest s.catalog s.defaults text = .ok request
  | retype e => QueriesReadable (.extended e) s.defaults s.groups
  | publish e => QueriesReadable (.extended e) s.defaults s.groups
  | _ => True

/-- Tells whether the next access of one request leaves alone what another one has checked. A query is stored
only when every catalog that is to be published reads it, a catalog published only when it reads every query
that is to be stored, and the inventory is typed for one of these catalogs at a time. -/
def spares (s : State) : Task → Task → Bool
  | put _ _ (some query), retype e => (savedRequest (.extended e) s.defaults query).toBool
  | put _ _ (some query), publish e => (savedRequest (.extended e) s.defaults query).toBool
  | publish e, put _ _ (some query) => (savedRequest (.extended e) s.defaults query).toBool
  | retype _, publish _ => false
  | _, _ => true

variable {s s' : State} {t t' other : Task}

theorem Move.founded (h : Move s t s' t') (ht : t.Founded s) : t'.Founded s' := by
  cases h with
  | refused => trivial
  | checked _ _ _ _ _ hquery => exact hquery
  | stored => trivial
  | accepted _ hgroups => exact hgroups
  | retyped => exact ht
  | published => trivial

/-- An access keeps what another request has checked when it spares it. -/
theorem Move.founded_other (h : Move s t s' t') (hother : other.Founded s) (hspares : t.spares s other = true) :
    other.Founded s' := by
  -- Only storing changes what a rebuild has checked, and only publishing what a query is checked with.
  cases h with
  | refused => exact hother
  | checked => exact hother
  | accepted => exact hother
  | retyped => cases other <;> exact hother
  | stored name description query =>
      have hreads : ∀ e, (∀ text, query = some text → (savedRequest (.extended e) s.defaults text).toBool) →
          QueriesReadable (.extended e) s.defaults s.groups →
          QueriesReadable (.extended e) s.defaults (s.groups.upsert name description query) :=
        fun e hreads hgroups => hgroups.upsert name description fun text htext =>
          exists_ok_iff_toBool.mpr (hreads text htext)
      cases other with
      | retype e => exact hreads e (fun text htext => by subst htext; exact hspares) hother
      | publish e => exact hreads e (fun text htext => by subst htext; exact hspares) hother
      | put => exact hother
      | _ => trivial
  | published e =>
      cases other with
      | put _ _ query =>
          intro text htext
          subst htext
          exact exists_ok_iff_toBool.mpr hspares
      | retype => exact hother
      | publish => exact hother
      | _ => trivial

theorem Move.queriesReadable (h : Move s t s' t') (ht : t.Founded s)
    (hs : QueriesReadable s.catalog s.defaults s.groups) :
    QueriesReadable s'.catalog s'.defaults s'.groups := by
  cases h with
  | refused => exact hs
  | checked => exact hs
  | accepted => exact hs
  | retyped => exact hs
  | stored name description query => exact hs.upsert name description ht
  | published => exact ht

end Task

/-! ### Many requests -/

/-- The state with the requests that are being carried out. -/
structure System where
  state : State
  tasks : List Task

namespace System

/-- One access of the request of a number. A schedule tells these numbers in order. -/
def turn (y : System) (n : Nat) : System :=
  match y.tasks[n]? with
  | some t => ⟨(t.step y.state).1, y.tasks.set n (t.step y.state).2⟩
  | none => y

def after (y : System) (schedule : List Nat) : System := schedule.foldl turn y

/-- Tells whether the next access of the request of a number spares all other requests. -/
def spares (y : System) (n : Nat) : Bool :=
  match y.tasks[n]? with
  | some t => (y.tasks.eraseIdx n).all (t.spares y.state)
  | none => true

/-- Tells whether each of the accesses spares the requests that are then carried out beside it. -/
def sparesAll (y : System) : List Nat → Bool
  | [] => true
  | n :: later => y.spares n && (y.turn n).sparesAll later

/-- What holds between any two accesses, for given raw records. -/
structure Sound (records : List InventoryRecord) (y : System) : Prop where
  queries_readable : QueriesReadable y.state.catalog y.state.defaults y.state.groups
  founded : ∀ t ∈ y.tasks, t.Founded y.state
  view_typed : ∃ view, y.state.engine = .inventory ⟨records, view⟩ ∧
    (∀ e, .publish e ∈ y.tasks → typeRecords (.extended e) .skip records = .ok view) ∧
    ((∀ e, .publish e ∉ y.tasks) → typeRecords y.state.catalog .skip records = .ok view)

variable {records : List InventoryRecord} {s s' : State} {t t' : Task} {tasks others : List Task}

theorem Sound.perm (h : Sound records ⟨s, tasks⟩) (hperm : tasks.Perm others) : Sound records ⟨s, others⟩ := by
  obtain ⟨hqueries, hfounded, view, hengine, hprepared, hcurrent⟩ := h
  refine ⟨hqueries, fun t ht => hfounded t (hperm.mem_iff.mpr ht), view, hengine, ?_, ?_⟩
  · exact fun e he => hprepared e (hperm.mem_iff.mpr he)
  · exact fun hnone => hcurrent fun e he => hnone e (hperm.mem_iff.mp he)

/-- An access that is no part of typing or publishing leaves the view typed as it was. -/
theorem viewTyped_of_same {view : List TypedRecord} {catalog : Catalog}
    (hprepared : ∀ e, .publish e ∈ t :: others → typeRecords (.extended e) .skip records = .ok view)
    (hcurrent : (∀ e, .publish e ∉ t :: others) → typeRecords catalog .skip records = .ok view)
    (ht : ∀ e, t ≠ .publish e) (ht' : ∀ e, t' ≠ .publish e) :
    (∀ e, .publish e ∈ t' :: others → typeRecords (.extended e) .skip records = .ok view) ∧
      ((∀ e, .publish e ∉ t' :: others) → typeRecords catalog .skip records = .ok view) := by
  have hsame : ∀ e, .publish e ∈ t' :: others ↔ .publish e ∈ t :: others := by
    intro e
    rw [List.mem_cons, List.mem_cons, or_iff_right (ht' e).symm, or_iff_right (ht e).symm]
  exact ⟨fun e he => hprepared e ((hsame e).mp he), fun hnone => hcurrent fun e he => hnone e ((hsame e).mpr he)⟩

theorem Sound.move (h : Sound records ⟨s, t :: others⟩) (hmove : t.Move s s' t')
    (hspares : ∀ other ∈ others, t.spares s other = true) : Sound records ⟨s', t' :: others⟩ := by
  obtain ⟨hqueries, hfounded, view, hengine, hprepared, hcurrent⟩ := h
  -- The request that moves takes effect by what it has checked, which the others have spared.
  have ht : t.Founded s := hfounded t List.mem_cons_self
  refine ⟨hmove.queriesReadable ht hqueries, ?_, ?_⟩
  · intro other hother
    rcases List.mem_cons.mp hother with rfl | hother
    · exact hmove.founded ht
    · exact hmove.founded_other (hfounded other (List.mem_cons_of_mem t hother)) (hspares other hother)
  · cases hmove with
    | refused reply hpublish => exact ⟨view, hengine, viewTyped_of_same hprepared hcurrent hpublish nofun⟩
    | checked => exact ⟨view, hengine, viewTyped_of_same hprepared hcurrent nofun nofun⟩
    | stored => exact ⟨view, hengine, viewTyped_of_same hprepared hcurrent nofun nofun⟩
    | accepted => exact ⟨view, hengine, viewTyped_of_same hprepared hcurrent nofun nofun⟩
    | retyped e engine hretyped =>
        simp only at hengine
        rw [hengine] at hretyped
        obtain ⟨view', rfl, hview'⟩ := retype_inventory_eq_ok_iff.mp hretyped
        refine ⟨view', rfl, fun e' he' => ?_, fun hnone => absurd List.mem_cons_self (hnone e)⟩
        rcases List.mem_cons.mp he' with heq | hother
        · cases heq
          exact hview'
        · exact absurd (hspares _ hother) Bool.false_ne_true
    | published e =>
        refine ⟨view, hengine, fun e' he' => ?_, fun _ => hprepared e List.mem_cons_self⟩
        have hother : .publish e' ∈ others := (List.mem_cons.mp he').resolve_left nofun
        exact hprepared e' (List.mem_cons_of_mem _ hother)

theorem turn_perm {y : System} {n : Nat} (hn : y.tasks[n]? = some t) :
    y.tasks.Perm (t :: y.tasks.eraseIdx n) ∧ (y.turn n).state = (t.step y.state).1 ∧
      (y.turn n).tasks.Perm ((t.step y.state).2 :: y.tasks.eraseIdx n) := by
  rw [turn, hn]
  obtain ⟨hlt, rfl⟩ := List.getElem?_eq_some_iff.mp hn
  exact ⟨(List.getElem_cons_eraseIdx_perm hlt).symm, rfl, List.set_perm_cons_eraseIdx hlt _⟩

theorem turn_of_none {y : System} {n : Nat} (hn : y.tasks[n]? = none) : y.turn n = y := by
  rw [turn, hn]

theorem Sound.turn {y : System} (h : Sound records y) {n : Nat} (hspares : y.spares n = true) :
    Sound records (y.turn n) := by
  unfold System.spares at hspares
  cases hn : y.tasks[n]? with
  | none => rwa [turn_of_none hn]
  | some t =>
      rw [hn] at hspares
      obtain ⟨hbefore, hstate, hafter⟩ := turn_perm hn
      have hmoved := (h.perm hbefore).move (Task.move_step y.state t) (List.all_eq_true.mp hspares)
      rw [← hstate] at hmoved
      exact hmoved.perm hafter.symm

theorem Sound.after {y : System} (h : Sound records y) {schedule : List Nat}
    (hspares : y.sparesAll schedule = true) : Sound records (y.after schedule) := by
  induction schedule generalizing y with
  | nil => exact h
  | cons n schedule ih =>
      obtain ⟨hfirst, hlater⟩ := Bool.and_eq_true_iff.mp hspares
      exact ih (h.turn hfirst) hlater

end System

/-! ### Requests at once -/

/-- Every stored query can be read under the published catalog, which also types the view of the inventory. -/
structure Fits (records : List InventoryRecord) (s : State) : Prop where
  queries_readable : QueriesReadable s.catalog s.defaults s.groups
  view_typed : ∃ view, s.engine = .inventory ⟨records, view⟩ ∧ typeRecords s.catalog .skip records = .ok view

theorem Consistent.fits {records : List InventoryRecord} {defaults : Defaults} {s : State}
    (h : Consistent records defaults s) : Fits records s where
  queries_readable := h.defaults_eq ▸ h.queries_readable
  view_typed := h.view_typed

namespace Task

def isAsked : Task → Bool
  | store _ _ => true
  | replace _ => true
  | _ => false

def isAnswered : Task → Bool
  | answered _ => true
  | _ => false

end Task

namespace System

variable {records : List InventoryRecord}

theorem sound_of_fits {s : State} {tasks : List Task} (h : Fits records s)
    (hasked : tasks.all Task.isAsked = true) : Sound records ⟨s, tasks⟩ := by
  rw [List.all_eq_true] at hasked
  obtain ⟨view, hengine, hview⟩ := h.view_typed
  refine ⟨h.queries_readable, fun t ht => ?_, view, hengine, fun e he => ?_, fun _ => hview⟩
  · have ht := hasked t ht
    cases t with
    | store => trivial
    | replace => trivial
    | _ => cases ht
  · cases hasked _ he

theorem Sound.fits {y : System} (h : Sound records y) (hanswered : y.tasks.all Task.isAnswered = true) :
    Fits records y.state := by
  rw [List.all_eq_true] at hanswered
  obtain ⟨view, hengine, _, hcurrent⟩ := h.view_typed
  exact ⟨h.queries_readable, view, hengine, hcurrent fun e he => by cases hanswered _ he⟩

/-- Requests that are spared leave the state fitting together once all of them are answered. -/
theorem fits_after {s : State} {tasks : List Task} {schedule : List Nat} (h : Fits records s)
    (hasked : tasks.all Task.isAsked = true) (hspares : (System.mk s tasks).sparesAll schedule = true)
    (hanswered : ((System.mk s tasks).after schedule).tasks.all Task.isAnswered = true) :
    Fits records ((System.mk s tasks).after schedule).state :=
  ((sound_of_fits h hasked).after hspares).fits hanswered

end System

/-! ### Requests that go together -/

namespace Task

/-- The query that a request is to store, and below the extensions that it is to publish. -/
def query? : Task → Option String
  | store _ input => if (Text.trim input.query).isEmpty then none else some (Text.trim input.query)
  | put _ _ query => query
  | _ => none

def extensions? : Task → Option Extensions
  | replace e => some e
  | retype e => some e
  | publish e => some e
  | _ => none

/-- The extensions of one request, if it has any, leave another request alone: that one has none, and its query
can be read under them. -/
def Admits (defaults : Defaults) (t other : Task) : Prop :=
  ∀ e ∈ t.extensions?, other.extensions? = none ∧
    ∀ query ∈ other.query?, (savedRequest (.extended e) defaults query).toBool = true

instance (defaults : Defaults) (t other : Task) : Decidable (t.Admits defaults other) :=
  inferInstanceAs (Decidable (∀ e ∈ t.extensions?, _ ∧ ∀ query ∈ other.query?, _))

/-- Two requests can be carried out at once in any order of accesses. -/
def Compatible (defaults : Defaults) (t other : Task) : Prop :=
  t.Admits defaults other ∧ other.Admits defaults t

instance (defaults : Defaults) (t other : Task) : Decidable (t.Compatible defaults other) :=
  inferInstanceAs (Decidable (_ ∧ _))

theorem Compatible.symm {defaults : Defaults} {t other : Task} (h : t.Compatible defaults other) :
    other.Compatible defaults t :=
  And.symm h

theorem query?_store {s : State} {rawName : String} {input : GroupInput} {query : Option String}
    (h : s.checkedQuery input = .ok query) : (store rawName input).query? = query := by
  unfold State.checkedQuery at h
  simp only at h
  rw [query?]
  split_ifs at h ⊢
  · cases h
    rfl
  · obtain ⟨_, _, rfl⟩ := map_eq_ok_iff.mp h
    rfl

/-- An access leaves a request with no other query or extensions than it had. -/
theorem query?_step (s : State) (t : Task) :
    (∀ query ∈ (t.step s).2.query?, query ∈ t.query?) ∧ ∀ e ∈ (t.step s).2.extensions?, e ∈ t.extensions? := by
  cases t with
  | store rawName input =>
      rw [step]
      split
      · exact ⟨nofun, nofun⟩
      · split
        · exact ⟨nofun, nofun⟩
        next hquery =>
          rw [query?_store hquery]
          exact ⟨fun _ htext => htext, nofun⟩
  | put => exact ⟨nofun, nofun⟩
  | replace e =>
      rw [step]
      split
      · exact ⟨nofun, nofun⟩
      · split
        · exact ⟨nofun, nofun⟩
        · split
          · exact ⟨nofun, fun _ he => he⟩
          · exact ⟨nofun, nofun⟩
  | retype e =>
      rw [step]
      split
      · exact ⟨nofun, nofun⟩
      · exact ⟨nofun, fun _ he => he⟩
  | publish e => exact ⟨nofun, nofun⟩
  | answered reply => exact ⟨nofun, nofun⟩

theorem Compatible.step {defaults : Defaults} {t other : Task} (h : t.Compatible defaults other) (s : State) :
    (t.step s).2.Compatible defaults other := by
  obtain ⟨hquery, hextensions⟩ := query?_step s t
  refine ⟨fun e he => h.1 e (hextensions e he), fun e he => ?_⟩
  obtain ⟨hnone, hreads⟩ := h.2 e he
  refine ⟨?_, fun query hmem => hreads query (hquery query hmem)⟩
  refine Option.eq_none_iff_forall_not_mem.mpr fun e' he' => ?_
  rw [Option.mem_def.mp (hextensions e' he')] at hnone
  cases hnone

theorem Compatible.spares {s : State} {t other : Task} (h : t.Compatible s.defaults other) :
    t.spares s other = true := by
  unfold Task.spares
  split
  · exact (h.2 _ rfl).2 _ rfl
  · exact (h.2 _ rfl).2 _ rfl
  · exact (h.1 _ rfl).2 _ rfl
  · cases (h.1 _ rfl).1
  · rfl

theorem Move.defaults_eq {s s' : State} {t t' : Task} (h : Move s t s' t') : s'.defaults = s.defaults := by
  cases h <;> rfl

end Task

namespace System

variable {y : System}

theorem spares_of_compatible (h : y.tasks.Pairwise (Task.Compatible y.state.defaults)) (n : Nat) :
    y.spares n = true := by
  unfold System.spares
  cases hn : y.tasks[n]? with
  | none => rfl
  | some t =>
      obtain ⟨hbefore, _, _⟩ := turn_perm hn
      obtain ⟨hothers, _⟩ := List.pairwise_cons.mp ((hbefore.pairwise_iff Task.Compatible.symm).mp h)
      exact List.all_eq_true.mpr fun other hother => (hothers other hother).spares

theorem compatible_turn (h : y.tasks.Pairwise (Task.Compatible y.state.defaults)) (n : Nat) :
    (y.turn n).tasks.Pairwise (Task.Compatible (y.turn n).state.defaults) := by
  cases hn : y.tasks[n]? with
  | none => rwa [turn_of_none hn]
  | some t =>
      obtain ⟨hbefore, hstate, hafter⟩ := turn_perm hn
      obtain ⟨hothers, hrest⟩ := List.pairwise_cons.mp ((hbefore.pairwise_iff Task.Compatible.symm).mp h)
      rw [hstate, (Task.move_step y.state t).defaults_eq, hafter.pairwise_iff Task.Compatible.symm]
      exact List.pairwise_cons.mpr ⟨fun other hother => (hothers other hother).step y.state, hrest⟩

theorem sparesAll_of_compatible (h : y.tasks.Pairwise (Task.Compatible y.state.defaults)) (schedule : List Nat) :
    y.sparesAll schedule = true := by
  induction schedule generalizing y with
  | nil => rfl
  | cons n schedule ih => exact Bool.and_eq_true_iff.mpr ⟨spares_of_compatible h n, ih (compatible_turn h n)⟩

end System

/-- Any number of requests that store groups and replace extensions leave the state fitting together as long as
none of their accesses undoes what another of them has checked. This never happens when they are compatible:
in whatever order these are carried out, they leave the state fitting together. -/
theorem requests_at_once_fit {records : List InventoryRecord} {s : State} {tasks : List Task}
    (h : Fits records s) (hasked : tasks.all Task.isAsked = true) :
    (∀ schedule, (System.mk s tasks).sparesAll schedule = true →
      let y := (System.mk s tasks).after schedule
      y.tasks.all Task.isAnswered = true → Fits records y.state) ∧
    (tasks.Pairwise (Task.Compatible s.defaults) → ∀ schedule,
      let y := (System.mk s tasks).after schedule
      y.tasks.all Task.isAnswered = true → Fits records y.state) := by
  constructor
  · intro schedule hspares y hanswered
    exact System.fits_after h hasked hspares hanswered
  · intro hcompatible schedule y hanswered
    exact System.fits_after h hasked (System.sparesAll_of_compatible hcompatible schedule) hanswered

def linuxGroup : Task := .store "Servers" ⟨none, "filter=OsName&search=Linux"⟩

/-- A query that every catalog reads may be stored at any time while the price is taken out. -/
theorem linuxGroup_stored_beside_rebuild :
    ∃ records, Fits records (priceData.state .builtin) ∧ ∀ schedule,
      let y := (System.mk (priceData.state .builtin) [linuxGroup, .replace .empty]).after schedule
      y.tasks.all Task.isAnswered = true → Fits records y.state := by
  obtain ⟨records, _, hstart⟩ := consistent_of_read read_priceFiles
  have hcompatible : [linuxGroup, .replace .empty].Pairwise
      (Task.Compatible (priceData.state .builtin).defaults) := by
    decide +kernel
  exact ⟨records, hstart.fits, (requests_at_once_fit hstart.fits rfl).2 hcompatible⟩

end InventorySearch.Service
