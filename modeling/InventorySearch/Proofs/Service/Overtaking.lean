import InventorySearch.Proofs.Service.Interleaving
import InventorySearch.Proofs.Service.Rebuild

/-! Requests that undo what each other have checked. A group stored beside a rebuild leaves the state fitting
together in every order of accesses exactly when the new catalog reads its query too. Two rebuilds that type
the inventory differently leave it typed by the wrong catalog in some order. -/

namespace InventorySearch.Service

variable {records : List InventoryRecord} {s : State} {e e' : Extensions}

namespace Task

theorem step_store {rawName name : String} {input : GroupInput} {query : Option String}
    (hname : groupName rawName = .ok name) (hquery : s.checkedQuery input = .ok query) :
    (store rawName input).step s =
      (s, put name (input.description.filter fun text => !Text.isBlankText text) query) := by
  simp only [step, hname, hquery]

theorem step_replace (h : Acceptable e s.defaults s.groups records) : (replace e).step s = (s, retype e) := by
  simp only [step, checkNames_eq_ok_iff.mpr h.names_given, h.defaults_known,
    invalidatedGroups_eq_nil_iff.mpr h.queries_readable]

theorem step_retype {view view' : List TypedRecord} (hengine : s.engine = .inventory ⟨records, view⟩)
    (hview : typeRecords (.extended e) .skip records = .ok view') :
    (retype e).step s = ({ s with engine := .inventory ⟨records, view'⟩ }, publish e) := by
  have hretyped : s.engine.retype (.extended e) = .ok (.inventory ⟨records, view'⟩) := by
    rw [hengine]
    exact retype_inventory_eq_ok_iff.mpr ⟨view', rfl, hview⟩
  simp only [step, hretyped]

end Task

namespace System

theorem turn_first (s : State) (t other : Task) :
    (System.mk s [t, other]).turn 0 = ⟨(t.step s).1, [(t.step s).2, other]⟩ :=
  rfl

theorem turn_second (s : State) (t other : Task) :
    (System.mk s [t, other]).turn 1 = ⟨(other.step s).1, [t, (other.step s).2]⟩ :=
  rfl

/-- A rebuild is carried out between the check of a group and its storing. -/
theorem after_overtaken_store {rawName name : String} {input : GroupInput} {query : Option String}
    {view view' : List TypedRecord} (hname : groupName rawName = .ok name)
    (hquery : s.checkedQuery input = .ok query) (hengine : s.engine = .inventory ⟨records, view⟩)
    (h : Acceptable e s.defaults s.groups records) (hview : typeRecords (.extended e) .skip records = .ok view') :
    ∃ description reply reply', (System.mk s [.store rawName input, .replace e]).after [0, 1, 1, 1, 0] =
      ⟨{ s with
          catalog := .extended e
          engine := .inventory ⟨records, view'⟩
          groups := s.groups.upsert name description query }, [.answered reply, .answered reply']⟩ := by
  simp only [after, List.foldl_cons, List.foldl_nil, turn_first, turn_second, Task.step_store hname hquery,
    Task.step_replace h, Task.step_retype hengine hview]
  exact ⟨_, _, _, rfl⟩

/-- Of two rebuilds the first types the inventory first, and is the last to publish its catalog. -/
theorem after_crossed_rebuilds {view first second : List TypedRecord}
    (hengine : s.engine = .inventory ⟨records, view⟩) (h : Acceptable e s.defaults s.groups records)
    (h' : Acceptable e' s.defaults s.groups records)
    (hfirst : typeRecords (.extended e) .skip records = .ok first)
    (hsecond : typeRecords (.extended e') .skip records = .ok second) :
    ∃ reply reply', (System.mk s [.replace e, .replace e']).after [0, 1, 0, 1, 1, 0] =
      ⟨{ s with catalog := .extended e, engine := .inventory ⟨records, second⟩ },
        [.answered reply, .answered reply']⟩ := by
  have hretyped : ({ s with engine := .inventory ⟨records, first⟩ } : State).engine = .inventory ⟨records, first⟩ :=
    rfl
  simp only [after, List.foldl_cons, List.foldl_nil, turn_first, turn_second, Task.step_replace h,
    Task.step_replace h', Task.step_retype hengine hfirst, Task.step_retype hretyped hsecond]
  exact ⟨_, _, rfl⟩

end System

section Misfits

variable {rawName name : String} {input : GroupInput} {query : Option String}

/-- A query that the catalog of an overtaking rebuild does not read is stored all the same. -/
theorem unreadable_after_overtaken_store (h : Fits records s) (hname : groupName rawName = .ok name)
    (hquery : s.checkedQuery input = .ok query) (hfit : Acceptable e s.defaults s.groups records) {text : String}
    (htext : query = some text) (hunread : ∀ request, savedRequest (.extended e) s.defaults text ≠ .ok request) :
    let y := (System.mk s [.store rawName input, .replace e]).after [0, 1, 1, 1, 0]
    y.tasks.all Task.isAnswered = true ∧ ¬QueriesReadable y.state.catalog y.state.defaults y.state.groups := by
  obtain ⟨view, hengine, _⟩ := h.view_typed
  obtain ⟨view', hview'⟩ := exists_typeRecords_skip_iff.mpr hfit.values_convert
  obtain ⟨description, reply, reply', hafter⟩ := System.after_overtaken_store hname hquery hengine hfit hview'
  intro y
  have hy : y = _ := hafter
  rw [hy]
  refine ⟨rfl, fun hreadable => ?_⟩
  have hget : (s.groups.upsert name description query).get? name =
      some (s.groups.replaced name description query) := by
    rw [GroupStore.get?_upsert, if_pos rfl]
  obtain ⟨request, hrequest⟩ := hreadable name _ text hget htext
  exact hunread request hrequest

/-- Of two crossed rebuilds that type the inventory differently one has typed it, and the other is published. -/
theorem mistyped_after_crossed_rebuilds (h : Fits records s) (hfit : Acceptable e s.defaults s.groups records)
    (hfit' : Acceptable e' s.defaults s.groups records)
    (hne : typeRecords (.extended e) .skip records ≠ typeRecords (.extended e') .skip records) :
    let y := (System.mk s [.replace e, .replace e']).after [0, 1, 0, 1, 1, 0]
    y.tasks.all Task.isAnswered = true ∧ ¬∃ view, y.state.engine = .inventory ⟨records, view⟩ ∧
      typeRecords y.state.catalog .skip records = .ok view := by
  obtain ⟨view, hengine, _⟩ := h.view_typed
  obtain ⟨first, hfirst⟩ := exists_typeRecords_skip_iff.mpr hfit.values_convert
  obtain ⟨second, hsecond⟩ := exists_typeRecords_skip_iff.mpr hfit'.values_convert
  obtain ⟨reply, reply', hafter⟩ := System.after_crossed_rebuilds hengine hfit hfit' hfirst hsecond
  intro y
  have hy : y = _ := hafter
  rw [hy]
  refine ⟨rfl, ?_⟩
  rintro ⟨last, hcrossed, hlast⟩
  cases hcrossed
  exact hne (hlast.trans hsecond.symm)

/-- Where a group and extensions could both be accepted on their own, carrying out both at once leaves the state
fitting together, in whatever order, exactly when the query of the group can be read under the extensions. -/
theorem store_beside_rebuild_fits_iff (h : Fits records s) (hname : groupName rawName = .ok name)
    (hquery : s.checkedQuery input = .ok query) (hfit : Acceptable e s.defaults s.groups records) :
    (∀ schedule, let y := (System.mk s [.store rawName input, .replace e]).after schedule
      y.tasks.all Task.isAnswered = true → Fits records y.state) ↔
      ∀ text, query = some text → ∃ request, savedRequest (.extended e) s.defaults text = .ok request := by
  constructor
  · intro hfits text htext
    by_contra hunread
    obtain ⟨hanswered, hmisfit⟩ :=
      unreadable_after_overtaken_store h hname hquery hfit htext (not_exists.mp hunread)
    exact hmisfit (hfits _ hanswered).queries_readable
  · intro hreads schedule y hanswered
    have hcompatible : [Task.store rawName input, .replace e].Pairwise (Task.Compatible s.defaults) := by
      refine List.pairwise_pair.mpr ⟨nofun, fun e' he' => ⟨rfl, fun text htext => ?_⟩⟩
      cases he'
      rw [Task.query?_store hquery] at htext
      exact exists_ok_iff_toBool.mp (hreads text htext)
    exact System.fits_after h rfl (System.sparesAll_of_compatible hcompatible schedule) hanswered

end Misfits

/-! ### A start with a price -/

/-- Tells whether a catalog types the view of the inventory. -/
def Engine.typedBy (catalog : Catalog) : Engine → Bool
  | inventory i => decide ((typeRecords catalog .skip i.records).toOption = some i.view)
  | _ => false

theorem Engine.typedBy_inventory {catalog : Catalog} {view : List TypedRecord}
    (h : typeRecords catalog .skip records = .ok view) : (inventory ⟨records, view⟩).typedBy catalog = true := by
  simp [typedBy, h, Except.toOption]

theorem Consistent.acceptable_of_status {defaults : Defaults} (h : Consistent records defaults s)
    (hstatus : (s.replaceExtensions e).reply.status = 200) : Acceptable e s.defaults s.groups records := by
  rcases h.replaceExtensions_cases e with ⟨hfit, _⟩ | ⟨_, hrefused⟩
  · rwa [h.defaults_eq]
  · rw [hstatus] at hrefused
    cases hrefused

theorem catalog_state (d : DataSet) (defaults : Defaults) :
    (d.state defaults).catalog = .extended d.extensions :=
  rfl

/-- A group of what costs less than two. -/
def cheapGroup : GroupInput := ⟨none, "filter=UserDefinedInfo.Price&operator=lt&search=2"⟩

theorem checkedQuery_cheapGroup :
    (priceData.state .builtin).checkedQuery cheapGroup = .ok (some cheapGroup.query) := by
  have htrim : Text.trim cheapGroup.query = cheapGroup.query := by decide +kernel
  have hsome : cheapGroup.query.isEmpty = false := by decide +kernel
  have hreads : (savedRequest (priceData.state .builtin).catalog (priceData.state .builtin).defaults
      cheapGroup.query).toBool = true := by
    decide +kernel
  obtain ⟨request, hrequest⟩ := exists_ok_iff_toBool.mpr hreads
  simp only [State.checkedQuery, htrim, hsome, hrequest]
  rfl

/-- The rebuilds of the price and without it pass all checks, and type the inventory differently. -/
theorem exists_price_rebuilds :
    ∃ records, Fits records (priceData.state .builtin) ∧
      Acceptable .empty (priceData.state .builtin).defaults (priceData.state .builtin).groups records ∧
      Acceptable priceData.extensions (priceData.state .builtin).defaults (priceData.state .builtin).groups
        records ∧
      typeRecords (.extended priceData.extensions) .skip records ≠ typeRecords (.extended .empty) .skip records := by
  obtain ⟨records, _, hstart⟩ := consistent_of_read read_priceFiles
  have hdropped : ((priceData.state .builtin).replaceExtensions .empty).reply.status = 200 := by decide +kernel
  have hkept : ((priceData.state .builtin).replaceExtensions priceData.extensions).reply.status = 200 := by
    decide +kernel
  refine ⟨records, hstart.fits, hstart.acceptable_of_status hdropped, hstart.acceptable_of_status hkept, ?_⟩
  obtain ⟨view, hengine, hview⟩ := hstart.view_typed
  have hcatalog := catalog_state priceData .builtin
  have hmixed : (priceData.state .builtin).engine.typedBy (.extended .empty) = false := by decide +kernel
  rw [hcatalog] at hview
  intro heq
  rw [hengine, Engine.typedBy_inventory (heq.symm.trans hview)] at hmixed
  cases hmixed

/-- Requests at once can be answered with a stored query left unreadable, or with the inventory typed by another
catalog than the published one. -/
theorem requests_at_once_can_misfit :
    ∃ records s, Fits records s ∧
      (∃ tasks schedule, tasks.all Task.isAsked = true ∧
        let y := (System.mk s tasks).after schedule
        y.tasks.all Task.isAnswered = true ∧ ¬QueriesReadable y.state.catalog y.state.defaults y.state.groups) ∧
      ∃ tasks schedule, tasks.all Task.isAsked = true ∧
        let y := (System.mk s tasks).after schedule
        y.tasks.all Task.isAnswered = true ∧ ¬∃ view, y.state.engine = .inventory ⟨records, view⟩ ∧
          typeRecords y.state.catalog .skip records = .ok view := by
  obtain ⟨records, hstart, hdropped, hkept, hne⟩ := exists_price_rebuilds
  have hname : groupName "Cheap" = .ok "Cheap" := groupName_eq_ok_iff.mpr ⟨by decide +kernel, by decide⟩
  have hunread : ∀ request, savedRequest (.extended .empty) (priceData.state .builtin).defaults
      cheapGroup.query ≠ .ok request := by
    have hrefused : (savedRequest (.extended .empty) (priceData.state .builtin).defaults
        cheapGroup.query).toBool = false := by
      decide +kernel
    intro request hrequest
    rw [hrequest] at hrefused
    cases hrefused
  have hstored := unreadable_after_overtaken_store hstart hname checkedQuery_cheapGroup hdropped rfl hunread
  have hcrossed := mistyped_after_crossed_rebuilds hstart hkept hdropped hne
  refine ⟨records, priceData.state .builtin, hstart, ⟨_, _, ?_, hstored⟩, _, _, ?_, hcrossed⟩
  · rfl
  · rfl

end InventorySearch.Service
