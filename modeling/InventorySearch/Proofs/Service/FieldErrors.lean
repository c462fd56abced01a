import InventorySearch.Proofs.Request.FirstFault
import InventorySearch.Proofs.Service.Redirect

/-! What the search form tells of a request that is refused: one error, at the field that the first failing check is
about. -/

namespace InventorySearch.Service

theorem FieldError.ofSearch_of_param? {e : SearchError} {param : String} (h : e.param? = some param) :
    FieldError.ofSearch e = ⟨param, e.message⟩ := by
  rw [ofSearch, h, Option.getD_some]

/-- A request is refused exactly when one of its checks fails, and for the first one that does. In their order these
are the checks of the criteria, one criterion after another up to the first gap, then of the columns, the sort column,
the direction and the tab, each where it is read strictly. A check that fails gives an error that names its parameter
and is never about an encoding, so that the form shows it at this parameter and never at the query as a whole. -/
theorem refused_for_first_fault (p : Params) (catalog : Catalog) (defaults : Defaults) (modes : Modes) :
    (∃ n, p.IsGap n) ∧ ∀ n, p.IsGap n →
      let checks := p.requestChecks catalog modes n
      checks.map (·.param) = p.checkedParams modes n ∧
        (∀ e, p.request catalog defaults modes = .error e ↔
          ∃ before check after, checks = before ++ check :: after ∧
            (∀ earlier ∈ before, earlier.fault? = none) ∧ check.fault? = some e) ∧
        ∀ check ∈ checks, ∀ e, check.fault? = some e →
          e.param? = some check.param ∧ (∀ reason, e ≠ .invalidEncoding reason) ∧ check.param ≠ "query" ∧
            (p.request catalog defaults modes = .error e →
              (formToJson catalog p (p.request catalog defaults modes)).get? "errors" =
                some (.array [FieldError.toJson ⟨check.param, e.message⟩])) := by
  refine ⟨p.exists_isGap, fun n hgap => ⟨hgap.map_param_requestChecks catalog modes, fun e => ?first, ?names⟩⟩
  case first => rw [← faultOf_eq_some_iff, hgap.faultOf_request, firstFault?_eq_some_iff]
  case names =>
    intro check hcheck e hfault
    have hparam : e.param? = some check.param := Params.namesParam_of_mem_requestChecks check hcheck e hfault
    have hchecked : check.param ∈ p.checkedParams modes n := by
      rw [← hgap.map_param_requestChecks catalog modes]
      exact List.mem_map_of_mem hcheck
    refine ⟨hparam, ?encoding, ?query, fun hrefused => ?form⟩
    case encoding =>
      rintro reason rfl
      cases hparam
    case query =>
      intro hquery
      exact Params.head?_ne_of_mem_checkedParams p _ hchecked (by rw [hquery]; decide)
    case form =>
      rw [hrefused, (get?_formToJson_of_error catalog p e).1, FieldError.ofSearch_of_param? hparam]

/-- A request with five faults, one of them in a parameter that is submitted first but checked last. -/
def fiveFaults : Params where
  pairs :=
    [("order", "Nothing"), ("filter1", "Name"), ("search1", "a"), ("search2", "fast"), ("filter2", "CpuClock"),
      ("operator2", "like"), ("invert2", "maybe"), ("columns", "Nothing")]

theorem fiveFaults_refused_for_first :
    let e : SearchError := .invalidValue "invert2" "maybe" "expected a boolean flag"
    let refused := fiveFaults.request .builtin .builtin .strict
    fiveFaults.IsGap 3 ∧
      ((fiveFaults.requestChecks .builtin .strict 3).filter (·.fault?.isSome)).map (·.param) =
        ["invert2", "operator2", "search2", "columns", "order"] ∧
      refused = .error e ∧
      (formToJson .builtin fiveFaults refused).get? "errors" =
        some (.array [FieldError.toJson ⟨"invert2", e.message⟩]) := by
  intro e refused
  have hgap : fiveFaults.IsGap 3 := Params.isGap_iff.mpr (by decide)
  have hrefused : refused = .error e := by decide +kernel
  obtain ⟨_, hall⟩ := refused_for_first_fault fiveFaults .builtin .builtin .strict
  obtain ⟨_, hfirst, hnames⟩ := hall 3 hgap
  obtain ⟨before, check, after, hchecks, _, hfault⟩ := (hfirst e).mp hrefused
  have hcheck : check ∈ fiveFaults.requestChecks .builtin .strict 3 := by
    rw [hchecks]
    exact List.mem_append_right before List.mem_cons_self
  obtain ⟨hparam, _, _, hform⟩ := hnames check hcheck e hfault
  have hinvert : "invert2" = check.param := Option.some.inj hparam
  exact ⟨hgap, by decide +kernel, hrefused, hinvert ▸ hform hrefused⟩

end InventorySearch.Service
