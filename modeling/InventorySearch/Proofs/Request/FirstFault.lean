import InventorySearch.Proofs.Request.Gap
import InventorySearch.Proofs.Request.Modes

/-! What a request is refused for. Reading a request makes a number of checks in a fixed order: five for each
criterion, criterion by criterion up to the first gap, and then those of the presentation that are strict. The
error is that of the first check that fails, and it names the parameter that this check is about. -/

namespace InventorySearch

/-! ### The fault of a computation -/

section Fault

variable {ε α β : Type}

/-- What a computation refuses its input for, if it does. -/
def faultOf : Except ε α → Option ε
  | .ok _ => none
  | .error e => some e

theorem faultOf_eq_some_iff {result : Except ε α} {e : ε} : faultOf result = some e ↔ result = .error e := by
  cases result <;> simp [faultOf]

theorem faultOf_eq_none {result : Except ε α} (h : ∃ a, result = .ok a) : faultOf result = none := by
  obtain ⟨a, rfl⟩ := h
  rfl

theorem faultOf_map (f : α → β) (result : Except ε α) : faultOf (result.map f) = faultOf result := by
  cases result <;> rfl

theorem faultOf_mapError {ε' : Type} (f : ε → ε') (result : Except ε α) :
    faultOf (result.mapError f) = (faultOf result).map f := by
  cases result <;> rfl

/-- Where the second step is at fault in one way only, whatever the first one gives, it does so behind the first. -/
theorem faultOf_bind {result : Except ε α} {next : α → Except ε β} {fault? : Option ε}
    (h : ∀ a, result = .ok a → faultOf (next a) = fault?) :
    faultOf (result >>= next) = (faultOf result).or fault? := by
  cases result with
  | error e => rfl
  | ok a => exact h a rfl

theorem faultOf_mapM_id (results : List (Except ε α)) : faultOf (results.mapM id) = results.findSome? faultOf := by
  induction results with
  | nil => rfl
  | cons result results ih =>
      rw [List.mapM_cons, List.findSome?_cons, ← ih]
      cases result with
      | error e => rfl
      | ok a => cases results.mapM id <;> rfl

end Fault

/-! ### Checks -/

/-- One check of a request: the parameter that it is about, and what is wrong with it, if anything. -/
structure Check where
  param : String
  fault? : Option SearchError

/-- What is wrong is told of the parameter that the check is about. -/
def Check.NamesParam (check : Check) : Prop := ∀ e, check.fault? = some e → e.param? = some check.param

theorem Check.namesParam_map {α : Type} {param : String} {wrong? : Option α} {fault : α → SearchError}
    (h : ∀ a, (fault a).param? = some param) : NamesParam ⟨param, wrong?.map fault⟩ := by
  intro e he
  obtain ⟨a, _, rfl⟩ := Option.map_eq_some_iff.mp he
  exact h a

/-- The fault of the first check that fails. -/
def firstFault? (checks : List Check) : Option SearchError := checks.findSome? (·.fault?)

theorem firstFault?_eq_some_iff {checks : List Check} {e : SearchError} :
    firstFault? checks = some e ↔ ∃ before check after, checks = before ++ check :: after ∧
      (∀ earlier ∈ before, earlier.fault? = none) ∧ check.fault? = some e := by
  rw [firstFault?, List.findSome?_eq_some_iff]
  simp only [and_comm]

theorem firstFault?_cons (check : Check) (checks : List Check) :
    firstFault? (check :: checks) = check.fault?.or (firstFault? checks) := by
  rw [firstFault?, List.findSome?_cons]
  cases check.fault? <;> rfl

theorem firstFault?_append (checks more : List Check) :
    firstFault? (checks ++ more) = (firstFault? checks).or (firstFault? more) :=
  List.findSome?_append

theorem firstFault?_flatMap {α : Type} (checks : α → List Check) (items : List α) :
    firstFault? (items.flatMap checks) = items.findSome? fun a => firstFault? (checks a) := by
  induction items with
  | nil => rfl
  | cons a items ih =>
      rw [List.flatMap_cons, firstFault?_append, ih, List.findSome?_cons]
      cases firstFault? (checks a) <;> rfl

theorem findSome?_filterMap {α β γ : Type} (f : α → Option β) (g : β → Option γ) (items : List α) :
    (items.filterMap f).findSome? g = items.findSome? fun a => (f a).bind g := by
  induction items with
  | nil => rfl
  | cons a items ih =>
      rw [List.filterMap_cons, List.findSome?_cons]
      cases f a with
      | none => exact ih
      | some b => rw [List.findSome?_cons, ih, Option.bind_some]

def flagWords : List String := ["1", "true", "on", "yes", "", "0", "false", "off", "no"]

/-- What applies to a part of the presentation only where it is read strictly. -/
def Mode.strictly {α : Type} : Mode → List α → List α
  | .strict, items => items
  | .lenient, _ => []

theorem Mode.map_strictly {α β : Type} (mode : Mode) (f : α → β) (items : List α) :
    (mode.strictly items).map f = mode.strictly (items.map f) := by
  cases mode <;> rfl

theorem Mode.mem_of_mem_strictly {α : Type} {mode : Mode} {items : List α} {a : α} (h : a ∈ mode.strictly items) :
    a ∈ items := by
  cases mode with
  | strict => exact h
  | lenient => exact absurd h List.not_mem_nil

namespace Params

variable (p : Params) (catalog : Catalog)

/-- The operator that a criterion asks for, if there is one of that code. -/
def askedOperator? (names : CriterionParams) : Option Operator :=
  match p.nonEmpty? names.operator with
  | none => some .eq
  | some raw => ofCode? (Text.asciiLower (Text.trim raw))

/-- A text that is to pick from a list of codes and does not. -/
def unknownCode? (α : Type) [Choice α] (name : String) : Option String :=
  (p.nonEmpty? name).filter fun raw => (ofCode? (Text.asciiLower (Text.trim raw)) : Option α).isNone

/-- The checks of one criterion: the code of the operator, the flag, the key, the operator against the type of the
key, and the value. -/
def criterionChecks (names : CriterionParams) (filter : String) : List Check :=
  let key := resolveKey catalog filter
  let search := (p.first? names.search).getD ""
  let unknownFlag? := (p.first? names.invert).filter fun raw => !flagWords.contains (Text.asciiLower (Text.trim raw))
  let misfit? := do
    let operator ← p.askedOperator? names
    let valueType ← catalog.typeOf? key
    if operator.allowedFor valueType then none else some (operator, valueType)
  let unreadable? := (catalog.typeOf? key).bind fun valueType => faultOf (TypedValue.read valueType search)
  [⟨names.operator, (p.unknownCode? Operator names.operator).map (.unknownOperator names.operator)⟩,
    ⟨names.invert, unknownFlag?.map fun raw => .invalidValue names.invert raw "expected a boolean flag"⟩,
    ⟨names.filter, (if catalog.contains key then none else some filter).map (.unknownFilter names.filter)⟩,
    ⟨names.operator, misfit?.map fun pair => .operatorNotAllowed names.operator key pair.1 pair.2⟩,
    ⟨names.search, unreadable?.map (.invalidValue names.search search)⟩]

/-- The checks of what is given under a suffix, none without a filter. -/
def checksAt (suffix : String) : List Check :=
  (p.nonEmpty? ("filter" ++ suffix)).elim [] (p.criterionChecks catalog (.suffixed suffix))

/-- The checks of all criteria, when the first gap is at a given number. -/
def criteriaChecks (gap : Nat) : List Check :=
  if (p.nonEmpty? "filter").isSome then p.checksAt catalog ""
  else (List.range' 1 (gap - 1)).flatMap fun k => p.checksAt catalog (toString k)

/-- The checks of the chosen columns: all of them are known, and there is one. -/
def columnsChecks : List Check :=
  let unknown? := (p.nonEmpty? "columns").bind fun raw =>
    (Text.commaList raw).find? fun column => !catalog.contains column
  let empty? := (p.nonEmpty? "columns").filter fun raw => (Text.commaList raw).isEmpty
  [⟨"columns", unknown?.map (.unknownColumn "columns")⟩,
    ⟨"columns", empty?.map fun raw => .invalidValue "columns" raw "no columns selected"⟩]

def orderCheck : Check where
  param := "order"
  fault? := ((p.nonEmpty? "order").filter fun order => !catalog.contains order).map (.unknownColumn "order")

/-- The check of a text that is to pick from a list of codes. -/
def choiceCheck (α : Type) [Choice α] (name : String) (reason : String → String) : Check where
  param := name
  fault? := (p.unknownCode? α name).map fun raw => .invalidValue name raw (reason raw)

def directionCheck : Check := p.choiceCheck SortDirection "direction" fun _ => "expected asc or desc"

def tabCheck : Check := p.choiceCheck DetailTab "jumpto" fun raw => "Invalid jump target: " ++ raw

/-- The checks that are made of a request, in their order. -/
def requestChecks (modes : Modes) (gap : Nat) : List Check :=
  p.criteriaChecks catalog gap ++ (modes.columns.strictly (p.columnsChecks catalog) ++
    (modes.order.strictly [p.orderCheck catalog, p.directionCheck] ++ modes.detailTab.strictly [p.tabCheck]))

/-! ### The parameters that checks are about -/

/-- The parameters that the checks of one criterion are about. -/
def checkedNames (suffix : String) : List String :=
  ["operator" ++ suffix, "invert" ++ suffix, "filter" ++ suffix, "operator" ++ suffix, "search" ++ suffix]

/-- The parameters that the checks of a request are about. -/
def checkedParams (modes : Modes) (gap : Nat) : List String :=
  (if (p.nonEmpty? "filter").isSome then checkedNames ""
    else (List.range' 1 (gap - 1)).flatMap fun k => checkedNames (toString k)) ++
    (modes.columns.strictly ["columns", "columns"] ++
      (modes.order.strictly ["order", "direction"] ++ modes.detailTab.strictly ["jumpto"]))

variable {p} in
theorem map_param_checksAt {suffix : String} (h : (p.nonEmpty? ("filter" ++ suffix)).isSome) :
    (p.checksAt catalog suffix).map (·.param) = checkedNames suffix := by
  obtain ⟨filter, hfilter⟩ := Option.isSome_iff_exists.mp h
  rw [checksAt, hfilter]
  rfl

variable {p} in
theorem IsGap.map_param_requestChecks {n : Nat} (hgap : p.IsGap n) (modes : Modes) :
    (p.requestChecks catalog modes n).map (·.param) = p.checkedParams modes n := by
  simp only [requestChecks, checkedParams, List.map_append, Mode.map_strictly]
  congr 1
  rw [criteriaChecks]
  split_ifs with hsingular
  · exact map_param_checksAt catalog hsingular
  · rw [List.map_flatMap]
    exact List.flatMap_congr fun k hk => map_param_checksAt catalog ((isGap_iff.mp hgap).2.2 k hk)

/-- No parameter that is checked has a name that begins with the letter q. -/
theorem head?_ne_of_mem_checkedParams {modes : Modes} {gap : Nat} :
    ∀ name ∈ p.checkedParams modes gap, name.toList.head? ≠ some 'q' := by
  have hcriterion : ∀ suffix, ∀ name ∈ checkedNames suffix, name.toList.head? ≠ some 'q' := by
    intro suffix
    simp [checkedNames]
  have hpresentation : ∀ name ∈ ["columns", "columns"] ++ (["order", "direction"] ++ ["jumpto"]),
      name.toList.head? ≠ some 'q' := by
    decide
  intro name hname
  rcases List.mem_append.mp hname with hname | hname
  · split_ifs at hname
    · exact hcriterion "" name hname
    · obtain ⟨k, _, hk⟩ := List.mem_flatMap.mp hname
      exact hcriterion (toString k) name hk
  · refine hpresentation name ?_
    simp only [List.mem_append] at hname ⊢
    exact hname.imp Mode.mem_of_mem_strictly (Or.imp Mode.mem_of_mem_strictly Mode.mem_of_mem_strictly)

/-! ### What is told of a fault -/

section NamesParam

variable {p catalog}

theorem namesParam_of_mem_checksAt {suffix : String} : ∀ check ∈ p.checksAt catalog suffix, check.NamesParam := by
  rw [checksAt]
  cases p.nonEmpty? ("filter" ++ suffix) with
  | none => exact fun check hcheck => absurd hcheck List.not_mem_nil
  | some filter =>
      simp only [Option.elim_some, criterionChecks, List.forall_mem_cons]
      refine ⟨?_, ?_, ?_, ?_, ?_, fun check hcheck => absurd hcheck List.not_mem_nil⟩ <;>
        exact Check.namesParam_map fun _ => rfl

theorem namesParam_of_mem_presentation :
    ∀ check ∈ p.columnsChecks catalog ++ [p.orderCheck catalog, p.directionCheck, p.tabCheck], check.NamesParam := by
  simp only [columnsChecks, List.cons_append, List.nil_append, List.forall_mem_cons]
  refine ⟨?_, ?_, ?_, ?_, ?_, fun check hcheck => absurd hcheck List.not_mem_nil⟩ <;>
    exact Check.namesParam_map fun _ => rfl

/-- Whatever check fails, its parameter is the one that the error names. -/
theorem namesParam_of_mem_requestChecks {modes : Modes} {gap : Nat} :
    ∀ check ∈ p.requestChecks catalog modes gap, check.NamesParam := by
  intro check hcheck
  rcases List.mem_append.mp hcheck with hcriteria | hpresentation
  · rw [criteriaChecks] at hcriteria
    split_ifs at hcriteria
    · exact namesParam_of_mem_checksAt check hcriteria
    · obtain ⟨k, _, hk⟩ := List.mem_flatMap.mp hcriteria
      exact namesParam_of_mem_checksAt check hk
  · have hmem : check ∈ p.columnsChecks catalog ++ [p.orderCheck catalog, p.directionCheck, p.tabCheck] := by
      simp only [List.mem_append] at hpresentation
      rcases hpresentation with hcolumns | horder | htab
      · exact List.mem_append_left _ (Mode.mem_of_mem_strictly hcolumns)
      · have hpair := Mode.mem_of_mem_strictly horder
        simp only [List.mem_cons, List.not_mem_nil, or_false] at hpair
        rcases hpair with rfl | rfl <;> simp
      · cases List.mem_singleton.mp (Mode.mem_of_mem_strictly htab)
        simp
    exact namesParam_of_mem_presentation check hmem

end NamesParam

/-! ### What the checks find -/

variable {p catalog} {names : CriterionParams} {filter : String}

theorem faultOf_readOperator :
    faultOf (readOperator (p.nonEmpty? names.operator) names.operator) =
      (p.unknownCode? Operator names.operator).map (.unknownOperator names.operator) := by
  rw [unknownCode?, readOperator.eq_def]
  cases p.nonEmpty? names.operator with
  | none => rfl
  | some raw =>
      simp only [pick, Option.filter_some]
      cases (ofCode? (Text.asciiLower (Text.trim raw)) : Option Operator) <;> rfl

theorem askedOperator?_of_readOperator {operator : Operator}
    (h : readOperator (p.nonEmpty? names.operator) names.operator = .ok operator) :
    p.askedOperator? names = some operator := by
  rw [askedOperator?]
  cases hraw : p.nonEmpty? names.operator with
  | none =>
      rw [hraw] at h
      cases h
      rfl
  | some raw =>
      rw [hraw, readOperator, mapError_eq_ok_iff, pick] at h
      cases hcode : (ofCode? (Text.asciiLower (Text.trim raw)) : Option Operator) with
      | none =>
          rw [hcode] at h
          cases h
      | some asked =>
          rw [hcode] at h
          cases h
          exact hcode

theorem faultOf_readFlag :
    faultOf (readFlag (p.first? names.invert) names.invert) =
      ((p.first? names.invert).filter fun raw => !flagWords.contains (Text.asciiLower (Text.trim raw))).map
        fun raw => .invalidValue names.invert raw "expected a boolean flag" := by
  have hwords : flagWords = ["1", "true", "on", "yes"] ++ ["", "0", "false", "off", "no"] := rfl
  cases p.first? names.invert with
  | none => rfl
  | some raw =>
      rw [Option.filter_some, hwords, List.contains_append, readFlag]
      cases ["1", "true", "on", "yes"].contains (Text.asciiLower (Text.trim raw)) with
      | true => rfl
      | false =>
          cases ["", "0", "false", "off", "no"].contains (Text.asciiLower (Text.trim raw)) <;> rfl

/-- The last three checks of a criterion are those of building it. -/
theorem faultOf_build {operator : Operator} (h : p.askedOperator? names = some operator) (invert : Bool) :
    faultOf (Criterion.build catalog (resolveKey catalog filter) operator ((p.first? names.search).getD "") invert
      names) = firstFault? ((p.criterionChecks catalog names filter).drop 2) := by
  have hknown := catalog.contains_eq_isSome (resolveKey catalog filter)
  unfold Criterion.build criterionChecks
  simp only [List.drop_succ_cons, List.drop_zero, firstFault?_cons, h, hknown]
  cases htype : catalog.typeOf? (resolveKey catalog filter) with
  | none =>
      have hself : resolveKey catalog filter = filter :=
        (resolveKey_eq_self_or_contains catalog filter).resolve_right (by simp [hknown, htype])
      rw [hself]
      rfl
  | some valueType =>
      cases hallowed : operator.allowedFor valueType with
      | false => simp [faultOf, hallowed]
      | true => simp [hallowed, firstFault?, TypedValue.parse, faultOf_map, faultOf_mapError]

theorem faultOf_criterion :
    faultOf (p.criterion catalog names filter) = firstFault? (p.criterionChecks catalog names filter) := by
  rw [criterion, faultOf_bind fun operator hoperator => faultOf_bind fun invert _ =>
    faultOf_build (askedOperator?_of_readOperator hoperator) invert, faultOf_readOperator, faultOf_readFlag,
    criterionChecks]
  simp only [firstFault?_cons, List.drop_succ_cons, List.drop_zero]

theorem faultOf_read? (suffix : String) :
    (p.read? catalog suffix).bind faultOf = firstFault? (p.checksAt catalog suffix) := by
  rw [read?, checksAt]
  cases p.nonEmpty? ("filter" ++ suffix) with
  | none => rfl
  | some filter => exact faultOf_criterion

/-- Criteria are refused for the first check of one of them that fails, in front of the gap. -/
theorem IsGap.faultOf_criteria {n : Nat} (hgap : p.IsGap n) :
    faultOf (p.criteria catalog) = firstFault? (p.criteriaChecks catalog n) := by
  have hread : (p.read? catalog "").bind faultOf = firstFault? (p.checksAt catalog "") := faultOf_read? ""
  unfold criteriaChecks
  cases hsingular : p.read? catalog "" with
  | some result =>
      have hgiven : (p.nonEmpty? "filter").isSome := by
        have hsome := congrArg Option.isSome hsingular
        rwa [read?, Option.isSome_map] at hsome
      rw [if_pos hgiven, ← hread, criteria_of_singular hsingular, faultOf_map, hsingular, Option.bind_some]
  | none =>
      have hmissing : p.nonEmpty? "filter" = none := Option.map_eq_none_iff.mp hsingular
      rw [hmissing, if_neg (by simp), hgap.criteria_eq hsingular, faultOf_mapM_id, findSome?_filterMap,
        firstFault?_flatMap]
      congr 1
      funext k
      exact faultOf_read? (toString k)

/-! ### The presentation -/

variable {defaults : Defaults} {mode : Mode}

theorem knownColumns_strict (columns : List String) :
    knownColumns catalog .strict columns =
      match columns.find? fun column => !catalog.contains column with
      | some column => .error (.unknownColumn "columns" column)
      | none => .ok columns := by
  unfold knownColumns
  cases hunknown : columns.find? fun column => !catalog.contains column with
  | some column => rfl
  | none => exact congrArg _ (List.filter_eq_self.mpr (find?_unknown_eq_none_iff.mp hunknown))

theorem faultOf_baseColumns :
    faultOf (p.baseColumns catalog defaults mode) = firstFault? (mode.strictly (p.columnsChecks catalog)) := by
  cases mode with
  | lenient => exact faultOf_eq_none (p.exists_baseColumns_lenient catalog defaults)
  | strict =>
      rw [baseColumns.eq_def, Mode.strictly, columnsChecks]
      cases p.nonEmpty? "columns" with
      | none => rfl
      | some raw =>
          simp only [knownColumns_strict, firstFault?_cons, Option.bind_some, Option.filter_some]
          cases (Text.commaList raw).find? fun column => !catalog.contains column with
          | some column => rfl
          | none =>
              cases Text.commaList raw with
              | nil => rfl
              | cons column columns =>
                  have hlist : withoutRepeats (column :: columns) =
                      column :: (columns.filter fun other => !other == column).eraseDups := by
                    rw [withoutRepeats_eq, List.eraseDups_cons]
                  simp only [bind, Except.bind, hlist]
                  rfl

theorem faultOf_order :
    faultOf (p.order catalog defaults mode) = firstFault? (mode.strictly [p.orderCheck catalog]) := by
  cases mode with
  | lenient => exact faultOf_eq_none (p.exists_order_lenient catalog defaults)
  | strict =>
      rw [Params.order, Mode.strictly, orderCheck, firstFault?_cons]
      cases p.nonEmpty? "order" with
      | none => rfl
      | some order => cases h : catalog.contains order <;> simp [h, faultOf, firstFault?]

theorem faultOf_choice {α : Type} [Choice α] {name : String} {unset : α} {reason : CodeError → String} :
    faultOf (p.choice name mode unset reason) =
      firstFault? (mode.strictly [p.choiceCheck α name fun raw => reason ⟨Choice.kind α, raw⟩]) := by
  cases mode with
  | lenient => exact faultOf_eq_none (p.exists_choice_lenient name unset reason)
  | strict =>
      rw [choice.eq_def, Mode.strictly, firstFault?_cons, choiceCheck, unknownCode?]
      cases p.nonEmpty? name with
      | none => rfl
      | some raw =>
          simp only [pick, Option.filter_some]
          cases (ofCode? (Text.asciiLower (Text.trim raw)) : Option α) <;> rfl

/-- A request is refused for the first of its checks that fails. -/
theorem IsGap.faultOf_request {n : Nat} (hgap : p.IsGap n) {modes : Modes} :
    faultOf (p.request catalog defaults modes) = firstFault? (p.requestChecks catalog modes n) := by
  have hdirection : faultOf (p.direction defaults modes.order) =
      firstFault? (modes.order.strictly [p.directionCheck]) :=
    faultOf_choice
  have htab : faultOf (p.detailTab defaults modes.detailTab) = firstFault? (modes.detailTab.strictly [p.tabCheck]) :=
    faultOf_choice
  -- What is at fault in a later part does not depend on what the earlier ones are read as.
  have hparts : faultOf (p.request catalog defaults modes) =
      (faultOf (p.criteria catalog)).or ((faultOf (p.baseColumns catalog defaults modes.columns)).or
        ((faultOf (p.order catalog defaults modes.order)).or ((faultOf (p.direction defaults modes.order)).or
          ((faultOf (p.detailTab defaults modes.detailTab)).or none)))) :=
    faultOf_bind fun _ _ => faultOf_bind fun _ _ => faultOf_bind fun _ _ => faultOf_bind fun _ _ =>
      faultOf_bind fun _ _ => rfl
  have horder : modes.order.strictly [p.orderCheck catalog, p.directionCheck] =
      modes.order.strictly [p.orderCheck catalog] ++ modes.order.strictly [p.directionCheck] := by
    cases modes.order <;> rfl
  rw [hparts, hgap.faultOf_criteria, faultOf_baseColumns, faultOf_order, hdirection, htab, requestChecks, horder]
  simp only [firstFault?_append, Option.or_assoc, Option.or_none]

end Params

end InventorySearch
