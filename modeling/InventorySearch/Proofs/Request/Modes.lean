import InventorySearch.Proofs.Request.WellFormed

/-! What the modes of reading a request decide. Read leniently, no part of the presentation is ever at fault, so
that a request is refused exactly when its criteria are, and for the same reason. What is read strictly is read
leniently just the same: a fault is all that a lenient mode makes up for. -/

namespace InventorySearch

/-- A mode is relaxed when it stays as it is or becomes lenient. -/
def Mode.RelaxesTo (mode relaxed : Mode) : Prop := relaxed = mode ∨ relaxed = .lenient

/-- Modes are relaxed part by part. -/
structure Modes.RelaxesTo (modes relaxed : Modes) : Prop where
  columns : modes.columns.RelaxesTo relaxed.columns
  order : modes.order.RelaxesTo relaxed.order
  detailTab : modes.detailTab.RelaxesTo relaxed.detailTab

/-- What is read in a mode is read in a relaxed one when it is read leniently once it is read strictly. -/
theorem Mode.RelaxesTo.eq_ok {α : Type} {mode relaxed : Mode} (h : mode.RelaxesTo relaxed)
    (part : Mode → Except SearchError α) {a : α} (hlenient : part .strict = .ok a → part .lenient = .ok a)
    (hmode : part mode = .ok a) : part relaxed = .ok a := by
  rcases h with rfl | rfl
  · exact hmode
  · cases mode with
    | strict => exact hlenient hmode
    | lenient => exact hmode

namespace Params

variable (p : Params) (catalog : Catalog) (defaults : Defaults)

theorem exists_baseColumns_lenient : ∃ base, p.baseColumns catalog defaults .lenient = .ok base := by
  unfold baseColumns
  split
  · exact ⟨_, rfl⟩
  next raw _ =>
    have hknown : knownColumns catalog .lenient (Text.commaList raw) =
        .ok ((Text.commaList raw).filter catalog.contains) := rfl
    cases hcolumns : withoutRepeats ((Text.commaList raw).filter catalog.contains) with
    | nil => exact ⟨_, bind_eq_ok_iff.mpr ⟨_, hknown, by rw [hcolumns]⟩⟩
    | cons column columns => exact ⟨_, bind_eq_ok_iff.mpr ⟨_, hknown, by rw [hcolumns]⟩⟩

theorem exists_order_lenient : ∃ order, p.order catalog defaults .lenient = .ok order := by
  unfold Params.order
  split
  · exact ⟨_, rfl⟩
  · split <;> exact ⟨_, rfl⟩

theorem exists_choice_lenient {α : Type} [Choice α] (name : String) (unset : α) (reason : CodeError → String) :
    ∃ a, p.choice name .lenient unset reason = .ok a := by
  unfold choice
  split
  · exact ⟨_, rfl⟩
  next raw _ => cases pick (α := α) raw <;> exact ⟨_, rfl⟩

/-- Read leniently, a request is refused for what is wrong with its criteria and for nothing else. -/
theorem request_lenient_eq_error_iff {e : SearchError} :
    p.request catalog defaults .lenient = .error e ↔ p.criteria catalog = .error e := by
  cases hcriteria : p.criteria catalog with
  | error e' =>
      have hrefused : p.request catalog defaults .lenient = .error e' := by
        unfold Params.request
        rw [hcriteria]
        rfl
      simp only [hrefused, Except.error.injEq]
  | ok criteria =>
      obtain ⟨base, hbase⟩ := p.exists_baseColumns_lenient catalog defaults
      obtain ⟨order, horder⟩ := p.exists_order_lenient catalog defaults
      obtain ⟨direction, hdirection⟩ :=
        p.exists_choice_lenient "direction" defaults.direction fun _ => "expected asc or desc"
      obtain ⟨tab, htab⟩ := p.exists_choice_lenient "jumpto" defaults.detailTab CodeError.message
      have hread : p.request catalog defaults .lenient = .ok
          ⟨criteria, selectColumns base criteria, order, direction, p.contains "distinct",
            p.contains "customSearch", tab⟩ :=
        request_eq_ok_iff.mpr ⟨hcriteria, ⟨base, hbase, rfl⟩, horder, hdirection, htab, rfl, rfl⟩
      rw [hread]
      simp

/-! ### Relaxed modes -/

variable {p catalog defaults}

theorem knownColumns_lenient_of_strict {columns known : List String}
    (h : knownColumns catalog .strict columns = .ok known) : knownColumns catalog .lenient columns = .ok known := by
  unfold knownColumns at h
  cases hunknown : columns.find? fun column => !catalog.contains column with
  | some column =>
      rw [hunknown] at h
      cases h
  | none =>
      rw [hunknown] at h
      exact h

theorem baseColumns_lenient_of_strict {base : List String} (h : p.baseColumns catalog defaults .strict = .ok base) :
    p.baseColumns catalog defaults .lenient = .ok base := by
  unfold baseColumns at h ⊢
  split at h
  · exact h
  next raw _ =>
    obtain ⟨columns, hcolumns, hchosen⟩ := bind_eq_ok_iff.mp h
    refine bind_eq_ok_iff.mpr ⟨columns, knownColumns_lenient_of_strict hcolumns, ?_⟩
    cases hlist : withoutRepeats columns with
    | nil =>
        rw [hlist] at hchosen
        cases hchosen
    | cons first rest =>
        rw [hlist] at hchosen
        exact hchosen

theorem order_lenient_of_strict {order : String} (h : p.order catalog defaults .strict = .ok order) :
    p.order catalog defaults .lenient = .ok order := by
  unfold Params.order at h ⊢
  split at h
  · exact h
  · split_ifs at h ⊢
    exact h

theorem choice_lenient_of_strict {α : Type} [Choice α] {name : String} {unset a : α} {reason : CodeError → String}
    (h : p.choice name .strict unset reason = .ok a) : p.choice name .lenient unset reason = .ok a := by
  unfold choice at h ⊢
  split at h
  · exact h
  next raw _ =>
    cases hpick : pick (α := α) raw with
    | ok picked =>
        rw [hpick] at h
        exact h
    | error e =>
        rw [hpick] at h
        cases h

/-- A request that is read stays the same in relaxed modes; and in lenient modes all that is refused is what is
wrong with the criteria. -/
theorem request_stays_in_relaxed_modes (p : Params) (catalog : Catalog) (defaults : Defaults) :
    (∀ modes relaxed : Modes, modes.RelaxesTo relaxed → ∀ r, p.request catalog defaults modes = .ok r →
      p.request catalog defaults relaxed = .ok r) ∧
      ∀ e, p.request catalog defaults .lenient = .error e ↔ p.criteria catalog = .error e := by
  refine ⟨fun modes relaxed hrelaxed r h => ?_, fun e => p.request_lenient_eq_error_iff catalog defaults⟩
  obtain ⟨hcriteria, ⟨base, hbase, hcolumns⟩, horder, hdirection, htab, hdistinct, hcustom⟩ :=
    request_eq_ok_iff.mp h
  refine request_eq_ok_iff.mpr ⟨hcriteria, ⟨base, ?base, hcolumns⟩, ?order, ?direction, ?detailTab, hdistinct, hcustom⟩
  case base => exact hrelaxed.columns.eq_ok (p.baseColumns catalog defaults) baseColumns_lenient_of_strict hbase
  case order => exact hrelaxed.order.eq_ok (p.order catalog defaults) order_lenient_of_strict horder
  case direction => exact hrelaxed.order.eq_ok (p.direction defaults) choice_lenient_of_strict hdirection
  case detailTab => exact hrelaxed.detailTab.eq_ok (p.detailTab defaults) choice_lenient_of_strict htab

/-- A sort column that is not known, beside columns and a tab that are. -/
def unknownOrder : Params where
  pairs :=
    [("filter1", "OsName"), ("search1", "Linux"), ("columns", " Name ,,OsName,Name"), ("order", "Nothing"),
      ("direction", "ASC"), ("jumpto", "bios")]

theorem unknownOrder_stays_in_relaxed_modes :
    let modes : Modes := ⟨.strict, .lenient, .strict⟩
    let r : SearchRequest :=
      { criteria := [⟨"OsName", .eq, "Linux", .text "Linux", false⟩], columns := ["Name", "OsName"],
        order := "InventoryDate", direction := .asc, distinct := false, customSearch := false, detailTab := .bios }
    modes.RelaxesTo .lenient ∧ unknownOrder.request .builtin .builtin .strict = .error (.unknownColumn "order" "Nothing") ∧
      unknownOrder.request .builtin .builtin modes = .ok r ∧ unknownOrder.request .builtin .builtin .lenient = .ok r := by
  intro modes r
  have hrelaxed : modes.RelaxesTo .lenient := ⟨Or.inr rfl, Or.inl rfl, Or.inr rfl⟩
  have hread : unknownOrder.request .builtin .builtin modes = .ok r := by decide +kernel
  obtain ⟨hstays, _⟩ := request_stays_in_relaxed_modes unknownOrder .builtin .builtin
  exact ⟨hrelaxed, by decide +kernel, hread, hstays modes .lenient hrelaxed r hread⟩

end Params

end InventorySearch
