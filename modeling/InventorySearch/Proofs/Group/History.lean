import InventorySearch.Proofs.Group.Store
import Mathlib.Data.List.DropRight

/-! What the stored groups are after any changes, told from the history of each name alone. A group is there when
it was put in or stored and not removed since, with the description and the query that were given last. Its
memberships are older than these may be: they go back to when the group came into existence. -/

namespace InventorySearch

/-- A change of the stored groups. -/
inductive GroupChange where
  | put (g : Group)
  | upsert (name : String) (description query : Option String)
  | setMembership (name : String) (id : Int64) (membership : Membership)
  | remove (name : String)

namespace GroupChange

def name : GroupChange → String
  | put g => g.name
  | upsert name _ _ => name
  | setMembership name _ _ => name
  | remove name => name

def removes : GroupChange → Bool
  | remove _ => true
  | _ => false

/-- The description and the query that a change gives to a group, which is there after it. -/
def texts? : GroupChange → Option (Option String × Option String)
  | put g => some (g.description, g.query)
  | upsert _ description query => some (description, query)
  | _ => none

/-- The membership that a change gives to a computer. -/
def membership? (id : Int64) : GroupChange → Option Membership
  | put g => some (g.membership id)
  | setMembership _ changed membership => if changed = id then some membership else none
  | _ => none

/-- What a change makes of what is stored under its name. -/
def applyTo (stored : Option Group) : GroupChange → Option Group
  | put g => some g
  | upsert name description query =>
      some { stored.getD (.new name) with description := description, query := query }
  | setMembership _ id membership => stored.map fun g => g.setMembership id membership
  | remove _ => none

/-- What a history of one name leaves stored under it. -/
def standing (history : List GroupChange) : Option Group := history.foldl applyTo none

/-- The part of a history of one name since the group last came into existence. -/
def lifetime (history : List GroupChange) : List GroupChange :=
  (history.rtakeWhile fun c => !c.removes).dropWhile fun c => c.texts?.isNone

end GroupChange

namespace GroupStore

/-- The stored groups after a change. -/
def apply (s : GroupStore) : GroupChange → GroupStore
  | .put g => s.put g
  | .upsert name description query => s.upsert name description query
  | .setMembership name id membership => s.setMembership name id membership
  | .remove name => s.remove name

/-- The group that a change answers with: as it stands after the change, or as it was removed. -/
def answer (s : GroupStore) (c : GroupChange) : Option Group :=
  if c.removes then s.get? c.name else (s.apply c).get? c.name

/-- The stored groups after changes. -/
def run (s : GroupStore) (changes : List GroupChange) : GroupStore := changes.foldl apply s

end GroupStore

/-! ### One name -/

theorem GroupStore.get?_apply (s : GroupStore) (c : GroupChange) (name : String) :
    (s.apply c).get? name = if c.name = name then c.applyTo (s.get? name) else s.get? name := by
  cases c with
  | put g => exact s.get?_put g name
  | upsert changed description query =>
      refine (s.get?_upsert changed description query name).trans ?_
      by_cases heq : changed = name
      · subst heq
        rfl
      · simp [heq, GroupChange.name]
  | setMembership changed id membership =>
      refine (s.get?_setMembership changed id membership name).trans ?_
      by_cases heq : changed = name
      · subst heq
        rfl
      · simp [heq, GroupChange.name]
  | remove changed => exact s.get?_remove changed name

/-- Only the changes of a name count for what is stored under it. -/
theorem GroupStore.get?_run (s : GroupStore) (changes : List GroupChange) (name : String) :
    (s.run changes).get? name =
      (changes.filter fun c => c.name = name).foldl GroupChange.applyTo (s.get? name) := by
  induction changes generalizing s with
  | nil => rfl
  | cons c changes ih =>
      rw [run, List.foldl_cons, ← run, ih, get?_apply, List.filter_cons]
      by_cases heq : c.name = name <;> simp [heq]

theorem GroupStore.ofList_eq_run (groups : List Group) : ofList groups = empty.run (groups.map .put) := by
  rw [ofList, run, List.foldl_map]
  rfl

theorem Group.membership_setMembership (g : Group) (id : Int64) (membership : Membership) (other : Int64) :
    (g.setMembership id membership).membership other = if id = other then membership else g.membership other := by
  rw [Group.membership, getElem?_setMembership, Group.membership]
  split_ifs with hsame hautomatic
  · rw [hautomatic]
    rfl
  · rfl
  · rfl

namespace GroupChange

variable {history : List GroupChange} {g : Group}

theorem standing_concat (history : List GroupChange) (c : GroupChange) :
    standing (history ++ [c]) = c.applyTo (standing history) := by
  rw [standing, List.foldl_append]
  rfl

theorem isSome_foldl_applyTo {stored : Option Group} (hstored : stored.isSome) {later : List GroupChange}
    (hlater : ∀ c ∈ later, c.removes = false) : (later.foldl applyTo stored).isSome := by
  induction later generalizing stored with
  | nil => exact hstored
  | cons c later ih =>
      obtain ⟨hc, hrest⟩ := List.forall_mem_cons.mp hlater
      apply ih _ hrest
      cases c with
      | put g => rfl
      | upsert name description query => rfl
      | setMembership name id membership => exact Option.isSome_map.trans hstored
      | remove name => cases hc

/-- A group stands when it was put in or stored and has not been removed since. -/
theorem isSome_standing_iff :
    (standing history).isSome ↔
      ∃ before c after, history = before ++ c :: after ∧ c.texts?.isSome ∧
        ∀ later ∈ after, later.texts? = none ∧ later.removes = false := by
  constructor
  · intro h
    induction history using List.reverseRecOn with
    | nil => cases h
    | append_singleton history c ih =>
        rw [standing_concat] at h
        by_cases hgives : c.texts?.isSome
        · exact ⟨history, c, [], rfl, hgives, by simp⟩
        · -- The change does not bring the group back, so it stood before.
          have hstood : (standing history).isSome ∧ c.texts? = none ∧ c.removes = false := by
            cases c with
            | put g => exact absurd rfl hgives
            | upsert name description query => exact absurd rfl hgives
            | setMembership name id membership => exact ⟨Option.isSome_map.symm.trans h, rfl, rfl⟩
            | remove name => cases h
          obtain ⟨before, first, after, rfl, hfirst, hafter⟩ := ih hstood.1
          refine ⟨before, first, after ++ [c], by simp, hfirst, ?_⟩
          exact List.forall_mem_append.mpr ⟨hafter, List.forall_mem_singleton.mpr hstood.2⟩
  · rintro ⟨before, c, after, rfl, hgives, hafter⟩
    rw [standing, List.foldl_append, List.foldl_cons]
    refine isSome_foldl_applyTo ?_ fun later hlater => (hafter later hlater).2
    cases c with
    | put g => rfl
    | upsert name description query => rfl
    | setMembership name id membership => cases hgives
    | remove name => cases hgives

theorem texts_of_standing (h : standing history = some g) :
    (history.filterMap texts?).getLast? = some (g.description, g.query) := by
  induction history using List.reverseRecOn generalizing g with
  | nil => cases h
  | append_singleton history c ih =>
      rw [standing_concat] at h
      rw [List.filterMap_append]
      cases c with
      | put stored =>
          cases h
          exact List.getLast?_concat
      | upsert name description query =>
          cases h
          exact List.getLast?_concat
      | setMembership name id membership =>
          obtain ⟨stored, hstored, rfl⟩ := Option.map_eq_some_iff.mp h
          have hsame : (stored.setMembership id membership).description = stored.description := by
            cases membership <;> rfl
          rw [hsame, Group.query_setMembership, ← ih hstored]
          simp [texts?]
      | remove name => cases h

/-! ### The lifetime of a group -/

theorem lifetime_concat {c : GroupChange} (hstays : c.removes = false) (history : List GroupChange) :
    lifetime (history ++ [c]) =
      if lifetime history = [] then [c].dropWhile fun c => c.texts?.isNone else lifetime history ++ [c] := by
  have hkeep : (!c.removes) = true := by rw [hstays, Bool.not_false]
  have hconcat : lifetime (history ++ [c]) =
      if (lifetime history).isEmpty = true then [c].dropWhile fun c => c.texts?.isNone
      else lifetime history ++ [c] := by
    rw [lifetime, List.rtakeWhile_concat_pos (fun c => !c.removes) history c hkeep, List.dropWhile_append]
    rfl
  rw [hconcat]
  exact if_congr List.isEmpty_iff rfl rfl

theorem lifetime_concat_put (history : List GroupChange) (g : Group) :
    lifetime (history ++ [put g]) = lifetime history ++ [put g] := by
  rw [lifetime_concat rfl]
  split_ifs with hnone
  · rw [hnone]
    rfl
  · rfl

theorem lifetime_concat_upsert (history : List GroupChange) (name : String) (description query : Option String) :
    lifetime (history ++ [upsert name description query]) = lifetime history ++ [upsert name description query] := by
  rw [lifetime_concat rfl]
  split_ifs with hnone
  · rw [hnone]
    rfl
  · rfl

theorem lifetime_concat_remove (history : List GroupChange) (name : String) :
    lifetime (history ++ [remove name]) = [] := by
  rw [lifetime, List.rtakeWhile_concat_neg _ _ _ (by simp [removes])]
  rfl

/-- A name has a lifetime exactly while its group stands. -/
theorem lifetime_eq_nil_iff : lifetime history = [] ↔ standing history = none := by
  induction history using List.reverseRecOn with
  | nil => exact ⟨fun _ => rfl, fun _ => rfl⟩
  | append_singleton history c ih =>
      rw [standing_concat]
      cases c with
      | put g => simp [lifetime_concat_put, applyTo]
      | upsert name description query => simp [lifetime_concat_upsert, applyTo]
      | setMembership name id membership =>
          rw [lifetime_concat rfl, applyTo, Option.map_eq_none_iff, ← ih]
          split_ifs with hnone <;> simp [hnone, texts?]
      | remove name => simp [lifetime_concat_remove, applyTo]

/-- The membership of a computer is the one that was given last in the lifetime of the group. -/
theorem membership_of_standing (h : standing history = some g) (id : Int64) :
    g.membership id = ((lifetime history).filterMap (membership? id)).getLast?.getD .automatic := by
  induction history using List.reverseRecOn generalizing g with
  | nil => cases h
  | append_singleton history c ih =>
      rw [standing_concat] at h
      cases c with
      | put stored =>
          cases h
          rw [lifetime_concat_put, List.filterMap_append]
          simp [membership?]
      | upsert name description query =>
          cases h
          rw [lifetime_concat_upsert, List.filterMap_append]
          cases hstood : standing history with
          | none =>
              rw [lifetime_eq_nil_iff.mpr hstood]
              rfl
          | some stored =>
              show stored.membership id = _
              rw [ih hstood]
              simp [membership?]
      | setMembership name changed membership =>
          obtain ⟨stored, hstood, rfl⟩ := Option.map_eq_some_iff.mp h
          have hbefore := ih hstood
          have hlife : lifetime history ≠ [] := by simp [lifetime_eq_nil_iff, hstood]
          rw [lifetime_concat rfl, if_neg hlife, List.filterMap_append, Group.membership_setMembership]
          split_ifs with heq
          · simp [membership?, heq]
          · simpa [membership?, heq] using hbefore
      | remove name => cases h

end GroupChange

/-! ### Names together -/

namespace GroupStore

theorem Named.apply {s : GroupStore} (h : s.Named) (c : GroupChange) : (s.apply c).Named := by
  cases c with
  | put g => exact h.put g
  | upsert name description query => exact h.upsert name description query
  | setMembership name id membership => exact h.setMembership name id membership
  | remove name => exact h.remove name

theorem Named.run {s : GroupStore} (h : s.Named) (changes : List GroupChange) : (s.run changes).Named := by
  induction changes generalizing s with
  | nil => exact h
  | cons c changes ih => exact ih (h.apply c)

theorem Named.mem_toList_iff {s : GroupStore} (h : s.Named) {g : Group} :
    g ∈ s.toList ↔ s.get? g.name = some g := by
  rw [GroupStore.mem_toList_iff]
  constructor
  · rintro ⟨name, hget⟩
    rw [h name g hget]
    exact hget
  · exact fun hget => ⟨g.name, hget⟩

/-- Of several groups with one name the last is stored as it is. -/
theorem get?_ofList (groups : List Group) (name : String) :
    (ofList groups).get? name = (groups.filter fun g => g.name = name).getLast? := by
  induction groups using List.reverseRecOn with
  | nil => simp [ofList, get?, empty]
  | append_singleton groups g ih =>
      have hput : ofList (groups ++ [g]) = (ofList groups).put g := List.foldl_append
      rw [hput, get?_put, ih, List.filter_append]
      split_ifs with heq <;> simp [heq]

theorem get?_run_ofList (groups : List Group) (changes : List GroupChange) (name : String) :
    ((ofList groups).run changes).get? name =
      GroupChange.standing ((groups.map GroupChange.put ++ changes).filter fun c => c.name = name) := by
  have hempty : empty.get? name = none := by simp [get?, empty]
  rw [ofList_eq_run, run, run, ← List.foldl_append, ← run, get?_run, hempty]
  rfl

end GroupStore

/-- What is stored after any changes of a store of given groups is told by the history of each name. A group is
there exactly when it was given or stored and not removed since; its texts are those given last, and a membership
is the one given last since the group came into existence. Changes under other names do not count, a membership
set where there is no group changes nothing, and the list has every group once, in the order of the names. -/
theorem stored_group_told_by_history (groups : List Group) (changes : List GroupChange) :
    let s := (GroupStore.ofList groups).run changes
    (∀ name,
      let history := (groups.map GroupChange.put ++ changes).filter fun c => c.name = name
      ((s.get? name).isSome ↔
        ∃ before c after, history = before ++ c :: after ∧ c.texts?.isSome ∧
          ∀ later ∈ after, later.texts? = none ∧ later.removes = false) ∧
      (∀ g, s.get? name = some g →
        g.name = name ∧ (history.filterMap GroupChange.texts?).getLast? = some (g.description, g.query) ∧
          ∀ id, g.membership id =
            ((GroupChange.lifetime history).filterMap (GroupChange.membership? id)).getLast?.getD .automatic) ∧
      (GroupStore.ofList groups).get? name = (groups.filter fun g => g.name = name).getLast? ∧
      s.get? name = ((GroupStore.ofList (groups.filter fun g => g.name = name)).run
        (changes.filter fun c => c.name = name)).get? name ∧
      (s.get? name = none → ∀ id membership,
        s.apply (.setMembership name id membership) = s ∧ s.answer (.setMembership name id membership) = none)) ∧
      s.toList.Pairwise (fun a b => a.name < b.name) ∧ ∀ g, g ∈ s.toList ↔ s.get? g.name = some g := by
  intro s
  have hnamed : s.Named := (GroupStore.named_ofList groups).run changes
  refine ⟨fun name => ?_, hnamed.pairwise_toList, fun g => hnamed.mem_toList_iff⟩
  intro history
  have hstanding : s.get? name = GroupChange.standing history := GroupStore.get?_run_ofList groups changes name
  refine ⟨?_, ?_, GroupStore.get?_ofList groups name, ?_, ?_⟩
  · rw [hstanding]
    exact GroupChange.isSome_standing_iff
  · intro g hget
    have hstood : GroupChange.standing history = some g := hstanding.symm.trans hget
    exact ⟨hnamed name g hget, GroupChange.texts_of_standing hstood, GroupChange.membership_of_standing hstood⟩
  · have hput : ∀ g : Group, (GroupChange.put g).name = g.name := fun _ => rfl
    have hown : ((groups.filter fun g => g.name = name).map GroupChange.put ++
        changes.filter fun c => c.name = name).filter (fun c => c.name = name) = history := by
      simp only [history, List.filter_append, List.filter_map, List.filter_filter, Function.comp_def, hput,
        Bool.and_self]
    rw [hstanding, GroupStore.get?_run_ofList, hown]
  · intro hnone id membership
    have hsame : s.apply (.setMembership name id membership) = s := by
      show s.setMembership name id membership = s
      rw [GroupStore.setMembership, hnone]
    refine ⟨hsame, ?_⟩
    show (s.apply (.setMembership name id membership)).get? name = none
    rw [hsame, hnone]

/-- A removed group that is stored again has none of the memberships that it had, and one that was set while it was
missing does not count either. -/
theorem recreated_group_told_by_history :
    let seeds : List Group := [.ofParts "Kiosks" none none [(3, .never)], .new "Lab"]
    let changes : List GroupChange := [.setMembership "Kiosks" 4 .always, .remove "Kiosks",
      .setMembership "Kiosks" 3 .always, .upsert "Kiosks" (some "Lobby") none, .remove "Lab"]
    ∃ g, ((GroupStore.ofList seeds).run changes).get? "Kiosks" = some g ∧
      g.description = some "Lobby" ∧ g.query = none ∧ ∀ id, g.membership id = .automatic := by
  intro seeds changes
  obtain ⟨hexists, htold, -⟩ := (stored_group_told_by_history seeds changes).1 "Kiosks"
  have hhistory : ((seeds.map GroupChange.put ++ changes).filter fun c => c.name = "Kiosks") =
      [.put (.ofParts "Kiosks" none none [(3, .never)]), .setMembership "Kiosks" 4 .always,
        .remove "Kiosks", .setMembership "Kiosks" 3 .always, .upsert "Kiosks" (some "Lobby") none] := rfl
  rw [hhistory] at hexists htold
  have hsome : (((GroupStore.ofList seeds).run changes).get? "Kiosks").isSome :=
    hexists.mpr ⟨[_, _, _, _], .upsert "Kiosks" (some "Lobby") none, [], rfl, rfl, nofun⟩
  obtain ⟨g, hget⟩ := Option.isSome_iff_exists.mp hsome
  obtain ⟨-, htexts, hmembership⟩ := htold g hget
  have hpair : (some "Lobby", none) = (g.description, g.query) := Option.some.inj htexts
  exact ⟨g, hget, congrArg Prod.fst hpair.symm, congrArg Prod.snd hpair.symm, hmembership⟩

end InventorySearch
