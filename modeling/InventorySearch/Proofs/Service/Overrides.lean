import InventorySearch.Proofs.Group.Members
import InventorySearch.Proofs.Service.GroupAddress
import Mathlib.Data.List.Perm.Subperm
import Std.Data.String.ToInt

/-! What the service shows of the memberships set by hand. A request that sets automatic membership takes the entry
of the computer away, so that requests leave entries of forced memberships only. The groups file may have entries of
automatic membership, and each of them stays, is counted and is shown until a request changes it. -/

namespace InventorySearch

namespace Group

/-- Every stored entry is one of forced membership. -/
def OnlyForced (g : Group) : Prop := ∀ id : Int64, g.overrides[id]? ≠ some Membership.automatic

/-- The membership of a computer is forced. -/
def Forces (g : Group) (id : Int64) : Prop := g.membership id ≠ .automatic

/-- As many memberships are forced as a number tells. -/
def ForcedCount (g : Group) (n : Nat) : Prop :=
  ∃ ids : List Int64, ids.Nodup ∧ (∀ id, id ∈ ids ↔ g.Forces id) ∧ ids.length = n

variable {g : Group} {id : Int64}

theorem forces_iff : g.Forces id ↔ ∃ membership, g.overrides[id]? = some membership ∧ membership ≠ .automatic := by
  show g.overrides[id]?.getD .automatic ≠ .automatic ↔ _
  cases g.overrides[id]? <;> simp

theorem onlyForced_iff_mem_keys : g.OnlyForced ↔ ∀ id, id ∈ g.overrides.keys ↔ g.Forces id := by
  unfold OnlyForced
  refine forall_congr' fun id => ?_
  rw [forces_iff, Std.TreeMap.mem_keys, Std.TreeMap.mem_iff_isSome_getElem?]
  cases g.overrides[id]? <;> simp

/-- The entries are as many as the forced memberships exactly when they are these. -/
theorem onlyForced_iff_forcedCount : g.OnlyForced ↔ g.ForcedCount g.overrides.size := by
  rw [onlyForced_iff_mem_keys]
  constructor
  · exact fun hkeys => ⟨g.overrides.keys, Std.TreeMap.nodup_keys, hkeys, Std.TreeMap.length_keys⟩
  · rintro ⟨ids, hnodup, hids, hlength⟩ id
    have hsub : ids ⊆ g.overrides.keys := by
      intro id hid
      obtain ⟨membership, hget, _⟩ := forces_iff.mp ((hids id).mp hid)
      rw [Std.TreeMap.mem_keys, Std.TreeMap.mem_iff_isSome_getElem?, hget]
      rfl
    -- As many different keys as there are leave none out.
    have hperm : ids.Perm g.overrides.keys :=
      (hnodup.subperm hsub).perm_of_length_le (by rw [Std.TreeMap.length_keys, hlength])
    rw [← hperm.mem_iff, hids]

theorem automatic_of_setMembership {changed : Int64} {membership : Membership}
    (h : (g.setMembership changed membership).overrides[id]? = some Membership.automatic) :
    g.overrides[id]? = some Membership.automatic := by
  rw [getElem?_setMembership] at h
  split_ifs at h with hsame hautomatic
  · exact absurd (Option.some.inj h) hautomatic
  · exact h

theorem get?_overridesToJson {overrides : Std.TreeMap Int64 Membership} {key : String} {value : Json} :
    (overridesToJson overrides).get? key = some value ↔
      ∃ (id : Int64) (membership : Membership), overrides[id]? = some membership ∧ key = toString id.toInt ∧
        value = .string (code membership) := by
  have hinj : Function.Injective fun id : Int64 => toString id.toInt :=
    fun id other h => Int64.toInt_inj.mp (Int.repr_inj.mp h)
  have hmembers : overridesToJson overrides = .ofMembers (overrides.toList.map fun entry =>
      (toString entry.1.toInt, .string (code entry.2))) := rfl
  have hnodup : ((overrides.toList.map fun entry =>
      (toString entry.1.toInt, Json.string (code entry.2))).map Prod.fst).Nodup := by
    have hkeys : (overrides.toList.map fun entry => toString entry.1.toInt) =
        overrides.keys.map fun id => toString id.toInt := by
      rw [← Std.TreeMap.map_fst_toList_eq_keys, List.map_map]
      rfl
    rw [List.map_map]
    exact hkeys ▸ Std.TreeMap.nodup_keys.map hinj
  rw [hmembers, Json.get?_ofMembers_eq_some_iff hnodup, List.mem_map]
  constructor
  · rintro ⟨⟨id, membership⟩, hmem, heq⟩
    cases heq
    exact ⟨id, membership, Std.TreeMap.mem_toList_iff_getElem?_eq_some.mp hmem, rfl, rfl⟩
  · rintro ⟨id, membership, hget, rfl, rfl⟩
    exact ⟨(id, membership), Std.TreeMap.mem_toList_iff_getElem?_eq_some.mpr hget, rfl⟩

end Group

namespace GroupStore

/-- The group of a name has an entry of automatic membership for a computer. -/
def HoldsAutomatic (s : GroupStore) (name : String) (id : Int64) : Prop :=
  ∃ g, s.get? name = some g ∧ g.overrides[id]? = some Membership.automatic

/-- No stored group has an entry of automatic membership. -/
def OnlyForced (s : GroupStore) : Prop := ∀ name id, ¬s.HoldsAutomatic name id

theorem OnlyForced.onlyForced {s : GroupStore} (h : s.OnlyForced) {name : String} {g : Group}
    (hget : s.get? name = some g) : g.OnlyForced :=
  fun id hid => h name id ⟨g, hget, hid⟩

end GroupStore

namespace Service

/-- What is shown of the memberships set by hand is what is forced: the list of groups has the number of forced
memberships for each group, and the members of a group come with each of these memberships. -/
structure ShowsForced (cors : Cors) (s : State) : Prop where
  counts : ∃ summaries, (cors.get s groupsPath).field? "groups" = some (.array summaries) ∧
    List.Forall₂ (fun g summary => summary.get? "name" = some (.string g.name) ∧
      ∃ n, summary.get? "overrides" = some (.ofNat n) ∧ g.ForcedCount n) s.groups.toList summaries
  entries : ∀ segment rawName name g, Spells segment rawName → groupName rawName = .ok name →
    s.groups.get? name = some g →
      ∃ shown, (cors.get s (membersPath segment)).field? "overrides" = some shown ∧
        ∀ key value, shown.get? key = some value ↔
          ∃ id, g.Forces id ∧ key = toString id.toInt ∧ value = .string (code (g.membership id))

theorem get?_overrides_summary (g : Group) : g.summary.get? "overrides" = some (.ofNat g.overrides.size) := by
  rw [Group.summary, Json.get?_ofMembers]
  cases g.description <;> cases g.query <;> rfl

/-- An entry of automatic membership was there before the change. -/
theorem State.Step.holdsAutomatic {s s' : State} (h : s.Step s') {name : String} {id : Int64}
    (hholds : s'.groups.HoldsAutomatic name id) : s.groups.HoldsAutomatic name id := by
  obtain ⟨g', hget, hid⟩ := hholds
  cases h with
  | stored changed description query =>
      rw [GroupStore.get?_upsert] at hget
      split_ifs at hget with heq
      · subst heq
        cases hget
        cases hstored : s.groups.get? changed with
        | none => simp [GroupStore.replaced, hstored, Group.new] at hid
        | some g => exact ⟨g, hstored, by simpa [GroupStore.replaced, hstored] using hid⟩
      · exact ⟨g', hget, hid⟩
  | removed changed =>
      rw [GroupStore.get?_remove] at hget
      split_ifs at hget
      exact ⟨g', hget, hid⟩
  | forced changed stored other membership =>
      rw [GroupStore.get?_setMembership] at hget
      split_ifs at hget with heq
      · subst heq
        obtain ⟨g, hstored, rfl⟩ := Option.map_eq_some_iff.mp hget
        exact ⟨g, hstored, Group.automatic_of_setMembership hid⟩
      · exact ⟨g', hget, hid⟩
  | _ => exact ⟨g', hget, hid⟩

/-- Requests bring no entry of automatic membership into a group. -/
theorem State.holdsAutomatic_after (s : State) (cors : Cors) (requests : List HttpRequest) {name : String}
    {id : Int64} : (s.after cors requests).groups.HoldsAutomatic name id → s.groups.HoldsAutomatic name id := by
  refine State.after_induction
    (P := fun s' => s'.groups.HoldsAutomatic name id → s.groups.HoldsAutomatic name id)
    (fun hholds => hholds) ?_
  exact fun s' r _ hs' hholds => hs' ((s'.step_exchange cors r).holdsAutomatic hholds)

theorem get?_overrides_membersToJson {g : Group} (h : g.OnlyForced) (members : IdSet) :
    ∃ shown, (g.membersToJson members).get? "overrides" = some shown ∧
      ∀ key value, shown.get? key = some value ↔
        ∃ id, g.Forces id ∧ key = toString id.toInt ∧ value = .string (code (g.membership id)) := by
  refine ⟨Group.overridesToJson g.overrides, Json.get?_ofMembers _ _, fun key value => ?_⟩
  rw [Group.get?_overridesToJson]
  constructor
  · rintro ⟨id, membership, hget, rfl, rfl⟩
    have hforced : membership ≠ .automatic := fun heq => h id (heq ▸ hget)
    refine ⟨id, Group.forces_iff.mpr ⟨membership, hget, hforced⟩, rfl, ?_⟩
    rw [(Group.membership_eq_iff hforced).mpr hget]
  · rintro ⟨id, hid, rfl, rfl⟩
    obtain ⟨membership, hget, hforced⟩ := Group.forces_iff.mp hid
    refine ⟨id, membership, hget, rfl, ?_⟩
    rw [(Group.membership_eq_iff hforced).mpr hget]

/-- The service shows what is forced exactly while there is no entry of automatic membership. -/
theorem Consistent.showsForced_iff {records : List InventoryRecord} {defaults : Defaults} {s : State}
    (h : Consistent records defaults s) (cors : Cors) : ShowsForced cors s ↔ s.groups.OnlyForced := by
  have hlist : (cors.get s groupsPath).field? "groups" = some (.array (s.groups.toList.map Group.summary)) :=
    field?_get_groupsPath cors s
  constructor
  · rintro hshows name id ⟨g, hget, hid⟩
    obtain ⟨summaries, hfield, hcounts⟩ := hshows.counts
    cases hfield.symm.trans hlist
    have hmem : g ∈ s.groups.toList := s.groups.mem_toList_iff.mpr ⟨name, hget⟩
    rw [List.forall₂_map_right_iff, List.forall₂_same] at hcounts
    obtain ⟨_, n, hshown, hcount⟩ := hcounts g hmem
    rw [get?_overrides_summary] at hshown
    cases hshown
    exact Group.onlyForced_iff_forcedCount.mpr hcount id hid
  · intro honly
    refine ⟨⟨_, hlist, ?_⟩, ?_⟩
    · rw [List.forall₂_map_right_iff, List.forall₂_same]
      intro g hmem
      obtain ⟨name, hget⟩ := s.groups.mem_toList_iff.mp hmem
      have hcount : g.ForcedCount g.overrides.size := Group.onlyForced_iff_forcedCount.mp (honly.onlyForced hget)
      exact ⟨get?_name_summary g, g.overrides.size, get?_overrides_summary g, hcount⟩
    · intro segment rawName name g hspells hname hget
      obtain ⟨view, hengine, _⟩ := h.view_typed
      obtain ⟨found, hreply, _⟩ := h.groupMembers_reply hengine hname hget
      rw [get_membersPath cors s hspells, hreply]
      exact get?_overrides_membersToJson (honly.onlyForced hget) (resolveMembers found g.overrides)

/-- The memberships set by hand are shown as the forced ones, after any requests, exactly when the groups that are
taken from the groups file have no entry of automatic membership. Such entries come from nowhere else. -/
theorem forced_memberships_shown_iff {files : DataFiles} {defaults : Defaults} {d : DataSet}
    (hread : DataSet.read files defaults = .ok d) (cors : Cors) :
    ((∀ requests, ((d.state defaults).after cors requests).groups.OnlyForced) ↔
        (GroupStore.ofList d.groups).OnlyForced) ∧
      ∀ requests,
        let s := (d.state defaults).after cors requests
        (ShowsForced cors s ↔ s.groups.OnlyForced) ∧
          ∀ name id, s.groups.HoldsAutomatic name id → (GroupStore.ofList d.groups).HoldsAutomatic name id := by
  obtain ⟨records, _, hstart⟩ := consistent_of_read hread
  have hseeds : ∀ requests name id, ((d.state defaults).after cors requests).groups.HoldsAutomatic name id →
      (GroupStore.ofList d.groups).HoldsAutomatic name id :=
    fun requests name id => (d.state defaults).holdsAutomatic_after cors requests
  refine ⟨⟨fun honly => honly [], fun honly requests name id hholds => ?_⟩, fun requests => ⟨?_, hseeds requests⟩⟩
  · exact honly name id (hseeds requests name id hholds)
  · exact (hstart.after cors requests).showsForced_iff cors

/-- A group with an entry of automatic membership. -/
def automaticFiles : DataFiles :=
  ⟨none, none, some ⟨"groups.json", some "[[\"Lab\", null, null, \x7b\"1\": \"automatic\"\x7d]]"⟩⟩

/-- A request that gives the group a query and keeps its memberships. -/
def storeLab : HttpRequest :=
  ⟨.put, "/api/v1/groups/Lab", "", some "application/json", "[null, \"filter=OsName&search=Linux\"]", none⟩

theorem automatic_entry_kept_and_shown :
    let d := DataSet.ofFiles automaticFiles .builtin
    DataSet.read automaticFiles .builtin = .ok d ∧
      let cors : Cors := ⟨.any, false, 0⟩
      let s := (d.state .builtin).after cors [storeLab]
      ((s.groups.get? "Lab").bind fun g => g.query) = some "filter=OsName&search=Linux" ∧
        s.groups.HoldsAutomatic "Lab" 1 ∧ ¬ShowsForced cors s := by
  intro d
  have hread : DataSet.read automaticFiles .builtin = .ok d := DataSet.read_ofFiles (by decide +kernel)
  refine ⟨hread, ?_⟩
  intro cors s
  have hquery : ((s.groups.get? "Lab").bind fun g => g.query) = some "filter=OsName&search=Linux" := by
    decide +kernel
  have hentry : ((s.groups.get? "Lab").bind fun g => g.overrides[(1 : Int64)]?) = some Membership.automatic := by
    decide +kernel
  have hholds : s.groups.HoldsAutomatic "Lab" 1 := Option.bind_eq_some_iff.mp hentry
  refine ⟨hquery, hholds, fun hshows => ?_⟩
  exact ((forced_memberships_shown_iff hread cors).2 [storeLab]).1.mp hshows "Lab" 1 hholds

end Service

end InventorySearch
