import InventorySearch.Proofs.Group.History
import InventorySearch.Proofs.QueryString
import InventorySearch.Proofs.Service.Frame
import InventorySearch.Proofs.Service.Redirect

/-! Which of the listed groups a path leads to. Every name that a path gives is trimmed and must not be blank, and
so are the names under which requests store groups, but the groups file is taken as it is. A group of the file
with another name is listed, no request finds it, and so it stays as the file has it. -/

namespace InventorySearch.Service

/-- A name under which a request can store a group. -/
def IsGroupName (name : String) : Prop := Text.trim name = name ∧ name ≠ ""

instance (name : String) : Decidable (IsGroupName name) := inferInstanceAs (Decidable (_ ∧ _))

def groupsPath : String := "/api/v1/groups"

/-- The path of a group, whose name a segment stands for. -/
def groupPath (segment : String) : String := groupsPath ++ "/" ++ segment

def membersPath (segment : String) : String := groupPath segment ++ "/members"

/-- A segment of a path that stands for a text. -/
structure Spells (segment text : String) : Prop where
  whole : ∀ c ∈ segment.toList, c ≠ '/' ∧ c ≠ '?' ∧ c ≠ '#'
  decoded : Route.decodeSegment? segment = some text

/-- The list of groups shows a name. -/
def Listed (cors : Cors) (s : State) (name : String) : Prop :=
  ∃ summaries, (cors.get s groupsPath).field? "groups" = some (.array summaries) ∧
    ∃ summary ∈ summaries, summary.get? "name" = some (.string name)

/-- However a name is written in a path, the path leads to the group that is stored under it: its members are
shown, and removing it removes this group and no other. -/
structure Addressed (cors : Cors) (s : State) (name : String) (g : Group) : Prop where
  shown : ∀ segment, Spells segment name →
    ∃ members, cors.get s (membersPath segment) = .ofJson (g.membersToJson members)
  removed : ∀ segment, Spells segment name →
    let o := (cors.exchange s (.ofTarget .delete (groupPath segment))).outcome
    o.reply = .bare 204 ∧ o.state.groups.get? name = none ∧
      ∀ other, other ≠ name → o.state.groups.get? other = s.groups.get? other

/-! ### Paths -/

/-- Every text can be written in a path. -/
theorem spells_encodePart (text : String) : Spells (String.ofList (QueryString.encodePart text)) text := by
  constructor
  · rw [String.toList_ofList]
    exact QueryString.forall_mem_encodePart (by decide +kernel) (by decide) (by decide) text
  · have hbytes : Text.Utf8.encode (String.ofList (QueryString.encodePart text)) =
        (QueryString.encodePart text).map QueryString.byteOf :=
      Text.Utf8.encode_ofList_of_ascii fun c hc => (QueryString.isSafe_of_mem_encodePart hc).1
    rw [Route.decodeSegment?, hbytes, QueryString.encodePart, QueryString.percentDecode_encode,
      Text.Utf8.decode_encode]
    rfl

theorem ofTarget_path {path : String} (method : Method) (hslash : path.toList.head? = some '/')
    (hwhole : ∀ c ∈ path.toList, c ≠ '?' ∧ c ≠ '#') :
    HttpRequest.ofTarget method path = ⟨method, path, "", none, "", none⟩ := by
  have hfragment : path.toList.takeWhile (· ≠ '#') = path.toList :=
    List.takeWhile_eq_self_iff.mpr fun c hc => decide_eq_true (hwhole c hc).2
  have hkeep : ∀ c ∈ path.toList, decide (c ≠ '?') = true := fun c hc => decide_eq_true (hwhole c hc).1
  have hquery : path.toList.dropWhile (· ≠ '?') = [] := List.dropWhile_eq_nil_iff.mpr hkeep
  have hsplit : HttpRequest.splitTarget path = (path, "") := by
    rw [HttpRequest.splitTarget, fromPath_of_slash hslash, hfragment, Text.cutFirst,
      List.takeWhile_eq_self_iff.mpr hkeep, hquery]
    simp
  rw [HttpRequest.ofTarget, hsplit]

theorem toList_groupPath (segment : String) :
    (groupPath segment).toList = groupsPath.toList ++ '/' :: segment.toList := by
  simp [groupPath]

theorem toList_membersPath (segment : String) :
    (membersPath segment).toList = (groupPath segment).toList ++ '/' :: "members".toList := by
  simp [membersPath]

namespace Spells

variable {segment text : String}

theorem ne_empty (h : Spells segment text) (htext : text ≠ "") : segment ≠ "" := by
  rintro rfl
  have hempty : Route.decodeSegment? "" = some "" := by decide +kernel
  exact htext (Option.some.inj (h.decoded.symm.trans hempty))

theorem whole_groupPath (h : Spells segment text) : ∀ c ∈ (groupPath segment).toList, c ≠ '?' ∧ c ≠ '#' := by
  have hstart : ∀ c ∈ groupsPath.toList, c ≠ '?' ∧ c ≠ '#' := fun c hc =>
    ⟨ne_of_mem_of_not_mem hc (by decide), ne_of_mem_of_not_mem hc (by decide)⟩
  rw [toList_groupPath, List.forall_mem_append, List.forall_mem_cons]
  exact ⟨hstart, by decide, fun c hc => (h.whole c hc).2⟩

theorem ofTarget_groupPath (h : Spells segment text) (method : Method) :
    HttpRequest.ofTarget method (groupPath segment) = ⟨method, groupPath segment, "", none, "", none⟩ := by
  apply ofTarget_path method _ h.whole_groupPath
  rw [toList_groupPath]
  rfl

theorem ofTarget_membersPath (h : Spells segment text) (method : Method) :
    HttpRequest.ofTarget method (membersPath segment) = ⟨method, membersPath segment, "", none, "", none⟩ := by
  have hend : ∀ c ∈ '/' :: "members".toList, c ≠ '?' ∧ c ≠ '#' := fun c hc =>
    ⟨ne_of_mem_of_not_mem hc (by decide), ne_of_mem_of_not_mem hc (by decide)⟩
  apply ofTarget_path
  · rw [toList_membersPath, toList_groupPath]
    rfl
  · rw [toList_membersPath, List.forall_mem_append]
    exact ⟨h.whole_groupPath, hend⟩

theorem pieces_groupPath (h : Spells segment text) :
    Text.pieces '/' (groupPath segment) = ["", "api", "v1", "groups", segment] := by
  have hstart : Text.cutAt '/' groupsPath.toList = ["", "api", "v1", "groups"].map String.toList := by decide
  have hsegment : '/' ∉ segment.toList := fun hc => (h.whole _ hc).1 rfl
  rw [Text.pieces, toList_groupPath, Text.cutAt_append, hstart, Text.cutAt_of_not_mem hsegment]
  simp

theorem pieces_membersPath (h : Spells segment text) :
    Text.pieces '/' (membersPath segment) = ["", "api", "v1", "groups", segment, "members"] := by
  have hbefore := h.pieces_groupPath
  have hend : Text.cutAt '/' "members".toList = ["members".toList] := by decide
  rw [Text.pieces] at hbefore ⊢
  rw [toList_membersPath, Text.cutAt_append, List.map_append, hbefore, hend]
  simp

theorem ofPath?_groupPath (h : Spells segment text) (htext : text ≠ "") :
    Route.ofPath? (groupPath segment) = some (.group segment) := by
  rw [Route.ofPath?, h.pieces_groupPath]
  show Route.ending .group segment = some (.group segment)
  rw [Route.ending, if_neg]
  simpa using h.ne_empty htext

theorem ofPath?_membersPath (h : Spells segment text) :
    Route.ofPath? (membersPath segment) = some (.groupMembers segment) := by
  rw [Route.ofPath?, h.pieces_membersPath]
  rfl

end Spells

/-! ### Replies -/

section Replies

variable (cors : Cors) (s : State) {segment name : String} {g : Group}

theorem field?_get_groupsPath :
    (cors.get s groupsPath).field? "groups" = some (.array (s.groups.toList.map Group.summary)) := by
  have htarget : HttpRequest.ofTarget .get groupsPath = ⟨.get, groupsPath, "", none, "", none⟩ := by decide
  have hroute : Route.ofPath? groupsPath = some .groups := by decide
  rw [Cors.get, htarget, s.reply_exchange (by simp) (by simp)]
  simp only [State.serve, hroute]
  exact Json.get?_ofMembers _ _

theorem get?_name_summary (g : Group) : g.summary.get? "name" = some (.string g.name) := by
  rw [Group.summary, Json.get?_ofMembers]
  cases g.description <;> cases g.query <;> rfl

theorem listed_iff (hnamed : s.groups.Named) : Listed cors s name ↔ ∃ g, s.groups.get? name = some g := by
  unfold Listed
  rw [field?_get_groupsPath]
  constructor
  · rintro ⟨_, ⟨⟩, summary, hsummary, hname⟩
    obtain ⟨g, hg, rfl⟩ := List.mem_map.mp hsummary
    obtain ⟨stored, hget⟩ := s.groups.mem_toList_iff.mp hg
    rw [get?_name_summary, hnamed stored g hget] at hname
    cases hname
    exact ⟨g, hget⟩
  · rintro ⟨g, hget⟩
    have hmem : g ∈ s.groups.toList := s.groups.mem_toList_iff.mpr ⟨name, hget⟩
    refine ⟨_, rfl, g.summary, List.mem_map_of_mem hmem, ?_⟩
    rw [get?_name_summary, hnamed name g hget]

theorem get_membersPath (hspells : Spells segment name) :
    cors.get s (membersPath segment) = (s.groupMembers name).reply := by
  rw [Cors.get, hspells.ofTarget_membersPath]
  exact reply_exchange_groupMembers cors s rfl hspells.ofPath?_membersPath hspells.decoded

theorem exchange_delete_groupPath (hspells : Spells segment name) (hname : name ≠ "") :
    let o := (cors.exchange s (.ofTarget .delete (groupPath segment))).outcome
    o.reply = (s.deleteGroup name).reply ∧ o.state = (s.deleteGroup name).state := by
  have hserve := s.serve_deleteGroup (r := ⟨.delete, groupPath segment, "", none, "", none⟩) rfl
    (hspells.ofPath?_groupPath hname) hspells.decoded
  rw [hspells.ofTarget_groupPath, ← hserve]
  exact ⟨s.reply_exchange (by simp) (by simp), s.state_exchange (by simp)⟩

end Replies

/-! ### Names -/

section Names

variable {records : List InventoryRecord} {defaults : Defaults} {s : State} {name : String}

theorem IsGroupName.groupName_eq (h : IsGroupName name) : groupName name = .ok name :=
  groupName_eq_ok_iff.mpr ⟨h.1.symm, h.2⟩

theorem groupName_of_blank {raw : String} (h : Text.trim raw = "") : groupName raw = .error (.missingField "name") := by
  unfold groupName
  rw [h]
  rfl

theorem Scope.ofSegment_eq_group {segment : String} (h : Scope.ofSegment segment = .group name) :
    ∃ raw, Route.decodeSegment? segment = some raw ∧ Text.trim raw = name := by
  unfold Scope.ofSegment at h
  split at h
  next raw hraw =>
    cases h
    exact ⟨raw, hraw, rfl⟩
  · cases h

/-- A request whose scope is a group gives the name of the group, to be trimmed, in its path. -/
theorem HttpRequest.scope_eq_group {r : HttpRequest} (h : r.scope = .group name) :
    ∃ segment raw, Route.decodeSegment? segment = some raw ∧ Text.trim raw = name ∧
      (Route.ofPath? r.path = some (.group segment) ∧ (r.method = .put ∨ r.method = .delete) ∨
        ∃ id, Route.ofPath? r.path = some (.groupMember segment id) ∧ r.method = .put) := by
  unfold HttpRequest.scope at h
  split at h
  next route hroute =>
    unfold Route.scope at h
    split at h
    next segment hmethod =>
      obtain ⟨raw, hraw, htrim⟩ := Scope.ofSegment_eq_group h
      exact ⟨segment, raw, hraw, htrim, Or.inl ⟨hroute, Or.inl hmethod⟩⟩
    next segment hmethod =>
      obtain ⟨raw, hraw, htrim⟩ := Scope.ofSegment_eq_group h
      exact ⟨segment, raw, hraw, htrim, Or.inl ⟨hroute, Or.inr hmethod⟩⟩
    next segment id hmethod =>
      obtain ⟨raw, hraw, htrim⟩ := Scope.ofSegment_eq_group h
      exact ⟨segment, raw, hraw, htrim, Or.inr ⟨id, hroute, hmethod⟩⟩
    · cases h
    · cases h
  · cases h

/-- No request about a blank name does anything. -/
theorem State.exchange_of_blank (s : State) {cors : Cors} {r : HttpRequest} (h : r.scope = .group "") :
    (cors.exchange s r).outcome.state = s := by
  obtain ⟨segment, raw, hraw, hblank, ⟨hroute, hmethod | hmethod⟩ | ⟨id, hroute, hmethod⟩⟩ :=
    HttpRequest.scope_eq_group h
  · rw [s.state_exchange (by simp [hmethod])]
    simp only [serve, hroute, serveRoute, hmethod, Method.served, putGroup, withName, hraw, withBody, upsertGroup,
      groupName_of_blank hblank]
    split <;> rfl
  · rw [s.state_exchange (by simp [hmethod]), s.serve_deleteGroup hmethod hroute hraw, deleteGroup,
      groupName_of_blank hblank]
    rfl
  · rw [s.state_exchange (by simp [hmethod])]
    simp only [serve, hroute, serveRoute, hmethod, Method.served, putMember]
    split
    · rfl
    next name id hmember =>
      obtain ⟨raw', hraw', hname⟩ := readMember_eq_ok hmember
      cases hraw.symm.trans hraw'
      rw [groupName_of_blank hblank] at hname
      cases hname

/-- What is stored under a name that no request can store a group under stays as it is. -/
theorem Consistent.get?_exchange (h : Consistent records defaults s) (cors : Cors) (r : HttpRequest)
    (hname : ¬IsGroupName name) :
    (cors.exchange s r).outcome.state.groups.get? name = s.groups.get? name := by
  by_cases hscope : r.scope = .group name
  · -- The scope of a request is a trimmed name, so this one is blank.
    obtain ⟨segment, raw, _, rfl, _⟩ := HttpRequest.scope_eq_group hscope
    have hblank : Text.trim raw = "" := by_contra fun hne => hname ⟨Text.trim_trim raw, hne⟩
    rw [hblank] at hscope
    rw [s.exchange_of_blank hscope]
  · exact (h.sameOutside cors r).get?_eq hscope

theorem Consistent.get?_after_of_not_isGroupName (h : Consistent records defaults s) (cors : Cors)
    (requests : List HttpRequest) (hname : ¬IsGroupName name) :
    (s.after cors requests).groups.get? name = s.groups.get? name := by
  refine h.after_induction (P := fun s' => s'.groups.get? name = s.groups.get? name) rfl ?_
  intro s' hs' r _ hsame
  exact (hs'.get?_exchange cors r hname).trans hsame

/-! ### Addresses -/

variable {g : Group}

theorem Consistent.addressed (h : Consistent records defaults s) (cors : Cors) (hname : IsGroupName name)
    (hget : s.groups.get? name = some g) : Addressed cors s name g := by
  constructor
  · intro segment hspells
    obtain ⟨view, hengine, _⟩ := h.view_typed
    obtain ⟨found, hreply, _⟩ := h.groupMembers_reply hengine hname.groupName_eq hget
    exact ⟨_, (get_membersPath cors s hspells).trans hreply⟩
  · intro segment hspells o
    have hdelete : s.deleteGroup name = ⟨.bare 204, { s with groups := s.groups.remove name }, []⟩ := by
      simp only [State.deleteGroup, hname.groupName_eq, hget]
    obtain ⟨hreply, hstate⟩ := exchange_delete_groupPath cors s hspells hname.2
    rw [hdelete] at hreply hstate
    refine ⟨hreply, ?_, fun other hother => ?_⟩
    · rw [hstate, GroupStore.get?_remove, if_pos rfl]
    · rw [hstate, GroupStore.get?_remove, if_neg (Ne.symm hother)]

theorem Consistent.addressed_iff (h : Consistent records defaults s) (cors : Cors)
    (hget : s.groups.get? name = some g) : Addressed cors s name g ↔ IsGroupName name := by
  refine ⟨fun haddressed => by_contra fun hname => ?_, fun hname => h.addressed cors hname hget⟩
  obtain ⟨_, hgone, _⟩ := haddressed.removed _ (spells_encodePart name)
  rw [h.get?_exchange cors _ hname, hget] at hgone
  cases hgone

/-- A path leads to the group of the trimmed name, if it leads to any. -/
theorem Consistent.get_membersPath_cases (h : Consistent records defaults s) (cors : Cors) {segment : String}
    (hspells : Spells segment name) :
    Text.trim name = "" ∧ (cors.get s (membersPath segment)).status = 400 ∨
      s.groups.get? (Text.trim name) = none ∧ (cors.get s (membersPath segment)).status = 404 ∨
      ∃ other members, Text.trim name ≠ "" ∧ s.groups.get? (Text.trim name) = some other ∧
        cors.get s (membersPath segment) = .ofJson (other.membersToJson members) := by
  rw [get_membersPath cors s hspells]
  by_cases hblank : Text.trim name = ""
  · refine Or.inl ⟨hblank, ?_⟩
    simp only [State.groupMembers, groupName_of_blank hblank]
    rfl
  · have hname : groupName name = .ok (Text.trim name) := groupName_eq_ok_iff.mpr ⟨rfl, hblank⟩
    cases hget : s.groups.get? (Text.trim name) with
    | none =>
        refine Or.inr (Or.inl ⟨rfl, ?_⟩)
        simp only [State.groupMembers, hname, hget]
        rfl
    | some other =>
        obtain ⟨view, hengine, _⟩ := h.view_typed
        obtain ⟨found, hreply, _⟩ := h.groupMembers_reply hengine hname hget
        exact Or.inr (Or.inr ⟨other, _, hblank, rfl, hreply⟩)

end Names

/-- Every listed group can be found and removed under its name, after any requests, exactly when the groups file
has only names that are trimmed and not blank. Else the groups with other names are listed all the same, but a
path with such a name leads nowhere or to the group of the trimmed name, and no request changes them. -/
theorem listed_groups_addressed_iff {files : DataFiles} {defaults : Defaults} {d : DataSet}
    (hread : DataSet.read files defaults = .ok d) (cors : Cors) :
    ((∀ requests name,
        let s := (d.state defaults).after cors requests
        Listed cors s name → ∃ g, s.groups.get? name = some g ∧ Addressed cors s name g) ↔
      ∀ g ∈ d.groups, IsGroupName g.name) ∧
    ∀ requests,
      let s := (d.state defaults).after cors requests
      (∀ name, Listed cors s name ↔ ∃ g, s.groups.get? name = some g) ∧
        (∀ name g, s.groups.get? name = some g →
          g.name = name ∧ (Addressed cors s name g ↔ IsGroupName name)) ∧
        ∀ name, ¬IsGroupName name →
          s.groups.get? name = (GroupStore.ofList d.groups).get? name ∧
            ∀ segment, Spells segment name →
              (cors.get s (membersPath segment)).status = 400 ∨
                (cors.get s (membersPath segment)).status = 404 ∨
                ∃ other members, other.name ≠ name ∧ s.groups.get? (Text.trim name) = some other ∧
                  cors.get s (membersPath segment) = .ofJson (other.membersToJson members) := by
  obtain ⟨records, _, hstart⟩ := consistent_of_read hread
  have hnamed : ∀ requests, ((d.state defaults).after cors requests).groups.Named :=
    named_groups_after d defaults cors
  have hfixed : ∀ requests name, ¬IsGroupName name →
      ((d.state defaults).after cors requests).groups.get? name = (GroupStore.ofList d.groups).get? name :=
    fun requests name hname => hstart.get?_after_of_not_isGroupName cors requests hname
  refine ⟨⟨fun haddressed => ?file, fun hfile => ?addressed⟩, fun requests => ?_⟩
  case file =>
    intro seed hseed
    have hput : seed ∈ d.groups.filter fun g => g.name = seed.name := by simpa using hseed
    obtain ⟨g, hget⟩ : ∃ g, (GroupStore.ofList d.groups).get? seed.name = some g := by
      rw [GroupStore.get?_ofList]
      exact ⟨_, List.getLast?_eq_some_getLast (List.ne_nil_of_mem hput)⟩
    obtain ⟨g, hget, hg⟩ := haddressed [] seed.name ((listed_iff cors _ (hnamed [])).mpr ⟨g, hget⟩)
    exact (hstart.addressed_iff cors hget).mp hg
  case addressed =>
    intro requests name s hlisted
    obtain ⟨g, hget⟩ := (listed_iff cors s (hnamed requests)).mp hlisted
    have hname : IsGroupName name := by
      by_contra hname
      have hseed : (GroupStore.ofList d.groups).get? name = some g := (hfixed requests name hname).symm.trans hget
      have hown := hfile g (GroupStore.mem_of_get?_ofList hseed)
      rw [GroupStore.named_ofList d.groups name g hseed] at hown
      exact hname hown
    exact ⟨g, hget, (hstart.after cors requests).addressed cors hname hget⟩
  · intro s
    have h : Consistent records defaults s := hstart.after cors requests
    refine ⟨fun name => listed_iff cors s (hnamed requests), fun name g hget => ?_, fun name hname => ?_⟩
    · exact ⟨hnamed requests name g hget, h.addressed_iff cors hget⟩
    · refine ⟨hfixed requests name hname, fun segment hspells => ?_⟩
      rcases h.get_membersPath_cases cors hspells with ⟨_, hstatus⟩ | ⟨_, hstatus⟩ | ⟨other, members, hne, hget, hreply⟩
      · exact Or.inl hstatus
      · exact Or.inr (Or.inl hstatus)
      · refine Or.inr (Or.inr ⟨other, members, ?_, hget, hreply⟩)
        rintro rfl
        have htrim : other.name = Text.trim other.name := hnamed requests _ other hget
        exact hname ⟨htrim.symm, htrim.trans_ne hne⟩

/-- A group whose name has a space on each side. -/
def spacedFiles : DataFiles := ⟨none, none, some ⟨"groups.json", some "[[\" Linux \"]]"⟩⟩

/-- A request to store a group under this name. -/
def storeSpaced : HttpRequest :=
  ⟨.put, "/api/v1/groups/%20Linux%20", "", some "application/json", "[]", none⟩

theorem spaced_group_listed_not_addressed :
    let d := DataSet.ofFiles spacedFiles .builtin
    DataSet.read spacedFiles .builtin = .ok d ∧
      let cors : Cors := ⟨.any, false, 0⟩
      let s := (d.state .builtin).after cors [storeSpaced]
      (∃ other, s.groups.get? "Linux" = some other) ∧ Listed cors s " Linux " ∧
        ∀ g, s.groups.get? " Linux " = some g → ¬Addressed cors s " Linux " g := by
  intro d
  have hread : DataSet.read spacedFiles .builtin = .ok d := DataSet.read_ofFiles (by decide +kernel)
  have hstored : (((d.state .builtin).after ⟨.any, false, 0⟩ [storeSpaced]).groups.get? "Linux").isSome := by
    decide +kernel
  have hkept : (((d.state .builtin).after ⟨.any, false, 0⟩ [storeSpaced]).groups.get? " Linux ").isSome := by
    decide +kernel
  have hname : ¬IsGroupName " Linux " := by decide
  obtain ⟨hlisted, haddressed, _⟩ := (listed_groups_addressed_iff hread ⟨.any, false, 0⟩).2 [storeSpaced]
  refine ⟨hread, Option.isSome_iff_exists.mp hstored, ?_, fun g hget => ?_⟩
  · exact (hlisted " Linux ").mpr (Option.isSome_iff_exists.mp hkept)
  · exact mt (haddressed " Linux " g hget).2.mp hname

end InventorySearch.Service
