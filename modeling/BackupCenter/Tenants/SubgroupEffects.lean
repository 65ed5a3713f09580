import BackupCenter.Tenants.ConnectionMode
import BackupCenter.Tenants.Subgroups

/-!
# What the subgroup actions do to the devices

An action changes the subgroup of devices of one group, and with it their connection mode. The
legacy keys of a device are removed along with a change of its subgroup only, so on a device
whose subgroup stays the same they go on deciding the mode.
-/
namespace BackupCenter.Tenants

open BackupCenter.Lib

/-! ## What a request asks for -/

section Form

variable (env : Env) (form : SubgroupForm)

def SubgroupForm.actionText : String :=
  env.lower (strip ((nonempty form.action).getD "create"))

def SubgroupForm.mode : Option ConnectionMode :=
  normalizeConnectionTypeValue env (form.connectionType.getD "")

def SubgroupForm.givenName : String :=
  let givenName := strip (form.name.getD "")
  if form.actionText env = "set" ∧ givenName = "" then
    "Subgrupo " ++ ((form.mode env).map ConnectionMode.upper).getD "Direto"
  else givenName

def SubgroupForm.selected : List Uuid := (form.deviceIds.filterMap Field.parse).dedup

end Form

/-- The group, the action and the subgroup that a request is about. -/
structure Resolved (env : Env) (tenantSlug : String) (form : SubgroupForm) (newId : Uuid)
    (db : Database) (tenant : Tenant) (group : DeviceGroup) (action : SubgroupAction)
    (found : Table DeviceSubgroup × Option DeviceSubgroup) : Prop where
  ofTenant : db.tenantBySlug tenantSlug = some tenant
  ofGroup : resolveGroupContext db tenant (.firstGiven form.groupIds) = some group
  ofAction : SubgroupAction.ofText (form.actionText env) = some action
  ofTarget : ∃ refused, targetSubgroup env db.deviceSubgroups tenant.id group.id action form
    (form.givenName env) (form.mode env) newId refused = .ok found

theorem resolved_of_ok {env : Env} {s : Session} {tenantSlug : String} {form : SubgroupForm}
    {newId : Uuid} {db : Database} {c : Database × Reply}
    (h : bulkSubgroupConnection env s tenantSlug form newId db = .ok c) :
    ∃ tenant group action found, Resolved env tenantSlug form newId db tenant group action found ∧
      (action ≠ .updateExisting → action ≠ .deleteExisting → ∃ d ∈ db.devices.rows,
        considered tenant.id group.id action (found.2.map DeviceSubgroup.id) form.selected d =
          true) ∧
      c.1 = db.withMoves found.1 tenant.id group.id action (found.2.map DeviceSubgroup.id)
        form.selected := by
  simp only [bulkSubgroupConnection, bind_eq_ok, tenantAdminRequired_eq_ok, getDbAndTenant_eq_ok,
    demand_eq_ok, require_eq_ok, pure_eq_ok] at h
  obtain ⟨-, -, tenant, ⟨-, htenant⟩, group, hgroup, -, -, action, haction, -, -, -, -, found,
    hfound, -, hdevices, rfl⟩ := h
  refine ⟨tenant, group, action, found, ⟨htenant, hgroup, haction, ⟨_, hfound⟩⟩, ?_, rfl⟩
  intro hupdate hdelete
  apply hdevices
  rw [haction]
  exact ⟨fun he => hupdate (Option.some.inj he), fun he => hdelete (Option.some.inj he)⟩

/-! ## The devices of a group and their modes -/

/-- An active device of the group. -/
def ActiveIn (tenantId groupId : Uuid) (d : Device) : Prop :=
  d.tenantId = tenantId ∧ d.groupId = some groupId ∧ d.isActive ≠ some false

instance (tenantId groupId : Uuid) (d : Device) : Decidable (ActiveIn tenantId groupId d) :=
  inferInstanceAs (Decidable (_ ∧ _ ∧ _))

/-- `get_effective_connection_type(device.group, device=device)` -/
def effectiveMode (env : Env) (db : Database) (d : Device) : Option ConnectionMode :=
  getEffectiveConnectionType env (d.groupId.bind db.deviceGroups.find)
    (d.subgroupId.bind db.deviceSubgroups.find) d.extraParameters

/-- The group's own mode. -/
def ownMode (env : Env) (group : DeviceGroup) : Option ConnectionMode :=
  getEffectiveConnectionType env (some group) none []

/-- What the actions say that they do to the devices. -/
structure DoesWhatItSays (env : Env) (tenantId : Uuid) (group : DeviceGroup)
    (action : SubgroupAction) (target : Option DeviceSubgroup) (selected : List Uuid)
    (db db' : Database) : Prop where
  frame : Table.Untouched (fun d => ¬ ActiveIn tenantId group.id d) db.devices db'.devices
  joined : action = .create ∨ action = .assignExisting →
    ∀ d ∈ db'.devices, ActiveIn tenantId group.id d → d.id ∈ selected → ∃ sg, target = some sg ∧
      d.subgroupId = some sg.id ∧
      effectiveMode env db' d = normalizeConnectionTypeValue env sg.connectionType
  members : action = .updateExisting → ∀ d ∈ db'.devices, ActiveIn tenantId group.id d →
    (d.subgroupId = target.map DeviceSubgroup.id ↔ d.id ∈ selected)
  removed : action = .remove → ∀ d ∈ db'.devices, ActiveIn tenantId group.id d →
    d.id ∈ selected → effectiveMode env db' d = ownMode env group
  deleted : action = .deleteExisting → ∀ d ∈ db.devices, ActiveIn tenantId group.id d →
    d.subgroupId = target.map DeviceSubgroup.id →
    ∀ d' ∈ db'.devices, d'.id = d.id → effectiveMode env db' d' = ownMode env group

/-- Legacy keys do not decide the mode of a device that is removed from no subgroup, and the
subgroup that is assigned has one of the three types. -/
structure NothingLegacy (env : Env) (tenantId : Uuid) (group : DeviceGroup)
    (action : SubgroupAction) (target : Option DeviceSubgroup) (selected : List Uuid)
    (db : Database) : Prop where
  keys : action = .remove → ∀ d ∈ db.devices, ActiveIn tenantId group.id d → d.id ∈ selected →
    d.subgroupId = none →
    getEffectiveConnectionType env (some group) none d.extraParameters = ownMode env group
  types : action = .assignExisting →
    ∀ sg ∈ target, (normalizeConnectionTypeValue env sg.connectionType).isSome

section Modes

variable {env : Env} {group : Option DeviceGroup} {d : Device}

/-- Without the legacy keys and without a subgroup the group decides. -/
theorem mode_of_moved {subgroupId : Option Uuid} :
    getEffectiveConnectionType env group none (d.moved subgroupId).extraParameters =
      getEffectiveConnectionType env group none [] := by
  have hlookup : ∀ k ∈ legacyKeys, (d.moved subgroupId).extraParameters.lookup k = none := by
    intro k hk
    rw [List.lookup_eq_none_iff]
    intro e he
    obtain ⟨-, hkey⟩ := List.mem_filter.mp he
    rw [bne_iff_ne]
    rintro rfl
    exact absurd hk (of_decide_eq_true hkey)
  have hnone : deviceConnectionOverride env none (d.moved subgroupId).extraParameters =
      deviceConnectionOverride env none [] := by
    unfold deviceConnectionOverride
    rw [hlookup "connection_subgroup_type" (by decide),
      hlookup "subgroup_connection_type" (by decide),
      hlookup "connection_subgroup_enabled" (by decide),
      hlookup "subgroup_connection_enabled" (by decide)]
    rfl
  unfold getEffectiveConnectionType
  rw [hnone]

/-- An active subgroup of one of the three types decides. -/
theorem mode_of_subgroup {sg : DeviceSubgroup} {extra : Extra} {mode : ConnectionMode}
    (hactive : sg.isActive = true)
    (htype : normalizeConnectionTypeValue env sg.connectionType = some mode) :
    getEffectiveConnectionType env group (some sg) extra = some mode := by
  have hsubgroup : ((some sg).filter DeviceSubgroup.isActive).bind (fun g =>
      normalizeConnectionTypeValue env g.connectionType) = some mode := by
    rw [Option.filter_some, if_pos hactive, Option.bind_some, htype]
  unfold getEffectiveConnectionType deviceConnectionOverride
  rw [hsubgroup]

/-- A device of a group has some mode. -/
theorem effective_isSome {g : DeviceGroup} {subgroup : Option DeviceSubgroup} {extra : Extra} :
    (getEffectiveConnectionType env (some g) subgroup extra).isSome = true := by
  unfold getEffectiveConnectionType
  split
  · rfl
  · rfl

end Modes

/-! ## The database after a request -/

section Moves

variable {env : Env} {tenantId : Uuid} {group : DeviceGroup} {action : SubgroupAction}
  {target : Option DeviceSubgroup} {selected : List Uuid} {db : Database}
  {subgroups : Table DeviceSubgroup} {d d' : Device}

theorem isMoved_activeIn (h : isMoved tenantId group.id action (target.map DeviceSubgroup.id)
    selected d = true) : ActiveIn tenantId group.id d := by
  simp only [isMoved, considered, Bool.and_eq_true, decide_eq_true_eq] at h
  exact ⟨h.1.1.1.1, h.1.1.1.2, h.1.1.2⟩

theorem frame_withMoves : Table.Untouched (fun d => ¬ ActiveIn tenantId group.id d) db.devices
    (db.withMoves subgroups tenantId group.id action (target.map DeviceSubgroup.id)
      selected).devices := by
  apply (Table.untouched_modify (fun r => Iff.rfl)).mpr
  intro d _ hout hmoved
  exact absurd (isMoved_activeIn hmoved) hout

/-- The device that a device of the group was, and what the loop did to it. -/
theorem device_of_withMoves (h : d' ∈ (db.withMoves subgroups tenantId group.id action
      (target.map DeviceSubgroup.id) selected).devices) (hactive : ActiveIn tenantId group.id d') :
    ∃ d ∈ db.devices, ActiveIn tenantId group.id d ∧ d'.id = d.id ∧
      (considered tenantId group.id action (target.map DeviceSubgroup.id) selected d = false ∧
          d' = d ∨
        considered tenantId group.id action (target.map DeviceSubgroup.id) selected d = true ∧
          d'.subgroupId = nextSubgroupId action (target.map DeviceSubgroup.id) selected d ∧
          (d' = d ∨
            d' = d.moved (nextSubgroupId action (target.map DeviceSubgroup.id) selected d) ∧
              d.subgroupId ≠ nextSubgroupId action (target.map DeviceSubgroup.id) selected d)) := by
  obtain ⟨d, hd, he⟩ := Table.mem_modify.mp h
  by_cases hmoved : isMoved tenantId group.id action (target.map DeviceSubgroup.id) selected d =
      true
  · rw [if_pos hmoved] at he
    have hin := isMoved_activeIn hmoved
    subst he
    simp only [isMoved, Bool.and_eq_true, decide_eq_true_eq] at hmoved
    exact ⟨d, hd, hin, rfl, .inr ⟨hmoved.1, rfl, .inr ⟨rfl, hmoved.2⟩⟩⟩
  · rw [if_neg hmoved] at he
    subst he
    refine ⟨d', hd, hactive, rfl, ?_⟩
    cases hconsidered : considered tenantId group.id action (target.map DeviceSubgroup.id)
        selected d' with
    | false => exact .inl ⟨rfl, rfl⟩
    | true =>
      refine .inr ⟨rfl, ?_, .inl rfl⟩
      simpa [isMoved, hconsidered] using hmoved

/-- A device of the group is looked at by an action on the selected ones if it is selected. -/
theorem considered_selected (haction : action ≠ .updateExisting ∧ action ≠ .deleteExisting)
    (hactive : ActiveIn tenantId group.id d) :
    considered tenantId group.id action (target.map DeviceSubgroup.id) selected d = true ↔
      d.id ∈ selected := by
  obtain ⟨htenant, hgroup, hin⟩ := hactive
  unfold considered
  cases action with
  | updateExisting => exact absurd rfl haction.1
  | deleteExisting => exact absurd rfl haction.2
  | create => simp [htenant, hgroup, hin]
  | assignExisting => simp [htenant, hgroup, hin]
  | remove => simp [htenant, hgroup, hin]

/-- The mode of a device of the group. -/
theorem effectiveMode_eq {db' : Database} (hgroup : db'.deviceGroups.find group.id = some group)
    (hactive : ActiveIn tenantId group.id d) : effectiveMode env db' d =
      getEffectiveConnectionType env (some group) (d.subgroupId.bind db'.deviceSubgroups.find)
        d.extraParameters := by
  unfold effectiveMode
  rw [hactive.2.1, Option.bind_some, hgroup]

end Moves

/-! ## The subgroup of an action -/

section Target

variable {env : Env} {t : Table DeviceSubgroup} {tenantId groupId newId : Uuid}
  {action : SubgroupAction} {form : SubgroupForm} {name : String} {mode : Option ConnectionMode}
  {refused : Reply} {found : Table DeviceSubgroup × Option DeviceSubgroup}

/-- `str.lower` leaves the names of the modes as they are. -/
def KeepsModes (env : Env) : Prop := ∀ mode : ConnectionMode, env.lower mode.text = mode.text

theorem normalize_text (hlower : KeepsModes env) (mode : ConnectionMode) :
    normalizeConnectionTypeValue env mode.text = some mode := by
  have hstrip : strip mode.text = mode.text := by
    cases mode with
    | direct => decide
    | vpn => decide
    | jumpHost => decide
  unfold normalizeConnectionTypeValue
  rw [hstrip, hlower mode]
  cases mode with
  | direct => rfl
  | vpn => rfl
  | jumpHost => rfl

/-- A subgroup that is found by its name or created is active and has the chosen mode. -/
theorem getOrCreateByName_active {mode : ConnectionMode} {t' : Table DeviceSubgroup}
    {sg : DeviceSubgroup}
    (h : getOrCreateByName env t tenantId groupId name mode newId = .ok (t', sg)) :
    sg.isActive = true ∧ sg.connectionType = mode.text := by
  simp only [getOrCreateByName] at h
  split at h
  next old hfind =>
    obtain ⟨-, rfl⟩ := Prod.mk.inj (Except.ok.inj h)
    have hold := List.find?_some hfind
    simp only [Bool.and_eq_true] at hold
    exact ⟨hold.1.2, rfl⟩
  next =>
    simp only [bind_eq_ok, require_eq_ok, demand_eq_ok, pure_eq_ok, Prod.mk.injEq] at h
    obtain ⟨-, -, -, -, -, rfl⟩ := h
    exact ⟨rfl, rfl⟩

/-- Devices are moved into an active subgroup that is stored, one that was created or changed with
the chosen mode. -/
theorem targetSubgroup_joined (haction : action = .create ∨ action = .assignExisting)
    (h : targetSubgroup env t tenantId groupId action form name mode newId refused = .ok found) :
    ∃ sg, found.2 = some sg ∧ sg.isActive = true ∧ found.1.find sg.id = some sg ∧
      (action = .create → ∃ mode : ConnectionMode, sg.connectionType = mode.text) := by
  have hstored := (targetSubgroup_change h).stored
  rcases haction with rfl | rfl
  · simp only [targetSubgroup, bind_eq_ok, demand_eq_ok, orRefuse_eq_ok, pure_eq_ok] at h
    obtain ⟨mode, -, ⟨t', sg⟩, hcreated, rfl⟩ := h
    obtain ⟨hactive, htype⟩ := getOrCreateByName_active hcreated
    exact ⟨sg, rfl, hactive, Table.find_eq_some.mpr ⟨(hstored sg rfl).1, rfl⟩, fun _ =>
      ⟨mode, htype⟩⟩
  · simp only [targetSubgroup, bind_eq_ok, demand_eq_ok, pure_eq_ok] at h
    obtain ⟨sg, hsg, rfl⟩ := h
    refine ⟨sg, rfl, ?_, Table.find_eq_some.mpr ⟨(hstored sg rfl).1, rfl⟩, by simp⟩
    have hkept := (Option.filter_eq_some_iff.mp hsg).2
    simp only [Bool.and_eq_true] at hkept
    exact hkept.2

end Target

/-! ## The actions -/

section Actions

variable {env : Env} {tenantSlug : String} {form : SubgroupForm} {newId : Uuid}
  {db db' : Database} {tenant : Tenant} {group : DeviceGroup} {action : SubgroupAction}
  {found : Table DeviceSubgroup × Option DeviceSubgroup} {selected : List Uuid} {d : Device}

theorem Resolved.group_stored
    (h : Resolved env tenantSlug form newId db tenant group action found) :
    db.deviceGroups.find group.id = some group := by
  obtain ⟨id, -, hgroup⟩ := Option.bind_eq_some_iff.mp h.ofGroup
  obtain ⟨hmem, -, -⟩ := tenantGroup_eq_some.mp hgroup
  exact Table.find_eq_some.mpr ⟨hmem, rfl⟩

/-- A device that was moved into an active subgroup has its mode. -/
theorem joined_mode (h : Resolved env tenantSlug form newId db tenant group action found)
    (hdb : db' = db.withMoves found.1 tenant.id group.id action
      (found.2.map DeviceSubgroup.id) selected)
    (haction : action = .create ∨ action = .assignExisting) (hd : d ∈ db'.devices)
    (hactive : ActiveIn tenant.id group.id d) (hselected : d.id ∈ selected) :
    ∃ sg, found.2 = some sg ∧ d.subgroupId = some sg.id ∧
      effectiveMode env db' d =
        getEffectiveConnectionType env (some group) (some sg) d.extraParameters := by
  obtain ⟨refused, htarget⟩ := h.ofTarget
  obtain ⟨sg, hsg, -, hstored, -⟩ := targetSubgroup_joined haction htarget
  have hnot : action ≠ .updateExisting ∧ action ≠ .deleteExisting := by
    rcases haction with rfl | rfl <;> exact ⟨nofun, nofun⟩
  subst hdb
  have hsubgroup : d.subgroupId = some sg.id := by
    obtain ⟨old, -, hold, hid, hcase⟩ := device_of_withMoves hd hactive
    have hconsidered := (@considered_selected tenant.id group action found.2 selected old hnot
      hold).mpr (hid ▸ hselected)
    rcases hcase with ⟨hskipped, -⟩ | ⟨-, hnext, -⟩
    · exact absurd hconsidered (by rw [hskipped]; exact Bool.false_ne_true)
    · rw [hnext, hsg]
      rcases haction with rfl | rfl <;> rfl
  refine ⟨sg, hsg, hsubgroup, ?_⟩
  have hgroup : (db.withMoves found.1 tenant.id group.id action
      (found.2.map DeviceSubgroup.id) selected).deviceGroups.find group.id = some group :=
    h.group_stored
  rw [effectiveMode_eq hgroup hactive, hsubgroup, Option.bind_some]
  have hsubgroups : (db.withMoves found.1 tenant.id group.id action
      (found.2.map DeviceSubgroup.id) selected).deviceSubgroups = found.1 := if_neg hnot.2
  rw [hsubgroups, hstored]

/-- The former and the new members after an update of a subgroup. -/
theorem updated_members (hdb : db' = db.withMoves found.1 tenant.id group.id .updateExisting
      (found.2.map DeviceSubgroup.id) selected) (hsome : found.2.isSome)
    (hd : d ∈ db'.devices) (hactive : ActiveIn tenant.id group.id d) :
    d.subgroupId = found.2.map DeviceSubgroup.id ↔ d.id ∈ selected := by
  obtain ⟨sg, hsg⟩ := Option.isSome_iff_exists.mp hsome
  subst hdb
  obtain ⟨old, -, ⟨htenant, hgroup, hin⟩, hid, hcase⟩ := device_of_withMoves hd hactive
  rcases hcase with ⟨hskipped, -⟩ | ⟨-, hnext, -⟩
  · simp [considered, htenant, hgroup, hin] at hskipped
  · rw [hnext, hid, hsg]
    simp only [nextSubgroupId, Option.map_some]
    by_cases hselected : old.id ∈ selected
    · simp [hselected]
    · rw [if_neg hselected]
      split_ifs with hmember
      · simp [hselected]
      · simp [hselected, hmember]

/-- A device that was removed from no subgroup is as it was, any other is on its group's mode. -/
theorem removed_mode (hgroup : db.deviceGroups.find group.id = some group)
    (hdb : db' = db.withMoves found.1 tenant.id group.id .remove
      (found.2.map DeviceSubgroup.id) selected) (hd : d ∈ db'.devices)
    (hactive : ActiveIn tenant.id group.id d) (hselected : d.id ∈ selected) :
    d.subgroupId = none ∧ (effectiveMode env db' d = ownMode env group ∨ d ∈ db.devices) := by
  subst hdb
  obtain ⟨old, hold, hactive', hid, hcase⟩ := device_of_withMoves hd hactive
  have hconsidered := (@considered_selected tenant.id group .remove found.2 selected old
    ⟨nofun, nofun⟩ hactive').mpr (hid ▸ hselected)
  rcases hcase with ⟨hskipped, -⟩ | ⟨-, hnext, rfl | ⟨rfl, -⟩⟩
  · exact absurd hconsidered (by rw [hskipped]; exact Bool.false_ne_true)
  · exact ⟨hnext, .inr hold⟩
  · refine ⟨hnext, .inl ?_⟩
    have hgroup' : (db.withMoves found.1 tenant.id group.id .remove
        (found.2.map DeviceSubgroup.id) selected).deviceGroups.find group.id = some group := hgroup
    rw [effectiveMode_eq hgroup' hactive, hnext]
    exact mode_of_moved

/-- The members of a subgroup that was deleted are on the mode of the group. -/
theorem deleted_mode (hgroup : db.deviceGroups.find group.id = some group)
    (hdb : db' = db.withMoves found.1 tenant.id group.id .deleteExisting
      (found.2.map DeviceSubgroup.id) selected) (hsome : found.2.isSome) (hd : d ∈ db.devices)
    (hactive : ActiveIn tenant.id group.id d)
    (hmember : d.subgroupId = found.2.map DeviceSubgroup.id) {d' : Device}
    (hd' : d' ∈ db'.devices) (hid : d'.id = d.id) :
    effectiveMode env db' d' = ownMode env group := by
  obtain ⟨sg, hsg⟩ := Option.isSome_iff_exists.mp hsome
  subst hdb
  have hmoved : isMoved tenant.id group.id .deleteExisting (found.2.map DeviceSubgroup.id)
      selected d = true := by
    obtain ⟨htenant, hin, hon⟩ := hactive
    simp [isMoved, considered, nextSubgroupId, htenant, hin, hon, hmember, hsg]
  obtain ⟨old, hold, he⟩ := Table.mem_modify.mp hd'
  have hsame : old = d := by
    apply Table.eq_of_key hold hd
    have hkeep : d'.id = old.id := by
      rw [he]
      split
      · rfl
      · rfl
    exact hkeep.symm.trans hid
  subst hsame
  have hnext : nextSubgroupId .deleteExisting (found.2.map DeviceSubgroup.id) selected old = none :=
    if_pos hmember
  rw [if_pos hmoved] at he
  replace he : d' = old.moved (nextSubgroupId .deleteExisting (found.2.map DeviceSubgroup.id)
    selected old) := he
  rw [hnext] at he
  subst he
  have hgroup' : (db.withMoves found.1 tenant.id group.id .deleteExisting
      (found.2.map DeviceSubgroup.id) selected).deviceGroups.find group.id = some group := hgroup
  rw [effectiveMode_eq (d := old.moved none) hgroup' hactive]
  exact mode_of_moved

theorem target_isSome (h : Resolved env tenantSlug form newId db tenant group action found)
    (haction : action = .updateExisting ∨ action = .deleteExisting) : found.2.isSome := by
  obtain ⟨refused, htarget⟩ := h.ofTarget
  rcases haction with rfl | rfl
  · simp only [targetSubgroup, bind_eq_ok, demand_eq_ok, require_eq_ok, pure_eq_ok] at htarget
    obtain ⟨mode, -, sg, -, -, -, rfl⟩ := htarget
    rfl
  · simp only [targetSubgroup, bind_eq_ok, demand_eq_ok, pure_eq_ok] at htarget
    obtain ⟨sg, -, rfl⟩ := htarget
    rfl

/-- A device that is removed from no subgroup is not written. -/
theorem kept_of_removed (hd : d ∈ db.devices) (hnone : d.subgroupId = none) :
    d ∈ (db.withMoves found.1 tenant.id group.id .remove (found.2.map DeviceSubgroup.id)
      selected).devices := by
  refine Table.mem_modify.mpr ⟨d, hd, ?_⟩
  rw [if_neg]
  simp [isMoved, nextSubgroupId, hnone]

/-- A device that the loop looks at is stored afterwards, with what the loop made of it. -/
theorem exists_after (hd : d ∈ db.devices) (hactive : ActiveIn tenant.id group.id d) :
    ∃ d' ∈ (db.withMoves found.1 tenant.id group.id action (found.2.map DeviceSubgroup.id)
      selected).devices, ActiveIn tenant.id group.id d' ∧ d'.id = d.id := by
  refine ⟨_, Table.mem_modify.mpr ⟨d, hd, rfl⟩, ?_⟩
  split
  · exact ⟨hactive, rfl⟩
  · exact ⟨hactive, rfl⟩

end Actions

/-- What is stored after a request: a refusal commits nothing. -/
def Database.after (db : Database) : Result → Database
  | .ok (db', _) => db'
  | .error _ => db

namespace LegacyDevice

def group : DeviceGroup where
  id := 2
  tenantId := 1
  name := "core"
  slug := "core"

def device : Device where
  id := 3
  tenantId := 1
  groupId := some 2
  name := "sw1"
  ipAddress := "10.0.0.1"
  username := "admin"
  passwordEncrypted := ""
  extraParameters := [("connection_subgroup_type", ⟨"vpn", true⟩)]

def db : Database where
  tenants := [{ id := 1, slug := "acme" }]
  devices := { rows := [device] }
  deviceGroups := { rows := [group] }

def form : SubgroupForm where
  groupIds := [.value 2]
  action := some "remove"
  deviceIds := [.value 3]

def session : Session where
  userId := 7
  role := .tenantAdmin
  tenantSlug := "acme"

end LegacyDevice

end BackupCenter.Tenants
