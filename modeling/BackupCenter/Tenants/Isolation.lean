import BackupCenter.Tenants.Devices
import BackupCenter.Tenants.Roles
import BackupCenter.Tenants.Subgroups

/-!
# Isolation of tenants

What a request of a tenant session may change: rows of its own tenant, and references of its
own devices to its own groups and subgroups. Three routes leave this frame, each in a way
that can be read off the identifiers of the request.
-/
namespace BackupCenter.Tenants

open BackupCenter.Lib

/-- What a device refers to for its connection. -/
inductive Ref where
  | group (id : Uuid)
  | subgroup (id : Uuid)

def Device.RefersTo (d : Device) : Ref → Prop
  | .group id => d.groupId = some id
  | .subgroup id => d.subgroupId = some id

/-- The group or subgroup is of another tenant. -/
def Database.Foreign (db : Database) (tenantId : Uuid) : Ref → Prop
  | .group id => ∃ g ∈ db.deviceGroups, g.id = id ∧ g.tenantId ≠ tenantId
  | .subgroup id => ∃ sg ∈ db.deviceSubgroups, sg.id = id ∧ sg.tenantId ≠ tenantId

/-- No row of another tenant is changed, and no device of the tenant gets a reference to a
group or subgroup of another tenant. -/
structure Isolated (tenantId : Uuid) (db db' : Database) : Prop where
  devices : Table.Untouched (fun d => d.tenantId ≠ tenantId) db.devices db'.devices
  deviceGroups : Table.Untouched (fun g => g.tenantId ≠ tenantId) db.deviceGroups db'.deviceGroups
  deviceSubgroups :
    Table.Untouched (fun sg => sg.tenantId ≠ tenantId) db.deviceSubgroups db'.deviceSubgroups
  users : Table.Untouched (fun u => u.tenantId ≠ some tenantId) db.users db'.users
  references : ∀ d ∈ db'.devices, d.tenantId = tenantId → ∀ ref, d.RefersTo ref →
    db'.Foreign tenantId ref → ∃ d₀ ∈ db.devices, d₀.id = d.id ∧ d₀.RefersTo ref

variable {T : Uuid} {db db' : Database}

theorem Isolated.refl (T : Uuid) (db : Database) : Isolated T db db where
  devices := .refl _ _
  deviceGroups := .refl _ _
  deviceSubgroups := .refl _ _
  users := .refl _ _
  references d hd _ _ href _ := ⟨d, hd, rfl, href⟩

/-- No device of the tenant refers to a group or subgroup of another tenant. -/
def Database.OwnReferences (db : Database) (tenantId : Uuid) : Prop :=
  ∀ d ∈ db.devices, d.tenantId = tenantId → ∀ ref, d.RefersTo ref → ¬ db.Foreign tenantId ref

/-- An isolated change keeps the devices of the tenant on their own groups and subgroups. -/
theorem Isolated.ownReferences (h : Isolated T db db') (hdb : db.OwnReferences T) :
    db'.OwnReferences T := by
  intro d hd hown ref href hforeign
  obtain ⟨d₀, hd₀, hid, href₀⟩ := h.references d hd hown ref href hforeign
  have hown₀ : d₀.tenantId = T := by
    by_contra hne
    obtain rfl := Table.eq_of_key ((h.devices d₀ hne).mp hd₀) hd hid
    exact hne hown
  apply hdb d₀ hd₀ hown₀ ref href₀
  cases ref with
  | group i =>
    obtain ⟨g, hg, hgi, hne⟩ := hforeign
    exact ⟨g, (h.deviceGroups g hne).mpr hg, hgi, hne⟩
  | subgroup i =>
    obtain ⟨sg, hsg, hsgi, hne⟩ := hforeign
    exact ⟨sg, (h.deviceSubgroups sg hne).mpr hsg, hsgi, hne⟩

/-- Changes of the users of the tenant are isolated. -/
theorem isolated_users {users : Table User}
    (h : Table.Untouched (fun u => u.tenantId ≠ some T) db.users users) :
    Isolated T db { db with users } :=
  { Isolated.refl T db with users := h }

/-- A change of a group that keeps its tenant is isolated unless it changes a foreign row. -/
theorem isolated_withGroup {g : DeviceGroup} {f : Update DeviceGroup} (hg : g ∈ db.deviceGroups)
    (hf : ∀ a, (f.apply a).tenantId = a.tenantId) :
    Isolated T db (db.withGroup g.id f) ↔ (g.tenantId ≠ T → f.apply g = g) := by
  have hgroups : Table.Untouched (fun a => a.tenantId ≠ T) db.deviceGroups
      (db.withGroup g.id f).deviceGroups ↔ (g.tenantId ≠ T → f.apply g = g) :=
    Table.untouched_modify_at (fun a => by rw [hf]) hg fun _ => decide_eq_true_iff
  constructor
  · intro h
    exact hgroups.mp h.deviceGroups
  · intro h
    exact { Isolated.refl T db with
      deviceGroups := hgroups.mpr h
      references := fun d hd _ _ href _ => ⟨d, hd, rfl, href⟩ }

/-! ## Devices -/

/-- A reference after an update that adds none was there before. -/
theorem referred_before {t : Table Device} {p : Device → Bool} {f : Update Device} {d : Device}
    {ref : Ref} (hd : d ∈ t.modify p f) (href : d.RefersTo ref)
    (hf : ∀ a ∈ t, p a = true → (f.apply a).RefersTo ref → a.RefersTo ref) :
    ∃ d₀ ∈ t, d₀.id = d.id ∧ d₀.RefersTo ref := by
  obtain ⟨a, ha, rfl⟩ := Table.mem_modify.mp hd
  by_cases hp : p a = true
  · rw [if_pos hp] at href ⊢
    exact ⟨a, ha, (f.keeps a).symm, hf a ha hp href⟩
  · rw [if_neg hp] at href ⊢
    exact ⟨a, ha, rfl, href⟩

/-- A deactivation is isolated unless it hits an active device of another tenant. -/
theorem isolated_deactivated {d : Device} (hd : d ∈ db.devices) :
    Isolated T db (db.withDevice d.id { apply := fun a => { a with isActive := some false } }) ↔
      (d.tenantId ≠ T → d.isActive = some false) := by
  have hsame : ({ d with isActive := some false } : Device) = d ↔ d.isActive = some false := by
    constructor
    · intro h
      exact (congrArg Device.isActive h).symm
    · intro h
      rw [← h]
  have hdevices : Table.Untouched (fun a => a.tenantId ≠ T) db.devices
      (db.devices.modify (fun a => a.id = d.id)
        { apply := fun a => { a with isActive := some false } }) ↔
      (d.tenantId ≠ T → { d with isActive := some false } = d) :=
    Table.untouched_modify_at (fun _ => Iff.rfl) hd fun _ => decide_eq_true_iff
  rw [hsame] at hdevices
  constructor
  · intro h
    exact hdevices.mp h.devices
  · intro h
    refine { Isolated.refl T db with devices := hdevices.mpr h, references := ?_ }
    intro a ha _ ref href _
    apply referred_before ha href
    intro b _ _ hb
    cases ref <;> exact hb

/-- An edit of an own device is isolated unless it moves the device to a foreign group. -/
theorem isolated_edited {d : Device} {f : Update Device} {groupId : Option Uuid}
    (hd : d ∈ db.devices) (hown : d.tenantId = T)
    (htenant : ∀ a, (f.apply a).tenantId = a.tenantId)
    (hgroup : ∀ a, (f.apply a).groupId = groupId)
    (hsubgroup : ∀ a, (f.apply a).subgroupId = a.subgroupId) :
    Isolated T db (db.withDevice d.id f) ↔
      ∀ g, groupId = some g → db.Foreign T (.group g) → d.groupId = some g := by
  constructor
  · intro h g hg hforeign
    have hmem : f.apply d ∈ (db.withDevice d.id f).devices :=
      Table.mem_modify.mpr ⟨d, hd, by simp⟩
    obtain ⟨d₀, hd₀, hid, href⟩ := h.references _ hmem ((htenant d).trans hown) (.group g)
      ((hgroup d).trans hg) hforeign
    obtain rfl := Table.eq_of_key hd₀ hd (hid.trans (f.keeps d))
    exact href
  · intro h
    refine { Isolated.refl T db with devices := ?_, references := ?_ }
    · refine (Table.untouched_modify_at (fun a => by rw [htenant]) hd
        fun _ => decide_eq_true_iff).mpr ?_
      intro hne
      exact absurd hown hne
    · intro a ha _ ref href hforeign
      apply referred_before ha href
      intro b hb hp hnew
      obtain rfl := Table.eq_of_key hb hd (of_decide_eq_true hp)
      cases ref with
      | group g => exact h g ((hgroup b).symm.trans hnew) hforeign
      | subgroup i => exact (hsubgroup b).symm.trans hnew

/-- The moves of `bulk_subgroup_connection` are isolated. -/
theorem isolated_withMoves {subgroups : Table DeviceSubgroup} {groupId : Uuid}
    {action : SubgroupAction} {target : Option DeviceSubgroup} {selected : List Uuid}
    (h : OwnTarget T db.deviceSubgroups subgroups target) :
    Isolated T db (db.withMoves subgroups T groupId action (target.map DeviceSubgroup.id)
      selected) := by
  have hsubgroups : Table.Untouched (fun sg => sg.tenantId ≠ T) subgroups
      (db.withMoves subgroups T groupId action (target.map DeviceSubgroup.id)
        selected).deviceSubgroups := by
    unfold Database.withMoves
    split
    · apply Table.untouched_modify_of (fun _ => Iff.rfl)
      intro a ha hp hne
      obtain ⟨sg, hsg, hid⟩ := Option.map_eq_some_iff.mp (of_decide_eq_true hp).symm
      obtain ⟨hmem, hsgown⟩ := h.stored sg hsg
      obtain rfl := Table.eq_of_key hmem ha hid
      exact hne hsgown
    · exact .refl _ _
  refine { Isolated.refl T db with
    devices := Table.untouched_modify_of (fun _ => Iff.rfl) fun a _ hp hne => hne (isMoved_own hp).1
    deviceSubgroups := h.untouched.trans hsubgroups
    references := ?_ }
  intro a ha _ ref href hforeign
  apply referred_before ha href
  intro b _ _ hnew
  cases ref with
  | group g => exact hnew
  | subgroup i =>
    rcases nextSubgroupId_cases action (target.map DeviceSubgroup.id) selected b with
      hnone | hkeep | htarget
    · cases hnone.symm.trans hnew
    · exact hkeep.symm.trans hnew
    · -- the target is an own subgroup, so no foreign one has its id
      obtain ⟨sg, hsg, hid⟩ := Option.map_eq_some_iff.mp (htarget.symm.trans hnew)
      obtain ⟨hmem, hsgown⟩ := h.stored sg hsg
      obtain ⟨c, hc, hci, hcne⟩ := hforeign
      obtain rfl := Table.eq_of_key ((hsubgroups c hcne).mpr hc) hmem (hci.trans hid.symm)
      exact absurd hsgown hcne

/-! ## Deleting a group -/

/-- The deletion of a group is isolated exactly when everything it reaches is of the tenant. -/
theorem isolated_withoutGroup {g : DeviceGroup} (hg : g ∈ db.deviceGroups) :
    Isolated T db (db.withoutGroup g.id) ↔ g.tenantId = T ∧
      (∀ sg ∈ db.deviceSubgroups, sg.groupId = g.id → sg.tenantId = T) ∧
      ∀ d ∈ db.devices, db.InSubgroupOf g.id d → d.tenantId = T := by
  have hgroups : Table.Untouched (fun a => a.tenantId ≠ T) db.deviceGroups
      (db.withoutGroup g.id).deviceGroups ↔ g.tenantId = T :=
    (Table.untouched_erase_at hg fun _ => decide_eq_true_iff).trans not_not
  have hsubgroups : Table.Untouched (fun a => a.tenantId ≠ T) db.deviceSubgroups
      (db.withoutGroup g.id).deviceSubgroups ↔
      ∀ sg ∈ db.deviceSubgroups, sg.groupId = g.id → sg.tenantId = T := by
    refine Table.untouched_erase.trans (forall₂_congr fun sg _ => ?_)
    rw [decide_eq_false_iff_not, not_imp_not]
  have hdevices : Table.Untouched (fun a => a.tenantId ≠ T) db.devices
      (db.withoutGroup g.id).devices ↔
      ∀ d ∈ db.devices, db.InSubgroupOf g.id d → d.tenantId = T := by
    apply (Table.untouched_modify fun _ => Iff.rfl).trans
    constructor
    · intro h d hd hin
      by_contra hne
      have hcleared := congrArg Device.subgroupId (h d hd hne (decide_eq_true hin))
      obtain ⟨sg, -, -, hsub⟩ := hin
      rw [hsub] at hcleared
      cases hcleared
    · intro h d hd hne hp
      exact absurd (h d hd (of_decide_eq_true hp)) hne
  constructor
  · intro h
    exact ⟨hgroups.mp h.deviceGroups, hsubgroups.mp h.deviceSubgroups, hdevices.mp h.devices⟩
  · rintro ⟨hown, hsub, hdev⟩
    refine { Isolated.refl T db with
      devices := hdevices.mpr hdev
      deviceGroups := hgroups.mpr hown
      deviceSubgroups := hsubgroups.mpr hsub
      references := ?_ }
    intro a ha _ ref href _
    apply referred_before ha href
    intro b _ _ hnew
    cases ref with
    | group i => exact hnew
    | subgroup i => cases hnew

/-- The service deletes the group within the tenant: a used group is only deactivated, an
unused one takes its subgroups along and clears the devices in them. -/
def Database.DeletesWithin (db : Database) (env : Env) (T : Uuid) (g : DeviceGroup) : Prop :=
  if db.GroupUsed g.id then g.tenantId ≠ T → g.isActive = some false
  else db.SubgroupsDeletable env g.id → g.tenantId = T ∧
    (∀ sg ∈ db.deviceSubgroups, sg.groupId = g.id → sg.tenantId = T) ∧
    ∀ d ∈ db.devices, db.InSubgroupOf g.id d → d.tenantId = T

theorem isolated_deletedGroup {env : Env} {g : DeviceGroup} (hg : g ∈ db.deviceGroups) :
    (∀ db', db.deletedGroup env g.id = some db' → Isolated T db db') ↔
      db.DeletesWithin env T g := by
  have hsome : ∀ d : Database, (∀ db', some d = some db' → Isolated T db db') ↔ Isolated T db d :=
    fun d => ⟨fun h => h d rfl, fun h db' hdb => Option.some.inj hdb ▸ h⟩
  unfold Database.deletedGroup Database.DeletesWithin
  split
  next =>
    have hsame : ({ g with isActive := some false } : DeviceGroup) = g ↔
        g.isActive = some false := by
      constructor
      · intro h
        exact (congrArg DeviceGroup.isActive h).symm
      · intro h
        rw [← h]
    rw [hsome, ← hsame]
    exact isolated_withGroup hg fun _ => rfl
  next =>
    split
    next hdel =>
      rw [hsome, isolated_withoutGroup hg]
      exact ⟨fun h _ => h, fun h => h hdel⟩
    next hdel => exact ⟨fun _ h => absurd h hdel, fun _ _ h => nomatch h⟩

/-! ## Requests -/

/-- The requests that change devices, groups, subgroups and users of a tenant. -/
inductive Request where
  | editDevice (deviceId : Field Uuid) (form : DeviceForm)
  | deleteDevice (deviceId : Field Uuid)
  | bulkSubgroupConnection (form : SubgroupForm) (newId : Uuid)
  | editGroup (groupId : Field Uuid) (form : GroupForm)
  | toggleGroupActive (groupId : Field Uuid) (action : Option String)
  | deleteGroup (groupId : Field Uuid)
  | runBackupAll (groupId : Field Uuid) (includeUnscheduled : Option String) (taskId : String)
  | user (r : UserRequest)

def Request.serve (env : Env) (s : Session) (tenantSlug : String) (db : Database) :
    Request → Result
  | .editDevice deviceId form => Tenants.editDevice env s tenantSlug deviceId form db
  | .deleteDevice deviceId => Tenants.deleteDevice env s tenantSlug deviceId db
  | .bulkSubgroupConnection form newId =>
    Tenants.bulkSubgroupConnection env s tenantSlug form newId db
  | .editGroup groupId form => Tenants.editGroup env s tenantSlug groupId form db
  | .toggleGroupActive groupId action =>
    Tenants.toggleGroupActive env s tenantSlug groupId action db
  | .deleteGroup groupId => Tenants.deleteGroup env s tenantSlug groupId db
  | .runBackupAll groupId includeUnscheduled taskId => do
    let started ← Tenants.runBackupAll env s tenantSlug groupId includeUnscheduled taskId db
    return (db, started.2)
  | .user r => r.serve env s tenantSlug db

/-- The identifiers of the request stay within the tenant where no route compares them: the
group an accepted device form names, the device to delete, and the group to delete. -/
def Request.Confined (env : Env) (s : Session) (tenantSlug : String) (tenant : Tenant)
    (db : Database) : Request → Prop
  | .editDevice deviceId form => s.Admitted tenantSlug → ∀ id d typeId port,
      deviceId.parse = some id → tenantDevice db tenant id = some d →
      EditDeviceAccepted env db s d form typeId port →
      ∀ g, form.groupId.parse = some g → db.Foreign tenant.id (.group g) → d.groupId = some g
  | .deleteDevice deviceId => s.Admitted tenantSlug → ∀ d ∈ db.devices,
      deviceId.parse = some d.id → d.tenantId ≠ tenant.id → d.isActive = some false
  | .deleteGroup groupId => s.Admitted tenantSlug → ∀ g ∈ db.deviceGroups,
      groupId.parse = some g.id → db.DeletesWithin env tenant.id g
  | _ => True

section Isolation

variable {env : Env} {s : Session} {tenantSlug : String} {tenant : Tenant}

theorem editDevice_isolated_iff {deviceId : Field Uuid} {form : DeviceForm}
    (hs : s.role ≠ .superAdmin) (hown : db.tenantBySlug s.tenantSlug = some tenant) :
    Isolated tenant.id db (settled db (editDevice env s tenantSlug deviceId form db)).1 ↔
      (Request.editDevice deviceId form).Confined env s tenantSlug tenant db := by
  rw [settled_iff (Isolated.refl _ _)]
  simp only [editDevice_commits]
  have hedit : ∀ {id d typeId port}, tenantDevice db tenant id = some d →
      (Isolated tenant.id db (db.withDevice d.id
        { apply := fun d => d.edited env db s form typeId port }) ↔
      ∀ g, form.groupId.parse = some g → db.Foreign tenant.id (.group g) → d.groupId = some g) := by
    intro id d typeId port hd
    obtain ⟨hmem, -, hdown⟩ := tenantDevice_eq_some.mp hd
    exact isolated_edited hmem hdown (fun _ => rfl) (fun _ => rfl) fun _ => rfl
  constructor
  · intro h hadm id d typeId port hid hd hacc
    have ht : db.tenantBySlug tenantSlug = some tenant := hadm.2.resolve_left hs ▸ hown
    exact (hedit hd).mp (h _ ⟨hadm, tenant, id, d, typeId, port, ht, hid, hd, hacc, rfl⟩)
  · rintro h db' ⟨hadm, t, id, d, typeId, port, ht, hid, hd, hacc, rfl⟩
    obtain rfl := hadm.ownTenant hs hown ht
    exact (hedit hd).mpr (h hadm id d typeId port hid hd hacc)

theorem deleteDevice_isolated_iff {deviceId : Field Uuid} (hs : s.role ≠ .superAdmin)
    (hown : db.tenantBySlug s.tenantSlug = some tenant) :
    Isolated tenant.id db (settled db (deleteDevice env s tenantSlug deviceId db)).1 ↔
      (Request.deleteDevice deviceId).Confined env s tenantSlug tenant db := by
  rw [settled_iff (Isolated.refl _ _)]
  simp only [deleteDevice_commits]
  constructor
  · intro h hadm d hd hid
    have ht : db.tenantBySlug tenantSlug = some tenant := hadm.2.resolve_left hs ▸ hown
    exact (isolated_deactivated hd).mp
      (h _ ⟨hadm, Option.isSome_of_eq_some ht, d, hd, hid, rfl⟩)
  · rintro h db' ⟨hadm, -, d, hd, hid, rfl⟩
    exact (isolated_deactivated hd).mpr (h hadm d hd hid)

theorem deleteGroup_isolated_iff {groupId : Field Uuid} (hs : s.role ≠ .superAdmin)
    (hown : db.tenantBySlug s.tenantSlug = some tenant) :
    Isolated tenant.id db (settled db (deleteGroup env s tenantSlug groupId db)).1 ↔
      (Request.deleteGroup groupId).Confined env s tenantSlug tenant db := by
  rw [settled_iff (Isolated.refl _ _)]
  simp only [deleteGroup_commits]
  constructor
  · intro h hadm g hg hid
    have ht : db.tenantBySlug tenantSlug = some tenant := hadm.2.resolve_left hs ▸ hown
    exact (isolated_deletedGroup hg).mp fun db' hdb =>
      h db' ⟨hadm, Option.isSome_of_eq_some ht, g, hg, hid, hdb⟩
  · rintro h db' ⟨hadm, -, g, hg, hid, hdb⟩
    exact (isolated_deletedGroup hg).mpr (h hadm g hg hid) db' hdb

/-- The routes that compare the tenant of all they change are isolated. -/
theorem isolated_ownGroup {g : DeviceGroup} {id : Uuid} {f : Update DeviceGroup}
    (hg : tenantGroup db tenant id = some g) (hf : ∀ a, (f.apply a).tenantId = a.tenantId) :
    Isolated tenant.id db (db.withGroup g.id f) := by
  obtain ⟨hmem, -, hown⟩ := tenantGroup_eq_some.mp hg
  exact (isolated_withGroup hmem hf).mpr fun hne => absurd hown hne

theorem userRequest_isolated {r : UserRequest} (hs : s.role ≠ .superAdmin)
    (hown : db.tenantBySlug s.tenantSlug = some tenant) :
    Isolated tenant.id db (settled db (r.serve env s tenantSlug db)).1 := by
  have hmodify : ∀ {user : User} {f : Update User}, user ∈ db.users →
      user.tenantId = some tenant.id → (∀ u, (f.apply u).tenantId = u.tenantId) →
      Table.Untouched (fun u => u.tenantId ≠ some tenant.id) db.users
        (db.users.modify (fun u => u.id = user.id) f) := by
    intro user f hmem huser hf
    refine (Table.untouched_modify_at (fun u => by rw [hf]) hmem
      fun _ => decide_eq_true_iff).mpr ?_
    intro hne
    exact absurd huser hne
  apply settled_of (.refl _ _)
  intro c hc
  cases r with
  | add form newId =>
    obtain ⟨hadm, t, hash, role, users, ht, -, -, hadd, hdb⟩ := addUser_committed hc
    obtain rfl := hadm.ownTenant hs hown ht
    exact hdb ▸ isolated_users (Table.untouched_of_add hadd fun hne => hne rfl)
  | edit userId form =>
    obtain ⟨hadm, t, id, user, role, hash, ht, -, huser, -, -, hdb⟩ := editUser_committed hc
    obtain rfl := hadm.ownTenant hs hown ht
    obtain ⟨hmem, -, howner⟩ := tenantUser_eq_some.mp huser
    exact hdb ▸ isolated_users (hmodify hmem howner fun _ => rfl)
  | delete userId =>
    obtain ⟨hadm, t, user, ht, hmem, howner, hdb | hdb⟩ := deleteUser_committed hc <;>
      obtain rfl := hadm.ownTenant hs hown ht
    · exact hdb ▸ isolated_users (hmodify hmem howner fun _ => rfl)
    · rw [hdb]
      exact isolated_users ((Table.untouched_erase_at hmem fun _ => decide_eq_true_iff).mpr
        (not_not.mpr howner))

/-- **A request is isolated exactly when its uncompared identifiers stay within the tenant**,
for every database and every request of a session of the tenant. -/
theorem isolated_iff_confined (env : Env) (s : Session) (tenantSlug : String) (tenant : Tenant)
    (db : Database) (r : Request) (hs : s.role ≠ .superAdmin)
    (hown : db.tenantBySlug s.tenantSlug = some tenant) :
    Isolated tenant.id db (settled db (r.serve env s tenantSlug db)).1 ↔
      r.Confined env s tenantSlug tenant db := by
  cases r with
  | editDevice deviceId form => exact editDevice_isolated_iff hs hown
  | deleteDevice deviceId => exact deleteDevice_isolated_iff hs hown
  | deleteGroup groupId => exact deleteGroup_isolated_iff hs hown
  | bulkSubgroupConnection form newId =>
    refine iff_of_true (settled_of (.refl _ _) fun c hc => ?_) trivial
    obtain ⟨hadm, t, groupId, action, subgroups, target, selected, ht, htarget, hdb⟩ :=
      bulkSubgroupConnection_committed hc
    obtain rfl := hadm.ownTenant hs hown ht
    exact hdb ▸ isolated_withMoves htarget.own
  | editGroup groupId form =>
    refine iff_of_true (settled_of (.refl _ _) fun c hc => ?_) trivial
    obtain ⟨hadm, t, id, g, port, ht, hg, hdb⟩ := editGroup_committed hc
    obtain rfl := hadm.ownTenant hs hown ht
    exact hdb ▸ isolated_ownGroup hg fun _ => rfl
  | toggleGroupActive groupId action =>
    refine iff_of_true (settled_of (.refl _ _) fun c hc => ?_) trivial
    obtain ⟨hadm, t, id, g, ht, hg, hdb | ⟨active, hdb⟩⟩ := toggleGroupActive_committed hc <;>
      obtain rfl := hadm.ownTenant hs hown ht
    · exact hdb ▸ .refl _ _
    · exact hdb ▸ isolated_ownGroup hg fun _ => rfl
  | runBackupAll groupId includeUnscheduled taskId =>
    refine iff_of_true (settled_of (.refl _ _) fun c hc => ?_) trivial
    obtain ⟨started, -, hdb⟩ := bind_eq_ok.mp hc
    obtain rfl := pure_eq_ok.mp hdb
    exact .refl _ _
  | user r => exact iff_of_true (userRequest_isolated hs hown) trivial

end Isolation

def router (id tenantId : Uuid) : Device where
  id := id
  tenantId := tenantId
  name := "router"
  ipAddress := "10.0.0.1"
  username := "admin"
  passwordEncrypted := ""

/-- The tenants `acme` and `zeta`, with one device each. -/
def twoTenants : Database where
  tenants := [{ id := 1, slug := "acme" }, { id := 2, slug := "zeta" }]
  devices := { rows := [router 40 1, router 50 2] }

theorem foreign_device_deleted :
    ¬ ∀ (env : Env) (s : Session) (tenantSlug : String) (tenant : Tenant) (db : Database)
      (r : Request), s.role ≠ .superAdmin → db.tenantBySlug s.tenantSlug = some tenant →
      Isolated tenant.id db (settled db (r.serve env s tenantSlug db)).1 := by
  intro hall
  have h := hall .ascii acmeAdmin "acme" _ twoTenants (.deleteDevice (.value 50)) (by decide) rfl
  have hkept := (h.devices (router 50 2) (by decide)).mp
    (List.mem_cons_of_mem _ (List.mem_singleton_self _))
  rcases List.mem_cons.mp hkept with hown | hoff
  · cases congrArg Device.id hown
  · cases congrArg Device.isActive (List.mem_singleton.mp hoff)

theorem own_device_deleted :
    Isolated 1 twoTenants
      (settled twoTenants
        ((Request.deleteDevice (.value 40)).serve .ascii acmeAdmin "acme" twoTenants)).1 := by
  refine (isolated_iff_confined .ascii acmeAdmin "acme" _ twoTenants (.deleteDevice (.value 40))
    (by decide) rfl).mpr ?_
  rintro - d hd hid hne
  rcases List.mem_cons.mp hd with rfl | hd
  · exact absurd rfl hne
  · obtain rfl := List.mem_singleton.mp hd
    cases hid

end BackupCenter.Tenants
