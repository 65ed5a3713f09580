import BackupCenter.Lib.Exec
import BackupCenter.Tenants.Isolation

/-!
# Devices and the subgroups of their groups

A device has a group and a subgroup, in two columns that are written apart from each other. The
subgroup decides the connection mode before the group does, so it should be one of the group.
-/
namespace BackupCenter.Tenants

open BackupCenter.Lib

/-! ## `add_device` -/

/-- `PlanLimitsService.check_can_add_device`, with `max_devices` of the plan. -/
def checkCanAddDevice (db : Database) (tenant : Tenant) (maxDevices : Option Int) :
    LimitCheckResult :=
  if tenant.accessUnlimited then ⟨true, "ok"⟩
  else if tenant.plan.isNone then ⟨false, "Cliente sem plano ativo."⟩
  else
    let limit := max (maxDevices.getD 0) 0
    let used : Int := db.devices.rows.countP fun d =>
      d.tenantId = tenant.id && d.isActive ≠ some false
    if limit > 0 ∧ used ≥ limit then
      ⟨false, s!"Limite de dispositivos do plano atingido ({used}/{limit})."⟩
    else ⟨true, "ok"⟩

/-- The row that `DeviceService.create_device` adds. -/
def Device.created (env : Env) (db : Database) (id tenantId groupId : Uuid) (form : DeviceForm)
    (typeId : Option Uuid) (port : Int) (password : String) : Device where
  id := id
  tenantId := tenantId
  groupId := some groupId
  deviceTypeId := typeId
  -- `str(data['name'])`, also of a missing name
  name := strip (form.name.getD "None")
  ipAddress := strip (form.ipAddress.getD "")
  port := some port
  username := strip (form.username.getD "")
  passwordEncrypted := env.encryptPassword password
  useTelnet := some (ticked form.useTelnet)
  backupScheduled := some (ticked form.backupScheduled)
  description := form.description
  extraParameters := env.collectDeviceExtraParameters form.extra
    (typeId.filter fun t => t ∈ db.deviceTypes) []

/-- The constraints of the devices table on a new row. -/
def checkNewDevice (db : Database) (form : DeviceForm) (d : Device) : Except Failure Unit := do
  require (fitsText d.description = true ∧ d.port.all fitsInteger = true) .data
  checkColumns
    [(150, some d.name), (45, form.ipAddress.map strip), (50, form.username.map strip)] []
  require (d.deviceTypeId.all fun t => t ∈ db.deviceTypes) .integrity

def addDevice (env : Env) (s : Session) (tenantSlug : String) (form : DeviceForm)
    (maxDevices : Option Int) (newId : Uuid) (db : Database) : Result := do
  tenantAdminRequired s
  let tenant ← getDbAndTenant s tenantSlug db
  let failed (text : String) : Reply := .flash ("Erro ao adicionar dispositivo: " ++ text) .error
  let group ← demand ((resolveGroupContext db tenant form.groupId).filter fun g =>
    g.isActive = some true) (failed "Selecione um grupo ativo para cadastrar o dispositivo.")
  let typeId ← demand form.typeId (failed (env.describe .value))
  let port ← demand form.portNumber (failed (env.describe .value))
  let limitCheck := checkCanAddDevice db tenant maxDevices
  require (limitCheck.allowed = true) (failed limitCheck.reason)
  let password ← demand form.password (failed "'NoneType' object has no attribute 'encode'")
  let device := Device.created env db newId tenant.id group.id form typeId port password
  orRefuse (checkNewDevice db form device) fun e => failed (env.describe e)
  let devices ← demand (db.devices.add device) (failed (env.describe .integrity))
  return ({ db with devices }, match env.afterCommit with
    | none => .flash "Dispositivo adicionado com sucesso!" .success
    | some text => failed text)

theorem addDevice_committed {env : Env} {s : Session} {tenantSlug : String} {form : DeviceForm}
    {maxDevices : Option Int} {newId : Uuid} {db : Database} {c : Database × Reply}
    (h : addDevice env s tenantSlug form maxDevices newId db = .ok c) :
    ∃ d devices, d.subgroupId = none ∧ db.devices.add d = some devices ∧
      c.1 = { db with devices } := by
  simp only [addDevice, bind_eq_ok, tenantAdminRequired_eq_ok, getDbAndTenant_eq_ok, demand_eq_ok,
    require_eq_ok, orRefuse_eq_ok, pure_eq_ok] at h
  obtain ⟨-, -, tenant, -, group, -, typeId, -, port, -, -, -, password, -, -, -, devices, hadd,
    rfl⟩ := h
  exact ⟨_, devices, rfl, hadd, rfl⟩

/-! ## Every request on the devices -/

inductive PlacementAction where
  | addDevice (form : DeviceForm) (maxDevices : Option Int) (newId : Uuid)
  | request (r : Request)

structure PlacementEvent where
  session : Session
  tenantSlug : String
  action : PlacementAction

def PlacementEvent.serve (env : Env) (e : PlacementEvent) (db : Database) : Result :=
  match e.action with
  | .addDevice form maxDevices newId =>
    Tenants.addDevice env e.session e.tenantSlug form maxDevices newId db
  | .request r => r.serve env e.session e.tenantSlug db

def placementStep (env : Env) (db : Database) (e : PlacementEvent) : Option Database :=
  some (settled db (e.serve env db)).1

/-- The subgroup of the device, if it has one, is of its own group and tenant. -/
def InOwnGroup (subgroups : Table DeviceSubgroup) (d : Device) : Prop :=
  ∀ id, d.subgroupId = some id →
    ∃ sg ∈ subgroups, sg.id = id ∧ d.groupId = some sg.groupId ∧ sg.tenantId = d.tenantId

def Placed (db : Database) : Prop := ∀ d ∈ db.devices, InOwnGroup db.deviceSubgroups d

/-- The effective connection type of the device is that of its group, or a subgroup of its own group
and tenant decides it. -/
def OwnMode (env : Env) (db : Database) (d : Device) : Prop :=
  let group := d.groupId.bind db.deviceGroups.find
  let subgroup := d.subgroupId.bind db.deviceSubgroups.find
  getEffectiveConnectionType env group subgroup d.extraParameters =
      getEffectiveConnectionType env group none d.extraParameters ∨
    ∃ sg, subgroup = some sg ∧ d.groupId = some sg.groupId ∧ sg.tenantId = d.tenantId

/-- The device and the form of an edit. -/
def PlacementEvent.edit (e : PlacementEvent) : Option (Field Uuid × DeviceForm) :=
  match e.action with
  | .request (.editDevice deviceId form) => some (deviceId, form)
  | _ => none

/-- An edit that is committed leaves a device in its group, if it has a subgroup. -/
def KeepsGroup (env : Env) (db : Database) (e : PlacementEvent) : Prop :=
  ∀ x ∈ e.edit,
    (editDevice env e.session e.tenantSlug x.1 x.2 db).toOption.isSome = true →
      ∀ id ∈ x.1.parse, ∀ d ∈ db.devices.find id,
        d.subgroupId = none ∨ x.2.groupId.parse = d.groupId

instance (env : Env) (db : Database) (e : PlacementEvent) : Decidable (KeepsGroup env db e) :=
  inferInstanceAs (Decidable (∀ x ∈ e.edit, _ → ∀ id ∈ x.1.parse, ∀ d ∈ db.devices.find id, _))

/-! ## What a request keeps -/

/-- Where a subgroup is. -/
def DeviceSubgroup.place (sg : DeviceSubgroup) : Uuid × Uuid := (sg.groupId, sg.tenantId)

/-- Every subgroup stays, in its group. -/
abbrev KeepsSubgroups (t t' : Table DeviceSubgroup) : Prop := t.Keeps DeviceSubgroup.place t'

section Steps

variable {env : Env} {db db' : Database} {e : PlacementEvent} {d : Device}
  {t t' : Table DeviceSubgroup}

theorem InOwnGroup.mono (h : InOwnGroup t d) (hkept : KeepsSubgroups t t') : InOwnGroup t' d := by
  intro id hid
  obtain ⟨sg, hsg, hsgid, hgroup, htenant⟩ := h id hid
  obtain ⟨sg', hsg', hid', hplace⟩ := hkept sg hsg
  obtain ⟨hgroup', htenant'⟩ := Prod.mk.inj hplace
  exact ⟨sg', hsg', hid'.trans hsgid, hgroup'.symm ▸ hgroup, htenant'.trans htenant⟩

theorem inOwnGroup_none (h : d.subgroupId = none) : InOwnGroup t d := by
  intro id hid
  rw [h] at hid
  cases hid

theorem TargetChange.keeps {tenantId groupId : Uuid} {target : Option DeviceSubgroup}
    (h : TargetChange tenantId groupId t t' target) : KeepsSubgroups t t' := by
  cases h with
  | none => exact Table.Keeps.refl _ _
  | found => exact Table.Keeps.refl _ _
  | changed _ _ _ hf => exact Table.keeps_modify fun a => Prod.ext (hf a).2 (hf a).1
  | created hadd => exact Table.keeps_of_add hadd

/-- Devices are written while every subgroup stays in its group. -/
theorem Placed.modify {p : Device → Bool} {f : Update Device} (h : Placed db)
    (hdevices : db'.devices = db.devices.modify p f)
    (hkept : KeepsSubgroups db.deviceSubgroups db'.deviceSubgroups)
    (hf : ∀ d ∈ db.devices, p d = true → InOwnGroup db'.deviceSubgroups (f.apply d)) :
    Placed db' := by
  intro row hrow
  rw [hdevices] at hrow
  obtain ⟨d, hd, rfl⟩ := Table.mem_modify.mp hrow
  split
  next hp => exact hf d hd hp
  next => exact (h d hd).mono hkept

/-- Nothing but the group, and what does not matter here, is written by an edit. -/
theorem placed_edited_iff {f : Update Device} (h : Placed db) (hd : d ∈ db.devices)
    (hf : ∀ a, (f.apply a).tenantId = a.tenantId ∧ (f.apply a).subgroupId = a.subgroupId ∧
      (f.apply a).groupId = (f.apply d).groupId) :
    Placed (db.withDevice d.id f) ↔ d.subgroupId = none ∨ (f.apply d).groupId = d.groupId := by
  obtain ⟨htenant, hsubgroup, -⟩ := hf d
  constructor
  · intro hplaced
    cases hsub : d.subgroupId with
    | none => exact .inl rfl
    | some id =>
      have hrow : f.apply d ∈ (db.withDevice d.id f).devices :=
        Table.mem_modify.mpr ⟨d, hd, by simp⟩
      obtain ⟨sg, hsg, hid, hgroup, -⟩ := h d hd id hsub
      obtain ⟨sg', hsg', hid', hgroup', -⟩ := hplaced _ hrow id (hsubgroup.trans hsub)
      obtain rfl := Table.eq_of_key hsg hsg' (hid.trans hid'.symm)
      exact .inr (hgroup'.trans hgroup.symm)
  · intro hgroup
    refine h.modify (p := fun a => a.id = d.id) rfl (Table.Keeps.refl _ _) ?_
    intro a ha hid
    obtain rfl := Table.eq_of_key ha hd (of_decide_eq_true hid)
    rcases hgroup with hnone | hsame
    · exact inOwnGroup_none (hsubgroup.trans hnone)
    · intro id hsub
      rw [hsame, htenant]
      exact h a ha id (hsubgroup.symm.trans hsub)

/-- The moves of `bulk_subgroup_connection`. -/
theorem Placed.withMoves {subgroups : Table DeviceSubgroup} {tenantId groupId : Uuid}
    {action : SubgroupAction} {target : Option DeviceSubgroup} {selected : List Uuid}
    (h : Placed db) (htarget : TargetChange tenantId groupId db.deviceSubgroups subgroups target) :
    Placed (db.withMoves subgroups tenantId groupId action (target.map DeviceSubgroup.id)
      selected) := by
  have hswitched : KeepsSubgroups subgroups (db.withMoves subgroups tenantId groupId action
      (target.map DeviceSubgroup.id) selected).deviceSubgroups := by
    unfold Database.withMoves
    split
    · exact Table.keeps_modify fun _ => rfl
    · exact Table.Keeps.refl _ _
  apply h.modify (p := isMoved tenantId groupId action (target.map DeviceSubgroup.id) selected) rfl
    (htarget.keeps.trans hswitched)
  intro d hd hmoved id hid
  obtain ⟨htenant, hgroup⟩ := isMoved_own hmoved
  rcases nextSubgroupId_cases action (target.map DeviceSubgroup.id) selected d with
    hnone | hkeep | hnext
  · cases hnone.symm.trans hid
  · exact ((h d hd).mono (htarget.keeps.trans hswitched)) id (hkeep.symm.trans hid)
  · obtain ⟨sg, hsg, hsgid⟩ := Option.map_eq_some_iff.mp (hnext.symm.trans hid)
    obtain ⟨hstored, hsgtenant, hsggroup⟩ := htarget.stored sg hsg
    obtain ⟨sg', hsg', hid', hplace⟩ := hswitched sg hstored
    obtain ⟨hgroup', htenant'⟩ := Prod.mk.inj hplace
    refine ⟨sg', hsg', hid'.trans hsgid, ?_, ?_⟩
    · rw [hgroup', hsggroup]
      exact hgroup
    · rw [htenant', hsgtenant]
      exact htenant.symm

/-- A group that is deleted takes its subgroups with it, and the devices out of them. -/
theorem Placed.withoutGroup {groupId : Uuid} (h : Placed db) :
    Placed (db.withoutGroup groupId) := by
  intro row hrow
  obtain ⟨d, hd, rfl⟩ := Table.mem_modify.mp hrow
  split
  next => exact inOwnGroup_none rfl
  next hout =>
    intro id hid
    obtain ⟨sg, hsg, hsgid, hgroup, htenant⟩ := h d hd id hid
    refine ⟨sg, Table.mem_erase.mpr ⟨hsg, decide_eq_false fun hgone => hout ?_⟩, hsgid, hgroup,
      htenant⟩
    exact decide_eq_true ⟨sg, hsg, hgone, hid.trans (congrArg some hsgid.symm)⟩

/-- Devices and subgroups are as before. -/
theorem Placed.same (h : Placed db) (hdevices : db'.devices = db.devices)
    (hsubgroups : db'.deviceSubgroups = db.deviceSubgroups) : Placed db' := by
  intro d hd
  rw [hdevices] at hd
  rw [hsubgroups]
  exact h d hd

theorem Placed.user {s : Session} {tenantSlug : String} {r : UserRequest} {c : Database × Reply}
    (h : Placed db) (hc : r.serve env s tenantSlug db = .ok c) : Placed c.1 := by
  cases r with
  | add form newId =>
    obtain ⟨-, t, hash, role, users, -, -, -, -, hdb⟩ := addUser_committed hc
    exact h.same (by rw [hdb]) (by rw [hdb])
  | edit userId form =>
    obtain ⟨-, t, id, user, role, hash, -, -, -, -, -, hdb⟩ := editUser_committed hc
    exact h.same (by rw [hdb]; rfl) (by rw [hdb]; rfl)
  | delete userId =>
    obtain ⟨-, t, user, -, -, -, hdb | hdb⟩ := deleteUser_committed hc
    · exact h.same (by rw [hdb]; rfl) (by rw [hdb]; rfl)
    · exact h.same (by rw [hdb]; rfl) (by rw [hdb]; rfl)

/-- Every request but an edit keeps the devices in subgroups of their own groups. -/
theorem Placed.serve {c : Database × Reply} (h : Placed db)
    (hedit : ∀ deviceId form, e.action ≠ .request (.editDevice deviceId form))
    (hc : e.serve env db = .ok c) : Placed c.1 := by
  obtain ⟨s, tenantSlug, action⟩ := e
  cases action with
  | addDevice form maxDevices newId =>
    obtain ⟨d, devices, hnone, hadd, hdb⟩ := addDevice_committed hc
    rw [hdb]
    intro row hrow
    rcases (Table.mem_of_add hadd).mp hrow with rfl | hold
    · exact inOwnGroup_none hnone
    · exact h row hold
  | request r =>
    cases r with
    | editDevice deviceId form => exact absurd rfl (hedit deviceId form)
    | deleteDevice deviceId =>
      obtain ⟨-, -, d, hd, -, hdb⟩ := deleteDevice_commits.mp ⟨c.2, hc⟩
      rw [hdb]
      exact h.modify (p := fun a => a.id = d.id) rfl (Table.Keeps.refl _ _) fun a ha _ =>
        h a ha
    | bulkSubgroupConnection form newId =>
      obtain ⟨-, t, groupId, action, subgroups, target, selected, -, htarget, hdb⟩ :=
        bulkSubgroupConnection_committed hc
      exact hdb ▸ h.withMoves htarget
    | editGroup groupId form =>
      obtain ⟨-, t, id, g, port, -, -, hdb⟩ := editGroup_committed hc
      exact h.same (by rw [hdb]; rfl) (by rw [hdb]; rfl)
    | toggleGroupActive groupId action =>
      obtain ⟨-, t, id, g, -, -, hdb | ⟨active, hdb⟩⟩ := toggleGroupActive_committed hc
      · exact hdb ▸ h
      · exact h.same (by rw [hdb]; rfl) (by rw [hdb]; rfl)
    | deleteGroup groupId =>
      obtain ⟨-, -, g, -, -, hdb⟩ := deleteGroup_commits.mp ⟨c.2, hc⟩
      unfold Database.deletedGroup at hdb
      split at hdb
      · exact h.same (by rw [← Option.some.inj hdb]; rfl) (by rw [← Option.some.inj hdb]; rfl)
      · obtain ⟨-, hdb⟩ := Option.ite_none_right_eq_some.mp hdb
        exact Option.some.inj hdb ▸ h.withoutGroup
    | runBackupAll groupId includeUnscheduled taskId =>
      obtain ⟨started, -, hdb⟩ := bind_eq_ok.mp hc
      obtain rfl := pure_eq_ok.mp hdb
      exact h
    | user r => exact h.user hc

/-- One request keeps the devices in subgroups of their own groups exactly when it is no edit that
moves one of them out of its group. -/
theorem placed_step_iff (h : Placed db) :
    Placed (settled db (e.serve env db)).1 ↔ KeepsGroup env db e := by
  cases hedit : e.edit with
  | none =>
    have hother : ∀ deviceId form, e.action ≠ .request (.editDevice deviceId form) := by
      intro deviceId form haction
      rw [PlacementEvent.edit, haction] at hedit
      cases hedit
    refine iff_of_true (settled_of h fun c hc => h.serve hother hc) ?_
    intro x hx
    rw [hedit] at hx
    cases hx
  | some x =>
  have haction : e.action = .request (.editDevice x.1 x.2) := by
    unfold PlacementEvent.edit at hedit
    split at hedit
    next deviceId form haction =>
      obtain rfl := Option.some.inj hedit
      exact haction
    next => cases hedit
  obtain ⟨s, tenantSlug, action⟩ := e
  obtain ⟨deviceId, form⟩ := x
  subst haction
  rw [KeepsGroup, hedit]
  show Placed (settled db (editDevice env s tenantSlug deviceId form db)).1 ↔
    ∀ x ∈ some (deviceId, form),
      ((editDevice env s tenantSlug x.1 x.2 db).toOption.isSome = true → _)
  simp only [Option.mem_some_iff, forall_eq']
  cases hrun : editDevice env s tenantSlug deviceId form db with
  | error r => exact iff_of_true h fun hsome => by cases hsome
  | ok c =>
    obtain ⟨-, tenant, id, d, typeId, port, -, hparse, hdevice, -, hdb⟩ :=
      editDevice_commits.mp ⟨c.2, hrun⟩
    obtain ⟨hd, hid, -⟩ := tenantDevice_eq_some.mp hdevice
    have hfind : db.devices.find id = some d := Table.find_eq_some.mpr ⟨hd, hid⟩
    show Placed c.1 ↔ _
    rw [hdb, placed_edited_iff h hd fun _ => ⟨rfl, rfl, rfl⟩]
    constructor
    · intro hkeeps _ id' hid' d' hd'
      obtain rfl := Option.some.inj (hparse.symm.trans hid')
      obtain rfl := Option.some.inj (hfind.symm.trans hd')
      exact hkeeps
    · intro hkeeps
      exact hkeeps rfl id hparse d hfind

/-- The subgroup that decides the connection type is the row that the device refers to. -/
theorem Placed.ownMode (h : Placed db) (hd : d ∈ db.devices) : OwnMode env db d := by
  unfold OwnMode
  dsimp only
  cases hsub : d.subgroupId.bind db.deviceSubgroups.find with
  | none => exact .inl rfl
  | some sg =>
    obtain ⟨id, hid, hfind⟩ := Option.bind_eq_some_iff.mp hsub
    obtain ⟨hmem, hsgid⟩ := Table.find_eq_some.mp hfind
    obtain ⟨own, hown, hownid, hgroup, htenant⟩ := h d hd id hid
    obtain rfl := Table.eq_of_key hown hmem (hownid.trans hsgid.symm)
    exact .inr ⟨own, rfl, hgroup, htenant⟩

end Steps

/-- **Every device stays in a subgroup of its own group**, in every state that a run reaches and so
that none takes its connection type from elsewhere, exactly when no edit of the run moves a device
with a subgroup to another group. -/
theorem placed_iff_keepsGroup (env : Env) (db : Database) (es : List PlacementEvent)
    (hstart : Placed db) :
    (∀ es₁ es₂ s, es = es₁ ++ es₂ → exec (placementStep env) db es₁ = some s →
      Placed s ∧ ∀ d ∈ s.devices, OwnMode env s d) ↔
    Along (placementStep env) (KeepsGroup env) db es := by
  have hmode : ∀ s, (Placed s ∧ ∀ d ∈ s.devices, OwnMode env s d) ↔ Placed s :=
    fun s => ⟨fun h => h.1, fun h => ⟨h, fun d hd => h.ownMode hd⟩⟩
  simp only [hmode]
  apply prefixes_iff_along_all _ _ hstart
  · intro s e hstuck
    cases hstuck
  · intro s e s' hplaced hs
    rw [← Option.some.inj hs]
    exact placed_step_iff hplaced

/-! ## A device that is moved -/

/-- The device is in a subgroup of the first group, which uses a VPN; the second one connects
directly. -/
def movedDb : Database where
  tenants := [{ id := 1, slug := "acme" }]
  devices := { rows := [{ router 40 1 with groupId := some 10, subgroupId := some 30 }] }
  deviceGroups := {
    rows := [{ id := 10, tenantId := 1, name := "A", slug := "a" },
      { id := 20, tenantId := 1, name := "B", slug := "b" }] }
  deviceSubgroups := {
    rows := [{ id := 30, tenantId := 1, groupId := 10, name := "VPN", connectionType := "vpn" }] }

/-- The edit of the device, with this group in the form. -/
def moveTo (groupId : Uuid) : PlacementEvent where
  session := acmeAdmin
  tenantSlug := "acme"
  action := .request (.editDevice (.value 40)
    { name := some "router", ipAddress := some "10.0.0.1", username := some "admin"
      groupId := .value groupId })

/-- The form of the subgroups page, that takes the device out of its subgroup. -/
def leaveSubgroup : PlacementEvent where
  session := acmeAdmin
  tenantSlug := "acme"
  action := .request (.bulkSubgroupConnection
    { groupIds := [.value 10], action := some "remove", deviceIds := [.value 40] } 31)

theorem movedDb_placed : Placed movedDb := by
  intro d hd
  obtain rfl := List.mem_singleton.mp hd
  intro id hid
  obtain rfl := Option.some.inj hid
  exact ⟨_, List.mem_singleton_self _, rfl, rfl, rfl⟩

/-- A device that is moved to another group keeps the subgroup of the old one, and still uses its
VPN. -/
theorem moved_device_keeps_subgroup :
    (¬ ∀ (env : Env) (db db' : Database) (es : List PlacementEvent), Placed db →
      exec (placementStep env) db es = some db' → Placed db') ∧
    (exec (placementStep .ascii) movedDb [moveTo 20]).map (fun db =>
      db.devices.rows.map fun d => (d.groupId, d.subgroupId, deviceUsesVpnTunnel .ascii db d)) =
      some [(some 20, some 30, true)] := by
  have hmoved : (exec (placementStep .ascii) movedDb [moveTo 20]).map (fun db =>
      db.devices.rows.map fun d => (d.groupId, d.subgroupId, deviceUsesVpnTunnel .ascii db d)) =
      some [(some 20, some 30, true)] := by decide +kernel
  refine ⟨fun hall => ?_, hmoved⟩
  have hplaced := hall .ascii movedDb _ [moveTo 20] movedDb_placed rfl
  have hkeeps : KeepsGroup .ascii movedDb (moveTo 20) := (placed_step_iff movedDb_placed).mp hplaced
  have hgroup := hkeeps _ rfl (by decide +kernel) 40 rfl _ rfl
  rcases hgroup with hnone | hsame
  · cases hnone
  · cases hsame

/-- The device leaves its subgroup before it is moved. -/
theorem moved_after_leaving :
    Placed ((exec (placementStep .ascii) movedDb [leaveSubgroup, moveTo 20]).get rfl) ∧
      ∀ d ∈ ((exec (placementStep .ascii) movedDb [leaveSubgroup, moveTo 20]).get rfl).devices,
        OwnMode .ascii ((exec (placementStep .ascii) movedDb [leaveSubgroup, moveTo 20]).get rfl)
          d := by
  have hok : Along (placementStep .ascii) (KeepsGroup .ascii) movedDb
      [leaveSubgroup, moveTo 20] := along_of_check (by decide +kernel)
  exact (placed_iff_keepsGroup .ascii movedDb _ movedDb_placed).mpr hok _ [] _
    (List.append_nil _).symm (Option.some_get _).symm

end BackupCenter.Tenants
