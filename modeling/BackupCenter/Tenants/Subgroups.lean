import BackupCenter.Tenants.Groups

/-!
# The subgroup route of a group page

`bulk_subgroup_connection` creates, changes and deletes subgroups of one group of the tenant
and moves the group's devices between them.
-/
namespace BackupCenter.Tenants

open BackupCenter.Lib

structure SubgroupForm where
  /-- `group_id` of the form, then `group_id` and `return_group_id` of the URL -/
  groupIds : List (Field Uuid) := []
  action : Option String := none
  connectionType : Option String := none
  name : Option String := none
  subgroupId : Field Uuid := .absent
  deviceIds : List (Field Uuid) := []
  isAjax : Bool := false

inductive SubgroupAction where
  | create
  | assignExisting
  | remove
  | updateExisting
  | deleteExisting
  deriving DecidableEq

/-- The action of the form; `none` is an invalid one. -/
def SubgroupAction.ofText : String → Option SubgroupAction
  | "create" | "set" => some create
  | "assign_existing" | "assign" => some assignExisting
  | "remove" | "clear" => some remove
  | "update_existing" => some updateExisting
  | "delete_existing" | "delete" => some deleteExisting
  | _ => none

def ConnectionMode.human : ConnectionMode → String
  | .direct => "Direto"
  | .vpn => "VPN"
  | .jumpHost => "Jump Host"

def ConnectionMode.upper : ConnectionMode → String
  | .direct => "DIRECT"
  | .vpn => "VPN"
  | .jumpHost => "JUMP_HOST"

/-- `_resolve_group_context` -/
def resolveGroupContext (db : Database) (tenant : Tenant) (rawGroupId : Field Uuid) :
    Option DeviceGroup :=
  rawGroupId.parse.bind (tenantGroup db tenant)

/-- `DeviceSubgroupService.get_or_create_by_name` -/
def getOrCreateByName (env : Env) (t : Table DeviceSubgroup) (tenantId groupId : Uuid)
    (name : String) (mode : ConnectionMode) (newId : Uuid) :
    Except Failure (Table DeviceSubgroup × DeviceSubgroup) :=
  let normalized := strip name
  match t.rows.find? fun sg => sg.tenantId = tenantId && sg.groupId = groupId && sg.isActive &&
      env.sqlLower sg.name = env.lower normalized with
  | some sg =>
    .ok (t.modify (fun a => a.id = sg.id)
        { apply := fun a => { a with connectionType := mode.text } },
      { sg with connectionType := mode.text })
  | none => do
    require (fits 150 (some normalized)) .data
    let sg : DeviceSubgroup :=
      { id := newId, tenantId, groupId, name := normalized, connectionType := mode.text }
    let t' ← demand (t.add sg) .integrity
    return (t', sg)

/-- `_find_target_subgroup` -/
def findTargetSubgroup (t : Table DeviceSubgroup) (tenantId groupId : Uuid) (id : Field Uuid) :
    Option DeviceSubgroup :=
  (id.parse.bind t.find).filter fun sg =>
    sg.tenantId = tenantId && sg.groupId = groupId && sg.isActive

/-- The subgroups before the devices are moved, and the subgroup that the action is about. -/
def targetSubgroup (env : Env) (t : Table DeviceSubgroup) (tenantId groupId : Uuid)
    (action : SubgroupAction) (form : SubgroupForm) (name : String) (mode : Option ConnectionMode)
    (newId : Uuid) (refused : Reply) :
    Except Reply (Table DeviceSubgroup × Option DeviceSubgroup) :=
  match action with
  | .remove => .ok (t, none)
  | .create => do
    let mode ← demand mode refused
    let (t', sg) ← orRefuse (getOrCreateByName env t tenantId groupId name mode newId) fun _ =>
      .serverError
    return (t', some sg)
  | .assignExisting | .deleteExisting => do
    let sg ← demand (findTargetSubgroup t tenantId groupId form.subgroupId) refused
    return (t, some sg)
  | .updateExisting => do
    let mode ← demand mode refused
    let sg ← demand (findTargetSubgroup t tenantId groupId form.subgroupId) refused
    require (fits 150 (some name)) .serverError
    return (t.modify (fun a => a.id = sg.id)
        { apply := fun a => { a with name, connectionType := mode.text } },
      some { sg with name, connectionType := mode.text })

/-- `next_subgroup_id` -/
def nextSubgroupId (action : SubgroupAction) (target : Option Uuid) (selected : List Uuid)
    (d : Device) : Option Uuid :=
  match action with
  | .remove => none
  | .deleteExisting => if d.subgroupId = target then none else d.subgroupId
  | .updateExisting =>
    if d.id ∈ selected then target else if d.subgroupId = target then none else d.subgroupId
  | .create | .assignExisting => target

/-- The devices that the action looks at. -/
def considered (tenantId groupId : Uuid) (action : SubgroupAction) (target : Option Uuid)
    (selected : List Uuid) (d : Device) : Bool :=
  d.tenantId = tenantId && d.groupId = some groupId && d.isActive ≠ some false &&
    match action with
    | .updateExisting => true
    | .deleteExisting => d.subgroupId = target
    | _ => d.id ∈ selected

/-- The keys of an older way to set the connection mode. -/
def legacyKeys : List String :=
  ["connection_subgroup_enabled", "connection_subgroup_type", "connection_subgroup_updated_at",
    "subgroup_connection_enabled", "subgroup_connection_type"]

def Device.moved (d : Device) (subgroupId : Option Uuid) : Device :=
  { d with
    subgroupId
    extraParameters := d.extraParameters.filter fun e => e.1 ∉ legacyKeys }

/-- The devices that the loop does not skip. -/
def isMoved (tenantId groupId : Uuid) (action : SubgroupAction) (target : Option Uuid)
    (selected : List Uuid) (d : Device) : Bool :=
  considered tenantId groupId action target selected d &&
    d.subgroupId ≠ nextSubgroupId action target selected d

/-- The database that the route commits. -/
def Database.withMoves (db : Database) (subgroups : Table DeviceSubgroup) (tenantId groupId : Uuid)
    (action : SubgroupAction) (target : Option Uuid) (selected : List Uuid) : Database :=
  { db with
    devices := db.devices.modify (isMoved tenantId groupId action target selected)
      { apply := fun d => d.moved (nextSubgroupId action target selected d) }
    deviceSubgroups :=
      if action = .deleteExisting then
        subgroups.modify (fun sg => some sg.id = target)
          { apply := fun sg => { sg with isActive := false } }
      else subgroups }

def bulkSubgroupConnection (env : Env) (s : Session) (tenantSlug : String) (form : SubgroupForm)
    (newId : Uuid) (db : Database) : Result := do
  tenantAdminRequired s
  let tenant ← getDbAndTenant s tenantSlug db
  let refused (message : String) (category : Category) : Reply :=
    if form.isAjax then .json false message 400 else .flash message category
  let group ← demand (resolveGroupContext db tenant (.firstGiven form.groupIds))
    (refused "Para configurar subgrupo, abra primeiro um Grupo (Provedor) específico." .warning)
  let actionText := env.lower (strip ((nonempty form.action).getD "create"))
  let mode := normalizeConnectionTypeValue env (form.connectionType.getD "")
  let givenName := strip (form.name.getD "")
  let name :=
    if actionText = "set" ∧ givenName = "" then
      "Subgrupo " ++ (mode.map ConnectionMode.upper).getD "Direto"
    else givenName
  let selected := (form.deviceIds.filterMap Field.parse).dedup
  let parsed := SubgroupAction.ofText actionText
  let needsDevices := parsed ≠ some .updateExisting ∧ parsed ≠ some .deleteExisting
  require (needsDevices → selected ≠ [])
    (refused "Selecione ao menos um dispositivo para mover no subgrupo." .warning)
  let action ← demand parsed (refused "Acao de subgrupo invalida." .error)
  let needsName := action = .create ∨ action = .updateExisting
  require (needsName → mode.isSome = true)
    (refused "Tipo de conexao do subgrupo invalido (direct, vpn ou jump_host)." .error)
  require (needsName → name ≠ "") (refused "Informe o nome do subgrupo." .error)
  let found ← targetSubgroup env db.deviceSubgroups tenant.id group.id action form name mode newId
    (refused "Selecione um subgrupo existente." .error)
  let targetId := found.2.map DeviceSubgroup.id
  require (needsDevices →
      ∃ d ∈ db.devices.rows, considered tenant.id group.id action targetId selected d = true)
    (refused "Nenhum dispositivo valido encontrado dentro do grupo atual." .warning)
  let updated := db.devices.rows.countP (isMoved tenant.id group.id action targetId selected)
  let db' := db.withMoves found.1 tenant.id group.id action targetId selected
  let targetName := (found.2.map DeviceSubgroup.name).getD ""
  let humanMode := (mode.map ConnectionMode.human).getD ""
  let message :=
    match action with
    | .remove => s!"Subgrupo removido de {updated} dispositivo(s)."
    | .deleteExisting =>
      s!"Subgrupo '{targetName}' excluído com sucesso. {updated} dispositivo(s) desvinculado(s)."
    | .assignExisting => s!"{updated} dispositivo(s) movido(s) para o subgrupo '{targetName}'."
    | .updateExisting => s!"Subgrupo '{targetName}' atualizado para modo {humanMode}. " ++
        s!"{updated} alteração(ões) de associação aplicadas."
    | .create => s!"Subgrupo '{targetName}' salvo com modo {humanMode}. " ++
        s!"{updated} dispositivo(s) associado(s)."
  return (db', if env.afterCommit.isSome then .serverError
    else if form.isAjax then .json true message 200 else .flash message .success)

/-! ## What the route can change -/

/-- The target of an action is a stored subgroup of the tenant. -/
structure OwnTarget (tenantId : Uuid) (t t' : Table DeviceSubgroup)
    (target : Option DeviceSubgroup) : Prop where
  untouched : Table.Untouched (fun sg => sg.tenantId ≠ tenantId) t t'
  stored : ∀ sg ∈ target, sg ∈ t' ∧ sg.tenantId = tenantId

/-- What an action has made of the subgroups, before the devices are moved, around a subgroup of the
group that it is about. -/
inductive TargetChange (tenantId groupId : Uuid) (t : Table DeviceSubgroup) :
    Table DeviceSubgroup → Option DeviceSubgroup → Prop where
  | none : TargetChange tenantId groupId t t none
  | found {sg : DeviceSubgroup} (hmem : sg ∈ t) (htenant : sg.tenantId = tenantId)
      (hgroup : sg.groupId = groupId) : TargetChange tenantId groupId t t (some sg)
  | changed {sg : DeviceSubgroup} {f : Update DeviceSubgroup} (hmem : sg ∈ t)
      (htenant : sg.tenantId = tenantId) (hgroup : sg.groupId = groupId)
      (hf : ∀ a, (f.apply a).tenantId = a.tenantId ∧ (f.apply a).groupId = a.groupId) :
      TargetChange tenantId groupId t (t.modify (fun a => a.id = sg.id) f) (some (f.apply sg))
  | created {sg : DeviceSubgroup} {t' : Table DeviceSubgroup} (hadd : t.add sg = some t')
      (htenant : sg.tenantId = tenantId) (hgroup : sg.groupId = groupId) :
      TargetChange tenantId groupId t t' (some sg)

/-- The target is stored, in the group of the tenant. -/
theorem TargetChange.stored {tenantId groupId : Uuid} {t t' : Table DeviceSubgroup}
    {target : Option DeviceSubgroup} (h : TargetChange tenantId groupId t t' target) :
    ∀ sg ∈ target, sg ∈ t' ∧ sg.tenantId = tenantId ∧ sg.groupId = groupId := by
  intro a ha
  cases h with
  | none => cases ha
  | found hmem htenant hgroup =>
    obtain rfl := Option.mem_some_iff.mp ha
    exact ⟨hmem, htenant, hgroup⟩
  | @changed sg f hmem htenant hgroup hf =>
    obtain rfl := Option.mem_some_iff.mp ha
    have hstored : f.apply sg ∈ t.modify (fun a => a.id = sg.id) f :=
      Table.mem_modify.mpr ⟨sg, hmem, by simp⟩
    exact ⟨hstored, (hf sg).1.trans htenant, (hf sg).2.trans hgroup⟩
  | created hadd htenant hgroup =>
    obtain rfl := Option.mem_some_iff.mp ha
    exact ⟨(Table.mem_of_add hadd).mpr (.inl rfl), htenant, hgroup⟩

theorem TargetChange.own {tenantId groupId : Uuid} {t t' : Table DeviceSubgroup}
    {target : Option DeviceSubgroup} (h : TargetChange tenantId groupId t t' target) :
    OwnTarget tenantId t t' target where
  untouched := by
    cases h with
    | none => exact .refl _ _
    | found => exact .refl _ _
    | changed hmem htenant _ hf =>
      apply (Table.untouched_modify_at (fun a => by rw [(hf a).1]) hmem
        fun _ => decide_eq_true_iff).mpr
      intro hne
      exact absurd htenant hne
    | created hadd htenant _ => exact Table.untouched_of_add hadd fun hne => hne htenant
  stored sg hsg := ⟨(h.stored sg hsg).1, (h.stored sg hsg).2.1⟩

theorem getOrCreateByName_change {env : Env} {t : Table DeviceSubgroup}
    {tenantId groupId newId : Uuid} {name : String} {mode : ConnectionMode}
    {x : Table DeviceSubgroup × DeviceSubgroup}
    (h : getOrCreateByName env t tenantId groupId name mode newId = .ok x) :
    TargetChange tenantId groupId t x.1 (some x.2) := by
  simp only [getOrCreateByName] at h
  split at h
  next sg hfind =>
    obtain rfl := Except.ok.inj h
    have hsg := List.find?_some hfind
    simp only [Bool.and_eq_true, decide_eq_true_eq] at hsg
    exact .changed (List.mem_of_find?_eq_some hfind) hsg.1.1.1 hsg.1.1.2 fun _ => ⟨rfl, rfl⟩
  next =>
    simp only [bind_eq_ok, require_eq_ok, demand_eq_ok, pure_eq_ok] at h
    obtain ⟨-, -, t', hadd, rfl⟩ := h
    exact .created hadd rfl rfl

theorem findTargetSubgroup_own {t : Table DeviceSubgroup} {tenantId groupId : Uuid}
    {id : Field Uuid} {sg : DeviceSubgroup}
    (h : findTargetSubgroup t tenantId groupId id = some sg) :
    sg ∈ t ∧ sg.tenantId = tenantId ∧ sg.groupId = groupId := by
  obtain ⟨hfind, hsg⟩ := Option.filter_eq_some_iff.mp h
  obtain ⟨i, -, hfind⟩ := Option.bind_eq_some_iff.mp hfind
  simp only [Bool.and_eq_true, decide_eq_true_eq] at hsg
  exact ⟨(Table.find_eq_some.mp hfind).1, hsg.1.1, hsg.1.2⟩

theorem targetSubgroup_change {env : Env} {t : Table DeviceSubgroup}
    {tenantId groupId newId : Uuid} {action : SubgroupAction} {form : SubgroupForm} {name : String}
    {mode : Option ConnectionMode} {refused : Reply}
    {x : Table DeviceSubgroup × Option DeviceSubgroup}
    (h : targetSubgroup env t tenantId groupId action form name mode newId refused = .ok x) :
    TargetChange tenantId groupId t x.1 x.2 := by
  cases action with
  | remove =>
    obtain rfl := Except.ok.inj h
    exact .none
  | create =>
    simp only [targetSubgroup, bind_eq_ok, demand_eq_ok, orRefuse_eq_ok, pure_eq_ok] at h
    obtain ⟨mode, -, y, hy, rfl⟩ := h
    exact getOrCreateByName_change hy
  | assignExisting =>
    simp only [targetSubgroup, bind_eq_ok, demand_eq_ok, pure_eq_ok] at h
    obtain ⟨sg, hsg, rfl⟩ := h
    obtain ⟨hmem, htenant, hgroup⟩ := findTargetSubgroup_own hsg
    exact .found hmem htenant hgroup
  | deleteExisting =>
    simp only [targetSubgroup, bind_eq_ok, demand_eq_ok, pure_eq_ok] at h
    obtain ⟨sg, hsg, rfl⟩ := h
    obtain ⟨hmem, htenant, hgroup⟩ := findTargetSubgroup_own hsg
    exact .found hmem htenant hgroup
  | updateExisting =>
    simp only [targetSubgroup, bind_eq_ok, demand_eq_ok, require_eq_ok, pure_eq_ok] at h
    obtain ⟨mode, -, sg, hsg, -, -, rfl⟩ := h
    obtain ⟨hmem, htenant, hgroup⟩ := findTargetSubgroup_own hsg
    exact .changed hmem htenant hgroup fun _ => ⟨rfl, rfl⟩

/-- A device keeps its subgroup, leaves it, or gets the target. -/
theorem nextSubgroupId_cases (action : SubgroupAction) (target : Option Uuid)
    (selected : List Uuid) (d : Device) :
    nextSubgroupId action target selected d = none ∨
      nextSubgroupId action target selected d = d.subgroupId ∨
      nextSubgroupId action target selected d = target := by
  cases action <;> simp only [nextSubgroupId] <;> (repeat' split) <;> simp

theorem isMoved_own {tenantId groupId : Uuid} {action : SubgroupAction} {target : Option Uuid}
    {selected : List Uuid} {d : Device}
    (h : isMoved tenantId groupId action target selected d = true) :
    d.tenantId = tenantId ∧ d.groupId = some groupId := by
  simp only [isMoved, considered, Bool.and_eq_true, decide_eq_true_eq] at h
  exact h.1.1.1

/-- A committed `bulk_subgroup_connection` has moved devices around a subgroup of the tenant. -/
theorem bulkSubgroupConnection_committed {env : Env} {s : Session} {tenantSlug : String}
    {form : SubgroupForm} {newId : Uuid} {db : Database} {c : Database × Reply}
    (h : bulkSubgroupConnection env s tenantSlug form newId db = .ok c) :
    s.Admitted tenantSlug ∧ ∃ tenant groupId action subgroups target selected,
      db.tenantBySlug tenantSlug = some tenant ∧
      TargetChange tenant.id groupId db.deviceSubgroups subgroups target ∧
      c.1 = db.withMoves subgroups tenant.id groupId action (target.map DeviceSubgroup.id)
        selected := by
  simp only [bulkSubgroupConnection, bind_eq_ok, tenantAdminRequired_eq_ok, getDbAndTenant_eq_ok,
    demand_eq_ok, require_eq_ok, pure_eq_ok] at h
  obtain ⟨-, hadmin, tenant, ⟨hslug, htenant⟩, group, -, -, -, action, -, -, -, -, -, found,
    hfound, -, -, rfl⟩ := h
  exact ⟨⟨hadmin, hslug⟩, tenant, group.id, action, found.1, found.2, _, htenant,
    targetSubgroup_change hfound, rfl⟩

end BackupCenter.Tenants
