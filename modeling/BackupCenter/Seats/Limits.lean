import BackupCenter.Lib.Interference
import BackupCenter.Seats.Requests

/-!
# The seats of a plan are not exceeded

Every request that takes a seat has counted the seats that are taken, in a query of its own. As long
as no seat is taken between that count and its commit, the limits of the plan hold in every
interleaving.
-/
namespace BackupCenter.Seats

open BackupCenter.Lib BackupCenter.Tenants
open BackupCenter.Superadmin (UsersEnv SaveError dirty dirtyColumns)

/-- A tenant with the limits of its plan. -/
structure Limits where
  tenant : Tenant
  maxDevices : Int
  maxUsers : Int

/-- The limits are those of the plan, which limits both. -/
structure Limits.Apply (l : Limits) (db : SeatsDb) : Prop where
  key : ∀ t ∈ db.tenants, t.id = l.tenant.id → t = l.tenant
  limited : l.tenant.accessUnlimited = false
  users : l.tenant.plan.bind Plan.maxUsers = some l.maxUsers
  devices : db.maxDevices l.tenant.id = some l.maxDevices
  someUsers : 0 < l.maxUsers
  someDevices : 0 < l.maxDevices

structure Limits.Hold (l : Limits) (db : SeatsDb) : Prop where
  devices : db.activeDevices l.tenant.id ≤ l.maxDevices
  users : db.activeUsers l.tenant.id ≤ l.maxUsers

def countsUser (tenantId : Uuid) (u : User) : Bool :=
  u.tenantId = some tenantId && u.isActive = some true

def countsDevice (tenantId : Uuid) (d : Device) : Bool :=
  d.tenantId = tenantId && d.isActive ≠ some false

/-- No seat of the tenant was taken since the check of this commit; and an update of a device,
which checks nothing, takes none. -/
def SeatCmd.kept (tenantId : Uuid) (db : SeatsDb) : SeatCmd → Bool
  | .insertUser seat .. =>
    seat.tenant.id ≠ tenantId || db.activeUsers tenantId ≤ seat.used
  | .updateUser (some seat) .. =>
    seat.tenant.id ≠ tenantId || db.activeUsers tenantId ≤ seat.used
  | .insertDevice seat .. =>
    seat.tenant.id ≠ tenantId || db.activeDevices tenantId ≤ seat.used
  | .updateDevice old data =>
    db.devices.rows.all fun d => d.id ≠ old.id || countsDevice tenantId d ||
      !countsDevice tenantId ((deviceColumns old data).apply d)
  | _ => true

/-- The command that a client sends next. -/
def nextSeatCmd (s : SeatClients) (i : Nat) : Option SeatCmd :=
  match s.clients[i]? with
  | some (.call c _) => some c
  | _ => none

/-- What the check of a commit counted still holds when it is executed. -/
def ChecksKept (tenantId : Uuid) (s : SeatClients) : SeatEvent → Prop
  | .advance i => (nextSeatCmd s i).all (·.kept tenantId s.shared) = true
  | _ => True

instance (tenantId : Uuid) (s : SeatClients) : ∀ e, Decidable (ChecksKept tenantId s e)
  | .advance i => inferInstanceAs (Decidable ((nextSeatCmd s i).all _ = true))
  | .spawn _ | .env _ => inferInstanceAs (Decidable True)

/-! ## What a request has checked -/

/-- Every id was given by `uuid.uuid4`. -/
def IdsGiven (db : SeatsDb) : Prop := ∀ u ∈ db.users, u.id < db.fresh

/-- What the commits of other requests leave: the plans, the ids that are given, and of a user its
tenant. -/
structure Later (db db' : SeatsDb) : Prop where
  tenants : db'.tenants = db.tenants
  maxDevices : db'.maxDevices = db.maxDevices
  fresh : db.fresh ≤ db'.fresh
  given : IdsGiven db → IdsGiven db'
  stays : ∀ u' ∈ db'.users, u'.id < db.fresh → ∃ u ∈ db.users, u.id = u'.id ∧
    u.tenantId = u'.tenantId

theorem Later.refl (db : SeatsDb) : Later db db where
  tenants := rfl
  maxDevices := rfl
  fresh := Nat.le_refl _
  given := id
  stays := fun u hu _ => ⟨u, hu, rfl, rfl⟩

theorem Later.trans {db db' db'' : SeatsDb} (h : Later db db') (h' : Later db' db'') :
    Later db db'' where
  tenants := h'.tenants.trans h.tenants
  maxDevices := h'.maxDevices.trans h.maxDevices
  fresh := Nat.le_trans h.fresh h'.fresh
  given := fun hids => h'.given (h.given hids)
  stays := by
    intro u'' hu'' hid
    obtain ⟨u', hu', hid', htenant'⟩ := h'.stays u'' hu'' (Nat.lt_of_lt_of_le hid h.fresh)
    obtain ⟨u, hu, hid'', htenant⟩ := h.stays u' hu' (hid'.symm ▸ hid)
    exact ⟨u, hu, hid''.trans hid', htenant.trans htenant'⟩

instance : IsPreorder SeatsDb Later where
  refl := Later.refl
  trans _ _ _ := Later.trans

/-- The rows with the id of a user that was read are that user's. -/
structure Known (user : User) (db : SeatsDb) : Prop where
  given : user.id < db.fresh
  same : ∀ u ∈ db.users, u.id = user.id → u.tenantId = user.tenantId

theorem Known.later {user : User} {db db' : SeatsDb} (h : Known user db) (hlater : Later db db') :
    Known user db' where
  given := Nat.lt_of_lt_of_le h.given hlater.fresh
  same := by
    intro u' hu' hid
    obtain ⟨u, hu, hid', htenant⟩ := hlater.stays u' hu' (hid ▸ h.given)
    exact htenant.symm.trans (h.same u hu (hid'.trans hid))

/-- A commit that takes a seat of the tenant has counted fewer than there are. -/
def Checked (l : Limits) (db : SeatsDb) : SeatCmd → Prop
  | .insertUser seat .. => seat.tenant.id = l.tenant.id → seat.used < l.maxUsers
  | .updateUser seat user form .. => Known user db ∧
    (user.tenantId = some l.tenant.id → user.isActive ≠ some true → ticked form.isActive = true →
      ∃ used : Nat, seat = some ⟨l.tenant, used⟩ ∧ used < l.maxUsers)
  | .insertDevice seat .. => seat.tenant.id = l.tenant.id → seat.used < l.maxDevices
  | _ => True

section Requests

variable {l : Limits} {env : UsersEnv} {db : SeatsDb} {tenant : Tenant} {p : SeatProg}

theorem Limits.Apply.later {db' : SeatsDb} (h : l.Apply db) (hlater : Later db db') :
    l.Apply db' where
  key := hlater.tenants ▸ h.key
  limited := h.limited
  users := h.users
  devices := by
    rw [hlater.maxDevices]
    exact h.devices
  someUsers := h.someUsers
  someDevices := h.someDevices

/-- What `check_can_add_user` lets through has counted fewer users than the plan allows. -/
theorem Limits.Apply.checkedUser (h : l.Apply db)
    (hallowed : (checkCanAddUser db.toDatabase l.tenant).allowed = true) :
    (db.activeUsers l.tenant.id : Int) < l.maxUsers := by
  obtain ⟨plan, hplan, hmax⟩ := Option.bind_eq_some_iff.mp h.users
  have hpos := h.someUsers
  unfold checkCanAddUser at hallowed
  rw [h.limited, hplan] at hallowed
  simp only [Bool.false_eq_true, if_false, hmax, Option.getD_some] at hallowed
  split at hallowed
  next => cases hallowed
  next hroom =>
    show ((db.users.rows.countP fun u => u.tenantId = some l.tenant.id && u.isActive = some true :
      Nat) : Int) < l.maxUsers
    omega

theorem Limits.Apply.checkedDevice (h : l.Apply db)
    (hallowed : (checkCanAddDevice db.toDatabase l.tenant
      (db.maxDevices l.tenant.id)).allowed = true) :
    (db.activeDevices l.tenant.id : Int) < l.maxDevices := by
  obtain ⟨plan, hplan, -⟩ := Option.bind_eq_some_iff.mp h.users
  have hpos := h.someDevices
  unfold checkCanAddDevice at hallowed
  rw [h.limited, hplan, h.devices] at hallowed
  simp only [Bool.false_eq_true, if_false, Option.isNone_some, Option.getD_some] at hallowed
  split at hallowed
  next => cases hallowed
  next hroom =>
    show ((db.devices.rows.countP fun d => d.tenantId = l.tenant.id && d.isActive ≠ some false :
      Nat) : Int) < l.maxDevices
    omega

/-- The program commits only what it has checked. -/
abbrev Careful (l : Limits) (env : UsersEnv) (p : SeatProg) (db : SeatsDb) : Prop :=
  p.Under Later (handleSeat env) (Checked l) (fun _ _ => True) db

theorem careful_ret {r : Reply} : Careful l env (.ret r) db := fun _ _ => trivial

theorem careful_guarded {c : Prop} [Decidable c] {refusal : Reply}
    (h : c → Careful l env p db) : Careful l env (guarded c refusal p) db := by
  unfold guarded
  split
  next hc => exact h hc
  next => exact careful_ret

theorem careful_needed {α : Type} {x : Option α} {refusal : Reply} {rest : α → SeatProg}
    (h : ∀ a, x = some a → Careful l env (rest a) db) :
    Careful l env (needed x refusal rest) db := by
  unfold needed
  split
  next a => exact h a rfl
  next => exact careful_ret

theorem careful_settledAs {done : Reply} {failed : SaveError → Reply}
    {answer : Except SaveError Unit} : Careful l env (settledAs done failed answer) db := by
  unfold settledAs
  split
  · exact careful_ret
  · exact careful_ret

/-- The tenant of the URL, as it is when it is read. -/
theorem careful_inTenant {s : Session} {tenantSlug : String} {next : Tenant → SeatProg}
    (hids : IdsGiven db) (hl : l.Apply db)
    (h : ∀ tenant db, IdsGiven db → l.Apply db → (tenant.id = l.tenant.id → tenant = l.tenant) →
      Careful l env (next tenant) db) :
    Careful l env (inTenant s tenantSlug next) db := by
  apply careful_guarded
  intro _
  apply careful_guarded
  intro _ db' hlater
  refine ⟨trivial, careful_needed fun tenant hfound => ?_⟩
  have hl' := hl.later hlater
  exact h tenant db' (hlater.given hids) hl' (hl'.key tenant (List.mem_of_find?_eq_some hfound))

theorem careful_addUser {s : Session} {tenantSlug : String} {form : UserForm}
    (hids : IdsGiven db) (hl : l.Apply db) :
    Careful l env (addUser env s tenantSlug form) db := by
  apply careful_inTenant hids hl
  intro tenant db hids hl htenant db₁ hlater₁
  refine ⟨trivial, careful_guarded fun hallowed => ?_⟩
  have hroom : tenant.id = l.tenant.id → (db₁.activeUsers tenant.id : Int) < l.maxUsers := by
    intro hid
    rw [htenant hid] at hallowed ⊢
    exact (hl.later hlater₁).checkedUser hallowed
  split
  · exact careful_ret
  intro db₂ _
  refine ⟨trivial, ?_⟩
  show Careful l env (guarded ((db₂.users.rows.any fun u => some u.email = form.email) = false)
    _ _) db₂
  refine careful_guarded fun _ => careful_needed fun role _ => ?_
  split
  · exact careful_ret
  · intro db₃ _
    exact ⟨hroom, careful_settledAs⟩

theorem careful_saveUser {seat : Option Seat} {user : User} {form : UserForm}
    (hknown : Known user db)
    (hseat : user.tenantId = some l.tenant.id → user.isActive ≠ some true →
      ticked form.isActive = true →
        ∃ used : Nat, seat = some ⟨l.tenant, used⟩ ∧ used < l.maxUsers) :
    Careful l env (saveUser env seat user form) db := by
  unfold saveUser
  split
  · exact careful_ret
  split
  · exact careful_ret
  dsimp only
  split
  · exact careful_ret
  · intro db' hlater
    exact ⟨⟨hknown.later hlater, hseat⟩, careful_settledAs⟩

theorem careful_editUser {s : Session} {tenantSlug : String} {userId : Tenants.Field Uuid}
    {form : UserForm} (hids : IdsGiven db) (hl : l.Apply db) :
    Careful l env (editUser env s tenantSlug userId form) db := by
  apply careful_inTenant hids hl
  intro tenant db hids hl htenant
  apply careful_needed
  intro id _ db₁ hlater₁
  refine ⟨trivial, careful_needed fun user hfound => ?_⟩
  obtain ⟨hrow, howner⟩ := Option.filter_eq_some_iff.mp hfound
  obtain ⟨hmem, -⟩ := Table.find_eq_some.mp hrow
  have hknown : Known user db₁ :=
    ⟨hlater₁.given hids user hmem, fun u hu hid => by rw [Table.eq_of_key hu hmem hid]⟩
  split
  next hactivates =>
    intro db₂ hlater₂
    refine ⟨trivial, careful_guarded fun hallowed => careful_saveUser (hknown.later hlater₂) ?_⟩
    intro hmine _ _
    have hid : tenant.id = l.tenant.id :=
      Option.some.inj ((of_decide_eq_true howner).symm.trans hmine)
    obtain rfl := htenant hid
    exact ⟨_, rfl, (hl.later (hlater₁.trans hlater₂)).checkedUser hallowed⟩
  next hsame =>
    apply careful_saveUser hknown
    intro _ hinactive hticked
    exact absurd ⟨hticked, hinactive⟩ hsame

theorem careful_deleteUser {s : Session} {tenantSlug : String} {userId : Tenants.Field Uuid}
    (hids : IdsGiven db) (hl : l.Apply db) :
    Careful l env (deleteUser s tenantSlug userId) db := by
  apply careful_inTenant hids hl
  intro tenant db _ _ _
  apply careful_needed
  intro id _ db₁ _
  refine ⟨trivial, careful_needed fun user _ => careful_guarded fun _ => ?_⟩
  intro db₂ _
  refine ⟨trivial, ?_⟩
  generalize (handleSeat env (.deleteUser user.id) db₂).1 = answer
  cases answer with
  | ok _ => exact careful_ret
  | error _ => exact fun _ _ => ⟨trivial, careful_settledAs⟩

theorem careful_createDevice {s : Session} {tenantSlug : String} {form : DeviceForm}
    (hids : IdsGiven db) (hl : l.Apply db) :
    Careful l env (createDevice env s tenantSlug form) db := by
  apply careful_inTenant hids hl
  intro tenant db _ hl _ db₁ hlater₁
  refine ⟨trivial, careful_needed fun group _ => careful_needed fun typeId _ =>
    careful_needed fun port _ => ?_⟩
  intro db₂ hlater₂
  refine ⟨trivial, careful_needed fun tenant hfound => ?_⟩
  intro db₃ hlater₃
  have hl₂ := hl.later (hlater₁.trans hlater₂)
  refine ⟨trivial, careful_guarded fun hallowed => ?_⟩
  have hroom : tenant.id = l.tenant.id → (db₃.activeDevices tenant.id : Int) < l.maxDevices := by
    intro hid
    have htenant : tenant = l.tenant := hl₂.key tenant (List.mem_of_find?_eq_some hfound) hid
    rw [htenant] at hallowed ⊢
    exact (hl₂.later hlater₃).checkedDevice hallowed
  intro db₄ _
  refine ⟨trivial, careful_needed fun _ _ => careful_needed fun password _ => ?_⟩
  intro db₅ _
  exact ⟨hroom, careful_settledAs⟩

theorem careful_saveDevice {device : Device} {data : Update Device} {done : Reply}
    {failed : SaveError → Reply} : Careful l env (saveDevice device data done failed) db := by
  unfold saveDevice
  split
  · exact careful_ret
  · exact fun _ _ => ⟨trivial, careful_settledAs⟩

theorem careful_program (call : SeatCall) (hids : IdsGiven db) (hl : l.Apply db) :
    Careful l env (call.program env) db := by
  obtain ⟨s, tenantSlug, request⟩ := call
  cases request with
  | addUser form => exact careful_addUser hids hl
  | editUser userId form => exact careful_editUser hids hl
  | deleteUser userId => exact careful_deleteUser hids hl
  | createDevice form => exact careful_createDevice hids hl
  | updateDevice deviceId data =>
    apply careful_inTenant hids hl
    intro tenant db _ _ _
    apply careful_needed
    intro id _ db₁ _
    exact ⟨trivial, careful_needed fun device _ => careful_saveDevice⟩
  | deleteDevice deviceId =>
    apply careful_inTenant hids hl
    intro tenant db _ _ _
    apply careful_needed
    intro id _ db₁ _
    exact ⟨trivial, careful_needed fun device _ => careful_saveDevice⟩

end Requests

/-! ## One commit -/

section Commits

variable {l : Limits} {env : UsersEnv} {db : SeatsDb} {c : SeatCmd}

/-- A commit is rolled back, or writes. -/
theorem commit_rule {α : Type} {written : Except SaveError α} {put : α → SeatsDb}
    {R : SeatsDb → Prop} (hsame : R db) (hput : ∀ a, written = .ok a → R (put a)) :
    R (commit db written put).2 := by
  cases written with
  | ok a => exact hput a rfl
  | error e => exact hsame

theorem insertedUser_ok {seat : Seat} {form : UserForm} {role : UserRole} {passwordHash : String}
    {users : Table User} (h : insertedUser db seat form role passwordHash = .ok users) :
    db.users.add (.created db.fresh seat.tenant.id form role passwordHash) = some users := by
  simp only [insertedUser, bind_eq_ok, orRefuse_eq_ok, require_eq_ok, demand_eq_ok] at h
  obtain ⟨-, -, -, -, hadd⟩ := h
  exact hadd

theorem updatedUser_ok {user : User} {form : UserForm} {role : UserRole}
    {passwordHash : Option String} {users : Table User}
    (h : updatedUser db user form role passwordHash = .ok users) :
    users =
      db.users.modify (fun u => u.id = user.id) (userColumns user form role passwordHash) := by
  simp only [updatedUser, bind_eq_ok, orRefuse_eq_ok, require_eq_ok, demand_eq_ok, pure_eq_ok] at h
  obtain ⟨-, -, -, -, -, -, rfl⟩ := h
  rfl

theorem removedUser_ok {id : Uuid} {users : Table User} (h : removedUser db id = .ok users) :
    users = db.users.erase fun u => u.id = id := by
  simp only [removedUser, bind_eq_ok, require_eq_ok, pure_eq_ok] at h
  obtain ⟨-, -, rfl⟩ := h
  rfl

theorem deactivatedUser_ok {id : Uuid} {users : Table User}
    (h : deactivatedUser db id = .ok users) :
    users = db.users.modify (fun u => u.id = id)
      { apply := fun u => { u with isActive := some false } } := by
  simp only [deactivatedUser, bind_eq_ok, require_eq_ok, pure_eq_ok] at h
  obtain ⟨-, -, rfl⟩ := h
  rfl

theorem insertedDevice_ok {seat : Seat} {groupId : Uuid} {form : DeviceForm}
    {typeId : Option Uuid} {port : Int} {password : String} {devices : Table Device}
    (h : insertedDevice env db seat groupId form typeId port password = .ok devices) :
    ∃ d, d.tenantId = seat.tenant.id ∧ db.devices.add d = some devices := by
  simp only [insertedDevice, bind_eq_ok, orRefuse_eq_ok, demand_eq_ok] at h
  obtain ⟨-, -, hadd⟩ := h
  exact ⟨_, rfl, hadd⟩

theorem updatedDevice_ok {device : Device} {data : Update Device} {devices : Table Device}
    (h : updatedDevice db device data = .ok devices) :
    devices = db.devices.modify (fun d => d.id = device.id) (deviceColumns device data) := by
  simp only [updatedDevice, bind_eq_ok, orRefuse_eq_ok, demand_eq_ok, pure_eq_ok] at h
  obtain ⟨-, -, -, -, rfl⟩ := h
  rfl

/-- The flush of an edit leaves the tenant of the row. -/
theorem userColumns_tenantId {user row : User} {form : UserForm} {role : UserRole}
    {passwordHash : Option String} :
    ((userColumns user form role passwordHash).apply row).tenantId = row.tenantId :=
  if_pos rfl

theorem Later.ofUsers {users : Table User}
    (hids : IdsGiven db → ∀ u ∈ users, u.id < db.fresh)
    (hstays : ∀ u' ∈ users, ∃ u ∈ db.users, u.id = u'.id ∧ u.tenantId = u'.tenantId) :
    Later db { db with users } where
  tenants := rfl
  maxDevices := rfl
  fresh := Nat.le_refl _
  given := hids
  stays := fun u' hu' _ => hstays u' hu'

/-- An update of users that leaves their tenants. -/
theorem Later.modifyUsers {p : User → Bool} {changed : Update User}
    (h : ∀ u, (changed.apply u).tenantId = u.tenantId) :
    Later db { db with users := db.users.modify p changed } := by
  have hrow : ∀ u' ∈ db.users.modify p changed,
      ∃ u ∈ db.users, u.id = u'.id ∧ u.tenantId = u'.tenantId := by
    intro u' hu'
    obtain ⟨u, hu, rfl⟩ := Table.mem_modify.mp hu'
    refine ⟨u, hu, ?_⟩
    split
    · exact ⟨(changed.keeps u).symm, (h u).symm⟩
    · exact ⟨rfl, rfl⟩
  apply Later.ofUsers _ hrow
  intro hids u' hu'
  obtain ⟨u, hu, hid, -⟩ := hrow u' hu'
  exact hid ▸ hids u hu

/-- Every command leaves a later state. -/
theorem later_handle : Later db (handleSeat env c db).2 := by
  cases c with
  | insertUser seat form role passwordHash =>
    refine commit_rule (R := Later db) (Later.refl db) fun users hok => ?_
    have hadd := insertedUser_ok hok
    have hnew : ∀ u' ∈ users, u'.id < db.fresh → u' ∈ db.users := by
      intro u' hu' hid
      rcases (Table.mem_of_add hadd).mp hu' with rfl | hold
      · exact absurd hid (Nat.lt_irrefl _)
      · exact hold
    refine ⟨rfl, rfl, Nat.le_succ _, fun hids u' hu' => ?_, fun u' hu' hid => ?_⟩
    · rcases (Table.mem_of_add hadd).mp hu' with rfl | hold
      · exact Nat.lt_succ_self _
      · exact Nat.lt_succ_of_lt (hids u' hold)
    · exact ⟨u', hnew u' hu' hid, rfl, rfl⟩
  | updateUser seat user form role passwordHash =>
    refine commit_rule (R := Later db) (Later.refl db) fun users hok => ?_
    obtain rfl := updatedUser_ok hok
    exact Later.modifyUsers fun u => userColumns_tenantId
  | deleteUser id =>
    refine commit_rule (R := Later db) (Later.refl db) fun users hok => ?_
    obtain rfl := removedUser_ok hok
    apply Later.ofUsers
    · exact fun hids u hu => hids u (Table.mem_erase.mp hu).1
    · exact fun u hu => ⟨u, (Table.mem_erase.mp hu).1, rfl, rfl⟩
  | deactivateUser id =>
    refine commit_rule (R := Later db) (Later.refl db) fun users hok => ?_
    obtain rfl := deactivatedUser_ok hok
    exact Later.modifyUsers fun u => rfl
  | insertDevice seat groupId form typeId port password =>
    refine commit_rule (R := Later db) (Later.refl db) fun devices _ => ?_
    refine ⟨rfl, rfl, Nat.le_succ _, fun hids u hu => Nat.lt_succ_of_lt (hids u hu), ?_⟩
    exact fun u hu _ => ⟨u, hu, rfl, rfl⟩
  | updateDevice device data =>
    refine commit_rule (R := Later db) (Later.refl db) fun devices _ => ?_
    exact ⟨rfl, rfl, Nat.le_refl _, id, fun u hu _ => ⟨u, hu, rfl, rfl⟩⟩
  | _ => exact Later.refl db

theorem activeUsers_eq {tenantId : Uuid} :
    db.activeUsers tenantId = db.users.rows.countP (countsUser tenantId) := rfl

theorem activeDevices_eq {tenantId : Uuid} :
    db.activeDevices tenantId = db.devices.rows.countP (countsDevice tenantId) := rfl

/-- The users change so that their number keeps to the limit. -/
theorem Limits.Hold.users_le (h : l.Hold db) {db' : SeatsDb} (hdevices : db'.devices = db.devices)
    (hle : (db'.activeUsers l.tenant.id : Int) ≤ l.maxUsers) : l.Hold db' where
  devices := by
    rw [activeDevices_eq, hdevices]
    exact h.devices
  users := hle

theorem Limits.Hold.devices_le (h : l.Hold db) {db' : SeatsDb} (husers : db'.users = db.users)
    (hle : (db'.activeDevices l.tenant.id : Int) ≤ l.maxDevices) : l.Hold db' where
  devices := hle
  users := by
    rw [activeUsers_eq, husers]
    exact h.users

theorem Limits.Hold.insertUser (h : l.Hold db) {seat : Seat} {form : UserForm} {role : UserRole}
    {passwordHash : String} (hchecked : seat.tenant.id = l.tenant.id → seat.used < l.maxUsers)
    (hkept : seat.tenant.id = l.tenant.id → db.activeUsers l.tenant.id ≤ seat.used) :
    l.Hold (handleSeat env (.insertUser seat form role passwordHash) db).2 := by
  refine commit_rule (R := l.Hold) h fun users hok => ?_
  have hcount := Table.countP_of_add (P := countsUser l.tenant.id) (insertedUser_ok hok)
  have husers := h.users
  rw [activeUsers_eq] at husers hkept
  refine h.users_le rfl ?_
  rw [activeUsers_eq]
  by_cases hmine : seat.tenant.id = l.tenant.id
  · have hroom := hchecked hmine
    have hstill := hkept hmine
    dsimp only
    split at hcount <;> omega
  · have hother : countsUser l.tenant.id
        (.created db.fresh seat.tenant.id form role passwordHash) = false := by
      simp [countsUser, User.created, hmine]
    rw [hother] at hcount
    dsimp only
    simp only [Bool.false_eq_true, if_false] at hcount
    omega

/-- An edit that takes a seat has checked it; any other one takes none. -/
theorem Limits.Hold.updateUser (h : l.Hold db) {seat : Option Seat} {user : User} {form : UserForm}
    {role : UserRole} {passwordHash : Option String}
    (hchecked : Checked l db (.updateUser seat user form role passwordHash))
    (hkept : ∀ t ∈ seat, t.tenant.id = l.tenant.id → db.activeUsers l.tenant.id ≤ t.used) :
    l.Hold (handleSeat env (.updateUser seat user form role passwordHash) db).2 := by
  obtain ⟨hknown, hseat⟩ := hchecked
  refine commit_rule (R := l.Hold) h fun users hok => ?_
  obtain rfl := updatedUser_ok hok
  have husers := h.users
  refine h.users_le rfl ?_
  rw [activeUsers_eq] at husers hkept ⊢
  by_cases htakes : user.tenantId = some l.tenant.id ∧ user.isActive ≠ some true ∧
      ticked form.isActive = true
  · obtain ⟨hmine, hinactive, hticked⟩ := htakes
    obtain ⟨used, rfl, hroom⟩ := hseat hmine hinactive hticked
    have hstill := hkept _ rfl rfl
    have hone := Table.countP_modify_one_le (t := db.users) (k := user.id)
      (f := userColumns user form role passwordHash) (P := countsUser l.tenant.id)
    have hmodified : (db.users.modify (fun u => u.id = user.id)
        (userColumns user form role passwordHash)).rows.countP (countsUser l.tenant.id) ≤
          db.users.rows.countP (countsUser l.tenant.id) + 1 := hone
    dsimp only at hstill ⊢
    omega
  · have hle : (db.users.modify (fun u => u.id = user.id)
        (userColumns user form role passwordHash)).rows.countP (countsUser l.tenant.id) ≤
          db.users.rows.countP (countsUser l.tenant.id) := by
      apply Table.countP_modify_le
      intro u hu hid hcounts
      rw [countsUser, userColumns_tenantId, Bool.and_eq_true, decide_eq_true_eq,
        decide_eq_true_eq] at hcounts
      obtain ⟨htenant, hactive⟩ := hcounts
      rw [countsUser, Bool.and_eq_true, decide_eq_true_eq, decide_eq_true_eq]
      refine ⟨htenant, ?_⟩
      have hmine : user.tenantId = some l.tenant.id :=
        (hknown.same u hu (of_decide_eq_true hid)).symm.trans htenant
      change dirty user.isActive (some (ticked form.isActive)) u.isActive = some true at hactive
      unfold dirty at hactive
      split at hactive
      next => exact hactive
      next hdirty =>
        have hticked := Option.some.inj hactive
        exact absurd ⟨hmine, fun hold => hdirty (hactive.trans hold.symm), hticked⟩ htakes
    dsimp only
    omega

theorem Limits.Hold.insertDevice (h : l.Hold db) {seat : Seat} {groupId : Uuid} {form : DeviceForm}
    {typeId : Option Uuid} {port : Int} {password : String}
    (hchecked : seat.tenant.id = l.tenant.id → seat.used < l.maxDevices)
    (hkept : seat.tenant.id = l.tenant.id → db.activeDevices l.tenant.id ≤ seat.used) :
    l.Hold (handleSeat env (.insertDevice seat groupId form typeId port password) db).2 := by
  refine commit_rule (R := l.Hold) h fun devices hok => ?_
  obtain ⟨d, htenant, hadd⟩ := insertedDevice_ok hok
  have hcount := Table.countP_of_add (P := countsDevice l.tenant.id) hadd
  have hdevices := h.devices
  rw [activeDevices_eq] at hdevices hkept
  refine h.devices_le rfl ?_
  rw [activeDevices_eq]
  by_cases hmine : seat.tenant.id = l.tenant.id
  · have hroom := hchecked hmine
    have hstill := hkept hmine
    dsimp only
    split at hcount <;> omega
  · have hother : countsDevice l.tenant.id d = false := by
      simp [countsDevice, htenant, hmine]
    rw [hother] at hcount
    dsimp only
    simp only [Bool.false_eq_true, if_false] at hcount
    omega

/-- One command keeps the limits, if its check still holds. -/
theorem Limits.Hold.handle (h : l.Hold db) (hchecked : Checked l db c)
    (hkept : c.kept l.tenant.id db = true) : l.Hold (handleSeat env c db).2 := by
  have hseat : ∀ {a b : Uuid} {m n : Nat}, (decide (a ≠ b) || decide (m ≤ n)) = true →
      a = b → m ≤ n := by
    intro a b m n hor heq
    simpa [heq] using hor
  cases c with
  | insertUser seat form role passwordHash => exact h.insertUser hchecked (hseat hkept)
  | updateUser seat user form role passwordHash =>
    apply h.updateUser hchecked
    rintro t rfl
    exact hseat hkept
  | deleteUser id =>
    refine commit_rule (R := l.Hold) h fun users hok => ?_
    obtain rfl := removedUser_ok hok
    have hle := Table.countP_erase_le (t := db.users) (p := fun u => u.id = id)
      (P := countsUser l.tenant.id)
    have husers := h.users
    rw [activeUsers_eq] at husers
    refine h.users_le rfl ?_
    rw [activeUsers_eq]
    dsimp only
    omega
  | deactivateUser id =>
    refine commit_rule (R := l.Hold) h fun users hok => ?_
    obtain rfl := deactivatedUser_ok hok
    have hle := Table.countP_modify_le (t := db.users) (p := fun u => u.id = id)
      (f := { apply := fun u => { u with isActive := some false } })
      (P := countsUser l.tenant.id) fun u _ _ hcounts => by simp [countsUser] at hcounts
    have husers := h.users
    rw [activeUsers_eq] at husers
    refine h.users_le rfl ?_
    rw [activeUsers_eq]
    dsimp only
    omega
  | insertDevice seat groupId form typeId port password =>
    exact h.insertDevice hchecked (hseat hkept)
  | updateDevice device data =>
    refine commit_rule (R := l.Hold) h fun devices hok => ?_
    obtain rfl := updatedDevice_ok hok
    have hle : (db.devices.modify (fun d => d.id = device.id)
        (deviceColumns device data)).rows.countP (countsDevice l.tenant.id) ≤
          db.devices.rows.countP (countsDevice l.tenant.id) := by
      apply Table.countP_modify_le
      intro d hd hid hcounts
      have hd' := List.all_eq_true.mp hkept d hd
      simpa [of_decide_eq_true hid, hcounts] using hd'
    have hdevices := h.devices
    rw [activeDevices_eq] at hdevices
    refine h.devices_le rfl ?_
    rw [activeDevices_eq]
    dsimp only
    omega
  | _ => exact h

end Commits

/-! ## Every run -/

/-- What holds in every state of a run: the limits, and what the programs have checked. -/
def RunInv (l : Limits) (env : UsersEnv) : SeatClients → Prop :=
  AllClients (fun db => IdsGiven db ∧ l.Apply db ∧ l.Hold db) (Careful l env)

theorem RunInv.step {l : Limits} {env : UsersEnv} {s s' : SeatClients} {e : SeatEvent}
    (h : RunInv l env s) (hok : ChecksKept l.tenant.id s e)
    (hs : clientStep (seatPages env) s e = some s') : RunInv l env s' := by
  apply AllClients.step h hs
  · intro call _
    exact careful_program call h.1.1 h.1.2.1
  · intro i c next he hclient hp
    obtain ⟨hids, hl, hhold⟩ := h.1
    obtain ⟨hchecked, hnext⟩ := hp s.shared (Later.refl _)
    have hlater : Later s.shared (handleSeat env c s.shared).2 := later_handle
    have hkept : c.kept l.tenant.id s.shared = true := by
      subst he
      have hall : (nextSeatCmd s i).all (·.kept l.tenant.id s.shared) = true := hok
      rw [nextSeatCmd, hclient] at hall
      exact hall
    exact ⟨⟨hlater.given hids, hl.later hlater, hhold.handle hchecked hkept⟩, hnext,
      fun _ _ _ _ hq => hq.mono hlater⟩
  · intro x
    exact x.elim

/-- **The limits of the plan hold in every state** of an interleaving in which no seat is taken
between the check of a request and its commit. -/
theorem limits_hold (env : UsersEnv) (l : Limits) (db : SeatsDb) (es : List SeatEvent)
    (s : SeatClients) (hplan : l.Apply db) (hids : IdsGiven db) (hstart : l.Hold db)
    (hok : Along (clientStep (seatPages env)) (ChecksKept l.tenant.id) { shared := db } es)
    (hrun : exec (clientStep (seatPages env)) { shared := db } es = some s) :
    l.Hold s.shared := by
  have hstep : ∀ s e s', RunInv l env s → ChecksKept l.tenant.id s e →
      clientStep (seatPages env) s e = some s' → RunInv l env s' :=
    fun _ _ _ h hok hs => h.step hok hs
  have hinit : RunInv l env { shared := db } := ⟨⟨hids, hplan, hstart⟩, by simp⟩
  exact (exec_invariant hstep hinit hok hrun).1.2.2

/-! ## Two requests for one seat -/

/-- Two users and one device. -/
def smallPlan : Limits where
  tenant := { id := 1, slug := "acme", plan := some { maxUsers := some 2 } }
  maxDevices := 1
  maxUsers := 2

def userRow (id : Uuid) (email : String) (isActive : Bool) : User where
  id := id
  tenantId := some 1
  email := email
  fullName := email
  passwordHash := "h"
  isActive := some isActive

/-- One user is active, another one is not. -/
def smallTenant : SeatsDb where
  tenants := [smallPlan.tenant]
  users := { rows := [userRow 1 "a@acme" true, userRow 2 "b@acme" false] }
  deviceGroups := { rows := [{ id := 1, tenantId := 1, name := "Matriz", slug := "matriz" }] }
  maxDevices := fun _ => some 1
  fresh := 3

def asciiEnv : UsersEnv where
  toEnv := .ascii
  describeStale := ""

def byAdmin (request : SeatRequest) : SeatEvent :=
  .spawn { session := ⟨1, .tenantAdmin, "acme"⟩, tenantSlug := "acme", request := request }

def newUser : SeatRequest :=
  .addUser { fullName := some "C", email := some "c@acme", password := some "Senha-123" }

def reactivation : SeatRequest :=
  .editUser (.value 2)
    { fullName := some "b@acme", email := some "b@acme", isActive := some "on" }

def newDevice (name : String) : SeatRequest :=
  .createDevice
    { name := some name, groupId := .value 1, ipAddress := some "10.0.0.1"
      username := some "admin", password := some "x" }

/-- How many users and devices are active after a schedule. -/
def activeAfter (es : List SeatEvent) : Option (Nat × Nat) :=
  (exec (clientStep (seatPages asciiEnv)) { shared := smallTenant } es).map fun s =>
    (s.shared.activeUsers 1, s.shared.activeDevices 1)

theorem smallPlan_apply : smallPlan.Apply smallTenant where
  key := by
    intro t ht _
    exact List.mem_singleton.mp ht
  limited := rfl
  users := rfl
  devices := rfl
  someUsers := by decide
  someDevices := by decide

theorem smallTenant_given : IdsGiven smallTenant := by
  intro u hu
  rcases List.mem_pair.mp hu with rfl | rfl
  · decide
  · decide

theorem smallPlan_holds : smallPlan.Hold smallTenant := ⟨by decide, by decide⟩

/-- A user is added while another one is activated, and two devices are created side by side: all of
them have counted before the other one committed. -/
theorem two_requests_for_one_seat :
    (¬ ∀ (env : UsersEnv) (l : Limits) (db : SeatsDb) (es : List SeatEvent) (s : SeatClients),
      l.Apply db → IdsGiven db → l.Hold db →
      exec (clientStep (seatPages env)) { shared := db } es = some s → l.Hold s.shared) ∧
    activeAfter [byAdmin newUser, byAdmin reactivation, .advance 0, .advance 0, .advance 1,
      .advance 1, .advance 1, .advance 0, .advance 0, .advance 1] = some (3, 0) ∧
    activeAfter [byAdmin (newDevice "core"), byAdmin (newDevice "edge"), .advance 0, .advance 0,
      .advance 0, .advance 0, .advance 1, .advance 1, .advance 1, .advance 1, .advance 0,
      .advance 0, .advance 1, .advance 1] = some (1, 2) := by
  have husers : activeAfter [byAdmin newUser, byAdmin reactivation, .advance 0, .advance 0,
      .advance 1, .advance 1, .advance 1, .advance 0, .advance 0, .advance 1] = some (3, 0) := by
    decide +kernel
  refine ⟨fun hall => ?_, husers, by decide +kernel⟩
  obtain ⟨s, hrun, hcounts⟩ := Option.map_eq_some_iff.mp husers
  have hhold := hall asciiEnv smallPlan smallTenant _ s smallPlan_apply smallTenant_given
    smallPlan_holds hrun
  have hthree : s.shared.activeUsers 1 = 3 := (Prod.mk.inj hcounts).1
  have htwo : (s.shared.activeUsers 1 : Int) ≤ 2 := hhold.users
  omega

/-- The seats are taken one after the other; the second device finds none, until the first one is
deleted. -/
def oneByOne : List SeatEvent :=
  [byAdmin newUser, .advance 0, .advance 0, byAdmin reactivation, .advance 1, .advance 0,
    .advance 0, .advance 1, .advance 1, byAdmin (newDevice "core"), .advance 2, .advance 2,
    .advance 2, .advance 2, .advance 2, .advance 2, byAdmin (.deleteDevice (.value 4)),
    .advance 3, .advance 3, .advance 3, byAdmin (newDevice "edge"), .advance 4, .advance 4,
    .advance 4, .advance 4, .advance 4, .advance 4]

theorem oneByOne_limits :
    smallPlan.Hold ((exec (clientStep (seatPages asciiEnv)) { shared := smallTenant } oneByOne).get
      (by decide +kernel)).shared :=
  limits_hold asciiEnv smallPlan smallTenant oneByOne _ smallPlan_apply smallTenant_given
    smallPlan_holds (along_of_check (by decide +kernel)) (Option.some_get _).symm

end BackupCenter.Seats
