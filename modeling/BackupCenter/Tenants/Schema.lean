import BackupCenter.Lib.Guarded
import BackupCenter.Lib.Table
import BackupCenter.Lib.Text
import Mathlib.Order.Basic

/-!
# The database of the tenant pages

The rows that the tenant routes read and write, the login session, and the checks that
every route begins with. Nullable Boolean columns are optional, since the code treats
`NULL` in different ways.
-/
namespace BackupCenter.Tenants

open BackupCenter.Lib

abbrev Uuid := Nat

inductive UserRole where
  | tenantViewer
  | tenantTechnician
  | tenantAdmin
  | tenantOwner
  | superAdmin
  deriving Repr, DecidableEq

namespace UserRole

/-- `UserRole.__members__` -/
def members : List (String × UserRole) :=
  [("SUPER_ADMIN", superAdmin), ("TENANT_OWNER", tenantOwner), ("TENANT_ADMIN", tenantAdmin),
    ("TENANT_TECHNICIAN", tenantTechnician), ("TENANT_VIEWER", tenantViewer)]

/-- `UserRole[name]` -/
def ofName (name : String) : Option UserRole := members.lookup name

/-- viewer < technician < admin < owner < super admin -/
def rank : UserRole → Nat
  | tenantViewer => 0
  | tenantTechnician => 1
  | tenantAdmin => 2
  | tenantOwner => 3
  | superAdmin => 4

theorem rank_injective : Function.Injective rank := by
  intro a b h
  cases a <;> cases b <;> first | rfl | cases h

instance : LinearOrder UserRole := LinearOrder.lift' rank rank_injective

end UserRole

structure Plan where
  maxUsers : Option Int

structure Tenant where
  id : Uuid
  slug : String
  accessUnlimited : Bool := false
  plan : Option Plan := none

structure User where
  id : Uuid
  tenantId : Option Uuid
  email : String
  fullName : String
  passwordHash : String
  role : UserRole := .tenantViewer
  isActive : Option Bool := some true
  mustChangePassword : Bool := false
  passwordChangedAt : Option Nat := none
  deriving DecidableEq

/-- A JSON value as the code looks at it: its `str`, and whether it counts as true. -/
structure JsonValue where
  text : String
  truthy : Bool
  deriving DecidableEq

/-- `extra_parameters`; a missing dictionary is the empty one. -/
abbrev Extra := List (String × JsonValue)

structure Device where
  id : Uuid
  tenantId : Uuid
  groupId : Option Uuid := none
  subgroupId : Option Uuid := none
  deviceTypeId : Option Uuid := none
  name : String
  ipAddress : String
  port : Option Int := some 22
  username : String
  passwordEncrypted : String
  useTelnet : Option Bool := some false
  backupScheduled : Option Bool := some false
  description : Option String := none
  extraParameters : Extra := []
  isActive : Option Bool := some true
  deriving DecidableEq

structure DeviceGroup where
  id : Uuid
  tenantId : Uuid
  name : String
  slug : String
  description : Option String := none
  connectionType : Option String := some "direct"
  usesVpn : Option Bool := some false
  vpnType : Option String := some "l2tp"
  vpnServer : Option String := none
  vpnUsername : Option String := none
  vpnPasswordEncrypted : Option String := none
  vpnIpsecSecretEncrypted : Option String := none
  usesJumpHost : Option Bool := some false
  jumpHost : Option String := none
  jumpPort : Option Int := some 22
  jumpUsername : Option String := none
  jumpPasswordEncrypted : Option String := none
  jumpKeyEncrypted : Option String := none
  isActive : Option Bool := some true
  deriving DecidableEq

structure DeviceSubgroup where
  id : Uuid
  tenantId : Uuid
  groupId : Uuid
  name : String
  connectionType : String := "direct"
  isActive : Bool := true
  deriving DecidableEq

instance : Keyed User Uuid := ⟨User.id⟩
instance : Keyed Device Uuid := ⟨Device.id⟩
instance : Keyed DeviceGroup Uuid := ⟨DeviceGroup.id⟩
instance : Keyed DeviceSubgroup Uuid := ⟨DeviceSubgroup.id⟩

structure Database where
  tenants : List Tenant := []
  users : Table User := .empty
  devices : Table Device := .empty
  deviceGroups : Table DeviceGroup := .empty
  deviceSubgroups : Table DeviceSubgroup := .empty
  deviceTypes : List Uuid := []
  /-- The users that rows of other tables (activity log, backups, API tokens) refer to. -/
  referencedUsers : List Uuid := []

def Database.tenantBySlug (db : Database) (slug : String) : Option Tenant :=
  db.tenants.find? fun t => t.slug = slug

/-! ## Requests and answers -/

/-- A form or URL text with what its constructor (`uuid.UUID`, `int`) makes of it. -/
inductive Field (α : Type) where
  | absent
  | empty
  /-- the constructor raises `ValueError` -/
  | malformed
  | value (a : α)
  deriving DecidableEq

namespace Field

variable {α : Type}

/-- The constructor applied to the text, without a value for `ValueError`. -/
def parse : Field α → Option α
  | value a => some a
  | _ => none

/-- `bool(text)` -/
def given : Field α → Bool
  | absent | empty => false
  | malformed | value _ => true

/-- `a or b or …` -/
def firstGiven : List (Field α) → Field α
  | [] => absent
  | f :: fs => if f.given then f else firstGiven fs

end Field

/-- A text field that is present and not empty. -/
def nonempty (text : Option String) : Option String := text.filter (· ≠ "")

/-- A ticked checkbox. -/
def ticked (text : Option String) : Bool := text = some "on"

inductive Category where
  | success
  | warning
  | error
  deriving Repr, DecidableEq

inductive Reply where
  | abort (code : Nat)
  | text (body : String) (code : Nat)
  /-- a flashed message with a redirect or the form again -/
  | flash (message : String) (category : Category)
  | json (ok : Bool) (message : String) (code : Nat)
  /-- an exception that no handler of the route catches -/
  | serverError
  deriving Repr, DecidableEq

/-- What the exception handlers of the routes tell apart. -/
inductive Failure where
  /-- `ValueError` -/
  | value
  /-- `DataError`: a value that does not fit its column -/
  | data
  /-- `IntegrityError` -/
  | integrity
  deriving Repr, DecidableEq

/-- How the foreign key from a device to its subgroup reacts when the subgroup is deleted. -/
inductive OnDelete where
  | setNull
  | refuse
  deriving DecidableEq

/-- What the routes take from the runtime, the libraries and the configuration. -/
structure Env where
  /-- `str.lower` -/
  lower : String → String
  /-- `lower` of the database -/
  sqlLower : String → String
  /-- `\d` of a regular expression -/
  isDecimal : Char → Bool
  encryptPassword : String → String
  decryptPassword : String → Option String
  getPasswordHash : String → Except String String
  /-- `str(e)` -/
  describe : Failure → String
  subgroupOnDelete : OnDelete
  /-- `_collect_device_extra_parameters`, from the form, the device type and the old values -/
  collectDeviceExtraParameters : List (String × String) → Option Uuid → Extra → Extra
  /-- The exception that the bookkeeping after a commit raises (daily schedule, activity log). -/
  afterCommit : Option String

/-- A runtime that knows only ASCII, for concrete runs. -/
def Env.ascii : Env where
  lower := asciiLower
  sqlLower := asciiLower
  isDecimal := Char.isDigit
  encryptPassword := id
  decryptPassword := some
  getPasswordHash := .ok
  describe _ := ""
  subgroupOnDelete := .setNull
  collectDeviceExtraParameters _ _ extra := extra
  afterCommit := none

abbrev Result := Except Reply (Database × Reply)

structure Session where
  userId : Uuid
  role : UserRole
  tenantSlug : String

/-- The roles that `tenant_admin_required` lets through. -/
def UserRole.managesTenant (r : UserRole) : Bool :=
  r = .superAdmin || r = .tenantOwner || r = .tenantAdmin

def tenantAdminRequired (s : Session) : Except Reply Unit :=
  require s.role.managesTenant (.flash "Você não tem permissão para acessar esta área." .error)

def getDbAndTenant (s : Session) (tenantSlug : String) (db : Database) : Except Reply Tenant := do
  require (s.role = .superAdmin ∨ s.tenantSlug = tenantSlug) (.abort 403)
  demand (db.tenantBySlug tenantSlug) (.text "Tenant not found" 404)

/-- `_can_view_saved_credentials`: it also takes over the role that an active user has now. -/
def canViewSavedCredentials (db : Database) (s : Session) : Bool × Session :=
  if s.role = .tenantOwner then (true, s)
  else
    match (db.users.find s.userId).filter fun u => u.isActive = some true with
    | none => (false, s)
    | some user => (user.role = .tenantOwner, { s with role := user.role })

/-- The session may manage the tenant of the URL. -/
def Session.Admitted (s : Session) (tenantSlug : String) : Prop :=
  s.role.managesTenant = true ∧ (s.role = .superAdmin ∨ s.tenantSlug = tenantSlug)

@[simp] theorem tenantAdminRequired_eq_ok {s : Session} {u : Unit} :
    tenantAdminRequired s = .ok u ↔ s.role.managesTenant = true :=
  require_eq_ok

@[simp] theorem getDbAndTenant_eq_ok {s : Session} {tenantSlug : String} {db : Database}
    {t : Tenant} : getDbAndTenant s tenantSlug db = .ok t ↔
      (s.role = .superAdmin ∨ s.tenantSlug = tenantSlug) ∧ db.tenantBySlug tenantSlug = some t := by
  simp [getDbAndTenant]

/-! ## Column constraints -/

/-- The text fits a column of this length (and the driver takes it: no NUL character). -/
def fits (length : Nat) (text : Option String) : Bool :=
  text.all fun s => s.length ≤ length && s.toList.all (· ≠ Char.ofNat 0)

/-- The database checks lengths before `NOT NULL`. -/
def checkColumns (required nullable : List (Nat × Option String)) : Except Failure Unit := do
  require ((required ++ nullable).all fun c => fits c.1 c.2) .data
  require (required.all fun c => c.2.isSome) .integrity

/-- An `Integer` column. -/
def fitsInteger (n : Int) : Bool := -2147483648 ≤ n && n ≤ 2147483647

/-- A `Text` column has no length limit; the driver still refuses NUL characters. -/
def fitsText (text : Option String) : Bool := text.all fun s => s.toList.all (· ≠ Char.ofNat 0)

end BackupCenter.Tenants
