import BackupCenter.Lib.Exec
import BackupCenter.Tenants.Users

/-!
# Who can grant which role

The user routes take the role from the form and check only that it is the name of some
role. A tenant session therefore stays within its own rank exactly as long as its forms do;
in a run of such requests nobody becomes a super admin.
-/
namespace BackupCenter.Tenants

open BackupCenter.Lib

/-! ## Tables of roles -/

/-- Whoever has a role above the bound has had it before. -/
def NoGrantAbove (bound : UserRole) (users users' : Table User) : Prop :=
  ∀ u ∈ users', bound < u.role → ∃ u₀ ∈ users, u₀.id = u.id ∧ u₀.role = u.role

theorem NoGrantAbove.refl (bound : UserRole) (users : Table User) :
    NoGrantAbove bound users users :=
  fun u hu _ => ⟨u, hu, rfl, rfl⟩

theorem NoGrantAbove.trans {bound : UserRole} {t₁ t₂ t₃ : Table User}
    (h₁ : NoGrantAbove bound t₁ t₂) (h₂ : NoGrantAbove bound t₂ t₃) : NoGrantAbove bound t₁ t₃ := by
  intro u hu hlt
  obtain ⟨v, hv, hid, hrole⟩ := h₂ u hu hlt
  obtain ⟨w, hw, hid', hrole'⟩ := h₁ v hv (hrole ▸ hlt)
  exact ⟨w, hw, hid'.trans hid, hrole'.trans hrole⟩

theorem NoGrantAbove.mono {bound bound' : UserRole} {t t' : Table User}
    (h : NoGrantAbove bound t t') (hle : bound ≤ bound') : NoGrantAbove bound' t t' :=
  fun u hu hlt => h u hu (lt_of_le_of_lt hle hlt)

theorem noGrantAbove_add {bound : UserRole} {t t' : Table User} {u : User}
    (h : t.add u = some t') (hu : u.role ≤ bound) : NoGrantAbove bound t t' := by
  intro v hv hlt
  rcases (Table.mem_of_add h).mp hv with rfl | hold
  · exact absurd hlt (not_lt.mpr hu)
  · exact ⟨v, hold, rfl, rfl⟩

theorem noGrantAbove_modify {bound : UserRole} {t : Table User} {p : User → Bool}
    {f : Update User}
    (h : ∀ u ∈ t, p u = true → bound < (f.apply u).role → (f.apply u).role = u.role) :
    NoGrantAbove bound t (t.modify p f) := by
  intro v hv hlt
  obtain ⟨u, hu, he⟩ := Table.mem_modify.mp hv
  split at he
  next hp => exact ⟨u, hu, he ▸ (f.keeps u).symm, he ▸ (h u hu hp (he ▸ hlt)).symm⟩
  next => exact ⟨u, hu, he ▸ rfl, he ▸ rfl⟩

theorem noGrantAbove_erase {bound : UserRole} {t : Table User} {p : User → Bool} :
    NoGrantAbove bound t (t.erase p) :=
  fun v hv _ => ⟨v, (Table.mem_erase.mp hv).1, rfl, rfl⟩

/-! ## One request -/

inductive UserRequest where
  | add (form : UserForm) (newId : Uuid)
  | edit (userId : Field Uuid) (form : UserForm)
  | delete (userId : Field Uuid)

def UserRequest.serve (env : Env) (s : Session) (tenantSlug : String) (db : Database) :
    UserRequest → Result
  | .add form newId => addUser env s tenantSlug form newId db
  | .edit userId form => editUser env s tenantSlug userId form db
  | .delete userId => deleteUser s tenantSlug userId db

/-- No user of the tenant gets a role above the one of the session. -/
def NoEscalation (s : Session) (tenantId : Uuid) (db db' : Database) : Prop :=
  ∀ u ∈ db'.users, u.tenantId = some tenantId → s.role < u.role →
    ∃ u₀ ∈ db.users, u₀.id = u.id ∧ u₀.role = u.role

/-- A form that the route accepts names no role above the one of the session, unless the
user has it already. -/
def UserRequest.WithinOwnRole (env : Env) (s : Session) (tenantSlug : String) (tenant : Tenant)
    (db : Database) : UserRequest → Prop
  | .add form newId => s.Admitted tenantSlug →
      ∀ passwordHash, AddUserAccepted env db tenant form newId passwordHash →
      ∀ role, UserRole.ofName (form.role.getD "TENANT_TECHNICIAN") = some role → role ≤ s.role
  | .edit userId form => s.Admitted tenantSlug →
      ∀ id user passwordHash, userId.parse = some id → tenantUser db tenant id = some user →
      EditUserAccepted env db tenant user form passwordHash →
      ∀ name role, nonempty form.role = some name → UserRole.ofName name = some role →
        role = user.role ∨ role ≤ s.role
  | .delete _ => True

theorem editedRole_eq_ok {form : UserForm} {user : User} {role : UserRole} :
    editedRole form user = .ok role ↔ (nonempty form.role = none ∧ user.role = role) ∨
      ∃ name, nonempty form.role = some name ∧ UserRole.ofName name = some role := by
  unfold editedRole
  split <;> simp_all

section Request

variable {env : Env} {s : Session} {tenantSlug : String} {tenant : Tenant} {db : Database}
  {form : UserForm} {newId : Uuid} {userId : Field Uuid}

/-- A tenant session is admitted only to the pages of its own tenant. -/
theorem Session.Admitted.ownTenant (hs : s.role ≠ .superAdmin) (ha : s.Admitted tenantSlug)
    {t : Tenant} (hown : db.tenantBySlug s.tenantSlug = some tenant)
    (ht : db.tenantBySlug tenantSlug = some t) : t = tenant := by
  have hslug := ha.2.resolve_left hs
  exact Option.some.inj (ht.symm.trans (hslug ▸ hown))

theorem addUser_noGrantAbove (hs : s.role ≠ .superAdmin)
    (hown : db.tenantBySlug s.tenantSlug = some tenant)
    (h : (UserRequest.add form newId).WithinOwnRole env s tenantSlug tenant db) :
    NoGrantAbove s.role db.users (settled db (addUser env s tenantSlug form newId db)).1.users := by
  refine settled_of (P := fun d : Database => NoGrantAbove s.role db.users d.users) (.refl _ _)
    fun c hc => ?_
  obtain ⟨hadm, t, hash, role, users, ht, hacc, hrole, hadd, hdb⟩ := addUser_committed hc
  obtain rfl := hadm.ownTenant hs hown ht
  rw [hdb]
  exact noGrantAbove_add hadd (h hadm hash hacc role hrole)

theorem editUser_noGrantAbove (hs : s.role ≠ .superAdmin)
    (hown : db.tenantBySlug s.tenantSlug = some tenant)
    (h : (UserRequest.edit userId form).WithinOwnRole env s tenantSlug tenant db) :
    NoGrantAbove s.role db.users
      (settled db (editUser env s tenantSlug userId form db)).1.users := by
  refine settled_of (P := fun d : Database => NoGrantAbove s.role db.users d.users) (.refl _ _)
    fun c hc => ?_
  obtain ⟨hadm, t, id, user, role, hash, ht, hid, huser, hacc, hrole, hdb⟩ := editUser_committed hc
  obtain rfl := hadm.ownTenant hs hown ht
  rw [hdb]
  apply noGrantAbove_modify
  intro u hu hp hlt
  obtain rfl : u = user :=
    Table.eq_of_key hu (tenantUser_eq_some.mp huser).1 (of_decide_eq_true hp)
  rcases editedRole_eq_ok.mp hrole with ⟨-, hkeep⟩ | ⟨name, hname, hof⟩
  · exact hkeep.symm
  · exact (h hadm id u hash hid huser hacc name role hname hof).resolve_right (not_le.mpr hlt)

theorem deleteUser_noGrantAbove {bound : UserRole} :
    NoGrantAbove bound db.users (settled db (deleteUser s tenantSlug userId db)).1.users := by
  refine settled_of (P := fun d : Database => NoGrantAbove bound db.users d.users) (.refl _ _)
    fun c hc => ?_
  obtain ⟨-, t, user, -, -, -, hdb | hdb⟩ := deleteUser_committed hc <;> rw [hdb]
  · exact noGrantAbove_modify fun _ _ _ _ => rfl
  · exact noGrantAbove_erase

/-- Requests within the own role grant nothing above it, to anybody. -/
theorem UserRequest.noGrantAbove {r : UserRequest} (hs : s.role ≠ .superAdmin)
    (hown : db.tenantBySlug s.tenantSlug = some tenant)
    (h : r.WithinOwnRole env s tenantSlug tenant db) :
    NoGrantAbove s.role db.users (settled db (r.serve env s tenantSlug db)).1.users := by
  cases r with
  | add form newId => exact addUser_noGrantAbove hs hown h
  | edit userId form => exact editUser_noGrantAbove hs hown h
  | delete userId => exact deleteUser_noGrantAbove

theorem within_of_noEscalation {r : UserRequest} (hs : s.role ≠ .superAdmin)
    (hown : db.tenantBySlug s.tenantSlug = some tenant)
    (h : NoEscalation s tenant.id db (settled db (r.serve env s tenantSlug db)).1) :
    r.WithinOwnRole env s tenantSlug tenant db := by
  cases r with
  | add form newId =>
    intro hadm hash hacc role hrole
    have ht : db.tenantBySlug tenantSlug = some tenant := hadm.2.resolve_left hs ▸ hown
    obtain ⟨c, hc, hmem⟩ := addUser_of_accepted hadm ht hacc hrole
    by_contra hnot
    simp only [UserRequest.serve, hc, settled] at h
    obtain ⟨u₀, hu₀, hid, -⟩ := h _ hmem rfl (not_le.mp hnot)
    exact absurd (Table.find_eq_some.mpr ⟨hu₀, hid⟩) (by simp [User.created, hacc.newKey])
  | edit userId form =>
    intro hadm id user hash hid huser hacc name role hname hof
    have ht : db.tenantBySlug tenantSlug = some tenant := hadm.2.resolve_left hs ▸ hown
    obtain ⟨c, hc, hdb⟩ := editUser_of_accepted hadm ht hid huser hacc
      (editedRole_eq_ok.mpr (.inr ⟨name, hname, hof⟩))
    obtain ⟨hmem, -, howner⟩ := tenantUser_eq_some.mp huser
    by_contra hnot
    obtain ⟨hnew, hlt⟩ := not_or.mp hnot
    simp only [UserRequest.serve, hc, settled, hdb] at h
    have hedited : user.edited form role hash ∈
        (db.withEditedUser user form role hash).users :=
      mem_withEditedUser.mpr ⟨user, hmem, by simp⟩
    obtain ⟨u₀, hu₀, hsame, hhad⟩ := h _ hedited howner (not_le.mp hlt)
    obtain rfl : u₀ = user := Table.eq_of_key hu₀ hmem hsame
    exact hnew hhad.symm
  | delete userId => trivial

end Request

/-! ## Runs -/

/-- The database and the sessions that are logged in. -/
structure World where
  db : Database
  sessions : List Session := []

inductive Event where
  /-- a login that `_finalize_authenticated_session` completes -/
  | login (userId : Uuid)
  | logout (session : Nat)
  /-- a page that calls `_can_view_saved_credentials` -/
  | viewCredentials (session : Nat)
  | request (session : Nat) (tenantSlug : String) (r : UserRequest)

/-- `_finalize_authenticated_session` -/
def openSession (db : Database) (user : User) : Session where
  userId := user.id
  role := user.role
  tenantSlug := ((user.tenantId.bind fun t => db.tenants.find? fun a => a.id = t).map
    Tenant.slug).getD "admin"

/-- A tenant session that is logged in. -/
def World.tenantSession (w : World) (i : Nat) : Option Session :=
  w.sessions[i]?.filter fun s => s.role ≠ .superAdmin

/-- One step of a run in which only tenant sessions send requests. -/
def World.step (env : Env) (w : World) : Event → Option World
  | .login userId =>
    (w.db.users.find userId).map fun u => { w with sessions := w.sessions ++ [openSession w.db u] }
  | .logout i => some { w with sessions := w.sessions.eraseIdx i }
  | .viewCredentials i =>
    (w.tenantSession i).map fun s =>
      { w with sessions := w.sessions.set i (canViewSavedCredentials w.db s).2 }
  | .request i tenantSlug r =>
    (w.tenantSession i).map fun s =>
      { w with db := (settled w.db (r.serve env s tenantSlug w.db)).1 }

/-- A request of the run stays within the role of its session. -/
def Event.WithinOwnRole (env : Env) (w : World) : Event → Prop
  | .request i tenantSlug r => ∀ s, w.tenantSession i = some s →
      ∀ tenant, w.db.tenantBySlug s.tenantSlug = some tenant →
        r.WithinOwnRole env s tenantSlug tenant w.db
  | _ => True

/-- Without the tenant of its session a request is refused. -/
theorem UserRequest.serve_homeless {env : Env} {s : Session} {tenantSlug : String} {db : Database}
    {r : UserRequest} (hs : s.role ≠ .superAdmin) (hnone : db.tenantBySlug s.tenantSlug = none) :
    (settled db (r.serve env s tenantSlug db)).1 = db := by
  have hno : ∀ t, s.Admitted tenantSlug → db.tenantBySlug tenantSlug ≠ some t := by
    intro t hadm ht
    rw [← hadm.2.resolve_left hs, hnone] at ht
    cases ht
  apply settled_of (P := fun d => d = db) rfl
  intro c hc
  cases r with
  | add form newId =>
    obtain ⟨hadm, t, _, _, _, ht, -⟩ := addUser_committed hc
    exact absurd ht (hno t hadm)
  | edit userId form =>
    obtain ⟨hadm, t, _, _, _, _, ht, -⟩ := editUser_committed hc
    exact absurd ht (hno t hadm)
  | delete userId =>
    obtain ⟨hadm, t, _, ht, -⟩ := deleteUser_committed hc
    exact absurd ht (hno t hadm)

/-- One step grants nobody the role above all tenant roles. -/
theorem step_noGrantAbove {env : Env} {w w' : World} {e : Event} (he : e.WithinOwnRole env w)
    (h : w.step env e = some w') : NoGrantAbove .tenantOwner w.db.users w'.db.users := by
  cases e with
  | login userId =>
    obtain ⟨u, -, rfl⟩ := Option.map_eq_some_iff.mp h
    exact .refl _ _
  | logout i =>
    obtain rfl := Option.some.inj h
    exact .refl _ _
  | viewCredentials i =>
    obtain ⟨s, -, rfl⟩ := Option.map_eq_some_iff.mp h
    exact .refl _ _
  | request i tenantSlug r =>
    obtain ⟨s, hs, rfl⟩ := Option.map_eq_some_iff.mp h
    have hrole : s.role ≠ .superAdmin := of_decide_eq_true (Option.filter_eq_some_iff.mp hs).2
    cases hown : w.db.tenantBySlug s.tenantSlug with
    | none =>
      rw [UserRequest.serve_homeless hrole hown]
      exact .refl _ _
    | some tenant =>
      apply (UserRequest.noGrantAbove hrole hown (he s hs tenant hown)).mono
      revert hrole
      cases s.role <;> decide

/-- In a run of such requests nobody gets the role above all tenant roles. -/
theorem run_noGrantAbove {env : Env} {w₀ w : World} {es : List Event}
    (hok : Along (World.step env) (Event.WithinOwnRole env) w₀ es)
    (hrun : exec (World.step env) w₀ es = some w) :
    NoGrantAbove .tenantOwner w₀.db.users w.db.users := by
  have hstep : ∀ (w : World) (e : Event) (w' : World),
      NoGrantAbove .tenantOwner w₀.db.users w.db.users → e.WithinOwnRole env w →
      w.step env e = some w' → NoGrantAbove .tenantOwner w₀.db.users w'.db.users :=
    fun _ _ _ hi he hs => hi.trans (step_noGrantAbove he hs)
  exact exec_invariant hstep (.refl _ _) hok hrun

/-- **Roles stay within the rank of the session that grants them** exactly when its accepted
forms name no role above it, and in a run of such requests nobody becomes a super admin. -/
theorem roles_within_rank (env : Env) :
    (∀ (s : Session) (tenantSlug : String) (tenant : Tenant) (db : Database) (r : UserRequest),
      s.role ≠ .superAdmin → db.tenantBySlug s.tenantSlug = some tenant →
      (NoEscalation s tenant.id db (settled db (r.serve env s tenantSlug db)).1 ↔
        r.WithinOwnRole env s tenantSlug tenant db)) ∧
    ∀ (w₀ w : World) (es : List Event), Along (World.step env) (Event.WithinOwnRole env) w₀ es →
      exec (World.step env) w₀ es = some w →
      ∀ u ∈ w.db.users, u.role = .superAdmin →
        ∃ u₀ ∈ w₀.db.users, u₀.id = u.id ∧ u₀.role = .superAdmin := by
  refine ⟨fun s tenantSlug tenant db r hs hown => ⟨within_of_noEscalation hs hown, ?_⟩, ?_⟩
  · intro h u hu _ hlt
    exact UserRequest.noGrantAbove hs hown h u hu hlt
  · intro w₀ w es hok hrun u hu hsuper
    obtain ⟨u₀, hu₀, hid, hrole⟩ := run_noGrantAbove hok hrun u hu (hsuper ▸ by decide)
    exact ⟨u₀, hu₀, hid, hrole.trans hsuper⟩

def acmeUsers : Database where
  tenants := [{ id := 1, slug := "acme", accessUnlimited := true }]
  users :=
    { rows :=
        [{ id := 10, tenantId := some 1, email := "admin", fullName := "Admin", passwordHash := "",
           role := .tenantAdmin },
          { id := 99, tenantId := none, email := "root", fullName := "Root", passwordHash := "",
            role := .superAdmin }] }

def acmeAdmin : Session := { userId := 10, role := .tenantAdmin, tenantSlug := "acme" }

/-- A tenant admin edits the own account. -/
def ownPromotion : UserRequest :=
  .edit (.value 10)
    { fullName := "Admin", email := "admin", role := "SUPER_ADMIN", isActive := "on" }

theorem admin_becomes_super_admin :
    ¬ ∀ (env : Env) (s : Session) (tenantSlug : String) (tenant : Tenant) (db : Database)
      (r : UserRequest), s.role.managesTenant = true → s.role ≠ .superAdmin →
      db.tenantBySlug s.tenantSlug = some tenant →
      NoEscalation s tenant.id db (settled db (r.serve env s tenantSlug db)).1 := by
  intro hall
  obtain ⟨u₀, hu₀, hid, hrole⟩ := hall .ascii acmeAdmin "acme" _ acmeUsers ownPromotion rfl
    (by decide) rfl _ (List.mem_cons_self ..) rfl (by decide)
  rcases List.mem_cons.mp hu₀ with rfl | hu₀
  · cases hrole
  · obtain rfl := List.mem_singleton.mp hu₀
    cases hid

def technicianForm : UserForm where
  fullName := "Tech"
  email := "tech"
  role := "TENANT_TECHNICIAN"
  password := "Secret-123"

theorem technician_within_rank :
    NoEscalation acmeAdmin 1 acmeUsers
      (settled acmeUsers (addUser .ascii acmeAdmin "acme" technicianForm 11 acmeUsers)).1 ∧
    ∃ w, exec (World.step .ascii) { db := acmeUsers }
        [.login 10, .request 0 "acme" (.add technicianForm 11)] = some w ∧
      w.db.users.rows.length = 3 ∧
      ∀ u ∈ w.db.users, u.role = .superAdmin → ∃ u₀ ∈ acmeUsers.users, u₀.id = u.id ∧
        u₀.role = .superAdmin := by
  have hwithin : ∀ s tenant db, s.role = .tenantAdmin →
      (UserRequest.add technicianForm 11).WithinOwnRole .ascii s "acme" tenant db := by
    intro s tenant db hs _ hash _ role hrole
    obtain rfl := Option.some.inj hrole
    rw [hs]
    decide
  refine ⟨((roles_within_rank .ascii).1 acmeAdmin "acme" _ acmeUsers (.add technicianForm 11)
    (by decide) rfl).mpr (hwithin _ _ _ rfl), _, rfl, rfl, ?_⟩
  refine (roles_within_rank .ascii).2 { db := acmeUsers } _
    [.login 10, .request 0 "acme" (.add technicianForm 11)] ⟨trivial, fun w hw => ⟨?_, ?_⟩⟩ rfl
  · obtain rfl := Option.some.inj hw
    intro s hs tenant _
    obtain rfl := Option.some.inj hs
    exact hwithin _ _ _ rfl
  · exact fun _ _ => trivial

end BackupCenter.Tenants
