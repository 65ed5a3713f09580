import BackupCenter.Superadmin.Users

/-!
# The last super admin

The user pages let nobody take the platform from themselves. So as long as whoever takes it from
an active super admin is still one at the commit, one is left: the one who did it.
-/
namespace BackupCenter.Superadmin

open BackupCenter.Lib
open BackupCenter.Tenants (Uuid User)

def activeSuperAdmin (u : User) : Bool := u.role = .superAdmin && u.isActive = some true

/-- At least one user is an active super admin. -/
def SomeSuperAdmin (db : UsersDb) : Prop := ∃ u ∈ db.users, activeSuperAdmin u = true

/-- The session belongs to an active super admin. -/
def sessionStands (db : UsersDb) (session : Auth.Cookie) : Bool :=
  db.users.rows.any fun u => session.userId = some u.id && activeSuperAdmin u

/-- The command takes the platform from an active super admin. -/
def unseats (db : UsersDb) : UserCmd → Option Auth.Cookie
  | .update session id changed =>
    if db.users.rows.any fun u =>
        u.id = id && activeSuperAdmin u && !activeSuperAdmin (changed.apply u)
    then some session else none
  | .delete session id =>
    if db.users.rows.any fun u => u.id = id && activeSuperAdmin u then some session else none
  | _ => none

/-- The command that a client sends next. -/
def nextCmd (s : UserClients) (i : Nat) : Option UserCmd :=
  match s.clients[i]? with
  | some (.call c _) => some c
  | _ => none

/-- Who takes the platform from an active super admin is one at this moment. -/
def SessionsStand (s : UserClients) : UserEvent → Prop
  | .advance i => ∀ session ∈ (nextCmd s i).bind (unseats s.shared),
      sessionStands s.shared session = true
  | _ => True

instance (s : UserClients) : ∀ e, Decidable (SessionsStand s e)
  | .advance i => inferInstanceAs
      (Decidable (∀ session ∈ (nextCmd s i).bind (unseats s.shared), _))
  | .spawn _ | .env _ => inferInstanceAs (Decidable True)

/-! ## What a request does to its own user -/

/-- The request leaves its own user an active super admin. -/
def sparesSelf : UserCmd → Prop
  | .update session id changed => session.userId = some id →
      ∀ u, activeSuperAdmin u = true → activeSuperAdmin (changed.apply u) = true
  | .delete session id => session.userId ≠ some id
  | _ => True

section Requests

variable {env : UsersEnv} {session : Auth.Cookie} {userId : Option Uuid} {refusal : Reply}
  {form : PlatformUserForm} {user : User}

theorem always_checked {c : Prop} [Decidable c] {rest : UserProg} (h : c → rest.Always sparesSelf) :
    (checked c refusal rest).Always sparesSelf := by
  unfold checked
  split
  next hc => exact h hc
  next => trivial

theorem always_userOfUrl {next : User → UserProg}
    (h : ∀ user, (next user).Always sparesSelf) :
    (userOfUrl session userId next).Always sparesSelf := by
  apply always_checked
  intro _
  apply always_checked
  intro _
  cases userId with
  | none => trivial
  | some id =>
    refine ⟨trivial, fun found _ => ?_⟩
    cases found with
    | none => trivial
    | some user => exact h user

/-- A flush of these values writes nothing else into an active super admin. -/
theorem activeSuperAdmin_dirty {old new u : User}
    (hrole : new.role = .superAdmin ∨ new.role = old.role)
    (hactive : new.isActive = some true) (hu : activeSuperAdmin u = true) :
    activeSuperAdmin ((dirtyColumns old new).apply u) = true := by
  simp only [activeSuperAdmin, Bool.and_eq_true, decide_eq_true_eq] at hu ⊢
  constructor
  · show dirty old.role new.role u.role = _
    unfold dirty
    split
    next => exact hu.1
    next hne => exact hrole.resolve_right hne
  · show dirty old.isActive new.isActive u.isActive = _
    unfold dirty
    split
    next => exact hu.2
    next => exact hactive

theorem always_save {new : User} {done : Reply} {failed : String}
    (h : session.userId = some user.id →
      (new.role = .superAdmin ∨ new.role = user.role) ∧ new.isActive = some true) :
    (save env session user new done failed).Always sparesSelf := by
  unfold save
  split
  · trivial
  · refine ⟨fun hself u hu => ?_, fun saved _ => ?_⟩
    · obtain ⟨hrole, hactive⟩ := h hself
      exact activeSuperAdmin_dirty hrole hactive hu
    · cases saved <;> trivial

theorem always_editTarget {next : Option Uuid → Tenants.UserRole → UserProg}
    (h : ∀ tenantId role, (session.userId = some user.id → role = .superAdmin) →
      (next tenantId role).Always sparesSelf) :
    (editTarget env session form user next).Always sparesSelf := by
  unfold editTarget
  split
  · exact h none .superAdmin fun _ => rfl
  apply always_checked
  intro hother
  have hnext : ∀ tenantId, (next tenantId (tenantRole form)).Always sparesSelf := by
    intro tenantId
    apply h
    intro hself
    exact absurd hself (of_decide_eq_false hother)
  split
  · trivial
  · refine ⟨trivial, fun found _ => ?_⟩
    cases found with
    | none => trivial
    | some tenant =>
      dsimp only
      split
      · exact ⟨trivial, fun limitCheck _ => always_checked fun _ => hnext _⟩
      · exact hnext _

theorem newPassword_ok {saved : User} (h : newPassword env form user = .ok saved) :
    saved.role = user.role ∧ saved.isActive = user.isActive := by
  unfold newPassword at h
  dsimp only at h
  split at h
  · obtain rfl := Except.ok.inj h
    exact ⟨rfl, rfl⟩
  split at h
  · cases h
  split at h
  · cases h
  · obtain rfl := Except.ok.inj h
    exact ⟨rfl, rfl⟩

theorem always_editUser : (editUser env session userId form).Always sparesSelf := by
  apply always_userOfUrl
  intro user
  apply always_checked
  intro _
  refine ⟨trivial, fun (emailExists : Bool) _ => ?_⟩
  apply always_checked
  intro _
  apply always_checked
  intro hactive
  apply always_editTarget
  intro tenantId role hrole
  dsimp only
  split
  · trivial
  next saved hsaved =>
    obtain ⟨hsame, hticked⟩ := newPassword_ok hsaved
    apply always_save
    intro hself
    refine ⟨.inl (hsame.trans (hrole hself)), hticked.trans ?_⟩
    exact congrArg some (hactive (decide_eq_true hself))

theorem always_toggleActive : (toggleActive env session userId).Always sparesSelf := by
  apply always_userOfUrl
  intro user
  apply always_checked
  intro hinactive
  have hsaved : (save env session user
      { user with isActive := some (!decide (user.isActive = some true)) }
      (.flash "Status do usuario atualizado com sucesso." .success)
      "Erro ao atualizar status: ").Always sparesSelf := by
    apply always_save
    intro hself
    have hoff := hinactive (decide_eq_true hself)
    simp [hoff]
  split
  · exact hsaved
  split
  · exact hsaved
  · refine ⟨trivial, fun found _ => ?_⟩
    cases found with
    | none => exact hsaved
    | some tenant => exact ⟨trivial, fun limitCheck _ => always_checked fun _ => hsaved⟩

theorem always_deleteUser : (deleteUser session userId).Always sparesSelf := by
  apply always_userOfUrl
  intro user
  apply always_checked
  intro hother
  have hdelete : sparesSelf (.delete session user.id) := of_decide_eq_false hother
  dsimp only
  split
  · refine ⟨trivial, fun (superAdminCount : Nat) _ => always_checked fun _ => ?_⟩
    exact ⟨hdelete, fun _ _ => trivial⟩
  · exact ⟨hdelete, fun _ _ => trivial⟩

/-- No request takes the platform from its own user. -/
theorem always_userProgram (call : Auth.Cookie × UserRequest) :
    (userProgram env call).Always sparesSelf := by
  obtain ⟨session, request⟩ := call
  cases request with
  | edit userId form => exact always_editUser
  | toggleActive userId => exact always_toggleActive
  | delete userId => exact always_deleteUser

end Requests

section Steps

variable {env : UsersEnv} {db : UsersDb} {s s' : UserClients} {e : UserEvent} {c : UserCmd}

theorem sessionStands_iff {session : Auth.Cookie} : sessionStands db session = true ↔
    ∃ u ∈ db.users, session.userId = some u.id ∧ activeSuperAdmin u = true := by
  simp [sessionStands, Table.mem_def]

/-- A user that is not written to stays. -/
theorem SomeSuperAdmin.other {id : Uuid} {u : User} {users : Table User}
    (hu : u ∈ db.users) (hadmin : activeSuperAdmin u = true) (hne : u.id ≠ id)
    (hkeep : ∀ row ∈ db.users, row.id ≠ id → row ∈ users) :
    SomeSuperAdmin { db with users := users } :=
  ⟨u, hkeep u hu hne, hadmin⟩

/-- A commit of changes keeps a super admin, if it spares the user of its session, who is one. -/
theorem SomeSuperAdmin.update {session : Auth.Cookie} {id : Uuid} {changed : Update User}
    (h : SomeSuperAdmin db) (hspares : sparesSelf (.update session id changed))
    (hstands : ∀ actor ∈ unseats db (.update session id changed),
      sessionStands db actor = true) :
    SomeSuperAdmin { db with users := db.users.modify (fun u => u.id = id) changed } := by
  obtain ⟨u, hu, hadmin⟩ := h
  have hkeep : ∀ row ∈ db.users, row.id ≠ id →
      row ∈ db.users.modify (fun u => u.id = id) changed := by
    intro row hrow hne
    exact Table.mem_modify.mpr ⟨row, hrow, by rw [if_neg (by simpa using hne)]⟩
  by_cases hid : u.id = id
  · cases hstill : activeSuperAdmin (changed.apply u) with
    | true =>
      refine ⟨changed.apply u, Table.mem_modify.mpr ⟨u, hu, ?_⟩, hstill⟩
      rw [if_pos (decide_eq_true hid)]
    | false =>
      have hunseats : unseats db (.update session id changed) = some session := by
        apply if_pos
        exact List.any_eq_true.mpr ⟨u, hu, by simp [hid, hadmin, hstill]⟩
      obtain ⟨actor, hactor, hsession, hstands⟩ := sessionStands_iff.mp (hstands session hunseats)
      have hne : actor.id ≠ id := by
        intro heq
        obtain rfl : actor = u := Table.eq_of_key hactor hu (heq.trans hid.symm)
        rw [hspares (hid ▸ hsession) actor hadmin] at hstill
        cases hstill
      exact .other hactor hstands hne hkeep
  · exact .other hu hadmin hid hkeep

theorem SomeSuperAdmin.delete {session : Auth.Cookie} {id : Uuid} {referencedUsers : List Uuid}
    (h : SomeSuperAdmin db) (hspares : sparesSelf (.delete session id))
    (hstands : ∀ actor ∈ unseats db (.delete session id), sessionStands db actor = true) :
    SomeSuperAdmin { db with
      users := db.users.erase fun u => u.id = id, referencedUsers := referencedUsers } := by
  obtain ⟨u, hu, hadmin⟩ := h
  have hkeep : ∀ row ∈ db.users, row.id ≠ id → row ∈ db.users.erase fun u => u.id = id := by
    intro row hrow hne
    exact Table.mem_erase.mpr ⟨hrow, decide_eq_false hne⟩
  by_cases hid : u.id = id
  · have hunseats : unseats db (.delete session id) = some session := by
      apply if_pos
      exact List.any_eq_true.mpr ⟨u, hu, by simp [hid, hadmin]⟩
    obtain ⟨actor, hactor, hsession, hactive⟩ := sessionStands_iff.mp (hstands session hunseats)
    have hne : actor.id ≠ id := fun heq => hspares (heq ▸ hsession)
    exact ⟨actor, hkeep actor hactor hne, hactive⟩
  · exact ⟨u, hkeep u hu hid, hadmin⟩

/-- One command keeps a super admin. -/
theorem SomeSuperAdmin.handle (h : SomeSuperAdmin db) (hspares : sparesSelf c)
    (hstands : ∀ session ∈ unseats db c, sessionStands db session = true) :
    SomeSuperAdmin (handleUser env c db).2 := by
  cases c with
  | update session id changed =>
    unfold handleUser
    dsimp only
    split
    · exact h
    · exact h.update hspares hstands
  | delete session id => exact h.delete hspares hstands
  | _ => exact h

/-- What holds in every state of a run: some super admin is left, and no request of a client goes
for its own user. -/
def StepInv : UserClients → Prop := AllClients SomeSuperAdmin fun p _ => p.Always sparesSelf

theorem StepInv.step (h : StepInv s) (hok : SessionsStand s e)
    (hs : clientStep (userPages env) s e = some s') : StepInv s' := by
  apply AllClients.step h hs
  · intro call _
    exact always_userProgram call
  · intro i c next he hclient hp
    obtain ⟨hspares, hnext⟩ := hp
    subst he
    have hcmd : nextCmd s i = some c := by
      unfold nextCmd
      rw [hclient]
    have hstands : ∀ actor ∈ (nextCmd s i).bind (unseats s.shared),
        sessionStands s.shared actor = true := hok
    rw [hcmd] at hstands
    exact ⟨h.1.handle hspares hstands, hnext _ trivial, fun _ _ _ _ hq => hq⟩
  · intro x
    exact x.elim

end Steps

/-- **At least one active super admin is left** by every interleaving of requests in which nobody
takes the platform from an active super admin without being one at the commit. -/
theorem one_super_admin_left (env : UsersEnv) (db : UsersDb) (es : List UserEvent)
    (s : UserClients) (hstart : SomeSuperAdmin db)
    (hok : Along (clientStep (userPages env)) SessionsStand { shared := db } es)
    (hrun : exec (clientStep (userPages env)) { shared := db } es = some s) :
    SomeSuperAdmin s.shared := by
  have hstep : ∀ s e s', StepInv s → SessionsStand s e →
      clientStep (userPages env) s e = some s' → StepInv s' :=
    fun _ _ _ h hok hs => h.step hok hs
  have hinit : StepInv { shared := db } := ⟨hstart, by simp⟩
  exact (exec_invariant hstep hinit hok hrun).1

/-! ## Sessions that outlive their users -/

def UsersEnv.ascii : UsersEnv where
  toEnv := .ascii
  describeStale := ""

def adminRow (id : Uuid) (email : String) (isActive : Bool) : User where
  id := id
  tenantId := none
  email := email
  fullName := email
  passwordHash := "h"
  role := .superAdmin
  isActive := some isActive

theorem nodup_adminRows (second : Bool) :
    ([adminRow 1 "a@x" true, adminRow 2 "b@x" second].map key).Nodup := by
  cases second <;> decide

/-- Two super admins, the second one active or not. -/
def twoAdmins (second : Bool) : UsersDb where
  users := {
    rows := [adminRow 1 "a@x" true, adminRow 2 "b@x" second]
    nodup := nodup_adminRows second }

def sessionOf (id : Uuid) : Auth.Cookie where
  userId := some id
  userRole := some .superAdmin

/-- The users after the schedule, with whether they are active. -/
def usersAfter (db : UsersDb) (es : List UserEvent) : Option (List (Uuid × Option Bool)) :=
  (exec (clientStep (userPages .ascii)) { shared := db } es).map fun s =>
    s.shared.users.rows.map fun u => (u.id, u.isActive)

theorem twoAdmins_some (second : Bool) : SomeSuperAdmin (twoAdmins second) :=
  ⟨_, List.mem_cons_self .., rfl⟩

/-- The first admin deactivates the second, and the second the first; or the first is deleted by
the second, who was deactivated before and still counts. -/
theorem sessions_outlive_users :
    (¬ ∀ (env : UsersEnv) (db : UsersDb) (es : List UserEvent) (s : UserClients),
      SomeSuperAdmin db → exec (clientStep (userPages env)) { shared := db } es = some s →
      SomeSuperAdmin s.shared) ∧
    usersAfter (twoAdmins true)
      [.spawn (sessionOf 1, .toggleActive (some 2)), .advance 0, .advance 0,
        .spawn (sessionOf 2, .toggleActive (some 1)), .advance 1, .advance 1] =
      some [(1, some false), (2, some false)] ∧
    usersAfter (twoAdmins false)
      [.spawn (sessionOf 2, .delete (some 1)), .advance 0, .advance 0, .advance 0] =
      some [(2, some false)] := by
  have hdeleted : usersAfter (twoAdmins false)
      [.spawn (sessionOf 2, .delete (some 1)), .advance 0, .advance 0, .advance 0] =
      some [(2, some false)] := by decide +kernel
  refine ⟨fun hall => ?_, by decide +kernel, hdeleted⟩
  obtain ⟨s, hrun, hrows⟩ := Option.map_eq_some_iff.mp hdeleted
  obtain ⟨u, hu, hadmin⟩ := hall .ascii _ _ s (twoAdmins_some false) hrun
  have hmem : (u.id, u.isActive) ∈ s.shared.users.rows.map fun u => (u.id, u.isActive) :=
    List.mem_map_of_mem hu
  rw [hrows, List.mem_singleton] at hmem
  have hinactive : u.isActive = some false := (Prod.mk.inj hmem).2
  rw [activeSuperAdmin, hinactive] at hadmin
  simp at hadmin

/-- The first admin deactivates the second, and activates it again while the second one, in a
session of before, tries to delete itself. -/
def switchedOff : List UserEvent :=
  [.spawn (sessionOf 1, .toggleActive (some 2)), .advance 0, .advance 0,
    .spawn (sessionOf 1, .toggleActive (some 2)), .spawn (sessionOf 2, .delete (some 2)),
    .advance 1, .advance 2, .advance 1]

theorem switched_off_one_left :
    ∃ s, exec (clientStep (userPages .ascii)) { shared := twoAdmins true } switchedOff = some s ∧
      SomeSuperAdmin s.shared := by
  have hok : Along (clientStep (userPages .ascii)) SessionsStand { shared := twoAdmins true }
      switchedOff := along_of_check (by decide +kernel)
  exact ⟨_, rfl, one_super_admin_left .ascii _ switchedOff _ (twoAdmins_some true) hok rfl⟩

end BackupCenter.Superadmin
