import BackupCenter.Groups.Requests
import BackupCenter.Lib.PartialIndex

/-!
# One active group for a slug

`create_group` refuses a slug that an active group of the tenant has. The row is inserted by a
later step, and a toggle makes a group active without that check: no more than one group of a
slug is active exactly as long as the check would let each of these steps through.
-/
namespace BackupCenter.Groups

open BackupCenter.Lib BackupCenter.Tenants

/-- No tenant has two active groups with the same slug. -/
def OneActivePerSlug (db : GroupsDb) : Prop :=
  ∀ g ∈ db.deviceGroups.rows, ∀ g' ∈ db.deviceGroups.rows, g.isActive = some true →
    g'.isActive = some true → g.tenantId = g'.tenantId → g.slug = g'.slug → g = g'

instance (db : GroupsDb) : Decidable (OneActivePerSlug db) :=
  inferInstanceAs (Decidable (∀ g ∈ db.deviceGroups.rows, ∀ g' ∈ db.deviceGroups.rows, _))

/-- The check of `create_group`, asked when the step is taken, lets a row that becomes active
through. -/
def GroupCmd.checkPasses (env : GroupsEnv) (db : GroupsDb) : GroupCmd → Bool
  | .insertGroup tenant form name slug port =>
    !((insertedGroup env db tenant form name slug port).isOk &&
      Groups.slugTaken db.toDatabase tenant.id slug)
  | .switchGroup id true =>
    (db.deviceGroups.find id).all fun g =>
      g.isActive = some true || !Groups.slugTaken db.toDatabase g.tenantId g.slug
  | _ => true

/-- The command that a client sends next. -/
def nextCmd (s : GroupClients) (i : Nat) : Option GroupCmd :=
  match s.clients[i]? with
  | some (.call c _) => some c
  | _ => none

/-- No insertion and no activation meets an active group with its slug. -/
def SlugsFree (env : GroupsEnv) (s : GroupClients) : GroupEvent → Prop
  | .advance i => (nextCmd s i).all (·.checkPasses env s.shared) = true
  | _ => True

instance (env : GroupsEnv) (s : GroupClients) : ∀ e, Decidable (SlugsFree env s e)
  | .advance i => inferInstanceAs (Decidable ((nextCmd s i).all _ = true))
  | .spawn _ | .env _ => inferInstanceAs (Decidable True)

/-! ## Slots -/

/-- The tenant and the slug of an active group. -/
def activeSlug (g : DeviceGroup) : Option (Uuid × String) :=
  if g.isActive = some true then some (g.tenantId, g.slug) else none

section Slots

variable {db : GroupsDb} {g : DeviceGroup}

theorem activeSlug_eq_some {i : Uuid × String} :
    activeSlug g = some i ↔ g.isActive = some true ∧ g.tenantId = i.1 ∧ g.slug = i.2 := by
  unfold activeSlug
  rw [Option.ite_none_right_eq_some, Option.some.injEq, Prod.ext_iff]

theorem oneActive_iff_exclusive :
    OneActivePerSlug db ↔ db.deviceGroups.Exclusive activeSlug := by
  constructor
  · intro h a ha b hb i hai hbi
    obtain ⟨ha', hat, has⟩ := activeSlug_eq_some.mp hai
    obtain ⟨hb', hbt, hbs⟩ := activeSlug_eq_some.mp hbi
    exact h a ha b hb ha' hb' (hat.trans hbt.symm) (has.trans hbs.symm)
  · intro h a ha b hb ha' hb' htenant hslug
    exact h a ha b hb (a.tenantId, a.slug) (activeSlug_eq_some.mpr ⟨ha', rfl, rfl⟩)
      (activeSlug_eq_some.mpr ⟨hb', htenant.symm, hslug.symm⟩)

/-- The check of `create_group` finds whether the slot of an active row is taken. -/
theorem slugTaken_iff (hactive : g.isActive = some true) :
    slugTaken db.toDatabase g.tenantId g.slug = true ↔ db.deviceGroups.Occupied activeSlug g := by
  unfold slugTaken
  rw [List.any_eq_true]
  constructor
  · rintro ⟨a, ha, htaken⟩
    simp only [Bool.and_eq_true, decide_eq_true_eq] at htaken
    obtain ⟨⟨htenant, hslug⟩, ha'⟩ := htaken
    exact ⟨(g.tenantId, g.slug), activeSlug_eq_some.mpr ⟨hactive, rfl, rfl⟩, a, ha,
      activeSlug_eq_some.mpr ⟨ha', htenant, hslug⟩⟩
  · rintro ⟨i, hi, a, ha, hai⟩
    obtain ⟨-, htenant, hslug⟩ := activeSlug_eq_some.mp hi
    obtain ⟨ha', hat, has⟩ := activeSlug_eq_some.mp hai
    refine ⟨a, ha, ?_⟩
    simp only [Bool.and_eq_true, decide_eq_true_eq]
    exact ⟨⟨hat.trans htenant.symm, has.trans hslug.symm⟩, ha'⟩

end Slots

/-! ## One step -/

section Steps

variable {env : GroupsEnv} {db : GroupsDb} {c : GroupCmd}

theorem OneActivePerSlug.insertGroup (h : OneActivePerSlug db) {tenant : Tenant} {form : GroupForm}
    {name slug : String} {port : Int} :
    OneActivePerSlug (handleGroup env (.insertGroup tenant form name slug port) db).2 ↔
      (GroupCmd.insertGroup tenant form name slug port).checkPasses env db = true := by
  simp only [handleGroup, GroupCmd.checkPasses]
  cases hrow : insertedGroup env db tenant form name slug port with
  | error e => simp [commit, Except.isOk, Except.toBool, h]
  | ok deviceGroups =>
    have hadd : db.deviceGroups.add (createdGroup env db.fresh tenant.id form name slug port) =
        some deviceGroups := by
      simp only [insertedGroup, bind_eq_ok, demand_eq_ok] at hrow
      obtain ⟨-, -, hadd⟩ := hrow
      exact hadd
    have hiff := (oneActive_iff_exclusive.mp h).add_iff hadd
    have htaken := @slugTaken_iff db (createdGroup env db.fresh tenant.id form name slug port) rfl
    show OneActivePerSlug { db with deviceGroups, fresh := db.fresh + 1 } ↔
      (!(true && slugTaken db.toDatabase tenant.id slug)) = true
    rw [oneActive_iff_exclusive, Bool.true_and, Bool.not_eq_true']
    show deviceGroups.Exclusive activeSlug ↔ _
    rw [hiff, ← htaken, Bool.not_eq_true]
    rfl

theorem OneActivePerSlug.switchGroup (h : OneActivePerSlug db) {id : Uuid} {active : Bool} :
    OneActivePerSlug (handleGroup env (.switchGroup id active) db).2 ↔
      (GroupCmd.switchGroup id active).checkPasses env db = true := by
  have hexcl := oneActive_iff_exclusive.mp h
  cases hfind : db.deviceGroups.find id with
  | none =>
    have hstale : switchedGroup db id active = .error .stale := by
      simp [switchedGroup, hfind, require, bind, Except.bind]
    have hpasses : (GroupCmd.switchGroup id active).checkPasses env db = true := by
      cases active
      · rfl
      · simp only [GroupCmd.checkPasses, hfind, Option.all_none]
    refine iff_of_true ?_ hpasses
    simp only [handleGroup, hstale]
    exact h
  | some g =>
    obtain ⟨hg, rfl⟩ := Table.find_eq_some.mp hfind
    have hdone : switchedGroup db g.id active = .ok (db.deviceGroups.modify
        (fun a => key a = key g) { apply := fun a => { a with isActive := some active } }) := by
      have hfind' : db.deviceGroups.find g.id = some g := hfind
      simp only [switchedGroup, hfind', Option.isSome_some, require, if_true]
      rfl
    show OneActivePerSlug (handleGroup env (.switchGroup g.id active) db).2 ↔
      (GroupCmd.switchGroup g.id active).checkPasses env db = true
    simp only [handleGroup, hdone]
    rw [oneActive_iff_exclusive]
    show (db.deviceGroups.modify _ _).Exclusive activeSlug ↔ _
    cases active with
    | false =>
      refine iff_of_true (hexcl.modify fun a _ _ i hi => ?_) rfl
      exact absurd hi (Option.some_ne_none _).symm
    | true =>
      have hfind' : db.deviceGroups.find g.id = some g := hfind
      simp only [GroupCmd.checkPasses, hfind', Option.all_some]
      by_cases hactive : g.isActive = some true
      · -- another request has made it active meanwhile
        refine iff_of_true (hexcl.modify fun a ha hkey i hi => ?_) (by simp [hactive])
        obtain rfl := Table.eq_of_key ha hg (of_decide_eq_true hkey)
        obtain ⟨-, hplace⟩ := activeSlug_eq_some.mp hi
        exact activeSlug_eq_some.mpr ⟨hactive, hplace⟩
      · have hnone : activeSlug g = none := if_neg hactive
        have htaken := @slugTaken_iff db { g with isActive := some true } rfl
        rw [hexcl.modify_iff hg hnone, ← htaken]
        simp [hactive]

theorem OneActivePerSlug.updateGroup (h : OneActivePerSlug db) {group : DeviceGroup} {views : Bool}
    {form : GroupForm} {port : Int} :
    OneActivePerSlug (handleGroup env (.updateGroup group views form port) db).2 := by
  simp only [handleGroup]
  cases hrow : updatedGroup env db group views form port with
  | error e => exact h
  | ok deviceGroups =>
    simp only [updatedGroup, bind_eq_ok, pure_eq_ok] at hrow
    obtain ⟨-, -, -, -, rfl⟩ := hrow
    refine oneActive_iff_exclusive.mpr ((oneActive_iff_exclusive.mp h).modify fun a _ _ i hi => ?_)
    have hsame : activeSlug ((groupColumns group (editedGroup env views form port group)).apply a) =
        activeSlug a := by
      simp [activeSlug, groupColumns, editedGroup, Superadmin.dirty]
    exact hsame ▸ hi

theorem OneActivePerSlug.deleteGroup (h : OneActivePerSlug db) {id : Uuid} :
    OneActivePerSlug (handleGroup env (.deleteGroup id) db).2 := by
  simp only [handleGroup]
  cases hleft : removedGroup env db id with
  | error e => exact h
  | ok left =>
    simp only [removedGroup, bind_eq_ok, pure_eq_ok] at hleft
    obtain ⟨-, -, rfl⟩ := hleft
    exact oneActive_iff_exclusive.mpr (oneActive_iff_exclusive.mp h).erase

/-- A command keeps one active group for a slug exactly when the check of `create_group` would
let it through. -/
theorem OneActivePerSlug.handle (h : OneActivePerSlug db) :
    OneActivePerSlug (handleGroup env c db).2 ↔ c.checkPasses env db = true := by
  cases c with
  | insertGroup tenant form name slug port => exact h.insertGroup
  | switchGroup id active => exact h.switchGroup
  | updateGroup group views form port => exact iff_of_true h.updateGroup rfl
  | deleteGroup id => exact iff_of_true h.deleteGroup rfl
  | tenantBySlug | viewer | group | slugTaken | countDevices => exact iff_of_true h rfl

end Steps

/-! ## Runs -/

theorem oneActive_step {env : GroupsEnv} {s s' : GroupClients} {e : GroupEvent}
    (h : OneActivePerSlug s.shared) (hs : clientStep (groupPages env) s e = some s') :
    OneActivePerSlug s'.shared ↔ SlugsFree env s e := by
  cases e with
  | spawn call =>
    obtain rfl := Option.some.inj hs
    exact iff_of_true h trivial
  | env e => exact e.elim
  | advance i =>
    obtain ⟨c, next, hc, hshared, -⟩ := clientStep_advance hs
    have hcmd : nextCmd s i = some c := by
      unfold nextCmd
      rw [hc]
    show _ ↔ (nextCmd s i).all _ = true
    rw [hshared, hcmd]
    exact h.handle

/-- What cannot happen activates no group. -/
theorem slugsFree_of_stuck {env : GroupsEnv} {s : GroupClients} {e : GroupEvent}
    (hs : clientStep (groupPages env) s e = none) : SlugsFree env s e := by
  cases e with
  | spawn call => trivial
  | env e => trivial
  | advance i =>
    have hcmd : nextCmd s i = none := by
      simp only [clientStep] at hs
      unfold nextCmd
      split at hs
      next => cases hs
      next hnone =>
        split
        next c next hc => exact absurd hc (hnone c next)
        next => rfl
    show (nextCmd s i).all _ = true
    rw [hcmd]
    rfl

def asciiGroups : GroupsEnv where
  toEnv := .ascii
  describeStale := ""
  isWord c := c.isAlphanum || c == '_'

/-- One active group with a device. -/
def oneGroup : GroupsDb where
  tenants := [{ id := 1, slug := "acme" }]
  deviceGroups := { rows := [{ id := 1, tenantId := 1, name := "Norte", slug := "norte" }] }
  devices :=
    { rows := [
        { id := 1, tenantId := 1, groupId := some 1, name := "OLT", ipAddress := "10.0.0.1"
          username := "admin", passwordEncrypted := "x" }] }
  fresh := 2

def byAdmin (request : GroupRequest) : GroupEvent :=
  .spawn { session := ⟨1, .tenantAdmin, "acme"⟩, tenantSlug := "acme", request := request }

/-- The group is deleted, which deactivates it; one of the same name is created. -/
def recreated : List GroupEvent :=
  [byAdmin (.deleteGroup (.value 1)), .advance 0, .advance 0, .advance 0, .advance 0,
    byAdmin (.createGroup { name := some "Norte" }), .advance 1, .advance 1, .advance 1]

/-- The toggle reactivates the deleted group. -/
def toggledBack : List GroupEvent :=
  [byAdmin (.toggleGroupActive (.value 1) (some "activate")), .advance 2, .advance 2, .advance 2,
    .advance 2]

/-- Two requests create one group, side by side. -/
def createdTwice : List GroupEvent :=
  [byAdmin (.createGroup { name := some "Sul" }), byAdmin (.createGroup { name := some "Sul" }),
    .advance 0, .advance 0, .advance 1, .advance 1, .advance 0, .advance 1]

def oneActiveAfter (es : List GroupEvent) : Option Bool :=
  (exec (clientStep (groupPages asciiGroups)) { shared := oneGroup } es).map fun s =>
    decide (OneActivePerSlug s.shared)

end BackupCenter.Groups
