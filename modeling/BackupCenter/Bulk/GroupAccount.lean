import BackupCenter.Bulk.GroupTask

/-!
# Accounting for the devices of a group task

The route that enqueues a group task counts the devices that it names. The task counts those that
it finds again, and its handlers replace the counts of the loop, or store none. Whether every
device is accounted for in the end is a matter of what the task meets: which devices are still
eligible, which exceptions leave the turn of a device or the session, and what had succeeded by
then.
-/
namespace BackupCenter.Bulk

open BackupCenter.Lib
open BackupCenter.Executor (Exn VpnWorld vpnSession connectWithRetries disconnectGroupVpn)
open BackupCenter.Tenants (Uuid Device DeviceGroup)

/-! ## The turn of a device -/

section Turn

variable {lower : String → String} {mode : GroupMode} {maxSeconds : Nat} {v : Visit}
  {a : Attempted} {e : Exn}

/-- The breaker of the bastion, if there is one to ask, lets the device through. -/
def Visit.Admitted (v : Visit) : Prop := v.behindJump = true → v.run.breaker = .ok none

/-- The exceptions that leave `_execute_device_with_guards`. -/
inductive Visit.Raises (v : Visit) : Exn → Prop
  | breaker {e : Exn} (hjump : v.behindJump = true) (h : v.run.breaker = .error e) : v.Raises e
  | inSlot {e : Exn} (hin : v.Admitted) (h : v.run.inSlot = .error e)
      (hother : isSlotError e = false) : v.Raises e
  | bookkeeping {e : Exn} (hin : v.Admitted)
      (hbody : ∀ e', v.run.inSlot = .error e' → isSlotError e' = true)
      (h : v.run.bookkeeping = .error e) : v.Raises e

/-- `run_backup_for_device_id` was called and returned success. -/
def Visit.backedUp (v : Visit) : Bool :=
  (!v.behindJump || v.run.breaker matches .ok none) && v.run.slot matches .ok () &&
    v.run.executor matches .ok (true, _)

theorem Visit.backedUp_iff : v.backedUp = true ↔
    v.Admitted ∧ v.run.slot = .ok () ∧ ∃ answer, v.run.executor = .ok (true, answer) := by
  unfold Visit.backedUp Visit.Admitted
  rw [Bool.and_eq_true, Bool.and_eq_true, and_assoc]
  refine and_congr ?_ (and_congr ?_ ?_)
  · rw [Bool.or_eq_true, Bool.not_eq_true', ← Bool.not_eq_true, ← imp_iff_not_or]
    apply imp_congr_right
    intro _
    split <;> simp_all
  · split <;> simp_all
  · split <;> simp_all

/-- The turn under the slot ends well exactly if nothing is raised that is not an error of the
slot. -/
theorem Visit.underSlot_eq_error : v.underSlot lower = .error e ↔
    (v.run.inSlot = .error e ∧ isSlotError e = false) ∨
      (∀ e', v.run.inSlot = .error e' → isSlotError e' = true) ∧
        v.run.bookkeeping = .error e := by
  unfold Visit.underSlot
  cases hin : v.run.inSlot with
  | ok answer =>
    cases hbook : v.run.bookkeeping <;> simp [catching, bind, Except.bind, pure, Except.pure]
  | error e' =>
    by_cases hslot : isSlotError e' = true
    · have hother : ¬ (e' = e ∧ isSlotError e = false) := by
        rintro ⟨rfl, h⟩
        rw [hslot] at h
        cases h
      cases hbook : v.run.bookkeeping <;>
        simp [catching, hslot, hother, bind, Except.bind, pure, Except.pure]
    · simp [catching, hslot, bind, Except.bind]
      rintro rfl
      simpa using hslot

theorem Visit.executeDeviceWithGuards_eq_error :
    v.executeDeviceWithGuards lower = .error e ↔ v.Raises e := by
  unfold Visit.executeDeviceWithGuards
  by_cases hjump : v.behindJump = true
  · rw [if_pos hjump]
    cases hbreaker : v.run.breaker with
    | error e' =>
      constructor
      · intro h
        obtain rfl : e' = e := Except.error.inj h
        exact .breaker hjump hbreaker
      · rintro (⟨-, h⟩ | ⟨hin, -, -⟩ | ⟨hin, -, -⟩)
        · exact congrArg Except.error (Except.error.inj (hbreaker.symm.trans h))
        · exact nomatch hbreaker.symm.trans (hin hjump)
        · exact nomatch hbreaker.symm.trans (hin hjump)
    | ok reason =>
      cases reason with
      | some reason =>
        constructor
        · exact nofun
        · rintro (⟨-, h⟩ | ⟨hin, -, -⟩ | ⟨hin, -, -⟩)
          · exact nomatch hbreaker.symm.trans h
          · exact nomatch hbreaker.symm.trans (hin hjump)
          · exact nomatch hbreaker.symm.trans (hin hjump)
      | none =>
        show v.underSlot lower = .error e ↔ v.Raises e
        rw [underSlot_eq_error]
        constructor
        · rintro (⟨h, hother⟩ | ⟨hbody, h⟩)
          · exact .inSlot (fun _ => hbreaker) h hother
          · exact .bookkeeping (fun _ => hbreaker) hbody h
        · rintro (⟨-, h⟩ | ⟨-, h, hother⟩ | ⟨-, hbody, h⟩)
          · exact nomatch hbreaker.symm.trans h
          · exact .inl ⟨h, hother⟩
          · exact .inr ⟨hbody, h⟩
  · rw [if_neg hjump, underSlot_eq_error]
    constructor
    · rintro (⟨h, hother⟩ | ⟨hbody, h⟩)
      · exact .inSlot (fun h => absurd h hjump) h hother
      · exact .bookkeeping (fun h => absurd h hjump) hbody h
    · rintro (⟨h, -⟩ | ⟨-, h, hother⟩ | ⟨-, hbody, h⟩)
      · exact absurd h hjump
      · exact .inl ⟨h, hother⟩
      · exact .inr ⟨hbody, h⟩

theorem DeviceRun.inSlot_eq_ok {r : DeviceRun} {x : Bool × Option String} :
    r.inSlot = .ok x ↔ r.slot = .ok () ∧ r.executor = .ok x ∧ r.leave = .ok () := by
  unfold DeviceRun.inSlot
  cases hslot : r.slot with
  | error e => simp [bind, Except.bind]
  | ok u => cases hleave : r.leave <;> simp [bind, Except.bind, ensuring]

theorem Visit.underSlot_success (h : v.underSlot lower = .ok a) : a.success = true ↔
    (∃ answer, v.run.inSlot = .ok (true, answer)) ∧ v.run.bookkeeping = .ok () := by
  unfold Visit.underSlot at h
  cases hin : v.run.inSlot with
  | ok x =>
    obtain ⟨success, answer⟩ := x
    cases hbook : v.run.bookkeeping with
    | ok u =>
      simp only [hin, hbook, catching, bind, Except.bind, pure, Except.pure] at h
      obtain rfl := Except.ok.inj h
      simp
    | error e =>
      simp only [hin, hbook, catching, bind, Except.bind] at h
      cases h
  | error e =>
    by_cases hslot : isSlotError e = true
    · cases hbook : v.run.bookkeeping with
      | ok u =>
        simp only [hin, hbook, catching, hslot, bind, Except.bind, pure, Except.pure] at h
        obtain rfl := Except.ok.inj h
        simp
      | error e' =>
        simp only [hin, hbook, catching, hslot, bind, Except.bind] at h
        cases h
    · simp [hin, catching, hslot, bind, Except.bind] at h

/-- Nothing goes wrong after the backup. -/
def Visit.Settled (v : Visit) : Prop := v.run.leave = .ok () ∧ v.run.bookkeeping = .ok ()

theorem Visit.backedUp_and_settled_iff : v.backedUp = true ∧ v.Settled ↔
    v.Admitted ∧ (∃ answer, v.run.inSlot = .ok (true, answer)) ∧ v.run.bookkeeping = .ok () := by
  rw [backedUp_iff, Settled]
  constructor
  · rintro ⟨⟨hin, hslot, answer, hexecutor⟩, hleave, hbook⟩
    exact ⟨hin, ⟨answer, DeviceRun.inSlot_eq_ok.mpr ⟨hslot, hexecutor, hleave⟩⟩, hbook⟩
  · rintro ⟨hin, ⟨answer, hanswer⟩, hbook⟩
    obtain ⟨hslot, hexecutor, hleave⟩ := DeviceRun.inSlot_eq_ok.mp hanswer
    exact ⟨⟨hin, hslot, answer, hexecutor⟩, hleave, hbook⟩

/-- A turn counts as a success exactly if the backup succeeded and nothing went wrong
afterwards. -/
theorem Visit.executeDeviceWithGuards_success (h : v.executeDeviceWithGuards lower = .ok a) :
    a.success = true ↔ v.backedUp = true ∧ v.Settled := by
  rw [backedUp_and_settled_iff]
  unfold Visit.executeDeviceWithGuards at h
  split at h
  next hjump =>
    cases hbreaker : v.run.breaker with
    | error e =>
      rw [hbreaker] at h
      cases h
    | ok reason =>
      rw [hbreaker] at h
      cases reason with
      | some reason =>
        obtain rfl := Except.ok.inj h
        constructor
        · exact nofun
        · exact fun hbacked => nomatch hbreaker.symm.trans (hbacked.1 hjump)
      | none =>
        rw [underSlot_success h]
        exact (and_iff_right fun _ => hbreaker).symm
  next hjump =>
    rw [underSlot_success h]
    exact (and_iff_right fun hj => absurd hj hjump).symm

theorem Visit.attempt_eq_error :
    v.attempt lower mode maxSeconds = .error e ↔ v.Raises e ∧ isDeadline e = false := by
  rw [← @executeDeviceWithGuards_eq_error lower]
  unfold Visit.attempt
  cases v.executeDeviceWithGuards lower with
  | ok a => simp [catching]
  | error e' =>
    by_cases hdeadline : isDeadline e' = true
    · simp only [catching, hdeadline, if_true, reduceCtorEq, Except.error.injEq, false_iff]
      rintro ⟨rfl, h⟩
      rw [hdeadline] at h
      cases h
    · simp only [catching, if_neg hdeadline, Except.error.injEq]
      constructor
      · rintro rfl
        exact ⟨rfl, by simpa using hdeadline⟩
      · exact fun h => h.1

theorem Visit.attempt_success (h : v.attempt lower mode maxSeconds = .ok a) :
    a.success = true ↔ v.backedUp = true ∧ v.Settled := by
  unfold Visit.attempt at h
  cases hguards : v.executeDeviceWithGuards lower with
  | ok a' =>
    rw [hguards] at h
    obtain rfl := Except.ok.inj h
    exact executeDeviceWithGuards_success hguards
  | error e =>
    rw [hguards, catching] at h
    split at h
    · obtain rfl := Except.ok.inj h
      constructor
      · exact fun hsuccess => absurd hsuccess Bool.false_ne_true
      · intro hbacked
        obtain ⟨hin, ⟨answer, hanswer⟩, hbook⟩ := backedUp_and_settled_iff.mp hbacked
        rcases executeDeviceWithGuards_eq_error.mp hguards with ⟨hjump, h⟩ | ⟨-, h, -⟩ | ⟨-, -, h⟩
        · cases h.symm.trans (hin hjump)
        · cases h.symm.trans hanswer
        · cases h.symm.trans hbook
    · cases h

end Turn

/-! ## The loop -/

/-- The devices whose turn comes: none after a stop request, and none after one whose turn an
exception leaves. -/
inductive Visited : List Visit → Visit → Prop
  | here {v : Visit} {rest : List Visit} (hstop : v.run.stop = false) : Visited (v :: rest) v
  | later {u v : Visit} {rest : List Visit} (hstop : u.run.stop = false)
      (hends : ∀ e, u.Raises e → isDeadline e = true) (hv : Visited rest v) :
      Visited (u :: rest) v

section Loop

variable {lower : String → String} {mode : GroupMode} {maxSeconds total : Nat} {v : Visit}
  {vs rest : List Visit} {t t' : Tally} {e : Exn}

variable (lower mode maxSeconds) in
/-- The devices whose `run_backup_for_device_id` returned success. -/
def backedUpDevices : List Visit → List Uuid
  | [] => []
  | v :: rest =>
    if v.run.stop then []
    else
      (if v.backedUp then [v.device.id] else []) ++
        match v.attempt lower mode maxSeconds with
        | .ok _ => backedUpDevices rest
        | .error _ => []

theorem visited_cons_iff {u : Visit} : Visited (u :: rest) v ↔
    u.run.stop = false ∧ (v = u ∨ (∀ e, u.Raises e → isDeadline e = true) ∧ Visited rest v) := by
  constructor
  · rintro (hstop | ⟨hstop, hends, hv⟩)
    · exact ⟨hstop, .inl rfl⟩
    · exact ⟨hstop, .inr ⟨hends, hv⟩⟩
  · rintro ⟨hstop, rfl | ⟨hends, hv⟩⟩
    · exact .here hstop
    · exact .later hstop hends hv

theorem visited_nil : ¬ Visited [] v := nofun

theorem attempt_ok_iff : (∃ a, v.attempt lower mode maxSeconds = .ok a) ↔
    ∀ e, v.Raises e → isDeadline e = true := by
  constructor
  · rintro ⟨a, ha⟩ e he
    by_contra hdeadline
    have herror : v.attempt lower mode maxSeconds = .error e :=
      Visit.attempt_eq_error.mpr ⟨he, by simpa using hdeadline⟩
    exact nomatch ha.symm.trans herror
  · intro h
    cases ha : v.attempt lower mode maxSeconds with
    | ok a => exact ⟨a, rfl⟩
    | error e =>
      obtain ⟨he, hdeadline⟩ := Visit.attempt_eq_error.mp ha
      rw [h e he] at hdeadline
      cases hdeadline

/-- An exception leaves the loop exactly if it leaves the turn of a device. -/
theorem processDevices_eq_error : processDevices lower mode maxSeconds total t vs = .error e ↔
    ∃ v, Visited vs v ∧ v.Raises e ∧ isDeadline e = false := by
  induction vs generalizing t with
  | nil => exact iff_of_false nofun fun ⟨v, hv, _⟩ => visited_nil hv
  | cons u rest ih =>
    rw [processDevices]
    cases hstop : u.run.stop with
    | true =>
      refine iff_of_false nofun ?_
      rintro ⟨v, hv, -⟩
      have h := (visited_cons_iff.mp hv).1
      rw [hstop] at h
      cases h
    | false =>
      rw [if_neg (by simp)]
      cases ha : u.attempt lower mode maxSeconds with
      | ok a =>
        have hends := attempt_ok_iff.mp ⟨a, ha⟩
        show processDevices lower mode maxSeconds total (t.count u.device a) rest = .error e ↔ _
        rw [ih]
        constructor
        · rintro ⟨v, hv, h⟩
          exact ⟨v, .later hstop hends hv, h⟩
        · rintro ⟨v, hv, hraises, hother⟩
          rcases (visited_cons_iff.mp hv).2 with rfl | ⟨-, hrest⟩
          · rw [hends e hraises] at hother
            cases hother
          · exact ⟨v, hrest, hraises, hother⟩
      | error e' =>
        obtain ⟨hraises', hother'⟩ := Visit.attempt_eq_error.mp ha
        constructor
        · intro h
          obtain rfl : e' = e := Except.error.inj h
          exact ⟨u, .here hstop, hraises', hother'⟩
        · rintro ⟨v, hv, hraises, hother⟩
          rcases (visited_cons_iff.mp hv).2 with rfl | ⟨hends, -⟩
          · have hsame := ha.symm.trans (Visit.attempt_eq_error.mpr ⟨hraises, hother⟩)
            exact congrArg Except.error (Except.error.inj hsame)
          · rw [hends e' hraises'] at hother'
            cases hother'

theorem backedUpDevices_eq_nil : backedUpDevices lower mode maxSeconds vs = [] ↔
    ∀ v, Visited vs v → v.backedUp = false := by
  induction vs with
  | nil => exact iff_of_true rfl fun v hv => absurd hv visited_nil
  | cons u rest ih =>
    rw [backedUpDevices]
    cases hstop : u.run.stop with
    | true =>
      refine iff_of_true rfl fun v hv => ?_
      have h := (visited_cons_iff.mp hv).1
      rw [hstop] at h
      cases h
    | false =>
      rw [if_neg (by simp), List.append_eq_nil_iff]
      have hhead : (if u.backedUp then [u.device.id] else []) = [] ↔ u.backedUp = false := by
        cases u.backedUp <;> simp
      rw [hhead]
      have htail : (match u.attempt lower mode maxSeconds with
            | .ok _ => backedUpDevices lower mode maxSeconds rest
            | .error _ => []) = [] ↔
          ((∀ e, u.Raises e → isDeadline e = true) → ∀ v, Visited rest v → v.backedUp = false) := by
        rw [← ih]
        cases ha : u.attempt lower mode maxSeconds with
        | ok a => exact ⟨fun h _ => h, fun h => h (attempt_ok_iff.mp ⟨a, ha⟩)⟩
        | error e =>
          refine iff_of_true rfl fun hends => ?_
          obtain ⟨a, ha'⟩ := attempt_ok_iff.mpr hends
          exact nomatch ha.symm.trans ha'
      rw [htail]
      constructor
      · rintro ⟨hu, hrest⟩ v hv
        rcases (visited_cons_iff.mp hv).2 with rfl | ⟨hends, hv⟩
        · exact hu
        · exact hrest hends v hv
      · exact fun h => ⟨h u (.here hstop), fun hends v hv => h v (.later hstop hends hv)⟩

/-- Every device is counted once. -/
theorem processDevices_total (h : processDevices lower mode maxSeconds total t vs = .ok t')
    (hcounted : t.success + t.failed = t.processed) (htotal : t.processed + vs.length = total) :
    t'.success + t'.failed = total := by
  induction vs generalizing t with
  | nil =>
    obtain rfl := Except.ok.inj h
    simp only [List.length_nil] at htotal
    omega
  | cons u rest ih =>
    simp only [List.length_cons] at htotal
    rw [processDevices] at h
    split at h
    · obtain rfl := Except.ok.inj h
      simp only [Tally.interrupt]
      omega
    · cases ha : u.attempt lower mode maxSeconds with
      | error e =>
        rw [ha] at h
        cases h
      | ok a =>
        rw [ha] at h
        apply ih h
        · simp only [Tally.count]
          split <;> omega
        · simp only [Tally.count]
          omega

/-- The successes that are counted are backups that succeeded; all of them are counted exactly if
nothing went wrong after one of them. -/
theorem processDevices_success (h : processDevices lower mode maxSeconds total t vs = .ok t') :
    t'.success ≤ t.success + (backedUpDevices lower mode maxSeconds vs).length ∧
      (t'.success = t.success + (backedUpDevices lower mode maxSeconds vs).length ↔
        ∀ v, Visited vs v → v.backedUp = true → v.Settled) := by
  induction vs generalizing t with
  | nil =>
    obtain rfl := Except.ok.inj h
    exact ⟨Nat.le_add_right .., iff_of_true rfl fun v hv => absurd hv visited_nil⟩
  | cons u rest ih =>
    rw [processDevices] at h
    rw [backedUpDevices]
    cases hstop : u.run.stop with
    | true =>
      rw [hstop, if_pos rfl] at h
      obtain rfl := Except.ok.inj h
      refine ⟨Nat.le_add_right .., iff_of_true rfl fun v hv => ?_⟩
      have hgoes := (visited_cons_iff.mp hv).1
      rw [hstop] at hgoes
      cases hgoes
    | false =>
      rw [hstop, if_neg (by simp)] at h
      rw [if_neg (by simp)]
      cases ha : u.attempt lower mode maxSeconds with
      | error e =>
        rw [ha] at h
        cases h
      | ok a =>
        rw [ha] at h
        obtain ⟨hle, hiff⟩ := ih h
        have hsuccess := Visit.attempt_success ha
        have hends := attempt_ok_iff.mp ⟨a, ha⟩
        have hvisited : (∀ v, Visited (u :: rest) v → v.backedUp = true → v.Settled) ↔
            (u.backedUp = true → u.Settled) ∧
              ∀ v, Visited rest v → v.backedUp = true → v.Settled := by
          constructor
          · exact fun hall => ⟨hall u (.here hstop), fun v hv => hall v (.later hstop hends hv)⟩
          · rintro ⟨hu, hrest⟩ v hv
            rcases (visited_cons_iff.mp hv).2 with rfl | ⟨-, hv⟩
            · exact hu
            · exact hrest v hv
        rw [hvisited, ← hiff, List.length_append]
        have hcount : (t.count u.device a).success =
            if a.success then t.success + 1 else t.success := rfl
        rw [hcount] at hle ⊢
        dsimp only
        by_cases hbacked : u.backedUp = true
        · by_cases hsettled : u.Settled
          · have hcounts := hsuccess.mpr ⟨hbacked, hsettled⟩
            simp only [hbacked, hcounts, if_true, List.length_singleton, hsettled, imp_self,
              true_and] at hle ⊢
            omega
          · have hcounts : a.success = false := by
              rw [← Bool.not_eq_true, hsuccess]
              exact fun hboth => hsettled hboth.2
            simp only [hbacked, hcounts, if_true, Bool.false_eq_true, if_false,
              List.length_singleton, hsettled, true_imp_iff, false_and, iff_false] at hle ⊢
            omega
        · have hcounts : a.success = false := by
            rw [← Bool.not_eq_true, hsuccess]
            exact fun hboth => hbacked hboth.1
          simp only [hbacked, hcounts, Bool.false_eq_true, if_false, List.length_nil,
            false_imp_iff, true_and] at hle ⊢
          omega

end Loop

/-! ## The task -/

namespace GroupTask

section

variable (T : GroupTask) (group : DeviceGroup)

/-- The loop is reached: without a VPN, or inside a session that comes up. -/
def opens : Bool :=
  match T.mode group with
  | .groupDirect => true
  | .vpnGroup =>
    T.workerReady matches .ok () && T.vpn.acquireGroupLock matches .ok () &&
      T.vpn.lockGlobal matches .ok () &&
      connectWithRetries T.vpn group (max 1 T.vpn.connectRetries) 1 matches .ok ()

/-- The task goes on to the loop over the devices of a group. -/
def starts (group : DeviceGroup) : Prop :=
  T.queryError = none ∧ T.groupRow = some group ∧ group.isActive = some true ∧
    T.devices ≠ [] ∧ T.stopBefore = false

/-- The group whose devices are gone through. -/
def looped : Option DeviceGroup :=
  if T.queryError.isSome then none
  else T.groupRow.filter fun group =>
    group.isActive = some true && !T.devices.isEmpty && !T.stopBefore && T.opens group

/-- The devices whose `run_backup_for_device_id` returned success in this run. -/
def backedUp : List Uuid :=
  match T.looped with
  | some group =>
    backedUpDevices T.vpn.env.lower (T.mode group) T.maxSeconds (T.visits group)
  | none => []

/-- The final result accounts for every device that was asked for, and the status is `success`
only if all of them succeeded. -/
def Accounted : Prop :=
  ∃ report result, T.finalReport = some report ∧ report.result = some result ∧
    result.success = T.backedUp.length ∧
    result.success + result.failed = T.deviceIds.length ∧
    (report.status = .success → T.backedUp.length = T.deviceIds.length)

/-! ### What the task meets -/

/-- How the loop over the devices ends, as far as exceptions go. -/
def LoopEnds : Except Exn Unit → Prop
  | .ok () => ∀ v, Visited (T.visits group) v → ∀ e, v.Raises e → isDeadline e = true
  | .error e => ∃ v, Visited (T.visits group) v ∧ v.Raises e ∧ isDeadline e = false

/-- The exceptions that leave the loop and its session. -/
inductive Raises : Exn → Prop
  | worker {e : Exn} (hmode : T.mode group = .vpnGroup) (h : T.workerReady = .error e) : Raises e
  | session {e : Exn} {ending : Except Exn Unit} (hmode : T.mode group = .vpnGroup)
      (hready : T.workerReady = .ok ()) (hending : T.LoopEnds group ending)
      (h : vpnSession T.vpn group ending = .error e) : Raises e
  | direct {e : Exn} (hmode : T.mode group = .groupDirect) (h : T.LoopEnds group (.error e)) :
      Raises e

/-- The exceptions that the handlers of the task meet. -/
inductive Fails : Exn → Prop
  | query {text : String} (h : T.queryError = some text) : Fails { text := text }
  | devices {group : DeviceGroup} {e : Exn} (hstarts : T.starts group)
      (h : T.Raises group e) : Fails e

/-- A device whose turn comes. -/
def Visits (v : Visit) : Prop := ∃ group, T.looped = some group ∧ Visited (T.visits group) v

/-- The group is there, all devices that were asked for are still eligible, only errors of the VPN
are left to the handlers, and those before any backup has succeeded, and nothing goes wrong after
a backup that has. -/
structure Accountable : Prop where
  active : ∃ group, T.groupRow = some group ∧ group.isActive = some true
  eligible : ∀ id ∈ T.deviceIds, ∃ d ∈ T.devices, d.id = id
  contained : ∀ e, T.Fails e → e.isVpnError = true ∧ ∀ v, T.Visits v → v.backedUp = false
  settled : ∀ v, T.Visits v → v.backedUp = true → v.Settled

end

variable {T : GroupTask} {group : DeviceGroup} {t : Tally} {e : Exn}

/-! ### The devices -/

theorem mem_devices {d : Device} : d ∈ T.devices → d.id ∈ T.deviceIds := by
  intro hd
  have hd := (T.order.perm _).mem_iff.mp hd
  have heligible := (List.mem_filter.mp hd).2
  unfold GroupTask.eligible at heligible
  rw [Bool.and_eq_true, Bool.or_eq_true] at heligible
  rcases heligible.2 with h | h
  · exact absurd (List.isEmpty_iff.mp h) T.nonempty
  · simpa using h

theorem nodup_devices : (T.devices.map Device.id).Nodup := by
  apply ((T.order.perm _).map Device.id).nodup_iff.mpr
  exact (List.filter_sublist.map Device.id).nodup T.database.devices.nodup

/-- The task finds all the devices exactly if it finds as many. -/
theorem eligible_iff : (∀ id ∈ T.deviceIds, ∃ d ∈ T.devices, d.id = id) ↔
    T.devices.length = T.deviceIds.length := by
  have hsub : (T.devices.map Device.id).Subperm T.deviceIds := by
    apply List.subperm_of_subset nodup_devices
    intro id hid
    obtain ⟨d, hd, rfl⟩ := List.mem_map.mp hid
    exact mem_devices hd
  have hlength : T.devices.length = (T.devices.map Device.id).length := List.length_map .. |>.symm
  rw [hlength]
  constructor
  · intro h
    apply Nat.le_antisymm hsub.length_le
    apply (List.subperm_of_subset T.distinct fun id hid => ?_).length_le
    obtain ⟨d, hd, rfl⟩ := h id hid
    exact List.mem_map_of_mem hd
  · intro h id hid
    have hperm := hsub.perm_of_length_le (Nat.le_of_eq h.symm)
    exact List.mem_map.mp (hperm.mem_iff.mpr hid)

theorem length_visits : (T.visits group).length = T.devices.length := List.length_map ..

/-! ### The loop and its session -/

theorem loop_eq_error : T.loop group = .error e ↔ T.LoopEnds group (.error e) :=
  processDevices_eq_error

theorem loopEnds_iff {ending : Except Exn Unit} :
    T.LoopEnds group ending ↔ (T.loop group).map (fun _ => ()) = ending := by
  cases ending with
  | error e =>
    rw [← loop_eq_error]
    cases T.loop group <;> simp [Except.map]
  | ok u =>
    constructor
    · intro h
      cases hloop : T.loop group with
      | ok t => rfl
      | error e =>
        obtain ⟨v, hv, hraises, hother⟩ := loop_eq_error.mp hloop
        rw [h v hv e hraises] at hother
        cases hother
    · intro h v hv e hraises
      by_contra hother
      have hloop := loop_eq_error.mpr ⟨v, hv, hraises, by simpa using hother⟩
      rw [hloop] at h
      cases h

theorem ensuring_map {α β : Type} (f : α → β) (x : Except Exn α) (cleanup : Except Exn Unit) :
    ensuring (x.map f) cleanup = (ensuring x cleanup).map f := by
  unfold ensuring
  cases cleanup <;> rfl

/-- A session only passes on what its body returns. -/
theorem vpnSession_map {α β : Type} (w : VpnWorld) (f : α → β) (body : Except Exn α) :
    vpnSession w group (body.map f) = (vpnSession w group body).map f := by
  unfold vpnSession
  cases w.acquireGroupLock with
  | error e => rfl
  | ok u =>
    simp only [bind, Except.bind]
    cases w.lockGlobal with
    | error e => exact ensuring_map f (.error e) _
    | ok u =>
      refine Eq.trans ?_ (ensuring_map f _ w.unlock)
      cases connectWithRetries w group (max 1 w.connectRetries) 1 with
      | error e => rfl
      | ok u => exact congrArg (ensuring · w.unlock) (ensuring_map f body _)

theorem workflow_eq_error : T.workflow group = .error e ↔ T.Raises group e := by
  unfold GroupTask.workflow
  cases hmode : T.mode group with
  | groupDirect =>
    constructor
    · exact fun h => .direct hmode (loop_eq_error.mp h)
    · rintro (⟨h, -⟩ | ⟨h, -⟩ | ⟨-, h⟩)
      · exact nomatch hmode.symm.trans h
      · exact nomatch hmode.symm.trans h
      · exact loop_eq_error.mpr h
  | vpnGroup =>
    cases hready : T.workerReady with
    | error e' =>
      constructor
      · intro h
        exact .worker hmode (hready.trans (congrArg Except.error (Except.error.inj h)))
      · rintro (⟨-, h⟩ | ⟨-, h, -⟩ | ⟨h, -⟩)
        · exact congrArg Except.error (Except.error.inj (hready.symm.trans h))
        · exact nomatch hready.symm.trans h
        · exact nomatch hmode.symm.trans h
    | ok u =>
      show vpnSession T.vpn group (T.loop group) = .error e ↔ _
      have hsession : vpnSession T.vpn group (T.loop group) = .error e ↔
          vpnSession T.vpn group ((T.loop group).map fun _ => ()) = .error e := by
        rw [vpnSession_map]
        cases vpnSession T.vpn group (T.loop group) <;> simp [Except.map]
      rw [hsession]
      constructor
      · exact .session hmode hready (loopEnds_iff.mpr rfl)
      · rintro (⟨-, h⟩ | ⟨-, -, hending, h⟩ | ⟨h, -⟩)
        · exact nomatch hready.symm.trans h
        · exact loopEnds_iff.mp hending ▸ h
        · exact nomatch hmode.symm.trans h

/-- A session that ends well has run its body to the end. -/
theorem vpnSession_eq_ok {α : Type} {w : VpnWorld} {body : Except Exn α} {a : α}
    (h : vpnSession w group body = .ok a) : w.acquireGroupLock = .ok () ∧ w.lockGlobal = .ok () ∧
      connectWithRetries w group (max 1 w.connectRetries) 1 = .ok () ∧ body = .ok a := by
  unfold vpnSession ensuring at h
  cases hgroup : w.acquireGroupLock with
  | error e =>
    rw [hgroup] at h
    cases h
  | ok u =>
    rw [hgroup] at h
    cases hlock : w.lockGlobal with
    | error e =>
      simp only [bind, Except.bind, hlock] at h
      split at h <;> cases h
    | ok u =>
      simp only [bind, Except.bind, hlock] at h
      split at h
      · cases hconnect : connectWithRetries w group (max 1 w.connectRetries) 1 with
        | error e =>
          rw [hconnect] at h
          cases h
        | ok u =>
          simp only [hconnect] at h
          split at h
          · exact ⟨rfl, rfl, rfl, h⟩
          · cases h
      · cases h

theorem workflow_eq_ok (h : T.workflow group = .ok t) :
    T.opens group = true ∧ T.loop group = .ok t := by
  unfold GroupTask.workflow at h
  unfold GroupTask.opens
  cases hmode : T.mode group with
  | groupDirect =>
    rw [hmode] at h
    exact ⟨rfl, h⟩
  | vpnGroup =>
    rw [hmode] at h
    cases hready : T.workerReady with
    | error e =>
      rw [hready] at h
      cases h
    | ok u =>
      rw [hready] at h
      obtain ⟨hgroup, hlock, hconnect, hloop⟩ := vpnSession_eq_ok h
      rw [hgroup, hlock, hconnect]
      exact ⟨rfl, hloop⟩

/-! ### The result -/

theorem isEmpty_devices (h : T.devices ≠ []) : T.devices.isEmpty = false :=
  List.isEmpty_eq_false_iff.mpr h

theorem looped_of_starts (hs : T.starts group) :
    T.looped = if T.opens group then some group else none := by
  obtain ⟨hquery, hrow, hactive, hdevices, hstop⟩ := hs
  rw [GroupTask.looped, hquery, hrow]
  cases hopens : T.opens group <;>
    simp [hactive, isEmpty_devices hdevices, hstop, hopens, Option.filter]

theorem starts_of_looped (h : T.looped = some group) : T.starts group := by
  unfold GroupTask.looped at h
  split at h
  · cases h
  next hquery =>
    obtain ⟨hrow, hall⟩ := Option.filter_eq_some_iff.mp h
    simp only [Bool.and_eq_true, decide_eq_true_eq, Bool.not_eq_true'] at hall
    obtain ⟨⟨⟨hactive, hdevices⟩, hstop⟩, -⟩ := hall
    refine ⟨by simpa using hquery, hrow, hactive, ?_, hstop⟩
    exact List.isEmpty_eq_false_iff.mp hdevices

/-- A task that does not come to its loop has backed nothing up. -/
theorem backedUp_of_not_starts (h : ∀ group, ¬ T.starts group) : T.backedUp = [] := by
  unfold GroupTask.backedUp
  split
  next group hlooped => exact absurd (starts_of_looped hlooped) (h group)
  next => rfl

theorem starts_unique {group' : DeviceGroup} (h : T.starts group) (h' : T.starts group') :
    group = group' :=
  Option.some.inj (h.2.1.symm.trans h'.2.1)

theorem fails_of_starts (hs : T.starts group) : T.Fails e ↔ T.Raises group e := by
  constructor
  · rintro (h | ⟨hs', h⟩)
    · exact nomatch hs.1.symm.trans h
    · exact starts_unique hs hs' ▸ h
  · exact .devices hs

theorem finalReport_of_starts (hs : T.starts group) : T.finalReport =
    match T.workflow group with
    | .ok t => some (T.finished group t)
    | .error e =>
      if e.isVpnError then some (T.vpnFailed e)
      else if e.isException then some (failed e)
      else none := by
  obtain ⟨hquery, hrow, hactive, hdevices, hstop⟩ := hs
  unfold GroupTask.finalReport GroupTask.body
  simp only [hquery, hrow, hactive, isEmpty_devices hdevices, hstop, ne_eq, not_true_eq_false,
    if_false, Bool.false_eq_true]
  cases T.workflow group <;> rfl

/-- Nothing has been backed up exactly if nothing visited was. -/
theorem backedUp_eq_nil : T.backedUp = [] ↔ ∀ v, T.Visits v → v.backedUp = false := by
  unfold GroupTask.backedUp
  cases hlooped : T.looped with
  | none =>
    refine iff_of_true rfl fun v hv => ?_
    obtain ⟨group, hgroup, -⟩ := hv
    exact nomatch hlooped.symm.trans hgroup
  | some group =>
    show backedUpDevices _ _ _ _ = [] ↔ _
    rw [backedUpDevices_eq_nil]
    constructor
    · rintro h v ⟨group', hgroup, hv⟩
      obtain rfl := Option.some.inj (hlooped.symm.trans hgroup)
      exact h v hv
    · exact fun h v hv => h v ⟨group, hlooped, hv⟩

/-- The loop ends well: what is counted is what succeeded, as far as nothing went wrong later. -/
theorem accounted_of_ok (hs : T.starts group) (hw : T.workflow group = .ok t) :
    T.Accounted ↔ T.Accountable := by
  obtain ⟨hopens, hloop⟩ := workflow_eq_ok hw
  have hlooped : T.looped = some group := by rw [looped_of_starts hs, if_pos hopens]
  have hbacked : T.backedUp =
      backedUpDevices T.vpn.env.lower (T.mode group) T.maxSeconds (T.visits group) := by
    rw [GroupTask.backedUp, hlooped]
  obtain ⟨hle, hiff⟩ := processDevices_success hloop
  rw [Nat.zero_add, ← hbacked] at hle hiff
  have htotal : t.success + t.failed = T.devices.length :=
    processDevices_total hloop rfl ((Nat.zero_add _).trans length_visits)
  have hreport : T.finalReport = some (T.finished group t) := by
    rw [finalReport_of_starts hs, hw]
  constructor
  · rintro ⟨report, result, hfinal, hresult, hsuccess, hall, -⟩
    obtain rfl := Option.some.inj (hreport.symm.trans hfinal)
    obtain rfl := Option.some.inj hresult
    refine ⟨⟨group, hs.2.1, hs.2.2.1⟩, eligible_iff.mpr (htotal.symm.trans hall),
      fun e he => ?_, ?_⟩
    · exact nomatch hw.symm.trans (workflow_eq_error.mpr ((fails_of_starts hs).mp he))
    · rintro v ⟨group', hgroup, hv⟩
      obtain rfl := Option.some.inj (hlooped.symm.trans hgroup)
      exact hiff.mp hsuccess v hv
  · intro h
    have hsuccess : t.success = T.backedUp.length :=
      hiff.mpr fun v hv => h.settled v ⟨group, hlooped, hv⟩
    have hall : t.success + t.failed = T.deviceIds.length :=
      htotal.trans (eligible_iff.mp h.eligible)
    refine ⟨_, _, hreport, rfl, hsuccess, hall, fun hstatus => ?_⟩
    have hfailed : t.failed = 0 := by
      simp only [GroupTask.finished] at hstatus
      split at hstatus
      · cases hstatus
      split at hstatus
      next hzero => exact hzero
      next => cases hstatus
    omega

/-- An exception leaves the loop or its session: the handlers replace the counts. -/
theorem accounted_of_error (hs : T.starts group) (hw : T.workflow group = .error e) :
    T.Accounted ↔ T.Accountable := by
  have hreport := finalReport_of_starts hs
  rw [hw] at hreport
  dsimp only at hreport
  have hfails : ∀ e', T.Fails e' ↔ e' = e := by
    intro e'
    rw [fails_of_starts hs, ← workflow_eq_error, hw, Except.error.injEq, eq_comm]
  constructor
  · rintro ⟨report, result, hfinal, hresult, hsuccess, hall, -⟩
    rw [hreport] at hfinal
    by_cases hvpn : e.isVpnError = true
    · rw [if_pos hvpn] at hfinal
      obtain rfl := Option.some.inj hfinal
      obtain rfl := Option.some.inj hresult
      have hnothing : T.backedUp = [] := List.eq_nil_of_length_eq_zero hsuccess.symm
      simp only [isEmpty_devices hs.2.2.2.1, Bool.false_eq_true, if_false, Nat.zero_add] at hall
      refine ⟨⟨group, hs.2.1, hs.2.2.1⟩, eligible_iff.mpr hall, fun e' he' => ?_, fun v hv h => ?_⟩
      · obtain rfl := (hfails e').mp he'
        exact ⟨hvpn, backedUp_eq_nil.mp hnothing⟩
      · rw [backedUp_eq_nil.mp hnothing v hv] at h
        cases h
    · rw [if_neg hvpn] at hfinal
      split at hfinal
      · obtain rfl := Option.some.inj hfinal
        cases hresult
      · cases hfinal
  · intro h
    obtain ⟨hvpn, hnothing⟩ := h.contained e ((hfails e).mpr rfl)
    rw [if_pos hvpn] at hreport
    have hbacked : T.backedUp.length = 0 := by rw [backedUp_eq_nil.mpr hnothing]; rfl
    refine ⟨_, _, hreport, rfl, hbacked.symm, ?_, nofun⟩
    simp only [isEmpty_devices hs.2.2.2.1, Bool.false_eq_true, if_false, Nat.zero_add]
    exact eligible_iff.mp h.eligible

/-- The task ends before its loop. -/
theorem accounted_of_not_starts (hs : ∀ group, ¬ T.starts group) :
    T.Accounted ↔ T.Accountable := by
  have hbacked : T.backedUp.length = 0 := by rw [backedUp_of_not_starts hs]; rfl
  have hnone : ∀ v, ¬ T.Visits v := fun v ⟨group, hgroup, _⟩ => hs group (starts_of_looped hgroup)
  unfold GroupTask.Accounted GroupTask.finalReport GroupTask.body
  cases hquery : T.queryError with
  | some text =>
    refine iff_of_false ?_ fun h => nomatch (h.contained _ (.query hquery)).1
    rintro ⟨report, result, hfinal, hresult, -⟩
    obtain rfl := Option.some.inj hfinal
    cases hresult
  | none =>
    cases hrow : T.groupRow with
    | none =>
      refine iff_of_false ?_ fun h => ?_
      · rintro ⟨report, result, hfinal, hresult, -⟩
        obtain rfl := Option.some.inj hfinal
        cases hresult
      · obtain ⟨group, hgroup, -⟩ := h.active
        exact nomatch hrow.symm.trans hgroup
    | some group =>
      by_cases hactive : group.isActive = some true
      · simp only [hactive, ne_eq, not_true_eq_false, if_false]
        by_cases hdevices : T.devices = []
        · refine iff_of_false ?_ fun h => ?_
          · rintro ⟨report, result, hfinal, hresult, -, hall, -⟩
            simp only [hdevices, List.isEmpty_nil, if_true] at hfinal
            obtain rfl := Option.some.inj hfinal
            obtain rfl := Option.some.inj hresult
            exact T.nonempty (List.eq_nil_of_length_eq_zero hall.symm)
          · obtain ⟨id, hid⟩ := List.exists_mem_of_ne_nil _ T.nonempty
            obtain ⟨d, hd, -⟩ := h.eligible id hid
            rw [hdevices] at hd
            cases hd
        · have hstop : T.stopBefore = true := by
            by_contra hstop
            exact hs group ⟨hquery, hrow, hactive, hdevices, by simpa using hstop⟩
          simp only [isEmpty_devices hdevices, hstop, Bool.false_eq_true, if_false, if_true]
          constructor
          · rintro ⟨report, result, hfinal, hresult, -, hall, -⟩
            obtain rfl := Option.some.inj hfinal
            obtain rfl := Option.some.inj hresult
            refine ⟨⟨group, hrow, hactive⟩, eligible_iff.mpr ((Nat.zero_add _).symm.trans hall),
              fun e he => ?_, fun v hv => absurd hv (hnone v)⟩
            rcases he with h | ⟨h, -⟩
            · exact nomatch hquery.symm.trans h
            · exact absurd h (hs _)
          · intro h
            refine ⟨_, _, rfl, rfl, hbacked.symm, ?_, nofun⟩
            exact (Nat.zero_add _).trans (eligible_iff.mp h.eligible)
      · refine iff_of_false ?_ fun h => ?_
        · rintro ⟨report, result, hfinal, hresult, -⟩
          simp only [hactive, ne_eq, not_false_eq_true, if_true] at hfinal
          obtain rfl := Option.some.inj hfinal
          cases hresult
        · obtain ⟨group', hgroup, hactive'⟩ := h.active
          obtain rfl := Option.some.inj (hrow.symm.trans hgroup)
          exact hactive hactive'

/-- **Every requested device is accounted for** exactly if the task finds it again, leaves no
exception but an early error of the VPN to its handlers, and keeps each success. -/
theorem accounted_iff (T : GroupTask) : T.Accounted ↔ T.Accountable := by
  by_cases hs : ∃ group, T.starts group
  · obtain ⟨group, hs⟩ := hs
    cases hw : T.workflow group with
    | ok t => exact accounted_of_ok hs hw
    | error e => exact accounted_of_error hs hw
  · exact accounted_of_not_starts fun group h => hs ⟨group, h⟩

/-- What a route enqueues: active devices of an active group. -/
def Requested (T : GroupTask) : Prop :=
  (∃ group, T.groupRow = some group ∧ group.isActive = some true) ∧
    ∀ id ∈ T.deviceIds, ∃ d ∈ T.database.devices, d.id = id ∧ d.tenantId = T.tenantId ∧
      d.groupId = some T.groupId ∧ d.isActive = some true

end GroupTask

def manualDevice : Device where
  id := 1
  tenantId := 1
  groupId := some 1
  name := "OLT"
  ipAddress := "10.0.0.1"
  username := "admin"
  passwordEncrypted := "secret"

def branchGroup : DeviceGroup where
  id := 1
  tenantId := 1
  name := "Filial"
  slug := "filial"

/-- A group with one active device that no schedule backs up. -/
def branch : Tenants.Database where
  devices := { rows := [manualDevice] }
  deviceGroups := { rows := [branchGroup] }

def manualRun : GroupTask where
  vpn := { env := .ascii, decrypt := .ok }
  database := branch
  tenantId := 1
  groupId := 1
  deviceIds := [1]
  run := fun _ => { executor := .ok (true, some "Backup concluido com sucesso.") }

/-- A device that is backed up by hand only is not looked at, and the task reports success. -/
theorem unscheduled_device_dropped : ¬ ∀ T : GroupTask, T.Requested → T.Accounted := by
  intro hall
  have hrequested : manualRun.Requested := by
    refine ⟨⟨_, rfl, rfl⟩, fun id hid => ?_⟩
    obtain rfl := List.mem_singleton.mp hid
    exact ⟨_, List.mem_singleton.mpr rfl, rfl, rfl, rfl, rfl⟩
  obtain ⟨report, result, hfinal, hresult, -, hcount, -⟩ := hall manualRun hrequested
  obtain rfl := Option.some.inj hfinal
  obtain rfl := Option.some.inj hresult
  cases hcount

end BackupCenter.Bulk
