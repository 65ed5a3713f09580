import BackupCenter.Realtime.GlobalStop

/-!
# Registration beside a running worker

`run_backup` hands a task to the broker and registers it afterwards; the callback of a phase
registers its tasks first. A registration is one write of the whole document, and the worker
updates the same document with a read and a write. What the worker has reported must stay in
the document, whichever of these commands come first.
-/
namespace BackupCenter.Realtime

open BackupCenter.Lib BackupCenter.Tasks

/-- What an update of a worker says about the end of the task. -/
inductive Verdict where
  /-- The task is under way: `completed=False`, or a key of its own. -/
  | underway
  /-- The task has ended with a result. -/
  | ended (result : ResultDict)
  /-- The update leaves an end as it is; the soft time limit of a finished task is one. -/
  | silent

def Verdict.Fits : Verdict → (TaskMeta → TaskMeta) → Prop
  | .underway, _ => True
  | .ended result, fields => ∀ m, (fields m).completed = true ∧ (fields m).result = some result
  | .silent, fields => ∀ m, m.completed = true →
      (fields m).completed = true ∧ (fields m).result = m.result

/-- The keyword arguments of one `update_task_meta` of the worker. -/
structure WorkerCall where
  fields : TaskMeta → TaskMeta
  verdict : Verdict
  notQueued : ∀ m, m.status ≠ some .queued → (fields m).status ≠ some .queued
  fits : verdict.Fits fields

/-- What the worker has stored of its task so far. -/
structure Progress where
  /-- A status other than that of a registration. -/
  ran : Bool := false
  /-- The result stored with `completed=True`. -/
  finished : Option ResultDict := none

/-- The worker stores a document. -/
def Progress.wrote (p : Progress) (m : TaskMeta) : Progress where
  ran := p.ran || m.status.any (· ≠ .queued)
  finished := if m.completed then m.result.or p.finished else p.finished

/-- The worker executes a command. -/
def Progress.after (id : TaskId) (p : Progress) : Command → Progress
  | .setex k _ (.doc m) => if k = .taskMeta id then p.wrote m else p
  | _ => p

/-- A document tells what the worker has reported. -/
structure Progress.Kept (p : Progress) (m : TaskMeta) : Prop where
  finished : ∀ r, p.finished = some r → m.completed = true ∧ m.result = some r
  ran : p.ran = true → m.status ≠ some .queued

/-- The enqueuing route, the worker and the store. `rest` is what the route does after
`apply_async`, and is gone once the task has been handed to the broker. -/
structure Enqueueing where
  shared : Shared
  route : Program Unit
  rest : Option (Program Unit)
  worker : Program Unit := .ret ()
  progress : Progress := {}

inductive Enqueuer where
  /-- `run_backup` -/
  | singleDevice (tenantId : TenantId) (deviceId : DeviceId) (deviceName groupId : String)
  /-- One task of `enqueue_jump_and_vpn_after_direct_phase_task`. -/
  | phaseCallback (tenantId : TenantId) (deviceId : DeviceId) (deviceName groupId : String)

def Enqueuer.start (env : Env) (id : TaskId) (s : Shared) : Enqueuer → Enqueueing
  | .singleDevice tenantId deviceId deviceName groupId =>
    { shared := s
      route := .ret ()
      rest := some (registerTask env id tenantId deviceId deviceName groupId) }
  | .phaseCallback tenantId deviceId deviceName groupId =>
    { shared := s
      route := do
        registerTask env id tenantId deviceId deviceName groupId
        updateTaskMeta env id fun m => { m with deviceIds := [deviceId], deviceTotal := 1 }
      rest := some (.ret ()) }

inductive EnqueueEvent where
  /-- The route executes its next command. -/
  | route
  | applyAsync
  /-- The worker begins an update. -/
  | call (c : WorkerCall)
  /-- The worker executes its next command. -/
  | worker
  | elsewhere (x : Elsewhere)

/-- A worker that has stored an end reports no task under way. -/
def WorkerCall.allowed (c : WorkerCall) (p : Progress) : Bool :=
  match c.verdict with
  | .underway => p.finished.isNone
  | _ => true

def enqueueStep (env : Env) (id : TaskId) (w : Enqueueing) : EnqueueEvent → Option Enqueueing
  | .route =>
    match w.route with
    | .call c next => some { w with
        shared := (handle c w.shared).2
        route := next (handle c w.shared).1 }
    | .ret _ => none
  | .applyAsync =>
    match w.route, w.rest with
    | .ret _, some rest => some { w with route := rest, rest := none }
    | _, _ => none
  | .call c =>
    match w.rest, w.worker with
    | none, .ret _ =>
      if c.allowed w.progress then some { w with worker := updateTaskMeta env id c.fields }
      else none
    | _, _ => none
  | .worker =>
    match w.worker with
    | .call c next => some { w with
        shared := (handle c w.shared).2
        worker := next (handle c w.shared).1
        progress := w.progress.after id c }
    | .ret _ => none
  | .elsewhere x => (elsewhere (.taskMeta id) x w.shared).map fun t => { w with shared := t }

/-- The stored document tells what the worker has reported. -/
def Enqueueing.KeepsProgress (id : TaskId) (w : Enqueueing) : Prop :=
  w.progress.Kept ((w.shared.doc id).getD {})

def nextCommand : Program Unit → Option Command
  | .call c _ => some c
  | .ret _ => none

/-- The route writes the document only while the worker has reported nothing. -/
def RegistersFirst (id : TaskId) (w : Enqueueing) : EnqueueEvent → Prop
  | .route => ∀ c, nextCommand w.route = some c → c.writes = some (.taskMeta id) →
      w.progress = {}
  | _ => True

/-! ## What the worker stores -/

section Worker

variable {env : Env} {id : TaskId} {p : Progress} {m : TaskMeta}

theorem Progress.kept_nothing (m : TaskMeta) : ({} : Progress).Kept m := ⟨nofun, nofun⟩

/-- A registration tells nothing, so that it keeps only that. -/
theorem Progress.kept_registered_iff {tenantId : TenantId} {deviceId : DeviceId}
    {deviceName groupId : String} :
    p.Kept (registeredMeta tenantId deviceId deviceName groupId) ↔ p = {} := by
  constructor
  · intro h
    obtain ⟨ran, finished⟩ := p
    congr
    · cases ran with
      | false => rfl
      | true => exact absurd rfl (h.ran rfl)
    · cases finished with
      | none => rfl
      | some r => exact nomatch (h.finished r rfl).1
  · rintro rfl
    exact Progress.kept_nothing _

/-- An update of a document that keeps the progress keeps it too, with what it adds. -/
theorem WorkerCall.kept {c : WorkerCall} (hm : p.Kept m) (hc : c.allowed p = true) :
    (p.wrote (c.fields m)).Kept (c.fields m) := by
  have hsilent : ∀ r, p.finished = some r →
      (c.fields m).completed = true ∧ ∃ r', (c.fields m).result = some r' := by
    intro r hr
    obtain ⟨hcompleted, hresult⟩ := hm.finished r hr
    have hfits := c.fits
    unfold WorkerCall.allowed at hc
    cases hv : c.verdict with
    | underway => simp [hv, hr] at hc
    | ended r' =>
      rw [hv] at hfits
      exact ⟨(hfits m).1, r', (hfits m).2⟩
    | silent =>
      rw [hv] at hfits
      obtain ⟨h₁, h₂⟩ := hfits m hcompleted
      exact ⟨h₁, r, h₂.trans hresult⟩
  constructor
  · intro r hr
    simp only [Progress.wrote] at hr
    split at hr
    next hcompleted =>
      cases hresult : (c.fields m).result with
      | some r' =>
        rw [hresult, Option.some_or] at hr
        exact ⟨hcompleted, hr⟩
      | none =>
        rw [hresult, Option.none_or] at hr
        obtain ⟨-, r', hr'⟩ := hsilent r hr
        exact nomatch hresult.symm.trans hr'
    next hopen => exact absurd (hsilent r hr).1 hopen
  · intro hran hqueued
    simp only [Progress.wrote, hqueued, Option.any_some, ne_eq, not_true_eq_false, decide_false,
      Bool.or_false] at hran
    exact c.notQueued m (hm.ran hran) hqueued

theorem Progress.after_of_not_written {c : Command} (h : c.writes ≠ some (.taskMeta id)) :
    p.after id c = p := by
  cases c with
  | setex k ttl v =>
    cases v with
    | doc m => exact if_neg fun hk => h (congrArg some hk)
    | text t => rfl
  | _ => rfl

/-- The worker is about to read, about to write what it has made of the document, or past the
write. -/
inductive Working (env : Env) (id : TaskId) (p : Progress) : Program Unit → Prop
  | reads (c : WorkerCall) (hc : c.allowed p = true) :
      Working env id p (updateTaskMeta env id c.fields)
  | writes (m : TaskMeta) (hm : (p.wrote m).Kept m) : Working env id p (writeTaskMeta env id m)
  | past {program : Program Unit} (h : WritesIn (· ≠ .taskMeta id) program) :
      Working env id p program

theorem writesIn_lockAfterWrite (id : TaskId) (m : TaskMeta) :
    WritesIn (· ≠ .taskMeta id) (lockAfterWrite env id m) := by
  unfold lockAfterWrite
  split
  · split
    · exact writesIn_releaseTenantBulkLock (by simp) ..
    · exact writesIn_ask (writesIn_write (by simp))
  · trivial

theorem doc_setex (s : Shared) (m : TaskMeta) :
    (handle (.setex (.taskMeta id) (ttlSeconds env) (.doc m)) s).2.doc id = some m := by
  rw [Shared.doc_eq_some]
  exact Store.get_setex_self (ttlSeconds_pos env)

/-- A step of the worker keeps the progress, and with it what the worker is about to do. -/
theorem Working.step {s : Shared} {c : Command} {next : c.Answer → Program Unit}
    (h : Working env id p (.call c next)) (hkept : p.Kept ((s.doc id).getD {})) :
    Working env id (p.after id c) (next (handle c s).1) ∧
      (p.after id c).Kept (((handle c s).2.doc id).getD {}) := by
  generalize hq : Prog.call c next = program at h
  cases h with
  | reads call hcall =>
    by_cases hid : id = ""
    · rw [updateTaskMeta, if_pos hid] at hq
      cases hq
    · rw [updateTaskMeta, if_neg hid] at hq
      obtain ⟨next', hbind, hread⟩ := getTaskMeta_bind hid fun current =>
        writeTaskMeta env id (call.fields (current.getD {}))
      rw [hbind] at hq
      obtain ⟨rfl, hnext⟩ := Prog.call.inj hq
      obtain rfl := eq_of_heq hnext
      refine ⟨?_, hkept⟩
      show Working env id p (next (s.redis.get (.taskMeta id)))
      rw [hread s, Shared.taskMeta, if_neg hid]
      exact .writes _ (call.kept hkept hcall)
  | writes m hm =>
    obtain ⟨rfl, hnext⟩ := Prog.call.inj hq
    obtain rfl := eq_of_heq hnext
    constructor
    · exact .past (writesIn_lockAfterWrite id m)
    · rw [doc_setex, Progress.after, if_pos rfl]
      exact hm
  | past h =>
    subst hq
    have hother : c.writes ≠ some (.taskMeta id) := fun hk => h.1 _ hk rfl
    rw [Progress.after_of_not_written hother, doc_frame hother]
    exact ⟨.past (h.2 _ trivial), hkept⟩

end Worker

/-! ## What the route stores -/

section Steps

variable {env : Env} {id : TaskId} {w w' : Enqueueing}

/-- The route is about to register the task, or writes nothing of it any more. -/
inductive Registering (env : Env) (id : TaskId) : Program Unit → Prop
  | register (tenantId : TenantId) (deviceId : DeviceId) (deviceName groupId : String) :
      Registering env id (registerTask env id tenantId deviceId deviceName groupId)
  | past {program : Program Unit} (h : WritesIn (· ≠ .taskMeta id) program) :
      Registering env id program

/-- A command of the route keeps the progress exactly when it comes first. -/
theorem Registering.step {s : Shared} {p : Progress} {c : Command}
    {next : c.Answer → Program Unit} (h : Registering env id (.call c next))
    (hkept : p.Kept ((s.doc id).getD {})) :
    Registering env id (next (handle c s).1) ∧
      (p.Kept (((handle c s).2.doc id).getD {}) ↔
        (c.writes = some (.taskMeta id) → p = {})) := by
  generalize hq : Prog.call c next = program at h
  cases h with
  | register tenantId deviceId deviceName groupId =>
    by_cases hid : id = ""
    · rw [registerTask, if_pos hid] at hq
      cases hq
    · rw [registerTask, if_neg hid] at hq
      obtain ⟨rfl, hnext⟩ := Prog.call.inj hq
      obtain rfl := eq_of_heq hnext
      refine ⟨.past (writesIn_lockAfterWrite id _), ?_⟩
      rw [doc_setex, Option.getD_some, Progress.kept_registered_iff]
      exact ⟨fun hp _ => hp, fun hp => hp rfl⟩
  | past h =>
    subst hq
    have hother : c.writes ≠ some (.taskMeta id) := fun hk => h.1 _ hk rfl
    rw [doc_frame hother]
    exact ⟨.past (h.2 _ trivial), fun _ hwrites => absurd hwrites hother, fun _ => hkept⟩

/-- Before `apply_async` there is no worker; afterwards both sides are as above. -/
structure Enqueueing.Ordered (env : Env) (id : TaskId) (w : Enqueueing) : Prop where
  waits : w.rest.isSome = true → w.progress = {} ∧ w.worker = .ret ()
  rest : ∀ program, w.rest = some program → Registering env id program
  route : w.rest = none → Registering env id w.route
  worker : Working env id w.progress w.worker

/-- **One step** keeps the order, and keeps the progress exactly when the route does not write
over it. -/
theorem enqueueStep_iff {e : EnqueueEvent} (hw : w.Ordered env id) (hkept : w.KeepsProgress id)
    (hs : enqueueStep env id w e = some w') :
    w'.Ordered env id ∧ (w'.KeepsProgress id ↔ RegistersFirst id w e) := by
  cases e with
  | route =>
    simp only [enqueueStep] at hs
    split at hs
    next c next hroute =>
      obtain rfl := Option.some.inj hs
      have hfirst : RegistersFirst id w .route ↔
          (c.writes = some (.taskMeta id) → w.progress = {}) := by
        simp [RegistersFirst, nextCommand, hroute]
      rw [hfirst]
      cases hrest : w.rest with
      | some rest =>
        obtain ⟨hnothing, hidle⟩ := hw.waits (by rw [hrest]; rfl)
        refine ⟨⟨fun _ => ⟨hnothing, hidle⟩, hrest ▸ hw.rest, nofun, hw.worker⟩,
          fun _ _ => hnothing, fun _ => ?_⟩
        simp only [Enqueueing.KeepsProgress, hnothing]
        exact Progress.kept_nothing _
      | none =>
        obtain ⟨hnext, hiff⟩ := (hroute ▸ hw.route hrest).step hkept
        exact ⟨⟨nofun, nofun, fun _ => hnext, hw.worker⟩, hiff⟩
    next => cases hs
  | applyAsync =>
    simp only [enqueueStep] at hs
    split at hs
    next rest hroute hrest =>
      obtain rfl := Option.some.inj hs
      exact ⟨⟨nofun, nofun, fun _ => hw.rest rest hrest, hw.worker⟩,
        fun _ => trivial, fun _ => hkept⟩
    next => cases hs
  | call c =>
    simp only [enqueueStep] at hs
    split at hs
    next hrest hworker =>
      split at hs
      next hallowed =>
        obtain rfl := Option.some.inj hs
        refine ⟨⟨fun h => ?_, hw.rest, hw.route, .reads c hallowed⟩, fun _ => trivial,
          fun _ => hkept⟩
        rw [hrest] at h
        exact nomatch h
      next => cases hs
    next => cases hs
  | worker =>
    simp only [enqueueStep] at hs
    split at hs
    next c next hworker =>
      obtain rfl := Option.some.inj hs
      have hnone : w.rest = none := by
        by_contra hrest
        obtain ⟨-, hidle⟩ := hw.waits (Option.isSome_iff_ne_none.mpr hrest)
        exact nomatch hworker.symm.trans hidle
      obtain ⟨hnext, hprogress⟩ := (hworker ▸ hw.worker).step hkept
      refine ⟨⟨fun h => ?_, hw.rest, hw.route, hnext⟩, fun _ => trivial, fun _ => hprogress⟩
      rw [hnone] at h
      exact nomatch h
    next => cases hs
  | elsewhere x =>
    obtain ⟨t, ht, rfl⟩ := Option.map_eq_some_iff.mp hs
    refine ⟨⟨hw.waits, hw.rest, hw.route, hw.worker⟩, fun _ => trivial, fun _ => ?_⟩
    show w.progress.Kept ((t.doc id).getD {})
    rw [elsewhere_doc ht]
    exact hkept

theorem registersFirst_of_stuck {e : EnqueueEvent} (h : enqueueStep env id w e = none) :
    RegistersFirst id w e := by
  cases e with
  | route =>
    simp only [enqueueStep] at h
    split at h
    next => cases h
    next hroute =>
      intro c hc
      rw [hroute] at hc
      exact nomatch hc
  | _ => trivial

theorem ordered_start (e : Enqueuer) (s : Shared) : (e.start env id s).Ordered env id := by
  cases e with
  | singleDevice tenantId deviceId deviceName groupId =>
    refine ⟨fun _ => ⟨rfl, rfl⟩, fun program h => ?_, nofun, .past trivial⟩
    obtain rfl := Option.some.inj h
    exact .register ..
  | phaseCallback tenantId deviceId deviceName groupId =>
    refine ⟨fun _ => ⟨rfl, rfl⟩, fun program h => ?_, nofun, .past trivial⟩
    obtain rfl := Option.some.inj h
    exact .past trivial

/-- Nothing is left for the route to do once it has called `apply_async`. -/
structure Enqueueing.HandsOverLast (w : Enqueueing) : Prop where
  waits : w.rest.isSome = true → w.progress = {} ∧ w.worker = .ret ()
  rest : ∀ program, w.rest = some program → program = .ret ()
  route : w.rest = none → w.route = .ret ()

theorem Enqueueing.HandsOverLast.step {e : EnqueueEvent} (hw : w.HandsOverLast)
    (hs : enqueueStep env id w e = some w') : w'.HandsOverLast := by
  cases e with
  | route =>
    simp only [enqueueStep] at hs
    split at hs
    next c next hroute =>
      obtain rfl := Option.some.inj hs
      exact ⟨hw.waits, hw.rest, fun h => nomatch hroute.symm.trans (hw.route h)⟩
    next => cases hs
  | applyAsync =>
    simp only [enqueueStep] at hs
    split at hs
    next rest hroute hrest =>
      obtain rfl := Option.some.inj hs
      exact ⟨nofun, nofun, fun _ => hw.rest rest hrest⟩
    next => cases hs
  | call c =>
    simp only [enqueueStep] at hs
    split at hs
    next hrest hworker =>
      split at hs
      next =>
        obtain rfl := Option.some.inj hs
        refine ⟨fun h => ?_, hw.rest, hw.route⟩
        rw [hrest] at h
        exact nomatch h
      next => cases hs
    next => cases hs
  | worker =>
    simp only [enqueueStep] at hs
    split at hs
    next c next hworker =>
      obtain rfl := Option.some.inj hs
      refine ⟨fun h => ?_, hw.rest, hw.route⟩
      exact nomatch hworker.symm.trans (hw.waits h).2
    next => cases hs
  | elsewhere x =>
    obtain ⟨t, ht, rfl⟩ := Option.map_eq_some_iff.mp hs
    exact ⟨hw.waits, hw.rest, hw.route⟩

/-- A route that hands over last registers first. -/
theorem Enqueueing.HandsOverLast.registersFirst (hw : w.HandsOverLast) (e : EnqueueEvent) :
    RegistersFirst id w e := by
  cases e with
  | route =>
    intro c hc _
    cases hrest : w.rest with
    | some rest => exact (hw.waits (by rw [hrest]; rfl)).1
    | none =>
      rw [hw.route hrest] at hc
      exact nomatch hc
  | _ => trivial

end Steps

/-! ## Whole runs -/

def Enqueuer.RegistersBeforeHandingOver : Enqueuer → Prop
  | .singleDevice .. => False
  | .phaseCallback .. => True

/-- **What a worker has reported stays reported** in every state of a run exactly when no
registration comes after the first report; the callback of a phase always registers first. -/
theorem progress_kept_iff (env : Env) (id : TaskId) (e : Enqueuer) (s : Shared)
    (es : List EnqueueEvent) :
    ((∀ es₁ es₂ w, es = es₁ ++ es₂ →
        exec (enqueueStep env id) (e.start env id s) es₁ = some w → w.KeepsProgress id) ↔
      Along (enqueueStep env id) (RegistersFirst id) (e.start env id s) es) ∧
    (e.RegistersBeforeHandingOver →
      Along (enqueueStep env id) (RegistersFirst id) (e.start env id s) es) := by
  constructor
  · have hstep : ∀ w e w', w.Ordered env id → w.KeepsProgress id → True →
        enqueueStep env id w e = some w' →
        w'.Ordered env id ∧ (w'.KeepsProgress id ↔ RegistersFirst id w e) :=
      fun _ _ _ hw hkept _ hs => enqueueStep_iff hw hkept hs
    apply prefixes_iff_along (fun _ _ => registersFirst_of_stuck) hstep (ordered_start e s) _
      along_true
    cases e <;> exact Progress.kept_nothing _
  · intro hbefore
    cases e with
    | singleDevice => exact hbefore.elim
    | phaseCallback tenantId deviceId deviceName groupId =>
      have hstart : (Enqueuer.phaseCallback tenantId deviceId deviceName groupId
          |>.start env id s).HandsOverLast := by
        refine ⟨fun _ => ⟨rfl, rfl⟩, fun program h => ?_, nofun⟩
        exact (Option.some.inj h).symm
      exact Along.of_invariant (fun _ _ _ hw _ hs => hw.step hs)
        (fun _ e hw _ => hw.registersFirst e) hstart along_true

def finishedResult : ResultDict := { total := some 1, success := some 1 }

/-- The last update of a backup that has succeeded. -/
def reportsSuccess : WorkerCall where
  fields := fun m =>
    { m with status := some .success, completed := true, result := some finishedResult }
  verdict := .ended finishedResult
  notQueued := by simp
  fits := fun _ => ⟨rfl, rfl⟩

/-- A worker that is faster than the route: the finished task is shown as queued for ever. -/
theorem finished_task_queued_again :
    ¬ ∀ (env : Env) (id : TaskId) (e : Enqueuer) (s : Shared) (es : List EnqueueEvent)
      (w : Enqueueing), exec (enqueueStep env id) (e.start env id s) es = some w →
        w.KeepsProgress id := by
  intro hall
  have hkept := hall .ascii "task" (.singleDevice "tenant" "device" "OLT" "") {}
    [.applyAsync, .call reportsSuccess, .worker, .worker, .route] _ rfl
  exact hkept.ran rfl rfl

end BackupCenter.Realtime
