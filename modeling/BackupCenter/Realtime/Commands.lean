import BackupCenter.Lib.Interleaving
import BackupCenter.Lib.Store
import BackupCenter.Tasks.TerminalSnapshot

/-!
# Redis commands of the realtime service

The commands that the web process and the workers issue, each executed atomically on
a shared state: the Redis store, what the Celery result backend knows, and the
follow-up tasks handed to the broker.
-/
namespace BackupCenter.Realtime

open BackupCenter.Lib BackupCenter.Tasks

inductive RedisKey where
  /-- `backup_center:task_meta:<id>` -/
  | taskMeta (id : TaskId)
  /-- `backup_center:tenant_active_bulk:<tenant>` -/
  | tenantActiveBulk (tenant : TenantId)
  /-- `backup_center:bulk:transient_followup_decided:<id>` -/
  | followupDecision (id : TaskId)
  /-- `backup_center:force_stop_backups` -/
  | forceStopBackups
  deriving DecidableEq

/-- A stored string: a JSON document or a plain text. -/
inductive RedisValue where
  | doc (m : TaskMeta)
  | text (s : String)

/-- The arguments of a scheduled `run_bulk_transient_followup_task`. -/
structure FollowupCall where
  tenantId : TenantId
  deviceIds : List DeviceId
  sourceBulkTaskId : TaskId
  taskId : TaskId
  countdown : Nat
  deriving Repr, DecidableEq

inductive Command where
  | get (k : RedisKey)
  | setex (k : RedisKey) (ttl : Nat) (v : RedisValue)
  | setnx (k : RedisKey) (ttl : Nat) (v : RedisValue)
  | delete (k : RedisKey)
  /-- `AsyncResult(id).state` -/
  | celeryState (id : TaskId)
  /-- `AsyncResult(id).result` -/
  | celeryResult (id : TaskId)
  /-- `run_bulk_transient_followup_task.apply_async(...)` -/
  | scheduleFollowup (call : FollowupCall)

abbrev Command.Answer : Command → Type
  | .get _ => Option RedisValue
  | .setnx .. => Bool
  | .celeryState _ => Option CeleryState
  | .celeryResult _ => Option ResultDict
  | _ => Unit

/-- A conditional write that succeeded. -/
structure Won where
  key : RedisKey
  value : RedisValue
  time : Nat

/-- The shared state. `won` and `scheduled` list, latest first, the conditional writes that
succeeded and the follow-ups that were scheduled; no program reads them. -/
structure Shared where
  redis : Store RedisKey RedisValue := {}
  celery : TaskId → AsyncResult := fun _ => {}
  won : List Won := []
  scheduled : List FollowupCall := []

/-- The atomic effect of one command. -/
def handle : (c : Command) → Shared → c.Answer × Shared
  | .get k, s => (s.redis.get k, s)
  | .setex k ttl v, s => ((), { s with redis := s.redis.setex k ttl v })
  | .setnx k ttl v, s =>
    ((s.redis.setnx k ttl v).1,
      { s with
        redis := (s.redis.setnx k ttl v).2
        won := if (s.redis.setnx k ttl v).1 then ⟨k, v, s.redis.now⟩ :: s.won else s.won })
  | .delete k, s => ((), { s with redis := s.redis.delete k })
  | .celeryState id, s => ((s.celery id).state, s)
  | .celeryResult id, s => ((s.celery id).result, s)
  | .scheduleFollowup call, s => ((), { s with scheduled := call :: s.scheduled })

abbrev Program := Prog Command Command.Answer

namespace Client

def get (k : RedisKey) : Program (Option RedisValue) := Prog.ask (Command.get k)

def setex (k : RedisKey) (ttl : Nat) (v : RedisValue) : Program Unit :=
  Prog.ask (Command.setex k ttl v)

/-- `client.set(key, value, nx=True, ex=ttl)` -/
def setnx (k : RedisKey) (ttl : Nat) (v : RedisValue) : Program Bool :=
  Prog.ask (Command.setnx k ttl v)

def delete (k : RedisKey) : Program Unit := Prog.ask (Command.delete k)

end Client

theorem run_get (k : RedisKey) (s : Shared) :
    (Client.get k).run handle s = (s.redis.get k, s) := rfl

def celeryState (id : TaskId) : Program (Option CeleryState) := Prog.ask (Command.celeryState id)

def celeryResult (id : TaskId) : Program (Option ResultDict) := Prog.ask (Command.celeryResult id)

def scheduleFollowup (call : FollowupCall) : Program Unit :=
  Prog.ask (Command.scheduleFollowup call)

/-- The stored document of a task, if there is one. -/
def Shared.doc (s : Shared) (id : TaskId) : Option TaskMeta :=
  match s.redis.get (.taskMeta id) with
  | some (.doc m) => some m
  | _ => none

theorem Shared.doc_eq_some {s : Shared} {id : TaskId} {m : TaskMeta} :
    s.doc id = some m ↔ s.redis.get (.taskMeta id) = some (.doc m) := by
  unfold Shared.doc
  split
  next m' h => simp [h]
  next hne =>
    constructor
    · exact nofun
    · exact fun h => absurd h (hne m)

/-- The batch that holds the tenant's lock. -/
def Shared.lockOwner (s : Shared) (tenant : TenantId) : Option RedisValue :=
  s.redis.get (.tenantActiveBulk tenant)

/-- The keys that a command may change. -/
def Command.writes : Command → Option RedisKey
  | .setex k .. | .setnx k .. | .delete k => some k
  | _ => none

/-- A command leaves every other key as it is. -/
theorem handle_frame {c : Command} {k : RedisKey} (h : c.writes ≠ some k) (s : Shared) :
    (handle c s).2.redis.get k = s.redis.get k := by
  cases c with
  | setex k' ttl v => exact Store.get_setex_ne fun he => h (by rw [he]; rfl)
  | setnx k' ttl v => exact Store.get_setnx_ne fun he => h (by rw [he]; rfl)
  | delete k' => exact Store.get_delete_ne fun he => h (by rw [he]; rfl)
  | _ => rfl

theorem doc_frame {c : Command} {id : TaskId} (h : c.writes ≠ some (.taskMeta id)) (s : Shared) :
    (handle c s).2.doc id = s.doc id := by
  rw [Shared.doc, Shared.doc, handle_frame h]

/-- No command moves the clock. -/
theorem handle_now (c : Command) (s : Shared) : (handle c s).2.redis.now = s.redis.now := by
  cases c with
  | setnx k ttl v => exact Store.setnx_now
  | _ => rfl

/-- What else may happen: Celery works, and other keys are written and deleted. -/
inductive Elsewhere where
  | celery (id : TaskId) (r : AsyncResult)
  | write (k : RedisKey) (ttl : Nat) (v : RedisValue)
  | remove (k : RedisKey)

/-- Every key but `own` may change. -/
def elsewhere (own : RedisKey) : Elsewhere → Shared → Option Shared
  | .celery id r, s => some { s with celery := Function.update s.celery id r }
  | .write k ttl v, s =>
    if k = own then none else some { s with redis := s.redis.setex k ttl v }
  | .remove k, s => if k = own then none else some { s with redis := s.redis.delete k }

theorem elsewhere_frame {own : RedisKey} {x : Elsewhere} {s t : Shared}
    (h : elsewhere own x s = some t) :
    t.redis.now = s.redis.now ∧ t.redis.entries own = s.redis.entries own ∧ t.won = s.won ∧
      t.scheduled = s.scheduled := by
  cases x with
  | celery id r =>
    obtain rfl := Option.some.inj h
    exact ⟨rfl, rfl, rfl, rfl⟩
  | write k ttl v =>
    simp only [elsewhere] at h
    split at h
    next => cases h
    next hk =>
      obtain rfl := Option.some.inj h
      exact ⟨rfl, Function.update_of_ne (Ne.symm hk) .., rfl, rfl⟩
  | remove k =>
    simp only [elsewhere] at h
    split at h
    next => cases h
    next hk =>
      obtain rfl := Option.some.inj h
      exact ⟨rfl, Function.update_of_ne (Ne.symm hk) .., rfl, rfl⟩

theorem elsewhere_doc {id : TaskId} {x : Elsewhere} {s t : Shared}
    (h : elsewhere (.taskMeta id) x s = some t) : t.doc id = s.doc id := by
  rw [Shared.doc, Shared.doc, Store.get_congr (elsewhere_frame h).1 (elsewhere_frame h).2.1]

end BackupCenter.Realtime
