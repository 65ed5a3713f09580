import BackupCenter.Logs.Commands
import BackupCenter.Realtime.TaskMetaStore

/-!
# Writing, cleaning and reading logs

`append_task_log` takes its two sequence numbers before it pushes the entry. The cleaners
read the whole list, filter it and write it back. A reader scans from the newest entry down
to the last one that it has seen.
-/
namespace BackupCenter.Logs

open BackupCenter.Lib BackupCenter.Tasks BackupCenter.Realtime

namespace Log

def clock : LogProgram Timestamp := Prog.ask LogCommand.clock

def incr (k : LogKey) : LogProgram Nat := Prog.ask (LogCommand.incr k)

def getSeq (k : LogKey) : LogProgram Nat := Prog.ask (LogCommand.getSeq k)

def rpush (k : LogKey) (e : LogEntry) : LogProgram Unit := Prog.ask (LogCommand.rpush k e)

def ltrim (k : LogKey) (keep : Nat) : LogProgram Unit := Prog.ask (LogCommand.ltrim k keep)

def expireList (k : LogKey) (ttl : Nat) : LogProgram Unit := Prog.ask (LogCommand.expireList k ttl)

def expireSeq (k : LogKey) (ttl : Nat) : LogProgram Unit := Prog.ask (LogCommand.expireSeq k ttl)

def llen (k : LogKey) : LogProgram Nat := Prog.ask (LogCommand.llen k)

def lindexHead (k : LogKey) : LogProgram (Option Raw) := Prog.ask (LogCommand.lindexHead k)

def lpop (k : LogKey) : LogProgram Unit := Prog.ask (LogCommand.lpop k)

def lrange (k : LogKey) (start stop : Nat) : LogProgram (List Raw) :=
  Prog.ask (LogCommand.lrange k start stop)

def lrangeAll (k : LogKey) : LogProgram (List Raw) := Prog.ask (LogCommand.lrangeAll k)

def rewrite (k : LogKey) (keep : List Raw) (ttl : Nat) : LogProgram Unit :=
  Prog.ask (LogCommand.rewrite k keep ttl)

end Log

/-- The sizes that the environment sets. -/
structure LogSettings where
  env : Env
  realtimeTaskLogMaxEntries : Nat := 2000
  realtimeGlobalLogMaxEntries : Nat := 50000

variable (L : LogSettings)

def taskLogMaxEntries : Nat := max L.realtimeTaskLogMaxEntries 200

def globalLogMaxEntries : Nat := max L.realtimeGlobalLogMaxEntries 1000

def normalizedLevel (level : String) : Level :=
  match strip (L.env.lower (if level = "" then "info" else level)) with
  | "success" => .success
  | "warning" => .warning
  | "error" => .error
  | _ => .info

/-- Too old for a retention in seconds, or without a time that can be read. -/
def expired (now retention : Nat) : Raw → Bool
  | .unreadable _ => true
  | .entry e =>
    match e.timestampIso with
    | none => true
    | some ts => decide (ts + retention < now)

/-- `_prune_global_logs_by_age`; `rounds` bounds its loop, which ends at the first entry that is
young enough. -/
def pruneGlobalLogsByAge (now : Timestamp) : Nat → LogProgram Nat
  | 0 => pure 0
  | rounds + 1 => do
    match ← Log.lindexHead .global with
    | none => return 0
    | some raw =>
      if expired now (ttlSeconds L.env) raw then do
        Log.lpop .global
        let removed ← pruneGlobalLogsByAge now rounds
        return removed + 1
      else return 0

/-- The arguments of `append_task_log`. -/
structure LogRequest where
  taskId : TaskId
  deviceName : String
  /-- after `sanitize_operational_message` -/
  message : String
  level : String

def LogRequest.entry (q : LogRequest) (tenant : TenantId) (seq globalSeq : Nat)
    (now : Timestamp) : LogEntry where
  taskId := q.taskId
  seq := seq
  tenantId := tenant
  deviceName := if q.deviceName = "" then "Sistema" else q.deviceName
  message := q.message
  level := normalizedLevel L q.level
  timestampIso := some now
  globalSeq := globalSeq

/-- What `append_task_log` does with the global list after the push: `prune` is `none` while the
last pruning by age of this process is recent. -/
def trimGlobalLogs (prune : Option Nat) : LogProgram Unit := do
  match prune with
  | none => pure ()
  | some rounds => do
    let now ← Log.clock
    let _ ← pruneGlobalLogsByAge L now rounds
  Log.ltrim .global (globalLogMaxEntries L)
  Log.expireList .global (ttlSeconds L.env)
  Log.expireSeq .global (ttlSeconds L.env)

/-- What `append_task_log` does with the entry once it has its numbers. -/
def pushEntry (e : LogEntry) (prune : Option Nat) : LogProgram Unit := do
  Log.rpush (.task e.taskId) e
  Log.ltrim (.task e.taskId) (taskLogMaxEntries L)
  Log.expireList (.task e.taskId) (ttlSeconds L.env)
  Log.expireSeq (.task e.taskId) (ttlSeconds L.env)
  Log.rpush .global e
  trimGlobalLogs L prune

/-- `append_task_log`; `tenant` is what the meta of the task names. -/
def appendTaskLog (q : LogRequest) (tenant : TenantId) (prune : Option Nat) : LogProgram Unit :=
  if q.taskId = "" then pure ()
  else do
    let seq ← Log.incr (.task q.taskId)
    let now ← Log.clock
    let globalSeq ← Log.incr .global
    pushEntry L (q.entry L tenant seq globalSeq now) prune

/-- `prune_global_logs` -/
def pruneGlobalLogs (retentionDays : Nat) (dryRun : Bool) : LogProgram Nat := do
  let now ← Log.clock
  let rawEntries ← Log.lrangeAll .global
  if rawEntries = [] then return 0
  else
    let keep := rawEntries.filter (!expired now (max retentionDays 1 * 24 * 60 * 60) ·)
    let removed := rawEntries.length - keep.length
    if dryRun then return removed
    else do
      Log.rewrite .global keep (ttlSeconds L.env)
      return removed

def belongsTo (tenant : TenantId) : Raw → Bool
  | .entry e => e.tenantId = tenant
  | .unreadable _ => false

/-- `clear_tenant_global_logs` -/
def clearTenantGlobalLogs (tenant : TenantId) : LogProgram Nat :=
  if tenant = "" then pure 0
  else do
    let rawEntries ← Log.lrangeAll .global
    if rawEntries = [] then return 0
    else
      let kept := rawEntries.filter (!belongsTo tenant ·)
      let removed := rawEntries.length - kept.length
      if removed = 0 then return 0
      else do
        Log.rewrite .global kept (ttlSeconds L.env)
        return removed

/-! ## The commands of the programs -/

section Commands

variable {L} {ok : LogCommand → Prop}

theorem always_pruneGlobalLogsByAge (hhead : ok (.lindexHead .global)) (hpop : ok (.lpop .global))
    (now : Timestamp) (rounds : Nat) : (pruneGlobalLogsByAge L now rounds).Always ok := by
  have hlook : (Log.lindexHead .global).Always ok := ⟨hhead, fun _ _ => trivial⟩
  induction rounds with
  | zero => trivial
  | succ rounds ih =>
    apply hlook.bind
    intro head
    split
    · trivial
    · split
      · exact ⟨hpop, fun _ _ => ih.bind fun _ => trivial⟩
      · trivial

theorem always_trimGlobalLogs (hclock : ok .clock) (hhead : ok (.lindexHead .global))
    (hpop : ok (.lpop .global)) (htrim : ok (.ltrim .global (globalLogMaxEntries L)))
    (hlist : ∀ ttl, ok (.expireList .global ttl)) (hseq : ∀ ttl, ok (.expireSeq .global ttl))
    (prune : Option Nat) : (trimGlobalLogs L prune).Always ok := by
  have hend : (do
      Log.ltrim .global (globalLogMaxEntries L)
      Log.expireList .global (ttlSeconds L.env)
      Log.expireSeq .global (ttlSeconds L.env)).Always ok :=
    ⟨htrim, fun _ _ => ⟨hlist _, fun _ _ => ⟨hseq _, fun _ _ => trivial⟩⟩⟩
  cases prune with
  | none => exact hend
  | some rounds =>
    refine ⟨hclock, fun now _ => ?_⟩
    have hage := always_pruneGlobalLogsByAge (L := L) hhead hpop now rounds
    exact hage.bind fun _ => hend

end Commands

end BackupCenter.Logs
