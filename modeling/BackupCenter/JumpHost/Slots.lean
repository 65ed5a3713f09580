import BackupCenter.Lib.Exec
import BackupCenter.Lib.Workers
import BackupCenter.Tenants.ConnectionMode

/-!
# The slots of a jump host

`_jump_host_lock_context` lets a worker into a bastion while it holds one of the bastion's slots,
each a lock in Redis. Every worker resolves for itself how many slots there are, tries them in
order without waiting, and sleeps a second between two passes until a stop request or the wait
limit ends the loop. The clock counts milliseconds.
-/
namespace BackupCenter.JumpHost

open BackupCenter.Lib
open BackupCenter.Tenants (DeviceGroup DeviceSubgroup Device getEffectiveConnectionType)

/-! ## The lock of a device -/

structure LockInfo where
  baseKey : String
  label : String
  groupName : String
  baseSlots : Int
  deriving DecidableEq

/-- `_normalize_host` -/
def normalizeHost (env : Tenants.Env) (value : String) : String := env.lower (strip value)

/-- The base of the lock keys of a bastion. -/
def bastionKey (host : String) (port : Int) : String :=
  "backup_center:jump_host_lock:" ++ host ++ ":" ++ toString port

/-- `int(jump_port or 22)` -/
def portOf (group : DeviceGroup) : Int :=
  match group.jumpPort with
  | none => 22
  | some port => if port = 0 then 22 else port

/-- `_resolve_jump_host_lock`; a device that cannot be read, or that is the bastion itself, has
none. -/
def resolveJumpHostLock (env : Tenants.Env) (jumpHostMaxSlots : Int) (device : Option Device)
    (group : Option DeviceGroup) (subgroup : Option DeviceSubgroup) : Option LockInfo :=
  match device, group with
  | some d, some g =>
    let jumpHost := strip (g.jumpHost.getD "")
    let target := normalizeHost env d.ipAddress
    let host := normalizeHost env jumpHost
    if getEffectiveConnectionType env (some g) subgroup d.extraParameters ≠ some .jumpHost then none
    else if jumpHost = "" then none
    else if target ≠ "" ∧ target = host then none
    else
      some
        { baseKey := bastionKey host (portOf g)
          label := jumpHost ++ ":" ++ toString (portOf g)
          groupName := strip (if g.name = "" then "Sem grupo" else g.name)
          baseSlots := jumpHostMaxSlots }
  | _, _ => none

/-! ## The number of slots -/

/-- What the settings and Redis say about the slots of a bastion at some moment. -/
structure SlotReadings where
  /-- `JUMP_HOST_SLOTS_OVERRIDES` -/
  overrides : List (String × Int) := []
  adaptiveEnabled : Bool := true
  /-- the adaptive number, if it can be read -/
  dynamic : Option Int := none
  /-- the slots that finish the batch within the window, if there are statistics for it -/
  windowTarget : Option Int := none
  windowMinSlots : Int := 2

/-- `max(1, min(16, slots))` -/
def clampSlots (slots : Int) : Int := max 1 (min 16 slots)

/-- `_resolve_window_target_jump_host_slots` -/
def windowSlots (r : SlotReadings) (currentSlots : Int) : Int :=
  let current := clampSlots currentSlots
  match r.windowTarget with
  | none => current
  | some target =>
    if current ≤ 1 then current
    else
      let minSlots := max 1 (min current r.windowMinSlots)
      max minSlots (min current (clampSlots target))

/-- `_resolve_effective_jump_host_slots` -/
def resolveEffectiveJumpHostSlots (r : SlotReadings) (jumpLabel : String) (baseSlots : Int) : Int :=
  let effective := max 1 baseSlots
  let effective :=
    match r.overrides.lookup jumpLabel with
    | some slots => clampSlots slots
    | none =>
      match r.overrides.lookup "default" with
      | some slots => clampSlots slots
      | none => effective
  if r.adaptiveEnabled then
    windowSlots r (clampSlots ((r.dynamic.map clampSlots).getD effective))
  else clampSlots effective

/-- However the number is adapted, there are one to sixteen slots. -/
theorem slots_bounds (r : SlotReadings) (label : String) (baseSlots : Int) :
    1 ≤ resolveEffectiveJumpHostSlots r label baseSlots ∧
      resolveEffectiveJumpHostSlots r label baseSlots ≤ 16 := by
  have hclamp : ∀ n, 1 ≤ clampSlots n ∧ clampSlots n ≤ 16 := by
    intro n
    unfold clampSlots
    omega
  have hwindow : ∀ n, 1 ≤ windowSlots r n ∧ windowSlots r n ≤ 16 := by
    intro n
    have hn := hclamp n
    unfold windowSlots
    cases r.windowTarget with
    | none => exact hn
    | some target =>
      have htarget := hclamp target
      dsimp only
      split <;> omega
  unfold resolveEffectiveJumpHostSlots
  dsimp only
  split
  · exact hwindow _
  · exact hclamp _

/-! ## Workers -/

/-- How a worker left the context. -/
inductive Leaving where
  | returned
  | bodyRaised
  | cancelled (message : String)
  | timedOut (message : String)
  deriving DecidableEq

/-- Where a worker stands: at the top of the loop, before slot `idx` of a pass that began at
`since`, asleep after it, in the body with a slot, in the body without one, or out. -/
inductive SlotPhase where
  | checking
  | scanning (idx since : Nat)
  | sleeping (wakeAt since : Nat)
  | holding (idx : Nat)
  | unguarded
  | left (how : Leaving)
  deriving DecidableEq

structure SlotWorker where
  baseKey : String := ""
  label : String := ""
  maxSlots : Nat := 0
  waitSeconds : Nat := 0
  /-- `wait_started_at` -/
  startedAt : Nat := 0
  passes : Nat := 0
  phase : SlotPhase
  /-- Redis took a slot for this worker without saying so, or did not release one -/
  leaked : Bool := false
  deriving DecidableEq

structure SlotState where
  now : Nat := 0
  /-- the worker whose token a lock holds -/
  locks : String → Option Nat := fun _ => none
  workers : List SlotWorker := []

/-- How a command to Redis ends: with its answer, or with an exception, before or after the
server executed it. -/
inductive RedisAnswer where
  | answered
  | failed
  | lost
  deriving DecidableEq

/-- What a worker meets in one step: a stop request, Redis, the end of its body. -/
structure Meets where
  stop : Bool := false
  redis : RedisAnswer := .answered
  bodyRaises : Bool := false

/-- A worker that enters, with what it resolves. -/
structure Entrant where
  env : Tenants.Env
  jumpHostMaxSlots : Int := 3
  device : Option Device
  group : Option DeviceGroup
  subgroup : Option DeviceSubgroup := none
  redisUp : Bool := true
  readings : SlotReadings := {}
  /-- `_effective_jump_host_wait_seconds` -/
  waitSeconds : Nat := 600

def Entrant.lock (e : Entrant) : Option LockInfo :=
  resolveJumpHostLock e.env e.jumpHostMaxSlots e.device e.group e.subgroup

inductive SlotEvent where
  | enter (e : Entrant)
  | advance (i : Nat) (meets : Meets)
  | tick (ms : Nat)
  | expire (key : String)

def slotKey (baseKey : String) (idx : Nat) : String := baseKey ++ ":slot:" ++ toString idx

namespace SlotWorker

def cancelled (k : SlotWorker) : SlotWorker :=
  { k with
    phase := .left (.cancelled
      ("Execucao interrompida enquanto aguardava slot do Jump Host " ++ k.label ++ ".")) }

def timedOut (k : SlotWorker) : SlotWorker :=
  { k with
    phase := .left (.timedOut
      ("Timeout aguardando slot do Jump Host " ++ k.label ++ " (limite " ++ toString k.maxSlots ++
        " conexoes simultaneas) apos " ++ toString k.waitSeconds ++ "s.")) }

/-- The body ended. -/
def bodyEnded (k : SlotWorker) (raises : Bool) : SlotWorker :=
  { k with phase := .left (if raises then .bodyRaised else .returned) }

/-- The worker has the slot with this key. -/
def holds (k : SlotWorker) (key : String) : Bool :=
  match k.phase with
  | .holding idx => slotKey k.baseKey idx = key
  | _ => false

end SlotWorker

/-- `_jump_host_lock_context` up to its loop. -/
def Entrant.enters (e : Entrant) (now : Nat) : SlotWorker :=
  match e.lock with
  | none => { phase := .unguarded }
  | some lock =>
    if e.redisUp then
      { baseKey := lock.baseKey
        label := lock.label
        maxSlots := (resolveEffectiveJumpHostSlots e.readings lock.label
          (max 1 lock.baseSlots)).toNat
        waitSeconds := e.waitSeconds
        startedAt := now
        phase := .checking }
    else
      { phase := .left (.timedOut ("Redis indisponivel; nao e seguro executar backup via Jump " ++
          "Host sem controle de concorrencia para " ++ lock.label ++ ".")) }

namespace SlotState

def put (s : SlotState) (i : Nat) (k : SlotWorker) : SlotState :=
  { s with workers := s.workers.set i k }

/-- `slot_lock.acquire(blocking=False)` for slot `idx`; an exception is logged, and the next slot
is tried. -/
def tryAcquire (s : SlotState) (i : Nat) (k : SlotWorker) (idx since : Nat) (redis : RedisAnswer) :
    SlotState :=
  let key := slotKey k.baseKey idx
  let taken := Function.update s.locks key (some i)
  if redis = .failed ∨ (s.locks key).isSome then
    s.put i { k with phase := .scanning (idx + 1) since }
  else if redis = .lost then
    { s.put i { k with phase := .scanning (idx + 1) since, leaked := true } with locks := taken }
  else { s.put i { k with phase := .holding idx } with locks := taken }

/-- The `finally` of a worker that holds slot `idx`; an exception is logged. -/
def release (s : SlotState) (i : Nat) (k : SlotWorker) (idx : Nat) (meets : Meets) : SlotState :=
  let key := slotKey k.baseKey idx
  let k := k.bodyEnded meets.bodyRaises
  if meets.redis = .failed then s.put i { k with leaked := true }
  else if s.locks key = some i then
    { s.put i k with locks := Function.update s.locks key none }
  else s.put i k

/-- The next step of a worker. -/
def advance (s : SlotState) (i : Nat) (k : SlotWorker) (meets : Meets) : Option SlotState :=
  match k.phase with
  | .checking =>
    if meets.stop then some (s.put i k.cancelled)
    else if 1000 * k.waitSeconds ≤ s.now - k.startedAt then some (s.put i k.timedOut)
    else some (s.put i { k with phase := .scanning 0 s.now, passes := k.passes + 1 })
  | .scanning idx since =>
    if idx < k.maxSlots then some (s.tryAcquire i k idx since meets.redis)
    else if meets.stop then some (s.put i k.cancelled)
    else some (s.put i { k with phase := .sleeping (s.now + 1000) since })
  | .sleeping wakeAt _ =>
    if s.now < wakeAt then none
    else if meets.stop then some (s.put i k.cancelled)
    else some (s.put i { k with phase := .checking })
  | .holding idx => some (s.release i k idx meets)
  | .unguarded => some (s.put i (k.bodyEnded meets.bodyRaises))
  | .left _ => none

end SlotState

/-- A step of the workers, of the clock, or of the expiry of a lock that no body relies on. -/
def slotStep (s : SlotState) : SlotEvent → Option SlotState
  | .enter e => some { s with workers := s.workers ++ [e.enters s.now] }
  | .advance i meets => do
    let k ← s.workers[i]?
    s.advance i k meets
  | .tick ms => some { s with now := s.now + ms }
  | .expire key =>
    if s.workers.any (·.holds key) then none
    else some { s with locks := Function.update s.locks key none }

end BackupCenter.JumpHost
