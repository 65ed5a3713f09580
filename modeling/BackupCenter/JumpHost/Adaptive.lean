import BackupCenter.JumpHost.Slots
import BackupCenter.Lib.Double
import BackupCenter.Lib.Regex
import Mathlib.Data.List.DropRight

/-!
# Adaptive slots

`_adapt_jump_host_slots` counts the outcomes of the backups behind a bastion in two streaks and
moves the stored number of its slots up and down. Streaks and cooldown live in keys with a time to
live: between any two commands to Redis some of them may be gone.
-/
namespace BackupCenter.JumpHost

open BackupCenter.Lib

/-! ## Messages -/

/-- `_message_indicates_jump_host_saturation`; a target behind the bastion that does not answer, or
waiting for a slot, is no saturation. -/
def messageIndicatesJumpHostSaturation (tables : CharTables) (message : Option String) : Bool :=
  let text := tables.lower (strip (message.getD ""))
  if text = "" then false
  else if containsAny text
      ["timeout aguardando slot do jump host",
       "aguardando slot do jump host",
       "jump host respondeu mas o dispositivo destino",
       "rede inalcançável (jump_channel)",
       "rede inalcanavel (jump_channel)"] then false
  else
    containsAny text
      ["error reading ssh protocol banner",
       "timeout opening channel",
       "channelexception",
       "no existing session",
       "sessao com jump host encerrada",
       "sessão com jump host encerrada",
       "banner exchange",
       "kex_exchange_identification"]

/-- `_message_indicates_severe_jump_host_saturation` -/
def messageIndicatesSevereJumpHostSaturation (tables : CharTables) (message : Option String) :
    Bool :=
  let text := tables.lower (strip (message.getD ""))
  if text = "" then false
  else
    containsAny text
      ["sessao com jump host encerrada antes do shell ficar disponivel",
       "sessão com jump host encerrada antes do shell ficar disponivel",
       "nao foi possivel abrir shell interativo no jump host",
       "não foi possível abrir shell interativo no jump host",
       "error reading ssh protocol banner",
       "timeout opening channel",
       "kex_exchange_identification",
       "connection reset by peer"]

/-! ## Settings and keys -/

/-- `JUMP_HOST_ADAPTIVE_*` and `JUMP_HOST_SLOTS_OVERRIDES` -/
structure AdaptiveSettings where
  overrides : List (String × Int) := []
  enabled : Bool := true
  failStreak : Nat := 4
  successStreak : Nat := 20
  maxBoost : Nat := 2
  severeFailStreak : Nat := 2
  severeDropToOne : Bool := true
  cooldownSeconds : Nat := 300
  severeCooldownSeconds : Nat := 900

inductive Streak where
  | success
  | fail
  deriving DecidableEq

def Streak.other : Streak → Streak
  | success => fail
  | fail => success

/-- What Redis holds about the slots of one bastion. -/
structure AdaptiveKeys where
  /-- the bastion's field of the hash `backup_center:jump_host_adaptive_slots` -/
  stored : Option Int := none
  streak : Streak → Option Nat := fun _ => none
  cooldown : Bool := false

/-- The keys of a bastion whose time has come. -/
structure Expiring where
  streak : Streak → Bool := fun _ => false
  cooldown : Bool := false

namespace AdaptiveKeys

def expire (k : AdaptiveKeys) (gone : Expiring) : AdaptiveKeys :=
  { k with
    streak := fun s => if gone.streak s then none else k.streak s
    cooldown := k.cooldown && !gone.cooldown }

/-- `INCR` -/
def incr (k : AdaptiveKeys) (s : Streak) : AdaptiveKeys :=
  { k with streak := Function.update k.streak s (some ((k.streak s).getD 0 + 1)) }

/-- `DELETE` -/
def delete (k : AdaptiveKeys) (s : Streak) : AdaptiveKeys :=
  { k with streak := Function.update k.streak s none }

/-- `HSET` -/
def hset (k : AdaptiveKeys) (slots : Int) : AdaptiveKeys := { k with stored := some slots }

/-- `SETEX` of the cooldown -/
def setCooldown (k : AdaptiveKeys) : AdaptiveKeys := { k with cooldown := true }

end AdaptiveKeys

/-! ## The number of slots -/

def slotReadings (S : AdaptiveSettings) (k : AdaptiveKeys) : SlotReadings where
  overrides := S.overrides
  adaptiveEnabled := S.enabled
  dynamic := k.stored

/-- `_resolve_effective_jump_host_slots` without a batch -/
def currentSlots (S : AdaptiveSettings) (k : AdaptiveKeys) (label : String) (base : Int) : Int :=
  resolveEffectiveJumpHostSlots (slotReadings S k) label base

/-- `JUMP_HOST_WINDOW_*` -/
structure WindowSettings where
  enabled : Bool := true
  seconds : Nat := 1800
  minSamples : Int := 3
  minSlots : Int := 2

/-- What Redis and the batch say about the devices and the durations behind a bastion. -/
structure WindowReadings where
  /-- the count of the batch in Redis, if it can be read -/
  deviceCount : Option Int := none
  /-- the count in the meta data of the batch -/
  metaDeviceCount : Option Int := none
  avgSeconds : Option ℚ := none
  samples : Option Int := none

/-- `_bulk_jump_bastion_device_count` -/
def bulkJumpBastionDeviceCount (w : WindowReadings) : Int :=
  max 0 (w.deviceCount.getD (w.metaDeviceCount.getD 0))

/-- The slots that finish the batch within the window, where
`_resolve_window_target_jump_host_slots` has something to compute them from. -/
def windowTarget (W : WindowSettings) (w : WindowReadings) (label : String)
    (bulkTaskId : Option String) : Option Int :=
  let deviceCount := bulkJumpBastionDeviceCount w
  let avgSeconds := w.avgSeconds.getD 0
  if W.enabled = false ∨ bulkTaskId.getD "" = "" ∨ label = "" then none
  else if deviceCount ≤ 0 then none
  else if avgSeconds ≤ 0 ∨ w.samples.getD 0 < W.minSamples then none
  else some ⌈toDouble (toDouble (toDouble deviceCount * avgSeconds) / W.seconds)⌉

/-- `_resolve_effective_jump_host_slots` with a batch -/
def currentSlotsInBatch (S : AdaptiveSettings) (W : WindowSettings) (k : AdaptiveKeys)
    (w : WindowReadings) (label : String) (base : Int) (bulkTaskId : Option String) : Int :=
  resolveEffectiveJumpHostSlots
    { slotReadings S k with
      windowTarget := windowTarget W w label bulkTaskId
      windowMinSlots := W.minSlots }
    label base

/-! ## A call -/

/-- The `lock_info` of a backup; a missing label is the empty one. -/
structure AdaptLock where
  label : String
  baseSlots : Option Int := none
  maxSlots : Option Int := none

/-- `max(1, int(lock_info.get("base_slots") or lock_info.get("max_slots") or 1))` -/
def AdaptLock.base (lock : AdaptLock) : Int :=
  let orElse (value : Option Int) (other : Int) : Int :=
    match value with
    | none => other
    | some n => if n = 0 then other else n
  max 1 (orElse lock.baseSlots (orElse lock.maxSlots 1))

structure AdaptCall where
  lockInfo : Option AdaptLock
  success : Bool
  message : Option String := none
  redisUp : Bool := true
  /-- the keys of the bastion that are gone by the time of each command -/
  expiring : Nat → Expiring := fun _ => {}

/-- The event `jump_host_slots_changed`, with the time to live of the cooldown. -/
structure SlotsChanged where
  jumpHost : String
  direction : String
  previousSlots : Int
  newSlots : Int
  reason : String
  cooldownSeconds : Nat
  deriving DecidableEq

/-- How a call leaves the keys, the streak it counted in, and the event it emitted. -/
structure Adapted where
  keys : AdaptiveKeys
  counted : Option Streak := none
  changed : Option SlotsChanged := none

namespace AdaptCall

def label (c : AdaptCall) : String := strip ((c.lockInfo.map AdaptLock.label).getD "")

def base (c : AdaptCall) : Int := (c.lockInfo.map AdaptLock.base).getD 1

/-- `INCR`, `EXPIRE` and the `DELETE` of the other streak. -/
def count (c : AdaptCall) (k : AdaptiveKeys) (s : Streak) : Nat × AdaptiveKeys :=
  let k := (k.expire (c.expiring 2)).incr s
  ((k.streak s).getD 0, ((k.expire (c.expiring 3)).expire (c.expiring 4)).delete s.other)

/-- `HSET`, `SETEX` of the cooldown and the `DELETE` of the streak. -/
def change (c : AdaptCall) (k : AdaptiveKeys) (s : Streak) (nextSlots : Int) : AdaptiveKeys :=
  (((((k.expire (c.expiring 5)).hset nextSlots).expire (c.expiring 6)).setCooldown).expire
    (c.expiring 7)).delete s

/-- The keys when the cooldown is read. -/
def atCooldown (c : AdaptCall) (k : AdaptiveKeys) : AdaptiveKeys :=
  (k.expire (c.expiring 0)).expire (c.expiring 1)

end AdaptCall

/-- The branch of `_adapt_jump_host_slots` for a success. -/
def adaptSuccess (S : AdaptiveSettings) (c : AdaptCall) (k : AdaptiveKeys) (current : Int) :
    Adapted :=
  let allowedMaxSlots := clampSlots (c.base + S.maxBoost)
  let (streak, k) := c.count k .success
  if S.successStreak ≤ streak ∧ current < allowedMaxSlots then
    let nextSlots := min allowedMaxSlots (current + 1)
    { keys := c.change k .success nextSlots
      counted := some .success
      changed := some
        { jumpHost := c.label
          direction := "up"
          previousSlots := current
          newSlots := nextSlots
          reason := "success_streak"
          cooldownSeconds := S.cooldownSeconds } }
  else { keys := k, counted := some .success }

/-- The branch of `_adapt_jump_host_slots` for a saturation failure. -/
def adaptFailure (tables : CharTables) (S : AdaptiveSettings) (c : AdaptCall) (k : AdaptiveKeys)
    (current : Int) : Adapted :=
  let (streak, k) := c.count k .fail
  let severe := messageIndicatesSevereJumpHostSaturation tables c.message ∧
    S.severeFailStreak ≤ streak
  if 1 < current ∧ (S.failStreak ≤ streak ∨ severe) then
    let nextSlots :=
      if severe then if S.severeDropToOne then 1 else max 1 (current - 2)
      else max 1 (current - 1)
    { keys := c.change k .fail nextSlots
      counted := some .fail
      changed := some
        { jumpHost := c.label
          direction := "down"
          previousSlots := current
          newSlots := nextSlots
          reason := if severe then "severe_saturation_streak" else "saturation_streak"
          cooldownSeconds := if severe then S.severeCooldownSeconds else S.cooldownSeconds } }
  else { keys := k, counted := some .fail }

/-- `_adapt_jump_host_slots` -/
def adaptJumpHostSlots (tables : CharTables) (S : AdaptiveSettings) (c : AdaptCall)
    (k : AdaptiveKeys) : Adapted :=
  if S.enabled = false ∨ c.label = "" ∨ c.redisUp = false then { keys := k }
  else
    let current := currentSlots S (k.expire (c.expiring 0)) c.label c.base
    let k := c.atCooldown k
    if k.cooldown then { keys := k }
    else if c.success then adaptSuccess S c k current
    else if messageIndicatesJumpHostSaturation tables c.message then
      adaptFailure tables S c k current
    else { keys := k }

/-! ## Runs -/

/-- What happens to a bastion: an outcome is counted, or the stored number changes. -/
inductive Happening where
  | counted (s : Streak)
  | changed
  deriving DecidableEq

inductive AdaptEvent where
  | call (c : AdaptCall)
  | expire (label : String) (gone : Expiring)

structure AdaptiveState where
  keys : String → AdaptiveKeys := fun _ => {}
  /-- ghost: what has happened to each bastion -/
  ledger : String → List Happening := fun _ => []

def Adapted.happenings (r : Adapted) (before : AdaptiveKeys) : List Happening :=
  (r.counted.map .counted).toList ++ if r.keys.stored = before.stored then [] else [.changed]

def adaptiveStep (tables : CharTables) (S : AdaptiveSettings) (s : AdaptiveState) :
    AdaptEvent → AdaptiveState
  | .call c =>
    let before := s.keys c.label
    let r := adaptJumpHostSlots tables S c before
    { keys := Function.update s.keys c.label r.keys
      ledger := Function.update s.ledger c.label (s.ledger c.label ++ r.happenings before) }
  | .expire label gone =>
    { s with keys := Function.update s.keys label ((s.keys label).expire gone) }

def adaptiveRun (tables : CharTables) (S : AdaptiveSettings) (events : List AdaptEvent) :
    AdaptiveState :=
  events.foldl (adaptiveStep tables S) {}

/-- The outcomes of this kind counted since anything else happened. -/
def trailing (s : Streak) (ledger : List Happening) : Nat :=
  (ledger.rtakeWhile (· = .counted s)).length

/-! ## The rules of a change -/

structure Rises (S : AdaptiveSettings) (c : AdaptCall) (ledger : List Happening)
    (current next : Int) : Prop where
  succeeded : c.success = true
  by_one : next = current + 1
  within_boost : next ≤ c.base + S.maxBoost
  streak : S.successStreak ≤ trailing .success (ledger ++ [.counted .success])

structure Falls (tables : CharTables) (S : AdaptiveSettings) (c : AdaptCall)
    (ledger : List Happening) (current next : Int) : Prop where
  failed : c.success = false
  saturated : messageIndicatesJumpHostSaturation tables c.message = true
  below : next < current
  streak : min S.failStreak S.severeFailStreak ≤ trailing .fail (ledger ++ [.counted .fail])

/-- A call changes the stored number by the rules: without a cooldown when it looks for one, leaving
one behind that is there until it expires, up or down from the number in force. -/
structure ChangesLawfully (tables : CharTables) (S : AdaptiveSettings) (c : AdaptCall)
    (before : AdaptiveKeys) (r : Adapted) (ledger : List Happening) (next : Int) : Prop where
  stores : r.keys.stored = some next
  no_cooldown : (c.atCooldown before).cooldown = false
  sets_cooldown : r.keys.cooldown = true ∨ (c.expiring 7).cooldown = true
  moves :
    r.counted = some .success ∧ Rises S c ledger (currentSlots S before c.label c.base) next ∨
      r.counted = some .fail ∧
        Falls tables S c ledger (currentSlots S before c.label c.base) next

/-! ## One call -/

section Call

variable {tables : CharTables} {S : AdaptiveSettings} {c : AdaptCall} {k : AdaptiveKeys}
  {ledger : List Happening} {s : Streak} {gone : Expiring} {next : Int}

theorem one_le_base (c : AdaptCall) : 1 ≤ c.base := by
  unfold AdaptCall.base
  cases c.lockInfo with
  | none => exact le_rfl
  | some lock => exact le_max_left ..

theorem clampSlots_bounds (n : Int) : 1 ≤ clampSlots n ∧ clampSlots n ≤ 16 := by
  unfold clampSlots
  omega

@[simp] theorem expire_stored : (k.expire gone).stored = k.stored := rfl

@[simp] theorem count_stored : (c.count k s).2.stored = k.stored := rfl

@[simp] theorem change_stored : (c.change k s next).stored = some next := rfl

theorem change_cooldown :
    (c.change k s next).cooldown = true ∨ (c.expiring 7).cooldown = true := by
  cases hgone : (c.expiring 7).cooldown with
  | true => exact .inr rfl
  | false =>
    left
    show (true && !(c.expiring 7).cooldown) = true
    rw [hgone]
    rfl

/-- What decides a change in the branch of the streak `s`. -/
def Decides (tables : CharTables) (S : AdaptiveSettings) (c : AdaptCall) (k : AdaptiveKeys)
    (current : Int) : Streak → Int → Prop
  | .success, next =>
    c.success = true ∧ next = current + 1 ∧ next ≤ clampSlots (c.base + S.maxBoost) ∧
      S.successStreak ≤ (c.count (c.atCooldown k) .success).1
  | .fail, next =>
    c.success = false ∧ messageIndicatesJumpHostSaturation tables c.message = true ∧ 1 ≤ next ∧
      next < current ∧
      min S.failStreak S.severeFailStreak ≤ (c.count (c.atCooldown k) .fail).1

/-- Everything a call can do. -/
theorem adapt_cases (tables : CharTables) (S : AdaptiveSettings) (c : AdaptCall)
    (k : AdaptiveKeys) :
    let r := adaptJumpHostSlots tables S c k
    (r.counted = none ∧ (r.keys = k ∨ r.keys = c.atCooldown k)) ∨
      ∃ s, (c.atCooldown k).cooldown = false ∧ r.counted = some s ∧
        (r.keys = (c.count (c.atCooldown k) s).2 ∨
          ∃ next, Decides tables S c k (currentSlots S k c.label c.base) s next ∧
            r.keys = c.change (c.count (c.atCooldown k) s).2 s next) := by
  have hcurrent : currentSlots S (k.expire (c.expiring 0)) c.label c.base =
      currentSlots S k c.label c.base := rfl
  have hbounds := slots_bounds (slotReadings S k) c.label c.base
  dsimp only
  unfold adaptJumpHostSlots
  dsimp only
  rw [hcurrent]
  generalize hcur : currentSlots S k c.label c.base = current
  rw [← currentSlots, hcur] at hbounds
  split
  · exact .inl ⟨rfl, .inl rfl⟩
  split
  · exact .inl ⟨rfl, .inr rfl⟩
  rename_i hcooldown
  rw [Bool.not_eq_true] at hcooldown
  split
  · next hsuccess =>
    refine .inr ⟨.success, hcooldown, ?_⟩
    unfold adaptSuccess
    dsimp only
    split
    · next hrise =>
      refine ⟨rfl, .inr ⟨current + 1, ⟨hsuccess, rfl, by omega, hrise.1⟩, ?_⟩⟩
      have hnext : min (clampSlots (c.base + S.maxBoost)) (current + 1) = current + 1 := by omega
      rw [hnext]
    · exact ⟨rfl, .inl rfl⟩
  · next hfail =>
    rw [Bool.not_eq_true] at hfail
    split
    · next hsaturated =>
      refine .inr ⟨.fail, hcooldown, ?_⟩
      unfold adaptFailure
      dsimp only
      split
      · next hfall =>
        refine ⟨rfl, .inr ⟨_, ⟨hfail, hsaturated, ?_, ?_, ?_⟩, rfl⟩⟩
        · split_ifs <;> omega
        · split_ifs <;> omega
        · obtain ⟨-, hregular | hsevere⟩ := hfall
          · exact (Nat.min_le_left ..).trans hregular
          · exact (Nat.min_le_right ..).trans hsevere.2
      · exact ⟨rfl, .inl rfl⟩
    · exact .inl ⟨rfl, .inr rfl⟩

/-! ## The invariant -/

@[simp] theorem trailing_counted (s : Streak) (ledger : List Happening) :
    trailing s (ledger ++ [.counted s]) = trailing s ledger + 1 := by
  unfold trailing
  rw [List.rtakeWhile_concat_pos _ _ _ (by simp), List.length_append, List.length_singleton]

/-- The stored number is within the bounds, and no streak counts more than the ledger shows. -/
structure AdaptiveKeys.Sound (k : AdaptiveKeys) (ledger : List Happening) : Prop where
  stored_bounds : ∀ n, k.stored = some n → 1 ≤ n ∧ n ≤ 16
  streak_le : ∀ s n, k.streak s = some n → n ≤ trailing s ledger

theorem sound_empty : ({} : AdaptiveKeys).Sound [] := ⟨nofun, nofun⟩

theorem AdaptiveKeys.Sound.expire (h : k.Sound ledger) (gone : Expiring) :
    (k.expire gone).Sound ledger := by
  constructor
  · exact h.stored_bounds
  · intro s n hn
    replace hn : (if gone.streak s then none else k.streak s) = some n := hn
    split at hn
    · cases hn
    · exact h.streak_le s n hn

theorem count_streak_of_some {s' : Streak} {n : Nat} (h : (c.count k s).2.streak s' = some n) :
    s' = s ∧ n = (c.count k s).1 := by
  cases s <;> cases s' <;> simp_all [AdaptCall.count, AdaptiveKeys.delete, AdaptiveKeys.expire,
    AdaptiveKeys.incr, Streak.other]

/-- Counting counts one outcome of the ledger more. -/
theorem count_le (h : k.Sound ledger) (s : Streak) :
    (c.count k s).1 ≤ trailing s (ledger ++ [.counted s]) := by
  have hk := h.expire (c.expiring 2)
  have hvalue : (c.count k s).1 = ((k.expire (c.expiring 2)).streak s).getD 0 + 1 := by
    simp [AdaptCall.count, AdaptiveKeys.incr]
  rw [hvalue, trailing_counted]
  cases hs : (k.expire (c.expiring 2)).streak s with
  | none => simp
  | some n =>
    have := hk.streak_le s n hs
    simp only [Option.getD_some]
    omega

theorem AdaptiveKeys.Sound.count (h : k.Sound ledger) (s : Streak) :
    (c.count k s).2.Sound (ledger ++ [.counted s]) := by
  constructor
  · exact h.stored_bounds
  · intro s' n hn
    obtain ⟨rfl, rfl⟩ := count_streak_of_some hn
    exact count_le h s'

/-- A change leaves no streak. -/
theorem change_streak (s' : Streak) : (c.change (c.count k s).2 s next).streak s' = none := by
  cases s <;> cases s' <;> simp [AdaptCall.change, AdaptCall.count, AdaptiveKeys.delete,
    AdaptiveKeys.expire, AdaptiveKeys.hset, AdaptiveKeys.setCooldown, Streak.other]

theorem sound_change (h : 1 ≤ next ∧ next ≤ 16) :
    (c.change (c.count k s).2 s next).Sound ledger := by
  constructor
  · intro n hn
    rw [change_stored, Option.some.injEq] at hn
    rwa [← hn]
  · intro s' n hn
    rw [change_streak] at hn
    cases hn

theorem Decides.bounds {current : Int} (h : Decides tables S c k current s next)
    (hcurrent : 1 ≤ current ∧ current ≤ 16) : 1 ≤ next ∧ next ≤ 16 := by
  cases s with
  | success =>
    have hbound := (clampSlots_bounds (c.base + S.maxBoost)).2
    obtain ⟨-, hnext, hmax, -⟩ := h
    omega
  | fail =>
    obtain ⟨-, -, hlow, hbelow, -⟩ := h
    omega

theorem sound_adapt (h : k.Sound ledger) :
    (adaptJumpHostSlots tables S c k).keys.Sound
      (ledger ++ (adaptJumpHostSlots tables S c k).happenings k) := by
  have hat : (c.atCooldown k).Sound ledger := (h.expire _).expire _
  have hstored : (c.atCooldown k).stored = k.stored := rfl
  unfold Adapted.happenings
  obtain ⟨hcounted, hkeys | hkeys⟩ | ⟨s, -, hcounted, hkeys | ⟨next, hdecides, hkeys⟩⟩ :=
    adapt_cases tables S c k
  · rw [hcounted, hkeys, if_pos rfl]
    simpa using h
  · rw [hcounted, hkeys, hstored, if_pos rfl]
    simpa using hat
  · rw [hcounted, hkeys, count_stored, hstored, if_pos rfl]
    simpa using hat.count s
  · rw [hkeys]
    exact sound_change (hdecides.bounds (slots_bounds ..))

/-- A call that changes the stored number does so by the rules. -/
theorem adapt_changesLawfully (h : k.Sound ledger)
    (hchanged : (adaptJumpHostSlots tables S c k).keys.stored ≠ k.stored) :
    ∃ next, ChangesLawfully tables S c k (adaptJumpHostSlots tables S c k) ledger next := by
  have hat : (c.atCooldown k).Sound ledger := (h.expire _).expire _
  obtain ⟨-, hkeys | hkeys⟩ | ⟨s, hcooldown, hcounted, hkeys | ⟨next, hdecides, hkeys⟩⟩ :=
    adapt_cases tables S c k
  · exact absurd (by rw [hkeys]) hchanged
  · exact absurd (by rw [hkeys]; rfl) hchanged
  · exact absurd (by rw [hkeys]; rfl) hchanged
  · refine ⟨next, by rw [hkeys, change_stored], hcooldown, by rw [hkeys]; exact change_cooldown,
      ?_⟩
    have hcount := count_le (c := c) hat s
    cases s with
    | success =>
      obtain ⟨hsuccess, hnext, hmax, hstreak⟩ := hdecides
      refine .inl ⟨hcounted, hsuccess, hnext, ?_, hstreak.trans hcount⟩
      have hbase := one_le_base c
      unfold clampSlots at hmax
      omega
    | fail =>
      obtain ⟨hfail, hsaturated, -, hbelow, hstreak⟩ := hdecides
      exact .inr ⟨hcounted, hfail, hsaturated, hbelow, hstreak.trans hcount⟩

end Call

/-! ## Every run -/

section Run

variable {tables : CharTables} {S : AdaptiveSettings}

def AdaptiveState.Sound (s : AdaptiveState) : Prop :=
  ∀ label, (s.keys label).Sound (s.ledger label)

theorem adaptiveStep_call_self {s : AdaptiveState} {c : AdaptCall} :
    (adaptiveStep tables S s (.call c)).keys c.label =
        (adaptJumpHostSlots tables S c (s.keys c.label)).keys ∧
      (adaptiveStep tables S s (.call c)).ledger c.label = s.ledger c.label ++
        (adaptJumpHostSlots tables S c (s.keys c.label)).happenings (s.keys c.label) := by
  unfold adaptiveStep
  dsimp only
  rw [Function.update_self, Function.update_self]
  exact ⟨rfl, rfl⟩

theorem adaptiveStep_call_ne {s : AdaptiveState} {c : AdaptCall} {label : String}
    (h : label ≠ c.label) :
    (adaptiveStep tables S s (.call c)).keys label = s.keys label ∧
      (adaptiveStep tables S s (.call c)).ledger label = s.ledger label := by
  unfold adaptiveStep
  dsimp only
  rw [Function.update_of_ne h, Function.update_of_ne h]
  exact ⟨rfl, rfl⟩

theorem adaptiveStep_expire {s : AdaptiveState} {other label : String} {gone : Expiring} :
    (adaptiveStep tables S s (.expire other gone)).keys label =
      if label = other then (s.keys other).expire gone else s.keys label := by
  unfold adaptiveStep
  exact Function.update_apply ..

theorem sound_adaptiveStep {s : AdaptiveState} (h : s.Sound) (e : AdaptEvent) :
    (adaptiveStep tables S s e).Sound := by
  intro label
  cases e with
  | call c =>
    by_cases hlabel : label = c.label
    · rw [hlabel, adaptiveStep_call_self.1, adaptiveStep_call_self.2]
      exact sound_adapt (h c.label)
    · rw [(adaptiveStep_call_ne hlabel).1, (adaptiveStep_call_ne hlabel).2]
      exact h label
  | expire other gone =>
    rw [adaptiveStep_expire]
    split
    · next hlabel =>
      rw [hlabel]
      exact (h other).expire gone
    · exact h label

theorem sound_adaptiveRun (tables : CharTables) (S : AdaptiveSettings)
    (events : List AdaptEvent) : (adaptiveRun tables S events).Sound := by
  induction events using List.reverseRecOn with
  | nil => exact fun _ => sound_empty
  | append_singleton events e ih =>
    unfold adaptiveRun
    rw [List.foldl_append, List.foldl_cons, List.foldl_nil]
    exact sound_adaptiveStep ih e

/-- Only a call about the bastion changes its number. -/
theorem adaptiveStep_changes {s : AdaptiveState} {e : AdaptEvent} {label : String}
    (h : ((adaptiveStep tables S s e).keys label).stored ≠ (s.keys label).stored) :
    ∃ c, e = .call c ∧ c.label = label := by
  cases e with
  | call c =>
    refine ⟨c, rfl, ?_⟩
    by_contra hlabel
    rw [(adaptiveStep_call_ne (Ne.symm hlabel)).1] at h
    exact h rfl
  | expire other gone =>
    rw [adaptiveStep_expire] at h
    split at h
    · next hlabel =>
      rw [hlabel] at h
      exact absurd rfl h
    · exact absurd rfl h

/-- Within a batch a bastion has at least one slot and at most as many as without. -/
theorem currentSlotsInBatch_bounds (S : AdaptiveSettings) (W : WindowSettings) (k : AdaptiveKeys)
    (w : WindowReadings) (label : String) (base : Int) (bulkTaskId : Option String) :
    1 ≤ currentSlotsInBatch S W k w label base bulkTaskId ∧
      currentSlotsInBatch S W k w label base bulkTaskId ≤ currentSlots S k label base := by
  refine ⟨(slots_bounds ..).1, ?_⟩
  unfold currentSlotsInBatch currentSlots resolveEffectiveJumpHostSlots windowSlots slotReadings
  dsimp only
  split
  · generalize clampSlots (Option.getD _ _) = current
    have hcurrent := clampSlots_bounds current
    cases windowTarget W w label bulkTaskId with
    | none => exact le_rfl
    | some target =>
      dsimp only
      split <;> omega
  · exact le_rfl

/-- At every moment of every run the stored number of a bastion is from one to sixteen, the next
call changes it by the rules and nothing else does, and a batch only lowers it. -/
theorem adaptive_slots_invariant (tables : CharTables) (S : AdaptiveSettings)
    (events : List AdaptEvent) (label : String) :
    let s := adaptiveRun tables S events
    (∀ n, (s.keys label).stored = some n → 1 ≤ n ∧ n ≤ 16) ∧
    (∀ e, ((adaptiveStep tables S s e).keys label).stored ≠ (s.keys label).stored →
      ∃ c next, e = .call c ∧ c.label = label ∧
        (adaptiveStep tables S s e).keys label =
          (adaptJumpHostSlots tables S c (s.keys label)).keys ∧
        ChangesLawfully tables S c (s.keys label) (adaptJumpHostSlots tables S c (s.keys label))
          (s.ledger label) next) ∧
    ∀ W w base bulkTaskId,
      1 ≤ currentSlotsInBatch S W (s.keys label) w label base bulkTaskId ∧
        currentSlotsInBatch S W (s.keys label) w label base bulkTaskId ≤
          currentSlots S (s.keys label) label base := by
  have hsound := sound_adaptiveRun tables S events
  refine ⟨(hsound label).stored_bounds, fun e hchanged => ?_,
    fun W w base bulkTaskId => currentSlotsInBatch_bounds S W _ w label base bulkTaskId⟩
  obtain ⟨c, rfl, rfl⟩ := adaptiveStep_changes hchanged
  rw [adaptiveStep_call_self.1] at hchanged
  obtain ⟨next, hlaw⟩ := adapt_changesLawfully (hsound c.label) hchanged
  exact ⟨c, next, rfl, rfl, adaptiveStep_call_self.1, hlaw⟩

end Run

end BackupCenter.JumpHost
