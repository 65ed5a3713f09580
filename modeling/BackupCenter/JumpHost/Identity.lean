import BackupCenter.JumpHost.Slots
import Mathlib

/-!
# The identity of a bastion

What is kept about a bastion is kept under names. The keys of its slots are made from the host in
lower case, its adaptive state and the durations under a label with the host as it was entered, the
circuit breaker under the host without even trimming it, and the sizes of a batch are counted under
the host in lower case again.
-/
namespace BackupCenter.JumpHost

open BackupCenter.Lib
open BackupCenter.Tenants (DeviceGroup DeviceSubgroup Device Uuid)

/-! ## Names -/

/-- The names that a bastion's `host:port` takes. -/
def hostPort (host : String) (port : Int) : String := host ++ ":" ++ toString port

theorem colon_not_mem_toString (n : Int) : ':' ∉ (toString n).toList := by
  have hdigits (m : Nat) : ':' ∉ m.repr.toList := by
    intro hmem
    rw [Nat.toList_repr] at hmem
    have hdigit := Nat.isDigit_of_mem_toDigits (by decide) (by decide) hmem
    cases hdigit
  cases n with
  | ofNat m => exact hdigits m
  | negSucc m =>
    show ':' ∉ ("-" ++ (m + 1).repr).toList
    rw [String.toList_append]
    exact fun hmem => (List.mem_append.mp hmem).elim (by decide) (hdigits _)

/-- What stands after the last occurrence of a mark. -/
theorem append_cons_inj_of_last {α : Type} {a : α} {xs ys us vs : List α} (hus : a ∉ us)
    (hvs : a ∉ vs) (h : xs ++ a :: us = ys ++ a :: vs) : xs = ys ∧ us = vs := by
  have hcase {zs us vs : List α} (hus : a ∉ us) (h : a :: us = zs ++ a :: vs) :
      zs = [] ∧ us = vs := by
    cases zs with
    | nil => exact ⟨rfl, (List.cons.inj h).2⟩
    | cons z zs =>
      obtain ⟨-, hrest⟩ := List.cons.inj h
      exact absurd (hrest ▸ List.mem_append_right zs (List.mem_cons_self ..)) hus
  rcases List.append_eq_append_iff.mp h with ⟨zs, rfl, hrest⟩ | ⟨zs, rfl, hrest⟩
  · obtain ⟨rfl, rfl⟩ := hcase hus hrest
    exact ⟨(List.append_nil _).symm, rfl⟩
  · obtain ⟨rfl, rfl⟩ := hcase hvs hrest
    exact ⟨List.append_nil _, rfl⟩

/-- The port begins after the last colon. -/
theorem hostPort_inj {host host' : String} {port port' : Int}
    (h : hostPort host port = hostPort host' port') : host = host' ∧ port = port' := by
  have hlists : host.toList ++ ':' :: (toString port).toList =
      host'.toList ++ ':' :: (toString port').toList := by
    simpa [hostPort, String.toList_append] using congrArg String.toList h
  obtain ⟨hhost, hport⟩ := append_cons_inj_of_last (colon_not_mem_toString port)
    (colon_not_mem_toString port') hlists
  exact ⟨String.toList_inj.mp hhost, Int.repr_injective (String.toList_inj.mp hport)⟩

/-- `_bastion_key_for_group_fields` -/
def bastionKeyForGroup (env : Tenants.Env) (group : DeviceGroup) : String :=
  let host := normalizeHost env (group.jumpHost.getD "")
  if host = "" then "sem-bastion" else hostPort host (portOf group)

/-- `cb_jump_label` of both tasks that run a backup -/
def breakerLabel (group : DeviceGroup) : String :=
  hostPort (group.jumpHost.getD "") (portOf group)

def breakerKeys (group : DeviceGroup) : List String :=
  ["backup_center:cb:open:" ++ breakerLabel group,
    "backup_center:cb:outcomes:" ++ breakerLabel group]

/-- The field of the adaptive slots, and the keys of the streaks and of the cooldown. -/
def adaptiveKeys (lock : LockInfo) : List String :=
  let label := strip lock.label
  [lock.label, label, "backup_center:jump_host_adaptive:fail:" ++ label,
    "backup_center:jump_host_adaptive:success:" ++ label,
    "backup_center:jump_host_adaptive:cooldown:" ++ label]

/-! ## The sizes of a batch -/

/-- An item of `jump_groups_payload`. -/
structure JumpGroup where
  groupId : String
  deviceIds : List Uuid

/-- A batch as `enqueue_jump_and_vpn_after_direct_phase_task` sees it: its payload, and the groups
of the devices that the query finds. -/
structure JumpBatch where
  payload : List JumpGroup
  rows : Uuid → Option (Option DeviceGroup)

namespace JumpBatch

variable (env : Tenants.Env) (b : JumpBatch)

/-- The devices of `jump_entries`, each once. -/
def entries : List Uuid :=
  ((b.payload.filter fun item => item.groupId ≠ "").flatMap (·.deviceIds)).dedup

/-- `device_bastion_by_id.get(device_id, "sem-bastion")` -/
def bastionOf (id : Uuid) : String :=
  match b.rows id with
  | some (some group) => bastionKeyForGroup env group
  | _ => "sem-bastion"

/-- `jump_bastion_counts` -/
def counts (label : String) : Option Nat :=
  let labels := b.entries.map (b.bastionOf env)
  if label ∈ labels then some (labels.count label) else none

/-- What `_store_bulk_jump_bastion_counts` writes. -/
def stored (label : String) : Option Nat :=
  if strip label = "" then none else b.counts env label

/-- `_bulk_jump_bastion_device_count`: from Redis, or else from the meta of the batch. -/
def bastionDeviceCount (jumpLabel : String) : Nat :=
  if jumpLabel = "" then 0
  else
    match b.stored env jumpLabel with
    | some n => n
    | none => (b.counts env jumpLabel).getD 0

theorem bastionDeviceCount_eq {label : String} (h : label ≠ "") :
    b.bastionDeviceCount env label = (b.entries.map (b.bastionOf env)).count label := by
  have hcounts : (b.counts env label).getD 0 = (b.entries.map (b.bastionOf env)).count label := by
    unfold counts
    dsimp only
    split
    · rfl
    next hnot => exact (List.count_eq_zero.mpr hnot).symm
  rw [bastionDeviceCount, if_neg h]
  unfold stored
  split
  next n hn =>
    split at hn
    · cases hn
    · rw [← hcounts, hn]
      rfl
  · exact hcounts

end JumpBatch

/-! ## What two devices share -/

/-- What the settings and Redis say about every bastion, by its label. -/
structure BastionState where
  overrides : List (String × Int) := []
  adaptiveEnabled : Bool := true
  /-- `backup_center:jump_host_adaptive_slots` -/
  dynamic : String → Option Int
  /-- the slots for the window, from the durations under the label and the size of the batch -/
  windowTarget : String → Nat → Option Int
  windowMinSlots : Int := 2

def BastionState.readings (s : BastionState) (label : String) (deviceCount : Nat) :
    SlotReadings where
  overrides := s.overrides
  adaptiveEnabled := s.adaptiveEnabled
  dynamic := s.dynamic label
  windowTarget := if deviceCount = 0 then none else s.windowTarget label deviceCount
  windowMinSlots := s.windowMinSlots

/-- A device with the lock of its bastion. -/
structure JumpDevice (env : Tenants.Env) (jumpHostMaxSlots : Int) where
  device : Device
  group : DeviceGroup
  subgroup : Option DeviceSubgroup := none
  lock : LockInfo
  resolved :
    resolveJumpHostLock env jumpHostMaxSlots (some device) (some group) subgroup = some lock

namespace JumpDevice

variable {env : Tenants.Env} {jumpHostMaxSlots : Int}

/-- The jump host as it was entered, without the white space around it. -/
def host (d : JumpDevice env jumpHostMaxSlots) : String := strip (d.group.jumpHost.getD "")

def slotLimit (d : JumpDevice env jumpHostMaxSlots) (s : BastionState) (b : JumpBatch) : Int :=
  resolveEffectiveJumpHostSlots (s.readings d.lock.label (b.bastionDeviceCount env d.lock.label))
    d.lock.label (max 1 d.lock.baseSlots)

/-- The groups of both devices have the same bastion. -/
def SameBastion (d d' : JumpDevice env jumpHostMaxSlots) : Prop :=
  normalizeHost env d.host = normalizeHost env d'.host ∧ portOf d.group = portOf d'.group

/-- A jump device of the batch that is on the bastion of `d`. -/
def OnBastion (d : JumpDevice env jumpHostMaxSlots) (b : JumpBatch) (id : Uuid) : Prop :=
  ∃ group, b.rows id = some (some group) ∧
    normalizeHost env (group.jumpHost.getD "") = normalizeHost env d.host ∧
    portOf group = portOf d.group

/-- The devices of both are limited together. -/
structure OneIdentity (d d' : JumpDevice env jumpHostMaxSlots) : Prop where
  lockKeys : ∀ idx, slotKey d.lock.baseKey idx = slotKey d'.lock.baseKey idx
  slotLimits : ∀ s b, d.slotLimit s b = d'.slotLimit s b
  adaptive : adaptiveKeys d.lock = adaptiveKeys d'.lock
  breaker : breakerKeys d.group = breakerKeys d'.group
  counts : ∀ b : JumpBatch,
    b.bastionDeviceCount env d.lock.label = b.bastionDeviceCount env d'.lock.label

open Classical in
/-- In every batch with the device, the label gives the number of devices on the bastion. -/
def Counted (d : JumpDevice env jumpHostMaxSlots) : Prop :=
  ∀ b : JumpBatch, d.device.id ∈ b.entries → b.rows d.device.id = some (some d.group) →
    b.bastionDeviceCount env d.lock.label = (b.entries.filter (d.OnBastion b ·)).length

variable {d d' : JumpDevice env jumpHostMaxSlots}

theorem resolved_lock (d : JumpDevice env jumpHostMaxSlots) : d.host ≠ "" ∧
    d.lock.baseKey = bastionKey (normalizeHost env d.host) (portOf d.group) ∧
    d.lock.label = hostPort d.host (portOf d.group) ∧ d.lock.baseSlots = jumpHostMaxSlots := by
  have h := d.resolved
  simp only [resolveJumpHostLock] at h
  split at h
  · cases h
  split at h
  · cases h
  next hhost =>
  split at h
  · cases h
  · have hlock := Option.some.inj h
    exact ⟨hhost, by rw [← hlock]; rfl, by rw [← hlock]; rfl, by rw [← hlock]⟩

theorem label_ne_empty : d.lock.label ≠ "" := by
  obtain ⟨hhost, -, hlabel, -⟩ := resolved_lock d
  rw [hlabel]
  intro h
  have hnil : d.host.toList = [] := by
    have := congrArg String.toList h
    simp [hostPort] at this
  exact hhost (String.toList_eq_nil_iff.mp hnil)

theorem normalizeHost_host : normalizeHost env d.host = env.lower d.host := by
  rw [normalizeHost, host, strip_strip]

/-- A label has a colon. -/
theorem hostPort_ne_sem {host : String} {port : Int} : hostPort host port ≠ "sem-bastion" := by
  intro h
  have hmem : ':' ∈ (hostPort host port).toList := by simp [hostPort]
  rw [h] at hmem
  exact absurd hmem (by decide)

/-- The key under which a device is counted. -/
theorem bastionOf_eq {b : JumpBatch} {id : Uuid} {h : String} {port : Int} (hne : h ≠ "") :
    b.bastionOf env id = hostPort h port ↔ ∃ group, b.rows id = some (some group) ∧
      normalizeHost env (group.jumpHost.getD "") = h ∧ portOf group = port := by
  unfold JumpBatch.bastionOf
  split
  next group hrow =>
    unfold bastionKeyForGroup
    dsimp only
    split
    next hempty =>
      refine ⟨fun h => absurd h.symm hostPort_ne_sem, ?_⟩
      rintro ⟨group', hrow', hhost, -⟩
      rw [hrow] at hrow'
      cases hrow'
      exact absurd (hhost.symm.trans hempty) hne
    · constructor
      · intro h
        obtain ⟨hhost, hport⟩ := hostPort_inj h
        exact ⟨group, hrow, hhost, hport⟩
      · rintro ⟨group', hrow', rfl, rfl⟩
        rw [hrow] at hrow'
        cases hrow'
        rfl
  next hnone =>
    refine ⟨fun h => absurd h.symm hostPort_ne_sem, ?_⟩
    rintro ⟨group', hrow', -⟩
    exact absurd hrow' (hnone group')

theorem counted_of_lower (h : env.lower d.host = d.host) : Counted d := by
  classical
  intro b _ _
  obtain ⟨hhost, -, hlabel, -⟩ := resolved_lock d
  rw [JumpBatch.bastionDeviceCount_eq env b label_ne_empty, List.count_eq_countP,
    List.countP_map, ← List.countP_eq_length_filter]
  refine List.countP_congr fun id _ => ?_
  rw [hlabel]
  simp only [Function.comp_apply, beq_iff_eq, decide_eq_true_eq]
  rw [bastionOf_eq hhost, OnBastion, normalizeHost_host, h]

/-- A batch of the device alone. -/
def alone (d : JumpDevice env jumpHostMaxSlots) : JumpBatch where
  payload := [⟨"group", [d.device.id]⟩]
  rows := fun _ => some (some d.group)

theorem lower_of_counted (hlower : ∀ s, env.lower (env.lower s) = env.lower s) (h : Counted d) :
    env.lower d.host = d.host := by
  classical
  obtain ⟨hhost, -, hlabel, -⟩ := resolved_lock d
  have hmem : d.device.id ∈ d.alone.entries := by simp [JumpBatch.entries, alone]
  have hcount := h d.alone hmem rfl
  rw [JumpBatch.bastionDeviceCount_eq env _ label_ne_empty] at hcount
  have hon : d.OnBastion d.alone d.device.id := by
    refine ⟨d.group, rfl, ?_, rfl⟩
    rw [normalizeHost, normalizeHost, host, strip_strip]
  have hpos : 0 < (d.alone.entries.filter (d.OnBastion d.alone ·)).length :=
    List.length_pos_of_mem (List.mem_filter.mpr ⟨hmem, decide_eq_true hon⟩)
  rw [← hcount, List.count_pos_iff, List.mem_map] at hpos
  obtain ⟨id, -, hid⟩ := hpos
  rw [hlabel] at hid
  obtain ⟨group, -, hgroup, -⟩ := (bastionOf_eq hhost).mp hid
  rw [← hgroup]
  exact hlower _

theorem oneIdentity_of_eq (hsame : SameBastion d d') (h : d.group.jumpHost = d'.group.jumpHost) :
    OneIdentity d d' := by
  obtain ⟨-, hkey, hlabel, hslots⟩ := resolved_lock d
  obtain ⟨-, hkey', hlabel', hslots'⟩ := resolved_lock d'
  have hhost : d.host = d'.host := by rw [host, host, h]
  have hlabels : d.lock.label = d'.lock.label := by rw [hlabel, hlabel', hhost, hsame.2]
  have hbreaker : breakerLabel d.group = breakerLabel d'.group := by
    rw [breakerLabel, breakerLabel, h, hsame.2]
  exact
    { lockKeys := fun idx => by rw [hkey, hkey', hsame.1, hsame.2]
      slotLimits := fun s b => by rw [slotLimit, slotLimit, hlabels, hslots, hslots']
      adaptive := by rw [adaptiveKeys, adaptiveKeys, hlabels]
      breaker := by rw [breakerKeys, breakerKeys, hbreaker]
      counts := fun b => by rw [hlabels] }

theorem jumpHost_isSome (d : JumpDevice env jumpHostMaxSlots) :
    d.group.jumpHost = some (d.group.jumpHost.getD "") := by
  obtain ⟨hhost, -⟩ := resolved_lock d
  cases hjump : d.group.jumpHost with
  | some host => rfl
  | none => exact absurd (by rw [host, hjump]; decide) hhost

theorem eq_of_breaker (h : breakerKeys d.group = breakerKeys d'.group) :
    d.group.jumpHost = d'.group.jumpHost := by
  have hopen := (List.cons.inj h).1
  have hlabel : breakerLabel d.group = breakerLabel d'.group :=
    (String.append_right_inj _).mp hopen
  rw [jumpHost_isSome d, jumpHost_isSome d', (hostPort_inj hlabel).1]

/-- Two devices of one bastion share everything, and are counted, exactly if the host is entered
for both groups alike and in lower case. -/
theorem oneIdentity_iff (hlower : ∀ s, env.lower (env.lower s) = env.lower s)
    (hsame : SameBastion d d') :
    OneIdentity d d' ∧ Counted d ∧ Counted d' ↔
      d.group.jumpHost = d'.group.jumpHost ∧ env.lower d.host = d.host := by
  constructor
  · rintro ⟨hone, hcounted, -⟩
    exact ⟨eq_of_breaker hone.breaker, lower_of_counted hlower hcounted⟩
  · rintro ⟨heq, hcase⟩
    have hhost : d.host = d'.host := by rw [host, host, heq]
    exact ⟨oneIdentity_of_eq hsame heq, counted_of_lower hcase,
      counted_of_lower (hhost ▸ hcase)⟩

/-! ## Two groups of one bastion -/

theorem lower_lower (s : String) :
    (Tenants.Env.ascii).lower ((Tenants.Env.ascii).lower s) = (Tenants.Env.ascii).lower s :=
  asciiLower_asciiLower s

def branchGroup (id : Uuid) (host : String) : DeviceGroup where
  id := id
  tenantId := 1
  name := "Filial"
  slug := "filial"
  connectionType := some "jump_host"
  jumpHost := some host

def branchDevice (id : Uuid) : Device where
  id := id
  tenantId := 1
  name := "core"
  ipAddress := "192.168.0.1"
  username := "admin"
  passwordEncrypted := "secret"

/-- A device behind a bastion that is entered under a name. -/
def behind (id : Uuid) (host : String) (lock : LockInfo)
    (h : resolveJumpHostLock .ascii 4 (some (branchDevice id)) (some (branchGroup id host)) none =
      some lock) : JumpDevice .ascii 4 where
  device := branchDevice id
  group := branchGroup id host
  lock := lock
  resolved := h

def northDevice : JumpDevice .ascii 4 :=
  behind 1 "bastion"
    { baseKey := "backup_center:jump_host_lock:bastion:22", label := "bastion:22"
      groupName := "Filial", baseSlots := 4 } (by decide +kernel)

def southDevice : JumpDevice .ascii 4 :=
  behind 2 "bastion"
    { baseKey := "backup_center:jump_host_lock:bastion:22", label := "bastion:22"
      groupName := "Filial", baseSlots := 4 } (by decide +kernel)

def capitalDevice : JumpDevice .ascii 4 :=
  behind 2 "Bastion"
    { baseKey := "backup_center:jump_host_lock:bastion:22", label := "Bastion:22"
      groupName := "Filial", baseSlots := 4 } (by decide +kernel)

theorem north_south : OneIdentity northDevice southDevice ∧ Counted northDevice ∧
    Counted southDevice := by
  have hlower : (Tenants.Env.ascii).lower northDevice.host = northDevice.host := by decide +kernel
  have hjump : northDevice.group.jumpHost = southDevice.group.jumpHost := by decide +kernel
  have hsame : SameBastion northDevice southDevice := ⟨by decide +kernel, by decide +kernel⟩
  exact (oneIdentity_iff lower_lower hsame).mpr ⟨hjump, hlower⟩

theorem capital_apart : SameBastion northDevice capitalDevice ∧
    ¬ OneIdentity northDevice capitalDevice ∧ ¬ Counted capitalDevice := by
  have hnorth : normalizeHost .ascii northDevice.host = "bastion" := by decide +kernel
  have hcapital : normalizeHost .ascii capitalDevice.host = "bastion" := by decide +kernel
  have hport : portOf northDevice.group = 22 ∧ portOf capitalDevice.group = 22 := ⟨rfl, rfl⟩
  have hsame : SameBastion northDevice capitalDevice :=
    ⟨hnorth.trans hcapital.symm, hport.1.trans hport.2.symm⟩
  have hjump : northDevice.group.jumpHost ≠ capitalDevice.group.jumpHost := by decide +kernel
  have hlower : (Tenants.Env.ascii).lower capitalDevice.host ≠ capitalDevice.host := by
    decide +kernel
  refine ⟨hsame, fun h => ?_, fun h => ?_⟩
  · exact hjump (eq_of_breaker h.breaker)
  · have hcase : (Tenants.Env.ascii).lower capitalDevice.host = capitalDevice.host :=
      lower_of_counted lower_lower h
    exact hlower hcase

end JumpDevice

end BackupCenter.JumpHost
