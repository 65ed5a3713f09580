import BackupCenter.JumpHost.Slots

/-!
# The slots are a counting semaphore

The lock of a slot names its holder, in every interleaving of workers that may have resolved
different numbers of slots. A worker that waits begins no pass once the wait limit is reached, and
keeps no lock when it leaves unless Redis failed it.
-/
namespace BackupCenter.JumpHost

open BackupCenter.Lib
open BackupCenter.Tenants (DeviceGroup Device)

/-- The slot of a bastion that a worker is in the body with. -/
def SlotWorker.slotOf (base : String) (k : SlotWorker) : Option Nat :=
  match k.phase with
  | .holding idx => if k.baseKey = base then some idx else none
  | _ => none

/-- The slots of the current holders, one entry for each holder. -/
def SlotState.heldSlots (s : SlotState) (base : String) : List Nat :=
  s.workers.filterMap (·.slotOf base)

/-- The largest number of slots that a current holder resolved when it entered. -/
def SlotState.largestSlots (s : SlotState) (base : String) : Nat :=
  largest ((s.workers.filter fun k => (k.slotOf base).isSome).map SlotWorker.maxSlots)

/-- The time at which the pass of a waiting worker began. -/
def SlotWorker.passSince (k : SlotWorker) : Option Nat :=
  match k.phase with
  | .scanning _ since => some since
  | .sleeping _ since => some since
  | _ => none

def SlotWorker.limit (k : SlotWorker) : Nat := k.startedAt + 1000 * k.waitSeconds

structure Semaphore (s : SlotState) : Prop where
  /-- no two holders have one slot -/
  exclusive : ∀ base, (s.heldSlots base).Nodup
  bounded : ∀ base, (s.heldSlots base).length ≤ s.largestSlots base
  sixteen : ∀ base, (s.heldSlots base).length ≤ 16
  /-- a worker that is out has no lock, unless Redis failed it -/
  released : ∀ i k how, s.workers[i]? = some k → k.phase = .left how → k.leaked = false →
    ∀ key, s.locks key ≠ some i
  /-- every pass begins before the limit, and there are at most as many as seconds -/
  timely : ∀ (i : Nat) (k : SlotWorker), s.workers[i]? = some k → k.passes ≤ k.waitSeconds ∧
    ∀ since, k.passSince = some since → since < k.limit
  /-- the check that finds the limit reached is the last one -/
  ends : ∀ i k meets s', s.workers[i]? = some k → k.phase = .checking → k.limit ≤ s.now →
    slotStep s (.advance i meets) = some s' →
    ∃ how, s'.workers[i]? = some { k with phase := .left how }

/-! ## The invariant -/

/-- How long a worker has been waiting, by where it stands. -/
def Timely (now : Nat) (k : SlotWorker) : SlotPhase → Prop
  | .checking => k.startedAt + 1000 * k.passes ≤ now
  | .scanning _ since =>
    since ≤ now ∧ since < k.limit ∧ k.startedAt + 1000 * k.passes ≤ since + 1000
  | .sleeping wakeAt since => since < k.limit ∧ k.startedAt + 1000 * k.passes ≤ wakeAt
  | _ => True

/-- What the locks and the clock say about the worker at index `i`. -/
structure WorkerInv (s : SlotState) (i : Nat) (k : SlotWorker) : Prop where
  owned : ∀ key, s.locks key = some i → k.leaked = true ∨ k.holds key = true
  held : ∀ idx, k.phase = .holding idx →
    s.locks (slotKey k.baseKey idx) = some i ∧ idx < k.maxSlots
  passes : k.passes ≤ k.waitSeconds
  slots : k.maxSlots ≤ 16
  timely : Timely s.now k k.phase

structure SlotInv (s : SlotState) : Prop where
  workers : ∀ i k, s.workers[i]? = some k → WorkerInv s i k
  unused : ∀ i, s.workers[i]? = none → ∀ key, s.locks key ≠ some i

variable {s s' : SlotState} {i : Nat} {k k' : SlotWorker} {meets : Meets}

theorem Timely.mono {now now' : Nat} {phase : SlotPhase} (h : Timely now k phase)
    (hle : now ≤ now') : Timely now' k phase := by
  cases phase with
  | checking => exact Nat.le_trans h hle
  | scanning idx since => exact ⟨Nat.le_trans h.1 hle, h.2⟩
  | sleeping wakeAt since => exact h
  | holding idx => trivial
  | unguarded => trivial
  | left how => trivial

theorem holds_of_holding {idx : Nat} (h : k.phase = .holding idx) :
    k.holds (slotKey k.baseKey idx) = true := by
  rw [SlotWorker.holds, h]
  simp

/-- A worker stays where it is if its own locks stay, as far as it relies on them. -/
theorem WorkerInv.mono (h : WorkerInv s i k) (hnow : s.now ≤ s'.now)
    (hfewer : ∀ key, s'.locks key = some i → s.locks key = some i)
    (hkept : ∀ key, k.holds key = true → s.locks key = some i → s'.locks key = some i) :
    WorkerInv s' i k where
  owned := fun key hkey => h.owned key (hfewer key hkey)
  held := by
    intro idx hidx
    obtain ⟨hlock, hlt⟩ := h.held idx hidx
    exact ⟨hkept _ (holds_of_holding hidx) hlock, hlt⟩
  passes := h.passes
  slots := h.slots
  timely := h.timely.mono hnow

/-- One worker moves; the locks of the others stay. -/
theorem SlotInv.move (hinv : SlotInv s) (hk : s.workers[i]? = some k)
    (hworkers : s'.workers = s.workers.set i k') (hnow : s'.now = s.now)
    (hothers : ∀ j key, j ≠ i → (s'.locks key = some j ↔ s.locks key = some j))
    (hmoved : WorkerInv s' i k') : SlotInv s' where
  workers := by
    intro j x hx
    rw [hworkers] at hx
    rcases getElem?_moved hk hx with ⟨rfl, rfl⟩ | ⟨hji, hx⟩
    · exact hmoved
    · exact (hinv.workers j x hx).mono (Nat.le_of_eq hnow.symm)
        (fun key => (hothers j key hji).mp) (fun key _ => (hothers j key hji).mpr)
  unused := by
    intro j hj key hkey
    rw [hworkers] at hj
    have hnone := getElem?_moved_none hj
    have hji : j ≠ i := by
      rintro rfl
      rw [hk] at hnone
      cases hnone
    exact hinv.unused j hnone key ((hothers j key hji).mp hkey)

/-- A worker without a slot moves on without one. -/
theorem SlotInv.put (hinv : SlotInv s) (hk : s.workers[i]? = some k)
    (hwithout : ∀ key, k.holds key = false) (hleaked : k.leaked = true → k'.leaked = true)
    (hphase : ∀ idx, k'.phase ≠ .holding idx) (hslots : k'.maxSlots = k.maxSlots)
    (hpasses : k'.passes ≤ k'.waitSeconds) (htimely : Timely s.now k' k'.phase) :
    SlotInv (s.put i k') := by
  refine hinv.move hk rfl rfl (fun _ _ _ => Iff.rfl)
    ⟨?_, ?_, hpasses, hslots ▸ (hinv.workers i k hk).slots, htimely⟩
  · intro key hkey
    rcases (hinv.workers i k hk).owned key hkey with hleak | hholds
    · exact .inl (hleaked hleak)
    · exact absurd hholds (by simp [hwithout key])
  · intro idx hidx
    exact absurd hidx (hphase idx)

/-! ## One step -/

theorem holds_eq_false (h : ∀ idx, k.phase ≠ .holding idx) (key : String) :
    k.holds key = false := by
  unfold SlotWorker.holds
  split
  next idx hphase => exact absurd hphase (h idx)
  next => rfl

/-- Trying a slot: the lock was free if it is taken, so that no other worker loses one. -/
theorem SlotInv.tryAcquire (hinv : SlotInv s) (hk : s.workers[i]? = some k) {idx since : Nat}
    (hphase : k.phase = .scanning idx since) (hidx : idx < k.maxSlots) (redis : RedisAnswer) :
    SlotInv (s.tryAcquire i k idx since redis) := by
  have hrun := hinv.workers i k hk
  have hpasses := hrun.passes
  have htimely := hrun.timely
  rw [hphase] at htimely
  have hout : ∀ idx, k.phase ≠ .holding idx := by
    intro n hn
    rw [hphase] at hn
    cases hn
  have hwithout := holds_eq_false hout
  unfold SlotState.tryAcquire
  dsimp only
  split
  next =>
    refine hinv.put hk hwithout id ?_ rfl hpasses htimely
    intro n hn
    cases hn
  next hfree =>
    have hnone : s.locks (slotKey k.baseKey idx) = none := by
      rw [← Option.not_isSome_iff_eq_none]
      exact fun h => hfree (.inr h)
    have hothers : ∀ j key, j ≠ i →
        (Function.update s.locks (slotKey k.baseKey idx) (some i) key = some j ↔
          s.locks key = some j) := by
      intro j key hji
      by_cases hkey : key = slotKey k.baseKey idx
      · subst hkey
        rw [Function.update_self, hnone]
        simp [Ne.symm hji]
      · rw [Function.update_of_ne hkey]
    split
    next =>
      refine hinv.move hk rfl rfl hothers ⟨fun _ _ => .inl rfl, ?_, hpasses, hrun.slots, htimely⟩
      intro n hn
      cases hn
    next =>
      refine hinv.move hk rfl rfl hothers ⟨?_, ?_, hpasses, hrun.slots, trivial⟩
      · intro key hkey
        by_cases hkey' : key = slotKey k.baseKey idx
        · right
          rw [SlotWorker.holds, hkey']
          simp
        · dsimp only at hkey
          rw [Function.update_of_ne hkey'] at hkey
          rcases hrun.owned key hkey with hleak | hholds
          · exact .inl hleak
          · exact absurd hholds (by simp [hwithout key])
      · intro n hn
        obtain rfl := SlotPhase.holding.inj hn
        exact ⟨Function.update_self .., hidx⟩

/-- Releasing a slot: the lock is the worker's own, and it is the only one it has. -/
theorem SlotInv.release (hinv : SlotInv s) (hk : s.workers[i]? = some k) {idx : Nat}
    (hphase : k.phase = .holding idx) (meets : Meets) : SlotInv (s.release i k idx meets) := by
  have hrun := hinv.workers i k hk
  obtain ⟨hlock, _⟩ := hrun.held idx hphase
  have hout : ∀ n, (k.bodyEnded meets.bodyRaises).phase ≠ .holding n := by
    intro n hn
    cases hn
  unfold SlotState.release
  dsimp only
  split
  next =>
    refine hinv.move hk rfl rfl (fun _ _ _ => Iff.rfl)
      ⟨fun _ _ => .inl rfl, ?_, hrun.passes, hrun.slots, trivial⟩
    intro n hn
    exact absurd hn (hout n)
  next =>
    refine hinv.move hk rfl rfl ?_
      ⟨?_, fun n hn => absurd hn (hout n), hrun.passes, hrun.slots, trivial⟩
    · intro j key hji
      by_cases hkey : key = slotKey k.baseKey idx
      · subst hkey
        dsimp only
        rw [Function.update_self, hlock]
        simp [Ne.symm hji]
      · dsimp only
        rw [Function.update_of_ne hkey]
    · intro key hkey
      dsimp only at hkey
      by_cases hkey' : key = slotKey k.baseKey idx
      · subst hkey'
        rw [Function.update_self] at hkey
        cases hkey
      · rw [Function.update_of_ne hkey'] at hkey
        rcases hrun.owned key hkey with hleak | hholds
        · exact .inl hleak
        · rw [SlotWorker.holds, hphase] at hholds
          exact absurd (of_decide_eq_true hholds).symm hkey'

theorem SlotInv.advance (hinv : SlotInv s) (hk : s.workers[i]? = some k)
    (h : s.advance i k meets = some s') : SlotInv s' := by
  have hrun := hinv.workers i k hk
  have hpasses := hrun.passes
  have htimely := hrun.timely
  have hleave : (∀ idx, k.phase ≠ .holding idx) → ∀ how,
      SlotInv (s.put i { k with phase := .left how }) := by
    intro hout how
    refine hinv.put hk (holds_eq_false hout) id ?_ rfl hpasses trivial
    intro n hn
    cases hn
  unfold SlotState.advance at h
  cases hphase : k.phase with
  | checking =>
    rw [hphase] at h htimely
    have hout : ∀ idx, k.phase ≠ .holding idx := by simp [hphase]
    dsimp only at h
    split at h
    · obtain rfl := Option.some.inj h
      exact hleave hout _
    split at h
    · obtain rfl := Option.some.inj h
      exact hleave hout _
    next hbefore =>
      obtain rfl := Option.some.inj h
      have hstarted : k.startedAt + 1000 * k.passes ≤ s.now := htimely
      refine hinv.put hk (holds_eq_false hout) id (by simp) rfl ?_ ⟨Nat.le_refl _, ?_, ?_⟩
      · dsimp only
        omega
      · unfold SlotWorker.limit
        dsimp only
        omega
      · dsimp only
        omega
  | scanning idx since =>
    rw [hphase] at h htimely
    have hout : ∀ idx, k.phase ≠ .holding idx := by simp [hphase]
    dsimp only at h
    split at h
    next hidx =>
      obtain rfl := Option.some.inj h
      exact hinv.tryAcquire hk hphase hidx meets.redis
    split at h
    · obtain rfl := Option.some.inj h
      exact hleave hout _
    · obtain rfl := Option.some.inj h
      obtain ⟨hsince, hlimit, hstarted⟩ := htimely
      refine hinv.put hk (holds_eq_false hout) id (by simp) rfl hpasses ⟨hlimit, ?_⟩
      dsimp only
      omega
  | sleeping wakeAt since =>
    rw [hphase] at h htimely
    have hout : ∀ idx, k.phase ≠ .holding idx := by simp [hphase]
    dsimp only at h
    split at h
    · cases h
    next hawake =>
      split at h
      · obtain rfl := Option.some.inj h
        exact hleave hout _
      · obtain rfl := Option.some.inj h
        refine hinv.put hk (holds_eq_false hout) id (by simp) rfl hpasses ?_
        exact Nat.le_trans htimely.2 (Nat.le_of_not_lt hawake)
  | holding idx =>
    rw [hphase] at h
    obtain rfl := Option.some.inj h
    exact hinv.release hk hphase meets
  | unguarded =>
    rw [hphase] at h
    obtain rfl := Option.some.inj h
    exact hleave (by simp [hphase]) _
  | left how =>
    rw [hphase] at h
    cases h

theorem enters_out (e : Entrant) (now idx : Nat) : (e.enters now).phase ≠ .holding idx := by
  unfold Entrant.enters
  split
  · simp
  · split
    · simp
    · simp

theorem enters_slots (e : Entrant) (now : Nat) : (e.enters now).maxSlots ≤ 16 := by
  unfold Entrant.enters
  split
  · exact Nat.zero_le _
  next lock _ =>
    have hbounds := slots_bounds e.readings lock.label (max 1 lock.baseSlots)
    split
    · dsimp only
      omega
    · exact Nat.zero_le _

theorem SlotInv.step {e : SlotEvent} (hinv : SlotInv s) (h : slotStep s e = some s') :
    SlotInv s' := by
  cases e with
  | enter e =>
    obtain rfl := Option.some.inj h
    constructor
    · intro j x hx
      rcases getElem?_started hx with hx | ⟨rfl, rfl⟩
      · exact (hinv.workers j x hx).mono (Nat.le_refl _) (fun _ h => h) (fun _ _ h => h)
      · have hnone := hinv.unused s.workers.length (List.getElem?_eq_none (Nat.le_refl _))
        refine ⟨fun key hkey => absurd hkey (hnone key), fun idx hidx => ?_, ?_, ?_, ?_⟩
        · exact absurd hidx (enters_out e s.now idx)
        · unfold Entrant.enters
          split
          · exact Nat.le_refl _
          · split
            · exact Nat.zero_le _
            · exact Nat.le_refl _
        · exact enters_slots e s.now
        · unfold Entrant.enters
          split
          · trivial
          · split
            · exact Nat.le_refl _
            · trivial
    · intro j hj
      apply hinv.unused j
      rw [List.getElem?_eq_none_iff, List.length_append] at hj
      rw [List.getElem?_eq_none_iff]
      omega
  | advance i meets =>
    obtain ⟨k, hk, hadvance⟩ := Option.bind_eq_some_iff.mp h
    exact hinv.advance hk hadvance
  | tick ms =>
    obtain rfl := Option.some.inj h
    constructor
    · intro j x hx
      exact (hinv.workers j x hx).mono (Nat.le_add_right ..) (fun _ h => h) (fun _ _ h => h)
    · exact hinv.unused
  | expire key =>
    simp only [slotStep] at h
    split at h
    · cases h
    next hfree =>
      obtain rfl := Option.some.inj h
      have hfewer : ∀ other j, Function.update s.locks key none other = some j →
          other ≠ key ∧ s.locks other = some j := by
        intro other j hother
        by_cases hkey : other = key
        · subst hkey
          rw [Function.update_self] at hother
          cases hother
        · rw [Function.update_of_ne hkey] at hother
          exact ⟨hkey, hother⟩
      constructor
      · intro j x hx
        refine (hinv.workers j x hx).mono (Nat.le_refl _) (fun other h => (hfewer other j h).2) ?_
        intro other hholds hlock
        have hkey : other ≠ key := by
          rintro rfl
          exact hfree (List.any_eq_true.mpr ⟨x, List.mem_of_getElem? hx, hholds⟩)
        exact (Function.update_of_ne hkey ..).trans hlock
      · intro j hj other hother
        exact hinv.unused j hj other (hfewer other j hother).2

/-! ## Every run -/

theorem slotOf_eq_some {base : String} {idx : Nat} :
    k.slotOf base = some idx ↔ k.phase = .holding idx ∧ k.baseKey = base := by
  unfold SlotWorker.slotOf
  split
  next n hphase =>
    by_cases hbase : k.baseKey = base
    · simp [hphase, hbase]
    · simp [hbase]
  next hphase =>
    constructor
    · intro h
      cases h
    · exact fun h => absurd h.1 (hphase idx)

theorem SlotInv.exclusive (hinv : SlotInv s) (base : String) : (s.heldSlots base).Nodup := by
  apply nodup_filterMap
  intro i j a b idx ha hb hfa hfb
  obtain ⟨ha', rfl⟩ := slotOf_eq_some.mp hfa
  obtain ⟨hb', hbase⟩ := slotOf_eq_some.mp hfb
  have hi := ((hinv.workers i a ha).held idx ha').1
  have hj := ((hinv.workers j b hb).held idx hb').1
  rw [hbase] at hj
  exact Option.some.inj (hi.symm.trans hj)

/-- The worker that has a slot resolved at least so many. -/
theorem SlotInv.holder (hinv : SlotInv s) {base : String} {idx : Nat}
    (h : idx ∈ s.heldSlots base) :
    ∃ k ∈ s.workers, (k.slotOf base).isSome = true ∧ idx < k.maxSlots ∧ k.maxSlots ≤ 16 := by
  obtain ⟨k, hk, hslot⟩ := List.mem_filterMap.mp h
  obtain ⟨i, hi⟩ := List.mem_iff_getElem?.mp hk
  have hrun := hinv.workers i k hi
  have hidx := (hrun.held idx (slotOf_eq_some.mp hslot).1).2
  exact ⟨k, hk, by rw [hslot]; rfl, hidx, hrun.slots⟩

theorem SlotInv.semaphore (hinv : SlotInv s) : Semaphore s where
  exclusive := hinv.exclusive
  bounded := by
    intro base
    apply length_le_of_nodup (hinv.exclusive base)
    intro idx hidx
    obtain ⟨k, hk, hholds, hlt, _⟩ := hinv.holder hidx
    have hmem : k.maxSlots ∈
        (s.workers.filter fun k => (k.slotOf base).isSome).map SlotWorker.maxSlots :=
      List.mem_map_of_mem (List.mem_filter.mpr ⟨hk, hholds⟩)
    exact Nat.lt_of_lt_of_le hlt (le_largest hmem)
  sixteen := by
    intro base
    apply length_le_of_nodup (hinv.exclusive base)
    intro idx hidx
    obtain ⟨k, _, _, hlt, hle⟩ := hinv.holder hidx
    exact Nat.lt_of_lt_of_le hlt hle
  released := by
    intro i k how hk hphase hleaked key hkey
    rcases (hinv.workers i k hk).owned key hkey with hleak | hholds
    · rw [hleaked] at hleak
      cases hleak
    · rw [SlotWorker.holds, hphase] at hholds
      cases hholds
  timely := by
    intro i k hk
    have hrun := hinv.workers i k hk
    refine ⟨hrun.passes, fun since hsince => ?_⟩
    have htimely := hrun.timely
    unfold SlotWorker.passSince at hsince
    split at hsince
    next idx t hphase =>
      obtain rfl := Option.some.inj hsince
      rw [hphase] at htimely
      exact htimely.2.1
    next wakeAt t hphase =>
      obtain rfl := Option.some.inj hsince
      rw [hphase] at htimely
      exact htimely.1
    next => cases hsince
  ends := by
    intro i k meets s' hk hphase hlimit h
    obtain ⟨k', hk', hadvance⟩ := Option.bind_eq_some_iff.mp h
    obtain rfl := Option.some.inj (hk.symm.trans hk')
    have hreached : 1000 * k.waitSeconds ≤ s.now - k.startedAt := by
      unfold SlotWorker.limit at hlimit
      omega
    have hput : ∀ how, (s.put i { k with phase := .left how }).workers[i]? =
        some { k with phase := .left how } := by
      intro how
      exact List.getElem?_set_self (List.getElem?_eq_some_iff.mp hk).1
    unfold SlotState.advance at hadvance
    rw [hphase] at hadvance
    dsimp only at hadvance
    rw [if_pos hreached] at hadvance
    split at hadvance
    · obtain rfl := Option.some.inj hadvance
      exact ⟨_, hput _⟩
    · obtain rfl := Option.some.inj hadvance
      exact ⟨_, hput _⟩

/-- In every interleaving of workers, the slots of a bastion are a counting semaphore. -/
theorem semaphore_of_run (es : List SlotEvent) (s : SlotState)
    (hrun : exec slotStep {} es = some s) : Semaphore s := by
  have hstart : SlotInv {} := by
    constructor
    · intro i k hk
      cases hk
    · intro i _ key hkey
      cases hkey
  exact (exec_invariant_all (fun _ _ _ hinv h => hinv.step h) hstart hrun).semaphore

/-! ## Examples -/

def bastionSite : DeviceGroup where
  id := 1
  tenantId := 1
  name := "Matriz"
  slug := "matriz"
  connectionType := some "jump_host"
  usesJumpHost := some true
  jumpHost := some "Bastion.acme.net"
  jumpUsername := some "ops"

def behindBastion : Device where
  id := 1
  tenantId := 1
  groupId := some 1
  name := "core"
  ipAddress := "10.0.0.1"
  username := "backup"
  passwordEncrypted := "x"

/-- A worker for whom there are so many slots. -/
def entrant (slots : Int) : Entrant where
  env := Tenants.Env.ascii
  jumpHostMaxSlots := slots
  device := some behindBastion
  group := some bastionSite
  waitSeconds := 15

def acmeBastion : String := bastionKey "bastion.acme.net" 22

/-- Two workers that resolved different numbers of slots hold both; a third waits. -/
def threeWorkers : List SlotEvent :=
  [.enter (entrant 1), .advance 0 {}, .advance 0 {}, .enter (entrant 2), .advance 1 {},
    .advance 1 {}, .advance 1 {}, .enter (entrant 1), .tick 14900, .advance 2 {}, .advance 2 {},
    .advance 2 {}]

theorem threeWorkers_semaphore : Semaphore ((exec slotStep {} threeWorkers).get (by decide)) :=
  semaphore_of_run threeWorkers _ (Option.some_get _).symm

/-- A worker is still asleep half a second after its wait limit; one whose release failed is out
and its lock is still taken; and so is one whose acquisition was not answered. -/
theorem late_and_leaked :
    (exec slotStep {} (threeWorkers ++ [.tick 600])).any
      (fun s => s.workers[2]?.any fun k =>
        k.limit + 500 ≤ s.now ∧ k.phase = .sleeping 15900 14900) = true ∧
    (exec slotStep {} [.enter (entrant 1), .advance 0 {}, .advance 0 {},
        .advance 0 { redis := .failed }]).any
      (fun s => s.locks (slotKey acmeBastion 0) = some 0 ∧
        s.workers[0]?.any fun k => k.phase = .left .returned) = true ∧
    (exec slotStep {} [.enter (entrant 2), .advance 0 {}, .advance 0 { redis := .lost },
        .advance 0 {}, .advance 0 {}]).any
      (fun s => s.locks (slotKey acmeBastion 0) = some 0 ∧
        s.workers[0]?.any fun k => k.phase = .left .returned) = true := by
  decide

end BackupCenter.JumpHost
