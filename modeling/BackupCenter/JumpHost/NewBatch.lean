import BackupCenter.JumpHost.Adaptive
import BackupCenter.JumpHost.Breaker

/-!
# A new batch

`reset_circuit_breakers_for_new_batch` scans Redis for what an earlier batch has left about its
bastions and deletes it: open breakers, outcomes, and the keys of the adaptive slots. The adaptive
numbers themselves are the fields of one hash.
-/
namespace BackupCenter.JumpHost

open BackupCenter.Lib

/-! ## Keys -/

/-- The keys that adapting, recording and checking write. -/
inductive JumpKey where
  | cbOpen (label : String)
  | cbOutcomes (label : String)
  | streak (s : Streak) (label : String)
  | cooldown (label : String)
  | adaptiveSlots
  deriving DecidableEq

def Streak.text : Streak → String
  | success => "success"
  | fail => "fail"

def JumpKey.text : JumpKey → String
  | cbOpen label => "backup_center:cb:open:" ++ label
  | cbOutcomes label => "backup_center:cb:outcomes:" ++ label
  | streak s label => "backup_center:jump_host_adaptive:" ++ (s.text ++ ":" ++ label)
  | cooldown label => "backup_center:jump_host_adaptive:" ++ ("cooldown:" ++ label)
  | adaptiveSlots => "backup_center:jump_host_adaptive_slots"

/-- The key matches the scan pattern `start*`. -/
def JumpKey.matchesStart (key : JumpKey) (start : String) : Bool :=
  start.toList.isPrefixOf key.text.toList

structure JumpRedis where
  adaptive : AdaptiveState := {}
  breaker : String → BreakerKeys := fun _ => {}

namespace JumpRedis

/-- The key is there at `now`. -/
def Has (r : JumpRedis) (now : Nat) : JumpKey → Prop
  | .cbOpen label => (r.breaker label).isOpen now = true
  | .cbOutcomes label => (r.breaker label).listed now ≠ []
  | .streak s label => (r.adaptive.keys label).streak s ≠ none
  | .cooldown label => (r.adaptive.keys label).cooldown = true
  | .adaptiveSlots => ∃ label, (r.adaptive.keys label).stored ≠ none

/-- `DELETE` -/
def delete (r : JumpRedis) (keys : List JumpKey) : JumpRedis where
  adaptive :=
    { r.adaptive with
      keys := fun label =>
        { stored := if .adaptiveSlots ∈ keys then none else (r.adaptive.keys label).stored
          streak := fun s =>
            if .streak s label ∈ keys then none else (r.adaptive.keys label).streak s
          cooldown := (r.adaptive.keys label).cooldown && !keys.contains (.cooldown label) } }
  breaker := fun label =>
    { openUntil := if .cbOpen label ∈ keys then none else (r.breaker label).openUntil
      outcomes := if .cbOutcomes label ∈ keys then [] else (r.breaker label).outcomes
      outcomesUntil := (r.breaker label).outcomesUntil }

end JumpRedis

/-! ## The reset -/

/-- The dictionary of the reset. -/
structure ResetResult where
  openCleared : Nat := 0
  outcomesCleared : Option Nat := none
  adaptiveCleared : Nat := 0
  error : Option String := none

/-- `reset_circuit_breakers_for_new_batch`; `scan` is what the scans return, if there is a Redis. -/
def resetCircuitBreakersForNewBatch (scan : Option (String → List JumpKey)) (r : JumpRedis) :
    ResetResult × JumpRedis :=
  match scan with
  | none => ({ error := some "Redis indisponivel" }, r)
  | some scan =>
    let openKeys := scan "backup_center:cb:open:"
    let outcomesKeys := scan "backup_center:cb:outcomes:"
    let adaptiveKeys := scan "backup_center:jump_host_adaptive:"
    ({ openCleared := openKeys.length
       outcomesCleared := if outcomesKeys = [] then none else some outcomesKeys.length
       adaptiveCleared := adaptiveKeys.length },
      ((r.delete openKeys).delete outcomesKeys).delete adaptiveKeys)

/-- A scan returns the keys that match and are there throughout, and only keys that match. -/
structure Scans (scan : String → List JumpKey) (r : JumpRedis) (now : Nat) : Prop where
  sound : ∀ start, ∀ key ∈ scan start, key.matchesStart start = true
  complete : ∀ start key, key.matchesStart start = true → r.Has now key → key ∈ scan start

/-! ## Histories -/

inductive JumpEvent where
  | adapt (e : AdaptEvent)
  | breaker (label : String) (e : BreakerEvent)

section Runs

variable (tables : CharTables) (S : AdaptiveSettings) (B : BreakerSettings)

def jumpStep (r : JumpRedis) : JumpEvent → JumpRedis
  | .adapt e => { r with adaptive := adaptiveStep tables S r.adaptive e }
  | .breaker label e =>
    { r with breaker := Function.update r.breaker label (breakerStep B label (r.breaker label) e) }

def jumpRun (events : List JumpEvent) : JumpRedis := events.foldl (jumpStep tables S B) {}

/-- The override of the bastion, else the default override, else the base, clamped. -/
def configuredSlots (label : String) (base : Int) : Int :=
  clampSlots ((S.overrides.lookup label).getD ((S.overrides.lookup "default").getD base))

/-- A batch that begins at `now` finds nothing of an earlier one about the bastion. -/
structure CleanFor (r : JumpRedis) (now : Nat) (base : Int) (label : String) : Prop where
  admits : ∀ t, now ≤ t →
    (checkJumpHostCircuitBreaker B label (r.breaker label) t).verdict.isOpen = false
  configured : currentSlots S (r.adaptive.keys label) label base = configuredSlots S label base
  no_streak : ∀ s, (r.adaptive.keys label).streak s = none
  no_cooldown : (r.adaptive.keys label).cooldown = false

end Runs

/-! ## What the reset leaves -/

section Reset

variable {r : JumpRedis} {keys : List JumpKey} {key : JumpKey} {now t : Nat} {label : String}
  {scan : String → List JumpKey}

theorem matchesStart_of_text {start rest : String} (h : key.text = start ++ rest) :
    key.matchesStart start = true := by
  unfold JumpKey.matchesStart
  rw [h, String.toList_append, List.isPrefixOf_iff_prefix]
  exact List.prefix_append ..

/-- No scan of the reset finds the hash of the numbers. -/
theorem not_matchesStart_adaptiveSlots :
    JumpKey.adaptiveSlots.matchesStart "backup_center:cb:open:" = false ∧
      JumpKey.adaptiveSlots.matchesStart "backup_center:cb:outcomes:" = false ∧
      JumpKey.adaptiveSlots.matchesStart "backup_center:jump_host_adaptive:" = false := by
  decide +kernel

/-- Deleting removes the keys and no others. -/
theorem delete_has : (r.delete keys).Has now key ↔ key ∉ keys ∧ r.Has now key := by
  by_cases hmem : key ∈ keys
  · cases key <;> simp [JumpRedis.Has, JumpRedis.delete, BreakerKeys.isOpen, BreakerKeys.listed,
      hmem]
  · cases key <;> simp [JumpRedis.Has, JumpRedis.delete, BreakerKeys.isOpen, BreakerKeys.listed,
      hmem]

/-- What is there later was there before. -/
theorem has_of_le (h : now ≤ t) (hkey : r.Has t key) : r.Has now key := by
  cases key with
  | cbOpen label =>
    obtain ⟨v, huntil, hv⟩ := (Option.any_eq_true _ _).mp hkey
    refine (Option.any_eq_true _ _).mpr ⟨v, huntil, ?_⟩
    rw [decide_eq_true_eq] at hv ⊢
    exact h.trans hv
  | cbOutcomes label =>
    show (r.breaker label).listed now ≠ []
    replace hkey : (r.breaker label).listed t ≠ [] := hkey
    unfold BreakerKeys.listed at hkey ⊢
    split at hkey
    · next hlive => rwa [if_pos (h.trans hlive)]
    · exact absurd rfl hkey
  | streak s label => exact hkey
  | cooldown label => exact hkey
  | adaptiveSlots => exact hkey

/-- Only the hash of the numbers is left. -/
theorem reset_has (hscan : Scans scan r now) (h : now ≤ t)
    (hkey : (resetCircuitBreakersForNewBatch (some scan) r).2.Has t key) :
    key = .adaptiveSlots := by
  unfold resetCircuitBreakersForNewBatch at hkey
  dsimp only at hkey
  rw [delete_has, delete_has, delete_has] at hkey
  obtain ⟨hadaptive, houtcomes, hopen, hold⟩ := hkey
  have hnow := has_of_le h hold
  cases key with
  | cbOpen label =>
    exact absurd (hscan.complete _ _ (matchesStart_of_text rfl) hnow) hopen
  | cbOutcomes label =>
    exact absurd (hscan.complete _ _ (matchesStart_of_text rfl) hnow) houtcomes
  | streak s label =>
    exact absurd (hscan.complete _ _ (matchesStart_of_text rfl) hnow) hadaptive
  | cooldown label =>
    exact absurd (hscan.complete _ _ (matchesStart_of_text rfl) hnow) hadaptive
  | adaptiveSlots => rfl

/-- The numbers stay as they were. -/
theorem reset_stored (hscan : Scans scan r now) :
    ((resetCircuitBreakersForNewBatch (some scan) r).2.adaptive.keys label).stored =
      (r.adaptive.keys label).stored := by
  obtain ⟨hopen, houtcomes, hadaptive⟩ := not_matchesStart_adaptiveSlots
  have hmissed : ∀ start, JumpKey.adaptiveSlots.matchesStart start = false →
      JumpKey.adaptiveSlots ∉ scan start := by
    intro start hstart hmem
    rw [hscan.sound start _ hmem] at hstart
    cases hstart
  unfold resetCircuitBreakersForNewBatch JumpRedis.delete
  dsimp only
  rw [if_neg (hmissed _ hadaptive), if_neg (hmissed _ houtcomes), if_neg (hmissed _ hopen)]

end Reset

/-! ## Clean batches -/

section Clean

variable {tables : CharTables} {S : AdaptiveSettings} {B : BreakerSettings} {r : JumpRedis}
  {k : AdaptiveKeys} {scan : String → List JumpKey} {now : Nat} {base : Int} {label : String}

theorem clampSlots_clampSlots (n : Int) : clampSlots (clampSlots n) = clampSlots n := by
  unfold clampSlots
  omega

theorem clampSlots_max_one (n : Int) : clampSlots (max 1 n) = clampSlots n := by
  unfold clampSlots
  omega

/-- The number of slots: the stored one if adaptation is on, else the configured one. -/
theorem currentSlots_eq :
    currentSlots S k label base =
      if S.enabled then (k.stored.map clampSlots).getD (configuredSlots S label base)
      else configuredSlots S label base := by
  unfold currentSlots resolveEffectiveJumpHostSlots windowSlots slotReadings configuredSlots
  dsimp only
  cases S.overrides.lookup label <;> cases S.overrides.lookup "default" <;> cases S.enabled <;>
    cases k.stored <;> simp [clampSlots_clampSlots, clampSlots_max_one]

theorem jumpRun_adaptive_sound (tables : CharTables) (S : AdaptiveSettings) (B : BreakerSettings)
    (events : List JumpEvent) :
    (jumpRun tables S B events).adaptive.Sound := by
  induction events using List.reverseRecOn with
  | nil => exact fun _ => sound_empty
  | append_singleton events e ih =>
    unfold jumpRun
    rw [List.foldl_append, List.foldl_cons, List.foldl_nil]
    cases e with
    | adapt e => exact sound_adaptiveStep ih e
    | breaker label e => exact ih

/-- The reset closes every breaker and forgets every streak and cooldown. -/
theorem reset_forgets (hscan : Scans scan r now) (label : String) :
    let r' := (resetCircuitBreakersForNewBatch (some scan) r).2
    (∀ t, now ≤ t →
      (checkJumpHostCircuitBreaker B label (r'.breaker label) t).verdict.isOpen = false) ∧
    (∀ s, (r'.adaptive.keys label).streak s = none) ∧
    (r'.adaptive.keys label).cooldown = false := by
  dsimp only
  generalize hr : (resetCircuitBreakersForNewBatch (some scan) r).2 = r'
  have hgone : ∀ t key, now ≤ t → r'.Has t key → key = .adaptiveSlots := fun t key h hkey =>
    reset_has hscan h (hr ▸ hkey)
  refine ⟨fun t h => ?_, fun s => ?_, ?_⟩
  · by_cases hlabel : label = ""
    · rw [hlabel]
      rfl
    have hopen : (r'.breaker label).isOpen t = false := by
      rw [← Bool.not_eq_true]
      exact fun hopen => by cases hgone t (.cbOpen label) h hopen
    have hlisted : (r'.breaker label).listed t = [] := by
      by_contra hlisted
      cases hgone t (.cbOutcomes label) h hlisted
    rcases (check_of_not_isOpen (B := B) hlabel hopen).2 with ⟨htripped, -⟩ | ⟨-, -, hadmits, -⟩
    · rw [hlisted, List.filter_nil] at htripped
      exact absurd htripped not_tripped_nil
    · exact hadmits
  · by_contra hstreak
    cases hgone now (.streak s label) le_rfl hstreak
  · rw [← Bool.not_eq_true]
    exact fun hcooldown => by cases hgone now (.cooldown label) le_rfl hcooldown

/-- After every history a reset without an error leaves the bastions clean exactly if no stored
number differs from the configured one. -/
theorem reset_clean_iff (tables : CharTables) (S : AdaptiveSettings) (B : BreakerSettings)
    (events : List JumpEvent) (scan : String → List JumpKey) (now : Nat) (base : Int)
    (hscan : Scans scan (jumpRun tables S B events) now) :
    let reset := resetCircuitBreakersForNewBatch (some scan) (jumpRun tables S B events)
    reset.1.error = none ∧
      ((∀ label, CleanFor S B reset.2 now base label) ↔
        S.enabled = false ∨ ∀ label n,
          ((jumpRun tables S B events).adaptive.keys label).stored = some n →
            n = configuredSlots S label base) := by
  dsimp only
  refine ⟨rfl, ?_⟩
  have hclean : ∀ label, CleanFor S B
      (resetCircuitBreakersForNewBatch (some scan) (jumpRun tables S B events)).2 now base label ↔
      (S.enabled = false ∨ ∀ n,
        ((jumpRun tables S B events).adaptive.keys label).stored = some n →
          n = configuredSlots S label base) := by
    intro label
    obtain ⟨hadmits, hstreak, hcooldown⟩ := reset_forgets (B := B) hscan label
    have hbounds := (jumpRun_adaptive_sound tables S B events label).stored_bounds
    have hslots : currentSlots S ((resetCircuitBreakersForNewBatch (some scan)
        (jumpRun tables S B events)).2.adaptive.keys label) label base =
        configuredSlots S label base ↔ (S.enabled = false ∨ ∀ n,
          ((jumpRun tables S B events).adaptive.keys label).stored = some n →
            n = configuredSlots S label base) := by
      rw [currentSlots_eq, reset_stored hscan]
      cases S.enabled with
      | false => simp
      | true =>
        cases hstored : ((jumpRun tables S B events).adaptive.keys label).stored with
        | none => simp
        | some n =>
          have hn := hbounds n hstored
          have hclamp : clampSlots n = n := by
            unfold clampSlots
            omega
          simp [hclamp]
    exact ⟨fun h => hslots.mp h.configured, fun h => ⟨hadmits, hslots.mpr h, hstreak, hcooldown⟩⟩
  simp only [hclean]
  constructor
  · intro h
    by_cases henabled : S.enabled = false
    · exact .inl henabled
    · exact .inr fun label => (h label).resolve_left henabled
  · intro h label
    exact h.imp_right fun h => h label

end Clean

/-! ## Two failures -/

/-- A failure that saturates a bastion of three slots. -/
def saturatingFailure : AdaptCall where
  lockInfo := some { label := "10.0.0.1:22", baseSlots := some 3 }
  success := false
  message := some "Timeout opening channel."

def saturating : List JumpEvent :=
  [.adapt (.call saturatingFailure), .adapt (.call saturatingFailure)]

/-- What the scans find after the two failures. -/
def saturatingScan (start : String) : List JumpKey :=
  [JumpKey.cooldown "10.0.0.1:22", .adaptiveSlots].filter (·.matchesStart start)

/-- The keys of the bastion after the two failures. -/
def saturatedKeys : AdaptiveKeys :=
  (adaptJumpHostSlots .ascii {} saturatingFailure
    (adaptJumpHostSlots .ascii {} saturatingFailure {}).keys).keys

theorem saturatedKeys_eq :
    saturatedKeys.stored = some 1 ∧ saturatedKeys.cooldown = true ∧
      saturatedKeys.streak .success = none ∧ saturatedKeys.streak .fail = none := by
  decide +kernel

theorem jumpRun_saturating (label : String) :
    (jumpRun .ascii {} {} saturating).adaptive.keys label =
      if label = "10.0.0.1:22" then saturatedKeys else {} := by
  have hlabel : saturatingFailure.label = "10.0.0.1:22" := by decide +kernel
  unfold jumpRun saturating
  rw [List.foldl_cons, List.foldl_cons, List.foldl_nil]
  unfold jumpStep adaptiveStep
  dsimp only
  rw [hlabel, Function.update_self]
  split
  · next h =>
    rw [h, Function.update_self]
    rfl
  · next h => rw [Function.update_of_ne h, Function.update_of_ne h]

theorem scans_saturating : Scans saturatingScan (jumpRun .ascii {} {} saturating) 0 := by
  obtain ⟨-, -, hsuccess, hfail⟩ := saturatedKeys_eq
  refine ⟨fun start key hkey => (List.mem_filter.mp hkey).2, fun start key hstart hhas => ?_⟩
  refine List.mem_filter.mpr ⟨?_, hstart⟩
  cases key with
  | cbOpen label => exact absurd hhas Bool.false_ne_true
  | cbOutcomes label => exact absurd (ite_self _) hhas
  | streak s label =>
    refine absurd ?_ hhas
    rw [jumpRun_saturating]
    split
    · cases s
      · exact hsuccess
      · exact hfail
    · rfl
  | cooldown label =>
    replace hhas : ((jumpRun .ascii {} {} saturating).adaptive.keys label).cooldown = true := hhas
    rw [jumpRun_saturating] at hhas
    split at hhas
    · next h =>
      rw [h]
      exact List.mem_cons_self
    · cases hhas
  | adaptiveSlots => exact List.mem_cons_of_mem _ (List.mem_singleton_self _)

theorem reset_clean_iff_saturating :
    let reset := resetCircuitBreakersForNewBatch (some saturatingScan)
      (jumpRun .ascii {} {} saturating)
    reset.1.error = none ∧
      ((∀ label, CleanFor {} {} reset.2 0 3 label) ↔
        ({} : AdaptiveSettings).enabled = false ∨ ∀ label n,
          ((jumpRun .ascii {} {} saturating).adaptive.keys label).stored = some n →
            n = configuredSlots {} label 3) :=
  reset_clean_iff .ascii {} {} saturating saturatingScan 0 3 scans_saturating

/-- The batch after the reset has one slot instead of three. -/
theorem not_clean_saturating :
    Scans saturatingScan (jumpRun .ascii {} {} saturating) 0 ∧
      (resetCircuitBreakersForNewBatch (some saturatingScan)
        (jumpRun .ascii {} {} saturating)).1.error = none ∧
      ¬ CleanFor {} {} (resetCircuitBreakersForNewBatch (some saturatingScan)
        (jumpRun .ascii {} {} saturating)).2 0 3 "10.0.0.1:22" := by
  refine ⟨scans_saturating, rfl, fun hclean => ?_⟩
  have hslots := hclean.configured
  rw [currentSlots_eq, reset_stored scans_saturating, jumpRun_saturating, if_pos rfl, if_pos rfl,
    saturatedKeys_eq.1] at hslots
  exact absurd hslots (by decide)

end BackupCenter.JumpHost
