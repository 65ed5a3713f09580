import BackupCenter.Lib.Double
import Mathlib.Data.List.Induction

/-!
# The circuit breaker of a jump host

Outcomes of backups behind a bastion are listed with their times. A check that finds too many
failures among the recent ones sets a key that refuses the bastion until it expires. One clock of
milliseconds stamps the outcomes and expires the keys.
-/
namespace BackupCenter.JumpHost

open BackupCenter.Lib

/-! ## Settings and keys -/

/-- `CB_*`, within the bounds of `_env_int` -/
structure BreakerSettings where
  windowSeconds : Nat := 300
  thresholdPercent : Nat := 70
  minSamples : Nat := 10
  openSeconds : Nat := 60
  windowSeconds_bounds : 60 ≤ windowSeconds ∧ windowSeconds ≤ 900 := by decide
  thresholdPercent_bounds : 30 ≤ thresholdPercent ∧ thresholdPercent ≤ 95 := by decide
  minSamples_bounds : 3 ≤ minSamples ∧ minSamples ≤ 50 := by decide
  openSeconds_bounds : 10 ≤ openSeconds ∧ openSeconds ≤ 300 := by decide

/-- An entry `1:ts` or `0:ts`. -/
structure Outcome where
  success : Bool
  ts : Nat
  deriving DecidableEq

/-- What Redis holds about the breaker of one bastion. -/
structure BreakerKeys where
  /-- the last moment of `backup_center:cb:open:<label>` -/
  openUntil : Option Nat := none
  /-- `backup_center:cb:outcomes:<label>` and its last moment -/
  outcomes : List Outcome := []
  outcomesUntil : Nat := 0

namespace BreakerSettings

variable (B : BreakerSettings)

def openMs : Nat := B.openSeconds * 1000

/-- The time to live of the list. -/
def keepMs : Nat := (B.windowSeconds + 60) * 1000

/-- `ts >= cutoff_ms` -/
def inWindow (now : Nat) (o : Outcome) : Bool :=
  decide ((now : Int) - B.windowSeconds * 1000 ≤ o.ts)

end BreakerSettings

namespace BreakerKeys

def isOpen (k : BreakerKeys) (now : Nat) : Bool := k.openUntil.any (now ≤ ·)

/-- `TTL` of the open key, in seconds to the nearest. -/
def openTtl (k : BreakerKeys) (now : Nat) : Nat := (k.openUntil.getD now - now + 500) / 1000

/-- `LRANGE` -/
def listed (k : BreakerKeys) (now : Nat) : List Outcome :=
  if now ≤ k.outcomesUntil then k.outcomes else []

end BreakerKeys

/-! ## Recording and checking -/

/-- `_record_jump_host_outcome` -/
def recordJumpHostOutcome (B : BreakerSettings) (label : String) (k : BreakerKeys)
    (success : Bool) (now : Nat) : BreakerKeys :=
  if label = "" then k
  else
    { k with
      outcomes := k.listed now ++ [⟨success, now⟩]
      outcomesUntil := now + B.keepMs }

def failures (window : List Outcome) : Nat := window.countP (!·.success)

def successes (window : List Outcome) : Nat := window.countP (·.success)

/-- `int((failures / total) * 100)` -/
def failPct (window : List Outcome) : Int :=
  percentDouble (failures window) (successes window + failures window)

/-- The outcomes of the window open the breaker. -/
def Tripped (B : BreakerSettings) (window : List Outcome) : Prop :=
  B.minSamples ≤ successes window + failures window ∧ (B.thresholdPercent : Int) ≤ failPct window

instance (B : BreakerSettings) (window : List Outcome) : Decidable (Tripped B window) :=
  inferInstanceAs (Decidable (_ ∧ _))

/-- `(is_open, reason, retry_after_seconds)` -/
structure BreakerVerdict where
  isOpen : Bool := false
  reason : String := ""
  retryAfter : Nat := 0

/-- The event `circuit_breaker_opened`. -/
structure CircuitBreakerOpened where
  jumpHost : String
  failPct : Int
  totalSamples : Nat
  failures : Nat
  windowSeconds : Nat
  openSeconds : Nat

/-- How a check leaves the keys, its answer, and the event it emitted. -/
structure BreakerChecked where
  keys : BreakerKeys
  verdict : BreakerVerdict := {}
  opened : Option CircuitBreakerOpened := none

/-- `_check_jump_host_circuit_breaker` -/
def checkJumpHostCircuitBreaker (B : BreakerSettings) (label : String) (k : BreakerKeys)
    (now : Nat) : BreakerChecked :=
  if label = "" then { keys := k }
  else if k.isOpen now then
    let ttl := k.openTtl now
    { keys := k
      verdict :=
        { isOpen := true
          reason := "Circuit breaker ABERTO para Jump Host " ++ label ++ ". Aguardando " ++
            toString ttl ++ "s antes de novas tentativas."
          retryAfter := ttl } }
  else
    let entries := k.listed now
    if entries = [] then { keys := k }
    else
      let validEntries := entries.filter (B.inWindow now)
      let k :=
        if validEntries.length < entries.length then
          { k with outcomes := validEntries, outcomesUntil := now + B.keepMs }
        else k
      let failed := failures validEntries
      let total := successes validEntries + failed
      if Tripped B validEntries then
        { keys := { k with openUntil := some (now + B.openMs) }
          verdict :=
            { isOpen := true
              reason := "Circuit breaker ATIVADO para Jump Host " ++ label ++ ": " ++
                toString (failPct validEntries) ++ "% de falhas (" ++ toString failed ++ "/" ++
                toString total ++ ") na janela de " ++ toString B.windowSeconds ++
                "s. Bloqueado por " ++ toString B.openSeconds ++ "s."
              retryAfter := B.openSeconds }
          opened := some
            { jumpHost := label
              failPct := failPct validEntries
              totalSamples := total
              failures := failed
              windowSeconds := B.windowSeconds
              openSeconds := B.openSeconds } }
      else { keys := k }

/-! ## Histories -/

inductive BreakerEvent where
  | record (success : Bool) (at_ : Nat)
  | check (at_ : Nat)
  deriving DecidableEq

namespace BreakerEvent

def time : BreakerEvent → Nat
  | record _ t => t
  | check t => t

/-- What the event lists. -/
def outcome (label : String) : BreakerEvent → Option Outcome
  | record success t => if label = "" then none else some ⟨success, t⟩
  | check _ => none

end BreakerEvent

/-- The outcomes recorded by the events. -/
def history (label : String) (events : List BreakerEvent) : List Outcome :=
  events.filterMap (BreakerEvent.outcome label)

def breakerStep (B : BreakerSettings) (label : String) (k : BreakerKeys) :
    BreakerEvent → BreakerKeys
  | .record success t => recordJumpHostOutcome B label k success t
  | .check t => (checkJumpHostCircuitBreaker B label k t).keys

def breakerRun (B : BreakerSettings) (label : String) (events : List BreakerEvent) : BreakerKeys :=
  events.foldl (breakerStep B label) {}

/-- Times do not go back. -/
def Forward (events : List BreakerEvent) : Prop := (events.map BreakerEvent.time).Pairwise (· ≤ ·)

/-- A list of Redis has at most `2^32 - 1` elements. -/
def WithinRedis (B : BreakerSettings) (label : String) (events : List BreakerEvent) : Prop :=
  ∀ i, (breakerRun B label (events.take i)).outcomes.length < 2 ^ 32

section Rules

variable (B : BreakerSettings) (label : String)

/-- The outcomes recorded within the window before `now`. -/
def windowAt (events : List BreakerEvent) (now : Nat) : List Outcome :=
  (history label events).filter (B.inWindow now)

/-- The check after these events refuses the bastion. -/
def Refuses (events : List BreakerEvent) (now : Nat) : Prop :=
  (checkJumpHostCircuitBreaker B label (breakerRun B label events) now).verdict.isOpen = true

/-- The check after these events opens the breaker. -/
def Opens (events : List BreakerEvent) (now : Nat) : Prop :=
  (checkJumpHostCircuitBreaker B label (breakerRun B label events) now).opened.isSome = true

/-- A check discards exactly what is outside the window, unless it stops at the open key. -/
def DiscardsExactly (events : List BreakerEvent) (now : Nat) : Prop :=
  let before := breakerRun B label events
  let after := (checkJumpHostCircuitBreaker B label before now).keys
  if before.isOpen now then after = before
  else
    after.listed now = (before.listed now).filter (B.inWindow now) ∧
      after.listed now = windowAt B label events now

def NoFailure (events : List BreakerEvent) : Prop := ∀ t, BreakerEvent.record false t ∉ events

/-- The breaker's rules along a history: a refusal goes back to an opening that the outcomes of its
window justified, checks discard what is outside the window, and a refusal without a failure since
an opening comes within the seconds of the opening. -/
structure BreakerLawful (events : List BreakerEvent) : Prop where
  justified : ∀ j t, events[j]? = some (.check t) → Refuses B label (events.take j) t →
    ∃ i u, i ≤ j ∧ events[i]? = some (.check u) ∧ Opens B label (events.take i) u ∧
      t ≤ u + B.openMs ∧ B.minSamples ≤ (windowAt B label (events.take i) u).length ∧
      B.thresholdPercent ≤ 100 * failures (windowAt B label (events.take i) u) /
        (windowAt B label (events.take i) u).length
  discards : ∀ j t, events[j]? = some (.check t) → DiscardsExactly B label (events.take j) t
  recovers : ∀ i j u t, i < j → events[i]? = some (.check u) → events[j]? = some (.check t) →
    Opens B label (events.take i) u → Refuses B label (events.take j) t →
    NoFailure ((events.take j).drop (i + 1)) → t ≤ u + B.openMs

/-- Once the seconds of an opening have passed without a further failure, the outcomes that are
still in the window would not open the breaker. -/
def Cooled (events : List BreakerEvent) : Prop :=
  ∀ i j u t, i < j → events[i]? = some (.check u) → events[j]? = some (.check t) →
    Opens B label (events.take i) u → NoFailure ((events.take j).drop (i + 1)) →
    u + B.openMs < t → ¬ Tripped B (windowAt B label (events.take j) t)

end Rules

/-! ## One check -/

section Check

variable {B : BreakerSettings} {label : String} {k : BreakerKeys} {now : Nat}

theorem check_of_isOpen (hlabel : label ≠ "") (h : k.isOpen now = true) :
    (checkJumpHostCircuitBreaker B label k now).keys = k ∧
      (checkJumpHostCircuitBreaker B label k now).verdict.isOpen = true ∧
      (checkJumpHostCircuitBreaker B label k now).opened.isSome = false := by
  unfold checkJumpHostCircuitBreaker
  rw [if_neg hlabel, if_pos h]
  exact ⟨rfl, rfl, rfl⟩

theorem not_tripped_nil : ¬ Tripped B [] := by
  have hmin := B.minSamples_bounds.1
  unfold Tripped successes failures
  rw [List.countP_nil, List.countP_nil]
  omega

/-- Everything a check that is not stopped by the open key does: the list keeps the window, and the
breaker opens exactly if the window trips it. -/
theorem check_of_not_isOpen (hlabel : label ≠ "") (h : k.isOpen now = false) :
    let window := (k.listed now).filter (B.inWindow now)
    let r := checkJumpHostCircuitBreaker B label k now
    (r.keys.outcomes = k.outcomes ∧ r.keys.outcomesUntil = k.outcomesUntil ∧
        k.listed now = window ∨
      r.keys.outcomes = window ∧ r.keys.outcomesUntil = now + B.keepMs) ∧
    (Tripped B window ∧ r.keys.openUntil = some (now + B.openMs) ∧ r.verdict.isOpen = true ∧
        r.opened.isSome = true ∨
      ¬ Tripped B window ∧ r.keys.openUntil = k.openUntil ∧ r.verdict.isOpen = false ∧
        r.opened.isSome = false) := by
  have hshort : ¬ ((k.listed now).filter (B.inWindow now)).length < (k.listed now).length →
      k.listed now = (k.listed now).filter (B.inWindow now) := by
    intro hlength
    exact (List.filter_sublist.eq_of_length_le (by omega)).symm
  dsimp only
  unfold checkJumpHostCircuitBreaker
  rw [if_neg hlabel, if_neg (by rw [h]; exact Bool.false_ne_true)]
  by_cases hnil : k.listed now = []
  · rw [if_pos hnil, hnil]
    exact ⟨.inl ⟨rfl, rfl, rfl⟩, .inr ⟨not_tripped_nil, rfl, rfl, rfl⟩⟩
  · rw [if_neg hnil]
    dsimp only
    by_cases hprune : ((k.listed now).filter (B.inWindow now)).length < (k.listed now).length
    · rw [if_pos hprune]
      by_cases htripped : Tripped B ((k.listed now).filter (B.inWindow now))
      · rw [if_pos htripped]
        exact ⟨.inr ⟨rfl, rfl⟩, .inl ⟨htripped, rfl, rfl, rfl⟩⟩
      · rw [if_neg htripped]
        exact ⟨.inr ⟨rfl, rfl⟩, .inr ⟨htripped, rfl, rfl, rfl⟩⟩
    · rw [if_neg hprune]
      by_cases htripped : Tripped B ((k.listed now).filter (B.inWindow now))
      · rw [if_pos htripped]
        exact ⟨.inl ⟨rfl, rfl, hshort hprune⟩, .inl ⟨htripped, rfl, rfl, rfl⟩⟩
      · rw [if_neg htripped]
        exact ⟨.inl ⟨rfl, rfl, hshort hprune⟩, .inr ⟨htripped, rfl, rfl, rfl⟩⟩

end Check

/-! ## The list and the history -/

section Listing

variable {B : BreakerSettings} {label : String} {k : BreakerKeys} {events : List BreakerEvent}
  {now t : Nat}

theorem breakerRun_concat (e : BreakerEvent) :
    breakerRun B label (events ++ [e]) = breakerStep B label (breakerRun B label events) e := by
  unfold breakerRun
  rw [List.foldl_append, List.foldl_cons, List.foldl_nil]

theorem breakerRun_noLabel : breakerRun B "" events = {} := by
  induction events using List.reverseRecOn with
  | nil => rfl
  | append_singleton events e ih =>
    rw [breakerRun_concat, ih]
    cases e <;> rfl

theorem history_concat (e : BreakerEvent) :
    history label (events ++ [e]) = history label events ++ (e.outcome label).toList := by
  unfold history
  rw [List.filterMap_append]
  cases h : e.outcome label with
  | none => rw [List.filterMap_cons_none h]; rfl
  | some o => rw [List.filterMap_cons_some h]; rfl

/-- An outcome carries the time of its event. -/
theorem ts_le_of_mem_history (h : ∀ e ∈ events, e.time ≤ now) {o : Outcome}
    (ho : o ∈ history label events) : o.ts ≤ now := by
  obtain ⟨e, he, houtcome⟩ := List.mem_filterMap.mp ho
  cases e with
  | record success t =>
    have htime := h _ he
    simp only [BreakerEvent.outcome] at houtcome
    split at houtcome
    · cases houtcome
    · cases houtcome
      exact htime
  | check t => cases houtcome

/-- What is in a later window is in the earlier one. -/
theorem filter_inWindow_filter (h : now ≤ t) (l : List Outcome) :
    (l.filter (B.inWindow now)).filter (B.inWindow t) = l.filter (B.inWindow t) := by
  rw [List.filter_filter]
  refine List.filter_congr fun o _ => ?_
  unfold BreakerSettings.inWindow
  rw [← Bool.decide_and]
  exact decide_eq_decide.mpr (by omega)

/-- A list written at `now` that agrees with the history on its window keeps doing so: when it
expires, nothing of it is in the window any more. -/
theorem listed_written (hoccurred : ∀ o ∈ history label events, o.ts ≤ now)
    (hkeys : k.outcomesUntil = now + B.keepMs)
    (hagree : k.outcomes.filter (B.inWindow now) = windowAt B label events now) (h : now ≤ t) :
    (k.listed t).filter (B.inWindow t) = windowAt B label events t := by
  unfold BreakerKeys.listed
  split
  · rw [← filter_inWindow_filter h, hagree]
    exact filter_inWindow_filter h _
  · next hexpired =>
    symm
    rw [List.filter_nil]
    refine List.filter_eq_nil_iff.mpr fun o ho => ?_
    have hts := hoccurred o ho
    rw [hkeys] at hexpired
    unfold BreakerSettings.keepMs at hexpired
    unfold BreakerSettings.inWindow
    rw [decide_eq_true_eq]
    omega

theorem Forward.concat {e : BreakerEvent} (h : Forward (events ++ [e])) :
    Forward events ∧ ∀ e' ∈ events ++ [e], e'.time ≤ e.time := by
  unfold Forward at h
  rw [List.map_append] at h
  obtain ⟨hsorted, -, hlast⟩ := List.pairwise_append.mp h
  refine ⟨hsorted, fun e' he' => ?_⟩
  rcases List.mem_append.mp he' with hold | hnew
  · exact hlast _ (List.mem_map_of_mem hold) _ (List.mem_singleton_self _)
  · rw [List.mem_singleton.mp hnew]

theorem listed_window_noLabel :
    ((breakerRun B "" events).listed t).filter (B.inWindow t) = windowAt B "" events t := by
  have hempty : history "" events = [] := by
    refine List.filterMap_eq_nil_iff.mpr fun e _ => ?_
    cases e <;> rfl
  unfold windowAt
  rw [breakerRun_noLabel, hempty]
  unfold BreakerKeys.listed
  rw [ite_self]

/-- Recording an outcome. -/
theorem listed_window_record {success : Bool} (hlabel : label ≠ "")
    (hoccurred : ∀ e ∈ events ++ [.record success now], e.time ≤ now)
    (hagree : ((breakerRun B label events).listed now).filter (B.inWindow now) =
      windowAt B label events now) (h : now ≤ t) :
    ((breakerRun B label (events ++ [.record success now])).listed t).filter (B.inWindow t) =
      windowAt B label (events ++ [.record success now]) t := by
  have hkeys : breakerStep B label (breakerRun B label events) (.record success now) =
      { breakerRun B label events with
        outcomes := (breakerRun B label events).listed now ++ [⟨success, now⟩]
        outcomesUntil := now + B.keepMs } := if_neg hlabel
  have hone : BreakerEvent.outcome label (.record success now) = some ⟨success, now⟩ :=
    if_neg hlabel
  rw [breakerRun_concat, hkeys]
  refine listed_written (fun o ho => ts_le_of_mem_history hoccurred ho) rfl ?_ h
  unfold windowAt at hagree ⊢
  rw [history_concat, hone, List.filter_append, List.filter_append, hagree]
  rfl

/-- Checking. -/
theorem listed_window_check (hlabel : label ≠ "") (hoccurred : ∀ e ∈ events, e.time ≤ now)
    (hagree : ∀ t, (∀ e ∈ events, e.time ≤ t) →
      ((breakerRun B label events).listed t).filter (B.inWindow t) = windowAt B label events t)
    (h : now ≤ t) :
    ((breakerRun B label (events ++ [.check now])).listed t).filter (B.inWindow t) =
      windowAt B label (events ++ [.check now]) t := by
  have hhistory : windowAt B label (events ++ [.check now]) t = windowAt B label events t := by
    unfold windowAt
    rw [history_concat]
    exact congrArg _ (List.append_nil _)
  rw [breakerRun_concat, hhistory]
  show ((checkJumpHostCircuitBreaker B label _ now).keys.listed t).filter _ = _
  cases hopen : (breakerRun B label events).isOpen now with
  | true =>
    rw [(check_of_isOpen hlabel hopen).1]
    exact hagree t fun e he => (hoccurred e he).trans h
  | false =>
    rcases (check_of_not_isOpen (B := B) hlabel hopen).1 with
      ⟨houtcomes, huntil, -⟩ | ⟨houtcomes, huntil⟩
    · unfold BreakerKeys.listed
      rw [houtcomes, huntil]
      exact hagree t fun e he => (hoccurred e he).trans h
    · refine listed_written (fun o ho => ts_le_of_mem_history hoccurred ho) huntil ?_ h
      rw [houtcomes, filter_inWindow_filter le_rfl]
      exact hagree now hoccurred

/-- What a check reads of its window is what was recorded in it. -/
theorem listed_window (htime : Forward events) (h : ∀ e ∈ events, e.time ≤ t) :
    ((breakerRun B label events).listed t).filter (B.inWindow t) = windowAt B label events t := by
  by_cases hlabel : label = ""
  · rw [hlabel]
    exact listed_window_noLabel
  induction events using List.reverseRecOn generalizing t with
  | nil =>
    show ((if t ≤ 0 then [] else []) : List Outcome).filter _ = []
    rw [ite_self, List.filter_nil]
  | append_singleton events e ih =>
    obtain ⟨hsorted, hoccurred⟩ := htime.concat
    have hlast : e.time ≤ t := h e (by simp)
    have hbefore : ∀ e' ∈ events, e'.time ≤ e.time := fun e' he' =>
      hoccurred e' (List.mem_append_left _ he')
    cases e with
    | record success now =>
      exact listed_window_record hlabel hoccurred (ih hsorted hbefore) hlast
    | check now =>
      exact listed_window_check hlabel hbefore (fun t ht => ih hsorted ht) hlast

end Listing

/-! ## Openings -/

section Openings

variable {B : BreakerSettings} {label : String} {events : List BreakerEvent} {e : BreakerEvent}
  {i j t u v : Nat}

theorem opens_cases (htime : Forward events) (h : ∀ e ∈ events, e.time ≤ t)
    (hopens : Opens B label events t) :
    label ≠ "" ∧ (breakerRun B label events).isOpen t = false ∧
      Tripped B (windowAt B label events t) := by
  unfold Opens at hopens
  have hlabel : label ≠ "" := by
    rintro rfl
    exact Bool.false_ne_true hopens
  cases hopen : (breakerRun B label events).isOpen t with
  | true =>
    rw [(check_of_isOpen hlabel hopen).2.2] at hopens
    exact absurd hopens Bool.false_ne_true
  | false =>
    refine ⟨hlabel, rfl, ?_⟩
    rw [← listed_window htime h]
    rcases (check_of_not_isOpen (B := B) hlabel hopen).2 with
      ⟨htripped, -⟩ | ⟨-, -, -, hclosed⟩
    · exact htripped
    · rw [hclosed] at hopens
      exact absurd hopens Bool.false_ne_true

/-- A refusal: the open key is there, or the window trips the breaker. -/
theorem refuses_iff (htime : Forward events) (h : ∀ e ∈ events, e.time ≤ t) :
    Refuses B label events t ↔ label ≠ "" ∧
      ((breakerRun B label events).isOpen t = true ∨
        Opens B label events t ∧ Tripped B (windowAt B label events t)) := by
  unfold Refuses
  by_cases hlabel : label = ""
  · rw [hlabel]
    exact ⟨fun hrefuses => absurd hrefuses Bool.false_ne_true, fun h => absurd rfl h.1⟩
  cases hopen : (breakerRun B label events).isOpen t with
  | true => exact ⟨fun _ => ⟨hlabel, .inl rfl⟩, fun _ => (check_of_isOpen hlabel hopen).2.1⟩
  | false =>
    rw [← listed_window htime h]
    unfold Opens
    rcases (check_of_not_isOpen (B := B) hlabel hopen).2 with
      ⟨htripped, -, hrefused, hopened⟩ | ⟨-, -, hrefused, hclosed⟩
    · exact ⟨fun _ => ⟨hlabel, .inr ⟨hopened, htripped⟩⟩, fun _ => hrefused⟩
    · rw [hrefused, hclosed]
      constructor
      · exact fun h => absurd h Bool.false_ne_true
      · intro h
        rcases h.2 with h | h
        · exact absurd h Bool.false_ne_true
        · exact absurd h.1 Bool.false_ne_true

/-- Only an opening sets the open key. -/
theorem openUntil_concat (B : BreakerSettings) (label : String) (events : List BreakerEvent)
    (e : BreakerEvent) :
    (∃ u, e = .check u ∧ Opens B label events u ∧
        (breakerRun B label (events ++ [e])).openUntil = some (u + B.openMs)) ∨
      (∀ u, e = .check u → ¬ Opens B label events u) ∧
        (breakerRun B label (events ++ [e])).openUntil = (breakerRun B label events).openUntil := by
  rw [breakerRun_concat]
  cases e with
  | record success now =>
    refine .inr ⟨nofun, ?_⟩
    show (recordJumpHostOutcome B label _ success now).openUntil = _
    unfold recordJumpHostOutcome
    split <;> rfl
  | check now =>
    show _ ∨ _ ∧ (checkJumpHostCircuitBreaker B label _ now).keys.openUntil = _
    by_cases hlabel : label = ""
    · rw [hlabel]
      exact .inr ⟨fun u _ h => Bool.false_ne_true h, rfl⟩
    unfold Opens
    cases hopen : (breakerRun B label events).isOpen now with
    | true =>
      obtain ⟨hkeys, -, hclosed⟩ := check_of_isOpen (B := B) hlabel hopen
      refine .inr ⟨fun u hu => ?_, by rw [hkeys]⟩
      cases hu
      rw [hclosed]
      exact Bool.false_ne_true
    | false =>
      rcases (check_of_not_isOpen (B := B) hlabel hopen).2 with
        ⟨-, huntil, -, hopened⟩ | ⟨-, huntil, -, hclosed⟩
      · exact .inl ⟨now, rfl, hopened, huntil⟩
      · refine .inr ⟨fun u hu => ?_, huntil⟩
        cases hu
        rw [hclosed]
        exact Bool.false_ne_true

/-- The breaker opened at the `i`-th event, a check at `u`. -/
def OpensAt (B : BreakerSettings) (label : String) (events : List BreakerEvent) (i u : Nat) :
    Prop :=
  events[i]? = some (.check u) ∧ Opens B label (events.take i) u

theorem opensAt_concat :
    OpensAt B label (events ++ [e]) i u ↔
      OpensAt B label events i u ∨
        i = events.length ∧ e = .check u ∧ Opens B label events u := by
  unfold OpensAt
  rcases Nat.lt_trichotomy i events.length with hlt | rfl | hgt
  · rw [List.getElem?_append_left hlt, List.take_append_of_le_length hlt.le]
    exact ⟨.inl, fun h => h.elim id fun h => absurd h.1 (by omega)⟩
  · rw [List.getElem?_concat_length, List.take_left', List.getElem?_eq_none le_rfl,
      Option.some.injEq]
    · simp
    · rfl
  · rw [List.getElem?_eq_none (by simp; omega), List.getElem?_eq_none (by omega)]
    simp
    omega

/-- The key that is set belongs to an opening. -/
theorem exists_opensAt (h : (breakerRun B label events).openUntil = some v) :
    ∃ i u, OpensAt B label events i u ∧ v = u + B.openMs := by
  induction events using List.reverseRecOn with
  | nil => cases h
  | append_singleton events e ih =>
    rcases openUntil_concat B label events e with
      ⟨u, he, hopens, huntil⟩ | ⟨-, huntil⟩
    · rw [huntil, Option.some.injEq] at h
      exact ⟨events.length, u, opensAt_concat.mpr (.inr ⟨rfl, he, hopens⟩), h.symm⟩
    · rw [huntil] at h
      obtain ⟨i, u, hopensAt, hv⟩ := ih h
      exact ⟨i, u, opensAt_concat.mpr (.inl hopensAt), hv⟩

theorem OpensAt.mem (h : OpensAt B label events i u) : .check u ∈ events :=
  List.mem_of_getElem? h.1

/-- After an opening the key stays set for its seconds at least. -/
theorem OpensAt.le_openUntil (htime : Forward events) (h : OpensAt B label events i u) :
    ∃ v, (breakerRun B label events).openUntil = some v ∧ u + B.openMs ≤ v := by
  induction events using List.reverseRecOn with
  | nil => cases h.1
  | append_singleton events e ih =>
    obtain ⟨hsorted, hoccurred⟩ := htime.concat
    have hu : u ≤ e.time := hoccurred _ h.mem
    rcases openUntil_concat B label events e with
      ⟨u', rfl, -, huntil⟩ | ⟨hnot, huntil⟩
    · refine ⟨_, huntil, ?_⟩
      have hle : u ≤ u' := hu
      omega
    · rw [huntil]
      rcases opensAt_concat.mp h with hold | ⟨-, he, hopens⟩
      · exact ih hsorted hold
      · exact absurd hopens (hnot u he)

/-- The events before a check. -/
theorem Forward.before (h : Forward events) (hj : events[j]? = some (.check t)) :
    Forward (events.take j) ∧ ∀ e ∈ events.take j, e.time ≤ t := by
  have hlast : events.take (j + 1) = events.take j ++ [.check t] := by
    rw [List.take_add_one, hj]
    rfl
  have hupto : Forward (events.take j ++ [.check t]) := by
    rw [← hlast]
    exact List.Pairwise.sublist ((List.take_sublist ..).map _) h
  exact ⟨hupto.concat.1, fun e' he' => hupto.concat.2 e' (List.mem_append_left _ he')⟩

/-- An opening among the first events. -/
theorem OpensAt.of_take (h : OpensAt B label (events.take j) i u) :
    i < j ∧ OpensAt B label events i u := by
  have hi : i < j := by
    obtain ⟨hlt, -⟩ := List.getElem?_eq_some_iff.mp h.1
    rw [List.length_take] at hlt
    omega
  unfold OpensAt at h ⊢
  rw [List.getElem?_take, if_pos hi, List.take_take, Nat.min_eq_left hi.le] at h
  exact ⟨hi, h⟩

theorem OpensAt.take (h : OpensAt B label events i u) (hi : i < j) :
    OpensAt B label (events.take j) i u := by
  unfold OpensAt
  rw [List.getElem?_take, if_pos hi, List.take_take, Nat.min_eq_left hi.le]
  exact h

/-- A check refused by the open key owes it to an opening whose seconds have not passed. -/
theorem exists_opensAt_of_isOpen (h : (breakerRun B label (events.take j)).isOpen t = true) :
    ∃ i u, i < j ∧ OpensAt B label events i u ∧ t ≤ u + B.openMs := by
  unfold BreakerKeys.isOpen at h
  obtain ⟨v, huntil, hv⟩ := (Option.any_eq_true _ _).mp h
  obtain ⟨i, u, hopensAt, rfl⟩ := exists_opensAt huntil
  exact ⟨i, u, hopensAt.of_take.1, hopensAt.of_take.2, of_decide_eq_true hv⟩

/-- A later opening comes after the seconds of an earlier one. -/
theorem OpensAt.after (htime : Forward events) (h : OpensAt B label events i u)
    (h' : OpensAt B label events j t) (hij : i < j) : u + B.openMs < t := by
  obtain ⟨hsorted, hoccurred⟩ := htime.before h'.1
  obtain ⟨v, huntil, hv⟩ := (h.take hij).le_openUntil hsorted
  have hclosed := (opens_cases hsorted hoccurred h'.2).2.1
  unfold BreakerKeys.isOpen at hclosed
  rw [huntil, Option.any_some, decide_eq_false_iff_not] at hclosed
  omega

end Openings

/-! ## The rules -/

section Lawful

variable {B : BreakerSettings} {label : String} {events : List BreakerEvent} {i j t u : Nat}

theorem successes_add_failures (window : List Outcome) :
    successes window + failures window = window.length := by
  unfold successes failures
  rw [List.length_eq_countP_add_countP (·.success)]
  congr 2
  funext o
  cases o.success <;> rfl

/-- The window of an opening holds enough outcomes, and enough of them failed. -/
theorem OpensAt.justified (htime : Forward events) (hredis : WithinRedis B label events)
    (h : OpensAt B label events i u) :
    B.minSamples ≤ (windowAt B label (events.take i) u).length ∧
      B.thresholdPercent ≤ 100 * failures (windowAt B label (events.take i) u) /
        (windowAt B label (events.take i) u).length := by
  obtain ⟨hsorted, hoccurred⟩ := htime.before h.1
  have htripped := (opens_cases hsorted hoccurred h.2).2.2
  have hmin := B.minSamples_bounds
  have hthreshold := B.thresholdPercent_bounds
  have hshort : (windowAt B label (events.take i) u).length < 2 ^ 32 := by
    rw [← listed_window hsorted hoccurred]
    refine lt_of_le_of_lt ((List.length_filter_le ..).trans ?_) (hredis i)
    unfold BreakerKeys.listed
    split
    · exact le_rfl
    · exact Nat.zero_le _
  unfold Tripped failPct at htripped
  rw [successes_add_failures] at htripped
  refine ⟨htripped.1, ?_⟩
  rw [Nat.le_div_iff_mul_le (by omega)]
  exact mul_le_of_le_percentDouble hshort (by omega) htripped.2

theorem discardsExactly (htime : Forward events) (h : ∀ e ∈ events, e.time ≤ t) :
    DiscardsExactly B label events t := by
  unfold DiscardsExactly
  dsimp only
  by_cases hlabel : label = ""
  · have hwindow : ((breakerRun B label events).listed t).filter (B.inWindow t) = _ :=
      listed_window htime h
    subst hlabel
    rw [breakerRun_noLabel] at hwindow ⊢
    have hempty : ({} : BreakerKeys).listed t = [] := ite_self _
    have hkeys : (checkJumpHostCircuitBreaker B "" {} t).keys = {} := rfl
    rw [hempty, List.filter_nil] at hwindow
    rw [if_neg (by exact Bool.false_ne_true), hkeys, hempty, ← hwindow]
    exact ⟨rfl, rfl⟩
  cases hopen : (breakerRun B label events).isOpen t with
  | true =>
    rw [if_pos rfl]
    exact (check_of_isOpen hlabel hopen).1
  | false =>
    rw [if_neg Bool.false_ne_true, ← listed_window htime h, and_self]
    rcases (check_of_not_isOpen (B := B) hlabel hopen).1 with
      ⟨houtcomes, huntil, hall⟩ | ⟨houtcomes, huntil⟩
    · rw [← hall]
      unfold BreakerKeys.listed
      rw [houtcomes, huntil]
    · rw [BreakerKeys.listed, houtcomes, huntil, if_pos (Nat.le_add_right ..)]

theorem NoFailure.mono (h : NoFailure ((events.take j).drop i)) {j' : Nat} (hj : j' ≤ j) :
    NoFailure ((events.take j').drop i) := by
  intro t ht
  refine h t ?_
  rw [← Nat.min_eq_left hj, ← List.take_take, List.drop_take] at ht
  exact List.mem_of_mem_take ht

/-- Along every history the breaker keeps its rules exactly if the outcomes in the window have
cooled down whenever the seconds of an opening have passed without a further failure. -/
theorem breakerLawful_iff (B : BreakerSettings) (label : String) (events : List BreakerEvent)
    (htime : Forward events) (hredis : WithinRedis B label events) :
    BreakerLawful B label events ↔ Cooled B label events := by
  constructor
  · intro hlawful i j u t hij hi hj hopens hnone hlate htripped
    obtain ⟨hsorted, hoccurred⟩ := htime.before hj
    have hlabel := (opens_cases (htime.before hi).1 (htime.before hi).2 hopens).1
    have hrefuses : Refuses B label (events.take j) t := by
      rw [refuses_iff hsorted hoccurred]
      refine ⟨hlabel, ?_⟩
      cases hopen : (breakerRun B label (events.take j)).isOpen t with
      | true => exact .inl rfl
      | false =>
        refine .inr ⟨?_, htripped⟩
        rw [← listed_window hsorted hoccurred] at htripped
        rcases (check_of_not_isOpen (B := B) hlabel hopen).2 with
          ⟨-, -, -, hopened⟩ | ⟨hnot, -⟩
        · exact hopened
        · exact absurd htripped hnot
    have := hlawful.recovers i j u t hij hi hj hopens hrefuses hnone
    omega
  · intro hcooled
    refine ⟨fun j t hj hrefuses => ?_, fun j t hj => ?_, fun i j u t hij hi hj hopens hrefuses
      hnone => ?_⟩
    · obtain ⟨hsorted, hoccurred⟩ := htime.before hj
      rcases ((refuses_iff hsorted hoccurred).mp hrefuses).2 with hopen | ⟨hopens, -⟩
      · obtain ⟨i, u, hi, hopensAt, hlate⟩ := exists_opensAt_of_isOpen hopen
        exact ⟨i, u, hi.le, hopensAt.1, hopensAt.2, hlate, hopensAt.justified htime hredis⟩
      · have hopensAt : OpensAt B label events j t := ⟨hj, hopens⟩
        exact ⟨j, t, le_rfl, hj, hopens, Nat.le_add_right .., hopensAt.justified htime hredis⟩
    · exact discardsExactly (htime.before hj).1 (htime.before hj).2
    · obtain ⟨hsorted, hoccurred⟩ := htime.before hj
      by_contra hlate
      have hfirst : OpensAt B label events i u := ⟨hi, hopens⟩
      rcases ((refuses_iff hsorted hoccurred).mp hrefuses).2 with hopen | ⟨-, htripped⟩
      · -- the key that refuses was set by a later opening, without a failure before it either
        obtain ⟨i', u', hi', hopensAt, hlate'⟩ := exists_opensAt_of_isOpen hopen
        have hlater : i < i' := by
          rcases Nat.lt_trichotomy i i' with hlt | rfl | hgt
          · exact hlt
          · have heq : u = u' := by simpa [hi] using hopensAt.1
            omega
          · have := hopensAt.after htime hfirst hgt
            omega
        have hsorted' := htime.before hopensAt.1
        exact hcooled i i' u u' hlater hi hopensAt.1 hopens (hnone.mono hi'.le)
          (hfirst.after htime hopensAt hlater)
          (opens_cases hsorted'.1 hsorted'.2 hopensAt.2).2.2
      · exact hcooled i j u t hij hi hj hopens hnone (by omega) htripped

theorem length_outcomes_le : (breakerRun B label events).outcomes.length ≤ events.length := by
  induction events using List.reverseRecOn with
  | nil => exact le_rfl
  | append_singleton events e ih =>
    rw [breakerRun_concat, List.length_append, List.length_singleton]
    have hlisted : ∀ t, ((breakerRun B label events).listed t).length ≤ events.length := by
      intro t
      unfold BreakerKeys.listed
      split
      · exact ih
      · exact Nat.zero_le _
    by_cases hlabel : label = ""
    · subst hlabel
      rw [breakerRun_noLabel]
      cases e <;> exact Nat.zero_le _
    cases e with
    | record success now =>
      have hkeys : (breakerStep B label (breakerRun B label events)
          (.record success now)).outcomes =
            (breakerRun B label events).listed now ++ [⟨success, now⟩] := by
        show (recordJumpHostOutcome B label _ success now).outcomes = _
        rw [recordJumpHostOutcome, if_neg hlabel]
      rw [hkeys, List.length_append, List.length_singleton]
      have := hlisted now
      omega
    | check now =>
      show (checkJumpHostCircuitBreaker B label _ now).keys.outcomes.length ≤ _
      cases hopen : (breakerRun B label events).isOpen now with
      | true =>
        rw [(check_of_isOpen hlabel hopen).1]
        omega
      | false =>
        rcases (check_of_not_isOpen (B := B) hlabel hopen).1 with
          ⟨houtcomes, -⟩ | ⟨houtcomes, -⟩
        · rw [houtcomes]
          omega
        · rw [houtcomes]
          have hwindow := List.length_filter_le (B.inWindow now)
            ((breakerRun B label events).listed now)
          have := hlisted now
          omega

theorem withinRedis_of_short (h : events.length < 2 ^ 32) : WithinRedis B label events := by
  intro i
  refine lt_of_le_of_lt length_outcomes_le (lt_of_le_of_lt ?_ h)
  rw [List.length_take]
  exact Nat.min_le_right ..

end Lawful

/-- Ten failures open the breaker; the check after its minute finds them in the window again. -/
def reopening : List BreakerEvent :=
  List.replicate 10 (.record false 0) ++ [.check 0, .check 60001]

theorem forward_reopening : Forward reopening := by
  unfold Forward
  decide

theorem withinRedis_reopening : WithinRedis {} "10.0.0.1:22" reopening :=
  withinRedis_of_short (by decide)

theorem breakerLawful_iff_reopening :
    BreakerLawful {} "10.0.0.1:22" reopening ↔ Cooled {} "10.0.0.1:22" reopening :=
  breakerLawful_iff {} "10.0.0.1:22" reopening forward_reopening withinRedis_reopening

theorem not_lawful_reopening :
    Forward reopening ∧ WithinRedis {} "10.0.0.1:22" reopening ∧
      ¬ BreakerLawful {} "10.0.0.1:22" reopening := by
  have hopens : Opens {} "10.0.0.1:22" (reopening.take 10) 0 := by
    unfold Opens
    decide +kernel
  have hrefuses : Refuses {} "10.0.0.1:22" (reopening.take 11) 60001 := by
    unfold Refuses
    decide +kernel
  refine ⟨forward_reopening, withinRedis_reopening, fun hlawful => ?_⟩
  have hlate := hlawful.recovers 10 11 0 60001 (by decide) rfl rfl hopens hrefuses nofun
  exact absurd hlate (by decide)

end BackupCenter.JumpHost
