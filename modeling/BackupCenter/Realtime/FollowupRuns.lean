import BackupCenter.Lib.Budget
import BackupCenter.Lib.Interleaving
import BackupCenter.Realtime.Orderly

/-!
# Scheduling a follow-up

Every child of a batch runs the finaliser. Those that find the batch finished compete for
the decision key, and the winner collects the candidates and schedules the follow-up. The
key lives for thirty days, less than the batch meta itself, so a call that comes later
than that decides again.
-/
namespace BackupCenter.Realtime

open BackupCenter.Lib BackupCenter.Tasks BackupCenter.Bulk

/-- A finaliser call of one child. -/
structure FinaliserCall where
  now : Timestamp
  followupTaskId : TaskId

/-- Other keys change, Celery works, and time passes. -/
inductive Meanwhile where
  | elsewhere (x : Elsewhere)
  | tick (d : Nat)

def meanwhile (batch : TaskId) : Meanwhile → Shared → Option Shared
  | .elsewhere x, s => Realtime.elsewhere (.followupDecision batch) x s
  | .tick d, s => some { s with redis := s.redis.tick d }

def finaliserSemantics (env : Env) (batch : TaskId) :
    Semantics Shared Command Command.Answer Unit FinaliserCall Meanwhile where
  handle := handle
  program call := maybeFinalizeBulkAndScheduleFollowup env batch call.now call.followupTaskId
  environment := meanwhile batch

/-- Finaliser calls of one batch, with the states that the run has passed. -/
abbrev FinaliserRun := Clients (Recorded Shared) Command Command.Answer Unit

abbrev FinaliserEvent := ClientEvent FinaliserCall Meanwhile

def finaliserStep (env : Env) (batch : TaskId) :
    FinaliserRun → FinaliserEvent → Option FinaliserRun :=
  clientStep (finaliserSemantics env batch).recorded

/-! ## What a scheduled follow-up rests on -/

def StoredIn (H : Shared → Prop) (batch : TaskId) (m : TaskMeta) : Prop :=
  ∃ s, H s ∧ s.doc batch = some m

/-- The records of the tasks in one state. -/
def Shared.world (s : Shared) : World := ⟨fun id => (s.doc id).getD {}, s.celery⟩

/-- The records of a child, each as it was in some state of `H`. -/
structure SeenIn (H : Shared → Prop) (w : World) (id : TaskId) : Prop where
  taskMeta : ∃ s, H s ∧ w.taskMeta id = s.world.taskMeta id
  state : ∃ s, H s ∧ (w.celery id).state = (s.celery id).state
  result : ∃ s, H s ∧ (w.celery id).result = (s.celery id).result

/-- What the call that scheduled a follow-up has seen. -/
structure FollowupFounded (env : Env) (batch : TaskId) (H : Shared → Prop) (call : FollowupCall) :
    Prop where
  source : call.sourceBulkTaskId = batch
  finished : ∃ m, StoredIn H batch m ∧ m.isBulk = true ∧ m.totalTasks ≤ m.childIds.length ∧
    ∀ id ∈ m.childIds, ∃ s, H s ∧ bulkChildTaskIsTerminal s.world id = true
  decided : ∃ m w, StoredIn H batch m ∧ m.operationKind = some .backupBulk ∧
    m.cancelRequested = false ∧ (∀ id ∈ m.childIds, SeenIn H w id) ∧
    ∀ d ∈ call.deviceIds, FailedTransiently env w m d

/-- A follow-up is only scheduled on these grounds. -/
def SchedulesFounded (env : Env) (batch : TaskId) (H : Shared → Prop) (c : Command) : Prop :=
  ∀ call, c = .scheduleFollowup call → FollowupFounded env batch H call

section Contract

variable {env : Env} {batch : TaskId} {H : Shared → Prop} {ρ : Type}

/-- The promises of a program whose answers come from states of `H`. -/
abbrev Founded (env : Env) (batch : TaskId) (H : Shared → Prop) (post : ρ → Prop)
    (p : Program ρ) : Prop :=
  p.Respects (SchedulesFounded env batch H) (AnsweredIn handle H) post

theorem IsPlain.founded {p : Program ρ} (h : IsPlain p) :
    Founded env batch H (fun _ => True) p := by
  apply Prog.Always.respects h
  intro c hc call he
  subst he
  exact hc.elim

theorem founded_get (k : RedisKey) :
    Founded env batch H (fun a => ∃ s, H s ∧ a = s.redis.get k) (Client.get k) :=
  ⟨nofun, fun _ ha => ha⟩

theorem founded_getTaskMeta {id : TaskId} (hid : id ≠ "") :
    Founded env batch H (fun r => ∃ s, H s ∧ s.doc id = r) (getTaskMeta id) := by
  simp only [getTaskMeta, hid, ↓reduceIte]
  apply (founded_get _).bind
  intro a ha
  obtain ⟨s, hs, rfl⟩ := ha
  split
  next m hm => exact ⟨s, hs, by simp only [Shared.doc, hm]⟩
  next => exact ⟨s, hs, by simp only [Shared.doc]⟩

theorem founded_readChildren (ids : List TaskId) (w : World) (hne : ∀ id ∈ ids, id ≠ "") :
    Founded env batch H (fun w' => ∀ id, id ∈ ids ∨ SeenIn H w id → SeenIn H w' id)
      (readChildren ids w) := by
  induction ids generalizing w with
  | nil => exact fun id h => h.resolve_left List.not_mem_nil
  | cons id rest ih =>
    obtain ⟨hid, hrest⟩ := List.forall_mem_cons.mp hne
    apply (founded_getTaskMeta hid).bind
    intro m hm
    refine ⟨nofun, fun st hst => ⟨nofun, fun r hr => (ih _ hrest).mono fun w' hw' c hc => ?_⟩⟩
    apply hw' c
    by_cases hcid : c = id
    · subst hcid
      obtain ⟨s, hs, rfl⟩ := hm
      exact .inr ⟨⟨s, hs, Function.update_self ..⟩,
        hst.imp fun s hs => ⟨hs.1, by simp [observe, hs.2, handle]⟩,
        hr.imp fun s hs => ⟨hs.1, by simp [observe, hs.2, handle]⟩⟩
    · refine hc.imp (fun h => (List.mem_cons.mp h).resolve_left hcid) fun h => ⟨?_, ?_, ?_⟩
      · simpa only [observe, Function.update_of_ne hcid] using h.taskMeta
      · simpa only [observe, Function.update_of_ne hcid] using h.state
      · simpa only [observe, Function.update_of_ne hcid] using h.result

/-- A child that was seen as terminal was terminal in some state. -/
theorem terminal_of_seen {w : World} {id : TaskId} (h : SeenIn H w id)
    (ht : bulkChildTaskIsTerminal w id = true) :
    ∃ s, H s ∧ bulkChildTaskIsTerminal s.world id = true := by
  simp only [bulkChildTaskIsTerminal, Bool.or_eq_true] at ht
  obtain ⟨s, hs, hmeta⟩ := h.taskMeta
  obtain ⟨t, ht', hstate⟩ := h.state
  rcases ht with ht | ht
  · refine ⟨s, hs, ?_⟩
    simp only [bulkChildTaskIsTerminal, Bool.or_eq_true, ← hmeta]
    exact .inl ht
  · refine ⟨t, ht', ?_⟩
    simp only [bulkChildTaskIsTerminal, Bool.or_eq_true]
    exact .inr (by simpa only [Shared.world, hstate] using ht)

theorem failedTransiently_applySnapshot {w : World} {m : TaskMeta} {snapshot : Snapshot}
    {d : DeviceId} (h : FailedTransiently env w (m.applySnapshot snapshot) d) :
    FailedTransiently env w m d := by
  cases h with
  | skipped raw hmem hid => exact .skipped raw hmem hid
  | detail id hchild items item hitems hmem hfailed hid hretry =>
    exact .detail id hchild items item hitems hmem hfailed hid hretry
  | child id hchild hreported hfailed fallback hid hretry =>
    exact .child id hchild hreported hfailed fallback hid hretry

theorem mem_childIds_ne {m : TaskMeta} : ∀ id ∈ m.childIds, id ≠ "" := by
  intro id hid
  simpa using (List.mem_filter.mp hid).2

/-- The batch meta that the decision works with was stored, up to the snapshot. -/
theorem founded_finalizeBatch (hb : batch ≠ "") {m : TaskMeta} (hm : StoredIn H batch m)
    (snapshot : Snapshot) :
    Founded env batch H
      (fun m' => (∃ m, StoredIn H batch m ∧ m' = m.applySnapshot snapshot) ∨ m' = {})
      (finalizeBatch env batch m snapshot) := by
  simp only [finalizeBatch]
  split
  · exact .inl ⟨m, hm, rfl⟩
  · apply (plain_updateTaskMeta ..).founded.bind
    intro _ _
    apply (founded_getTaskMeta hb).bind
    intro r hr
    split
    next m' =>
      obtain ⟨s, hs, hdoc⟩ := hr
      exact .inl ⟨m', ⟨s, hs, hdoc⟩, rfl⟩
    next => exact .inr rfl

theorem founded_decideFollowup {m m' : TaskMeta} {snapshot : Snapshot} {now : Timestamp}
    {id : TaskId} (hfinished : StoredIn H batch m ∧ m.isBulk = true ∧
      m.totalTasks ≤ m.childIds.length ∧
      ∀ c ∈ m.childIds, ∃ s, H s ∧ bulkChildTaskIsTerminal s.world c = true)
    (hm' : StoredIn H batch m') (hkind : m'.operationKind = some .backupBulk)
    (hcancel : m'.cancelRequested = false) :
    Founded env batch H (fun _ => True)
      (decideFollowup env batch (m'.applySnapshot snapshot) now id) := by
  apply (founded_readChildren _ _ mem_childIds_ne).bind
  intro w hw
  simp only
  split
  · exact (plain_updateTaskMeta ..).founded
  · refine ⟨fun call he => ?_, fun _ _ => (plain_updateTaskMeta ..).founded⟩
    obtain rfl := Command.scheduleFollowup.inj he
    exact ⟨rfl, ⟨m, hfinished⟩, m', w, hm', hkind, hcancel, fun c hc => hw c (.inl hc),
      fun d hd => failedTransiently_applySnapshot (collected_failed hd)⟩

/-- A finaliser call schedules only on the grounds of what it has read. -/
theorem founded_finalise (now : Timestamp) (id : TaskId) :
    Founded env batch H (fun _ => True)
      (maybeFinalizeBulkAndScheduleFollowup env batch now id) := by
  simp only [maybeFinalizeBulkAndScheduleFollowup]
  split
  · trivial
  next hb =>
    apply (founded_getTaskMeta hb).bind
    intro r hr
    split
    · trivial
    next hbulk =>
      have hstored : StoredIn H batch (r.getD {}) := by
        obtain ⟨s, hs, hdoc⟩ := hr
        cases r with
        | none => exact absurd rfl hbulk
        | some m => exact ⟨s, hs, hdoc⟩
      apply (founded_readChildren _ _ mem_childIds_ne).bind
      intro w hw
      split
      · trivial
      next snapshot hsnapshot =>
        have hready := snapshot_isSome_iff.mp (Option.isSome_iff_exists.mpr ⟨_, hsnapshot⟩)
        apply (founded_finalizeBatch hb hstored snapshot).bind
        intro m' hm'
        split
        · trivial
        next hkind =>
          split
          · trivial
          next hcancel =>
            refine Prog.Respects.bind (p := Client.setnx ..) ⟨fun _ h => ?_, fun _ _ => trivial⟩
              fun won _ => ?_
            · cases h
            split
            · rcases hm' with ⟨m₁, hm₁, rfl⟩ | rfl
              · have huncancelled : m₁.cancelRequested = false := by
                  simp only [TaskMeta.applySnapshot, Bool.or_eq_true, not_or] at hcancel
                  simpa using hcancel.2
                refine founded_decideFollowup ⟨hstored, by simpa using hbulk, hready.2.1, ?_⟩ hm₁
                  (by simpa [TaskMeta.applySnapshot] using hkind) huncancelled
                exact fun c hc => terminal_of_seen (hw c (.inl hc)) (hready.2.2 c hc)
              · simp at hkind
            · trivial

end Contract

/-! ## One schedule for each decision -/

/-- The decisions about the batch, latest first. -/
def Shared.decisions (s : Shared) (batch : TaskId) : List Won :=
  s.won.filter (·.key = .followupDecision batch)

def spendsSchedule : Command → Nat
  | .scheduleFollowup _ => 1
  | _ => 0

/-- Winning the decision key of the batch permits one schedule. -/
def earnsDecision (batch : TaskId) : (c : Command) → c.Answer → Nat
  | .setnx k _ _, won => if k = .followupDecision batch ∧ won = true then 1 else 0
  | _, _ => 0

section Budget

variable {env : Env} {batch : TaskId} {ρ : Type}

theorem IsPlain.spends_nothing {p : Program ρ} (h : IsPlain p) :
    p.Always fun c => spendsSchedule c = 0 := by
  apply Prog.Always.respects h
  intro c hc
  cases c with
  | scheduleFollowup call => exact hc.elim
  | _ => rfl

theorem decideFollowup_affords (m : TaskMeta) (now : Timestamp) (id : TaskId) :
    (decideFollowup env batch m now id).Affords (earnsDecision batch) spendsSchedule 1 := by
  apply (plain_readChildren _ _).spends_nothing.affords_bind
  intro w
  simp only
  split
  · exact (plain_updateTaskMeta ..).spends_nothing.affords
  · exact ⟨Nat.le_refl 1, fun _ => (plain_updateTaskMeta ..).spends_nothing.affords⟩

theorem finalise_affords (now : Timestamp) (id : TaskId) :
    (maybeFinalizeBulkAndScheduleFollowup env batch now id).Affords (earnsDecision batch)
      spendsSchedule 0 := by
  simp only [maybeFinalizeBulkAndScheduleFollowup]
  split
  · trivial
  · apply (plain_getTaskMeta batch).spends_nothing.affords_bind
    intro r
    split
    · trivial
    · apply (plain_readChildren _ _).spends_nothing.affords_bind
      intro w
      split
      · trivial
      · apply (plain_finalizeBatch ..).spends_nothing.affords_bind
        intro m
        split
        · trivial
        · split
          · trivial
          · refine ⟨Nat.zero_le _, fun won => ?_⟩
            cases won with
            | false => trivial
            | true =>
              have hearn : earnsDecision batch (.setnx (.followupDecision batch) decisionTtl
                  (.text "1")) true = 1 := by simp [earnsDecision]
              rw [hearn]
              exact decideFollowup_affords m now id

end Budget

/-! ## Decisions lie thirty days apart -/

/-- The decision key expires thirty days after the latest decision. -/
structure DecisionsApart (batch : TaskId) (start : Nat) (s : Shared) : Prop where
  start_le : start ≤ s.redis.now
  apart : s.decisions batch = [] ∨ ∃ v t,
    s.redis.entries (.followupDecision batch) = some (v, t + decisionTtl) ∧ t ≤ s.redis.now ∧
      start + decisionTtl * ((s.decisions batch).length - 1) ≤ t

section Apart

variable {batch : TaskId} {start : Nat} {s t : Shared} {c : Command}

theorem DecisionsApart.of_frame (h : DecisionsApart batch start s) (hwon : t.won = s.won)
    (hentry : t.redis.entries (.followupDecision batch) =
      s.redis.entries (.followupDecision batch)) (hnow : s.redis.now ≤ t.redis.now) :
    DecisionsApart batch start t := by
  refine ⟨h.start_le.trans hnow, ?_⟩
  rw [Shared.decisions, hwon, hentry]
  apply h.apart.imp_right
  rintro ⟨v, u, hentry, hle, hapart⟩
  exact ⟨v, u, hentry, hle.trans hnow, hapart⟩

/-- A conditional write of another key leaves the decisions as they are. -/
theorem decisions_setnx_ne {k : RedisKey} {ttl : Nat} {v : RedisValue}
    (hk : k ≠ .followupDecision batch) :
    (handle (.setnx k ttl v) s).2.decisions batch = s.decisions batch := by
  simp only [Shared.decisions, handle]
  split
  · rw [List.filter_cons_of_neg (by simpa using hk)]
  · rfl

theorem DecisionsApart.setnx (h : DecisionsApart batch start s) (v : RedisValue) :
    DecisionsApart batch start (handle (.setnx (.followupDecision batch) decisionTtl v) s).2 := by
  by_cases hfree : s.redis.get (.followupDecision batch) = none
  · have hwon : (s.redis.setnx (.followupDecision batch) decisionTtl v).1 = true :=
      Store.setnx_eq_true.mpr hfree
    have hdec : (handle (.setnx (.followupDecision batch) decisionTtl v) s).2.decisions batch =
        ⟨.followupDecision batch, v, s.redis.now⟩ :: s.decisions batch := by
      simp [Shared.decisions, handle, hwon]
    have hnow : (handle (.setnx (.followupDecision batch) decisionTtl v) s).2.redis.now =
        s.redis.now := handle_now ..
    refine ⟨hnow ▸ h.start_le, .inr ⟨v, s.redis.now, ?_, hnow ▸ Nat.le_refl _, ?_⟩⟩
    · simp only [handle, Store.setnx_store_of_free hfree, Store.setex, Function.update_self]
    · rw [hdec, List.length_cons, Nat.add_sub_cancel]
      rcases h.apart with hnil | ⟨u, t, hentry, hle, hapart⟩
      · simpa [hnil] using h.start_le
      · -- the entry of the decision before has expired
        have hexpired : t + decisionTtl ≤ s.redis.now := by
          simp only [Store.get, hentry] at hfree
          split at hfree
          · cases hfree
          · omega
        cases hlen : (s.decisions batch).length with
        | zero => simpa using h.start_le
        | succ n =>
          rw [hlen, Nat.add_sub_cancel] at hapart
          rw [Nat.mul_succ]
          omega
  · have hlost : (s.redis.setnx (.followupDecision batch) decisionTtl v).1 = false := by
      rw [← Bool.not_eq_true, Store.setnx_eq_true]
      exact hfree
    have hstore : (handle (.setnx (.followupDecision batch) decisionTtl v) s).2.redis = s.redis :=
      Store.setnx_store_of_held hfree
    refine h.of_frame ?_ (by rw [hstore]) (by rw [hstore])
    simp [handle, hlost]

/-- A command that does not write the decision key leaves the decisions apart. -/
theorem DecisionsApart.of_writes (h : DecisionsApart batch start s)
    (hc : c.writes ≠ some (.followupDecision batch)) :
    DecisionsApart batch start (handle c s).2 := by
  have hnow : s.redis.now ≤ (handle c s).2.redis.now := (handle_now c s).ge
  cases c with
  | setex k ttl v =>
    exact h.of_frame rfl (Function.update_of_ne (fun he => hc (congrArg some he.symm)) ..) hnow
  | delete k =>
    exact h.of_frame rfl (Function.update_of_ne (fun he => hc (congrArg some he.symm)) ..) hnow
  | setnx k ttl v =>
    have hk : k ≠ .followupDecision batch := fun he => hc (congrArg some he)
    refine ⟨h.start_le.trans hnow, ?_⟩
    rw [decisions_setnx_ne hk]
    apply h.apart.imp_right
    rintro ⟨u, t, hentry, hle, hapart⟩
    refine ⟨u, t, ?_, hle.trans hnow, hapart⟩
    rw [← hentry]
    simp only [handle, Store.setnx]
    split
    · rfl
    · exact Function.update_of_ne (Ne.symm hk) ..
  | get k => exact h
  | celeryState id => exact h
  | celeryResult id => exact h
  | scheduleFollowup call => exact h.of_frame rfl rfl hnow

theorem DecisionsApart.handle (h : DecisionsApart batch start s) (hc : c.Orderly) :
    DecisionsApart batch start (handle c s).2 := by
  by_cases hw : c.writes = some (.followupDecision batch)
  · cases c with
    | setnx k ttl v =>
      obtain rfl : k = .followupDecision batch := Option.some.inj hw
      obtain rfl : ttl = decisionTtl := hc
      exact h.setnx v
    | setex k ttl v =>
      obtain rfl : k = .followupDecision batch := Option.some.inj hw
      exact hc.elim
    | delete k =>
      obtain rfl : k = .followupDecision batch := Option.some.inj hw
      exact hc.elim
    | _ => cases hw
  · exact h.of_writes hw

theorem DecisionsApart.meanwhile (h : DecisionsApart batch start s) {x : Meanwhile}
    (ht : meanwhile batch x s = some t) : DecisionsApart batch start t := by
  cases x with
  | elsewhere x =>
    obtain ⟨hnow, hentry, hwon, -⟩ := elsewhere_frame ht
    exact h.of_frame hwon hentry hnow.ge
  | tick d =>
    obtain rfl := Option.some.inj ht
    exact h.of_frame rfl rfl (Nat.le_add_right ..)

end Apart

/-! ## Whole runs -/

/-- The invariant of the recorded system. -/
structure FollowupInv (env : Env) (batch : TaskId) (start : Nat) (r : FinaliserRun) : Prop where
  solvent : Solvent (earnsDecision batch) spendsSchedule (fun s => s.now.scheduled.length)
    (fun s => (s.now.decisions batch).length) r
  apart : AllClients (fun s => DecisionsApart batch start s.now) (fun p _ => IsOrderly p) r
  founded : AllClients
    (fun s => ∀ call ∈ s.now.scheduled, FollowupFounded env batch (· ∈ s.past) call)
    (Justified handle (SchedulesFounded env batch)) r

theorem FollowupFounded.mono {env : Env} {batch : TaskId} {H H' : Shared → Prop}
    {call : FollowupCall} (h : FollowupFounded env batch H call) (hsub : ∀ s, H s → H' s) :
    FollowupFounded env batch H' call := by
  have hstored : ∀ {m}, StoredIn H batch m → StoredIn H' batch m :=
    fun ⟨s, hs, hm⟩ => ⟨s, hsub s hs, hm⟩
  obtain ⟨m, hm, hbulk, hlen, hterm⟩ := h.finished
  obtain ⟨m', w, hm', hkind, hcancel, hseen, hfailed⟩ := h.decided
  refine ⟨h.source, ⟨m, hstored hm, hbulk, hlen, fun id hid => ?_⟩,
    m', w, hstored hm', hkind, hcancel, fun id hid => ?_, hfailed⟩
  · exact (hterm id hid).imp fun s hs => ⟨hsub s hs.1, hs.2⟩
  · obtain ⟨h1, h2, h3⟩ := hseen id hid
    exact ⟨h1.imp fun s hs => ⟨hsub s hs.1, hs.2⟩, h2.imp fun s hs => ⟨hsub s hs.1, hs.2⟩,
      h3.imp fun s hs => ⟨hsub s hs.1, hs.2⟩⟩

theorem scheduled_handle (c : Command) (s : Shared) :
    (handle c s).2.scheduled = s.scheduled ∨
      ∃ call, c = .scheduleFollowup call ∧ (handle c s).2.scheduled = call :: s.scheduled := by
  cases c with
  | scheduleFollowup call => exact .inr ⟨call, rfl, rfl⟩
  | _ => exact .inl rfl

theorem meanwhile_scheduled {batch : TaskId} {x : Meanwhile} {s t : Shared}
    (h : meanwhile batch x s = some t) : t.scheduled = s.scheduled ∧ t.won = s.won := by
  cases x with
  | elsewhere x =>
    obtain ⟨-, -, hwon, hscheduled⟩ := elsewhere_frame h
    exact ⟨hscheduled, hwon⟩
  | tick d =>
    obtain rfl := Option.some.inj h
    exact ⟨rfl, rfl⟩

/-- Each win of the decision key is one decision more. -/
theorem decisions_length {batch : TaskId} (c : Command) (s : Shared) :
    ((handle c s).2.decisions batch).length =
      (s.decisions batch).length + earnsDecision batch c (handle c s).1 := by
  cases c with
  | setnx k ttl v =>
    cases hwon : (s.redis.setnx k ttl v).1 with
    | false => simp [Shared.decisions, handle, earnsDecision, hwon]
    | true =>
      by_cases hk : k = .followupDecision batch
      · subst hk
        simp [Shared.decisions, handle, earnsDecision, hwon]
      · rw [decisions_setnx_ne hk]
        simp [earnsDecision, hk]
  | _ => rfl

theorem FollowupInv.step {env : Env} {batch : TaskId} {start : Nat} {r r' : FinaliserRun}
    {e : FinaliserEvent} (h : FollowupInv env batch start r)
    (hs : finaliserStep env batch r e = some r') : FollowupInv env batch start r' := by
  refine ⟨?_, ?_, ?_⟩
  · refine h.solvent.step hs (fun call => finalise_affords ..) (fun c t => ?_) (fun c t => ?_) ?_
    · cases c <;> rfl
    · exact decisions_length c t.now
    · intro x t u hu
      obtain ⟨v, hv, rfl⟩ := Option.map_eq_some_iff.mp hu
      obtain ⟨hscheduled, hwon⟩ := meanwhile_scheduled hv
      exact ⟨congrArg List.length hscheduled, by simp only [Shared.decisions, hwon]⟩
  · refine h.apart.step hs (fun call _ => orderly_finalise ..) (fun i c next _ _ hp => ?_)
      fun x t _ ht => ?_
    · exact ⟨h.apart.1.handle hp.1, hp.2 _ trivial, fun j q _ _ hq => hq⟩
    · obtain ⟨u, hu, rfl⟩ := Option.map_eq_some_iff.mp ht
      exact ⟨h.apart.1.meanwhile hu, fun q _ hq => hq⟩
  · have hold : ∀ call ∈ r.shared.now.scheduled,
        FollowupFounded env batch (· ∈ r.shared.now :: r.shared.past) call :=
      fun call hcall => (h.founded.1 call hcall).mono fun s hs => List.mem_cons_of_mem _ hs
    refine AllClients.recorded_step (S := finaliserSemantics env batch) h.founded hs
      (fun call H => founded_finalise ..) (fun c hc call hcall => ?_) fun x t ht call hcall => ?_
    · rcases scheduled_handle c r.shared.now with heq | ⟨call', rfl, heq⟩
      · exact hold call (heq ▸ hcall)
      · rcases List.mem_cons.mp (heq ▸ hcall) with rfl | hcall
        · exact hc call rfl
        · exact hold call hcall
    · exact hold call ((meanwhile_scheduled ht).1 ▸ hcall)

/-- **Follow-ups are rare and founded**: a batch gets at most one follow-up for each thirty
days that have begun, and only a finished backup batch that was read without a cancel
request gets one, for devices that were skipped or failed for a retriable reason. -/
theorem followups_bounded (env : Env) (batch : TaskId) (s₀ : Shared) (es : List FinaliserEvent)
    (r : FinaliserRun) (hwon : s₀.won = []) (hscheduled : s₀.scheduled = [])
    (hrun : exec (finaliserStep env batch) { shared := ⟨s₀, []⟩ } es = some r) :
    r.shared.now.scheduled.length ≤
        (r.shared.now.redis.now - s₀.redis.now) / decisionTtl + 1 ∧
      ∀ call ∈ r.shared.now.scheduled, FollowupFounded env batch (· ∈ r.shared.past) call := by
  have hstart : FollowupInv env batch s₀.redis.now { shared := ⟨s₀, []⟩ } :=
    ⟨⟨0, .nil, by simp [hscheduled]⟩,
      ⟨⟨Nat.le_refl _, .inl (by simp [Shared.decisions, hwon])⟩, nofun⟩,
      ⟨by simp [hscheduled], nofun⟩⟩
  have hinv : FollowupInv env batch s₀.redis.now r :=
    exec_invariant_all (fun _ _ _ hi hs => hi.step hs) hstart hrun
  refine ⟨?_, hinv.founded.1⟩
  obtain ⟨n, -, hle⟩ := hinv.solvent
  have hdecisions : (r.shared.now.decisions batch).length ≤
      (r.shared.now.redis.now - s₀.redis.now) / decisionTtl + 1 := by
    rcases hinv.apart.1.apart with hnil | ⟨v, t, -, ht, hapart⟩
    · simp [hnil]
    · have hpos : 0 < decisionTtl := by decide
      have hdiv : (r.shared.now.decisions batch).length - 1 ≤
          (r.shared.now.redis.now - s₀.redis.now) / decisionTtl := by
        rw [Nat.le_div_iff_mul_le hpos, Nat.mul_comm]
        omega
      omega
  exact (Nat.le_add_right _ n).trans (hle.trans hdecisions)

/-- A batch whose only child has failed with a timeout. -/
def timedOutStore : Shared :=
  { redis :=
      (({} : Store RedisKey RedisValue).setex (.taskMeta "batch") (ttlSeconds .ascii)
        (.doc { isBulk := true, tenantId := "t", operationKind := some .backupBulk
                childTaskIds := ["child"], totalTasks := 1 })).setex
        (.taskMeta "child") (ttlSeconds .ascii)
        (.doc { completed := true, deviceId := "device"
                result := some { success := some 0, failureCategory := "timeout" } }) }

/-- The child's own call, up to the schedule. -/
def firstCall : List FinaliserEvent :=
  .spawn ⟨0, "followup-1"⟩ :: List.replicate 12 (.advance 0)

theorem first_call_schedules_once :
    ∃ r, exec (finaliserStep .ascii "batch") { shared := ⟨timedOutStore, []⟩ } firstCall = some r ∧
      r.shared.now.scheduled.length = 1 ∧
      ∀ call ∈ r.shared.now.scheduled,
        FollowupFounded .ascii "batch" (· ∈ r.shared.past) call :=
  ⟨_, rfl, rfl, (followups_bounded .ascii "batch" timedOutStore firstCall _ rfl rfl rfl).2⟩

/-- The call is repeated after the decision key has expired. -/
def lateCall : List FinaliserEvent :=
  firstCall ++ [.env (.tick (60 * 60 * 24 * 31)), .spawn ⟨0, "followup-2"⟩] ++
    List.replicate 9 (.advance 1)

theorem late_call_schedules_again :
    ¬ ∀ (env : Env) (batch : TaskId) (s₀ : Shared) (es : List FinaliserEvent) (r : FinaliserRun),
      s₀.won = [] → s₀.scheduled = [] →
      exec (finaliserStep env batch) { shared := ⟨s₀, []⟩ } es = some r →
      r.shared.now.scheduled.length ≤ 1 := by
  intro hall
  have h := hall .ascii "batch" timedOutStore lateCall _ rfl rfl rfl
  exact absurd h (by decide)

end BackupCenter.Realtime
