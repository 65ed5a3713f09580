import BackupCenter.Logs.Programs

/-!
# Clearing and pruning the global log

A cleaner writes back what it read, so that an entry which is pushed in between is gone.
The pruning by age pops the head of the list that it has looked at before.
-/
namespace BackupCenter.Logs

open BackupCenter.Lib BackupCenter.Tasks BackupCenter.Realtime

variable (L : LogSettings)

/-- Any number of `append_task_log` calls, and the two cleaners. -/
inductive LogCall where
  | append (q : LogRequest) (tenant : TenantId) (prune : Option Nat)
  | clear
  /-- `prune_global_logs(dry_run=False)` -/
  | prune

def LogCall.program (tenant : TenantId) : LogCall → LogProgram Unit
  | .append q owner rounds => appendTaskLog L q owner rounds
  | .clear => do let _ ← clearTenantGlobalLogs L tenant; return ()
  | .prune => do let _ ← pruneGlobalLogs L 90 false; return ()

/-- Time passes. -/
inductive Passage where
  | tick (d : Nat)

def passage : Passage → LogStore → Option LogStore
  | .tick d, s => some (s.tick d)

abbrev LogRun := Clients LogStore LogCommand LogCommand.Answer Unit

abbrev LogEvent := ClientEvent LogCall Passage

/-- The calls, where `tenant` is the one whose logs are cleared. -/
def logSemantics (tenant : TenantId) :
    Semantics LogStore LogCommand LogCommand.Answer Unit LogCall Passage where
  handle := handle
  program := LogCall.program L tenant
  environment := passage

def logStep (tenant : TenantId) : LogRun → LogEvent → Option LogRun :=
  clientStep (logSemantics L tenant)

/-- The retention that both the pruning by age and `prune_global_logs` grant. -/
def retentionSeconds : Nat := min (90 * 24 * 60 * 60) (ttlSeconds L.env)

/-- An entry of another tenant that is within the retention. -/
def Protected (tenant : TenantId) (now : Nat) : Raw → Bool
  | .unreadable _ => false
  | .entry e => e.tenantId ≠ tenant && e.timestampIso.any (now ≤ · + retentionSeconds L)

/-- Each protected entry that was pushed onto the global list is in it once, and they are in
the order in which they were pushed. -/
def EntriesKept (tenant : TenantId) (s : LogStore) : Prop :=
  (s.items .global).filter (Protected L tenant s.now) =
    (s.pushed .global).filter (Protected L tenant s.now)

/-- The command removes no protected entry: a cleaner writes back all those that the list
holds now, and the pruning by age pops none. -/
def RemovesNone (tenant : TenantId) (s : LogStore) : LogCommand → Prop
  | .rewrite .global keep _ =>
    keep.filter (Protected L tenant s.now) = (s.items .global).filter (Protected L tenant s.now)
  | .lpop .global =>
    ∀ raw, (s.items .global).head? = some raw → Protected L tenant s.now raw = false
  | _ => True

/-- The step removes no protected entry, nor does the list expire while it holds one. -/
def Lossless (tenant : TenantId) (r : LogRun) : LogEvent → Prop
  | .spawn _ => True
  | .advance i =>
    match r.clients[i]? with
    | some (.call c _) => RemovesNone L tenant r.shared c
    | _ => True
  | .env (.tick d) =>
    aliveAt (r.shared.now + d) (r.shared.lists .global).expiry = false →
      (r.shared.items .global).filter (Protected L tenant (r.shared.now + d)) = []

/-- Fewer entries than the global list may hold. -/
def HasRoom (r : LogRun) (_ : LogEvent) : Prop :=
  (r.shared.items .global).length < globalLogMaxEntries L

/-! ## What the programs trim -/

/-- The global list is trimmed to its maximum only. -/
def TrimsToMax (c : LogCommand) : Prop :=
  ∀ n, c = .ltrim .global n → n = globalLogMaxEntries L

section Programs

variable {L} {ρ : Type}

theorem trims_ask {c : LogCommand} (h : TrimsToMax L c) :
    (Prog.ask c : LogProgram c.Answer).Always (TrimsToMax L) :=
  ⟨h, fun _ _ => trivial⟩

theorem trims_pushEntry (e : LogEntry) (prune : Option Nat) :
    (pushEntry L e prune).Always (TrimsToMax L) := by
  have hend : (trimGlobalLogs L prune).Always (TrimsToMax L) :=
    always_trimGlobalLogs nofun nofun nofun (fun n he => (LogCommand.ltrim.inj he).2.symm)
      (fun _ => nofun) (fun _ => nofun) prune
  exact ⟨nofun, fun _ _ => ⟨nofun, fun _ _ => ⟨nofun, fun _ _ => ⟨nofun, fun _ _ =>
    ⟨nofun, fun _ _ => hend⟩⟩⟩⟩⟩

theorem trims_program (tenant : TenantId) (call : LogCall) :
    (call.program L tenant).Always (TrimsToMax L) := by
  cases call with
  | append q owner rounds =>
    show (appendTaskLog L q owner rounds).Always (TrimsToMax L)
    unfold appendTaskLog
    split
    · trivial
    · exact ⟨nofun, fun _ _ => ⟨nofun, fun _ _ => ⟨nofun, fun _ _ => trims_pushEntry ..⟩⟩⟩
  | clear =>
    have hclear : (clearTenantGlobalLogs L tenant).Always (TrimsToMax L) := by
      unfold clearTenantGlobalLogs
      split
      · trivial
      · apply (trims_ask (c := .lrangeAll .global) nofun).bind
        intro raw
        dsimp only
        split
        · trivial
        · split
          · trivial
          · exact ⟨nofun, fun _ _ => trivial⟩
    exact hclear.bind fun _ => trivial
  | prune =>
    have hprune : (pruneGlobalLogs L 90 false).Always (TrimsToMax L) := by
      apply (trims_ask (c := .clock) nofun).bind
      intro now
      apply (trims_ask (c := .lrangeAll .global) nofun).bind
      intro raw
      dsimp only
      split
      · trivial
      · exact ⟨nofun, fun _ _ => trivial⟩
    exact hprune.bind fun _ => trivial

end Programs

/-! ## One step -/

section Steps

variable {L} {tenant : TenantId} {s t : LogStore}

theorem EntriesKept.of_same (h : EntriesKept L tenant s) (hnow : t.now = s.now)
    (hitems : t.items .global = s.items .global) (hpushed : t.pushed .global = s.pushed .global) :
    EntriesKept L tenant t := by
  rw [EntriesKept, hnow, hitems, hpushed]
  exact h

/-- An entry is pushed onto the list and onto its history alike. -/
theorem entriesKept_rpush (h : EntriesKept L tenant s) (k : LogKey) (e : LogEntry) :
    EntriesKept L tenant (handle (.rpush k e) s).2 := by
  by_cases hk : k = .global
  · subst hk
    unfold EntriesKept at h ⊢
    simp only [handle, LogStore.items, LogStore.setList, Function.update_self, List.filter_append]
    rw [← h]
    rfl
  · have hitems : (handle (.rpush k e) s).2.items .global = s.items .global :=
      items_setList_ne (Ne.symm hk)
    have hpushed : (handle (.rpush k e) s).2.pushed .global = s.pushed .global :=
      Function.update_of_ne (Ne.symm hk) ..
    exact h.of_same rfl hitems hpushed

/-- A list with room is not shortened by a trim to its maximum. -/
theorem items_ltrim {n : Nat} (hroom : (s.items .global).length < globalLogMaxEntries L)
    (htrim : TrimsToMax L (.ltrim .global n)) :
    (handle (.ltrim .global n) s).2.items .global = s.items .global := by
  have hn : (s.items .global).length - n = 0 := by
    rw [htrim n rfl]
    omega
  simp [handle, hn]

/-- A command keeps the entries exactly if it removes none that is protected. -/
theorem entriesKept_handle {c : LogCommand} (h : EntriesKept L tenant s)
    (hroom : (s.items .global).length < globalLogMaxEntries L) (htrim : TrimsToMax L c) :
    EntriesKept L tenant (handle c s).2 ↔ RemovesNone L tenant s c := by
  have hframe : ∀ k l, k ≠ .global → EntriesKept L tenant (s.setList k l) := by
    intro k l hk
    exact h.of_same rfl (items_setList_ne (Ne.symm hk)) rfl
  cases c with
  | rpush k e => exact iff_of_true (entriesKept_rpush h k e) trivial
  | ltrim k n =>
    cases k with
    | task id => exact iff_of_true (hframe _ _ nofun) trivial
    | global =>
      have hsame := items_ltrim hroom htrim
      exact iff_of_true (h.of_same rfl hsame rfl) trivial
  | lpop k =>
    cases k with
    | task id => exact iff_of_true (hframe _ _ nofun) trivial
    | global =>
      have hitems : (handle (.lpop .global) s).2.items .global = (s.items .global).tail := by
        simp [handle]
      have hkept : EntriesKept L tenant (handle (.lpop .global) s).2 ↔
          (s.items .global).tail.filter (Protected L tenant s.now) =
            (s.items .global).filter (Protected L tenant s.now) := by
        unfold EntriesKept at h ⊢
        rw [hitems, h]
        exact Iff.rfl
      rw [hkept, RemovesNone]
      cases hlist : s.items .global with
      | nil => simp
      | cons raw rest =>
        cases hP : Protected L tenant s.now raw <;> simp [hP]
  | rewrite k keep ttl =>
    cases k with
    | task id => exact iff_of_true (hframe _ _ nofun) trivial
    | global =>
      have hitems : (handle (.rewrite .global keep ttl) s).2.items .global = keep := by
        simp only [handle, items_setList_self]
        split
        next hempty => exact hempty.symm
        next => rfl
      unfold EntriesKept at h ⊢
      rw [hitems, RemovesNone, h]
      exact Iff.rfl
  | expireList k ttl =>
    apply iff_of_true _ trivial
    simp only [handle]
    split
    · exact h
    · by_cases hk : k = .global
      · subst hk
        exact h.of_same rfl items_setList_self rfl
      · exact hframe _ _ hk
  | expireSeq k ttl =>
    apply iff_of_true _ trivial
    simp only [handle]
    split <;> exact h
  | incr k => exact iff_of_true h trivial
  | clock => exact iff_of_true h trivial
  | getSeq k => exact iff_of_true h trivial
  | llen k => exact iff_of_true h trivial
  | lindexHead k => exact iff_of_true h trivial
  | lrange k start stop => exact iff_of_true h trivial
  | lrangeAll k => exact iff_of_true h trivial

/-- What is protected later is protected now. -/
theorem protected_of_later {now d : Nat} {raw : Raw}
    (h : Protected L tenant (now + d) raw = true) : Protected L tenant now raw = true := by
  cases raw with
  | unreadable text => exact h
  | entry e =>
    simp only [Protected, Bool.and_eq_true, Option.any_eq_true, decide_eq_true_eq] at h ⊢
    obtain ⟨hother, ts, hts, hyoung⟩ := h
    exact ⟨hother, ts, hts, by omega⟩

theorem filter_protected_later {now d : Nat} (l : List Raw) :
    (l.filter (Protected L tenant now)).filter (Protected L tenant (now + d)) =
      l.filter (Protected L tenant (now + d)) := by
  rw [List.filter_filter]
  apply List.filter_congr
  intro raw _
  cases hP : Protected L tenant (now + d) raw with
  | true => rw [protected_of_later hP]; rfl
  | false => rfl

/-- The entries of other tenants that `clear_tenant_global_logs` reads it writes back. -/
theorem protected_cleared {now : Nat} (raws : List Raw) :
    (raws.filter (!belongsTo tenant ·)).filter (Protected L tenant now) =
      raws.filter (Protected L tenant now) := by
  rw [List.filter_filter]
  apply List.filter_congr
  intro raw _
  cases raw with
  | unreadable text => rfl
  | entry e => by_cases hown : e.tenantId = tenant <;> simp [Protected, belongsTo, hown]

/-- The entries within the retention that `prune_global_logs` reads it writes back. -/
theorem protected_pruned {start now : Nat} (hstart : start ≤ now) (raws : List Raw) :
    (raws.filter (!expired start (90 * 24 * 60 * 60) ·)).filter (Protected L tenant now) =
      raws.filter (Protected L tenant now) := by
  rw [List.filter_filter]
  apply List.filter_congr
  intro raw _
  cases hP : Protected L tenant now raw with
  | false => rfl
  | true =>
    cases raw with
    | unreadable text => exact hP
    | entry e =>
      simp only [Protected, Bool.and_eq_true, Option.any_eq_true, decide_eq_true_eq] at hP
      obtain ⟨-, ts, hts, hyoung⟩ := hP
      have hretention : retentionSeconds L ≤ 90 * 24 * 60 * 60 := Nat.min_le_left ..
      have hold : ¬ ts + 90 * 24 * 60 * 60 < start := by omega
      simp only [expired, hts, hold, decide_false, Bool.not_false, Bool.and_self]

theorem entriesKept_tick {d : Nat} (h : EntriesKept L tenant s) :
    EntriesKept L tenant (s.tick d) ↔
      (aliveAt (s.now + d) (s.lists .global).expiry = false →
        (s.items .global).filter (Protected L tenant (s.now + d)) = []) := by
  have hlater : (s.items .global).filter (Protected L tenant (s.now + d)) =
      (s.pushed .global).filter (Protected L tenant (s.now + d)) := by
    rw [← filter_protected_later (s.items .global), h, filter_protected_later]
  show ((if aliveAt (s.now + d) (s.lists .global).expiry then s.lists .global else {}).items.filter
    (Protected L tenant (s.now + d)) =
      (s.pushed .global).filter (Protected L tenant (s.now + d))) ↔ _
  rw [← hlater]
  cases halive : aliveAt (s.now + d) (s.lists .global).expiry with
  | true => exact iff_of_true rfl nofun
  | false => exact ⟨fun hempty _ => hempty.symm, fun hempty => (hempty rfl).symm⟩

/-- One step of the whole system. -/
theorem entriesKept_step {r r' : LogRun} {e : LogEvent}
    (hclients : AllClients (fun _ => True) (fun p _ => p.Always (TrimsToMax L)) r)
    (h : EntriesKept L tenant r.shared) (hroom : HasRoom L r e)
    (hs : logStep L tenant r e = some r') :
    AllClients (fun _ => True) (fun p _ => p.Always (TrimsToMax L)) r' ∧
      (EntriesKept L tenant r'.shared ↔ Lossless L tenant r e) := by
  constructor
  · apply hclients.step hs
    · exact fun call _ => trims_program tenant call
    · exact fun i c next _ _ hp => ⟨trivial, hp.2 _ trivial, fun _ _ _ _ hq => hq⟩
    · exact fun x t _ _ => ⟨trivial, fun _ _ hq => hq⟩
  · cases e with
    | spawn call =>
      obtain rfl := Option.some.inj hs
      exact iff_of_true h trivial
    | advance i =>
      obtain ⟨c, next, hc, hshared, -⟩ := clientStep_advance hs
      have htrim := (hclients.2 _ (List.mem_of_getElem? hc)).1
      simp only [Lossless, hc]
      rw [hshared]
      exact entriesKept_handle h hroom htrim
    | env x =>
      obtain ⟨ht, -⟩ := clientStep_env hs
      cases x with
      | tick d =>
        rw [← Option.some.inj ht]
        exact entriesKept_tick h

/-- A step that is not possible loses nothing. -/
theorem lossless_of_stuck {r : LogRun} {e : LogEvent} (h : logStep L tenant r e = none) :
    Lossless L tenant r e := by
  cases e with
  | spawn call => trivial
  | advance i =>
    simp only [Lossless]
    split
    next c k hc =>
      have hstep : logStep L tenant r (.advance i) =
          some ⟨(handle c r.shared).2, r.clients.set i (k (handle c r.shared).1)⟩ := by
        simp only [logStep, clientStep, hc]
        rfl
      cases h.symm.trans hstep
    next => trivial
  | env x =>
    cases x with
    | tick d => cases h

end Steps

/-! ## Whole runs -/

instance (L : LogSettings) (tenant : TenantId) (s : LogStore) :
    Decidable (EntriesKept L tenant s) := inferInstanceAs (Decidable (_ = _))

instance (L : LogSettings) (r : LogRun) (e : LogEvent) : Decidable (HasRoom L r e) :=
  inferInstanceAs (Decidable (_ < _))

def asciiLogs : LogSettings := { env := .ascii }

def oldEntry (tenant : TenantId) : Raw :=
  .entry ⟨"task", 1, tenant, "OLT", "Backup concluido", .info, some 0, 1⟩

/-- The global list holds one entry of each of two tenants. -/
def twoTenantLogs : LogStore :=
  { lists := Function.update (fun _ => {}) .global ⟨[oldEntry "t", oldEntry "o"], none⟩
    pushed := Function.update (fun _ => []) .global [oldEntry "t", oldEntry "o"] }

/-- The other tenant logs while the cleaner has read the list and not yet written it. -/
def appendDuringClear : List LogEvent :=
  [.spawn .clear, .advance 0, .spawn (.append ⟨"task", "OLT", "Falha", "error"⟩ "o" none),
    .advance 1, .advance 1, .advance 1, .advance 1, .advance 1, .advance 1, .advance 1,
    .advance 1, .advance 0]

end BackupCenter.Logs
