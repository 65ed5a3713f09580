import BackupCenter.Executor.Recorded
import BackupCenter.Extras.Writers

/-!
# Lost updates of `extra_parameters`

The dictionary is what the committed changes make of the first one, in the order of their commits,
exactly as long as every copy is current when it is committed.
-/
namespace BackupCenter.Extras

open BackupCenter.Lib BackupCenter.Executor
open BackupCenter.Tenants (Extra JsonValue legacyKeys)

/-- Every key has the value, or the absence, that the last committed change of it gives. -/
def LastChangeCounts (initial : Extra) (db : ExtraDb) : Prop :=
  ∀ key, db.extra.lookup key =
    (Patch.given db.committed.flatten key).getD (initial.lookup key)

/-- The copy has what the row has now, of all keys that it does not change. If the commit writes
nothing, the row must have the changes already. -/
def Pending.Current (w : Pending) (now : Extra) : Prop :=
  if w.unchanged then AgreeOn (fun key => w.patch.given key ≠ none) w.value now
  else AgreeOn (fun key => w.patch.given key = none) w.copy now

instance (w : Pending) (now : Extra) : Decidable (w.Current now) := by
  unfold Pending.Current
  infer_instance

/-- The command that a client sends next. -/
def nextExtraCmd (s : ExtraClients) (i : Nat) : Option ExtraCmd :=
  match s.clients[i]? with
  | some (.call c _) => some c
  | _ => none

/-- What is committed next was copied from the row as it is. -/
def CopyCurrent (s : ExtraClients) : ExtraEvent → Prop
  | .advance i =>
    match nextExtraCmd s i with
    | some (.commit w) => w.Current s.shared.extra
    | _ => True
  | _ => True

instance (s : ExtraClients) : ∀ e, Decidable (CopyCurrent s e)
  | .advance i => by
    unfold CopyCurrent
    dsimp only
    split <;> infer_instance
  | .spawn _ | .env _ => inferInstanceAs (Decidable True)

variable {initial : Extra} {db : ExtraDb} {w : Pending}

/-- After a commit the last changes count if and only if its keys, and no others, have changed. -/
theorem lastChangeCounts_commit (h : LastChangeCounts initial db) :
    LastChangeCounts initial (handleExtra (.commit w) db).2 ↔
      ∀ key, (handleExtra (.commit w) db).2.extra.lookup key =
        (w.patch.given key).getD (db.extra.lookup key) := by
  have hgiven : ∀ key, (Patch.given (handleExtra (.commit w) db).2.committed.flatten key).getD
      (initial.lookup key) = (w.patch.given key).getD (db.extra.lookup key) := by
    intro key
    have hflatten : (handleExtra (.commit w) db).2.committed.flatten =
        db.committed.flatten ++ w.patch := by
      show (db.committed ++ [w.patch]).flatten = _
      rw [List.flatten_append, List.flatten_singleton]
    rw [hflatten, given_append, h key]
    cases w.patch.given key with
    | none => rfl
    | some value => rfl
  exact forall_congr' fun key => by rw [hgiven key]

theorem lookup_value (key : String) :
    w.value.lookup key = (w.patch.given key).getD (w.copy.lookup key) := lookup_patched

/-- One commit keeps the last changes exactly if its copy is current. -/
theorem commit_iff (h : LastChangeCounts initial db) :
    LastChangeCounts initial (handleExtra (.commit w) db).2 ↔ w.Current db.extra := by
  rw [lastChangeCounts_commit h]
  by_cases hsame : w.unchanged = true
  · have hextra : (handleExtra (.commit w) db).2.extra = db.extra := by
      show (if w.unchanged then db.column else some w.value).getD [] = _
      rw [if_pos hsame]
      rfl
    rw [Pending.Current, if_pos hsame, hextra]
    refine forall_congr' fun key => ?_
    dsimp only
    rw [lookup_value]
    generalize w.patch.given key = given
    cases given with
    | none => simp
    | some value => simp [eq_comm]
  · have hextra : (handleExtra (.commit w) db).2.extra = w.value := by
      show (if w.unchanged then db.column else some w.value).getD [] = _
      rw [if_neg hsame]
      rfl
    rw [Pending.Current, if_neg hsame, hextra]
    refine forall_congr' fun key => ?_
    dsimp only
    rw [lookup_value]
    generalize w.patch.given key = given
    cases given with
    | none => simp
    | some value => simp

/-- One step of any operation. -/
theorem step_iff {s s' : ExtraClients} {e : ExtraEvent} (h : LastChangeCounts initial s.shared)
    (hs : clientStep extraWriters s e = some s') :
    LastChangeCounts initial s'.shared ↔ CopyCurrent s e := by
  cases e with
  | spawn op =>
    obtain rfl := Option.some.inj hs
    exact iff_of_true h trivial
  | advance i =>
    obtain ⟨c, next, hclient, hshared, _⟩ := clientStep_advance hs
    have hcmd : nextExtraCmd s i = some c := by rw [nextExtraCmd, hclient]
    rw [hshared, CopyCurrent, hcmd]
    cases c with
    | read => exact iff_of_true h trivial
    | commit w => exact commit_iff h
  | env x => exact x.elim

theorem copyCurrent_stuck {s : ExtraClients} {e : ExtraEvent}
    (hs : clientStep extraWriters s e = none) : CopyCurrent s e := by
  cases e with
  | spawn op => cases hs
  | advance i =>
    have hcmd : nextExtraCmd s i = none := by
      unfold nextExtraCmd
      split
      next c next hclient =>
        rw [clientStep, hclient] at hs
        cases hs
      next => rfl
    rw [CopyCurrent, hcmd]
    trivial
  | env x => exact x.elim

/-- **No update of `extra_parameters` is lost** in an interleaving of audits, backup runs, subgroup
actions and edits, exactly if every copy is current when it is committed. -/
theorem lastChangeCounts_iff (column : Option Extra) (es : List ExtraEvent) :
    (∀ es₁ es₂ s, es = es₁ ++ es₂ →
      exec (clientStep extraWriters) { shared := { column := column } } es₁ = some s →
      LastChangeCounts (column.getD []) s.shared) ↔
    Along (clientStep extraWriters) CopyCurrent { shared := { column := column } } es := by
  have hstep : ∀ s e s', LastChangeCounts (column.getD []) s.shared →
      clientStep extraWriters s e = some s' →
      (LastChangeCounts (column.getD []) s'.shared ↔ CopyCurrent s e) :=
    fun _ _ _ h hs => step_iff h hs
  exact prefixes_iff_along_all (fun _ _ => copyCurrent_stuck) hstep fun _ => rfl

/-- An operation that loads the row right before its commit loses nothing. -/
theorem current_of_fresh {changes : ExtraPatch} :
    Pending.Current ⟨db.column, db.extra, changes⟩ db.extra := by
  unfold Pending.Current
  split
  next hsame =>
    intro key _
    obtain ⟨loaded, hloaded, hagree⟩ := Option.any_eq_true _ _ |>.mp hsame
    have hcolumn : db.extra = loaded := by
      show db.column.getD [] = _
      rw [show db.column = some loaded from hloaded, Option.getD_some]
    rw [hcolumn] at hagree ⊢
    exact of_decide_eq_true hagree key trivial
  next => exact fun _ _ => rfl

/-! ## An audit that is slower than the others -/

def saved : Outcome where
  success := true
  message := "ok"
  filePath := some "core.rsc"
  fileSize := some 4096
  fileHash := some "5f2a"

def slowAudit : AuditWorld where
  lower := asciiLower
  ipAddress := "10.0.0.1"
  useTelnet := false
  nowIso := "2024-05-01T12:00:00Z"
  pingOk := true
  service := some
    { ok := true, message := some "ok", tcpOk := true, jumpHostOk := false, routeOk := true
      category := some "ok", elapsedMs := 900 }

/-- The audit copies the dictionary; a subgroup action and a backup run commit meanwhile. -/
def slowRun : List ExtraEvent :=
  [.spawn (.audit slowAudit), .spawn (.subgroup true), .spawn (.backup smoothRun saved),
    .advance 0, .advance 1, .advance 1, .advance 2, .advance 2, .advance 0, .advance 0]

def overridden : Option Extra := some [("connection_subgroup_type", jsonText "vpn")]

def Finished (s : ExtraClients) : Prop :=
  ∀ p ∈ s.clients, (match p with | .ret _ => true | .call .. => false) = true

instance (s : ExtraClients) : Decidable (Finished s) := List.decidableBAll _ _

/-- The value of a key, and its last committed change, when all operations have finished. -/
def leftOf (key : String) (es : List ExtraEvent) :
    Option (Option String × Option (Option String)) :=
  (exec (clientStep extraWriters) { shared := { column := overridden } } es).bind fun s =>
    if Finished s then some ((s.shared.extra.lookup key).map (·.text),
      (Patch.given s.shared.committed.flatten key).map fun value => value.map (·.text))
    else none

/-- The audit brings back a key that the subgroup action has removed, and loses what the run has
set. -/
theorem slow_audit_undoes :
    (¬ ∀ (column : Option Extra) (es : List ExtraEvent) (s : ExtraClients),
      exec (clientStep extraWriters) { shared := { column := column } } es = some s →
      Finished s → LastChangeCounts (column.getD []) s.shared) ∧
    leftOf "connection_subgroup_type" slowRun = some (some "vpn", some none) ∧
    leftOf "last_backup_integrity_ok" slowRun = some (none, some (some "True")) := by
  have hback : leftOf "connection_subgroup_type" slowRun = some (some "vpn", some none) := by
    decide +kernel
  refine ⟨fun hall => ?_, hback, by decide +kernel⟩
  obtain ⟨s, hrun, hleft⟩ := Option.bind_eq_some_iff.mp hback
  by_cases hfinished : Finished s
  · rw [if_pos hfinished, Option.some_inj, Prod.mk.injEq, Option.map_eq_some_iff,
      Option.map_eq_some_iff] at hleft
    obtain ⟨⟨value, hvalue, _⟩, change, hchange, hremoved⟩ := hleft
    have hcounts := hall overridden slowRun s hrun hfinished "connection_subgroup_type"
    rw [hvalue, hchange, Option.getD_some] at hcounts
    rw [← hcounts] at hremoved
    cases hremoved
  · rw [if_neg hfinished] at hleft
    cases hleft

end BackupCenter.Extras
