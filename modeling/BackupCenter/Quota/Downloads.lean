import BackupCenter.Lib.Accumulate
import BackupCenter.Lib.Exec
import BackupCenter.Quota.PlanLimits

/-!
# The monthly download quota

The downloads of one tenant within one month, under READ COMMITTED: every query and every commit
is a step. The web endpoint reads the row of the month, compares, and writes the sum back; the
first download of the month inserts the row, and another insertion waits for it. The endpoint of
the external API serves the same files without asking for the quota.
-/
namespace BackupCenter.Quota

open BackupCenter.Lib
open BackupCenter.Tenants (Uuid)

/-! ## The two endpoints -/

/-- A backup as a request finds it, with its device and with the size of the file at its path. -/
structure StoredBackup where
  tenantId : Uuid
  deviceIsActive : Option Bool := some true
  lastBackupStatus : Option String := none
  status : BackupStatus
  filePath : Option String
  fileSizeBytes : Option Int
  onDisk : Option Nat

/-- What the id of a request leads to. -/
inductive Lookup where
  | invalidId
  | notFound
  | backup (b : StoredBackup)

inductive DownloadReply where
  | text (status : Nat) (body : String)
  | flash (message : String)
  | httpException (status : Nat) (detail : String)
  | internalError
  | file (bytes : Nat)
  deriving DecidableEq

/-- Where a download stands: before the query of the row, with the row it found, without one,
with the row it inserted but did not commit, or answered. -/
inductive Phase where
  | consuming
  | found (metric : Metric)
  | missing
  | inserted
  | answered (reply : DownloadReply)
  deriving DecidableEq

structure Download where
  /-- `file_size_bytes`, the size that is counted -/
  size : Nat
  /-- the size of the file that is sent -/
  onDisk : Nat
  phase : Phase
  deriving DecidableEq

/-- A download that is answered with something else than a file. -/
def refusal (reply : DownloadReply) : Download := ⟨0, 0, .answered reply⟩

/-- The size on record, or that of the file where there is none. -/
def StoredBackup.sizeToCount (b : StoredBackup) (onDisk : Nat) : Nat :=
  if 0 < b.fileSizeBytes.getD 0 then (b.fileSizeBytes.getD 0).toNat else onDisk

/-- The file of a backup, if it has a path and the file is there. -/
def StoredBackup.file (b : StoredBackup) : Option Nat :=
  (Tenants.nonempty b.filePath).bind fun _ => b.onDisk

/-- `download_backup` of the web pages, up to the query of the row. -/
def webDownload (tenant : Tenant) : Lookup → Download
  | .invalidId => refusal (.text 400 "Invalid backup ID")
  | .notFound => refusal (.text 404 "Backup not found")
  | .backup b =>
    if b.tenantId ≠ tenant.id then refusal (.text 404 "Backup not found")
    else
      match b.file with
      | none => refusal (.flash "Arquivo de backup não encontrado no servidor.")
      | some onDisk =>
        let size := b.sizeToCount onDisk
        match consumeWithoutMetric tenant size with
        | some result =>
          ⟨size, onDisk, .answered (if result.allowed then .file onDisk else .flash result.reason)⟩
        | none => ⟨size, onDisk, .consuming⟩

/-- `download_backup` of the external API -/
def externalDownload (tenant : Tenant) : Lookup → Download
  | .invalidId => refusal (.httpException 400 "backup_id inválido.")
  | .notFound => refusal (.httpException 404 "Backup não encontrado.")
  | .backup b =>
    if b.tenantId ≠ tenant.id then refusal (.httpException 404 "Backup não encontrado.")
    else if b.deviceIsActive = some false ∨ b.lastBackupStatus ≠ some "success" then
      refusal (.httpException 404 "Backup não encontrado.")
    else if b.status ≠ .success then
      refusal (.httpException 400 "Apenas backups com status 'success' podem ser baixados.")
    else if (Tenants.nonempty b.filePath).isNone then
      refusal (.httpException 404 "Este backup não possui arquivo associado.")
    else
      match b.onDisk with
      | none => refusal (.httpException 404 "Arquivo de backup não encontrado no storage.")
      | some onDisk => ⟨b.sizeToCount onDisk, onDisk, .answered (.file onDisk)⟩

inductive Endpoint where
  | web
  | external
  deriving DecidableEq

def download (tenant : Tenant) : Endpoint → Lookup → Download
  | .web => webDownload tenant
  | .external => externalDownload tenant

/-! ## A month of downloads -/

structure Month where
  metric : Option Metric := none
  downloads : List Download := []

inductive MonthEvent where
  | request (endpoint : Endpoint) (lookup : Lookup)
  | advance (i : Nat)

/-- The comparison and the commit, or the rollback, of a download that holds the row. -/
def settle (tenant : Tenant) (s : Month) (d : Download) (held : Metric) : Option Metric × Phase :=
  match consumeMetric tenant held d.size with
  | (_, some written) => (some written, .answered (.file d.onDisk))
  | (result, none) => (s.metric, .answered (.flash result.reason))

/-- The next query or commit of a download; an insertion waits for one that is not committed,
and fails on a row that is. -/
def nextPhase (tenant : Tenant) (s : Month) (d : Download) : Option (Option Metric × Phase) :=
  match d.phase with
  | .consuming => some (s.metric, s.metric.elim .missing .found)
  | .missing =>
    match s.metric with
    | some row => some (some row, .answered .internalError)
    | none =>
      if s.downloads.any (·.phase = .inserted) then none else some (none, .inserted)
  | .found row => some (settle tenant s d row)
  | .inserted => some (settle tenant s d {})
  | .answered _ => none

def monthStep (tenant : Tenant) (s : Month) : MonthEvent → Option Month
  | .request endpoint lookup =>
    some { s with downloads := s.downloads ++ [download tenant endpoint lookup] }
  | .advance i => do
    let d ← s.downloads[i]?
    let (metric, phase) ← nextPhase tenant s d
    return { metric := metric, downloads := s.downloads.set i { d with phase := phase } }

/-! ## What is served and what is counted -/

def Download.served (d : Download) : Option Nat :=
  match d.phase with
  | .answered (.file bytes) => some bytes
  | _ => none

def Download.refused (d : Download) : Bool :=
  match d.phase with
  | .answered (.file _) => false
  | .answered _ => true
  | _ => false

namespace Month

def servedBytes (s : Month) : Nat := (s.downloads.map fun d => d.served.getD 0).sum

def servedCount (s : Month) : Nat := (s.downloads.map fun d => d.served.elim 0 fun _ => 1).sum

def refusedCount (s : Month) : Nat := (s.downloads.map fun d => if d.refused then 1 else 0).sum

/-- The downloads that hold a row which they have not committed. -/
def insertedCount (s : Month) : Nat :=
  (s.downloads.map fun d => if d.phase = .inserted then 1 else 0).sum

def valueBytes (s : Month) : Int := (s.metric.getD {}).valueBytes

def eventsCount (s : Month) : Int := (s.metric.getD {}).eventsCount

end Month

/-- The downloads that were served keep the limit, and the row counts them. -/
def Accounted (tenant : Tenant) (s : Month) : Prop :=
  (s.servedBytes : Int) ≤ monthlyDownloadLimitBytes tenant.plan ∧
    s.valueBytes = s.servedBytes ∧ s.eventsCount = s.servedCount

instance (tenant : Tenant) (s : Month) : Decidable (Accounted tenant s) :=
  inferInstanceAs (Decidable (_ ∧ _ ∧ _))

/-- A step that refuses a download leaves the row as it is. -/
def RefusalSpares (tenant : Tenant) (s : Month) (e : MonthEvent) : Prop :=
  ∀ s', monthStep tenant s e = some s' → s'.refusedCount ≠ s.refusedCount → s'.metric = s.metric

/-- The row that a download compares with: the one it found, or none before its own. -/
def Download.reads (d : Download) : Option (Option Metric) :=
  match d.phase with
  | .found row => some (some row)
  | .inserted => some none
  | _ => none

/-- Every download that is served is counted with the bytes it sends, and on top of the row as
it then is: none is answered with a file at once, and a commit finds the row that it read. -/
def CountedAlone (tenant : Tenant) (s : Month) : MonthEvent → Prop
  | .request endpoint lookup => (download tenant endpoint lookup).served = none
  | .advance i => ∀ d ∈ s.downloads[i]?, ∀ row ∈ d.reads,
      (row.getD {}).valueBytes + d.size ≤ monthlyDownloadLimitBytes tenant.plan →
      s.metric = row ∧ d.size = d.onDisk

instance (tenant : Tenant) (s : Month) (e : MonthEvent) : Decidable (CountedAlone tenant s e) := by
  cases e with
  | request endpoint lookup => exact inferInstanceAs (Decidable (_ = _))
  | advance i => exact inferInstanceAs (Decidable (∀ d ∈ s.downloads[i]?, _))

/-! ## What one step does -/

section

variable {tenant : Tenant} {s s' : Month} {d : Download} {metric : Option Metric} {phase : Phase}
  {i : Nat}

/-- The next query or commit of a download that is not answered yet. -/
inductive Move (tenant : Tenant) (s : Month) (d : Download) : Option Metric → Phase → Prop where
  | reads (h : d.phase = .consuming) : Move tenant s d s.metric (s.metric.elim .missing .found)
  | inserts (h : d.phase = .missing) (hnone : s.metric = none) (hfree : s.insertedCount = 0) :
    Move tenant s d s.metric .inserted
  | serves (row : Option Metric) (h : d.reads = some row)
    (hfits : (row.getD {}).valueBytes + d.size ≤ monthlyDownloadLimitBytes tenant.plan) :
    Move tenant s d (some ⟨(row.getD {}).valueBytes + d.size, (row.getD {}).eventsCount + 1⟩)
      (.answered (.file d.onDisk))
  | refuses (reply : DownloadReply) (hpending : ∀ r, d.phase ≠ .answered r)
    (hreply : ∀ bytes, reply ≠ .file bytes)
    (hover : ∀ row, d.reads = some row →
      ¬ (row.getD {}).valueBytes + d.size ≤ monthlyDownloadLimitBytes tenant.plan) :
    Move tenant s d s.metric (.answered reply)

theorem Move.pending (h : Move tenant s d metric phase) : ∀ r, d.phase ≠ .answered r := by
  intro r hr
  cases h with
  | reads h =>
    rw [h] at hr
    cases hr
  | inserts h =>
    rw [h] at hr
    cases hr
  | serves row h => simp [Download.reads, hr] at h
  | refuses reply hpending => exact hpending r hr

theorem insertedCount_eq_zero (h : s.downloads.any (·.phase = .inserted) = false) :
    s.insertedCount = 0 := by
  unfold Month.insertedCount
  rw [List.sum_eq_zero_iff]
  intro n hn
  obtain ⟨d, hd, rfl⟩ := List.mem_map.mp hn
  have hne := List.any_eq_false.mp h d hd
  simpa using hne

/-- A download that holds `row` is counted on top of it, if it still fits. -/
theorem move_settle (hlimit : 0 < monthlyDownloadLimitBytes tenant.plan) {row : Option Metric}
    (hreads : d.reads = some row) (h : settle tenant s d (row.getD {}) = (metric, phase)) :
    Move tenant s d metric phase := by
  have hcounts : (consumeMetric tenant (row.getD {}) d.size).2 = _ :=
    consumeMetric_counts hlimit (Int.natCast_nonneg d.size)
  unfold settle at h
  rcases hconsume : consumeMetric tenant (row.getD {}) d.size with ⟨result, written⟩
  rw [hconsume] at h hcounts
  by_cases hfits : (row.getD {}).valueBytes + d.size ≤ monthlyDownloadLimitBytes tenant.plan
  · rw [if_pos hfits] at hcounts
    obtain rfl := hcounts
    obtain ⟨rfl, rfl⟩ := Prod.mk.inj h
    exact .serves row hreads hfits
  · rw [if_neg hfits] at hcounts
    obtain rfl := hcounts
    obtain ⟨rfl, rfl⟩ := Prod.mk.inj h
    refine .refuses _ ?_ (fun bytes h => nomatch h) ?_
    · intro r hr
      simp [Download.reads, hr] at hreads
    · intro row' hrow'
      obtain rfl := Option.some.inj (hreads.symm.trans hrow')
      exact hfits

theorem move_of_nextPhase (hlimit : 0 < monthlyDownloadLimitBytes tenant.plan)
    (h : nextPhase tenant s d = some (metric, phase)) : Move tenant s d metric phase := by
  unfold nextPhase at h
  split at h
  next hphase =>
    obtain ⟨rfl, rfl⟩ := Prod.mk.inj (Option.some.inj h)
    exact .reads hphase
  next hphase =>
    split at h
    next row hrow =>
      obtain ⟨rfl, rfl⟩ := Prod.mk.inj (Option.some.inj h)
      rw [← hrow]
      refine .refuses _ ?_ (fun bytes h => nomatch h) ?_
      · simp [hphase]
      · simp [Download.reads, hphase]
    next hnone =>
      split at h
      · cases h
      next hfree =>
        obtain ⟨rfl, rfl⟩ := Prod.mk.inj (Option.some.inj h)
        rw [← hnone]
        exact .inserts hphase hnone (insertedCount_eq_zero (by simpa using hfree))
  next row hphase =>
    have hreads : d.reads = some (some row) := by
      rw [Download.reads, hphase]
    exact move_settle hlimit hreads (Option.some.inj h)
  next hphase =>
    have hreads : d.reads = some none := by
      rw [Download.reads, hphase]
    exact move_settle hlimit hreads (Option.some.inj h)
  next => cases h

theorem monthStep_advance (hlimit : 0 < monthlyDownloadLimitBytes tenant.plan)
    (h : monthStep tenant s (.advance i) = some s') :
    ∃ d metric phase, s.downloads[i]? = some d ∧ Move tenant s d metric phase ∧
      s' = { metric := metric, downloads := s.downloads.set i { d with phase := phase } } := by
  obtain ⟨d, hd, h⟩ := Option.bind_eq_some_iff.mp h
  obtain ⟨⟨metric, phase⟩, hnext, h⟩ := Option.bind_eq_some_iff.mp h
  exact ⟨d, metric, phase, hd, move_of_nextPhase hlimit hnext, (Option.some.inj h).symm⟩

/-! ## The sums after one step -/

theorem served_of_pending (h : ∀ r, d.phase ≠ .answered r) : d.served = none := by
  unfold Download.served
  split
  next bytes hphase => exact absurd hphase (h _)
  next => rfl

theorem refused_of_pending (h : ∀ r, d.phase ≠ .answered r) : d.refused = false := by
  unfold Download.refused
  split
  next => rfl
  next reply _ hphase => exact absurd hphase (h reply)
  next => rfl

variable {d' : Download}

theorem servedBytes_set (hd : s.downloads[i]? = some d) (h : ∀ r, d.phase ≠ .answered r) :
    (Month.mk metric (s.downloads.set i d')).servedBytes = s.servedBytes + d'.served.getD 0 := by
  have hsum := sum_map_set (f := fun d => d.served.getD 0) hd d'
  simp only [served_of_pending h, Option.getD_none, Nat.add_zero] at hsum
  exact hsum

theorem servedCount_set (hd : s.downloads[i]? = some d) (h : ∀ r, d.phase ≠ .answered r) :
    (Month.mk metric (s.downloads.set i d')).servedCount =
      s.servedCount + d'.served.elim 0 fun _ => 1 := by
  have hsum := sum_map_set (f := fun d => d.served.elim 0 fun _ => 1) hd d'
  simp only [served_of_pending h, Option.elim_none, Nat.add_zero] at hsum
  exact hsum

theorem refusedCount_set (metric : Option Metric) (d' : Download) (hd : s.downloads[i]? = some d)
    (h : ∀ r, d.phase ≠ .answered r) :
    (Month.mk metric (s.downloads.set i d')).refusedCount =
      s.refusedCount + if d'.refused then 1 else 0 := by
  have hsum := sum_map_set (f := fun d => if d.refused then 1 else 0) hd d'
  simp only [refused_of_pending h, Bool.false_eq_true, if_false, Nat.add_zero] at hsum
  exact hsum

theorem insertedCount_set (metric : Option Metric) (d' : Download) (hd : s.downloads[i]? = some d) :
    (Month.mk metric (s.downloads.set i d')).insertedCount +
        (if d.phase = .inserted then 1 else 0) =
      s.insertedCount + if d'.phase = .inserted then 1 else 0 :=
  sum_map_set (f := fun d : Download => if d.phase = .inserted then 1 else 0) hd d'

/-! ## The invariant -/

/-- At most one download holds a row that it inserted, and only while there is no other; and as
long as the row counts what was served, a download that found another row found an older one. -/
structure MonthInv (tenant : Tenant) (s : Month) : Prop where
  oneInserted : s.insertedCount ≤ 1
  insertedFirst : 0 < s.insertedCount → s.metric = none
  foundSome : ∀ d ∈ s.downloads, ∀ row, d.phase = .found row → s.metric ≠ none
  foundOlder : Accounted tenant s → ∀ d ∈ s.downloads, ∀ row, d.phase = .found row →
    s.metric = some row ∨ row.eventsCount < s.eventsCount

theorem monthInv_start : MonthInv tenant {} where
  oneInserted := Nat.zero_le _
  insertedFirst := fun _ => rfl
  foundSome := fun _ hd => nomatch hd
  foundOlder := fun _ _ hd => nomatch hd

/-- A download that compares with a row has found that row, or one that is no longer there. -/
theorem MonthInv.reads (hinv : MonthInv tenant s) (hacc : Accounted tenant s)
    (hd : d ∈ s.downloads) {row : Option Metric} (h : d.reads = some row) :
    s.metric = row ∨ (row.getD {}).eventsCount < s.eventsCount := by
  unfold Download.reads at h
  split at h
  next m hphase =>
    obtain rfl := Option.some.inj h
    exact hinv.foundOlder hacc d hd m hphase
  next hphase =>
    obtain rfl := Option.some.inj h
    have hone := le_sum_map (f := fun d => if d.phase = .inserted then 1 else 0) hd
    simp only [hphase, if_true] at hone
    exact .inl (hinv.insertedFirst hone)
  next => cases h

/-! ## One request -/

/-- A request leaves its download before the query, or answered. -/
theorem download_phase (tenant : Tenant) (endpoint : Endpoint) (lookup : Lookup) :
    (download tenant endpoint lookup).phase = .consuming ∨
      ∃ r, (download tenant endpoint lookup).phase = .answered r := by
  cases endpoint with
  | web =>
    rw [download]
    fun_cases webDownload
    case case6 => exact .inl rfl
    all_goals exact .inr ⟨_, rfl⟩
  | external =>
    rw [download]
    fun_cases externalDownload
    all_goals exact .inr ⟨_, rfl⟩

theorem MonthInv.request (hinv : MonthInv tenant s) (hacc : Accounted tenant s)
    (endpoint : Endpoint) (lookup : Lookup)
    (h : monthStep tenant s (.request endpoint lookup) = some s') :
    MonthInv tenant s' ∧
      (Accounted tenant s' ↔ (download tenant endpoint lookup).served = none) := by
  obtain rfl := Option.some.inj h
  have hphase := download_phase tenant endpoint lookup
  generalize download tenant endpoint lookup = d at hphase
  have hnew : d.phase ≠ .inserted ∧ ∀ row, d.phase ≠ .found row := by
    rcases hphase with hphase | ⟨r, hphase⟩
    · simp [hphase]
    · simp [hphase]
  have hinserted : (Month.mk s.metric (s.downloads ++ [d])).insertedCount = s.insertedCount := by
    unfold Month.insertedCount
    rw [sum_map_concat, if_neg hnew.1, Nat.add_zero]
  have hcount : (Month.mk s.metric (s.downloads ++ [d])).servedCount =
      s.servedCount + d.served.elim 0 fun _ => 1 :=
    sum_map_concat ..
  have hbytes : (Month.mk s.metric (s.downloads ++ [d])).servedBytes =
      s.servedBytes + d.served.getD 0 :=
    sum_map_concat ..
  have hold : ∀ a ∈ s.downloads ++ [d], ∀ row, a.phase = .found row → a ∈ s.downloads := by
    intro a ha row hrow
    rcases List.mem_append.mp ha with ha | ha
    · exact ha
    · obtain rfl := List.mem_singleton.mp ha
      exact absurd hrow (hnew.2 row)
  constructor
  · constructor
    · rw [hinserted]
      exact hinv.oneInserted
    · rw [hinserted]
      exact hinv.insertedFirst
    · intro a ha row hrow
      exact hinv.foundSome a (hold a ha row hrow) row hrow
    · intro _ a ha row hrow
      exact hinv.foundOlder hacc a (hold a ha row hrow) row hrow
  · obtain ⟨hle, hvalue, hevents⟩ := hacc
    unfold Accounted
    rw [hcount, hbytes]
    cases hserved : d.served with
    | none => simpa [hserved] using ⟨hle, hvalue, hevents⟩
    | some n =>
      have hsame : (Month.mk s.metric (s.downloads ++ [d])).eventsCount = s.eventsCount := rfl
      simp only [Option.elim_some, reduceCtorEq, iff_false, hsame]
      omega

/-! ## One query or commit -/

/-- A step that serves nothing and leaves the row keeps the account. -/
theorem Accounted.quiet (hacc : Accounted tenant s) (hd : s.downloads[i]? = some d)
    (h : ∀ r, d.phase ≠ .answered r) (hserved : d'.served = none) :
    Accounted tenant (Month.mk s.metric (s.downloads.set i d')) := by
  unfold Accounted
  rw [servedBytes_set hd h, servedCount_set hd h, hserved]
  exact hacc

/-- The account after a download is counted on top of `row`. -/
theorem accounted_serving (hinv : MonthInv tenant s) (hacc : Accounted tenant s)
    (hd : s.downloads[i]? = some d) {row : Option Metric} (hreads : d.reads = some row)
    (hfits : (row.getD {}).valueBytes + d.size ≤ monthlyDownloadLimitBytes tenant.plan)
    (hserved : d'.served = some d.onDisk) :
    Accounted tenant (Month.mk
        (some ⟨(row.getD {}).valueBytes + d.size, (row.getD {}).eventsCount + 1⟩)
        (s.downloads.set i d')) ↔
      s.metric = row ∧ d.size = d.onDisk := by
  have hpending := (Move.serves (s := s) row hreads hfits).pending
  have hrow := hinv.reads hacc (List.mem_of_getElem? hd) hreads
  obtain ⟨hle, hvalue, hevents⟩ := hacc
  unfold Accounted
  rw [servedBytes_set hd hpending, servedCount_set hd hpending, hserved]
  simp only [Month.valueBytes, Month.eventsCount, Option.getD_some, Option.elim_some] at *
  constructor
  · rintro ⟨hle', hvalue', hevents'⟩
    -- the number of downloads tells an older row from the one that is there
    have hsame : s.metric = row := by
      rcases hrow with hrow | hrow
      · exact hrow
      · omega
    rw [hsame] at hvalue
    exact ⟨hsame, by omega⟩
  · rintro ⟨rfl, hsize⟩
    omega

/-- A step that leaves the row keeps the invariant, if it finds no other row than this one. -/
theorem MonthInv.kept (hinv : MonthInv tenant s) (hacc : Accounted tenant s)
    (hone : (Month.mk s.metric (s.downloads.set i d')).insertedCount ≤ 1)
    (hfirst : 0 < (Month.mk s.metric (s.downloads.set i d')).insertedCount → s.metric = none)
    (hfound : ∀ row, d'.phase = .found row → s.metric = some row) :
    MonthInv tenant (Month.mk s.metric (s.downloads.set i d')) where
  oneInserted := hone
  insertedFirst := hfirst
  foundSome := by
    intro a ha row hrow
    rcases List.mem_or_eq_of_mem_set ha with ha | rfl
    · exact hinv.foundSome a ha row hrow
    · rw [hfound row hrow]
      exact Option.some_ne_none row
  foundOlder := by
    intro _ a ha row hrow
    rcases List.mem_or_eq_of_mem_set ha with ha | rfl
    · exact hinv.foundOlder hacc a ha row hrow
    · exact .inl (hfound row hrow)

/-- A download that commits leaves none with a row of its own, and makes the others' rows old. -/
theorem MonthInv.serving (hinv : MonthInv tenant s) (hacc : Accounted tenant s)
    (hd : s.downloads[i]? = some d) {row : Option Metric} (hreads : d.reads = some row)
    {written : Metric} {bytes : Nat} :
    MonthInv tenant (Month.mk (some written)
      (s.downloads.set i { d with phase := .answered (.file bytes) })) := by
  have hcount := insertedCount_set (some written) { d with phase := .answered (.file bytes) } hd
  have hone := hinv.oneInserted
  have hpending : ∀ r, d.phase ≠ .answered r := by
    intro r hr
    simp [Download.reads, hr] at hreads
  have hfree : (Month.mk (some written)
      (s.downloads.set i { d with phase := .answered (.file bytes) })).insertedCount = 0 := by
    unfold Download.reads at hreads
    split at hreads
    next m hphase =>
      -- the row it found is still there, so that no download holds one of its own
      have hsome := hinv.foundSome d (List.mem_of_getElem? hd) m hphase
      have hnone : s.insertedCount = 0 :=
        Nat.eq_zero_of_not_pos fun hpos => hsome (hinv.insertedFirst hpos)
      simp only [hphase, reduceCtorEq, if_false, Nat.add_zero] at hcount
      rw [hcount, hnone]
    next hphase =>
      simp only [hphase, reduceCtorEq, if_false, if_true, Nat.add_zero] at hcount
      omega
    next => cases hreads
  constructor
  · omega
  · intro hpos
    omega
  · exact fun _ _ _ _ => Option.some_ne_none written
  · intro hacc' a ha m hrow
    right
    have hbefore := hacc.2.2
    have hafter := hacc'.2.2
    rw [servedCount_set hd hpending, Download.served, Option.elim_some] at hafter
    rcases List.mem_or_eq_of_mem_set ha with ha | rfl
    · have holder : m.eventsCount ≤ s.eventsCount := by
        rcases hinv.foundOlder hacc a ha m hrow with hm | hm
        · unfold Month.eventsCount
          rw [hm]
          exact Int.le_refl _
        · omega
      omega
    · cases hrow

/-- Whatever a download does next, the invariant holds. -/
theorem MonthInv.moved (hinv : MonthInv tenant s) (hacc : Accounted tenant s)
    (hd : s.downloads[i]? = some d) (hmove : Move tenant s d metric phase) :
    MonthInv tenant (Month.mk metric (s.downloads.set i { d with phase := phase })) := by
  have hcount := insertedCount_set metric { d with phase := phase } hd
  have hone := hinv.oneInserted
  cases hmove with
  | reads hphase =>
    have hout : s.metric.elim Phase.missing .found ≠ .inserted := by
      cases s.metric <;> simp
    have hfound : ∀ row, s.metric.elim Phase.missing .found = .found row → s.metric = some row := by
      cases s.metric <;> simp
    simp only [hphase, hout, reduceCtorEq, if_false, Nat.add_zero] at hcount
    apply hinv.kept hacc
    · omega
    · rw [hcount]
      exact hinv.insertedFirst
    · exact hfound
  | inserts hphase hnone hfree =>
    simp only [hphase, reduceCtorEq, if_false, if_true, Nat.add_zero] at hcount
    apply hinv.kept hacc
    · omega
    · exact fun _ => hnone
    · intro row hrow
      cases hrow
  | serves row hreads hfits => exact hinv.serving hacc hd hreads
  | refuses reply hpending hreply hover =>
    simp only [reduceCtorEq, if_false, Nat.add_zero] at hcount
    apply hinv.kept hacc
    · omega
    · intro hpos
      exact hinv.insertedFirst (by omega)
    · intro row hrow
      cases hrow

theorem MonthInv.advance (hlimit : 0 < monthlyDownloadLimitBytes tenant.plan)
    (hinv : MonthInv tenant s) (hacc : Accounted tenant s)
    (h : monthStep tenant s (.advance i) = some s') :
    MonthInv tenant s' ∧ (Accounted tenant s' ↔ CountedAlone tenant s (.advance i)) := by
  obtain ⟨d, metric, phase, hd, hmove, rfl⟩ := monthStep_advance hlimit h
  refine ⟨hinv.moved hacc hd hmove, ?_⟩
  have hcond : CountedAlone tenant s (.advance i) ↔ ∀ row, d.reads = some row →
      (row.getD {}).valueBytes + d.size ≤ monthlyDownloadLimitBytes tenant.plan →
      s.metric = row ∧ d.size = d.onDisk := by
    constructor
    · intro hall row
      exact hall d hd row
    · intro hall a ha row
      obtain rfl := Option.some.inj (hd.symm.trans ha)
      exact hall row
  rw [hcond]
  have hpending := hmove.pending
  cases hmove with
  | reads hphase =>
    have hserved : Download.served { d with phase := s.metric.elim .missing .found } = none := by
      unfold Download.served
      cases s.metric with
      | none => rfl
      | some m => rfl
    refine iff_of_true (hacc.quiet hd hpending hserved) ?_
    intro row hreads
    simp [Download.reads, hphase] at hreads
  | inserts hphase hnone hfree =>
    refine iff_of_true (hacc.quiet hd hpending rfl) ?_
    intro row hreads
    simp [Download.reads, hphase] at hreads
  | serves row hreads hfits =>
    rw [accounted_serving hinv hacc hd hreads hfits rfl]
    constructor
    · intro hsame row' hrow' _
      obtain rfl := Option.some.inj (hreads.symm.trans hrow')
      exact hsame
    · exact fun hall => hall row hreads hfits
  | refuses reply hpending hreply hover =>
    have hserved : Download.served { d with phase := .answered reply } = none := by
      unfold Download.served
      split
      next bytes hfile => exact absurd (Phase.answered.inj hfile) (hreply bytes)
      next => rfl
    refine iff_of_true (hacc.quiet hd hpending hserved) ?_
    exact fun row hreads hfits => absurd hfits (hover row hreads)

/-! ## A month -/

theorem MonthInv.step (hlimit : 0 < monthlyDownloadLimitBytes tenant.plan)
    (hinv : MonthInv tenant s) (hacc : Accounted tenant s) {e : MonthEvent}
    (h : monthStep tenant s e = some s') :
    MonthInv tenant s' ∧ (Accounted tenant s' ↔ CountedAlone tenant s e) := by
  cases e with
  | request endpoint lookup => exact hinv.request hacc endpoint lookup h
  | advance i => exact hinv.advance hlimit hacc h

/-- A step that cannot happen counts nothing. -/
theorem countedAlone_of_stuck {e : MonthEvent} (h : monthStep tenant s e = none) :
    CountedAlone tenant s e := by
  cases e with
  | request endpoint lookup => cases h
  | advance i =>
    intro d hd row hrow
    unfold Download.reads at hrow
    simp only [monthStep, Option.mem_def.mp hd, Option.bind_eq_bind, Option.bind_some,
      Option.bind_eq_none_iff] at h
    unfold nextPhase at h
    split at hrow
    next m hphase => simp [hphase] at h
    next hphase => simp [hphase] at h
    next => cases hrow

theorem refusals_spare (hlimit : 0 < monthlyDownloadLimitBytes tenant.plan) (s : Month)
    (e : MonthEvent) : RefusalSpares tenant s e := by
  intro s' h hrefused
  cases e with
  | request endpoint lookup =>
    obtain rfl := Option.some.inj h
    rfl
  | advance i =>
    obtain ⟨d, metric, phase, hd, hmove, rfl⟩ := monthStep_advance hlimit h
    have hcount := refusedCount_set metric { d with phase := phase } hd hmove.pending
    cases hmove with
    | serves row hreads hfits => exact absurd hcount hrefused
    | reads => rfl
    | inserts => rfl
    | refuses => rfl

/-- In a month that starts without a row, the downloads served stay within the limit and the row
counts them, as long as every download is counted on top of the row that it read; and no refusal
changes the row. -/
theorem accounted_iff_countedAlone (tenant : Tenant) (es : List MonthEvent)
    (hlimit : 0 < monthlyDownloadLimitBytes tenant.plan) :
    ((∀ es₁ es₂ s, es = es₁ ++ es₂ → exec (monthStep tenant) {} es₁ = some s →
        Accounted tenant s) ∧
      Along (monthStep tenant) (RefusalSpares tenant) {} es) ↔
      Along (monthStep tenant) (CountedAlone tenant) {} es := by
  have hstart : Accounted tenant {} := ⟨Int.le_of_lt hlimit, rfl, rfl⟩
  have hstep : ∀ s e s', MonthInv tenant s → Accounted tenant s → True →
      monthStep tenant s e = some s' →
      MonthInv tenant s' ∧ (Accounted tenant s' ↔ CountedAlone tenant s e) :=
    fun s e s' hinv hacc _ h => hinv.step hlimit hacc h
  have hruns : (∀ es₁ es₂ s, es = es₁ ++ es₂ → exec (monthStep tenant) {} es₁ = some s →
      Accounted tenant s) ↔ Along (monthStep tenant) (CountedAlone tenant) {} es :=
    prefixes_iff_along (fun s e => countedAlone_of_stuck) hstep monthInv_start hstart along_true
  have hrefusals : Along (monthStep tenant) (RefusalSpares tenant) {} es :=
    along_true.mono fun s e _ => refusals_spare hlimit s e
  rw [hruns, and_iff_left hrefusals]

end

/-! ## Examples -/

/-- One gigabyte a month. -/
def oneGigabyte : Tenant where
  id := 1
  plan := some { downloadQuotaGbMonth := some 1 }

def storedFile (bytes : Nat) : Lookup :=
  .backup
    { tenantId := 1, lastBackupStatus := some "success", status := .success,
      filePath := some "acme/core.rsc", fileSizeBytes := some bytes, onDisk := some bytes }

/-- One download after the other. -/
def oneByOne : List MonthEvent :=
  [.request .web (storedFile 600000000), .advance 0, .advance 0, .advance 0,
    .request .web (storedFile 400000000), .advance 1, .advance 1,
    .request .web (storedFile 600000000), .advance 2, .advance 2]

theorem oneByOne_accounted :
    (∀ es₁ es₂ s, oneByOne = es₁ ++ es₂ → exec (monthStep oneGigabyte) {} es₁ = some s →
        Accounted oneGigabyte s) ∧
      Along (monthStep oneGigabyte) (RefusalSpares oneGigabyte) {} oneByOne :=
  (accounted_iff_countedAlone oneGigabyte oneByOne (by decide)).mpr
    (along_of_check (by decide))

/-- Two downloads that find the same row. -/
def sideBySide : List MonthEvent :=
  [.request .web (storedFile 100), .advance 0, .advance 0, .advance 0,
    .request .web (storedFile 600000000), .request .web (storedFile 600000000),
    .advance 1, .advance 2, .advance 1, .advance 2]

/-- A file larger than the quota is served by the external API, and two downloads together
exceed it and are counted as one. -/
theorem downloads_escape_quota :
    (exec (monthStep oneGigabyte) {} [.request .external (storedFile 2000000000)]).any
        (fun s => s.servedBytes = 2000000000 ∧ ¬ Accounted oneGigabyte s) = true ∧
      (exec (monthStep oneGigabyte) {} sideBySide).any
        (fun s => s.servedBytes = 1200000100 ∧ s.valueBytes = 600000100 ∧ s.eventsCount = 2 ∧
          ¬ Accounted oneGigabyte s) = true := by
  decide

end BackupCenter.Quota
