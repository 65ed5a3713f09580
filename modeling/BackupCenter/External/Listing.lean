import BackupCenter.External.Tokens
import BackupCenter.Lib.Pages
import BackupCenter.Quota.Downloads
import Mathlib.Data.Int.Order.Basic
import Mathlib.Order.WithBot

/-!
# The endpoints of the external API

A client lists the groups of its tenant, then the backups of a group page by page, and downloads
what is listed. Each page is a query of its own, ordered by `created_at` alone.
-/
namespace BackupCenter.External

open BackupCenter.Lib
open BackupCenter.Tenants (Uuid DeviceGroup)
open BackupCenter.Quota (BackupStatus)

/-! ## The tables -/

structure Device where
  id : Uuid
  tenantId : Uuid
  groupId : Option Uuid := none
  name : String
  isActive : Option Bool := some true
  lastBackupStatus : Option String := none
  deriving DecidableEq

structure Backup where
  id : Uuid
  deviceId : Uuid
  filePath : Option String := none
  fileSizeBytes : Option Int := none
  hashSha256 : Option String := none
  status : BackupStatus := .pending
  createdAt : Option Int := none
  deriving DecidableEq

instance : Keyed Device Uuid := ⟨Device.id⟩
instance : Keyed Backup Uuid := ⟨Backup.id⟩

structure Archive where
  groups : Table DeviceGroup := .empty
  devices : Table Device := .empty
  backups : Table Backup := .empty
  /-- the size of the file at a path -/
  onDisk : String → Option Nat := fun _ => none

/-- The device of a backup, by its foreign key. -/
def Archive.deviceOf (s : Archive) (b : Backup) : Option Device := s.devices.find b.deviceId

/-- `_external_success_device_filters` -/
def exposed (d : Device) : Bool := d.isActive ≠ some false && d.lastBackupStatus = some "success"

/-- Moments in their order, and after all of them a missing one. -/
instance createdKeyOrder : LinearOrder (WithTop Int) := @WithTop.linearOrder Int Int.instLinearOrder

/-- `ORDER BY created_at DESC`, in which `NULL` comes first. -/
def createdKey (b : Backup) : WithTop Int := b.createdAt

/-! ## Groups -/

structure GroupResponseItem where
  id : Uuid
  name : String
  deviceCount : Nat
  lastBackupAt : Option Int
  deriving DecidableEq

structure GroupsResponse where
  total : Nat
  groups : List GroupResponseItem
  deriving DecidableEq

/-- The successful backups of the exposed devices of a group. -/
def successBackups (groupId : Uuid) (s : Archive) : List Backup :=
  s.backups.rows.filter fun b => (s.deviceOf b).any fun d =>
    d.groupId = some groupId && exposed d && b.status = .success

/-- The last backup of a group; an exception where it has no `created_at`. -/
def lastBackupAt (order : DescendingOrder createdKey) (groupId : Uuid) (s : Archive) :
    Except HttpException (Option Int) :=
  match (order.apply (successBackups groupId s)).head? with
  | none => .ok none
  | some b => (demand b.createdAt ⟨500, "Internal Server Error"⟩).map some

def groupItem (order : DescendingOrder createdKey) (s : Archive) (g : DeviceGroup) :
    Except HttpException GroupResponseItem := do
  let lastBackup ← lastBackupAt order g.id s
  return {
    id := g.id
    name := g.name
    deviceCount := s.devices.rows.countP fun d => d.groupId = some g.id && exposed d
    lastBackupAt := lastBackup }

/-- `list_groups` -/
def listGroups (groupOrder : RowOrder DeviceGroup) (order : DescendingOrder createdKey)
    (tenantId : Uuid) (s : Archive) : Except HttpException GroupsResponse := do
  let groups := groupOrder.apply
    (s.groups.rows.filter fun g => g.tenantId = tenantId && g.isActive = some true)
  let result ← groups.mapM (groupItem order s)
  return { total := result.length, groups := result }

/-! ## Backups -/

/-- `page` and `per_page`; other values are refused before the endpoint is called. -/
structure PageQuery where
  page : Nat := 1
  perPage : Nat := 50
  page_pos : 1 ≤ page := by decide
  perPage_pos : 1 ≤ perPage := by decide
  perPage_le : perPage ≤ 200 := by decide

structure BackupResponseItem where
  id : Uuid
  deviceId : Option Uuid
  deviceName : Option String
  status : BackupStatus
  fileSizeBytes : Option Int
  hashSha256 : Option String
  createdAt : Option Int
  /-- the backup that the URL names -/
  downloadUrl : Uuid
  deriving DecidableEq

structure BackupsResponse where
  group : String
  page : Nat
  perPage : Nat
  total : Nat
  pages : Nat
  items : List BackupResponseItem
  deriving DecidableEq

/-- `BackupStatus(status)` -/
def statusOfText (status : String) : Option BackupStatus :=
  [("pending", .pending), ("in_progress", .inProgress), ("success", .success),
    ("failed", .failed)].lookup status

/-- The rows of the query of `list_group_backups`. -/
def groupBackups (tenantId groupId : Uuid) (status : BackupStatus) (s : Archive) : List Backup :=
  s.backups.rows.filter fun b => (s.deviceOf b).any fun d =>
    d.groupId = some groupId && d.tenantId = tenantId && exposed d && b.status = status

def backupItem (s : Archive) (b : Backup) : BackupResponseItem where
  id := b.id
  deviceId := (s.deviceOf b).map Device.id
  deviceName := (s.deviceOf b).map Device.name
  status := b.status
  fileSizeBytes := b.fileSizeBytes
  hashSha256 := b.hashSha256
  createdAt := b.createdAt
  downloadUrl := b.id

/-- The group of the URL; the id is the argument as `uuid.UUID` reads it. -/
def groupOfUrl (groupId : Option Uuid) (tenantId : Uuid) (s : Archive) :
    Except HttpException DeviceGroup := do
  let gid ← demand groupId ⟨400, "group_id inválido."⟩
  demand ((s.groups.find gid).filter fun g => g.tenantId = tenantId && g.isActive = some true)
    ⟨404, "Grupo não encontrado."⟩

/-- `list_group_backups` -/
def listGroupBackups (order : DescendingOrder createdKey) (groupId : Option Uuid) (q : PageQuery)
    (status : String) (tenantId : Uuid) (s : Archive) : Except HttpException BackupsResponse := do
  let group ← groupOfUrl groupId tenantId s
  let statusEnum ← demand (statusOfText status)
    ⟨400, "Status inválido: '" ++ status ++ "'. Use: success, failed, pending, in_progress"⟩
  let query := groupBackups tenantId group.id statusEnum s
  let total := query.length
  let items := Lib.page q.perPage (q.page - 1) (order.apply query)
  return {
    group := group.name
    page := q.page
    perPage := q.perPage
    total := total
    pages := if 0 < total then (total + q.perPage - 1) / q.perPage else 0
    items := items.map (backupItem s) }

/-! ## Downloads -/

/-- What the id of a download leads to. -/
def lookup (s : Archive) (backupId : Option Uuid) : Quota.Lookup :=
  match backupId with
  | none => .invalidId
  | some bid =>
    match s.backups.find bid with
    | none => .notFound
    | some b =>
      match s.deviceOf b with
      | none => .notFound
      | some d => .backup {
          tenantId := d.tenantId
          deviceIsActive := d.isActive
          lastBackupStatus := d.lastBackupStatus
          status := b.status
          filePath := b.filePath
          fileSizeBytes := b.fileSizeBytes
          onDisk := b.filePath.bind s.onDisk }

/-! ## A client -/

/-- The items of a page, if it is answered. -/
def itemsOf : Except HttpException BackupsResponse → List BackupResponseItem
  | .ok r => r.items
  | .error _ => []

/-- A page that a client asks for, of this size. -/
def PageQuery.next (q : PageQuery) (j : Nat) : PageQuery where
  page := j + 1
  perPage := q.perPage
  page_pos := Nat.succ_pos j
  perPage_pos := q.perPage_pos
  perPage_le := q.perPage_le

/-- A client that reads the number of pages from the first answer and asks for them one by one. -/
def crawl (orders : Nat → DescendingOrder createdKey) (groupId : Option Uuid) (q : PageQuery)
    (status : String) (tenantId : Uuid) (s : Archive) :
    Except HttpException (List BackupResponseItem) := do
  let first ← listGroupBackups (orders 0) groupId (q.next 0) status tenantId s
  return (List.range first.pages).flatMap fun j =>
    itemsOf (listGroupBackups (orders j) groupId (q.next j) status tenantId s)

/-! ## Every backup once -/

section Crawl

variable {orders : Nat → DescendingOrder createdKey} {q : PageQuery} {status : String}
  {tenantId gid : Uuid} {s : Archive} {g : DeviceGroup} {st : BackupStatus}

theorem groupOfUrl_eq_ok : groupOfUrl (some gid) tenantId s = .ok g ↔
    g ∈ s.groups ∧ g.id = gid ∧ g.tenantId = tenantId ∧ g.isActive = some true := by
  simp only [groupOfUrl, bind_eq_ok, demand_eq_ok, Option.some.injEq, exists_eq_left',
    Option.filter_eq_some_iff, Table.find_eq_some, Bool.and_eq_true, decide_eq_true_eq, and_assoc]
  exact Iff.rfl

theorem groupBackups_nodup :
    ((groupBackups tenantId gid st s).map Backup.id).Nodup :=
  (List.filter_sublist.map Backup.id).nodup s.backups.nodup

theorem listGroupBackups_eq (order : DescendingOrder createdKey)
    (hgroup : groupOfUrl (some gid) tenantId s = .ok g) (hstatus : statusOfText status = some st) :
    listGroupBackups order (some gid) q status tenantId s = .ok {
      group := g.name
      page := q.page
      perPage := q.perPage
      total := (groupBackups tenantId gid st s).length
      pages := if 0 < (groupBackups tenantId gid st s).length then
        ((groupBackups tenantId gid st s).length + q.perPage - 1) / q.perPage else 0
      items := (Lib.page q.perPage (q.page - 1)
        (order.apply (groupBackups tenantId gid st s))).map (backupItem s) } := by
  obtain ⟨-, rfl, -, -⟩ := groupOfUrl_eq_ok.mp hgroup
  unfold listGroupBackups
  rw [hgroup, hstatus]
  rfl

/-- The pages are enough for the rows. -/
theorem length_le_pages {total perPage : Nat} (h : 1 ≤ perPage) :
    total ≤ (if 0 < total then (total + perPage - 1) / perPage else 0) * perPage := by
  split
  · have hdiv := Nat.div_add_mod (total + perPage - 1) perPage
    have hmod := Nat.mod_lt (total + perPage - 1) h
    rw [Nat.mul_comm] at hdiv
    omega
  · omega

/-- What a client comes by are the pages of the answers. -/
theorem crawl_eq (hgroup : groupOfUrl (some gid) tenantId s = .ok g)
    (hstatus : statusOfText status = some st) : ∃ pages,
      (groupBackups tenantId gid st s).length ≤ pages * q.perPage ∧
      ∀ orders, crawl orders (some gid) q status tenantId s =
        .ok ((collected q.perPage (fun j => (orders j).apply (groupBackups tenantId gid st s))
          pages).map (backupItem s)) := by
  refine ⟨_, length_le_pages q.perPage_pos, fun orders => ?_⟩
  unfold crawl
  simp only [listGroupBackups_eq _ hgroup hstatus, itemsOf]
  refine congrArg Except.ok ?_
  unfold collected
  rw [List.map_flatMap]
  rfl

/-- A client that asks for page after page comes by every backup of the group exactly once, in
whatever order each query has rows of one time, exactly if no page ends between rows of one time. -/
theorem crawl_complete_iff (q : PageQuery) (status : String) (tenantId gid : Uuid) (s : Archive)
    (g : DeviceGroup) (st : BackupStatus) (hgroup : groupOfUrl (some gid) tenantId s = .ok g)
    (hstatus : statusOfText status = some st) :
    (∀ orders, ∃ items, crawl orders (some gid) q status tenantId s = .ok items ∧
      items.Perm ((groupBackups tenantId gid st s).map (backupItem s))) ↔
    ∀ j, ¬ Splits createdKey (groupBackups tenantId gid st s) (j * q.perPage) := by
  obtain ⟨pages, hpages, hcrawl⟩ := crawl_eq (q := q) hgroup hstatus
  constructor
  · intro h j hsplit
    obtain ⟨orders, hrepeats⟩ := exists_not_nodup hsplit hpages
    obtain ⟨items, hitems, hperm⟩ := h orders
    obtain rfl := Except.ok.inj ((hcrawl orders).symm.trans hitems)
    have hids := hperm.map BackupResponseItem.id
    rw [List.map_map, List.map_map] at hids
    exact hrepeats (hids.nodup_iff.mpr groupBackups_nodup).of_map
  · intro h orders
    exact ⟨_, hcrawl orders,
      (collected_perm (fun j => (orders j).answers _) h hpages).map (backupItem s)⟩

section Example

def router : Device where
  id := 2
  tenantId := 1
  groupId := some 3
  name := "router"
  lastBackupStatus := some "success"

def routers : DeviceGroup where
  id := 3
  tenantId := 1
  name := "Grupo"
  slug := "grupo"

/-- Two backups of one moment. -/
def tied : Archive where
  groups := ⟨[routers], by decide⟩
  devices := ⟨[router], by decide⟩
  backups := ⟨[{ id := 4, deviceId := 2, status := .success, createdAt := some 0 },
    { id := 5, deviceId := 2, status := .success, filePath := some "b.cfg", createdAt := some 0 }],
    by decide⟩
  onDisk path := if path = "b.cfg" then some 512 else none

def onePerPage : PageQuery where
  perPage := 1

theorem crawl_complete_iff_tied : ¬ ∀ orders, ∃ items,
    crawl orders (some 3) onePerPage "success" 1 tied = .ok items ∧
      items.Perm ((groupBackups 1 3 .success tied).map (backupItem tied)) :=
  fun h => (crawl_complete_iff onePerPage "success" 1 3 tied routers .success rfl rfl).mp h 1
    (by decide +kernel)

end Example

/-! ## What is listed and what is served -/

/-- The file of a backup, if it has a path and the file is there. -/
def hasFile (s : Archive) (backupId : Uuid) : Bool :=
  (s.backups.find backupId).any fun b => ((Tenants.nonempty b.filePath).bind s.onDisk).isSome

/-- The download is answered with a file. -/
def served (tenantId : Uuid) (s : Archive) (backupId : Uuid) : Prop :=
  ∃ bytes, (Quota.externalDownload { id := tenantId } (lookup s (some backupId))).phase =
    .answered (.file bytes)

/-- The device of the backup is in the group. -/
def inGroup (gid : Uuid) (s : Archive) (backupId : Uuid) : Prop :=
  ∃ b d, s.backups.find backupId = some b ∧ s.deviceOf b = some d ∧ d.groupId = some gid

/-- A download is answered with a file exactly if nothing is in its way. -/
theorem externalDownload_file {tenant : Quota.Tenant} {b : Quota.StoredBackup} :
    (∃ bytes, (Quota.externalDownload tenant (.backup b)).phase = .answered (.file bytes)) ↔
      b.tenantId = tenant.id ∧ b.deviceIsActive ≠ some false ∧
        b.lastBackupStatus = some "success" ∧ b.status = .success ∧ b.file.isSome = true := by
  simp only [Quota.externalDownload, Quota.StoredBackup.file]
  by_cases htenant : b.tenantId = tenant.id
  · by_cases hdevice : b.deviceIsActive = some false ∨ b.lastBackupStatus ≠ some "success"
    · rw [if_neg (not_not.mpr htenant), if_pos hdevice]
      simp only [Quota.refusal, Quota.Phase.answered.injEq, reduceCtorEq, exists_false, false_iff]
      rintro ⟨-, hactive, hlast, -⟩
      exact hdevice.elim hactive (absurd hlast)
    · rw [if_neg (not_not.mpr htenant), if_neg hdevice]
      rw [not_or, not_not] at hdevice
      by_cases hstatus : b.status = .success
      · rw [if_neg (not_not.mpr hstatus)]
        cases hpath : Tenants.nonempty b.filePath with
        | none => simp [Quota.refusal]
        | some path =>
          cases hdisk : b.onDisk with
          | none => simp [Quota.refusal]
          | some bytes => simp [htenant, hdevice, hstatus]
      · rw [if_pos hstatus]
        simp [Quota.refusal, hstatus]
  · rw [if_pos htenant]
    simp [Quota.refusal, htenant]

/-- What a backup is to a download. -/
def stored (s : Archive) (b : Backup) (d : Device) : Quota.StoredBackup where
  tenantId := d.tenantId
  deviceIsActive := d.isActive
  lastBackupStatus := d.lastBackupStatus
  status := b.status
  filePath := b.filePath
  fileSizeBytes := b.fileSizeBytes
  onDisk := b.filePath.bind s.onDisk

theorem stored_file {b : Backup} {d : Device} : (stored s b d).file =
    (Tenants.nonempty b.filePath).bind s.onDisk := by
  unfold Quota.StoredBackup.file stored Tenants.nonempty
  cases b.filePath with
  | none => rfl
  | some path => by_cases hpath : path = "" <;> simp [Option.filter, hpath]

theorem lookup_of_some {b : Backup} {d : Device} {bid : Uuid} (hb : s.backups.find bid = some b)
    (hd : s.deviceOf b = some d) : lookup s (some bid) = .backup (stored s b d) := by
  simp only [lookup, hb, hd]
  rfl

theorem lookup_eq_notFound_or (s : Archive) (bid : Uuid) : lookup s (some bid) = .notFound ∨
    ∃ b d, s.backups.find bid = some b ∧ s.deviceOf b = some d := by
  unfold lookup
  cases hb : s.backups.find bid with
  | none => exact .inl (by simp only [hb])
  | some b =>
    cases hd : s.deviceOf b with
    | none => exact .inl (by simp only [hb, hd])
    | some d => exact .inr ⟨b, d, rfl, hd⟩

theorem served_iff {bid : Uuid} : served tenantId s bid ↔
    ∃ b d, s.backups.find bid = some b ∧ s.deviceOf b = some d ∧ d.tenantId = tenantId ∧
      exposed d = true ∧ b.status = .success ∧ hasFile s bid = true := by
  unfold served
  constructor
  · intro h
    rcases lookup_eq_notFound_or s bid with hnone | ⟨b, d, hb, hd⟩
    · rw [hnone] at h
      simp [Quota.externalDownload, Quota.refusal] at h
    · rw [lookup_of_some hb hd, externalDownload_file, stored_file] at h
      obtain ⟨htenant, hactive, hlast, hstatus, hfile⟩ := h
      refine ⟨b, d, hb, hd, htenant, ?_, hstatus, ?_⟩
      · simp only [exposed, Bool.and_eq_true, decide_eq_true_eq]
        exact ⟨hactive, hlast⟩
      · simp only [hasFile, hb, Option.any_some]
        exact hfile
  · rintro ⟨b, d, hb, hd, htenant, hexposed, hstatus, hfile⟩
    rw [lookup_of_some hb hd, externalDownload_file, stored_file]
    simp only [exposed, Bool.and_eq_true, decide_eq_true_eq] at hexposed
    simp only [hasFile, hb, Option.any_some] at hfile
    exact ⟨htenant, hexposed.1, hexposed.2, hstatus, hfile⟩

theorem mem_groupBackups {b : Backup} : b ∈ groupBackups tenantId gid st s ↔
    b ∈ s.backups ∧ ∃ d, s.deviceOf b = some d ∧ d.groupId = some gid ∧ d.tenantId = tenantId ∧
      exposed d = true ∧ b.status = st := by
  simp only [groupBackups, List.mem_filter, Option.any_eq_true, Bool.and_eq_true,
    decide_eq_true_eq, and_assoc]
  exact Iff.rfl

theorem find_of_mem {b : Backup} (hb : b ∈ s.backups) : s.backups.find b.id = some b :=
  Table.find_eq_some.mpr ⟨hb, rfl⟩

/-- An item that is listed is served exactly if it is listed as a success and its file is there. -/
theorem served_of_listed {b : Backup} (hb : b ∈ groupBackups tenantId gid st s) :
    served tenantId s b.id ↔ st = .success ∧ hasFile s b.id = true := by
  obtain ⟨hmem, d, hd, -, htenant, hexposed, hstatus⟩ := mem_groupBackups.mp hb
  rw [served_iff]
  constructor
  · rintro ⟨b', d', hb', -, -, -, hsuccess, hfile⟩
    obtain rfl := Option.some.inj ((find_of_mem hmem).symm.trans hb')
    exact ⟨hstatus.symm.trans hsuccess, hfile⟩
  · rintro ⟨hsuccess, hfile⟩
    exact ⟨b, d, find_of_mem hmem, hd, htenant, hexposed, hstatus.trans hsuccess, hfile⟩

theorem listed_of_served {bid : Uuid} (h : served tenantId s bid) (hin : inGroup gid s bid) :
    ∃ b ∈ groupBackups tenantId gid .success s, b.id = bid := by
  obtain ⟨b, d, hb, hd, htenant, hexposed, hstatus, -⟩ := served_iff.mp h
  obtain ⟨b', d', hb', hd', hgroup⟩ := hin
  obtain rfl := Option.some.inj (hb.symm.trans hb')
  obtain rfl := Option.some.inj (hd.symm.trans hd')
  obtain ⟨hmem, hid⟩ := Table.find_eq_some.mp hb
  exact ⟨b, mem_groupBackups.mpr ⟨hmem, d, hd, hgroup, htenant, hexposed, hstatus⟩, hid⟩

/-- An answer of a page is cut from the group's backups. -/
theorem mem_of_mem_collected {n pages : Nat} {b : Backup}
    (h : b ∈ collected n (fun j => (orders j).apply (groupBackups tenantId gid st s)) pages) :
    b ∈ groupBackups tenantId gid st s := by
  obtain ⟨j, -, hb⟩ := List.mem_flatMap.mp h
  exact ((orders j).answers _).perm.mem_iff.mp (List.mem_of_mem_drop (List.mem_of_mem_take hb))

/-- Whatever pages a client comes by, an item is served to it exactly if it is listed as a success
and its file is there; and where no page ends between rows of one time, it comes by everything in
the group that is served to it. -/
theorem crawl_served (q : PageQuery) (status : String) (tenantId gid : Uuid) (s : Archive)
    (g : DeviceGroup) (st : BackupStatus) (hgroup : groupOfUrl (some gid) tenantId s = .ok g)
    (hstatus : statusOfText status = some st) (orders : Nat → DescendingOrder createdKey) :
    ∃ items, crawl orders (some gid) q status tenantId s = .ok items ∧
      (∀ item ∈ items, (served tenantId s item.downloadUrl ↔
        st = .success ∧ hasFile s item.downloadUrl = true)) ∧
      (st = .success →
        (∀ j, ¬ Splits createdKey (groupBackups tenantId gid st s) (j * q.perPage)) →
        ∀ bid, served tenantId s bid → inGroup gid s bid →
          ∃ item ∈ items, item.downloadUrl = bid) := by
  obtain ⟨pages, hpages, hcrawl⟩ := crawl_eq (q := q) hgroup hstatus
  refine ⟨_, hcrawl orders, ?_, ?_⟩
  · intro item hitem
    obtain ⟨b, hb, rfl⟩ := List.mem_map.mp hitem
    exact served_of_listed (mem_of_mem_collected hb)
  · rintro rfl hsplit bid hserved hin
    obtain ⟨b, hb, rfl⟩ := listed_of_served hserved hin
    have hperm := collected_perm (fun j => (orders j).answers _) hsplit hpages
    exact ⟨_, List.mem_map_of_mem (hperm.mem_iff.mpr hb), rfl⟩

def newestFirst : DescendingOrder createdKey := .stable createdKey

theorem crawl_served_tied : ∃ items,
    crawl (fun _ => newestFirst) (some 3) {} "success" 1 tied = .ok items ∧
      ∃ item ∈ items, item.downloadUrl = 5 := by
  obtain ⟨items, hcrawl, -, hall⟩ := crawl_served {} "success" 1 3 tied routers .success rfl rfl
    fun _ => newestFirst
  refine ⟨items, hcrawl, hall rfl ?_ 5 ⟨512, rfl⟩ ⟨_, router, rfl, rfl, rfl⟩⟩
  intro j hsplit
  cases j with
  | zero => exact not_splits_zero (Nat.zero_mul 50 ▸ hsplit)
  | succ j =>
    refine not_splits_of_length_le ?_ hsplit
    show 2 ≤ (j + 1) * 50
    omega

end Crawl

/-! ## The groups and their pages -/

section Groups

variable {groupOrder : RowOrder DeviceGroup} {order : DescendingOrder createdKey}
  {tenantId gid : Uuid} {s : Archive} {g : DeviceGroup}

theorem mapM_eq_ok {ε α β : Type} {f : α → Except ε β} {l : List α} {r : List β} :
    l.mapM f = .ok r ↔ l.map f = r.map .ok := by
  induction l generalizing r with
  | nil =>
    cases r with
    | nil => exact iff_of_true rfl rfl
    | cons b bs => simp
  | cons a l ih =>
    simp only [List.mapM_cons, bind_eq_ok, pure_eq_ok, ih, List.map_cons]
    constructor
    · rintro ⟨b, hb, bs, hbs, rfl⟩
      rw [List.map_cons, hb, hbs]
    · intro h
      cases r with
      | nil => cases h
      | cons b bs =>
        obtain ⟨hb, hbs⟩ := List.cons.inj h
        exact ⟨b, hb, bs, hbs, rfl⟩

theorem exists_mapM_eq_ok {ε α β : Type} {f : α → Except ε β} {l : List α} :
    (∃ r, l.mapM f = .ok r) ↔ ∀ a ∈ l, ∃ b, f a = .ok b := by
  induction l with
  | nil => exact iff_of_true ⟨[], rfl⟩ fun a ha => absurd ha List.not_mem_nil
  | cons a l ih =>
    rw [List.forall_mem_cons, ← ih]
    simp only [List.mapM_cons, bind_eq_ok, pure_eq_ok]
    constructor
    · rintro ⟨_, b, hb, bs, hbs, -⟩
      exact ⟨⟨b, hb⟩, bs, hbs⟩
    · rintro ⟨⟨b, hb⟩, bs, hbs⟩
      exact ⟨_, b, hb, bs, hbs, rfl⟩

/-- The devices of a group belong to its tenant. -/
def OwnDevices (s : Archive) : Prop :=
  ∀ d ∈ s.devices, ∀ g ∈ s.groups, d.groupId = some g.id → d.tenantId = g.tenantId

instance : Decidable (OwnDevices s) := inferInstanceAs (Decidable
  (∀ d ∈ s.devices.rows, ∀ g ∈ s.groups.rows, d.groupId = some g.id → d.tenantId = g.tenantId))

theorem successBackups_eq (hown : OwnDevices s) (hg : g ∈ s.groups)
    (htenant : g.tenantId = tenantId) :
    successBackups g.id s = groupBackups tenantId g.id .success s := by
  unfold successBackups groupBackups
  refine List.filter_congr fun b _ => ?_
  cases hd : s.deviceOf b with
  | none => rfl
  | some d =>
    by_cases hgroup : d.groupId = some g.id
    · have hdevice := hown d (Table.find_eq_some.mp hd).1 g hg hgroup
      simp [hdevice.trans htenant]
    · simp [hgroup]

theorem lastBackupAt_eq_ok {last : Option Int} : lastBackupAt order gid s = .ok last ↔
    (∀ b ∈ successBackups gid s, b.createdAt ≠ none) ∧
      last = ((order.apply (successBackups gid s)).head?).bind Backup.createdAt := by
  unfold lastBackupAt
  have hanswer := order.answers (successBackups gid s)
  cases hout : order.apply (successBackups gid s) with
  | nil =>
    rw [hout] at hanswer
    have hrows : successBackups gid s = [] := hanswer.perm.nil_eq.symm
    simp [hrows, eq_comm]
  | cons a out =>
    rw [hout] at hanswer
    have hnull : a.createdAt = none ↔ ∃ b ∈ successBackups gid s, b.createdAt = none := by
      constructor
      · exact fun ha => ⟨a, hanswer.head_mem, ha⟩
      · rintro ⟨b, hb, hcreated⟩
        have htop : createdKey b = ⊤ := hcreated
        exact top_le_iff.mp (htop ▸ hanswer.le_head hb)
    cases hcreated : a.createdAt with
    | none =>
      obtain ⟨b, hb, hnone⟩ := hnull.mp hcreated
      simp only [List.head?_cons, hcreated, demand, Except.map, reduceCtorEq, false_iff, not_and]
      exact fun hall => absurd hnone (hall b hb)
    | some t =>
      have hall : ∀ b ∈ successBackups gid s, b.createdAt ≠ none := fun b hb hnone =>
        absurd (hnull.mpr ⟨b, hb, hnone⟩) (by simp [hcreated])
      simp only [List.head?_cons, hcreated, demand, Except.map, Except.ok.injEq, Option.bind_some]
      exact ⟨fun he => ⟨hall, he.symm⟩, fun he => he.2.symm⟩

/-- The first item of the first page. -/
theorem head_page_zero {n : Nat} (hn : 1 ≤ n) (out : List Backup) :
    (Lib.page n 0 out).head? = out.head? := by
  unfold Lib.page
  rw [Nat.zero_mul, List.drop_zero]
  cases out with
  | nil => simp
  | cons a out =>
    obtain ⟨k, rfl⟩ : ∃ k, n = k + 1 := ⟨n - 1, by omega⟩
    rfl

/-- Every answer begins with a row of the same time. -/
theorem head_createdAt {order' : DescendingOrder createdKey} {rows : List Backup} :
    (order.apply rows).head?.bind Backup.createdAt =
      (order'.apply rows).head?.bind Backup.createdAt := by
  have h := order.answers rows
  have h' := order'.answers rows
  have hlen : (order.apply rows).length = (order'.apply rows).length :=
    h.perm.length_eq.trans h'.perm.length_eq.symm
  cases hout : order.apply rows with
  | nil =>
    rw [hout] at hlen
    rw [List.length_eq_zero_iff.mp hlen.symm]
  | cons a out =>
    cases hout' : order'.apply rows with
    | nil =>
      rw [hout, hout'] at hlen
      exact absurd hlen (by simp)
    | cons b out' =>
      rw [hout] at h
      rw [hout'] at h'
      exact h.key_head h'

/-- The groups of the tenant, as the query has them. -/
def ownGroups (groupOrder : RowOrder DeviceGroup) (tenantId : Uuid) (s : Archive) :
    List DeviceGroup :=
  groupOrder.apply (s.groups.rows.filter fun g => g.tenantId = tenantId && g.isActive = some true)

theorem listGroups_eq_ok {r : GroupsResponse} :
    listGroups groupOrder order tenantId s = .ok r ↔ ∃ items,
      (ownGroups groupOrder tenantId s).mapM (groupItem order s) = .ok items ∧
      ⟨items.length, items⟩ = r := by
  simp only [listGroups, bind_eq_ok, pure_eq_ok]
  rfl

theorem groupItem_eq_ok {item : GroupResponseItem} : groupItem order s g = .ok item ↔
    lastBackupAt order g.id s = .ok item.lastBackupAt ∧ item.id = g.id ∧ item.name = g.name ∧
      item.deviceCount = s.devices.rows.countP fun d => d.groupId = some g.id && exposed d := by
  obtain ⟨id, name, count, last⟩ := item
  simp only [groupItem, bind_eq_ok, pure_eq_ok, GroupResponseItem.mk.injEq]
  constructor
  · rintro ⟨_, hlast, rfl, rfl, rfl, rfl⟩
    exact ⟨hlast, rfl, rfl, rfl⟩
  · rintro ⟨hlast, rfl, rfl, rfl⟩
    exact ⟨_, hlast, rfl, rfl, rfl, rfl⟩

theorem mem_ownGroups : g ∈ ownGroups groupOrder tenantId s ↔
    groupOfUrl (some g.id) tenantId s = .ok g := by
  unfold ownGroups
  rw [(groupOrder.perm _).mem_iff, List.mem_filter, groupOfUrl_eq_ok, Bool.and_eq_true,
    decide_eq_true_eq, decide_eq_true_eq, eq_self, true_and]
  exact Iff.rfl

/-- Where the devices of a group belong to its tenant, the list of the groups fails exactly if a
group has a success without `created_at`; it names exactly the groups whose pages are answered, and
its last backup is the first item of the first page, in whatever order that query has them. -/
theorem listGroups_agrees (groupOrder : RowOrder DeviceGroup) (order : DescendingOrder createdKey)
    (tenantId : Uuid) (s : Archive) (hown : OwnDevices s) :
    ((∃ r, listGroups groupOrder order tenantId s = .ok r) ↔
      ∀ gid g, groupOfUrl (some gid) tenantId s = .ok g →
        ∀ b ∈ groupBackups tenantId gid .success s, b.createdAt ≠ none) ∧
    ∀ r, listGroups groupOrder order tenantId s = .ok r →
      (∀ gid, (∃ item ∈ r.groups, item.id = gid) ↔
        ∃ g, groupOfUrl (some gid) tenantId s = .ok g) ∧
      ∀ item ∈ r.groups, ∀ (order' : DescendingOrder createdKey) (q : PageQuery), q.page = 1 →
        ∃ page, listGroupBackups order' (some item.id) q "success" tenantId s = .ok page ∧
          page.group = item.name ∧
          item.lastBackupAt = page.items.head?.bind BackupResponseItem.createdAt := by
  have hlast : ∀ {g : DeviceGroup} {last : Option Int}, groupOfUrl (some g.id) tenantId s = .ok g →
      (lastBackupAt order g.id s = .ok last ↔
        (∀ b ∈ groupBackups tenantId g.id .success s, b.createdAt ≠ none) ∧
        last = (order.apply (groupBackups tenantId g.id .success s)).head?.bind
          Backup.createdAt) := by
    intro g last hg
    obtain ⟨hmem, -, htenant, -⟩ := groupOfUrl_eq_ok.mp hg
    rw [lastBackupAt_eq_ok, successBackups_eq hown hmem htenant]
  constructor
  · have hitems : (∃ r, listGroups groupOrder order tenantId s = .ok r) ↔
        ∀ g ∈ ownGroups groupOrder tenantId s, ∃ item, groupItem order s g = .ok item := by
      simp only [listGroups_eq_ok, ← exists_mapM_eq_ok]
      constructor
      · rintro ⟨_, items, h, -⟩
        exact ⟨items, h⟩
      · rintro ⟨items, h⟩
        exact ⟨_, items, h, rfl⟩
    rw [hitems]
    constructor
    · intro h gid g hg
      obtain ⟨hmem, rfl, -, -⟩ := groupOfUrl_eq_ok.mp hg
      obtain ⟨item, hitem⟩ := h g (mem_ownGroups.mpr hg)
      exact ((hlast hg).mp (groupItem_eq_ok.mp hitem).1).1
    · intro h g hg
      have hgroup := mem_ownGroups.mp hg
      exact ⟨⟨g.id, g.name, _, _⟩,
        groupItem_eq_ok.mpr ⟨(hlast hgroup).mpr ⟨h g.id g hgroup, rfl⟩, rfl, rfl, rfl⟩⟩
  · intro r hr
    obtain ⟨items, hitems, rfl⟩ := listGroups_eq_ok.mp hr
    have hmap := mapM_eq_ok.mp hitems
    have hback : ∀ item ∈ items, ∃ g, groupOfUrl (some g.id) tenantId s = .ok g ∧
        groupItem order s g = .ok item := by
      intro item hitem
      have hok : Except.ok item ∈ (ownGroups groupOrder tenantId s).map (groupItem order s) :=
        hmap ▸ List.mem_map_of_mem hitem
      obtain ⟨g, hg, hgitem⟩ := List.mem_map.mp hok
      exact ⟨g, mem_ownGroups.mp hg, hgitem⟩
    refine ⟨fun gid => ⟨?_, ?_⟩, ?_⟩
    · rintro ⟨item, hitem, rfl⟩
      obtain ⟨g, hg, hgitem⟩ := hback item hitem
      exact ⟨g, (groupItem_eq_ok.mp hgitem).2.1 ▸ hg⟩
    · rintro ⟨g, hg⟩
      obtain ⟨-, rfl, -, -⟩ := groupOfUrl_eq_ok.mp hg
      have hok : groupItem order s g ∈ items.map Except.ok :=
        hmap ▸ List.mem_map_of_mem (mem_ownGroups.mpr hg)
      obtain ⟨item, hitem, hgitem⟩ := List.mem_map.mp hok
      exact ⟨item, hitem, (groupItem_eq_ok.mp hgitem.symm).2.1⟩
    · intro item hitem order' q hq
      obtain ⟨g, hg, hgitem⟩ := hback item hitem
      obtain ⟨hlastItem, hid, hname, -⟩ := groupItem_eq_ok.mp hgitem
      refine ⟨_, listGroupBackups_eq order' (hid ▸ hg) rfl, hname.symm, ?_⟩
      show item.lastBackupAt = ((Lib.page q.perPage (q.page - 1)
        (order'.apply (groupBackups tenantId item.id .success s))).map (backupItem s)).head?.bind _
      rw [hq, List.head?_map, head_page_zero q.perPage_pos, Option.bind_map, hid,
        ((hlast hg).mp hlastItem).2]
      exact head_createdAt

theorem listGroups_agrees_tied :
    ∃ r, listGroups .asStored newestFirst 1 tied = .ok r := by
  refine (listGroups_agrees .asStored newestFirst 1 tied (by decide +kernel)).1.mpr ?_
  intro gid g _ b hb
  have hcreated : ∀ b ∈ tied.backups.rows, b.createdAt ≠ none := by decide +kernel
  exact hcreated b (mem_groupBackups.mp hb).1

end Groups

end BackupCenter.External
