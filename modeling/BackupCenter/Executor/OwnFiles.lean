import BackupCenter.Executor.Files

/-!
# A file belongs to one run

Nothing but the names and the clock keeps two runs from one path. As long as no run opens a file
that another one has touched, and the fallback finds the file of its own script, the file of a row
is the run's own.
-/
namespace BackupCenter.Executor.Files

open BackupCenter.Lib

/-- Nobody else has touched the file. -/
def Disk.Own (s : Disk) (i : Nat) (path : Path) : Prop := ∀ t ∈ s.touched, t.2 = path → t.1 = i

instance (s : Disk) (i : Nat) (path : Path) : Decidable (s.Own i path) :=
  inferInstanceAs (Decidable (∀ t ∈ s.touched, _))

/-- The script opens no file that another run has touched. -/
def Run.opensOwn (s : Disk) (i : Nat) (r : Run) : Bool :=
  match r.phase with
  | .located _ path => s.Own i path
  | _ => true

/-- The file is the one that the script of the run wrote. -/
def Run.leftFile (r : Run) (path : Path) : Bool :=
  match r.phase with
  | .wrote _ own => path = own
  | _ => true

/-- The names and the second of a run give it a path of its own, and the fallback finds the file
that its script wrote. -/
def Apart (s : Disk) : FileEvent → Prop
  | .advance i => (s.runs[i]?).all (Run.opensOwn s i) = true
  | .pick i path => (s.runs[i]?).all (Run.leftFile · path) = true
  | _ => True

instance (s : Disk) : (e : FileEvent) → Decidable (Apart s e)
  | .advance i => inferInstanceAs (Decidable ((s.runs[i]?).all _ = true))
  | .pick i _ => inferInstanceAs (Decidable ((s.runs[i]?).all _ = true))
  | .tick _ | .start _ | .fail _ | .record .. | .refuse _ => inferInstanceAs (Decidable True)

/-- The file of every row was touched by the row's run only, and a successful row has the digest
of what its device answered, which is still in the file. -/
structure FilesOwn (env : FilesEnv) (s : Disk) : Prop where
  untouched : ∀ row ∈ s.rows, s.Own row.run row.path
  answered : ∀ row ∈ s.rows, row.success = true → ∃ r, s.runs[row.run]? = some r ∧
    row.hash = some (env.digest r.job.answer) ∧
    (fileAt s.files row.path).map DiskFile.content = some r.job.answer

/-! ## The disk -/

section Files

variable {files : List DiskFile} {f : DiskFile} {path q : Path}

theorem fileAt_without_ne (h : q ≠ path) : fileAt (without files path) q = fileAt files q := by
  unfold fileAt without
  rw [List.find?_filter]
  apply congrArg (files.find? ·)
  funext f
  by_cases hq : f.path = q
  · simp [hq, h]
  · simp [hq]

theorem fileAt_put_ne (h : q ≠ f.path) : fileAt (put files f) q = fileAt files q := by
  unfold put
  rw [fileAt, List.find?_append]
  show (fileAt (without files f.path) q).or _ = _
  rw [fileAt_without_ne h, List.find?_cons_of_neg (by simp [Ne.symm h]), List.find?_nil,
    Option.or_none]

theorem fileAt_put_self : fileAt (put files f) f.path = some f := by
  have hnone : fileAt (without files f.path) f.path = none := by
    rw [fileAt, List.find?_eq_none]
    intro g hg
    simpa using (List.mem_filter.mp hg).2
  unfold put
  rw [fileAt, List.find?_append]
  show (fileAt (without files f.path) f.path).or _ = _
  rw [hnone, Option.none_or, List.find?_cons_of_pos (by simp)]

end Files

/-! ## One step -/

/-- The file holds what the device of the run answered. -/
def Disk.Answered (s : Disk) (path : Path) (job : Job) : Prop :=
  (fileAt s.files path).map DiskFile.content = some job.answer

/-- What a run knows of its file. -/
def Disk.Held (env : FilesEnv) (s : Disk) (i : Nat) (job : Job) : Phase → Prop
  | .started _ | .located .. | .ended => True
  | .opened _ path => (i, path) ∈ s.touched
  | .wrote _ path | .collected path => (i, path) ∈ s.touched ∧ s.Answered path job
  | .measured path hash =>
    ((i, path) ∈ s.touched ∧ s.Answered path job) ∧ hash = some (env.digest job.answer)

/-- What a row says of the file of a run that has ended. -/
structure Disk.Recorded (env : FilesEnv) (s : Disk) (row : FileRow) (r : Run) : Prop where
  run : s.runs[row.run]? = some r
  ended : r.phase = .ended
  touched : (row.run, row.path) ∈ s.touched
  answered : row.success = true →
    row.hash = some (env.digest r.job.answer) ∧ s.Answered row.path r.job

structure DiskInv (env : FilesEnv) (s : Disk) : Prop where
  exclusive : ∀ t ∈ s.touched, s.Own t.1 t.2
  runs : ∀ i r, s.runs[i]? = some r → s.Held env i r.job r.phase
  rows : ∀ row ∈ s.rows, ∃ r, s.Recorded env row r

section Steps

variable {env : FilesEnv} {s s' : Disk} {i : Nat} {r : Run} {phase : Phase}

/-- What a run knows of its file depends on that file and on what it has touched. -/
theorem Disk.Held.of_same {job : Job} (h : s.Held env i job phase)
    (htouched : s.touched ⊆ s'.touched)
    (hfiles : ∀ path, (i, path) ∈ s.touched → fileAt s'.files path = fileAt s.files path) :
    s'.Held env i job phase := by
  have hanswered : ∀ path, (i, path) ∈ s.touched → s.Answered path job → s'.Answered path job := by
    intro path hpath hanswer
    unfold Disk.Answered
    rw [hfiles path hpath]
    exact hanswer
  cases phase with
  | started | located | ended => trivial
  | opened wall path => exact htouched h
  | wrote wall path => exact ⟨htouched h.1, hanswered path h.1 h.2⟩
  | collected path => exact ⟨htouched h.1, hanswered path h.1 h.2⟩
  | measured path hash => exact ⟨⟨htouched h.1.1, hanswered path h.1.1 h.1.2⟩, h.2⟩

/-- **The step rule**: a run that has not ended moves, touches files that nobody else has touched,
and changes only what it has touched. -/
theorem DiskInv.moves (h : DiskInv env s) (hr : s.runs[i]? = some r) (hactive : r.phase ≠ .ended)
    (hruns : s'.runs = s.runs.set i { r with phase := phase })
    (htouched : s.touched ⊆ s'.touched)
    (hnew : ∀ t ∈ s'.touched, t ∈ s.touched ∨ t.1 = i ∧ s.Own i t.2)
    (hfiles : ∀ path, (i, path) ∉ s'.touched → fileAt s'.files path = fileAt s.files path)
    (hheld : s'.Held env i r.job phase)
    (hrows : ∀ row ∈ s'.rows, row ∈ s.rows ∨ s'.Recorded env row { r with phase := phase }) :
    DiskInv env s' := by
  have hexclusive : ∀ t ∈ s'.touched, s'.Own t.1 t.2 := by
    intro t ht t' ht' he
    rcases hnew t ht with hold | ⟨hi, hown⟩ <;> rcases hnew t' ht' with hold' | ⟨hi', hown'⟩
    · exact h.exclusive t hold t' hold' he
    · rw [hi', hown' t hold he.symm]
    · rw [hi, hown t' hold' he]
    · rw [hi, hi']
  -- the files of the others stay as they were
  have hother : ∀ j path, j ≠ i → (j, path) ∈ s.touched →
      fileAt s'.files path = fileAt s.files path := by
    intro j path hj hpath
    refine hfiles path fun hmem => hj ?_
    exact hexclusive (i, path) hmem (j, path) (htouched hpath) rfl
  refine ⟨hexclusive, fun j k hk => ?_, fun row hrow => ?_⟩
  · rw [hruns] at hk
    rcases getElem?_moved hr hk with ⟨rfl, rfl⟩ | ⟨hj, hk⟩
    · exact hheld
    · exact (h.runs j k hk).of_same htouched fun path => hother j path hj
  · rcases hrows row hrow with hold | hrecorded
    · obtain ⟨k, hrun, hended, hmem, hanswered⟩ := h.rows row hold
      have hj : row.run ≠ i := by
        rintro he
        rw [he, hr] at hrun
        obtain rfl := Option.some.inj hrun
        exact hactive hended
      refine ⟨k, ?_, hended, htouched hmem, fun hsuccess => ?_⟩
      · rw [hruns, List.getElem?_set_ne (Ne.symm hj)]
        exact hrun
      · obtain ⟨hhash, hanswer⟩ := hanswered hsuccess
        refine ⟨hhash, ?_⟩
        unfold Disk.Answered
        rw [hother row.run row.path hj hmem]
        exact hanswer
    · exact ⟨_, hrecorded⟩

theorem FilesOwn.of_inv (h : DiskInv env s) : FilesOwn env s where
  untouched row hrow := by
    obtain ⟨r, hrecorded⟩ := h.rows row hrow
    exact h.exclusive (row.run, row.path) hrecorded.touched
  answered row hrow hsuccess := by
    obtain ⟨r, hrecorded⟩ := h.rows row hrow
    obtain ⟨hhash, hanswer⟩ := hrecorded.answered hsuccess
    exact ⟨r, hrecorded.run, hhash, hanswer⟩

/-- A file that the run has touched is not touched by anybody else. -/
theorem DiskInv.own (h : DiskInv env s) {path : Path} (ht : (i, path) ∈ s.touched) :
    s.Own i path := h.exclusive (i, path) ht

theorem DiskInv.advance (h : DiskInv env s) (hr : s.runs[i]? = some r)
    (hopens : r.opensOwn s i = true) (hs : s.advance env i r = some s') : DiskInv env s' := by
  obtain ⟨job, now⟩ := r
  have hknown := h.runs i _ hr
  cases now with
  | started wall =>
    obtain rfl := Option.some.inj hs
    exact h.moves hr (by simp) rfl (fun _ ht => ht) (fun _ ht => .inl ht) (fun _ _ => rfl) trivial
      fun _ hrow => .inl hrow
  | located wall path =>
    obtain rfl := Option.some.inj hs
    have hown : s.Own i path := of_decide_eq_true hopens
    have hmem : (i, path) ∈ s.touched ++ [(i, path)] :=
      List.mem_append_right _ (List.mem_singleton_self _)
    refine h.moves hr (by simp) rfl (fun _ ht => List.mem_append_left _ ht) (fun t ht => ?_)
      (fun q hq => fileAt_put_ne ?_) hmem fun _ hrow => .inl hrow
    · rcases List.mem_append.mp ht with hold | hlast
      · exact .inl hold
      · rw [List.mem_singleton.mp hlast]
        exact .inr ⟨rfl, hown⟩
    · intro he
      subst he
      exact hq hmem
  | opened wall path =>
    obtain rfl := Option.some.inj hs
    have hmem : (i, path) ∈ s.touched := hknown
    refine h.moves hr (by simp) rfl (fun _ ht => ht) (fun _ ht => .inl ht)
      (fun q hq => fileAt_put_ne ?_) ⟨hmem, ?_⟩ fun _ hrow => .inl hrow
    · intro he
      subst he
      exact hq hmem
    · exact congrArg (Option.map DiskFile.content) fileAt_put_self
  | wrote wall path =>
    obtain ⟨tenantSlug, groupName, typeName, deviceName, extra, script, answer⟩ := job
    cases script with
    | saves extension =>
      obtain rfl := Option.some.inj hs
      exact h.moves hr (by simp) rfl (fun _ ht => ht) (fun _ ht => .inl ht) (fun _ _ => rfl) hknown
        fun _ hrow => .inl hrow
    | leaves name => exact absurd hs (Option.some_ne_none _).symm
  | collected path =>
    obtain rfl := Option.some.inj hs
    have hanswer : (fileAt s.files path).map DiskFile.content = some job.answer := hknown.2
    refine h.moves hr (by simp) rfl (fun _ ht => ht) (fun _ ht => .inl ht) (fun _ _ => rfl)
      ⟨hknown, ?_⟩ fun _ hrow => .inl hrow
    obtain ⟨f, hf, hcontent⟩ := Option.map_eq_some_iff.mp hanswer
    rw [hf, Option.map_some, hcontent]
  | measured path hash => exact absurd hs (Option.some_ne_none _).symm
  | ended => exact absurd hs (Option.some_ne_none _).symm

theorem DiskInv.pick (h : DiskInv env s) (hr : s.runs[i]? = some r) {path : Path}
    (hleft : r.leftFile path = true) (hs : s.pick env i r path = some s') : DiskInv env s' := by
  obtain ⟨⟨tenantSlug, groupName, typeName, deviceName, extra, script, answer⟩, now⟩ := r
  have hknown := h.runs i _ hr
  cases now with
  | wrote wall own =>
    cases script with
    | leaves name =>
      obtain ⟨-, hs⟩ := Option.ite_none_right_eq_some.mp hs
      obtain rfl := Option.some.inj hs
      obtain rfl : path = own := of_decide_eq_true hleft
      have hmem : (i, path) ∈ s.touched := hknown.1
      refine h.moves hr (by simp) rfl (fun _ ht => List.mem_append_left _ ht) (fun t ht => ?_)
        (fun _ _ => rfl) ⟨List.mem_append_left _ hmem, hknown.2⟩ fun _ hrow => .inl hrow
      rcases List.mem_append.mp ht with hold | hlast
      · exact .inl hold
      · rw [List.mem_singleton.mp hlast]
        exact .inr ⟨rfl, h.own hmem⟩
    | saves extension => exact absurd hs (Option.some_ne_none _).symm
  | started | located | opened | collected | measured | ended =>
    exact absurd hs (Option.some_ne_none _).symm

theorem DiskInv.fail (h : DiskInv env s) (hr : s.runs[i]? = some r)
    (hs : s.fail i r = some s') : DiskInv env s' := by
  obtain ⟨job, now⟩ := r
  cases now with
  | started | located | opened | wrote =>
    obtain rfl := Option.some.inj hs
    exact h.moves hr (by simp) rfl (fun _ ht => ht) (fun _ ht => .inl ht) (fun _ _ => rfl) trivial
      fun _ hrow => .inl hrow
  | collected | measured | ended => exact absurd hs (Option.some_ne_none _).symm

theorem DiskInv.record (h : DiskInv env s) (hr : s.runs[i]? = some r) {valid : Bool}
    (hs : s.record i r valid = some s') : DiskInv env s' := by
  obtain ⟨job, now⟩ := r
  have hknown := h.runs i _ hr
  cases now with
  | measured path hash =>
    obtain rfl := Option.some.inj hs
    refine h.moves hr (by simp) rfl (fun _ ht => ht) (fun _ ht => .inl ht) (fun _ _ => rfl) trivial
      fun row hrow => ?_
    rcases List.mem_append.mp hrow with hold | hlast
    · exact .inl hold
    · obtain rfl := List.mem_singleton.mp hlast
      refine .inr ⟨?_, rfl, hknown.1.1, fun _ => ⟨hknown.2, hknown.1.2⟩⟩
      show (s.runs.set i _)[i]? = _
      rw [List.getElem?_set_self (List.getElem?_eq_some_iff.mp hr).1]
  | started | located | opened | wrote | collected | ended =>
    exact absurd hs (Option.some_ne_none _).symm

theorem DiskInv.refuse (h : DiskInv env s) (hr : s.runs[i]? = some r)
    (hs : s.refuse i r = some s') : DiskInv env s' := by
  obtain ⟨job, now⟩ := r
  have hknown := h.runs i _ hr
  cases now with
  | measured path hash =>
    obtain rfl := Option.some.inj hs
    have hmem : (i, path) ∈ s.touched := hknown.1.1
    refine h.moves hr (by simp) rfl (fun _ ht => List.mem_append_left _ ht) (fun t ht => ?_)
      (fun q hq => fileAt_without_ne ?_) trivial fun _ hrow => .inl hrow
    · rcases List.mem_append.mp ht with hold | hlast
      · exact .inl hold
      · rw [List.mem_singleton.mp hlast]
        exact .inr ⟨rfl, h.own hmem⟩
    · intro he
      subst he
      exact hq (List.mem_append_left _ hmem)
  | started | located | opened | wrote | collected | ended =>
    exact absurd hs (Option.some_ne_none _).symm

/-- A run that starts has no file. -/
theorem DiskInv.start (h : DiskInv env s) (job : Job) (wall : Nat) :
    DiskInv env { s with runs := s.runs ++ [⟨job, .started wall⟩] } where
  exclusive := h.exclusive
  runs i r hr := by
    rcases Nat.lt_or_ge i s.runs.length with hlt | hge
    · rw [List.getElem?_append_left hlt] at hr
      exact (h.runs i r hr).of_same (fun _ ht => ht) fun _ _ => rfl
    · rw [List.getElem?_append_right hge, List.getElem?_singleton] at hr
      obtain ⟨-, hr⟩ := Option.ite_none_right_eq_some.mp hr
      obtain rfl := Option.some.inj hr
      trivial
  rows row hrow := by
    obtain ⟨r, hrun, hended, htouched, hanswered⟩ := h.rows row hrow
    refine ⟨r, ?_, hended, htouched, hanswered⟩
    show (s.runs ++ _)[row.run]? = some r
    rw [List.getElem?_append_left (List.getElem?_eq_some_iff.mp hrun).1]
    exact hrun

/-- The clock changes no file. -/
theorem DiskInv.tick (h : DiskInv env s) (now : Nat) : DiskInv env { s with now := now } where
  exclusive := h.exclusive
  runs i r hr := (h.runs i r hr).of_same (fun _ ht => ht) fun _ _ => rfl
  rows row hrow := by
    obtain ⟨r, hrun, hended, htouched, hanswered⟩ := h.rows row hrow
    exact ⟨r, hrun, hended, htouched, hanswered⟩

/-- **One step**: where the run's file is its own, every run keeps its file. -/
theorem DiskInv.step {e : FileEvent} (h : DiskInv env s) (hapart : Apart s e)
    (hs : fileStep env s e = some s') : DiskInv env s' := by
  cases e with
  | tick d =>
    obtain rfl := Option.some.inj hs
    exact h.tick _
  | start job =>
    obtain rfl := Option.some.inj hs
    exact h.start job (s.now - 5000)
  | advance i =>
    obtain ⟨r, hr, hs⟩ := Option.bind_eq_some_iff.mp hs
    have hopens : (s.runs[i]?).all (Run.opensOwn s i) = true := hapart
    rw [hr] at hopens
    exact h.advance hr hopens hs
  | pick i path =>
    obtain ⟨r, hr, hs⟩ := Option.bind_eq_some_iff.mp hs
    have hleft : (s.runs[i]?).all (Run.leftFile · path) = true := hapart
    rw [hr] at hleft
    exact h.pick hr hleft hs
  | fail i =>
    obtain ⟨r, hr, hs⟩ := Option.bind_eq_some_iff.mp hs
    exact h.fail hr hs
  | record i valid =>
    obtain ⟨r, hr, hs⟩ := Option.bind_eq_some_iff.mp hs
    exact h.record hr hs
  | refuse i =>
    obtain ⟨r, hr, hs⟩ := Option.bind_eq_some_iff.mp hs
    exact h.refuse hr hs

end Steps

/-! ## Whole runs -/

/-- A disk with any files, on which no run has started. -/
def Disk.fresh (now : Nat) (files : List DiskFile) : Disk := { now := now, files := files }

theorem DiskInv.fresh (env : FilesEnv) (now : Nat) (files : List DiskFile) :
    DiskInv env (.fresh now files) where
  exclusive _ ht := absurd ht List.not_mem_nil
  runs _ r hr := absurd hr (Option.some_ne_none r).symm
  rows _ hrow := absurd hrow List.not_mem_nil

/-- The digests of three answers. -/
def sha256 : String → String
  | "SW 1" => "6c3c39c5e7f3343077a5ae183d3b32a8d2e9a35077f9d536dbde8a04aa048f21"
  | "SW_1" => "b0e9bf9eb597d53055ae34d219f36f550fa11310c77d5d8d5afe885fbc8e379c"
  | "SW 2" => "12d6d77b43a8c1e457faee3b7fd4870d0057628d75ffdc12e62274a1f5ba8d64"
  | _ => ""

/-- ASCII names, and a clock in milliseconds, in its first minute. -/
def asciiFiles : FilesEnv where
  isalnum := Char.isAlphanum
  backupBaseDir := "/app/storage/backups".toList
  cwd := "/app".toList
  strftime now :=
    "1970-01-01_00-00-".toList ++ (if now / 1000 < 10 then ['0'] else []) ++
      Nat.toDigits 10 (now / 1000)
  digest := sha256

/-- A switch of one group, whose answer is its name. -/
def switchJob (deviceName : String) (script : Script) : Job where
  tenantSlug := "acme".toList
  groupName := "Norte".toList
  typeName := "Cisco IOS".toList
  deviceName := deviceName.toList
  script := script
  answer := deviceName

/-- The run writes its file, and the row of that file is inserted. -/
def written (i : Nat) : List FileEvent := [.advance i, .advance i]

def recorded (i : Nat) : List FileEvent := [.advance i, .advance i, .record i true]

/-- Two runs get their paths in one second; the second one writes before the first one is hashed. -/
def sideBySide (first second : String) : List FileEvent :=
  [.start (switchJob first (.saves "txt".toList)), .start (switchJob second (.saves "txt".toList)),
    .advance 0, .tick 300, .advance 1] ++ written 0 ++ written 1 ++ recorded 0 ++ recorded 1

/-- Two runs of one device, whose script returns no path. -/
def newestTaken : List FileEvent :=
  [.start (switchJob "SW 1" (.leaves "a.txt".toList)),
    .start (switchJob "SW 1" (.leaves "b.txt".toList)), .advance 0, .advance 1] ++ written 0 ++
    [.tick 1] ++ written 1 ++
    [.pick 0 "/app/storage/backups/acme/Norte/SW_1/b.txt".toList, .advance 0, .record 0 true]

def filesAfter (es : List FileEvent) : Option Disk := exec (fileStep asciiFiles) (.fresh 0 []) es

/-- Every row has a file that no other run has touched. -/
def ownedAfter (es : List FileEvent) : Option Bool :=
  (filesAfter es).map fun s => s.rows.all fun row => s.Own row.run row.path

/-- The digests of the successful rows. -/
def hashesAfter (es : List FileEvent) : Option (List (Option String)) :=
  (filesAfter es).map fun s => (s.rows.filter FileRow.success).map FileRow.hash

end BackupCenter.Executor.Files
