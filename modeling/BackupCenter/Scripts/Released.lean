import BackupCenter.Scripts.PexpectSession

/-!
# What a script leaves behind

The sessions that a script opens and the key files written for them, from its start to its end.
Nothing closes a session: `close_pexpect_session` ends with the removal of the key file, and the
lines that would close the session stand after the last `return` of another function. A key file
is removed with its session only, so that one whose session was never spawned stays.
-/
namespace BackupCenter.Scripts

open BackupCenter.Lib

/-- The private key files on the disk, and the sessions that were spawned and not closed. -/
structure Machine where
  keyFiles : List String := []
  sessions : List Nat := []
  deriving DecidableEq

/-- `mkstemp` gives a new file, and a spawned session a new object. -/
def Machine.effect (m : Machine) : (c : Ask) → c.Answer → Option Machine
  | .mkstemp, .ok path =>
    if path ∈ m.keyFiles then none else some { m with keyFiles := path :: m.keyFiles }
  | .spawn _ _, .ok id =>
    if id ∈ m.sessions then none else some { m with sessions := id :: m.sessions }
  | .remove path, .ok () => some { m with keyFiles := m.keyFiles.erase path }
  | .close id, .ok () => some { m with sessions := m.sessions.erase id }
  | _, _ => some m

abbrev Trace := List (Prog.Answered Ask.Answer)

/-- No session is alive that has not been closed, and no key file is left; `alive` are the sessions
whose process does not end by itself. -/
structure NothingLeft (alive : Nat → Bool) (m : Machine) : Prop where
  sessions : ∀ id ∈ m.sessions, alive id = false
  keyFiles : m.keyFiles = []

/-- The process of a spawned session ends by itself, nothing fails from the creation of a key file
to the spawn of its session, and the file can be removed. -/
def Benign (alive : Nat → Bool) : Prog.Answered Ask.Answer → Prop
  | ⟨.spawn _ _, .ok id⟩ => alive id = false
  | ⟨.spawn _ keyPath, .error _⟩ => keyPath = none
  | ⟨.writeKey _ _, answer⟩ | ⟨.chmod _, answer⟩ | ⟨.remove _, answer⟩ => answer = .ok ()
  | _ => True

variable {alive : Nat → Bool} {settings : ShellSettings} {m m' m'' base : Machine}
  {trace rest : Trace}

/-! ## Dialogues -/

/-- A dialogue leaves the machine as it was. -/
theorem dialogue_effect (m : Machine) (c : Ask) (a : c.Answer) (m' : Machine)
    (hc : c.isDialogue = true) (h : m.effect c a = some m') : m' = m := by
  cases c with
  | mkstemp | writeKey | chmod | spawn | remove | close => cases hc
  | expect | sendline | readNonblocking | surrounding | time | sleep =>
    exact (Option.some.inj h).symm

theorem dialogue_benign (e : Prog.Answered Ask.Answer) (h : e.1.isDialogue = true) :
    Benign alive e := by
  obtain ⟨c, a⟩ := e
  cases c with
  | mkstemp | writeKey | chmod | spawn | remove | close => cases h
  | expect | sendline | readNonblocking | surrounding | time | sleep => trivial

theorem runs_dialogue (alive : Nat → Bool) {α : Type} {p : Act α}
    (hp : p.Always (·.isDialogue = true)) {r : α}
    (h : p.Runs Machine.effect m trace r m') : m' = m ∧ ∀ e ∈ trace, Benign alive e := by
  obtain ⟨hm, htrace⟩ := h.unchanged hp dialogue_effect
  exact ⟨hm, fun e he => dialogue_benign e (htrace e he)⟩

section Always

variable {ok : Ask → Prop} {α β : Type}

theorem always_exceptBind {x : Step α} {f : α → Step β} (hx : Prog.Always ok x.run)
    (hf : ∀ a, Prog.Always ok (f a).run) : Prog.Always ok (x >>= f).run := by
  refine Prog.Always.bind hx fun r => ?_
  cases r with
  | ok a => exact hf a
  | error e => trivial

theorem always_lift {x : Act α} (hx : x.Always ok) :
    Prog.Always ok (liftM x : Step α).run := by
  refine Prog.Always.bind hx fun r => ?_
  trivial

theorem always_throw (e : Exn) : Prog.Always ok (throw e : Step α).run := trivial

end Always

theorem always_expect (session : Nat) (patterns : List Pattern) (timeout : Nat) :
    Prog.Always (·.isDialogue = true) (expect session patterns timeout).run :=
  ⟨rfl, fun _ _ => trivial⟩

theorem always_sendline (session : Nat) (line : String) :
    Prog.Always (·.isDialogue = true) (sendline session line).run :=
  ⟨rfl, fun _ _ => trivial⟩

theorem always_surrounding (session : Nat) :
    Prog.Always (·.isDialogue = true) (surrounding session).run :=
  ⟨rfl, fun _ _ => trivial⟩

theorem always_waitForShell (session : Nat) (password : String) (timeout left : Nat) :
    Prog.Always (·.isDialogue = true) (waitForShell session password timeout left).run := by
  induction left with
  | zero => trivial
  | succ left ih =>
    unfold waitForShell
    refine always_exceptBind (always_expect ..) fun idx => ?_
    split
    · exact always_exceptBind (always_sendline ..) fun _ => ih
    · split
      · trivial
      · exact always_exceptBind (always_sendline ..) fun _ => ih
    · exact always_exceptBind (always_surrounding _) fun _ => always_throw _
    · trivial
    · exact always_exceptBind (always_sendline ..) fun _ => ih
    · exact always_exceptBind (always_surrounding _) fun _ => always_throw _

theorem always_drainSpawnBuffer (session reads : Nat) :
    (drainSpawnBuffer session reads).Always (·.isDialogue = true) := by
  induction reads with
  | zero => trivial
  | succ reads ih =>
    refine ⟨rfl, fun answer _ => ?_⟩
    cases answer with
    | error e => trivial
    | ok chunk =>
      dsimp only
      split
      · trivial
      · exact ih

theorem always_probeShell (settings : ShellSettings) (session : Nat) :
    Prog.Always (·.isDialogue = true) (probeShell settings session).run := by
  unfold probeShell
  dsimp only
  refine always_exceptBind ⟨rfl, fun _ _ => trivial⟩ fun _ => ?_
  refine always_exceptBind (always_sendline ..) fun _ => ?_
  refine always_exceptBind (always_expect ..) fun idx => ?_
  split
  · exact always_throw _
  · refine always_exceptBind (always_sendline ..) fun _ => ?_
    refine always_exceptBind (always_expect ..) fun idx => ?_
    split
    · trivial
    · exact always_throw _
  · trivial

theorem always_probeDevice (settings : ShellSettings) (session : Nat) :
    Prog.Always (·.isDialogue = true) (probeDevice settings session).run := by
  unfold probeDevice
  dsimp only
  refine always_exceptBind (always_expect ..) fun idx => ?_
  split
  · exact always_exceptBind (always_surrounding _) fun _ => always_throw _
  · exact always_exceptBind (always_surrounding _) fun _ => always_throw _
  · exact always_exceptBind (always_surrounding _) fun _ => always_throw _
  · exact always_exceptBind (always_surrounding _) fun _ => always_throw _
  · trivial

theorem always_startCommand (settings : ShellSettings) (target : Target) (jumpHost : JumpHost)
    (session : Nat) :
    Prog.Always (·.isDialogue = true) (startCommand settings target jumpHost session).run := by
  unfold startCommand
  refine always_exceptBind (always_waitForShell ..) fun _ => ?_
  refine always_exceptBind (always_lift (always_drainSpawnBuffer ..)) fun _ => ?_
  refine always_exceptBind (always_probeShell ..) fun _ => ?_
  refine always_exceptBind (always_sendline ..) fun _ => ?_
  split
  · refine Prog.Always.bind (always_probeDevice settings session) fun r => ?_
    cases r with
    | ok u => trivial
    | error e => trivial
  · exact always_lift ⟨rfl, fun _ _ => trivial⟩

/-! ## Pieces of a run -/

/-- Nothing is left after this piece of a run exactly when nothing was before and all went well. -/
def Settled (alive : Nat → Bool) (m : Machine) (trace : Trace) (m' : Machine) : Prop :=
  NothingLeft alive m' ↔ NothingLeft alive m ∧ ∀ e ∈ trace, Benign alive e

/-- Besides what is in `m`, there is the key file of a session. -/
structure Keyed (m : Machine) (keyPath : Option String) (m' : Machine) : Prop where
  keyFiles : m'.keyFiles = keyPath.toList ++ m.keyFiles
  sessions : m'.sessions = m.sessions
  fresh : ∀ path, keyPath = some path → path ∉ m.keyFiles

theorem settled_self (h : ∀ e ∈ trace, Benign alive e) : Settled alive m trace m :=
  ⟨fun hm => ⟨hm, h⟩, fun hm => hm.1⟩

theorem Settled.append (h : Settled alive m trace m') (h' : Settled alive m' rest m'') :
    Settled alive m (trace ++ rest) m'' := by
  unfold Settled at h h' ⊢
  rw [h', h, and_assoc, List.forall_mem_append]

/-- A key file that is left, after something went wrong. -/
theorem settled_of_left (hleft : m'.keyFiles ≠ []) {e : Prog.Answered Ask.Answer}
    (he : e ∈ trace) (hbad : ¬ Benign alive e) : Settled alive m trace m' :=
  ⟨fun hm => absurd hm.keyFiles hleft, fun hm => absurd (hm.2 e he) hbad⟩

/-- A session that is spawned stays, unless its process ends. -/
theorem settled_spawn {command : String} {keyPath : Option String} {id : Nat} :
    Settled alive m [⟨.spawn command keyPath, .ok id⟩] { m with sessions := id :: m.sessions } := by
  constructor
  · intro h
    have hid := h.sessions id List.mem_cons_self
    refine ⟨⟨fun id' hid' => h.sessions id' (List.mem_cons_of_mem _ hid'), h.keyFiles⟩, ?_⟩
    exact List.forall_mem_singleton.mpr hid
  · intro h
    refine ⟨fun id' hid' => ?_, h.1.keyFiles⟩
    rcases List.mem_cons.mp hid' with rfl | hid'
    · exact h.2 _ List.mem_cons_self
    · exact h.1.sessions id' hid'

/-- Without a key file there is nothing besides. -/
theorem Keyed.unkeyed (h : Keyed m none m') : m' = m := by
  obtain ⟨hkey, hsessions, -⟩ := h
  cases m
  cases m'
  exact congr (congrArg Machine.mk hkey) hsessions

theorem Keyed.erase {path : String} (h : Keyed m (some path) m') :
    { m' with keyFiles := m'.keyFiles.erase path } = m := by
  obtain ⟨hkey, hsessions, -⟩ := h
  cases m
  cases m'
  dsimp only at hkey hsessions ⊢
  rw [hkey, hsessions]
  congr 1
  exact List.erase_cons_head _ _

theorem effect_spawn {command : String} {keyPath : Option String} {id : Nat}
    (h : m.effect (.spawn command keyPath) (.ok id) = some m') :
    m' = { m with sessions := id :: m.sessions } := by
  unfold Machine.effect at h
  dsimp only at h
  split at h
  · cases h
  · exact (Option.some.inj h).symm

/-- The end of a session takes its key file away, if that is possible. -/
theorem runs_close {session : Session} {u : Unit} (hkeyed : Keyed m session.jumpKeyPath m')
    (h : (closePexpectSession (some session)).Runs Machine.effect m' trace u m'') :
    Settled alive m trace m'' := by
  obtain ⟨id, keyPath⟩ := session
  cases keyPath with
  | none =>
    obtain ⟨rfl, -, rfl⟩ := Prog.runs_ret.mp h
    rw [hkeyed.unkeyed]
    exact settled_self nofun
  | some path =>
    obtain ⟨answer, s', rest, rfl, heffect, hrest⟩ := Prog.runs_call h
    obtain ⟨rfl, -, rfl⟩ := Prog.runs_ret.mp hrest
    cases answer with
    | ok u =>
      obtain rfl := Option.some.inj heffect
      rw [hkeyed.erase]
      exact settled_self (List.forall_mem_singleton.mpr rfl)
    | error e =>
      obtain rfl := Option.some.inj heffect
      refine settled_of_left ?_ List.mem_cons_self nofun
      rw [hkeyed.keyFiles]
      exact List.cons_ne_nil _ _

/-- After an error everything is settled; otherwise there is a key file, at most. -/
def HandedOver (alive : Nat → Bool) {α : Type} (keyPath : α → Option String) (m : Machine)
    (trace : Trace) : Except Exn α → Machine → Prop
  | .ok a, m' => ∃ base, Settled alive m trace base ∧ Keyed base (keyPath a) m'
  | .error _, m' => Settled alive m trace m'

theorem HandedOver.after {α : Type} {keyPath : α → Option String} {r : Except Exn α}
    (h : HandedOver alive keyPath m' rest r m'') (hbefore : Settled alive m trace m') :
    HandedOver alive keyPath m (trace ++ rest) r m'' := by
  cases r with
  | error e => exact hbefore.append h
  | ok a =>
    obtain ⟨base, hbase, hkeyed⟩ := h
    exact ⟨base, hbefore.append hbase, hkeyed⟩

/-- The command for a bastion comes with its key file. -/
theorem runs_build (alive : Nat → Bool) {jumpHost : JumpHost} {timeout : Nat}
    {r : Except Exn (String × Option String)}
    (h : (buildJumpSpawnCommand settings jumpHost timeout).Runs Machine.effect m trace r m') :
    HandedOver alive Prod.snd m trace r m' := by
  unfold buildJumpSpawnCommand at h
  split at h
  · obtain ⟨rfl, rfl, rfl⟩ := Prog.runs_ret.mp h
    exact settled_self nofun
  · cases hkey : keyText settings jumpHost with
    | none =>
      rw [hkey] at h
      obtain ⟨rfl, rfl, rfl⟩ := Prog.runs_ret.mp h
      exact ⟨m', settled_self nofun, rfl, rfl, nofun⟩
    | some text =>
      rw [hkey] at h
      obtain ⟨answer, m₁, rest, rfl, heffect, hrest⟩ := Prog.runs_call h
      cases answer with
      | error e =>
        obtain ⟨rfl, rfl, rfl⟩ := Prog.runs_ret.mp hrest
        obtain rfl := Option.some.inj heffect
        exact settled_self (List.forall_mem_singleton.mpr trivial)
      | ok path =>
        have hfresh : path ∉ m.keyFiles ∧ m₁ = { m with keyFiles := path :: m.keyFiles } := by
          unfold Machine.effect at heffect
          dsimp only at heffect
          split at heffect
          · cases heffect
          · next hmem => exact ⟨hmem, (Option.some.inj heffect).symm⟩
        obtain ⟨hfresh, rfl⟩ := hfresh
        obtain ⟨answer, m₂, rest, rfl, heffect, hrest⟩ := Prog.runs_call hrest
        obtain rfl := Option.some.inj heffect
        cases answer with
        | error e =>
          obtain ⟨rfl, rfl, rfl⟩ := Prog.runs_ret.mp hrest
          exact settled_of_left (List.cons_ne_nil _ _)
            (List.mem_cons_of_mem _ List.mem_cons_self) nofun
        | ok u =>
          obtain ⟨answer, m₃, rest, rfl, heffect, hrest⟩ := Prog.runs_call hrest
          obtain rfl := Option.some.inj heffect
          cases answer with
          | error e =>
            obtain ⟨rfl, rfl, rfl⟩ := Prog.runs_ret.mp hrest
            exact settled_of_left (List.cons_ne_nil _ _)
              (List.mem_cons_of_mem _ (List.mem_cons_of_mem _ List.mem_cons_self)) nofun
          | ok u =>
            obtain ⟨rfl, rfl, rfl⟩ := Prog.runs_ret.mp hrest
            refine ⟨m, settled_self ?_, rfl, rfl, fun p hp => Option.some.inj hp ▸ hfresh⟩
            refine List.forall_mem_cons.mpr ⟨trivial, ?_⟩
            exact List.forall_mem_cons.mpr ⟨rfl, List.forall_mem_singleton.mpr rfl⟩

/-- The session of a spawned program, before anything else is done with it. -/
theorem runs_spawn {command : String} {keyPath : Option String} {answer : Except Exn Nat}
    (hbuilt : HandedOver alive Prod.snd m trace (.ok (command, keyPath)) m')
    (hspawn : m'.effect (.spawn command keyPath) answer = some m'') :
    HandedOver alive (fun _ => keyPath) m (trace ++ [⟨.spawn command keyPath, answer⟩]) answer
      m'' := by
  obtain ⟨base, hbase, hkeyed⟩ := hbuilt
  cases answer with
  | error e =>
    obtain rfl := Option.some.inj hspawn
    cases keyPath with
    | none =>
      refine hbase.append ?_
      rw [hkeyed.unkeyed]
      exact settled_self (List.forall_mem_singleton.mpr rfl)
    | some path =>
      refine settled_of_left ?_ (List.mem_append_right _ List.mem_cons_self) nofun
      rw [hkeyed.keyFiles]
      exact List.cons_ne_nil _ _
  | ok id =>
    obtain rfl := effect_spawn hspawn
    refine ⟨_, hbase.append settled_spawn, hkeyed.keyFiles, ?_, hkeyed.fresh⟩
    show id :: m'.sessions = id :: base.sessions
    rw [hkeyed.sessions]

/-- A session is handed over with its key file; without one, everything is settled. -/
theorem runs_openThroughJumpHost {target : Target} {jumpHost : JumpHost} {attempt left : Nat}
    {r : Except Exn Session}
    (h : (openThroughJumpHost settings target jumpHost attempt left).Runs Machine.effect m trace
      r m') :
    HandedOver alive Session.jumpKeyPath m trace r m' := by
  induction left generalizing attempt m trace with
  | zero =>
    obtain ⟨rfl, rfl, rfl⟩ := Prog.runs_ret.mp h
    exact settled_self nofun
  | succ left ih =>
    unfold openThroughJumpHost at h
    obtain ⟨t₁, t₂, built, m₁, rfl, hbuild, h⟩ := Prog.runs_bind h
    have hbuilt := runs_build alive hbuild
    cases built with
    | error e =>
      obtain ⟨rfl, rfl, rfl⟩ := Prog.runs_ret.mp h
      rw [List.append_nil]
      exact hbuilt
    | ok command =>
      obtain ⟨command, keyPath⟩ := command
      obtain ⟨answer, m₂, t₃, rfl, hspawn, h⟩ := Prog.runs_ask h
      have hspawned := runs_spawn hbuilt hspawn
      rw [List.append_cons]
      cases answer with
      | error e =>
        obtain ⟨rfl, rfl, rfl⟩ := Prog.runs_ret.mp h
        rw [List.append_nil]
        exact hspawned
      | ok id =>
        obtain ⟨base, hbase, hkeyed⟩ := hspawned
        obtain ⟨t₄, t₅, started, m₃, rfl, hstart, h⟩ := Prog.runs_bind h
        obtain ⟨rfl, hquiet⟩ := runs_dialogue alive (always_startCommand ..) hstart
        have hbase' := hbase.append (settled_self hquiet)
        rw [← List.append_assoc]
        cases started with
        | ok u =>
          obtain ⟨rfl, rfl, rfl⟩ := Prog.runs_ret.mp h
          rw [List.append_nil]
          exact ⟨base, hbase', hkeyed⟩
        | error e =>
          obtain ⟨t₆, t₇, u, m₄, rfl, hclose, h⟩ := Prog.runs_bind h
          have hclosed := hbase'.append (runs_close hkeyed hclose)
          rw [← List.append_assoc]
          split at h
          · obtain ⟨rfl, rfl, rfl⟩ := Prog.runs_ret.mp h
            rw [List.append_nil]
            exact hclosed
          · obtain ⟨slept, m₅, t₈, rfl, hsleep, h⟩ := Prog.runs_ask h
            obtain rfl := Option.some.inj hsleep
            have hslept := hclosed.append (settled_self (List.forall_mem_singleton.mpr
              (dialogue_benign ⟨.sleep (min 120 (15 * 2 ^ (attempt - 1))), slept⟩ rfl)))
            rw [List.append_cons]
            exact (ih h).after hslept

theorem runs_openPexpectSession (alive : Nat → Bool) {target : Target} {r : Except Exn Session}
    (h : (openPexpectSession settings target).Runs Machine.effect m trace r m') :
    HandedOver alive Session.jumpKeyPath m trace r m' := by
  unfold openPexpectSession at h
  split at h
  · exact runs_openThroughJumpHost h
  · split at h
    · obtain ⟨answer, m₁, rest, rfl, hspawn, h⟩ := Prog.runs_call h
      obtain ⟨rfl, rfl, rfl⟩ := Prog.runs_ret.mp h
      have hbare : HandedOver alive Prod.snd m [] (.ok (target.command, none)) m :=
        ⟨m, settled_self nofun, rfl, rfl, nofun⟩
      have hspawned := runs_spawn hbare hspawn
      cases answer with
      | error e => exact hspawned
      | ok id => exact hspawned
    · obtain ⟨rfl, rfl, rfl⟩ := Prog.runs_ret.mp h
      exact settled_self nofun

/-- Every use of a session is settled when it ends, whatever the script did with it. -/
theorem runs_realizarBackup {α ρ : Type} {script : Script α ρ} {r : ρ}
    (h : (script.realizarBackup settings).Runs Machine.effect m trace r m') :
    Settled alive m trace m' := by
  induction script generalizing m trace with
  | ret r =>
    obtain ⟨rfl, rfl, rfl⟩ := Prog.runs_ret.mp h
    exact settled_self nofun
  | use target body next ih =>
    unfold Script.realizarBackup at h
    obtain ⟨t₁, t₂, opened, m₁, rfl, hopen, h⟩ := Prog.runs_bind h
    have hopened := runs_openPexpectSession alive hopen
    cases opened with
    | error e => exact hopened.append (ih _ h)
    | ok session =>
      obtain ⟨base, hbase, hkeyed⟩ := hopened
      obtain ⟨t₃, t₄, result, m₂, rfl, hbody, hfinally⟩ := Prog.runs_bind h
      obtain ⟨rfl, hquiet⟩ := runs_dialogue alive (body.isDialogue session) hbody
      obtain ⟨t₅, t₆, u, m₃, rfl, hclose, hnext⟩ := Prog.runs_bind hfinally
      have hclosed := (hbase.append (settled_self hquiet)).append (runs_close hkeyed hclose)
      rw [← List.append_assoc, ← List.append_assoc]
      exact hclosed.append (ih _ hnext)

/-! ## What is left -/

/-- For every script and every course of its sessions. -/
theorem nothingLeft_iff {α ρ : Type} {script : Script α ρ} {r : ρ}
    (h : (script.realizarBackup settings).Runs Machine.effect {} trace r m) :
    NothingLeft alive m ↔ ∀ e ∈ trace, Benign alive e := by
  have hsettled : Settled alive {} trace m := runs_realizarBackup h
  have hnothing : NothingLeft alive {} := ⟨nofun, rfl⟩
  exact hsettled.trans (and_iff_right hnothing)

/-- `run_olt_cli_backup` -/
def runOltCliBackup {α ρ : Type} (target : Target) (body : Dialogue α) (finish : Except Exn α → ρ) :
    Script α ρ :=
  .use target body fun result => .ret (finish result)

def workerSettings : ShellSettings where
  formats := { b64decode := fun _ => none, derToPem := fun _ => none }
  sshHostKeyOptions := "-o StrictHostKeyChecking=no -o UserKnownHostsFile=/dev/null"

def oltTarget : Target where
  command := "telnet 10.0.0.2 23"
  jumpHost := none
  timeout := 35

/-- The user name is typed and the configuration comes back at once. -/
def oltDialogue : Dialogue Nat where
  run session := do
    let _ ← (sendline session.id "backup").run
    (expect session.id [.regex "#"] 20).run
  isDialogue _ := ⟨rfl, fun _ _ => ⟨rfl, fun _ _ => trivial⟩⟩

def oltTrace : Trace :=
  [⟨.spawn "telnet 10.0.0.2 23" none, .ok 0⟩, ⟨.sendline 0 "backup", .ok ()⟩,
    ⟨.expect 0 [.regex "#"] 20, .ok 0⟩]

theorem oltTrace_runs :
    ((runOltCliBackup oltTarget oltDialogue Except.isOk).realizarBackup workerSettings).Runs
      Machine.effect {} oltTrace true { sessions := [0] } := by
  have hopen : openPexpectSession workerSettings oltTarget =
      .call (.spawn oltTarget.command none) fun answer =>
        .ret (answer.map fun id => { id := id, jumpKeyPath := none }) := rfl
  unfold runOltCliBackup Script.realizarBackup
  rw [hopen]
  exact .call rfl (.call rfl (.call rfl (.ret _ _)))

/-- The device hangs up. -/
theorem nothingLeft_iff_hung_up :
    NothingLeft (fun _ => false) { sessions := [0] } ↔
      ∀ e ∈ oltTrace, Benign (fun _ => false) e :=
  nothingLeft_iff oltTrace_runs

/-- The device does not hang up, and its session stays open after a successful backup. -/
theorem session_left_open :
    ¬ ∀ (trace : Trace) (ok : Bool) (m : Machine),
      ((runOltCliBackup oltTarget oltDialogue Except.isOk).realizarBackup workerSettings).Runs
        Machine.effect {} trace ok m → NothingLeft (fun _ => true) m := by
  intro hclaim
  have hleft := hclaim oltTrace true _ oltTrace_runs
  cases hleft.sessions 0 List.mem_cons_self

end BackupCenter.Scripts
