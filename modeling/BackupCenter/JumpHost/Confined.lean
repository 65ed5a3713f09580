import BackupCenter.JumpHost.Diagnose

/-!
# Contact only through the jump host

An operation is confined if under every pattern of answers it opens no connection from the worker to
the address of the device, and fails when the jump host cannot be used. Two assumptions about the
answers say this of the program's tree: nothing is assumed and nothing promised, or all that goes by
the jump host raises and the result is a failure. `Regime` is what they have in common, and one walk
through a program serves for both.
-/
namespace BackupCenter.JumpHost

open BackupCenter.Lib

/-- The contact does not come about without the jump host. -/
def Contact.NeedsJump (c : Contact) : Prop := c.attempt = .jumpHost ∨ c.route = .jump

def Contact.NotDirect (c : Contact) : Prop := c.route ≠ .direct

def Answer.IsRaised (a : Answer) : Prop := ∃ detail, a = .raised detail

def Confined (p : Operation Bool) : Prop :=
  ∀ pattern, (∀ c ∈ p.issuedUnder pattern, c.NotDirect) ∧
    ((∀ x ∈ p.answeredUnder pattern, x.1.NeedsJump → x.2.IsRaised) → p.resultUnder pattern = false)

/-- All that goes by the jump host raises. -/
def JumpRaises (c : Contact) (a : Answer) : Prop := c.NeedsJump → a.IsRaised

theorem confined_iff {p : Operation Bool} :
    Confined p ↔ p.Always Contact.NotDirect ∧
      p.Respects (fun _ => True) JumpRaises (· = false) := by
  rw [Prog.always_iff, Prog.respects_result_iff]
  exact ⟨fun h => ⟨fun pattern => (h pattern).1, fun pattern => (h pattern).2⟩,
    fun h pattern => ⟨h.1 pattern, h.2 pattern⟩⟩

/-! ## Sufficient: one walk for both assumptions -/

structure Regime (ans : Contact → Answer → Prop) (post : Bool → Prop) : Prop where
  fails : post false
  succeeds : post true ∨ ∀ c a, c.NeedsJump → ans c a → a.IsRaised

theorem confined_of_regime {p : Operation Bool}
    (h : ∀ {ans post}, Regime ans post → p.Respects Contact.NotDirect ans post) : Confined p := by
  have hjump : Regime JumpRaises (· = false) := ⟨rfl, .inr fun c a hc ha => ha hc⟩
  exact confined_iff.mpr ⟨h ⟨trivial, .inl trivial⟩, (h hjump).imp_ok fun _ _ => trivial⟩

namespace Regime

variable {ans : Contact → Answer → Prop} {post : Bool → Prop} (h : Regime ans post)
include h

/-- What follows an answer of the jump host that is no exception promises nothing. -/
theorem of_answered {c : Contact} {a : Answer} (hc : c.NeedsJump) (ha : ans c a)
    (hnot : ¬ a.IsRaised) (b : Bool) : post b := by
  cases b with
  | false => exact h.fails
  | true => exact h.succeeds.resolve_right fun hraises => hnot (hraises c a hc ha)

theorem of_isDone {c : Contact} {a : Answer} (hc : c.NeedsJump) (ha : ans c a) :
    post a.isDone := by
  cases a with
  | done n => exact h.of_answered hc ha (by rintro ⟨d, hd⟩; cases hd) _
  | unusable t => exact h.fails
  | raised d => exact h.fails

end Regime

namespace Access

variable {w : Access} {ans : Contact → Answer → Prop} {post : Bool → Prop}

/-- The drivers whose connections go through a channel of the jump host. -/
def through (w : Access) (driver : String) : Bool := w.patched && w.usesSock driver

theorem hasHost_of_patched (h : w.patched = true) : w.hasHost = true := by
  unfold patched isEnabled at h
  unfold hasHost
  cases hj : w.jump with
  | none => simp [hj] at h
  | some cfg => simp_all

theorem contact_bind_iff {ok : Contact → Prop} {attempt : Attempt} {ρ : Type} {post : ρ → Prop}
    {f : Answer → Operation ρ} :
    (w.contact attempt >>= f).Respects ok ans post ↔
      ok ⟨attempt, w.routeOf attempt⟩ ∧
        ∀ a, ans ⟨attempt, w.routeOf attempt⟩ a → (f a).Respects ok ans post := Iff.rfl

theorem collects_respects {attempt : Attempt} (h : Regime ans post)
    (hroute : w.routeOf attempt = .jump) :
    (w.collects attempt).Respects Contact.NotDirect ans post := by
  refine ⟨by simp [Contact.NotDirect, hroute], fun a ha => ?_⟩
  exact h.of_isDone (.inr hroute) ha

theorem firstConnected_respects {ans : Contact → Answer → Prop}
    {post : Except (List String) String → Prop} {drivers errors : List String}
    (hthrough : ∀ d ∈ drivers, w.through d = true) (hok : ∀ d ∈ drivers, post (.ok d))
    (herror : ∀ errs, post (.error errs)) :
    (w.firstConnected drivers errors).Respects Contact.NotDirect ans post := by
  induction drivers generalizing errors with
  | nil => exact herror errors
  | cons d rest ih =>
    have hrest : ∀ errs, (w.firstConnected rest errs).Respects Contact.NotDirect ans post :=
      fun errs => ih (fun e he => hthrough e (List.mem_cons_of_mem _ he))
        (fun e he => hok e (List.mem_cons_of_mem _ he))
    have hroute : w.routeOf (.connectHandler d) = .jump :=
      if_pos (hthrough d (List.mem_cons_self ..))
    refine ⟨by simp [Contact.NotDirect, hroute], fun a _ => ?_⟩
    cases a with
    | done n => exact hok d (List.mem_cons_self ..)
    | unusable t => exact hrest _
    | raised e => exact hrest _

theorem route_through {d : String} (h : w.through d = true) :
    w.routeOf (.connectHandler d) = .jump := if_pos h

theorem testedBackup_respects (h : Regime ans post) {drivers : List String}
    (hthrough : ∀ d ∈ drivers, w.through d = true) :
    (w.testedBackup drivers).Respects Contact.NotDirect ans post := by
  refine Prog.respects_bind_iff.mpr (firstConnected_respects hthrough ?_ ?_)
  · intro d hd
    exact collects_respects h (route_through (hthrough d hd))
  · exact fun _ => h.fails

theorem route_hosted (h : w.hasHost = true) : w.routeOf .openPexpectSession = .jump := if_pos h

theorem tries_respects (h : Regime ans post) {attempt : Attempt}
    (hroute : w.routeOf attempt = .jump) (left : Nat) :
    (w.tries attempt left).Respects Contact.NotDirect ans post := by
  induction left with
  | zero => exact h.fails
  | succ left ih =>
    refine ⟨by simp [Contact.NotDirect, hroute], fun a ha => ?_⟩
    cases a with
    | done n => exact h.of_isDone (.inr hroute) ha
    | unusable t => exact ih
    | raised e => exact ih

theorem virtualSystems_respects {ans : Contact → Answer → Prop} {post : Unit → Prop}
    (hthrough : w.through "huawei" = true) (hpost : post ()) (left : Nat) :
    (w.virtualSystems left).Respects Contact.NotDirect ans post := by
  induction left with
  | zero => exact hpost
  | succ left ih =>
    exact ⟨by simp [Contact.NotDirect, route_through hthrough], fun _ _ => ih⟩

/-- The drivers that a script tries first. -/
def drivers (w : Access) : Script → List String
  | .profile candidates => withTelnetFallback candidates w.scriptTelnet
  | .basic driver => [driver]
  | .switchHuawei => withTelnetFallback ["huawei", "cisco_ios", "tplink_jetstream"] w.scriptTelnet
  | .switchCisco => withTelnetFallback ["cisco_ios", "huawei"] w.scriptTelnet
  | .datacom => [if w.scriptTelnet then "cisco_ios_telnet" else "cisco_ios"]
  | .switchTplink =>
    if w.scriptTelnet then ["cisco_ios_telnet", "tplink_jetstream", "cisco_ios"]
    else ["tplink_jetstream", "cisco_ios"]
  | .huaweiNe => ["huawei"]
  | .zabbix => ["linux"]
  | .intelbrasOlt => if w.scriptTelnet then [] else ["cisco_ios"]
  | .fiberhome => ["cisco_ios", "cisco_ios_telnet"]
  | .oltCli | .huaweiOlt | .mikrotikRos | .mikrotikDownload | .grafana => []

/-- A script opens a session or a client of the helpers, which take the jump host along. -/
def opensSession (w : Access) : Script → Bool
  | .oltCli | .huaweiOlt | .mikrotikDownload => true
  | .intelbrasOlt => w.scriptTelnet
  | _ => false

/-- A script reaches a connection of its own besides Netmiko and the helpers. -/
def opensOwn (w : Access) : Script → Bool
  | .mikrotikRos => true
  | .mikrotikDownload => w.sshpass
  | .fiberhome | .switchCisco => w.scriptTelnet
  | .zabbix => w.dbTypeKnown
  | .grafana => w.urlHost w.grafanaUrl = w.target || !w.precheckRuns
  | _ => false

/-- The connections of a script all take the jump host along. -/
def StaysThrough (w : Access) (script : Script) : Prop :=
  (∀ d ∈ w.drivers script, w.through d = true) ∧
    (w.opensSession script = true → w.hasHost = true) ∧ w.opensOwn script = false

theorem mem_withTelnetFallback {driver : String} {candidates : List String} {useTelnet : Bool}
    (h : driver ∈ candidates) : driver ∈ withTelnetFallback candidates useTelnet := by
  unfold withTelnetFallback
  split
  · exact List.mem_eraseDups.mpr (List.mem_append_right _ h)
  · exact h

theorem switchHuawei_respects (h : Regime ans post)
    (hthrough : ∀ d ∈ w.drivers .switchHuawei, w.through d = true) :
    w.switchHuawei.Respects Contact.NotDirect ans post := by
  refine Prog.respects_bind_iff.mpr (firstConnected_respects hthrough ?_ ?_)
  · intro d hd
    have hroute := route_through (hthrough d hd)
    refine ⟨by simp [Contact.NotDirect, hroute], fun a ha => ?_⟩
    cases a with
    | done n => exact h.of_isDone (.inr hroute) ha
    | unusable t => exact collects_respects h hroute
    | raised e => exact h.fails
  · intro errs
    have hhuawei : w.through "huawei" = true :=
      hthrough _ (mem_withTelnetFallback (List.mem_cons_self ..))
    have hhost : w.hasHost = true := hasHost_of_patched (Bool.and_eq_true _ _ ▸ hhuawei).1
    exact Prog.respects_ite (fun _ => collects_respects h (route_hosted hhost)) fun _ => h.fails

theorem systemsBackup_respects (h : Regime ans post) (hthrough : w.through "huawei" = true) :
    w.systemsBackup.Respects Contact.NotDirect ans post := by
  have hroute := route_through hthrough
  refine contact_bind_iff.mpr ⟨by simp [Contact.NotDirect, hroute], fun a ha => ?_⟩
  cases a with
  | done n =>
    show (w.virtualSystems n >>= fun _ => pure true).Respects _ _ _
    refine Prog.respects_bind_iff.mpr (virtualSystems_respects hthrough ?_ n)
    exact h.of_isDone (a := .done n) (.inr hroute) ha
  | unusable t => exact h.fails
  | raised e => exact h.fails

theorem huaweiNe_respects (h : Regime ans post) (hthrough : w.through "huawei" = true) :
    w.huaweiNe.Respects Contact.NotDirect ans post := by
  have htests : (w.tries (.connectHandler "huawei") 3).Respects Contact.NotDirect ans
      fun _ => True := tries_respects ⟨trivial, .inl trivial⟩ (route_through hthrough) 3
  refine Prog.respects_bind_iff.mpr (htests.mono fun tested _ => ?_)
  exact Prog.respects_ite (fun _ => systemsBackup_respects h hthrough) fun _ => h.fails

theorem huaweiOlt_respects (h : Regime ans post) (hhost : w.hasHost = true) :
    w.huaweiOlt.Respects Contact.NotDirect ans post := by
  have hroute := route_hosted hhost
  refine contact_bind_iff.mpr ⟨by simp [Contact.NotDirect, hroute], fun a ha => ?_⟩
  cases a with
  | done n => exact h.of_isDone (a := .done n) (.inr hroute) ha
  | unusable t => exact Prog.respects_ite (fun _ => collects_respects h hroute) fun _ => h.fails
  | raised e => exact h.fails

theorem intelbrasOlt_respects (h : Regime ans post) (hsafe : w.StaysThrough .intelbrasOlt) :
    w.intelbrasOlt.Respects Contact.NotDirect ans post := by
  obtain ⟨hthrough, hhost, -⟩ := hsafe
  refine Prog.respects_ite (fun htelnet => ?_) fun hssh => ?_
  · have hroute := route_hosted (hhost htelnet)
    refine contact_bind_iff.mpr ⟨by simp [Contact.NotDirect, hroute], fun a ha => ?_⟩
    cases a with
    | done n => exact collects_respects h hroute
    | unusable t => exact h.fails
    | raised e => exact h.fails
  · have hdrivers : w.drivers .intelbrasOlt = ["cisco_ios"] := if_neg hssh
    rw [hdrivers] at hthrough
    exact testedBackup_respects h hthrough

theorem mikrotikDownload_respects (h : Regime ans post) (hhost : w.hasHost = true)
    (hsshpass : w.sshpass = false) : w.mikrotikDownload.Respects Contact.NotDirect ans post := by
  have hroute : w.routeOf .createSshClient = .jump := if_pos hhost
  refine contact_bind_iff.mpr ⟨by simp [Contact.NotDirect, hroute], fun a ha => ?_⟩
  have hno : (if w.sshpass = true then w.collects .sshpass
      else return false : Operation Bool).Respects Contact.NotDirect ans post := by
    rw [hsshpass]
    exact h.fails
  cases a with
  | done n => exact h.of_isDone (a := .done n) (.inr hroute) ha
  | unusable t => exact hno
  | raised e => exact hno

theorem switchCisco_respects (h : Regime ans post)
    (hthrough : ∀ d ∈ w.drivers .switchCisco, w.through d = true)
    (hssh : w.scriptTelnet = false) : w.switchCisco.Respects Contact.NotDirect ans post := by
  have hno : (if w.scriptTelnet = true then w.collects .spawnTelnet
      else return false : Operation Bool).Respects Contact.NotDirect ans post := by
    rw [hssh]
    exact h.fails
  refine Prog.respects_bind_iff.mpr (firstConnected_respects hthrough ?_ fun _ => hno)
  intro d hd
  have hroute := route_through (hthrough d hd)
  refine contact_bind_iff.mpr ⟨by simp [Contact.NotDirect, hroute], fun a ha => ?_⟩
  cases a with
  | done n => exact h.of_isDone (a := .done n) (.inr hroute) ha
  | unusable t => exact hno
  | raised e => exact hno

theorem fiberhome_respects (h : Regime ans post)
    (hthrough : ∀ d ∈ w.drivers .fiberhome, w.through d = true)
    (hssh : w.scriptTelnet = false) : w.fiberhome.Respects Contact.NotDirect ans post := by
  refine Prog.respects_ite (fun htelnet => ?_) fun _ => testedBackup_respects h hthrough
  rw [hssh] at htelnet
  cases htelnet

theorem zabbix_respects (h : Regime ans post) (hthrough : w.through "linux" = true)
    (hunknown : w.dbTypeKnown = false) : w.zabbix.Respects Contact.NotDirect ans post := by
  have hroute := route_through hthrough
  refine contact_bind_iff.mpr ⟨by simp [Contact.NotDirect, hroute], fun a ha => ?_⟩
  cases a with
  | done n =>
    refine Prog.respects_ite (fun _ => h.fails) fun hknown => ?_
    rw [hunknown] at hknown
    exact absurd rfl hknown
  | unusable t => exact h.fails
  | raised e => exact h.fails

theorem dashboards_respects (hpost : ∀ b, post b) (hroute : w.routeOf .http = .other)
    (left : Nat) : (w.dashboards left).Respects Contact.NotDirect ans post := by
  induction left with
  | zero => exact hpost true
  | succ left ih =>
    refine contact_bind_iff.mpr ⟨by simp [Contact.NotDirect, hroute], fun a _ => ?_⟩
    cases a with
    | done n => exact ih
    | unusable t => exact ih
    | raised e => exact hpost false

theorem grafana_respects (hpost : ∀ b, post b) (hroute : w.routeOf .http = .other) :
    w.grafana.Respects Contact.NotDirect ans post := by
  refine contact_bind_iff.mpr ⟨by simp [Contact.NotDirect, hroute], fun a _ => ?_⟩
  cases a with
  | done n =>
    refine contact_bind_iff.mpr ⟨by simp [Contact.NotDirect, hroute], fun b _ => ?_⟩
    cases b with
    | done boards => exact dashboards_respects hpost hroute boards
    | unusable t => exact hpost false
    | raised e => exact hpost false
  | unusable t => exact hpost false
  | raised e => exact hpost false

theorem connections_respects (h : Regime ans post) {script : Script}
    (hsafe : w.StaysThrough script) (hpost : w.precheckRuns = true → ∀ b, post b) :
    (w.connections script).Respects Contact.NotDirect ans post := by
  obtain ⟨hthrough, hhost, hown⟩ := id hsafe
  cases script with
  | profile candidates => exact testedBackup_respects h hthrough
  | basic driver => exact testedBackup_respects h hthrough
  | oltCli => exact collects_respects h (route_hosted (hhost rfl))
  | huaweiOlt => exact huaweiOlt_respects h (hhost rfl)
  | intelbrasOlt => exact intelbrasOlt_respects h hsafe
  | switchHuawei => exact switchHuawei_respects h hthrough
  | huaweiNe => exact huaweiNe_respects h (hthrough _ (List.mem_cons_self ..))
  | datacom => exact testedBackup_respects h hthrough
  | switchTplink => exact testedBackup_respects h hthrough
  | mikrotikRos => cases hown
  | mikrotikDownload => exact mikrotikDownload_respects h (hhost rfl) hown
  | fiberhome => exact fiberhome_respects h hthrough hown
  | switchCisco => exact switchCisco_respects h hthrough hown
  | zabbix => exact zabbix_respects h (hthrough _ (List.mem_cons_self ..)) hown
  | grafana =>
    have hboth : w.urlHost w.grafanaUrl ≠ w.target ∧ w.precheckRuns = true := by
      simpa [opensOwn] using hown
    exact grafana_respects (hpost hboth.2) (if_neg hboth.1)

/-- The condition for a run that has its jump host. -/
def RunsThrough (w : Access) (password : String) (script : Script) : Prop :=
  (w.precheckRuns = true → w.hasHost = true) ∧
    (w.hasParameters password script = true → w.StaysThrough script)

theorem realizarBackup_respects (h : Regime ans post) {script : Script} {password : String}
    (hsafe : w.RunsThrough password script) (hpost : w.precheckRuns = true → ∀ b, post b) :
    (w.realizarBackup password script).Respects Contact.NotDirect ans post :=
  Prog.respects_ite (fun hparams => connections_respects h (hsafe.2 hparams) hpost)
    fun _ => h.fails

theorem run_respects (h : Regime ans post) {script : Script} {password : String}
    (hsafe : w.RunsThrough password script) :
    (w.run password script).Respects Contact.NotDirect ans post := by
  refine Prog.respects_bind_iff.mpr (Prog.respects_ite (fun hruns => ?_) fun hruns => ?_)
  · have hroute : w.routeOf .precheck = .jump := if_pos (hsafe.1 hruns)
    refine contact_bind_iff.mpr ⟨by simp [Contact.NotDirect, hroute], fun a ha => ?_⟩
    have hscript : (∀ b, post b) →
        (w.realizarBackup password script).Respects Contact.NotDirect ans post :=
      fun hpost => realizarBackup_respects h hsafe fun _ => hpost
    cases a with
    | done n =>
      exact hscript (h.of_answered (.inr hroute) ha (by rintro ⟨d, hd⟩; cases hd))
    | unusable t =>
      have hpost : ∀ b, post b := h.of_answered (.inr hroute) ha (by rintro ⟨d, hd⟩; cases hd)
      refine Prog.respects_ite (fun _ => ?_) fun _ => hscript hpost
      have htries : (w.tries .precheck w.confirmRetries).Respects Contact.NotDirect ans
          fun _ => True := tries_respects ⟨trivial, .inl trivial⟩ hroute _
      exact htries.mono fun b _ => Prog.respects_ite (fun _ => hscript hpost) fun _ => h.fails
    | raised e => exact h.fails
  · exact realizarBackup_respects h hsafe fun hruns' => absurd hruns' hruns

/-! ## Necessary: every attempt can be reached -/

theorem direct_of_not {d : String} (h : w.through d = false) :
    w.routeOf (.connectHandler d) = .direct := by
  show (if w.through d = true then Route.jump else .direct) = .direct
  rw [h]
  rfl

theorem through_of_notDirect {d : String}
    (h : Contact.NotDirect ⟨.connectHandler d, w.routeOf (.connectHandler d)⟩) :
    w.through d = true := by
  cases hd : w.through d with
  | true => rfl
  | false => exact absurd (direct_of_not hd) h

theorem hasHost_of_notDirect {attempt : Attempt}
    (hroute : w.routeOf attempt = if w.hasHost then .jump else .direct)
    (h : Contact.NotDirect ⟨attempt, w.routeOf attempt⟩) : w.hasHost = true := by
  cases hh : w.hasHost with
  | true => rfl
  | false =>
    rw [hh] at hroute
    exact absurd hroute h

theorem through_of_always {drivers errors : List String}
    (h : (w.firstConnected drivers errors).Always Contact.NotDirect) :
    ∀ d ∈ drivers, w.through d = true := by
  induction drivers generalizing errors with
  | nil => exact fun d hd => absurd hd List.not_mem_nil
  | cons d rest ih =>
    have hrest := ih (h.2 (.raised "") trivial)
    exact List.forall_mem_cons.mpr ⟨through_of_notDirect h.1, hrest⟩

theorem error_of_firstConnected {ok : Contact → Prop} {post : Except (List String) String → Prop}
    {drivers errors : List String}
    (h : (w.firstConnected drivers errors).Respects ok (fun _ _ => True) post) :
    ∃ errs, post (.error errs) := by
  induction drivers generalizing errors with
  | nil => exact ⟨errors, h⟩
  | cons d rest ih => exact ih (h.2 (.raised "") trivial)

theorem drivers_through (script : Script)
    (h : (w.connections script).Always Contact.NotDirect) :
    ∀ d ∈ w.drivers script, w.through d = true := by
  cases script with
  | profile candidates => exact through_of_always (Prog.Always.of_bind h)
  | basic driver => exact through_of_always (Prog.Always.of_bind h)
  | switchHuawei => exact through_of_always (Prog.Always.of_bind h)
  | switchCisco => exact through_of_always (Prog.Always.of_bind h)
  | datacom => exact through_of_always (Prog.Always.of_bind h)
  | switchTplink => exact through_of_always (Prog.Always.of_bind h)
  | huaweiNe => exact List.forall_mem_singleton.mpr (through_of_notDirect h.1)
  | zabbix => exact List.forall_mem_singleton.mpr (through_of_notDirect h.1)
  | intelbrasOlt =>
    change (if w.scriptTelnet = true then _ else _ : Operation Bool).Always _ at h
    show ∀ d ∈ (if w.scriptTelnet = true then [] else ["cisco_ios"]), w.through d = true
    split at h
    next htelnet =>
      rw [if_pos htelnet]
      exact fun d hd => absurd hd List.not_mem_nil
    next hssh =>
      rw [if_neg hssh]
      exact through_of_always (Prog.Always.of_bind h)
  | fiberhome =>
    change (if w.scriptTelnet = true then _ else _ : Operation Bool).Always _ at h
    split at h
    · exact absurd rfl h.1
    · exact through_of_always (Prog.Always.of_bind h)
  | oltCli => exact fun d hd => absurd hd List.not_mem_nil
  | huaweiOlt => exact fun d hd => absurd hd List.not_mem_nil
  | mikrotikRos => exact fun d hd => absurd hd List.not_mem_nil
  | mikrotikDownload => exact fun d hd => absurd hd List.not_mem_nil
  | grafana => exact fun d hd => absurd hd List.not_mem_nil

theorem opensSession_hasHost (script : Script)
    (h : (w.connections script).Always Contact.NotDirect) (hopens : w.opensSession script = true) :
    w.hasHost = true := by
  cases script with
  | oltCli => exact hasHost_of_notDirect rfl h.1
  | huaweiOlt => exact hasHost_of_notDirect rfl h.1
  | mikrotikDownload => exact hasHost_of_notDirect rfl h.1
  | intelbrasOlt =>
    change (if w.scriptTelnet = true then _ else _ : Operation Bool).Always _ at h
    have htelnet : w.scriptTelnet = true := hopens
    rw [if_pos htelnet] at h
    exact hasHost_of_notDirect rfl h.1
  | _ => cases hopens

/-- A step that is taken only sometimes, and then directly. -/
theorem not_of_ite {c : Bool} {attempt : Attempt} (hroute : w.routeOf attempt = .direct)
    (h : (if c = true then w.collects attempt
      else return false : Operation Bool).Always Contact.NotDirect) : c = false := by
  cases c with
  | false => rfl
  | true => exact absurd hroute h.1

theorem discover_reaches {post : Bool → Prop}
    (h : w.discover.Respects Contact.NotDirect (fun _ _ => True) post) : post true := by
  change (if (w.dbAutomatic || !w.dbComplete) = true then _ else _ : Operation Bool).Respects
    _ _ _ at h
  split at h
  · exact h.2 (.done 0) trivial
  · exact h

theorem opensOwn_not (script : Script) (h : (w.connections script).Always Contact.NotDirect)
    (hprecheck : script = .grafana → w.precheckRuns = true) : w.opensOwn script = false := by
  cases script with
  | mikrotikRos => exact absurd rfl h.1
  | mikrotikDownload => exact not_of_ite rfl (h.2 (.raised "") trivial)
  | fiberhome =>
    cases htelnet : w.scriptTelnet with
    | false => exact htelnet
    | true =>
      change (if w.scriptTelnet = true then _ else _ : Operation Bool).Always _ at h
      rw [if_pos htelnet] at h
      exact absurd rfl h.1
  | switchCisco =>
    obtain ⟨errs, herror⟩ := error_of_firstConnected (Prog.respects_bind_iff.mp h)
    exact not_of_ite rfl herror
  | zabbix =>
    cases hknown : w.dbTypeKnown with
    | false => exact hknown
    | true =>
      have hthen := h.2 (.done 0) trivial
      change (if (!w.dbTypeKnown) = true then _ else _ : Operation Bool).Always _ at hthen
      rw [hknown] at hthen
      have hdump := discover_reaches (Prog.respects_bind_iff.mp hthen)
      exact absurd rfl (hdump.2 (.done 0) trivial).1
  | grafana =>
    have hother : w.urlHost w.grafanaUrl ≠ w.target := fun hurl => h.1 (if_pos hurl)
    simp [opensOwn, hother, hprecheck rfl]
  | _ => rfl

/-- What the script of a run may do, from the run. -/
theorem always_connections {password : String} {script : Script}
    (h : (w.run password script).Always Contact.NotDirect) :
    (w.precheckRuns = true → w.hasHost = true) ∧
      (w.hasParameters password script = true →
        (w.connections script).Always Contact.NotDirect) := by
  have hpass := Prog.respects_bind_iff.mp h
  change (if w.precheckRuns = true then _ else _ : Operation Bool).Respects _ _ _ at hpass
  have hscript : (w.realizarBackup password script).Always Contact.NotDirect ∧
      (w.precheckRuns = true → w.hasHost = true) := by
    split at hpass
    · exact ⟨hpass.2 (.done 0) trivial, fun _ => hasHost_of_notDirect rfl hpass.1⟩
    next hruns => exact ⟨hpass, fun hruns' => absurd hruns' hruns⟩
  refine ⟨hscript.2, fun hparams => ?_⟩
  have hrealizar := hscript.1
  change (if w.hasParameters password script = true then _ else _ : Operation Bool).Always _
    at hrealizar
  rwa [if_pos hparams] at hrealizar

/-- A request over HTTP succeeds without the jump host. -/
theorem precheckRuns_of_grafana {password : String}
    (h : (w.run password .grafana).Respects (fun _ => True) JumpRaises (· = false))
    (hparams : w.hasParameters password .grafana = true) : w.precheckRuns = true := by
  cases hruns : w.precheckRuns with
  | true => rfl
  | false =>
    have hpass := Prog.respects_bind_iff.mp h
    change (if w.precheckRuns = true then _ else _ : Operation Bool).Respects _ _ _ at hpass
    rw [hruns] at hpass
    change (if w.hasParameters password .grafana = true then _ else _ : Operation Bool).Respects
      _ _ _ at hpass
    rw [if_pos hparams] at hpass
    have hhttp : ∀ a, JumpRaises ⟨.http, w.routeOf .http⟩ a := by
      rintro a (hattempt | hroute)
      · cases hattempt
      · change (if w.urlHost w.grafanaUrl = w.target then Route.direct else .other) = .jump
          at hroute
        split at hroute <;> cases hroute
    have hboards := (hpass.2 (.done 0) (hhttp _)).2 (.done 0) (hhttp _)
    cases hboards

theorem confined_run_iff {password : String} {script : Script} :
    Confined (w.run password script) ↔ w.RunsThrough password script := by
  constructor
  · intro h
    obtain ⟨halways, hresult⟩ := confined_iff.mp h
    obtain ⟨hhost, hconnections⟩ := always_connections halways
    refine ⟨hhost, fun hparams => ?_⟩
    have hscript := hconnections hparams
    refine ⟨drivers_through script hscript, opensSession_hasHost script hscript,
      opensOwn_not script hscript ?_⟩
    rintro rfl
    exact precheckRuns_of_grafana hresult hparams
  · exact fun hsafe => confined_of_regime fun hregime => run_respects hregime hsafe

end Access

end BackupCenter.JumpHost
