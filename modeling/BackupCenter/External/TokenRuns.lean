import BackupCenter.External.Tokens

/-!
# Who an API token admits

The table of hashes represents the wallets: every active row is the hash of one live grant, and
every live grant has its row. Each operation keeps this, so a request is admitted exactly with the
text of a live grant, for the tenant of that grant.
-/
namespace BackupCenter.External

open BackupCenter.Lib
open BackupCenter.Tenants (Uuid Reply User)
open BackupCenter.Billing (Tenant)

/-! ## The representation -/

/-- What verifying is documented to do with a hash of a drawn token: it recognises that text only,
and raises for none that was drawn. -/
structure PwdContext.Faithful (pwd : PwdContext) : Prop where
  verify_hash : ∀ (d : Drawn) (text : String),
    pwd.verify text (pwd.hash d.salt d.rawToken) = some true ↔ text = d.rawToken
  verify_drawn : ∀ d d' : Drawn, pwd.verify d.rawToken (pwd.hash d'.salt d'.rawToken) ≠ none

/-- The columns that do not change, of a row that is in use. -/
def ApiToken.core (t : ApiToken) : ApiToken :=
  { t with name := "", isActive := some true, lastUsedAt := none }

/-- There is an active row with these columns. -/
def Live (s : Store) (c : ApiToken) : Prop :=
  ∃ t ∈ s.apiTokens, t.isActive = some true ∧ t.core = c

/-- The row is that of the grant. -/
structure Matches (env : Env) (c : ApiToken) (g : Grant) : Prop where
  id : c.id = g.id
  tenantId : c.tenantId = g.tenantId
  userId : c.userId = g.userId
  expiresAt : c.expiresAt = g.expiresAt
  hashed : ∃ d : Drawn, g.rawToken = d.rawToken ∧ c.tokenPrefix = firstTwelve d.rawToken ∧
    c.tokenHash = env.pwd.hash d.salt d.rawToken

/-- The table is that of the wallet. -/
structure Represents (env : Env) (s : Store) (w : Wallet) : Prop where
  distinct : (w.map Grant.rawToken).Nodup
  backed : ∀ g ∈ w, ∃ c, Live s c ∧ Matches env c g
  held : ∀ c, Live s c → ∃ g ∈ w, Matches env c g

variable {env : Env} {s s' : Store} {w w' : Wallet} {g : Grant} {c : ApiToken}

theorem Live.unique {c' : ApiToken} (h : Live s c) (h' : Live s c') (hid : c.id = c'.id) :
    c = c' := by
  obtain ⟨t, ht, -, rfl⟩ := h
  obtain ⟨t', ht', -, rfl⟩ := h'
  rw [Table.eq_of_key ht ht' hid]

/-- Rows that go together with their grants. -/
theorem Represents.restrict (h : Represents env s w) {keep : ApiToken → Prop} {p : Grant → Bool}
    (hlive : ∀ c, Live s' c ↔ Live s c ∧ keep c)
    (hp : ∀ c g, Live s c → Matches env c g → (p g = true ↔ keep c)) :
    Represents env s' (w.filter p) := by
  constructor
  · exact (List.filter_sublist.map Grant.rawToken).nodup h.distinct
  · intro g hg
    obtain ⟨hw, hpg⟩ := List.mem_filter.mp hg
    obtain ⟨c, hc, hmatch⟩ := h.backed g hw
    exact ⟨c, (hlive c).mpr ⟨hc, (hp c g hc hmatch).mp hpg⟩, hmatch⟩
  · intro c hc
    obtain ⟨hc, hkeep⟩ := (hlive c).mp hc
    obtain ⟨g, hg, hmatch⟩ := h.held c hc
    exact ⟨g, List.mem_filter.mpr ⟨hg, (hp c g hc hmatch).mpr hkeep⟩, hmatch⟩

/-- The operation leaves every grant alone. -/
theorem Represents.same (h : Represents env s w) (hlive : ∀ c, Live s' c ↔ Live s c) :
    Represents env s' w where
  distinct := h.distinct
  backed g hg := by
    obtain ⟨c, hc, hmatch⟩ := h.backed g hg
    exact ⟨c, (hlive c).mpr hc, hmatch⟩
  held c hc := h.held c ((hlive c).mp hc)

/-! ## Admission -/

theorem firstVerified_sound {pwd : PwdContext} {rawToken : String} {rows : List ApiToken}
    {t : ApiToken} (h : firstVerified pwd rawToken rows = .ok (some t)) :
    t ∈ rows ∧ pwd.verify rawToken t.tokenHash = some true := by
  induction rows with
  | nil => cases h
  | cons a rows ih =>
    unfold firstVerified at h
    cases hverify : pwd.verify rawToken a.tokenHash with
    | none =>
      rw [hverify] at h
      cases h
    | some verified =>
      rw [hverify] at h
      cases verified with
      | true =>
        obtain rfl := Option.some.inj (Except.ok.inj h)
        exact ⟨List.mem_cons_self .., hverify⟩
      | false => exact ⟨List.mem_cons_of_mem _ (ih h).1, (ih h).2⟩

/-- Where no candidate makes `verify` raise, one that verifies is found. -/
theorem firstVerified_complete {pwd : PwdContext} {rawToken : String} {rows : List ApiToken}
    (hraise : ∀ t ∈ rows, pwd.verify rawToken t.tokenHash ≠ none)
    (hsome : ∃ t ∈ rows, pwd.verify rawToken t.tokenHash = some true) :
    ∃ t, firstVerified pwd rawToken rows = .ok (some t) := by
  induction rows with
  | nil =>
    obtain ⟨t, ht, -⟩ := hsome
    exact absurd ht List.not_mem_nil
  | cons a rows ih =>
    unfold firstVerified
    cases hverify : pwd.verify rawToken a.tokenHash with
    | none => exact absurd hverify (hraise a (List.mem_cons_self ..))
    | some verified =>
      cases verified with
      | true => exact ⟨a, rfl⟩
      | false =>
        refine ih (fun t ht => hraise t (List.mem_cons_of_mem _ ht)) ?_
        obtain ⟨t, ht, htrue⟩ := hsome
        rcases List.mem_cons.mp ht with rfl | ht
        · exact absurd (hverify.symm.trans htrue) (by decide)
        · exact ⟨t, ht, htrue⟩

theorem mem_candidates {rawToken : String} {order : RowOrder ApiToken} {t : ApiToken} :
    t ∈ candidates rawToken order s ↔ t ∈ s.apiTokens ∧ t.tokenPrefix = firstTwelve rawToken ∧
      t.isActive = some true := by
  unfold candidates
  rw [(order.perm _).mem_iff, List.mem_filter, Bool.and_eq_true, decide_eq_true_eq,
    decide_eq_true_eq]
  exact Iff.rfl

/-- The text that a candidate verifies is that of its grant. -/
theorem Represents.grant_of_verified (h : Represents env s w) (hpwd : env.pwd.Faithful)
    {rawToken : String} {t : ApiToken} (ht : t ∈ s.apiTokens) (hactive : t.isActive = some true)
    (hverify : env.pwd.verify rawToken t.tokenHash = some true) :
    ∃ g ∈ w, Matches env t.core g ∧ rawToken = g.rawToken := by
  obtain ⟨g, hg, hmatch⟩ := h.held t.core ⟨t, ht, hactive, rfl⟩
  obtain ⟨d, hraw, -, hhash⟩ := hmatch.hashed
  refine ⟨g, hg, hmatch, ?_⟩
  have hhash : t.tokenHash = env.pwd.hash d.salt d.rawToken := hhash
  rw [hhash] at hverify
  rw [hraw]
  exact (hpwd.verify_hash d rawToken).mp hverify

theorem Represents.grant_unique (h : Represents env s w) {g' : Grant} (hg : g ∈ w) (hg' : g' ∈ w)
    (hraw : g.rawToken = g'.rawToken) : g = g' :=
  List.inj_on_of_nodup_map h.distinct hg hg' hraw

theorem start_of_drawn (d : Drawn) : tokenStart.toList <+: d.rawToken.toList := by
  unfold Drawn.rawToken
  rw [String.toList_append]
  exact List.prefix_append _ _

/-- Verifying the text of a live grant finds its row. -/
theorem Represents.firstVerified_grant (h : Represents env s w) (hpwd : env.pwd.Faithful)
    (hg : g ∈ w) (order : RowOrder ApiToken) :
    ∃ t, firstVerified env.pwd g.rawToken (candidates g.rawToken order s) = .ok (some t) ∧
      Matches env t.core g := by
  obtain ⟨c, ⟨a, ha, hactive, rfl⟩, hmatch⟩ := h.backed g hg
  obtain ⟨d, hraw, hstart, hhash⟩ := hmatch.hashed
  have hhash : a.tokenHash = env.pwd.hash d.salt d.rawToken := hhash
  have hraise : ∀ t ∈ candidates g.rawToken order s,
      env.pwd.verify g.rawToken t.tokenHash ≠ none := by
    intro t ht
    obtain ⟨ht, -, htactive⟩ := mem_candidates.mp ht
    obtain ⟨g', -, hmatch'⟩ := h.held t.core ⟨t, ht, htactive, rfl⟩
    obtain ⟨d', -, -, hhash'⟩ := hmatch'.hashed
    have hhash' : t.tokenHash = env.pwd.hash d'.salt d'.rawToken := hhash'
    rw [hhash', hraw]
    exact hpwd.verify_drawn d d'
  have hcandidate : a ∈ candidates g.rawToken order s := by
    refine mem_candidates.mpr ⟨ha, ?_, hactive⟩
    rw [hraw]
    exact hstart
  have hverified : env.pwd.verify g.rawToken a.tokenHash = some true := by
    rw [hhash]
    exact (hpwd.verify_hash d _).mpr hraw
  obtain ⟨t, ht⟩ := firstVerified_complete hraise ⟨a, hcandidate, hverified⟩
  refine ⟨t, ht, ?_⟩
  obtain ⟨hmem, hverify⟩ := firstVerified_sound ht
  obtain ⟨hmem, -, htactive⟩ := mem_candidates.mp hmem
  obtain ⟨g', hg', hmatch', hraw'⟩ := h.grant_of_verified hpwd hmem htactive hverify
  rw [h.grant_unique hg hg' hraw']
  exact hmatch'

/-- The grant is good at this moment, for this tenant. -/
def Grant.Speaks (g : Grant) (s : Store) (now : Int) (tenant : Tenant) : Prop :=
  g.expiresAt.any (· < now) = false ∧ s.db.tenants.find g.tenantId = some tenant ∧
    Superadmin.active tenant = true

theorem verifyToken_eq_some {rawToken : String} {order : RowOrder ApiToken} {now : Int}
    {t : ApiToken} : verifyToken env rawToken order now s = .ok (some t) ↔
      tokenStart.toList <+: rawToken.toList ∧
        firstVerified env.pwd rawToken (candidates rawToken order s) = .ok (some t) ∧
        t.isExpired now = false := by
  unfold verifyToken
  by_cases hstart : tokenStart.toList <+: rawToken.toList
  · rw [if_pos hstart]
    cases hfirst : firstVerified env.pwd rawToken (candidates rawToken order s) with
    | error e => simp [Except.map]
    | ok found =>
      cases found with
      | none => simp [Except.map]
      | some a =>
        by_cases hexpired : a.isExpired now = true
        · simp only [Except.map, Option.filter, hexpired, Except.ok.injEq]
          simp only [Bool.not_true, Bool.false_eq_true, if_false, Option.some.injEq, hstart,
            true_and, false_iff, not_and, reduceCtorEq]
          rintro rfl hf
          exact absurd (hexpired.symm.trans hf) (by decide)
        · have hvalid : a.isExpired now = false := Bool.eq_false_of_not_eq_true hexpired
          simp only [Except.map, Option.filter, hvalid, Except.ok.injEq]
          simp only [Bool.not_false, if_true, Option.some.injEq, hstart, true_and]
          exact ⟨fun he => ⟨he, he ▸ hvalid⟩, And.left⟩
  · rw [if_neg hstart]
    simp [hstart]

theorem getCurrentApiTenant_eq_ok {credentials : Option String} {order : RowOrder ApiToken}
    {now : Int} {tenant : Tenant} :
    (getCurrentApiTenant env credentials order now s).1 = .ok tenant ↔
      ∃ rawToken t, credentials = some rawToken ∧
        verifyToken env rawToken order now s = .ok (some t) ∧
        s.db.tenants.find t.tenantId = some tenant ∧ Superadmin.active tenant = true := by
  unfold getCurrentApiTenant
  cases credentials with
  | none => simp
  | some rawToken =>
    cases hverify : verifyToken env rawToken order now s with
    | error e => simp [hverify]
    | ok found =>
      cases found with
      | none => simp [hverify]
      | some t => simp [hverify, Option.filter_eq_some_iff]

/-- With a table that represents the wallet, the credentials of a request are those of a live grant,
and speak for its tenant. -/
theorem Represents.admits_iff (h : Represents env s w) (hpwd : env.pwd.Faithful)
    {credentials : Option String} {order : RowOrder ApiToken} {now : Int} {tenant : Tenant} :
    (getCurrentApiTenant env credentials order now s).1 = .ok tenant ↔
      ∃ g ∈ w, credentials = some g.rawToken ∧ g.Speaks s now tenant := by
  rw [getCurrentApiTenant_eq_ok]
  constructor
  · rintro ⟨rawToken, t, rfl, hverify, hfind, hactive⟩
    obtain ⟨-, hfirst, hvalid⟩ := verifyToken_eq_some.mp hverify
    obtain ⟨hmem, hverified⟩ := firstVerified_sound hfirst
    obtain ⟨hmem, -, htactive⟩ := mem_candidates.mp hmem
    obtain ⟨g, hg, hmatch, rfl⟩ := h.grant_of_verified hpwd hmem htactive hverified
    refine ⟨g, hg, rfl, ?_, ?_, hactive⟩
    · rw [← hmatch.expiresAt]
      exact hvalid
    · rw [← hmatch.tenantId]
      exact hfind
  · rintro ⟨g, hg, rfl, hvalid, hfind, hactive⟩
    obtain ⟨t, hfirst, hmatch⟩ := h.firstVerified_grant hpwd hg order
    obtain ⟨c, -, hmatch'⟩ := h.backed g hg
    obtain ⟨d, hraw, -, -⟩ := hmatch'.hashed
    refine ⟨g.rawToken, t, rfl, verifyToken_eq_some.mpr ⟨?_, hfirst, ?_⟩, ?_, hactive⟩
    · rw [hraw]
      exact start_of_drawn d
    · rw [← hmatch.expiresAt] at hvalid
      exact hvalid
    · rw [← hmatch.tenantId] at hfind
      exact hfind

/-! ## Steps -/

theorem live_congr (h : s'.apiTokens = s.apiTokens) : Live s' c ↔ Live s c := by
  unfold Live
  rw [h]

theorem live_used {id : Uuid} {now : Int}
    (h : s'.apiTokens = s.apiTokens.modify (fun t => t.id = id) (used now)) :
    Live s' c ↔ Live s c := by
  unfold Live
  simp only [h, Table.mem_modify]
  constructor
  · rintro ⟨_, ⟨t, ht, rfl⟩, hactive, rfl⟩
    refine ⟨t, ht, ?_⟩
    split at hactive
    · next hid =>
      rw [if_pos hid]
      exact ⟨hactive, rfl⟩
    · next hid =>
      rw [if_neg hid]
      exact ⟨hactive, rfl⟩
  · rintro ⟨t, ht, hactive, rfl⟩
    refine ⟨_, ⟨t, ht, rfl⟩, ?_⟩
    split
    · exact ⟨hactive, rfl⟩
    · exact ⟨hactive, rfl⟩

theorem live_deactivated {id : Uuid}
    (h : s'.apiTokens = s.apiTokens.modify (fun t => t.id = id) deactivated) :
    Live s' c ↔ Live s c ∧ c.id ≠ id := by
  unfold Live
  simp only [h, Table.mem_modify]
  constructor
  · rintro ⟨_, ⟨t, ht, rfl⟩, hactive, rfl⟩
    split at hactive
    · exact absurd (Option.some.inj hactive) (by decide)
    · next hid =>
      rw [if_neg hid]
      exact ⟨⟨t, ht, hactive, rfl⟩, of_decide_eq_false (Bool.eq_false_of_not_eq_true hid)⟩
  · rintro ⟨⟨t, ht, hactive, rfl⟩, hid⟩
    refine ⟨t, ⟨t, ht, ?_⟩, hactive, rfl⟩
    rw [if_neg]
    exact fun hyes => hid (of_decide_eq_true hyes)

theorem live_erase {p : ApiToken → Bool} (h : s'.apiTokens = s.apiTokens.erase p)
    (hcore : ∀ t, p t.core = p t) : Live s' c ↔ Live s c ∧ p c = false := by
  unfold Live
  simp only [h, Table.mem_erase]
  constructor
  · rintro ⟨t, ⟨ht, hp⟩, hactive, rfl⟩
    exact ⟨⟨t, ht, hactive, rfl⟩, (hcore t).trans hp⟩
  · rintro ⟨⟨t, ht, hactive, rfl⟩, hp⟩
    exact ⟨t, ⟨ht, (hcore t).symm.trans hp⟩, hactive, rfl⟩

/-- Every creation draws a text that no live token has. -/
def TokenEvent.fresh (w : Wallet) : TokenEvent → Prop
  | create _ _ _ d => d.rawToken ∉ w.map Grant.rawToken
  | _ => True

instance (w : Wallet) : ∀ e : TokenEvent, Decidable (e.fresh w)
  | .create _ _ _ d => inferInstanceAs (Decidable (d.rawToken ∉ w.map Grant.rawToken))
  | .revoke .. | .request .. | .deleteUser _ | .purge _ | .users _ | .addTenant _
  | .lifecycle _ => inferInstanceAs (Decidable True)

theorem createToken_ok {session : Auth.Cookie} {tenantSlug : String} {name : Option String}
    {d : Drawn} {r : Reply} (h : createToken env session tenantSlug name d s = .ok (s', r)) :
    ∃ tenant userId row, getDbAndTenant session tenantSlug s = .ok tenant ∧
      session.userId = some userId ∧ s.apiTokens.add row = some s'.apiTokens ∧
      row.isActive = some true ∧
      Matches env row.core ⟨d.rawToken, d.id, tenant.id, userId, none⟩ := by
  simp only [createToken, createRow, bind_eq_ok, require_eq_ok, demand_eq_ok, orRefuse_eq_ok,
    pure_eq_ok, Prod.mk.injEq] at h
  obtain ⟨-, -, tenant, htenant, -, -, userId, huser, _, ⟨-, -, -, -, _, hadd, rfl⟩, rfl, -⟩ := h
  exact ⟨tenant, userId, _, htenant, huser, hadd, rfl, rfl, rfl, rfl, rfl, d, rfl, rfl, rfl⟩

theorem represents_create (h : Represents env s w) {session : Auth.Cookie} {tenantSlug : String}
    {name : Option String} {d : Drawn} (hfresh : d.rawToken ∉ w.map Grant.rawToken) :
    Represents env (committed s (createToken env session tenantSlug name d s))
      (w ++ (granted env session tenantSlug name d s).toList) := by
  unfold granted
  cases hcreate : createToken env session tenantSlug name d s with
  | error refusal =>
    show Represents env s (w ++ [])
    rw [List.append_nil]
    exact h
  | ok done =>
    obtain ⟨s', r⟩ := done
    obtain ⟨tenant, userId, row, htenant, huser, hadd, hactive, hmatch⟩ := createToken_ok hcreate
    rw [htenant, huser]
    show Represents env s' (w ++ [⟨d.rawToken, d.id, tenant.id, userId, none⟩])
    have hlive : ∀ c, Live s' c ↔ c = row.core ∨ Live s c := by
      intro c
      unfold Live
      simp only [Table.mem_of_add hadd]
      constructor
      · rintro ⟨t, rfl | ht, htactive, rfl⟩
        · exact .inl rfl
        · exact .inr ⟨t, ht, htactive, rfl⟩
      · rintro (rfl | ⟨t, ht, htactive, rfl⟩)
        · exact ⟨row, .inl rfl, hactive, rfl⟩
        · exact ⟨t, .inr ht, htactive, rfl⟩
    constructor
    · rw [List.map_append, List.map_singleton, List.nodup_append]
      refine ⟨h.distinct, List.nodup_singleton _, fun raw hraw raw' hraw' he => hfresh ?_⟩
      have hsame : raw = d.rawToken := he.trans (List.mem_singleton.mp hraw')
      rw [← hsame]
      exact hraw
    · intro g hg
      rcases List.mem_append.mp hg with hg | hg
      · obtain ⟨c, hc, hm⟩ := h.backed g hg
        exact ⟨c, (hlive c).mpr (.inr hc), hm⟩
      · obtain rfl := List.mem_singleton.mp hg
        exact ⟨row.core, (hlive _).mpr (.inl rfl), hmatch⟩
    · intro c hc
      rcases (hlive c).mp hc with rfl | hc
      · exact ⟨_, List.mem_append_right _ (List.mem_singleton_self _), hmatch⟩
      · obtain ⟨g, hg, hm⟩ := h.held c hc
        exact ⟨g, List.mem_append_left _ hg, hm⟩

theorem revokeToken_eq_ok {session : Auth.Cookie} {tenantSlug : String} {tokenId : Option Uuid}
    {done : Store × Reply} (h : revokeToken session tenantSlug tokenId s = .ok done) :
    ∃ tenant token, requireAdmin session = .ok () ∧
      getDbAndTenant session tenantSlug s = .ok tenant ∧
      tokenId = some token.id ∧ token ∈ s.apiTokens ∧ token.tenantId = tenant.id ∧
      done.1 =
        { s with apiTokens := s.apiTokens.modify (fun t => t.id = token.id) deactivated } := by
  simp only [revokeToken, bind_eq_ok, demand_eq_ok, Option.filter_eq_some_iff, pure_eq_ok,
    decide_eq_true_eq] at h
  obtain ⟨_, hadmin, tenant, htenant, tid, rfl, token, ⟨hfind, htoken⟩, rfl⟩ := h
  obtain ⟨hmem, hid⟩ := Table.find_eq_some.mp hfind
  exact ⟨tenant, token, hadmin, htenant, congrArg some hid.symm, hmem, htoken, rfl⟩

theorem kills_revoke {session : Auth.Cookie} {tenantSlug : String} {tokenId : Option Uuid} :
    (TokenEvent.revoke session tenantSlug tokenId).kills s g = true ↔
      requireAdmin session = .ok () ∧ tokenId = some g.id ∧
        ∃ tenant, getDbAndTenant session tenantSlug s = .ok tenant ∧ tenant.id = g.tenantId := by
  simp only [TokenEvent.kills]
  cases requireAdmin session with
  | error e => simp
  | ok u =>
    cases getDbAndTenant session tenantSlug s with
    | error e => simp
    | ok tenant => simp

/-- A revocation fails where the token is no token of the tenant, or is none. -/
theorem revokeToken_of_kills (h : Represents env s w) (hg : g ∈ w) {session : Auth.Cookie}
    {tenantSlug : String} {tokenId : Option Uuid}
    (hkills : (TokenEvent.revoke session tenantSlug tokenId).kills s g = true) :
    ∃ done, revokeToken session tenantSlug tokenId s = .ok done := by
  obtain ⟨hadmin, rfl, tenant, htenant, hid⟩ := kills_revoke.mp hkills
  obtain ⟨c, ⟨t, ht, -, rfl⟩, hmatch⟩ := h.backed g hg
  have hfind : s.apiTokens.find g.id = some t := Table.find_eq_some.mpr ⟨ht, hmatch.id⟩
  have htoken : t.tenantId = tenant.id := hmatch.tenantId.trans hid.symm
  refine ⟨_, bind_eq_ok.mpr ⟨(), hadmin, bind_eq_ok.mpr ⟨tenant, htenant, bind_eq_ok.mpr
    ⟨g.id, rfl, bind_eq_ok.mpr ⟨t, ?_, rfl⟩⟩⟩⟩⟩
  rw [demand_eq_ok, Option.filter_eq_some_iff]
  exact ⟨hfind, decide_eq_true htoken⟩

theorem represents_revoke (h : Represents env s w) (session : Auth.Cookie) (tenantSlug : String)
    (tokenId : Option Uuid) :
    Represents env (committed s (revokeToken session tenantSlug tokenId s))
      (w.filter fun g => !(TokenEvent.revoke session tenantSlug tokenId).kills s g) := by
  cases hrevoke : revokeToken session tenantSlug tokenId s with
  | error refusal =>
    have hnone : ∀ g ∈ w, (!(TokenEvent.revoke session tenantSlug tokenId).kills s g) = true := by
      intro g hg
      rw [Bool.not_eq_true', ← Bool.not_eq_true]
      intro hkills
      obtain ⟨done, hdone⟩ := revokeToken_of_kills h hg hkills
      cases hrevoke.symm.trans hdone
    rw [List.filter_eq_self.mpr hnone]
    exact h
  | ok done =>
    obtain ⟨tenant, token, hadmin, htenant, rfl, hmem, htoken, hdone⟩ := revokeToken_eq_ok hrevoke
    have hsame : (committed s (.ok done)).apiTokens =
        s.apiTokens.modify (fun t => t.id = token.id) deactivated := by
      show done.1.apiTokens = _
      rw [hdone]
    refine h.restrict (fun c => live_deactivated hsame) fun c g hc hmatch => ?_
    rw [Bool.not_eq_true', ← Bool.not_eq_true, kills_revoke, not_iff_not]
    constructor
    · rintro ⟨-, hid, -⟩
      exact hmatch.id.trans (Option.some.inj hid).symm
    · intro hid
      obtain ⟨t, ht, -, rfl⟩ := hc
      obtain rfl := Table.eq_of_key ht hmem hid
      exact ⟨hadmin, congrArg some hmatch.id, tenant, htenant, htoken.symm.trans hmatch.tenantId⟩

theorem represents_deleteUser (h : Represents env s w) (userId : Uuid) :
    Represents env (storeStep env s (.deleteUser userId))
      (w.filter fun g => !(TokenEvent.deleteUser userId).kills s g) := by
  refine h.restrict (fun c => live_erase rfl fun _ => rfl) fun c g _ hmatch => ?_
  show (!decide (userId = g.userId)) = true ↔ decide (c.userId = userId) = false
  rw [hmatch.userId, Bool.not_eq_true', decide_eq_false_iff_not, decide_eq_false_iff_not,
    eq_comm]

/-- Both deletions of a purge together. -/
theorem live_purge {tenantId : Uuid} :
    Live (storeStep env s (.purge tenantId)) c ↔ Live s c ∧
      ¬ (tenantId = c.tenantId ∨ ∃ u ∈ s.users, u.tenantId = some tenantId ∧ u.id = c.userId) := by
  let userIds := (s.users.rows.filter fun u => u.tenantId = some tenantId).map User.id
  let first : Store := { s with apiTokens := s.apiTokens.erase fun t => userIds.contains t.userId }
  have huser : userIds.contains c.userId = true ↔
      ∃ u ∈ s.users, u.tenantId = some tenantId ∧ u.id = c.userId := by
    rw [List.contains_iff_mem, List.mem_map]
    simp only [List.mem_filter, decide_eq_true_eq, and_assoc]
    exact Iff.rfl
  have hsecond : Live (storeStep env s (.purge tenantId)) c ↔
      Live first c ∧ decide (c.tenantId = tenantId) = false :=
    live_erase (p := fun t => t.tenantId = tenantId) rfl fun _ => rfl
  have hfirst : Live first c ↔ Live s c ∧ userIds.contains c.userId = false :=
    live_erase (p := fun t => userIds.contains t.userId) rfl fun _ => rfl
  rw [hsecond, hfirst, not_or, ← huser, Bool.not_eq_true, decide_eq_false_iff_not, and_assoc,
    and_comm (a := userIds.contains c.userId = false), eq_comm (a := c.tenantId)]

theorem represents_purge (h : Represents env s w) (tenantId : Uuid) :
    Represents env (storeStep env s (.purge tenantId))
      (w.filter fun g => !(TokenEvent.purge tenantId).kills s g) := by
  refine h.restrict (fun c => live_purge) fun c g _ hmatch => ?_
  rw [hmatch.userId, hmatch.tenantId, Bool.not_eq_true', ← Bool.not_eq_true, not_iff_not]
  simp only [TokenEvent.kills, Bool.or_eq_true, decide_eq_true_eq, List.any_eq_true,
    Bool.and_eq_true]
  exact Iff.rfl

/-- The table represents the wallet after every event. -/
theorem represents_step (h : Represents env s w) (e : TokenEvent) (hfresh : e.fresh w) :
    Represents env (storeStep env s e) (walletStep env s w e) := by
  have hkept : (w.filter fun _ => !false) = w := List.filter_eq_self.mpr fun _ _ => rfl
  cases e with
  | create session tenantSlug name d => exact represents_create h hfresh
  | revoke session tenantSlug tokenId => exact represents_revoke h session tenantSlug tokenId
  | request credentials order now =>
    show Represents env _ (w.filter fun _ => !false)
    rw [hkept]
    refine h.same fun c => ?_
    show Live (getCurrentApiTenant env credentials order now s).2 c ↔ _
    unfold getCurrentApiTenant
    split
    · exact Iff.rfl
    · split
      · exact Iff.rfl
      · exact Iff.rfl
      · exact live_used rfl
  | deleteUser userId => exact represents_deleteUser h userId
  | purge tenantId => exact represents_purge h tenantId
  | users users =>
    show Represents env _ (w.filter fun _ => !false)
    rw [hkept]
    exact h.same fun c => live_congr rfl
  | addTenant t =>
    show Represents env _ (w.filter fun _ => !false)
    rw [hkept]
    exact h.same fun c => live_congr rfl
  | lifecycle e =>
    show Represents env _ (w.filter fun _ => !false)
    rw [hkept]
    exact h.same fun c => live_congr rfl

/-! ## Runs -/

/-- The condition on a run: what is drawn is new among the live tokens. -/
def Fresh (x : Store × Wallet) (e : TokenEvent) : Prop := e.fresh x.2

instance (x : Store × Wallet) (e : TokenEvent) : Decidable (Fresh x e) :=
  inferInstanceAs (Decidable (e.fresh x.2))

theorem represents_run {x x' : Store × Wallet} {es : List TokenEvent}
    (h : Represents env x.1 x.2) (hfresh : Along (tokenStep env) Fresh x es)
    (hrun : exec (tokenStep env) x es = some x') : Represents env x'.1 x'.2 := by
  have hstep : ∀ (x : Store × Wallet) (e : TokenEvent) (x' : Store × Wallet),
      Represents env x.1 x.2 → Fresh x e → tokenStep env x e = some x' →
        Represents env x'.1 x'.2 := by
    intro x e x' hx hfresh hstep
    obtain rfl := Option.some.inj hstep
    exact represents_step hx e hfresh
  exact exec_invariant hstep h hfresh hrun

theorem represents_start (env : Env) (db : Billing.Database) (users : Table User) :
    Represents env { db := db, users := users } [] where
  distinct := List.nodup_nil
  backed _ hg := absurd hg List.not_mem_nil
  held c hc := by
    obtain ⟨t, ht, -⟩ := hc
    exact absurd ht List.not_mem_nil

/-- No creation draws this text. -/
def Undrawn (rawToken : String) : TokenEvent → Prop
  | .create _ _ _ d => d.rawToken ≠ rawToken
  | _ => True

/-- A grant stays in its wallet exactly if the event does not kill it. -/
theorem mem_walletStep {e : TokenEvent} (hg : g ∈ w) :
    g ∈ walletStep env s w e ↔ e.kills s g = false := by
  cases e with
  | create session tenantSlug name d => exact iff_of_true (List.mem_append_left _ hg) rfl
  | _ => exact List.mem_filter.trans ((and_iff_right hg).trans (Bool.not_eq_true' _).to_iff)

theorem granted_rawToken {session : Auth.Cookie} {tenantSlug : String} {name : Option String}
    {d : Drawn} (h : granted env session tenantSlug name d s = some g) :
    g.rawToken = d.rawToken := by
  unfold granted at h
  split at h
  · obtain rfl := Option.some.inj h
    rfl
  · cases h

/-- An event brings no text into the wallets but the one that it draws. -/
theorem rawToken_of_walletStep {e : TokenEvent} {rawToken : String} (he : Undrawn rawToken e)
    (h : ∃ g ∈ walletStep env s w e, g.rawToken = rawToken) :
    ∃ g ∈ w, g.rawToken = rawToken ∧ e.kills s g = false := by
  obtain ⟨g, hg, hraw⟩ := h
  cases e with
  | create session tenantSlug name d =>
    rcases List.mem_append.mp hg with hg | hg
    · exact ⟨g, hg, hraw, rfl⟩
    · exact absurd ((granted_rawToken (Option.mem_toList.mp hg)).symm.trans hraw) he
  | _ =>
    obtain ⟨hg, hkept⟩ := List.mem_filter.mp hg
    exact ⟨g, hg, hraw, (Bool.not_eq_true' _).mp hkept⟩

/-- Nothing kills the token along the run. -/
def NeverKilled (env : Env) (g : Grant) (x : Store × Wallet) (es : List TokenEvent) : Prop :=
  Along (tokenStep env) (fun x e => e.kills x.1 g = false) x es

/-- A text that no wallet has stays so until it is drawn. -/
theorem absent_run {rawToken : String} {x x' : Store × Wallet} {es : List TokenEvent}
    (h : ∀ g ∈ x.2, g.rawToken ≠ rawToken) (hundrawn : ∀ e ∈ es, Undrawn rawToken e)
    (hrun : exec (tokenStep env) x es = some x') : ∀ g ∈ x'.2, g.rawToken ≠ rawToken := by
  have halong : Along (tokenStep env) (fun _ e => True ∧ Undrawn rawToken e) x es :=
    along_true.and_mem hundrawn
  have hstep : ∀ (x : Store × Wallet) (e : TokenEvent) (x' : Store × Wallet),
      (∀ g ∈ x.2, g.rawToken ≠ rawToken) → True ∧ Undrawn rawToken e →
        tokenStep env x e = some x' → ∀ g ∈ x'.2, g.rawToken ≠ rawToken := by
    intro x e x' hx he hstep g hg hraw
    obtain rfl := Option.some.inj hstep
    obtain ⟨g', hg', hraw', -⟩ := rawToken_of_walletStep he.2 ⟨g, hg, hraw⟩
    exact hx g' hg' hraw'
  exact exec_invariant hstep h halong hrun

/-- The text of a grant is in the wallets as long as nothing has killed it, and then it is that
grant. -/
theorem held_run {x x' : Store × Wallet} {es : List TokenEvent} (h : Represents env x.1 x.2)
    (hg : g ∈ x.2) (hundrawn : ∀ e ∈ es, Undrawn g.rawToken e)
    (hfresh : Along (tokenStep env) Fresh x es) (hrun : exec (tokenStep env) x es = some x') :
    (NeverKilled env g x es → g ∈ x'.2) ∧
      ((∃ g' ∈ x'.2, g'.rawToken = g.rawToken) → NeverKilled env g x es) := by
  induction es generalizing x with
  | nil =>
    obtain rfl := Option.some.inj hrun
    exact ⟨fun _ => hg, fun _ => trivial⟩
  | cons e es ih =>
    obtain ⟨y, hy, hrest⟩ := exec_cons hrun
    have hnext : y = (storeStep env x.1 e, walletStep env x.1 x.2 e) := (Option.some.inj hy).symm
    have hundrawn' : ∀ e ∈ es, Undrawn g.rawToken e := fun e' he' =>
      hundrawn e' (List.mem_cons_of_mem _ he')
    cases hkills : e.kills x.1 g with
    | false =>
      have hgy : g ∈ y.2 := by
        rw [hnext]
        exact (mem_walletStep hg).mpr hkills
      have hrep : Represents env y.1 y.2 := by
        rw [hnext]
        exact represents_step h e hfresh.1
      obtain ⟨hkept, hheld⟩ := ih hrep hgy hundrawn' (hfresh.2 y hy) hrest
      refine ⟨fun hnever => hkept (hnever.2 y hy), fun hsome => ⟨hkills, fun y' hy' => ?_⟩⟩
      obtain rfl := Option.some.inj (hy.symm.trans hy')
      exact hheld hsome
    | true =>
      have hgone : ∀ g' ∈ y.2, g'.rawToken ≠ g.rawToken := by
        intro g' hg' hraw
        rw [hnext] at hg'
        obtain ⟨g'', hg'', hraw'', hkept⟩ :=
          rawToken_of_walletStep (hundrawn e (List.mem_cons_self ..)) ⟨g', hg', hraw⟩
        obtain rfl := h.grant_unique hg'' hg hraw''
        exact absurd (hkills.symm.trans hkept) (by decide)
      refine ⟨fun hnever => absurd (hkills.symm.trans hnever.1) (by decide), fun hsome => ?_⟩
      obtain ⟨g', hg', hraw⟩ := hsome
      exact absurd hraw (absent_run hgone hundrawn' hrest g' hg')

/-- After every run in which no live text is drawn again, a request is admitted exactly with the
text of a grant that the wallets hold, as the tenant on whose page it was created. -/
theorem admits_iff_granted (env : Env) (hpwd : env.pwd.Faithful) (db : Billing.Database)
    (users : Table User) (es : List TokenEvent) (x : Store × Wallet)
    (hfresh : Along (tokenStep env) Fresh ({ db := db, users := users }, []) es)
    (hrun : exec (tokenStep env) ({ db := db, users := users }, []) es = some x)
    (credentials : Option String) (order : RowOrder ApiToken) (now : Int) (tenant : Tenant) :
    (getCurrentApiTenant env credentials order now x.1).1 = .ok tenant ↔
      ∃ g ∈ x.2, credentials = some g.rawToken ∧ g.Speaks x.1 now tenant :=
  (represents_run (represents_start env db users) hfresh hrun).admits_iff hpwd

section Example

/-- A hash that keeps the text. -/
def plainEnv : Env where
  site := .ascii
  pwd := { hash := fun _ text => text, verify := fun text hash => some (text = hash) }

theorem plainEnv_faithful : plainEnv.pwd.Faithful where
  verify_hash d text := by simp [plainEnv]
  verify_drawn d d' := by simp [plainEnv]

def provider : Tenant where
  id := 1
  name := "Provedor"
  slug := "provedor"
  email := "provedor@example.com"

def oneTenant : Billing.Database where
  tenants := ⟨[provider], by decide⟩

def oneUser : Table User :=
  ⟨[{ id := 7, tenantId := some 1, email := "a@example.com", fullName := "A", passwordHash := "" }],
    by decide⟩

def adminCookie : Auth.Cookie where
  userId := some 7
  userRole := some .tenantAdmin
  tenantSlug := some "provedor"

def drawn : Drawn where
  id := 3
  text := "xxxxxxxxxxxxxxxxxxxxxxxxxxxxxxxxxxxxxxxxxxxxxxxxxxxxxx"
  salt := 0

def created : List TokenEvent := [.create adminCookie "provedor" (some "ERP") drawn]

def afterCreation : Store × Wallet :=
  ((exec (tokenStep plainEnv) ({ db := oneTenant, users := oneUser }, []) created).getD ({}, []))

theorem admits_iff_granted_created :
    (getCurrentApiTenant plainEnv (some drawn.rawToken) .asStored 0 afterCreation.1).1 =
      .ok provider :=
  (admits_iff_granted plainEnv plainEnv_faithful oneTenant oneUser created afterCreation
    (along_of_check (by decide +kernel)) rfl (some drawn.rawToken) .asStored 0 provider).mpr
    ⟨⟨drawn.rawToken, 3, 1, 7, none⟩, by decide +kernel, rfl, by decide +kernel, by decide +kernel,
      by decide +kernel⟩

/-- From any moment of such a run on, a token that is held then admits exactly until an event kills
it, and in between as long as it is not expired and its tenant is active. -/
theorem admits_iff_neverKilled (env : Env) (hpwd : env.pwd.Faithful) (db : Billing.Database)
    (users : Table User) (es es' : List TokenEvent) (x x' : Store × Wallet) (g : Grant)
    (hfresh : Along (tokenStep env) Fresh ({ db := db, users := users }, []) es)
    (hrun : exec (tokenStep env) ({ db := db, users := users }, []) es = some x) (hg : g ∈ x.2)
    (hundrawn : ∀ e ∈ es', Undrawn g.rawToken e) (hfresh' : Along (tokenStep env) Fresh x es')
    (hrun' : exec (tokenStep env) x es' = some x') (order : RowOrder ApiToken) (now : Int)
    (tenant : Tenant) :
    (getCurrentApiTenant env (some g.rawToken) order now x'.1).1 = .ok tenant ↔
      NeverKilled env g x es' ∧ g.Speaks x'.1 now tenant := by
  have hrep := represents_run (represents_start env db users) hfresh hrun
  have hrep' := represents_run hrep hfresh' hrun'
  obtain ⟨hkept, hheld⟩ := held_run hrep hg hundrawn hfresh' hrun'
  rw [hrep'.admits_iff hpwd]
  constructor
  · rintro ⟨g', hg', hraw, hspeaks⟩
    have hraw : g'.rawToken = g.rawToken := (Option.some.inj hraw).symm
    have hnever := hheld ⟨g', hg', hraw⟩
    rw [hrep'.grant_unique hg' (hkept hnever) hraw] at hspeaks
    exact ⟨hnever, hspeaks⟩
  · rintro ⟨hnever, hspeaks⟩
    exact ⟨g, hkept hnever, rfl, hspeaks⟩

def revoked : List TokenEvent := [.revoke adminCookie "provedor" (some 3)]

def afterRevocation : Store × Wallet :=
  (exec (tokenStep plainEnv) afterCreation revoked).getD ({}, [])

theorem admits_iff_neverKilled_revoked :
    ¬ (getCurrentApiTenant plainEnv (some drawn.rawToken) .asStored 0 afterRevocation.1).1 =
      .ok provider :=
  fun h => absurd ((admits_iff_neverKilled plainEnv plainEnv_faithful oneTenant oneUser created
    revoked afterCreation afterRevocation ⟨drawn.rawToken, 3, 1, 7, none⟩
    (along_of_check (by decide +kernel)) rfl (by decide +kernel) (by simp [revoked, Undrawn])
    (along_of_check (by decide +kernel)) rfl .asStored 0 provider).mp h).1.1 (by decide +kernel)

end Example

end BackupCenter.External
