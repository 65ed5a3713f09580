import BackupCenter.Lib.Exec
import BackupCenter.Lib.Patch
import BackupCenter.Lib.Paths
import BackupCenter.Lib.Workers

/-!
# Uploads with a token

An OLT that cannot be read over its terminal sends its configuration to `olt_config_upload`. The
token in the address is the only check: it is read, the body is awaited, the file is written and the
token is deleted, one operation at a time, and any number of requests may be under way.
-/
namespace BackupCenter.Olt.Uploads

open BackupCenter.Lib

/-- What is registered for a token. -/
structure UploadMeta where
  path : String
  filename : String
  maxBytes : Nat
  createdAt : Nat
  deriving DecidableEq

/-- The value of a key: what `json.loads` makes of it, and the moment in milliseconds from which it
is gone. -/
structure Stored where
  decoded : Option UploadMeta
  expires : Nat
  deriving DecidableEq

/-- An operation on a file, and whether the token was still stored then. -/
structure FileUse where
  token : String
  target : AbsPath
  live : Bool
  deriving DecidableEq

/-- A write that succeeded: the body of its request, and what the file holds then. -/
structure Written extends FileUse where
  body : List UInt8
  content : List UInt8
  deriving DecidableEq

inductive Reply where
  | ok (filename : String) (bytes : Nat)
  | http (status : Nat) (detail : String)
  /-- an exception that nobody catches -/
  | failed
  deriving DecidableEq

/-- What a request does next. -/
inductive Phase where
  /-- `client.get(key)` -/
  | reading
  /-- `client.delete(key)` before the refusal -/
  | discarding (status : Nat) (detail : String)
  /-- `await req.body()` -/
  | receiving (target : AbsPath) (maxBytes : Nat)
  /-- `os.makedirs` -/
  | preparing (target : AbsPath)
  /-- `open(target_path, "wb")` -/
  | opening (target : AbsPath)
  /-- `fp.write(payload)` -/
  | writing (target : AbsPath)
  /-- `client.delete(key)` after the file is written -/
  | deleting (target : AbsPath)
  | answered (reply : Reply)
  deriving DecidableEq

structure Upload where
  token : String
  filename : String
  body : List UInt8
  phase : Phase
  deriving DecidableEq

structure State where
  now : Nat
  /-- the values of `backup_center:olt_upload:{token}` -/
  redis : Dict String Stored
  files : Dict AbsPath (List UInt8)
  /-- every token registered so far -/
  issued : Dict String Stored
  uploads : List Upload
  uses : List FileUse
  written : List Written

/-- What the environment makes of the next operation of a request. -/
inductive Outcome where
  | done
  | noClient
  /-- the operation raises; a write has put so many bytes into the file -/
  | raises (bytes : Nat)
  deriving DecidableEq

inductive Event where
  /-- `_register_upload_target` -/
  | register (token path filename : String)
  | pass (milliseconds : Nat)
  | request (token filename : String) (body : List UInt8)
  | step (i : Nat) (outcome : Outcome)
  deriving DecidableEq

/-! ## The endpoint -/

/-- `20 * 1024 * 1024` -/
def defaultMaxBytes : Nat := 20 * 1024 * 1024

def storageRoot (cwd : String) : AbsPath :=
  abspath cwd.toList (joinPath (joinPath cwd.toList "storage".toList) "backups".toList)

def targetPath (cwd path : String) : AbsPath := abspath cwd.toList path.toList

/-- `client.get`; an expired key is gone. -/
def State.get (s : State) (token : String) : Option Stored :=
  (s.redis.lookup token).filter fun e => s.now < e.expires

def State.delete (s : State) (token : String) : State :=
  { s with redis := assign s.redis (token, none) }

def State.use (s : State) (token : String) (target : AbsPath) : FileUse :=
  ⟨token, target, (s.get token).isSome⟩

/-- `open(target_path, "wb")` -/
def State.truncate (s : State) (u : Upload) (target : AbsPath) : State :=
  { s with
    files := assign s.files (target, some [])
    uses := s.use u.token target :: s.uses }

/-- What a file holds after a write at its beginning. -/
def State.overwritten (s : State) (target : AbsPath) (bytes : List UInt8) : List UInt8 :=
  bytes ++ ((s.files.lookup target).getD []).drop bytes.length

/-- `fp.write(payload)` -/
def State.write (s : State) (u : Upload) (target : AbsPath) : State :=
  let content := s.overwritten target u.body
  { s with
    files := assign s.files (target, some content)
    written := ⟨s.use u.token target, u.body, content⟩ :: s.written }

/-- A write that fails after some bytes. -/
def State.breakOff (s : State) (u : Upload) (target : AbsPath) (bytes : Nat) : State :=
  { s with
    files := assign s.files (target, some (s.overwritten target (u.body.take bytes)))
    uses := s.use u.token target :: s.uses }

/-- `olt_config_upload` up to the body -/
def afterToken (cwd : String) : Option Stored → Phase
  | none => .answered (.http 404 "upload token not found")
  | some stored =>
    match stored.decoded with
    | none => .discarding 400 "invalid upload token"
    | some m =>
      let target := targetPath cwd m.path
      if (storageRoot cwd).text ++ ['/'] <+: target.text then .receiving target m.maxBytes
      else .discarding 400 "invalid upload target"

/-- The checks of the body -/
def accept (payload : List UInt8) (target : AbsPath) (registered : Nat) : Phase :=
  let maxBytes := if registered = 0 then defaultMaxBytes else registered
  if payload = [] then .answered (.http 400 "empty upload")
  else if payload.length > maxBytes then .answered (.http 413 "upload too large")
  else .preparing target

/-- One operation of `olt_config_upload`, and what the request does after it. -/
def perform (cwd : String) (s : State) (u : Upload) : Outcome → Option (State × Phase)
  | .done =>
    match u.phase with
    | .reading => some (s, afterToken cwd (s.get u.token))
    | .discarding status detail => some (s.delete u.token, .answered (.http status detail))
    | .receiving target maxBytes => some (s, accept u.body target maxBytes)
    | .preparing target => some (s, .opening target)
    | .opening target => some (s.truncate u target, .writing target)
    | .writing target => some (s.write u target, .deleting target)
    | .deleting _ => some (s.delete u.token, .answered (.ok u.filename u.body.length))
    | .answered _ => none
  | .noClient =>
    match u.phase with
    | .reading => some (s, .answered (.http 503 "upload receiver unavailable"))
    | _ => none
  | .raises bytes =>
    match u.phase with
    | .writing target => some (s.breakOff u target bytes, .answered .failed)
    | .answered _ => none
    | _ => some (s, .answered .failed)

/-- A token that has been handed out is not drawn again. -/
def step (cwd : String) (s : State) : Event → Option State
  | .register token path filename =>
    if (s.issued.lookup token).isSome then none
    else
      let stored : Stored := ⟨some ⟨path, filename, defaultMaxBytes, s.now / 1000⟩,
        s.now + 1000 * (10 * 60)⟩
      some { s with
        redis := assign s.redis (token, some stored)
        issued := assign s.issued (token, some stored) }
  | .pass milliseconds => some { s with now := s.now + milliseconds }
  | .request token filename body =>
    some { s with uploads := s.uploads ++ [⟨token, filename, body, .reading⟩] }
  | .step i outcome => do
    let u ← s.uploads[i]?
    let (after, phase) ← perform cwd s u outcome
    return { after with uploads := after.uploads.set i { u with phase } }

/-- No token is registered yet, and no request is under way. -/
def State.idle (now : Nat) (files : Dict AbsPath (List UInt8)) : State where
  now := now
  redis := []
  files := files
  issued := []
  uploads := []
  uses := []
  written := []

/-! ## The promise -/

/-- Every operation that a request has made on a file. -/
def State.touched (s : State) : List FileUse := s.uses ++ s.written.map Written.toFileUse

/-- What is registered for the token. -/
def State.registered (s : State) (token : String) : Option UploadMeta :=
  (s.issued.lookup token).bind Stored.decoded

/-- A token leads to one successful write at most, and a file is only touched for a token that is
stored, at the registered path and inside the storage; what is written is one whole body. -/
structure OneFile (cwd : String) (s : State) : Prop where
  once : (s.written.map (·.token)).Nodup
  place : ∀ f ∈ s.touched, ∃ m, s.registered f.token = some m ∧ f.target = targetPath cwd m.path ∧
    (storageRoot cwd).Within f.target
  live : ∀ f ∈ s.touched, f.live = true
  whole : ∀ w ∈ s.written, w.content = w.body ∧
    ∃ m, s.registered w.token = some m ∧ w.body.length ≤ m.maxBytes

/-! ## The condition -/

/-- The request has passed the checks of the token and may still touch its file or its token. -/
def Phase.underWay : Phase → Bool
  | .receiving .. | .preparing _ | .opening _ | .writing _ | .deleting _ => true
  | _ => false

def State.file (cwd : String) (s : State) (token : String) : Option AbsPath :=
  (s.registered token).map fun m => targetPath cwd m.path

/-- The moment at which the token expires has not come. -/
def State.unexpired (s : State) (token : String) : Bool :=
  (s.issued.lookup token).all fun e => s.now < e.expires

/-- A token is read only while no request for the same file is under way, a file is opened and
written before the token expires, and a token whose file is written can be deleted. -/
def permitted (cwd : String) (s : State) : Event → Bool
  | .step i outcome =>
    match s.uploads[i]? with
    | some u =>
      match u.phase with
      | .reading => outcome ≠ .done || s.uploads.all fun v =>
          !v.phase.underWay || s.file cwd v.token ≠ s.file cwd u.token
      | .opening _ | .writing _ => s.unexpired u.token
      | .deleting _ => outcome = .done
      | _ => true
    | none => true
  | _ => true

def Permitted (cwd : String) (s : State) (e : Event) : Prop := permitted cwd s e = true

instance (cwd : String) (s : State) (e : Event) : Decidable (Permitted cwd s e) :=
  inferInstanceAs (Decidable (permitted cwd s e = true))

/-! ## What holds between the operations -/

variable {cwd : String} {s t : State} {token : String} {target : AbsPath} {u v : Upload}

theorem storageRoot_parts : (storageRoot cwd).parts ≠ [] := by
  have hbackups : ¬ ['/'] <+: "backups".toList := by decide
  obtain ⟨init, hinner⟩ := joinPath_suffix cwd.toList "storage".toList
  have hend : ¬ ['/'] <:+ init ++ "storage".toList := by
    intro h
    have hlast := List.IsSuffix.getLast h (List.cons_ne_nil _ _)
    rw [List.getLast_append_of_ne_nil _ (by decide)] at hlast
    exact absurd hlast (by decide)
  have hne : init ++ "storage".toList ≠ [] := List.append_ne_nil_of_right_ne_nil _ (by decide)
  have hname : IsName "backups".toList := ⟨by decide, by decide⟩
  rw [storageRoot, hinner, joinPath_name hbackups hne hend]
  exact abspath_parts_ne_nil _ _ hname ⟨by decide, by decide⟩

/-- The check of the target path. -/
def Inside (cwd : String) (target : AbsPath) : Prop :=
  (storageRoot cwd).text ++ ['/'] <+: target.text

theorem Inside.within {path : String} (h : Inside cwd (targetPath cwd path)) :
    (storageRoot cwd).Within (targetPath cwd path) :=
  within_of_text storageRoot_parts (abspath_names _ _) (abspath_names _ _) h

/-- The request has read its token: its file is the registered one, inside the storage. -/
def Aimed (cwd : String) (s : State) (token : String) (target : AbsPath) : Prop :=
  ∃ m, s.registered token = some m ∧ target = targetPath cwd m.path ∧ Inside cwd target

/-- The token is still stored, and no file is written for it. -/
def Unspent (s : State) (token : String) : Prop :=
  s.redis.lookup token ≠ none ∧ ∀ w ∈ s.written, w.token ≠ token

/-- What a request relies on. -/
def PhaseOk (cwd : String) (s : State) (u : Upload) : Prop :=
  match u.phase with
  | .discarding .. => ∃ m, s.registered u.token = some m ∧ ¬ Inside cwd (targetPath cwd m.path)
  | .receiving target maxBytes => Aimed cwd s u.token target ∧ Unspent s u.token ∧
      maxBytes = defaultMaxBytes
  | .preparing target | .opening target => Aimed cwd s u.token target ∧ Unspent s u.token ∧
      u.body.length ≤ defaultMaxBytes
  | .writing target => Aimed cwd s u.token target ∧ Unspent s u.token ∧
      u.body.length ≤ defaultMaxBytes ∧ s.files.lookup target = some []
  | .deleting target => Aimed cwd s u.token target
  | .reading | .answered _ => True

structure Ledger (cwd : String) (s : State) : Prop where
  stored : ∀ token e, s.redis.lookup token = some e → s.issued.lookup token = some e
  issued : ∀ token e, s.issued.lookup token = some e → ∃ m, e.decoded = some m ∧
    m.maxBytes = defaultMaxBytes
  phases : ∀ (i : Nat) u, s.uploads[i]? = some u → PhaseOk cwd s u
  /-- one request at a time is under way for a file -/
  apart : ∀ (i j : Nat) u v, s.uploads[i]? = some u → s.uploads[j]? = some v →
    u.phase.underWay = true → v.phase.underWay = true →
    s.file cwd u.token = s.file cwd v.token → i = j
  spent : ∀ w ∈ s.written, s.redis.lookup w.token = none ∨
    ∃ (j : Nat) (v : Upload), s.uploads[j]? = some v ∧ v.token = w.token ∧
      ∃ target, v.phase = .deleting target
  promise : OneFile cwd s

theorem Aimed.file (h : Aimed cwd s token target) : s.file cwd token = some target := by
  obtain ⟨m, hm, rfl, -⟩ := h
  rw [State.file, hm]
  rfl

theorem aimed_of_underWay (h : PhaseOk cwd s u) (hway : u.phase.underWay = true) :
    ∃ target, Aimed cwd s u.token target := by
  unfold PhaseOk at h
  cases hphase : u.phase with
  | reading => rw [hphase] at hway; cases hway
  | discarding status detail => rw [hphase] at hway; cases hway
  | answered reply => rw [hphase] at hway; cases hway
  | receiving target maxBytes => rw [hphase] at h; exact ⟨target, h.1⟩
  | preparing target => rw [hphase] at h; exact ⟨target, h.1⟩
  | opening target => rw [hphase] at h; exact ⟨target, h.1⟩
  | writing target => rw [hphase] at h; exact ⟨target, h.1⟩
  | deleting target => rw [hphase] at h; exact ⟨target, h⟩

/-- A request goes on relying on the same if its token's entries, its file and the writes for its
token stay. -/
theorem PhaseOk.frame (h : PhaseOk cwd s u)
    (hissued : ∀ m, s.registered u.token = some m → t.registered u.token = some m)
    (hredis : u.phase.underWay = true → t.redis.lookup u.token = s.redis.lookup u.token)
    (hwritten : u.phase.underWay = true → ∀ w ∈ t.written, w ∈ s.written ∨ w.token ≠ u.token)
    (hfiles : ∀ target, u.phase = .writing target →
      t.files.lookup target = s.files.lookup target) : PhaseOk cwd t u := by
  have haimed : ∀ target, Aimed cwd s u.token target → Aimed cwd t u.token target := by
    rintro target ⟨m, hm, hrest⟩
    exact ⟨m, hissued m hm, hrest⟩
  have hunspent : u.phase.underWay = true → Unspent s u.token → Unspent t u.token := by
    intro hway hu
    refine ⟨by rw [hredis hway]; exact hu.1, fun w hw => ?_⟩
    rcases hwritten hway w hw with hold | hne
    · exact hu.2 w hold
    · exact hne
  unfold PhaseOk at h ⊢
  cases hphase : u.phase with
  | reading => trivial
  | answered reply => trivial
  | discarding status detail =>
    rw [hphase] at h
    obtain ⟨m, hm, hrest⟩ := h
    exact ⟨m, hissued m hm, hrest⟩
  | receiving target maxBytes =>
    rw [hphase] at h hunspent
    exact ⟨haimed target h.1, hunspent rfl h.2.1, h.2.2⟩
  | preparing target =>
    rw [hphase] at h hunspent
    exact ⟨haimed target h.1, hunspent rfl h.2.1, h.2.2⟩
  | opening target =>
    rw [hphase] at h hunspent
    exact ⟨haimed target h.1, hunspent rfl h.2.1, h.2.2⟩
  | writing target =>
    rw [hphase] at h hunspent
    exact ⟨haimed target h.1, hunspent rfl h.2.1, h.2.2.1, (hfiles target hphase).trans h.2.2.2⟩
  | deleting target =>
    rw [hphase] at h
    exact haimed target h

/-- What the other requests rely on is left alone by one that touches its own token and its own
file only. -/
theorem Ledger.others {i : Nat} (h : Ledger cwd s) (hissued : t.issued = s.issued)
    (hredis : ∀ token, token ≠ u.token → t.redis.lookup token = s.redis.lookup token)
    (hwritten : ∀ w ∈ t.written, w ∈ s.written ∨ w.token = u.token)
    (hfiles : ∀ target, s.file cwd u.token ≠ some target →
      t.files.lookup target = s.files.lookup target)
    (hother : ∀ (j : Nat) v, j ≠ i → s.uploads[j]? = some v → v.phase.underWay = true →
      s.file cwd v.token ≠ s.file cwd u.token) :
    ∀ (j : Nat) v, j ≠ i → s.uploads[j]? = some v → PhaseOk cwd t v := by
  intro j v hj hv
  have hne : v.phase.underWay = true → v.token ≠ u.token := by
    intro hway he
    exact hother j v hj hv hway (by rw [he])
  refine (h.phases j v hv).frame ?_ (fun hway => hredis _ (hne hway)) ?_ ?_
  · intro m hm
    rwa [State.registered, hissued]
  · intro hway w hw
    exact (hwritten w hw).imp_right fun he heq => hne hway (heq.symm.trans he)
  · intro target hphase
    have hway : v.phase.underWay = true := by rw [hphase]; rfl
    have hok := h.phases j v hv
    rw [PhaseOk, hphase] at hok
    exact hfiles target fun he => hother j v hj hv hway (hok.1.file.trans he.symm)

/-- One request has moved. -/
theorem Ledger.moved {i : Nat} {p : Phase} (h : Ledger cwd s) (hu : s.uploads[i]? = some u)
    (hissued : t.issued = s.issued) (huploads : t.uploads = s.uploads)
    (hredis : ∀ token e, t.redis.lookup token = some e → s.redis.lookup token = some e)
    (hothers : ∀ (j : Nat) v, j ≠ i → s.uploads[j]? = some v → PhaseOk cwd t v)
    (hphase : PhaseOk cwd t { u with phase := p })
    (hway : p.underWay = true → ∀ (j : Nat) v, j ≠ i → s.uploads[j]? = some v →
      v.phase.underWay = true → s.file cwd v.token ≠ s.file cwd u.token)
    (hspent : ∀ w ∈ t.written, t.redis.lookup w.token = none ∨
      (w.token = u.token ∧ ∃ target, p = .deleting target) ∨
      (w ∈ s.written ∧ (w.token = u.token → ∀ target, u.phase ≠ .deleting target)))
    (hpromise : OneFile cwd t) :
    Ledger cwd { t with uploads := t.uploads.set i { u with phase := p } } := by
  have hfile : ∀ token, t.file cwd token = s.file cwd token := by
    intro token
    rw [State.file, State.registered, hissued]
    rfl
  refine ⟨fun token e he => ?_, fun token e he => ?_, ?_, ?_, ?_,
    ⟨hpromise.once, hpromise.place, hpromise.live, hpromise.whole⟩⟩
  · exact (congrArg (List.lookup token) hissued).trans (h.stored token e (hredis token e he))
  · exact h.issued token e ((congrArg (List.lookup token) hissued).symm.trans he)
  · intro j v hv
    rw [huploads] at hv
    rcases getElem?_moved hu hv with ⟨-, rfl⟩ | ⟨hj, hv⟩
    · exact hphase
    · exact hothers j v hj hv
  · intro j k v w hv hw hvway hwway he
    replace he := (hfile v.token).symm.trans (he.trans (hfile w.token))
    rw [huploads] at hv hw
    rcases getElem?_moved hu hv with ⟨hj, hv'⟩ | ⟨hj, hv'⟩
    · rcases getElem?_moved hu hw with ⟨hk, -⟩ | ⟨hk, hw'⟩
      · exact hj.trans hk.symm
      · subst hv'
        exact absurd he.symm (hway hvway k w hk hw' hwway)
    · rcases getElem?_moved hu hw with ⟨hk, hw'⟩ | ⟨hk, hw'⟩
      · subst hw'
        exact absurd he (hway hwway j v hj hv' hvway)
      · exact h.apart j k v w hv' hw' hvway hwway he
  · intro w hw
    have hlength : i < s.uploads.length := (List.getElem?_eq_some_iff.mp hu).1
    rcases hspent w hw with hnone | ⟨htoken, target, hp⟩ | ⟨hw, hdeleting⟩
    · exact .inl hnone
    · refine .inr ⟨i, { u with phase := p }, ?_, htoken.symm, target, hp⟩
      rw [huploads]
      exact List.getElem?_set_self hlength
    · rcases h.spent w hw with hnone | ⟨j, v, hv, htoken, target, hv'⟩
      · refine .inl (Option.eq_none_iff_forall_ne_some.mpr fun e he => ?_)
        exact absurd (hredis _ e he) (by rw [hnone]; exact nofun)
      · refine .inr ⟨j, v, ?_, htoken, target, hv'⟩
        have hji : i ≠ j := by
          rintro rfl
          obtain rfl := Option.some.inj (hu.symm.trans hv)
          exact hdeleting htoken.symm target hv'
        rw [huploads]
        exact (List.getElem?_set_ne hji).trans hv

/-! ## One operation -/

variable {i : Nat} {outcome : Outcome} {p : Phase}

/-- A request that is elsewhere does not delete its token. -/
theorem ne_deleting (hphase : u.phase = p) (hp : ∀ target, p ≠ .deleting target)
    (target : AbsPath) : u.phase ≠ .deleting target := by
  rw [hphase]
  exact hp target

theorem get_eq_some {e : Stored} (h : s.get token = some e) :
    s.redis.lookup token = some e ∧ s.now < e.expires := by
  obtain ⟨hlookup, hlive⟩ := Option.filter_eq_some_iff.mp h
  exact ⟨hlookup, of_decide_eq_true hlive⟩

/-- A token that is stored and has not expired can be read. -/
theorem Ledger.get_isSome (h : Ledger cwd s) (hstored : s.redis.lookup token ≠ none)
    (hlive : s.unexpired token = true) : (s.get token).isSome = true := by
  obtain ⟨e, he⟩ := Option.ne_none_iff_exists'.mp hstored
  rw [State.unexpired, h.stored token e he, Option.all_some] at hlive
  rw [State.get, he, Option.filter_some, if_pos hlive]
  rfl

theorem Ledger.maxBytes {m : UploadMeta} (h : Ledger cwd s) (hm : s.registered token = some m) :
    m.maxBytes = defaultMaxBytes := by
  obtain ⟨e, he, hdecoded⟩ := Option.bind_eq_some_iff.mp hm
  obtain ⟨m', hm', hmax⟩ := h.issued token e he
  obtain rfl := Option.some.inj (hdecoded.symm.trans hm')
  exact hmax

theorem lookup_delete {other : String} :
    (s.delete token).redis.lookup other = if other = token then none else s.redis.lookup other := by
  change (assign s.redis (token, none)).lookup other = _
  exact lookup_assign

theorem lookup_of_delete (other : String) (e : Stored)
    (h : (s.delete token).redis.lookup other = some e) : s.redis.lookup other = some e := by
  rw [lookup_delete] at h
  split at h
  · cases h
  · exact h

/-- A request that changes nothing but what it does next. -/
theorem Ledger.still (h : Ledger cwd s) (hu : s.uploads[i]? = some u)
    (hphase : PhaseOk cwd s { u with phase := p })
    (hway : p.underWay = true → ∀ (j : Nat) v, j ≠ i → s.uploads[j]? = some v →
      v.phase.underWay = true → s.file cwd v.token ≠ s.file cwd u.token)
    (hdeleting : ∀ target, u.phase ≠ .deleting target) :
    Ledger cwd { s with uploads := s.uploads.set i { u with phase := p } } :=
  h.moved hu rfl rfl (fun _ _ he => he) (fun j v _ hv => h.phases j v hv) hphase hway
    (fun _ hw => .inr (.inr ⟨hw, fun _ => hdeleting⟩)) h.promise

/-- No other request for the same file is under way. -/
theorem Ledger.alone (h : Ledger cwd s) (hu : s.uploads[i]? = some u)
    (hway : u.phase.underWay = true) (j : Nat) (v : Upload) (hj : j ≠ i)
    (hv : s.uploads[j]? = some v) (hvway : v.phase.underWay = true) :
    s.file cwd v.token ≠ s.file cwd u.token :=
  fun he => hj (h.apart j i v u hv hu hvway hway he)

theorem admitted (h : Ledger cwd s) (hu : s.uploads[i]? = some u) (hphase : u.phase = .reading)
    (hok : permitted cwd s (.step i .done) = true) :
    Ledger cwd { s with
      uploads := s.uploads.set i { u with phase := afterToken cwd (s.get u.token) } } := by
  have hdeleting := ne_deleting hphase (by simp)
  have hapart : ∀ (j : Nat) v, j ≠ i → s.uploads[j]? = some v → v.phase.underWay = true →
      s.file cwd v.token ≠ s.file cwd u.token := by
    intro j v _ hv hway
    rw [permitted, hu] at hok
    simp only [hphase, ne_eq, not_true_eq_false, decide_false, Bool.false_or,
      List.all_eq_true] at hok
    simpa [hway] using hok v (List.mem_of_getElem? hv)
  refine h.still hu ?_ (fun _ => hapart) hdeleting
  cases hget : s.get u.token with
  | none => trivial
  | some e =>
    obtain ⟨hlookup, hlive⟩ := get_eq_some hget
    have hissued := h.stored _ e hlookup
    obtain ⟨m, hm, hmax⟩ := h.issued _ e hissued
    have hregistered : s.registered u.token = some m := by
      rw [State.registered, hissued]
      exact hm
    simp only [afterToken, hm]
    split
    next hinside =>
      refine ⟨⟨m, hregistered, rfl, hinside⟩, ⟨by rw [hlookup]; exact nofun, ?_⟩, hmax⟩
      intro w hw he
      rcases h.spent w hw with hnone | ⟨j, v, hv, htoken, target, hdel⟩
      · rw [he, hlookup] at hnone
        cases hnone
      · have hji : j ≠ i := by
          rintro rfl
          obtain rfl := Option.some.inj (hu.symm.trans hv)
          exact hdeleting target hdel
        exact hapart j v hji hv (by rw [hdel]; rfl) (by rw [htoken, he])
    next hinside => exact ⟨m, hregistered, hinside⟩

theorem discarded (h : Ledger cwd s) (hu : s.uploads[i]? = some u) {status : Nat} {detail : String}
    (hphase : u.phase = .discarding status detail) (reply : Reply) :
    Ledger cwd { s.delete u.token with
      uploads := s.uploads.set i { u with phase := .answered reply } } := by
  have hdeleting := ne_deleting hphase (by simp)
  have hok := h.phases i u hu
  rw [PhaseOk, hphase] at hok
  obtain ⟨m, hm, houtside⟩ := hok
  refine h.moved (t := s.delete u.token) hu rfl rfl lookup_of_delete ?_ trivial nofun ?_
    ⟨h.promise.once, h.promise.place, h.promise.live, h.promise.whole⟩
  · refine h.others (u := u) rfl ?_ (fun w hw => .inl hw) (fun _ _ => rfl) ?_
    · exact fun token hne => lookup_delete.trans (if_neg hne)
    -- its token is for a file outside the storage, so no request for the token is under way
    · intro j v hj hv hway he
      obtain ⟨target, haimed⟩ := aimed_of_underWay (h.phases j v hv) hway
      have hfile : s.file cwd u.token = some (targetPath cwd m.path) := by
        rw [State.file, hm]
        rfl
      have htarget := Option.some.inj (haimed.file.symm.trans (he.trans hfile))
      obtain ⟨_, -, -, hinside⟩ := haimed
      exact houtside (htarget ▸ hinside)
  · intro w hw
    exact .inr (.inr ⟨hw, fun _ => hdeleting⟩)

theorem accepted (h : Ledger cwd s) (hu : s.uploads[i]? = some u) {maxBytes : Nat}
    (hphase : u.phase = .receiving target maxBytes) :
    Ledger cwd { s with
      uploads := s.uploads.set i { u with phase := accept u.body target maxBytes } } := by
  have hdeleting := ne_deleting hphase (by simp)
  have hok := h.phases i u hu
  rw [PhaseOk, hphase] at hok
  obtain ⟨haimed, hunspent, rfl⟩ := hok
  refine h.still hu ?_ (fun _ => h.alone hu (by rw [hphase]; rfl)) hdeleting
  have hmax : (if defaultMaxBytes = 0 then defaultMaxBytes else defaultMaxBytes) =
      defaultMaxBytes := if_neg (by decide)
  unfold accept
  dsimp only
  rw [hmax]
  split
  · trivial
  · split
    · trivial
    next hlength => exact ⟨haimed, hunspent, Nat.le_of_not_lt hlength⟩

theorem prepared (h : Ledger cwd s) (hu : s.uploads[i]? = some u)
    (hphase : u.phase = .preparing target) :
    Ledger cwd { s with uploads := s.uploads.set i { u with phase := .opening target } } := by
  have hok := h.phases i u hu
  rw [PhaseOk, hphase] at hok
  exact h.still hu hok (fun _ => h.alone hu (by rw [hphase]; rfl)) (ne_deleting hphase (by simp))

/-- The file of a request changes; nobody else is under way for it. -/
theorem Ledger.others_of_file (h : Ledger cwd s) (hu : s.uploads[i]? = some u)
    (hway : u.phase.underWay = true) (haimed : Aimed cwd s u.token target)
    (hissued : t.issued = s.issued) (hredis : t.redis = s.redis)
    (hwritten : ∀ w ∈ t.written, w ∈ s.written ∨ w.token = u.token) {bytes : List UInt8}
    (hfiles : t.files = assign s.files (target, some bytes)) :
    ∀ (j : Nat) v, j ≠ i → s.uploads[j]? = some v → PhaseOk cwd t v := by
  refine h.others hissued (fun _ _ => by rw [hredis]) hwritten ?_ (h.alone hu hway)
  intro other hother
  rw [hfiles]
  refine lookup_assign.trans (if_neg ?_)
  rintro rfl
  exact hother haimed.file

/-- A file is touched for a live token at the registered path; if it is written, it is the first
successful write for the token, and of one whole body. -/
theorem OneFile.touch (h : OneFile cwd s) (haimed : Aimed cwd s token target)
    (hlive : (s.get token).isSome = true) (hissued : t.issued = s.issued)
    (htouched : ∀ f ∈ t.touched, f = s.use token target ∨ f ∈ s.touched)
    (hwritten : t.written = s.written ∨
      ∃ body content, t.written = ⟨s.use token target, body, content⟩ :: s.written ∧
        (∀ w ∈ s.written, w.token ≠ token) ∧ content = body ∧
        ∃ m, s.registered token = some m ∧ body.length ≤ m.maxBytes) :
    OneFile cwd t := by
  have hregistered : ∀ token, t.registered token = s.registered token := by
    intro token
    rw [State.registered, hissued]
    rfl
  refine ⟨?_, fun f hf => ?_, fun f hf => ?_, ?_⟩
  · rcases hwritten with hsame | ⟨body, content, hnew, hfirst, -, -⟩
    · rw [hsame]
      exact h.once
    · rw [hnew]
      refine List.nodup_cons.mpr ⟨fun hmem => ?_, h.once⟩
      obtain ⟨w, hw, he⟩ := List.mem_map.mp hmem
      exact hfirst w hw he
  · rw [hregistered]
    rcases htouched f hf with rfl | hf
    · obtain ⟨m, hm, rfl, hinside⟩ := haimed
      exact ⟨m, hm, rfl, hinside.within⟩
    · exact h.place f hf
  · rcases htouched f hf with rfl | hf
    · exact hlive
    · exact h.live f hf
  · intro w hw
    rw [hregistered]
    rcases hwritten with hsame | ⟨body, content, hnew, -, hwhole, hlength⟩
    · exact h.whole w (hsame ▸ hw)
    · rw [hnew] at hw
      rcases List.mem_cons.mp hw with rfl | hw
      · exact ⟨hwhole, hlength⟩
      · exact h.whole w hw

theorem opened (h : Ledger cwd s) (hu : s.uploads[i]? = some u) (hphase : u.phase = .opening target)
    (hlive : s.unexpired u.token = true) :
    Ledger cwd { s.truncate u target with
      uploads := s.uploads.set i { u with phase := .writing target } } := by
  have hway : u.phase.underWay = true := by rw [hphase]; rfl
  have hok := h.phases i u hu
  rw [PhaseOk, hphase] at hok
  obtain ⟨haimed, hunspent, hlength⟩ := hok
  have hdeleting := ne_deleting hphase (by simp)
  refine h.moved (t := s.truncate u target) hu rfl rfl (fun _ _ he => he) ?_ ?_
    (fun _ => h.alone hu hway) ?_ ?_
  · exact h.others_of_file hu hway haimed rfl rfl (fun w hw => .inl hw) rfl
  · have hempty : (assign s.files (target, some [])).lookup target = some [] :=
      lookup_assign.trans (if_pos rfl)
    exact ⟨haimed, hunspent, hlength, hempty⟩
  · exact fun w hw => .inr (.inr ⟨hw, fun _ => hdeleting⟩)
  · exact h.promise.touch haimed (h.get_isSome hunspent.1 hlive) rfl
      (fun f hf => List.mem_cons.mp hf) (.inl rfl)

theorem brokenOff (h : Ledger cwd s) (hu : s.uploads[i]? = some u)
    (hphase : u.phase = .writing target) (hlive : s.unexpired u.token = true) (bytes : Nat) :
    Ledger cwd { s.breakOff u target bytes with
      uploads := s.uploads.set i { u with phase := .answered .failed } } := by
  have hway : u.phase.underWay = true := by rw [hphase]; rfl
  have hok := h.phases i u hu
  rw [PhaseOk, hphase] at hok
  obtain ⟨haimed, hunspent, -, -⟩ := hok
  have hdeleting := ne_deleting hphase (by simp)
  refine h.moved (t := s.breakOff u target bytes) hu rfl rfl (fun _ _ he => he) ?_ trivial nofun
    ?_ ?_
  · exact h.others_of_file hu hway haimed rfl rfl (fun w hw => .inl hw) rfl
  · exact fun w hw => .inr (.inr ⟨hw, fun _ => hdeleting⟩)
  · exact h.promise.touch haimed (h.get_isSome hunspent.1 hlive) rfl
      (fun f hf => List.mem_cons.mp hf) (.inl rfl)

theorem wrote (h : Ledger cwd s) (hu : s.uploads[i]? = some u) (hphase : u.phase = .writing target)
    (hlive : s.unexpired u.token = true) :
    Ledger cwd { s.write u target with
      uploads := s.uploads.set i { u with phase := .deleting target } } := by
  have hway : u.phase.underWay = true := by rw [hphase]; rfl
  have hok := h.phases i u hu
  rw [PhaseOk, hphase] at hok
  obtain ⟨haimed, hunspent, hlength, hempty⟩ := hok
  have hcontent : s.overwritten target u.body = u.body := by
    rw [State.overwritten, hempty, Option.getD_some, List.drop_nil, List.append_nil]
  have hget := h.get_isSome hunspent.1 hlive
  refine h.moved (t := s.write u target) hu rfl rfl (fun _ _ he => he) ?_ haimed
    (fun _ => h.alone hu hway) ?_ ?_
  · refine h.others_of_file hu hway haimed rfl rfl ?_ rfl
    intro w hw
    rcases List.mem_cons.mp hw with rfl | hw
    · exact .inr rfl
    · exact .inl hw
  · intro w hw
    rcases List.mem_cons.mp hw with rfl | hw
    · exact .inr (.inl ⟨rfl, target, rfl⟩)
    · exact .inr (.inr ⟨hw, fun he => absurd he (hunspent.2 w hw)⟩)
  · obtain ⟨m, hm, -, -⟩ := id haimed
    refine h.promise.touch haimed hget rfl ?_
      (.inr ⟨u.body, _, rfl, hunspent.2, hcontent, m, hm, ?_⟩)
    · intro f hf
      rcases List.mem_append.mp hf with hf | hf
      · exact .inr (List.mem_append_left _ hf)
      · rcases List.mem_cons.mp hf with rfl | hf
        · exact .inl rfl
        · exact .inr (List.mem_append_right _ hf)
    · rwa [h.maxBytes hm]

/-- The token is deleted by the request that has written its file. -/
theorem deleted (h : Ledger cwd s) (hu : s.uploads[i]? = some u)
    (hphase : u.phase = .deleting target) (reply : Reply) :
    Ledger cwd { s.delete u.token with
      uploads := s.uploads.set i { u with phase := .answered reply } } := by
  have hway : u.phase.underWay = true := by rw [hphase]; rfl
  refine h.moved (t := s.delete u.token) hu rfl rfl lookup_of_delete ?_ trivial nofun ?_
    ⟨h.promise.once, h.promise.place, h.promise.live, h.promise.whole⟩
  · refine h.others (u := u) rfl ?_ (fun w hw => .inl hw) (fun _ _ => rfl) (h.alone hu hway)
    exact fun token hne => lookup_delete.trans (if_neg hne)
  · intro w hw
    by_cases he : w.token = u.token
    · exact .inl (lookup_delete.trans (if_pos he))
    · exact .inr (.inr ⟨hw, fun heq => absurd heq he⟩)

/-- A request that ends without touching anything. -/
theorem ended (h : Ledger cwd s) (hu : s.uploads[i]? = some u)
    (hdeleting : ∀ target, u.phase ≠ .deleting target) (reply : Reply) :
    Ledger cwd { s with uploads := s.uploads.set i { u with phase := .answered reply } } :=
  h.still hu trivial nofun hdeleting

/-- One operation of a request. -/
theorem Ledger.perform (h : Ledger cwd s) (hu : s.uploads[i]? = some u)
    (hok : permitted cwd s (.step i outcome) = true)
    (hstep : perform cwd s u outcome = some (t, p)) :
    Ledger cwd { t with uploads := t.uploads.set i { u with phase := p } } := by
  have hgeneral := hok
  rw [permitted, hu] at hok
  have hdone : ∀ target, u.phase = .deleting target → outcome = .done := by
    intro target hphase
    simpa only [hphase, decide_eq_true_eq] using hok
  cases outcome with
  | done =>
    rw [Uploads.perform] at hstep
    cases hphase : u.phase with
    | reading =>
      rw [hphase] at hstep
      cases hstep
      exact admitted h hu hphase hgeneral
    | discarding status detail =>
      rw [hphase] at hstep
      cases hstep
      exact discarded h hu hphase _
    | receiving target maxBytes =>
      rw [hphase] at hstep
      cases hstep
      exact accepted h hu hphase
    | preparing target =>
      rw [hphase] at hstep
      cases hstep
      exact prepared h hu hphase
    | opening target =>
      rw [hphase] at hstep
      cases hstep
      exact opened h hu hphase (by simpa only [hphase] using hok)
    | writing target =>
      rw [hphase] at hstep
      cases hstep
      exact wrote h hu hphase (by simpa only [hphase] using hok)
    | deleting target =>
      rw [hphase] at hstep
      cases hstep
      exact deleted h hu hphase _
    | answered reply =>
      rw [hphase] at hstep
      cases hstep
  | noClient =>
    have hnot : ∀ target, u.phase ≠ .deleting target := fun target hphase =>
      nomatch hdone target hphase
    rw [Uploads.perform] at hstep
    split at hstep
    · cases hstep
      exact ended h hu hnot _
    · cases hstep
  | raises bytes =>
    have hnot : ∀ target, u.phase ≠ .deleting target := fun target hphase =>
      nomatch hdone target hphase
    rw [Uploads.perform] at hstep
    split at hstep
    next target hphase =>
      cases hstep
      exact brokenOff h hu hphase (by simpa only [hphase] using hok) bytes
    · cases hstep
    · cases hstep
      exact ended h hu hnot _

/-! ## Whole runs -/

theorem ledger_idle (now : Nat) (files : Dict AbsPath (List UInt8)) :
    Ledger cwd (State.idle now files) where
  stored _ _ h := nomatch h
  issued _ _ h := nomatch h
  phases _ _ h := nomatch h
  apart _ _ _ _ h := nomatch h
  spent _ h := nomatch h
  promise := ⟨List.nodup_nil, nofun, nofun, nofun⟩

/-- A fresh token changes nothing for the tokens registered before. -/
theorem Ledger.register {stored : Stored} (h : Ledger cwd s)
    (hfresh : s.issued.lookup token = none)
    (hstored : ∃ m, stored.decoded = some m ∧ m.maxBytes = defaultMaxBytes) :
    Ledger cwd { s with
      redis := assign s.redis (token, some stored)
      issued := assign s.issued (token, some stored) } := by
  have hissued : ∀ other, other ≠ token →
      (assign s.issued (token, some stored)).lookup other = s.issued.lookup other :=
    fun other hne => lookup_assign.trans (if_neg hne)
  have hredis : ∀ other, other ≠ token →
      (assign s.redis (token, some stored)).lookup other = s.redis.lookup other :=
    fun other hne => lookup_assign.trans (if_neg hne)
  have hknown : ∀ other m, s.registered other = some m → other ≠ token := by
    rintro other m hm rfl
    rw [State.registered, hfresh] at hm
    cases hm
  have hregistered : ∀ other m, s.registered other = some m →
      ((assign s.issued (token, some stored)).lookup other).bind Stored.decoded = some m := by
    intro other m hm
    rw [hissued other (hknown other m hm)]
    exact hm
  have hplace : ∀ w ∈ s.written, w.token ≠ token := by
    intro w hw
    obtain ⟨m, hm, -⟩ := h.promise.place w.toFileUse
      (List.mem_append_right _ (List.mem_map_of_mem hw))
    exact hknown _ m hm
  refine ⟨?_, ?_, ?_, ?_, ?_, ⟨h.promise.once, ?_, h.promise.live, ?_⟩⟩
  · intro other e he
    by_cases hother : other = token
    · subst hother
      have hself : (assign s.redis (other, some stored)).lookup other = some stored :=
        lookup_assign.trans (if_pos rfl)
      obtain rfl := Option.some.inj (hself.symm.trans he)
      exact (lookup_assign.trans (if_pos rfl) :
        (assign s.issued (other, some stored)).lookup other = some stored)
    · rw [hissued other hother]
      exact h.stored other e ((hredis other hother).symm.trans he)
  · intro other e he
    by_cases hother : other = token
    · subst hother
      have hself : (assign s.issued (other, some stored)).lookup other = some stored :=
        lookup_assign.trans (if_pos rfl)
      obtain rfl := Option.some.inj (hself.symm.trans he)
      exact hstored
    · exact h.issued other e ((hissued other hother).symm.trans he)
  · intro i u hu
    refine (h.phases i u hu).frame (hregistered u.token) ?_ (fun _ w hw => .inl hw) (fun _ _ => rfl)
    intro hway
    obtain ⟨target, m, hm, -⟩ := aimed_of_underWay (h.phases i u hu) hway
    exact hredis _ (hknown _ m hm)
  · intro i j u v hu hv huway hvway he
    refine h.apart i j u v hu hv huway hvway ?_
    obtain ⟨target, m, hm, -⟩ := aimed_of_underWay (h.phases i u hu) huway
    obtain ⟨target', m', hm', -⟩ := aimed_of_underWay (h.phases j v hv) hvway
    simp only [State.file, State.registered] at he
    rw [hregistered _ m hm, hregistered _ m' hm'] at he
    rw [State.file, State.file, hm, hm']
    exact he
  · intro w hw
    rw [hredis _ (hplace w hw)]
    exact h.spent w hw
  · intro f hf
    obtain ⟨m, hm, hrest⟩ := h.promise.place f hf
    exact ⟨m, hregistered _ m hm, hrest⟩
  · intro w hw
    obtain ⟨hcontent, m, hm, hlength⟩ := h.promise.whole w hw
    exact ⟨hcontent, m, hregistered _ m hm, hlength⟩

theorem Ledger.step {e : Event} (h : Ledger cwd s) (hok : Permitted cwd s e)
    (hstep : step cwd s e = some t) : Ledger cwd t := by
  cases e with
  | register token path filename =>
    rw [Uploads.step] at hstep
    split at hstep
    · cases hstep
    next hfresh =>
      cases hstep
      exact h.register (Option.not_isSome_iff_eq_none.mp hfresh) ⟨_, rfl, rfl⟩
  | pass milliseconds =>
    cases hstep
    exact ⟨h.stored, h.issued, h.phases, h.apart, h.spent,
      ⟨h.promise.once, h.promise.place, h.promise.live, h.promise.whole⟩⟩
  | request token filename body =>
    cases hstep
    refine ⟨h.stored, h.issued, ?_, ?_, ?_,
      ⟨h.promise.once, h.promise.place, h.promise.live, h.promise.whole⟩⟩
    · intro i u hu
      rcases getElem?_started hu with hu | ⟨-, rfl⟩
      · exact h.phases i u hu
      · trivial
    · intro i j u v hu hv huway hvway
      rcases getElem?_started hu with hu | ⟨-, rfl⟩
      · rcases getElem?_started hv with hv | ⟨-, rfl⟩
        · exact h.apart i j u v hu hv huway hvway
        · cases hvway
      · cases huway
    · intro w hw
      refine (h.spent w hw).imp_right ?_
      rintro ⟨j, v, hv, hrest⟩
      refine ⟨j, v, ?_, hrest⟩
      rw [List.getElem?_append_left (List.getElem?_eq_some_iff.mp hv).1]
      exact hv
  | step i outcome =>
    obtain ⟨u, hu, hrest⟩ := Option.bind_eq_some_iff.mp hstep
    obtain ⟨⟨after, phase⟩, hperform, hafter⟩ := Option.bind_eq_some_iff.mp hrest
    cases hafter
    exact h.perform hu hok hperform

/-- In a run whose steps are permitted a token admits one file. -/
theorem oneFile_of_permitted {now : Nat} {files : Dict AbsPath (List UInt8)} {es : List Event}
    (hok : Along (Uploads.step cwd) (Permitted cwd) (State.idle now files) es)
    (hrun : exec (Uploads.step cwd) (State.idle now files) es = some s) : OneFile cwd s := by
  have hledger := exec_invariant (fun _ _ _ h hok hstep => h.step hok hstep)
    (ledger_idle now files) hok hrun
  exact hledger.promise

/-- One token, one request. -/
def singleUpload : List Event :=
  [.register "t" "storage/backups/olt.cfg" "olt.cfg", .request "t" "olt.cfg" [1, 2]] ++
    List.replicate 6 (.step 0 .done)

theorem oneFile_singleUpload :
    ∃ s, exec (step "/app") (State.idle 0 []) singleUpload = some s ∧ OneFile "/app" s ∧
      s.written.map (·.content) = [[1, 2]] := by
  have hrun : (exec (step "/app") (State.idle 0 []) singleUpload).map
      (fun s => s.written.map (·.content)) = some [[1, 2]] := by decide +kernel
  obtain ⟨s, hs, hwritten⟩ := Option.map_eq_some_iff.mp hrun
  exact ⟨s, hs, oneFile_of_permitted (along_of_check (by decide +kernel)) hs, hwritten⟩

/-- Two requests read the token before one of them has deleted it. -/
def doubleUpload : List Event :=
  [.register "t" "storage/backups/olt.cfg" "olt.cfg", .request "t" "olt.cfg" [1, 2],
    .request "t" "olt.cfg" [3], .step 0 .done, .step 1 .done] ++
    List.replicate 5 (.step 0 .done) ++ List.replicate 5 (.step 1 .done)

/-- Both bodies are written. -/
theorem written_twice :
    ¬ ∀ es s, exec (step "/app") (State.idle 0 []) es = some s → OneFile "/app" s := by
  intro h
  have hrun : (exec (step "/app") (State.idle 0 []) doubleUpload).map
      (fun s => s.written.map fun w => (w.token, w.content)) =
        some [("t", [3]), ("t", [1, 2])] := by decide +kernel
  obtain ⟨s, hs, hwritten⟩ := Option.map_eq_some_iff.mp hrun
  have honce := (h doubleUpload s hs).once
  have htokens : s.written.map (·.token) = ["t", "t"] := by
    rw [show s.written.map (·.token) = (s.written.map fun w => (w.token, w.content)).map Prod.fst by
      rw [List.map_map]; rfl, hwritten]
    rfl
  rw [htokens] at honce
  exact absurd honce (by decide)

end BackupCenter.Olt.Uploads
