import BackupCenter.Lib.Regex

/-!
# Reading a terminal by expectations

A session holds what has come and was not consumed, and what is still to come: data in pieces,
pauses long enough for an expectation to time out, and the end of the connection. A matching
expectation consumes the buffer up to the end of the match; one that times out consumes nothing.
-/
namespace BackupCenter.Lib.Terminal

variable {κ : Type*}

/-- A match in a buffer: what kind it is, and the three parts of the buffer. -/
structure Found (κ : Type*) where
  kind : κ
  before : List Char
  matched : List Char
  rest : List Char

/-- What the patterns of an expectation find in a buffer. -/
structure Searcher (κ : Type*) where
  find : List Char → Option (Found κ)
  split : ∀ buffer f, find buffer = some f → buffer = f.before ++ f.matched ++ f.rest

/-- The leftmost match of any of the patterns; of several at one place, that of the first. -/
def leftmost (patterns : List (κ × Regex)) (before : Option Char) (passed : List Char) :
    List Char → Option (Found κ)
  | [] =>
    (patterns.findSome? fun p => (p.2.first ⟨before, []⟩).map (p.1, ·)).map fun m =>
      ⟨m.1, passed.reverse, [], []⟩
  | c :: cs =>
    match patterns.findSome? fun p => (p.2.first ⟨before, c :: cs⟩).map (p.1, ·) with
    | some (kind, e) =>
      some ⟨kind, passed.reverse, (c :: cs).take ((c :: cs).length - e.rest.length), e.rest⟩
    | none => leftmost patterns (some c) (c :: passed) cs

theorem leftmost_split (patterns : List (κ × Regex)) (before : Option Char) (passed cs : List Char)
    (f : Found κ) (h : leftmost patterns before passed cs = some f) :
    passed.reverse ++ cs = f.before ++ f.matched ++ f.rest := by
  induction cs generalizing before passed with
  | nil =>
    obtain ⟨m, _, rfl⟩ := Option.map_eq_some_iff.mp h
    simp
  | cons c cs ih =>
    rw [leftmost] at h
    split at h
    · rename_i kind e hmatch
      cases h
      obtain ⟨p, _, hp⟩ := List.exists_of_findSome?_eq_some hmatch
      obtain ⟨e', he', heq⟩ := Option.map_eq_some_iff.mp hp
      cases heq
      obtain ⟨taken, hsuffix⟩ := p.2.ends_suffix _ e (List.mem_of_head? he')
      have htaken : taken ++ e.rest = c :: cs := hsuffix
      have hlength : (c :: cs).length - e.rest.length = taken.length := by
        rw [← htaken, List.length_append]
        omega
      show passed.reverse ++ (c :: cs) = passed.reverse ++ (c :: cs).take _ ++ e.rest
      rw [hlength, List.append_assoc, ← htaken, List.take_left]
    · have hrest := ih (some c) (c :: passed) h
      rw [List.reverse_cons, List.append_assoc] at hrest
      exact hrest

/-- What a list of regular expressions finds. -/
def Searcher.ofPatterns (patterns : List (κ × Regex)) : Searcher κ where
  find := leftmost patterns none []
  split buffer f h := leftmost_split patterns none [] buffer f h

inductive Arrival where
  | data (cs : List Char)
  | pause
  | eof
  deriving DecidableEq

structure Session where
  buffer : List Char := []
  arrivals : List Arrival := []
  deriving DecidableEq

inductive Expected (κ : Type*) where
  | found (f : Found κ)
  | timeout (before : List Char)
  | eof (before : List Char)

/-- One expectation, from a buffer on. -/
def expectFrom (search : Searcher κ) (buffer : List Char) : List Arrival → Expected κ × Session
  | [] =>
    match search.find buffer with
    | some f => (.found f, { buffer := f.rest })
    | none => (.timeout buffer, { buffer })
  | a :: as =>
    match search.find buffer with
    | some f => (.found f, { buffer := f.rest, arrivals := a :: as })
    | none =>
      match a with
      | .data cs => expectFrom search (buffer ++ cs) as
      | .pause => (.timeout buffer, { buffer, arrivals := as })
      | .eof => (.eof buffer, { arrivals := as })

def Session.expect (search : Searcher κ) (s : Session) : Expected κ × Session :=
  expectFrom search s.buffer s.arrivals

/-- What comes until the end of the connection. -/
def comingData : List Arrival → List Char
  | [] => []
  | .data cs :: as => cs ++ comingData as
  | .pause :: as => comingData as
  | .eof :: _ => []

def Session.pending (s : Session) : List Char := s.buffer ++ comingData s.arrivals

theorem pending_expectFrom (search : Searcher κ) (buffer : List Char) (as : List Arrival) :
    match expectFrom search buffer as with
    | (.found f, s) => buffer ++ comingData as = f.before ++ f.matched ++ s.pending
    | (.timeout _, s) => buffer ++ comingData as = s.pending
    | (.eof before, _) => buffer ++ comingData as = before := by
  induction as generalizing buffer with
  | nil =>
    rw [expectFrom]
    cases hfind : search.find buffer with
    | none => rfl
    | some f =>
      simp only [comingData, Session.pending, List.append_nil]
      exact search.split buffer f hfind
  | cons a as ih =>
    cases hfind : search.find buffer with
    | some f =>
      have hstep : expectFrom search buffer (a :: as) =
          (.found f, { buffer := f.rest, arrivals := a :: as }) := by
        simp only [expectFrom.eq_def, hfind]
      simp only [hstep, Session.pending]
      rw [search.split buffer f hfind, List.append_assoc]
    | none =>
      cases a with
      | data cs =>
        have hstep : expectFrom search buffer (.data cs :: as) =
            expectFrom search (buffer ++ cs) as := by
          simp only [expectFrom, hfind]
        have h := ih (buffer ++ cs)
        rw [List.append_assoc] at h
        rw [hstep]
        exact h
      | pause => simp only [expectFrom, hfind, comingData, Session.pending]
      | eof => simp only [expectFrom, hfind, comingData, List.append_nil]

/-- A match takes from what is pending the text before it and itself, and nothing else. -/
theorem pending_of_found {search : Searcher κ} {s s' : Session} {f : Found κ}
    (h : s.expect search = (.found f, s')) :
    s.pending = f.before ++ f.matched ++ s'.pending := by
  have hpending := pending_expectFrom search s.buffer s.arrivals
  rw [show expectFrom search s.buffer s.arrivals = _ from h] at hpending
  exact hpending

theorem pending_of_timeout {search : Searcher κ} {s s' : Session} {before : List Char}
    (h : s.expect search = (.timeout before, s')) : s.pending = s'.pending := by
  have hpending := pending_expectFrom search s.buffer s.arrivals
  rw [show expectFrom search s.buffer s.arrivals = _ from h] at hpending
  exact hpending

/-! ## The answer -/

/-- The text of an answer: what stands before the matches, up to the first one that stops. When
none does, it goes on to the end of the connection, or to what is left when nothing more comes.
The last index tells whether a stopping match was reached. -/
inductive Reads (search : Searcher κ) (stops : κ → Bool) : Session → List Char → Bool → Prop
  | stop {s s' : Session} {f : Found κ} (h : s.expect search = (.found f, s'))
      (hstops : stops f.kind = true) : Reads search stops s f.before true
  | more {s s' : Session} {f : Found κ} {text : List Char} {reached : Bool}
      (h : s.expect search = (.found f, s')) (hstops : stops f.kind = false)
      (hrest : Reads search stops s' text reached) :
      Reads search stops s (f.before ++ text) reached
  | wait {s s' : Session} {before text : List Char} {reached : Bool}
      (h : s.expect search = (.timeout before, s')) (hcomes : s.arrivals ≠ [])
      (hrest : Reads search stops s' text reached) : Reads search stops s text reached
  | expired {s s' : Session} {before : List Char} (h : s.expect search = (.timeout before, s'))
      (hcomes : s.arrivals = []) : Reads search stops s before false
  | eof {s s' : Session} {before : List Char} (h : s.expect search = (.eof before, s')) :
      Reads search stops s before false

section

variable {search : Searcher κ} {stops : κ → Bool} {s s' : Session}

theorem expect_of_nil (h : s.arrivals = []) {before : List Char}
    (hexpect : s.expect search = (.timeout before, s')) : s' = s ∧ before = s.buffer := by
  obtain ⟨buffer, arrivals⟩ := s
  obtain rfl : arrivals = [] := h
  simp only [Session.expect, expectFrom] at hexpect
  cases hfind : search.find buffer with
  | some f =>
    rw [hfind] at hexpect
    cases hexpect
  | none =>
    rw [hfind] at hexpect
    cases hexpect
    exact ⟨rfl, rfl⟩

theorem Reads.of_stop {f : Found κ} {text : List Char} {reached : Bool}
    (h : s.expect search = (.found f, s')) (hstops : stops f.kind = true)
    (hreads : Reads search stops s text reached) : text = f.before ∧ reached = true := by
  cases hreads with
  | stop h' _ => rw [h] at h'; cases h'; exact ⟨rfl, rfl⟩
  | more h' hgoes _ => rw [h] at h'; cases h'; rw [hstops] at hgoes; cases hgoes
  | wait h' _ _ => rw [h] at h'; cases h'
  | expired h' _ => rw [h] at h'; cases h'
  | eof h' => rw [h] at h'; cases h'

theorem Reads.of_more {f : Found κ} {text : List Char} {reached : Bool}
    (h : s.expect search = (.found f, s')) (hstops : stops f.kind = false)
    (hreads : Reads search stops s text reached) :
    ∃ rest, text = f.before ++ rest ∧ Reads search stops s' rest reached := by
  cases hreads with
  | stop h' hstop => rw [h] at h'; cases h'; rw [hstops] at hstop; cases hstop
  | more h' _ hrest => rw [h] at h'; cases h'; exact ⟨_, rfl, hrest⟩
  | wait h' _ _ => rw [h] at h'; cases h'
  | expired h' _ => rw [h] at h'; cases h'
  | eof h' => rw [h] at h'; cases h'

/-- An expectation that times out does not change the answer. -/
theorem reads_timeout_iff {before text : List Char} {reached : Bool}
    (h : s.expect search = (.timeout before, s')) :
    Reads search stops s text reached ↔ Reads search stops s' text reached := by
  constructor
  · intro hreads
    cases hreads with
    | stop h' _ => rw [h] at h'; cases h'
    | more h' _ _ => rw [h] at h'; cases h'
    | wait h' _ hrest => rw [h] at h'; cases h'; exact hrest
    | expired h' hnil =>
      rw [h] at h'
      cases h'
      have hsame := (expect_of_nil hnil h).1
      subst hsame
      exact .expired h hnil
    | eof h' => rw [h] at h'; cases h'
  · intro hreads
    by_cases hnil : s.arrivals = []
    · rwa [(expect_of_nil hnil h).1] at hreads
    · exact .wait h hnil hreads

theorem Reads.of_eof {before text : List Char} {reached : Bool}
    (h : s.expect search = (.eof before, s')) (hreads : Reads search stops s text reached) :
    reached = false := by
  cases hreads with
  | stop h' _ => rw [h] at h'; cases h'
  | more h' _ _ => rw [h] at h'; cases h'
  | wait h' _ _ => rw [h] at h'; cases h'
  | expired h' _ => rfl
  | eof h' => rfl

/-- Every character of the answer was pending, once and in this order. -/
theorem Reads.sublist {text : List Char} {reached : Bool}
    (h : Reads search stops s text reached) : text.Sublist s.pending := by
  induction h with
  | stop h _ =>
    rw [pending_of_found h, List.append_assoc]
    exact List.sublist_append_left _ _
  | more h _ _ ih =>
    rw [pending_of_found h, List.append_assoc]
    exact (ih.trans (List.sublist_append_right _ _)).append_left _
  | wait h _ _ ih => exact (pending_of_timeout h) ▸ ih
  | expired h hnil =>
    rw [(expect_of_nil hnil h).2]
    exact List.sublist_append_left _ _
  | @eof s s' before h =>
    have hpending := pending_expectFrom search s.buffer s.arrivals
    rw [show expectFrom search s.buffer s.arrivals = _ from h] at hpending
    rw [Session.pending, hpending]

end

end BackupCenter.Lib.Terminal
