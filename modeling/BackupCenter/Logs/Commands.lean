import BackupCenter.Lib.Interleaving
import BackupCenter.Tasks.Meta

/-!
# The log lists in Redis

Every task has a list of log entries and a counter of their sequence numbers, and so has
the global log. A list that loses its last element is not there any more, and neither is
what its time to live ends.
-/
namespace BackupCenter.Logs

open BackupCenter.Lib BackupCenter.Tasks

inductive Level where
  | info | success | warning | error
  deriving Repr, DecidableEq

/-- One log entry. An empty tenant stands for `None`; `timestampIso` is `none` where it is
missing or cannot be parsed. -/
structure LogEntry where
  taskId : TaskId
  seq : Nat
  tenantId : TenantId
  deviceName : String
  message : String
  level : Level
  timestampIso : Option Timestamp
  globalSeq : Nat
  deriving Repr, DecidableEq

/-- An element of a list: an entry, or a text that `json.loads` rejects. -/
inductive Raw where
  | entry (e : LogEntry)
  | unreadable (text : String)
  deriving Repr, DecidableEq

/-- `backup_center:global_logs` or `backup_center:task_logs:<id>`, with the counter of each. -/
inductive LogKey where
  | global
  | task (id : TaskId)
  deriving Repr, DecidableEq

/-- The number of an entry in one of the two sequences. -/
def LogKey.seqOf : LogKey → LogEntry → Nat
  | .global, e => e.globalSeq
  | .task _, e => e.seq

/-- A list and the moment at which it expires, if it was given one. -/
structure Listed where
  items : List Raw := []
  expiry : Option Nat := none

/-- A counter; at 0 it is not there. -/
structure Counter where
  value : Nat := 0
  expiry : Option Nat := none

/-- The Redis state, and what has ever been pushed onto each list. -/
structure LogStore where
  now : Nat := 0
  lists : LogKey → Listed := fun _ => {}
  counters : LogKey → Counter := fun _ => {}
  pushed : LogKey → List Raw := fun _ => []

/-- The commands that writers, readers and cleaners issue. `rewrite` is the pipeline of the
cleaners: `DELETE`, `RPUSH` of what is kept and `EXPIRE`. -/
inductive LogCommand where
  | clock
  | incr (k : LogKey)
  | getSeq (k : LogKey)
  | rpush (k : LogKey) (e : LogEntry)
  | ltrim (k : LogKey) (keep : Nat)
  | expireList (k : LogKey) (ttl : Nat)
  | expireSeq (k : LogKey) (ttl : Nat)
  | llen (k : LogKey)
  | lindexHead (k : LogKey)
  | lpop (k : LogKey)
  | lrange (k : LogKey) (start stop : Nat)
  | lrangeAll (k : LogKey)
  | rewrite (k : LogKey) (keep : List Raw) (ttl : Nat)

abbrev LogCommand.Answer : LogCommand → Type
  | .clock | .incr _ | .getSeq _ | .llen _ => Nat
  | .lindexHead _ => Option Raw
  | .lrange .. | .lrangeAll _ => List Raw
  | _ => Unit

/-- A list with other elements. -/
def Listed.withItems (l : Listed) (items : List Raw) : Listed :=
  if items = [] then {} else { l with items := items }

def LogStore.setList (s : LogStore) (k : LogKey) (l : Listed) : LogStore :=
  { s with lists := Function.update s.lists k l }

def LogStore.setCounter (s : LogStore) (k : LogKey) (c : Counter) : LogStore :=
  { s with counters := Function.update s.counters k c }

def LogStore.items (s : LogStore) (k : LogKey) : List Raw := (s.lists k).items

/-- The atomic effect of one command. -/
def handle : (c : LogCommand) → LogStore → c.Answer × LogStore
  | .clock, s => (s.now, s)
  | .incr k, s =>
    ((s.counters k).value + 1,
      s.setCounter k { s.counters k with value := (s.counters k).value + 1 })
  | .getSeq k, s => ((s.counters k).value, s)
  | .rpush k e, s =>
    ((), { s.setList k { s.lists k with items := s.items k ++ [.entry e] } with
      pushed := Function.update s.pushed k (s.pushed k ++ [.entry e]) })
  | .ltrim k keep, s =>
    ((), s.setList k ((s.lists k).withItems ((s.items k).drop ((s.items k).length - keep))))
  | .expireList k ttl, s =>
    ((), if s.items k = [] then s
      else s.setList k { s.lists k with expiry := some (s.now + ttl) })
  | .expireSeq k ttl, s =>
    ((), if (s.counters k).value = 0 then s
      else s.setCounter k { s.counters k with expiry := some (s.now + ttl) })
  | .llen k, s => ((s.items k).length, s)
  | .lindexHead k, s => ((s.items k).head?, s)
  | .lpop k, s => ((), s.setList k ((s.lists k).withItems (s.items k).tail))
  | .lrange k start stop, s => (((s.items k).take (stop + 1)).drop start, s)
  | .lrangeAll k, s => (s.items k, s)
  | .rewrite k keep ttl, s =>
    ((), s.setList k (if keep = [] then {} else ⟨keep, some (s.now + ttl)⟩))

abbrev LogProgram := Prog LogCommand LogCommand.Answer

/-- The key is still there at the given time. -/
def aliveAt (now : Nat) (expiry : Option Nat) : Bool := expiry.all (now < ·)

/-- Time passes, and with it the keys whose time to live is over. -/
def LogStore.tick (s : LogStore) (d : Nat) : LogStore :=
  { s with
    now := s.now + d
    lists := fun k => if aliveAt (s.now + d) (s.lists k).expiry then s.lists k else {}
    counters := fun k => if aliveAt (s.now + d) (s.counters k).expiry then s.counters k else {} }

section Items

variable {s : LogStore} {k : LogKey}

@[simp] theorem items_setList_self {l : Listed} : (s.setList k l).items k = l.items := by
  simp [LogStore.items, LogStore.setList]

@[simp] theorem items_withItems {l : Listed} {items : List Raw} :
    (l.withItems items).items = items := by
  unfold Listed.withItems
  split
  next h => exact h.symm
  next => rfl

theorem items_setList_ne {k' : LogKey} (h : k' ≠ k) {l : Listed} :
    (s.setList k l).items k' = s.items k' := by
  simp [LogStore.items, LogStore.setList, Function.update_of_ne h]

end Items

end BackupCenter.Logs
