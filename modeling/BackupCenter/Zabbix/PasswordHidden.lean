import BackupCenter.Zabbix.DumpErrors
import BackupCenter.Zabbix.Echoes

/-!
# Which passwords a message hides

The message about a dump that failed is the same for any two passwords that the shell reads without
quotes. A password in quotes is quoted again with the rest of the command: the mask then takes the
first of the inner quotes for the value and leaves the password behind.
-/
namespace BackupCenter.Zabbix

open BackupCenter.Lib
open BackupCenter.Lib.Regex
open BackupCenter.Lib.Shell
open BackupCenter.Messages

variable {w : WordTables} {db : Database} {b : Option Char} {p q : List Char}

/-- A password that `shlex.quote` leaves as it is. -/
def Plain (p : List Char) : Prop := p ≠ [] ∧ ∀ c ∈ p, isUnquotable c = true

/-- What an operator is told about a dump that failed. -/
structure Told where
  category : String
  message : String
  sanitized : String
  deriving DecidableEq

def told (w : WordTables) (rawError dbType : List Char) (size : Int) : Told :=
  let error := friendlyDumpError w rawError dbType size
  ⟨error.1, error.2, sanitizeOperationalMessage w error.2⟩

/-- No answer that repeats the command makes a difference between the passwords. -/
def Hidden (w : WordTables) (p q : List Char) : Prop :=
  ∀ (db : Database) (pieces : List Piece) (size : Int), Apart w db p pieces →
    told w (answer db p pieces) db.dbType size = told w (answer db q pieces) db.dbType size

/-! ## The commands around a password -/

/-- The variable that hands over the password. -/
def Database.key (db : Database) : List Char :=
  if db.dbType = "postgres".toList then "PGPASSWORD".toList else "MYSQL_PWD".toList

theorem isKey_key (db : Database) : IsKey db.key := by
  unfold Database.key
  split
  · exact .inl rfl
  · exact .inr rfl

theorem stripChars_command {key r : List Char} {d : Char} (hkey : IsKey key)
    (hd : isSpace d = false) (rest : List Char) :
    stripChars (key ++ '=' :: (quote r ++ ' ' :: d :: rest)) =
      key ++ '=' :: (quote r ++ ' ' :: d :: rest.rdropWhile isSpace) := by
  obtain ⟨k, ks, rfl, hk⟩ := key_eq_cons hkey
  have hhead : ¬isSpace k = true := by
    rw [hk.isSpace_eq_false]
    exact Bool.false_ne_true
  have htext (zs : List Char) : k :: ks ++ '=' :: (quote r ++ ' ' :: zs) =
      (k :: ks ++ '=' :: (quote r ++ [' '])) ++ zs := by simp
  show List.rdropWhile isSpace (List.dropWhile isSpace _) = _
  rw [List.cons_append, List.dropWhile_cons_of_neg hhead, ← List.cons_append, htext (d :: rest),
    rdropWhile_append_cons hd, htext (d :: rest.rdropWhile isSpace)]

/-- The call of the client behind the password, in its first character and the rest. -/
def Database.call (db : Database) : Char × List Char :=
  if db.dbType = "postgres".toList then
    ('p', ("g_dump -h localhost -U ".toList ++ quote db.dbUser ++ ' ' :: [' '].intercalate
      (db.excludeTables.map fun t => "--exclude-table=".toList ++ quote t) ++
        ' ' :: quote db.dbName).rdropWhile isSpace)
  else
    ('m', ("ysqldump --single-transaction -h localhost -u ".toList ++ quote db.dbUser ++
      ' ' :: quote db.dbName ++ ' ' :: [' '].intercalate
        (db.excludeTables.map fun t => "--ignore-table=".toList ++ quote (db.dbName ++ '.' :: t))
      ).rdropWhile isSpace)

theorem call_solid (db : Database) : isSpace db.call.1 = false ∧ db.call.1 ≠ '\'' := by
  have hp : isSpace 'p' = false ∧ 'p' ≠ '\'' := by decide
  have hm : isSpace 'm' = false ∧ 'm' ≠ '\'' := by decide
  unfold Database.call
  split
  · exact hp
  · exact hm

/-- The command is the same for all passwords but for the password itself. -/
theorem dumpBase_eq (db : Database) (r : List Char) :
    db.dumpBase r = db.key ++ '=' :: (quote r ++ ' ' :: db.call.1 :: db.call.2) := by
  unfold Database.dumpBase buildDumpBase Database.key Database.call
  split
  · rw [← stripChars_command (.inl rfl) rfl]
    repeat rw [String.toList_ofList]
    simp only [List.cons_append, List.nil_append, List.append_assoc]
  · rw [← stripChars_command (.inr rfl) rfl]
    repeat rw [String.toList_ofList]
    simp only [List.cons_append, List.nil_append, List.append_assoc]

theorem requoted_append (x y : List Char) : requoted (x ++ y) = requoted x ++ requoted y :=
  List.flatMap_append

theorem requoted_cons {c : Char} (hc : c ≠ '\'') (x : List Char) :
    requoted (c :: x) = c :: requoted x := by
  rw [requoted, List.flatMap_cons, if_neg hc]
  rfl

theorem requoted_eq_self {x : List Char} (h : ∀ c ∈ x, c ≠ '\'') : requoted x = x := by
  induction x with
  | nil => rfl
  | cons c x ih =>
    rw [requoted_cons (h c (List.mem_cons_self ..)), ih fun d hd => h d (List.mem_cons_of_mem _ hd)]

theorem dumpScript_eq (base remote errPath : List Char) : dumpScript base remote errPath =
    "rm -f ".toList ++ quote remote ++ ' ' :: quote errPath ++ "; ".toList ++ base ++
      dumpChecks remote errPath :=
  rfl

theorem quote_of_blank {x : List Char} (h : ' ' ∈ x) : quote x = '\'' :: requoted x ++ ['\''] := by
  have hall : ¬x.all isUnquotable = true := fun hall =>
    absurd (List.all_eq_true.mp hall ' ' h) (by decide)
  rw [quote, if_neg (List.ne_nil_of_mem h), if_neg hall]

/-- The command before the variable of the password, and behind the first character of the call. -/
def commandStart (remote : List Char) : List Char :=
  "bash -lc ".toList ++ '\'' :: requoted ("rm -f ".toList ++ quote remote ++
    ' ' :: quote (remote ++ ".err".toList)) ++ [';', ' ']

def commandEnd (db : Database) (remote : List Char) : List Char :=
  requoted db.call.2 ++ requoted (dumpChecks remote (remote ++ ".err".toList)) ++ ['\'']

theorem getLast?_commandStart (remote : List Char) : (commandStart remote).getLast? = some ' ' := by
  unfold commandStart
  rw [List.getLast?_append]
  rfl

/-- The script is quoted as a whole, with the quotes of a password in it. -/
theorem buildDumpCommand_eq (db : Database) (remote r : List Char) :
    (buildDumpCommand (db.dumpBase r) remote).1 = commandStart remote ++
      (db.key ++ '=' :: (requoted (quote r) ++ ' ' :: db.call.1 :: commandEnd db remote)) := by
  have hkey : requoted db.key = db.key :=
    requoted_eq_self fun c hc => Echoed.not_apostrophe (key_spellings (isKey_key db) c hc)
  have hsemicolon : requoted "; ".toList = [';', ' '] := by
    rw [String.toList_ofList]
    rfl
  have hline : requoted (db.key ++ '=' :: (quote r ++ ' ' :: db.call.1 :: db.call.2)) =
      db.key ++ '=' :: (requoted (quote r) ++ ' ' :: db.call.1 :: requoted db.call.2) := by
    rw [requoted_append, hkey, requoted_cons (by decide), requoted_append,
      requoted_cons (by decide), requoted_cons (call_solid db).2]
  show "bash -lc ".toList ++
    quote (dumpScript (db.dumpBase r) remote (remote ++ ".err".toList)) = _
  rw [quote_of_blank (by rw [dumpScript_eq]; simp), dumpScript_eq, dumpBase_eq, requoted_append,
    requoted_append _ (db.key ++ _), requoted_append _ "; ".toList, hline, hsemicolon]
  unfold commandStart commandEnd
  simp only [List.append_assoc, List.cons_append, List.nil_append]

/-! ## Plain passwords -/

theorem Plain.unbroken (hp : Plain p) : Unbroken p := by
  refine ⟨hp.1, fun c hc => ?_⟩
  have hsigns : "_@%+=:,./-".toList = ['_', '@', '%', '+', '=', ':', ',', '.', '/', '-'] :=
    String.toList_ofList
  have hquotable := hp.2 c hc
  rw [isUnquotable, hsigns, Bool.or_eq_true] at hquotable
  rcases hquotable with hletter | hsign
  · have hspelling : IsSpelling c := .inl (by rw [hletter, Bool.true_or])
    exact ⟨hspelling.isSpace_eq_false, Echoed.not_apostrophe hspelling⟩
  · have hall : ['_', '@', '%', '+', '=', ':', ',', '.', '/', '-'].all
        (fun c => !isSpace c && c != '\'') = true := by decide
    have hc := List.all_eq_true.mp hall c (List.contains_iff_mem.mp hsign)
    rw [Bool.and_eq_true, Bool.not_eq_true', bne_iff_ne] at hc
    exact hc

theorem Plain.quote_eq (hp : Plain p) : quote p = p := by
  rw [quote, if_neg hp.1, if_pos (List.all_eq_true.mpr hp.2)]

theorem Plain.requoted_eq (hp : Plain p) : requoted p = p :=
  requoted_eq_self fun c hc => (hp.unbroken.2 c hc).2

theorem Echoed.line {key pre tail x y : List Char} {d : Char}
    (hpre : (pre.getLast?.or b).any w.isWord = false) (hd : isSpace d = false)
    (h : Echoed w key p q ((pre ++ (key ++ '=' :: (p ++ ' ' :: d :: tail))).getLast?.or b) x y) :
    Echoed w key p q b (pre ++ (key ++ '=' :: (p ++ ' ' :: d :: tail)) ++ x)
      (pre ++ (key ++ '=' :: (q ++ ' ' :: d :: tail)) ++ y) := by
  have htext (r zs : List Char) : pre ++ (key ++ '=' :: (r ++ ' ' :: d :: tail)) ++ zs =
      pre ++ (key ++ '=' :: (r ++ ' ' :: d :: (tail ++ zs))) := by simp
  rw [htext, htext]
  refine .text pre (.command hpre hd (.text tail ?_))
  have hlast : (pre ++ (key ++ '=' :: (p ++ ' ' :: d :: tail))).getLast?.or b =
      tail.getLast?.or (some d) := by
    have hsplit : pre ++ (key ++ '=' :: (p ++ ' ' :: d :: tail)) =
        (pre ++ (key ++ '=' :: (p ++ [' ', d]))) ++ tail := by simp
    have hend : (pre ++ (key ++ '=' :: (p ++ [' ', d]))).getLast? = some d := by
      have hd' : pre ++ (key ++ '=' :: (p ++ [' ', d])) =
          (pre ++ (key ++ '=' :: (p ++ [' ']))) ++ [d] := by simp
      rw [hd', List.getLast?_concat]
    rw [hsplit, List.getLast?_append, hend]
    cases tail.getLast? <;> rfl
  rwa [hlast] at h

theorem echoed_shown (hp : Plain p) (hq : Plain q) (piece : Piece) {x y : List Char}
    (hapart : piece = .base → b.any w.isWord = false)
    (h : Echoed w db.key p q ((piece.shown db p).getLast?.or b) x y) :
    Echoed w db.key p q b (piece.shown db p ++ x) (piece.shown db q ++ y) := by
  cases piece with
  | text chars => exact .text chars h
  | base =>
    have hp' := dumpBase_eq db p
    have hq' := dumpBase_eq db q
    rw [hp.quote_eq] at hp'
    rw [hq.quote_eq] at hq'
    dsimp only [Piece.shown] at h ⊢
    rw [hp'] at h
    rw [hp', hq']
    have hb : (([] : List Char).getLast?.or b).any w.isWord = false := hapart rfl
    exact Echoed.line hb (call_solid db).1 h
  | command remote =>
    have hp' := buildDumpCommand_eq db remote p
    have hq' := buildDumpCommand_eq db remote q
    rw [hp.quote_eq, hp.requoted_eq] at hp'
    rw [hq.quote_eq, hq.requoted_eq] at hq'
    dsimp only [Piece.shown] at h ⊢
    rw [hp'] at h
    rw [hp', hq']
    refine Echoed.line ?_ (call_solid db).1 h
    rw [getLast?_commandStart]
    exact Echoed.not_isWord_blank

theorem echoed_answer (hp : Plain p) (hq : Plain q) (pieces : List Piece) :
    ∀ {b : Option Char}, (∀ before behind, pieces = before ++ .base :: behind →
        ((answer db p before).getLast?.or b).any w.isWord = false) →
      Echoed w db.key p q b (answer db p pieces) (answer db q pieces) := by
  induction pieces with
  | nil => exact fun _ => .nil _
  | cons piece pieces ih =>
    intro b hapart
    have hcons (r : List Char) (pieces : List Piece) :
        answer db r (piece :: pieces) = piece.shown db r ++ answer db r pieces := rfl
    rw [hcons, hcons]
    refine echoed_shown hp hq piece (fun hbase => ?_) (ih fun before behind hsplit => ?_)
    · rw [hbase] at hapart
      exact hapart [] pieces rfl
    · have hbefore := hapart (piece :: before) behind (by rw [hsplit, List.cons_append])
      rwa [hcons, List.getLast?_append, Option.or_assoc] at hbefore

theorem hidden_of_plain (hp : Plain p) (hq : Plain q) : Hidden w p q := by
  intro db pieces size hapart
  have hechoed : Echoed w db.key p q none (answer db p pieces) (answer db q pieces) := by
    refine echoed_answer hp hq pieces fun before behind hsplit => ?_
    rw [Option.or_none]
    exact hapart before behind hsplit
  have htext : dumpErrorText w (answer db p pieces) = dumpErrorText w (answer db q pieces) :=
    congrArg hideOptions (hechoed.masked_eq (isKey_key db) hp.unbroken hq.unbroken)
  rw [told, told, friendlyDumpError, friendlyDumpError, htext]

/-! ## Passwords in quotes -/

theorem quote_of_not_plain (hq : ¬Plain q) : ∃ rest, quote q = '\'' :: rest := by
  unfold quote
  split
  · exact ⟨_, rfl⟩
  · split
    next hne hall => exact absurd ⟨hne, List.all_eq_true.mp hall⟩ hq
    next => exact ⟨_, rfl⟩

/-- No name begins in the text, whatever follows it. -/
def nameless (names : List (List Char)) : List Char → Bool
  | [] => true
  | c :: cs => names.all (fun name => !mayBegin name (c :: cs)) && nameless names cs
where
  /-- The text may be the beginning of one that begins with the name. -/
  mayBegin : List Char → List Char → Bool
    | [], _ => true
    | _, [] => true
    | n :: name, c :: cs => sameLetter n c && mayBegin name cs

theorem beginsWith_of_not_mayBegin {name pre : List Char}
    (h : nameless.mayBegin name pre = false) (rest : List Char) :
    beginsWith sameLetter name (pre ++ rest) = false := by
  induction name generalizing pre with
  | nil => cases pre <;> cases h
  | cons n name ih =>
    cases pre with
    | nil => cases h
    | cons c pre =>
      rw [nameless.mayBegin] at h
      rw [List.cons_append, beginsWith]
      cases hn : sameLetter n c with
      | false => rfl
      | true =>
        rw [hn, Bool.true_and] at h
        rw [ih h, Bool.and_false]

/-- The names of the variables, and those of the options. -/
def keys : List (List Char) := ["PGPASSWORD".toList, "MYSQL_PWD".toList]

def options : List (List Char) := ["--password=".toList, "-p".toList]

theorem hideFrom_append {pre : List Char} (h : nameless keys pre = true) (b : Option Char)
    (rest : List Char) :
    hideFrom w b (pre ++ rest) = pre ++ hideFrom w (pre.getLast?.or b) rest := by
  have huntouched : ∀ {pre : List Char} {b : Option Char}, nameless keys pre = true →
      Untouched (keptNew (passwordKey w) passwordValue "=***") b pre rest := by
    intro pre
    induction pre with
    | nil => exact fun _ => trivial
    | cons c pre ih =>
      intro b h
      rw [nameless, Bool.and_eq_true, List.all_eq_true] at h
      refine ⟨?_, ih h.2⟩
      have hname : keyOf (c :: (pre ++ rest)) = none := by
        refine List.find?_eq_none.mpr fun name hname => ?_
        have hbegin := h.1 name hname
        rw [Bool.not_eq_true'] at hbegin
        simpa using beginsWith_of_not_mayBegin hbegin rest
      have hnone : passwordAt w b (c :: (pre ++ rest)) = none := by
        unfold passwordAt
        rw [hname]
        split <;> rfl
      rw [keptNew_eq, keptEnds_of_none hnone]
      rfl
  exact replaceFrom_untouched (huntouched h)

theorem options_untouched {pre : List Char} (rest : List Char) : ∀ {b : Option Char},
    nameless options pre = true →
      Untouched (keptNew optionKey optionValue "***") b pre rest := by
  induction pre with
  | nil => exact fun _ => trivial
  | cons c pre ih =>
    intro b h
    rw [nameless, Bool.and_eq_true, List.all_eq_true] at h
    refine ⟨?_, ih h.2⟩
    have hname (name : List Char) (hname : name ∈ options) :
        beginsWith sameLetter name (c :: (pre ++ rest)) = false :=
      beginsWith_of_not_mayBegin (by simpa using h.1 name hname) rest
    have hends : optionKey.ends ⟨b, c :: (pre ++ rest)⟩ = [] := by
      rw [optionKey, ends, ends_itext, ends_itext, hname _ (List.mem_cons_self ..),
        hname _ (List.mem_cons_of_mem _ (List.mem_cons_self ..))]
      rfl
    rw [keptNew_eq, keptEnds_of_nil hends]
    rfl

theorem hideOptions_append {pre : List Char} (h : nameless options pre = true)
    (rest : List Char) : ∃ rest', hideOptions (pre ++ rest) = pre ++ rest' :=
  ⟨_, replaceFrom_untouched (options_untouched rest h)⟩

theorem hideOptions_eq_self {text : List Char} (h : nameless options text = true) :
    hideOptions text = text := by
  have huntouched := replaceFrom_untouched (options_untouched [] h (b := none))
  rw [List.append_nil] at huntouched
  exact huntouched.trans (List.append_nil text)

theorem hidePasswords_eq_self {text : List Char} (h : nameless keys text = true)
    (b : Option Char) : hideFrom w b text = text := by
  have happend := hideFrom_append (w := w) h b []
  rwa [List.append_nil, hideFrom_nil, List.append_nil] at happend

/-! ## A command that gives a quoted password away -/

def sampleDatabase : Database where
  dbType := "postgres".toList
  dbName := ['d']
  dbUser := ['u']
  excludeTables := []

/-- The command as far as the name of the variable, and from the second letter of `pg_dump` on. -/
def sampleStart : List Char := "bash -lc 'rm -f f f.err; ".toList

def sampleEnd : List Char :=
  ("g_dump -h localhost -U u  d 2>f.err | gzip > f; dump_status=$\x7bPIPESTATUS[0]:-1\x7d; " ++
    "gzip_status=$\x7bPIPESTATUS[1]:-1\x7d; size=$(wc -c < f 2>/dev/null || echo 0); " ++
    "echo \"__BC_DUMP_STATUS__ dump=$\x7bdump_status\x7d gzip=$\x7bgzip_status\x7d " ++
    "size=$\x7bsize:-0\x7d\"; if [ \"$\x7bdump_status\x7d\" -ne 0 ] || " ++
    "[ \"$\x7bgzip_status\x7d\" -ne 0 ] || [ \"$\x7bsize:-0\x7d\" -lt 128 ]; then " ++
    "echo \"__BC_DUMP_ERROR__\"; cat f.err 2>/dev/null; fi'").toList

def sampleFile : List Char := ['f', '.', 'e', 'r', 'r']

theorem plain_of_all {cs : List Char} (hne : cs ≠ []) (h : cs.all isUnquotable = true) : Plain cs :=
  ⟨hne, List.all_eq_true.mp h⟩

theorem quote_sample : quote ['f'] = ['f'] ∧ quote sampleFile = sampleFile ∧ quote ['u'] = ['u'] ∧
    quote ['d'] = ['d'] := by
  refine ⟨Plain.quote_eq ?_, Plain.quote_eq ?_, Plain.quote_eq ?_, Plain.quote_eq ?_⟩
  all_goals exact plain_of_all (List.cons_ne_nil _ _) (by decide)

theorem dumpChecks_eq (remote errPath : List Char) : dumpChecks remote errPath =
    " 2>".toList ++ quote errPath ++ " | gzip > ".toList ++ quote remote ++
    ("; dump_status=$\x7bPIPESTATUS[0]:-1\x7d; gzip_status=$\x7bPIPESTATUS[1]:-1\x7d; " ++
      "size=$(wc -c < ").toList ++ quote remote ++
    (" 2>/dev/null || echo 0); echo \"__BC_DUMP_STATUS__ dump=$\x7bdump_status\x7d " ++
      "gzip=$\x7bgzip_status\x7d size=$\x7bsize:-0\x7d\"; if [ \"$\x7bdump_status\x7d\" -ne 0 ] || " ++
      "[ \"$\x7bgzip_status\x7d\" -ne 0 ] || [ \"$\x7bsize:-0\x7d\" -lt 128 ]; then " ++
      "echo \"__BC_DUMP_ERROR__\"; cat ").toList ++ quote errPath ++ " 2>/dev/null; fi".toList :=
  rfl

set_option maxRecDepth 4000 in
theorem sampleEnd_eq : sampleEnd =
    "g_dump -h localhost -U u  d".toList ++ (dumpChecks ['f'] sampleFile ++ ['\'']) := by
  rw [dumpChecks_eq, quote_sample.1, quote_sample.2.1]
  unfold sampleEnd sampleFile
  simp only [String.toList_append]
  repeat rw [String.toList_ofList]
  rfl

set_option maxRecDepth 4000 in
theorem requoted_sampleEnd :
    requoted ("g_dump -h localhost -U u  d".toList ++ dumpChecks ['f'] sampleFile) =
      "g_dump -h localhost -U u  d".toList ++ dumpChecks ['f'] sampleFile := by
  refine requoted_eq_self fun c hc => ?_
  have hall : ("g_dump -h localhost -U u  d".toList ++ dumpChecks ['f'] sampleFile).all
      (· != '\'') = true := by
    rw [dumpChecks_eq, quote_sample.1, quote_sample.2.1]
    unfold sampleFile
    simp only [String.toList_append]
    repeat rw [String.toList_ofList]
    rfl
  simpa using List.all_eq_true.mp hall c hc

theorem sampleFile_eq : ['f'] ++ ".err".toList = sampleFile := by
  rw [String.toList_ofList]
  rfl

theorem call_sample :
    sampleDatabase.call = ('p', "g_dump -h localhost -U u  d".toList) := by
  have htype : sampleDatabase.dbType = "postgres".toList := rfl
  unfold Database.call
  rw [if_pos htype]
  show ('p', ("g_dump -h localhost -U ".toList ++ quote ['u'] ++ ' ' :: [] ++
    ' ' :: quote ['d']).rdropWhile isSpace) = _
  rw [quote_sample.2.2.1, quote_sample.2.2.2]
  repeat rw [String.toList_ofList]
  rfl

/-- The answer that is the command alone. -/
theorem sample_answer (r : List Char) : answer sampleDatabase r [.command ['f']] =
    sampleStart ++ ("PGPASSWORD".toList ++
      '=' :: (requoted (quote r) ++ ' ' :: 'p' :: sampleEnd)) := by
  have hstart : commandStart ['f'] = sampleStart := by
    unfold commandStart sampleStart
    rw [sampleFile_eq, quote_sample.1, quote_sample.2.1]
    unfold sampleFile
    repeat rw [String.toList_ofList]
    rfl
  have hend : commandEnd sampleDatabase ['f'] = sampleEnd := by
    unfold commandEnd
    rw [sampleFile_eq, call_sample, ← requoted_append, requoted_sampleEnd, sampleEnd_eq,
      List.append_assoc]
  have hkey : sampleDatabase.key = "PGPASSWORD".toList := if_pos rfl
  show (buildDumpCommand (sampleDatabase.dumpBase r) ['f']).1 ++ [] = _
  rw [List.append_nil, buildDumpCommand_eq, hstart, hend, hkey, call_sample]

theorem squeeze_append_cons {f : Char → Bool} {d : Char} (hd : f d = false) (new : List Char) :
    ∀ (pre : List Char) (within : Bool) (rest : List Char),
      squeeze f new within (pre ++ d :: rest) =
        squeeze f new within (pre ++ [d]) ++ squeeze f new false rest
  | [], within, rest => by
    have hneg : ¬f d = true := by
      rw [hd]
      exact Bool.false_ne_true
    rw [List.nil_append, List.nil_append, squeeze, if_neg hneg, squeeze, if_neg hneg]
    rfl
  | c :: pre, within, rest => by
    rw [List.cons_append, List.cons_append, squeeze, squeeze]
    split
    · rw [squeeze_append_cons hd new pre, List.append_assoc]
    · rw [squeeze_append_cons hd new pre, List.cons_append]

/-- White space in the command before the password is as it should be. -/
theorem stripChars_sample (rest : List Char) :
    stripChars (collapse (sampleStart ++ ("PGPASSWORD".toList ++ '=' :: rest))) =
      sampleStart ++ ("PGPASSWORD".toList ++
        '=' :: (squeeze isSpace [' '] false rest).rdropWhile isSpace) := by
  have htext (zs : List Char) : sampleStart ++ ("PGPASSWORD".toList ++ '=' :: zs) =
      (sampleStart ++ "PGPASSWORD".toList) ++ '=' :: zs := (List.append_assoc ..).symm
  have hlead : squeeze isSpace [' '] false (sampleStart ++ "PGPASSWORD".toList ++ ['=']) =
      sampleStart ++ "PGPASSWORD".toList ++ ['='] := by
    unfold sampleStart
    repeat rw [String.toList_ofList]
    rfl
  have hhead (zs : List Char) : (sampleStart ++ zs).dropWhile isSpace = sampleStart ++ zs := by
    unfold sampleStart
    rw [String.toList_ofList]
    rfl
  have hblank : " ".toList = [' '] := String.toList_ofList
  unfold collapse space
  rw [subChars_plus_chr, hblank, htext, squeeze_append_cons (by decide), hlead]
  show ((sampleStart ++ "PGPASSWORD".toList ++ ['='] ++ _).dropWhile isSpace).rdropWhile isSpace = _
  rw [List.append_assoc, List.append_assoc, hhead, htext, List.singleton_append,
    ← List.append_assoc, rdropWhile_append_cons (by decide)]

/-- The text behind the password in a message. -/
def sampleRest : List Char := (squeeze isSpace [' '] false sampleEnd).rdropWhile isSpace

/-- What is left of a plain password. -/
def sampleText : List Char :=
  sampleStart ++ ("PGPASSWORD".toList ++ ("=***".toList ++ ' ' :: 'p' :: sampleRest))

theorem nameless_start : nameless keys sampleStart = true := by
  unfold keys sampleStart
  repeat rw [String.toList_ofList]
  rfl

set_option maxRecDepth 4000 in
theorem nameless_rest : nameless keys (' ' :: 'p' :: sampleRest) = true := by
  unfold keys sampleRest sampleEnd
  simp only [String.toList_append]
  repeat rw [String.toList_ofList]
  decide +kernel

set_option maxRecDepth 4000 in
theorem nameless_text : nameless options sampleText = true := by
  unfold options sampleText sampleStart sampleRest sampleEnd
  simp only [String.toList_append]
  repeat rw [String.toList_ofList]
  decide +kernel

theorem getLast?_sampleStart (b : Option Char) : sampleStart.getLast?.or b = some ' ' := by
  unfold sampleStart
  rw [String.toList_ofList]
  rfl

theorem hidePasswords_sample {name rest : List Char} {e : Place}
    (h : passwordAt w (some ' ') ("PGPASSWORD".toList ++ '=' :: rest) = some (name, e)) :
    hidePasswords w (sampleStart ++ ("PGPASSWORD".toList ++ '=' :: rest)) =
      sampleStart ++ (name ++ ("=***".toList ++ hideFrom w e.before e.rest)) := by
  rw [Messages.hidePasswords_eq, hideFrom_append nameless_start, getLast?_sampleStart,
    hideFrom_of_some h]

theorem text_of_plain :
    dumpErrorText w (answer sampleDatabase ['x'] [.command ['f']]) = sampleText := by
  have hx : Plain ['x'] := plain_of_all (List.cons_ne_nil _ _) (by decide)
  have hsqueeze (zs : List Char) : squeeze isSpace [' '] false (['x'] ++ ' ' :: 'p' :: zs) =
      ['x', ' '] ++ 'p' :: squeeze isSpace [' '] false zs := rfl
  have hsplit (zs : List Char) : ['x', ' '] ++ 'p' :: zs = ['x'] ++ ' ' :: 'p' :: zs := rfl
  have hb : (some ' ').any w.isWord = false := Echoed.not_isWord_blank
  obtain ⟨e, he, hrest⟩ := Echoed.passwordAt_command (.inl rfl) hx.unbroken hb ('p' :: sampleRest)
  unfold dumpErrorText
  rw [sample_answer, hx.quote_eq, hx.requoted_eq, stripChars_sample, hsqueeze,
    rdropWhile_append_cons (by decide), ← sampleRest, hsplit, hidePasswords_sample he, hrest,
    hidePasswords_eq_self nameless_rest]
  exact hideOptions_eq_self nameless_text

/-- Of a password in quotes at least the opening quote is left behind the mask. -/
theorem text_of_quoted (hq : ¬Plain q) :
    ∃ rest, dumpErrorText w (answer sampleDatabase q [.command ['f']]) =
      sampleStart ++ ("PGPASSWORD".toList ++ ("=***".toList ++ '"' :: rest)) := by
  obtain ⟨r, hr⟩ := quote_of_not_plain hq
  have hrequoted : requoted (quote q) = ['\'', '"', '\'', '"', '\''] ++ requoted r := by
    rw [hr]
    rfl
  have hsqueeze (zs : List Char) : squeeze isSpace [' '] false
      (['\'', '"', '\'', '"'] ++ '\'' :: zs) =
        ['\'', '"', '\'', '"'] ++ '\'' :: squeeze isSpace [' '] false zs := rfl
  have htext (zs : List Char) : ['\'', '"', '\'', '"', '\''] ++ requoted r ++ zs =
      ['\'', '"', '\'', '"'] ++ '\'' :: (requoted r ++ zs) := rfl
  let rest :=
    (squeeze isSpace [' '] false (requoted r ++ ' ' :: 'p' :: sampleEnd)).rdropWhile isSpace
  have hat : passwordAt w (some ' ')
      ("PGPASSWORD".toList ++ '=' :: (['\'', '"', '\'', '"'] ++ '\'' :: rest)) =
        some ("PGPASSWORD".toList, ⟨some '\'', '"' :: '\'' :: rest⟩) :=
    Echoed.passwordAt_key (.inl rfl) Echoed.not_isWord_blank _
  unfold dumpErrorText
  rw [sample_answer, hrequoted, htext, stripChars_sample, hsqueeze,
    rdropWhile_append_cons (by decide)]
  show ∃ rest', hideOptions (hidePasswords w (sampleStart ++ ("PGPASSWORD".toList ++
    '=' :: (['\'', '"', '\'', '"'] ++ '\'' :: rest)))) = _
  rw [hidePasswords_sample hat]
  have hquote : nameless keys ['"'] = true := by
    unfold keys
    repeat rw [String.toList_ofList]
    rfl
  have hnameless : nameless options (sampleStart ++ ("PGPASSWORD".toList ++
      ("=***".toList ++ ['"']))) = true := by
    unfold options sampleStart
    repeat rw [String.toList_ofList]
    rfl
  have hhide := hideFrom_append (w := w) hquote (some '\'') ('\'' :: rest)
  rw [List.singleton_append] at hhide
  obtain ⟨rest', hrest'⟩ := hideOptions_append hnameless
    (hideFrom w (some '"') ('\'' :: rest))
  refine ⟨rest', ?_⟩
  simp only [List.append_assoc, List.singleton_append] at hrest'
  rw [hhide]
  exact hrest'

/-! ## What the operator is told -/

theorem friendlyDumpText_script {text dbType : List Char} (htype : dbType = "postgres".toList)
    (hcategory : (friendlyDumpText w text dbType 0).1 = "SCRIPT") (hne : text ≠ []) :
    (friendlyDumpText w text dbType 0).2 = String.ofList (text.take 500) := by
  have hother {category message : String} (hne : category ≠ "SCRIPT")
      (h : (category, message).1 = "SCRIPT") {P : Prop} : P := absurd h hne
  unfold friendlyDumpText at hcategory ⊢
  dsimp only at hcategory ⊢
  simp only [if_pos htype] at hcategory ⊢
  split at hcategory
  · exact hother (by decide) hcategory
  next hclient =>
  rw [if_neg hclient]
  split at hcategory
  · exact hother (by decide) hcategory
  next hdenied =>
  rw [if_neg hdenied]
  split at hcategory
  · exact hother (by decide) hcategory
  next hdatabase =>
  rw [if_neg hdatabase]
  split at hcategory
  · exact hother (by decide) hcategory
  next hconnect =>
  rw [if_neg hconnect]
  split at hcategory
  · exact hother (by decide) hcategory
  next hpermission =>
  rw [if_neg hpermission, if_neg (fun h => h.1 rfl), if_pos hne]

/-- What the message is looked through for. -/
def dumpMarkers : List String :=
  ["command not found", "pg_dump" ++ ": not found", "no such file", "access denied",
    "authentication failed", "password authentication failed", "database", "could not connect",
    "connection refused", "can't connect", "cannot connect", "permission denied"]

set_option maxRecDepth 4000 in
theorem ascii_sampleText : sampleText.all (fun c => decide (c.toNat < 128)) = true := by
  unfold sampleText sampleStart sampleRest sampleEnd
  simp only [String.toList_append]
  repeat rw [String.toList_ofList]
  decide +kernel

set_option maxRecDepth 4000 in
theorem unmarked_sampleText : (dumpMarkers.map String.toList).all
    (fun marker => !decide (marker <:+: sampleText.map Char.toLower)) = true := by
  unfold dumpMarkers sampleText sampleStart sampleRest sampleEnd
  simp only [String.toList_append, List.map_cons, List.map_nil]
  repeat rw [String.toList_ofList]
  decide +kernel

theorem contains_sampleText : ∀ marker ∈ dumpMarkers,
    contains (w.lower (String.ofList sampleText)) marker = false := by
  intro marker h
  have hlower : w.lower (String.ofList sampleText) =
      String.ofList (sampleText.map Char.toLower) := by
    rw [w.lower_ascii, asciiLower, String.toList_ofList]
    intro c hc
    rw [String.toList_ofList] at hc
    exact of_decide_eq_true (List.all_eq_true.mp ascii_sampleText c hc)
  have hmarker := List.all_eq_true.mp unmarked_sampleText _ (List.mem_map_of_mem h)
  rw [contains, hlower, String.toList_ofList]
  simpa using hmarker

theorem category_sampleText :
    (friendlyDumpText w sampleText "postgres".toList 0).1 = "SCRIPT" := by
  have hmarkers := contains_sampleText (w := w)
  unfold friendlyDumpText
  dsimp only
  simp only [if_true]
  generalize w.lower (String.ofList sampleText) = low at hmarkers ⊢
  simp only [dumpMarkers, List.forall_mem_cons] at hmarkers
  obtain ⟨h₁, h₂, h₃, h₄, h₅, h₆, h₇, h₈, h₉, h₁₀, h₁₁, h₁₂, -⟩ := hmarkers
  simp only [containsAny, List.any_cons, List.any_nil, h₁, h₂, h₃, h₄, h₅, h₆, h₇, h₈, h₉, h₁₀, h₁₁,
    h₁₂, Bool.or_false, Bool.false_and, Bool.false_eq_true, if_false, ne_eq, not_true_eq_false,
    false_and]
  split <;> rfl

theorem sampleText_ne (rest : List Char) :
    sampleStart ++ ("PGPASSWORD".toList ++ ("=***".toList ++ rest)) ≠ [] := by
  unfold sampleStart
  rw [String.toList_ofList]
  exact List.cons_ne_nil _ _

/-- A password in quotes is told apart from a plain one. -/
theorem told_ne (hq : ¬Plain q) :
    told w (answer sampleDatabase ['x'] [.command ['f']]) "postgres".toList 0 ≠
      told w (answer sampleDatabase q [.command ['f']]) "postgres".toList 0 := by
  intro heq
  obtain ⟨rest, hrest⟩ := text_of_quoted (w := w) hq
  obtain ⟨hcategory, hmessage, -⟩ := Told.mk.inj heq
  unfold friendlyDumpError at hcategory hmessage
  rw [text_of_plain, hrest] at hcategory hmessage
  have hx : (friendlyDumpText w sampleText "postgres".toList 0).2 =
      String.ofList (sampleText.take 500) :=
    friendlyDumpText_script rfl category_sampleText (sampleText_ne _)
  rw [hx, friendlyDumpText_script rfl (hcategory.symm.trans category_sampleText)
    (sampleText_ne _)] at hmessage
  have hlists := String.ofList_inj.mp hmessage
  have hlength : (sampleStart ++ ("PGPASSWORD".toList ++ "=***".toList)).length = 39 := by
    unfold sampleStart
    repeat rw [String.toList_ofList]
    rfl
  have hshape (zs : List Char) :
      (sampleStart ++ ("PGPASSWORD".toList ++ ("=***".toList ++ zs))).take 500 =
        (sampleStart ++ ("PGPASSWORD".toList ++ "=***".toList)) ++ zs.take 461 := by
    have hsplit : sampleStart ++ ("PGPASSWORD".toList ++ ("=***".toList ++ zs)) =
        (sampleStart ++ ("PGPASSWORD".toList ++ "=***".toList)) ++ zs := by
      simp only [List.append_assoc]
    have h500 : 500 = (sampleStart ++ ("PGPASSWORD".toList ++ "=***".toList)).length + 461 := by
      rw [hlength]
    rw [hsplit, h500, List.take_length_add_append]
  rw [sampleText, hshape, hshape] at hlists
  have htail := List.append_cancel_left hlists
  rw [List.take_succ_cons, List.take_succ_cons] at htail
  exact absurd (List.cons.inj htail).1 (by decide)

theorem apart_sample (p : List Char) : Apart w sampleDatabase p [.command ['f']] := by
  intro before behind hsplit
  cases before with
  | nil => cases hsplit
  | cons piece before => cases before <;> cases hsplit

/-- **If one of two passwords is plain, then no answer makes a difference between them exactly if
both are plain.** -/
theorem hidden_iff (h : Plain p ∨ Plain q) : Hidden w p q ↔ Plain p ∧ Plain q := by
  have hx : Plain ['x'] := plain_of_all (List.cons_ne_nil _ _) (by decide)
  constructor
  · intro hhidden
    have hsame := hhidden sampleDatabase [.command ['f']] 0 (apart_sample p)
    by_cases hp : Plain p
    · refine ⟨hp, Classical.byContradiction fun hq => told_ne (w := w) hq ?_⟩
      exact (hidden_of_plain hx hp _ _ 0 (apart_sample _)).trans hsame
    · have hq := h.resolve_left hp
      refine absurd ?_ (told_ne (w := w) hp)
      exact (hidden_of_plain hx hq _ _ 0 (apart_sample _)).trans hsame.symm
  · rintro ⟨hp, hq⟩
    exact hidden_of_plain hp hq

theorem plain_passwords_hidden :
    Hidden WordTables.ascii ['x'] "s3cret".toList ↔ Plain ['x'] ∧ Plain "s3cret".toList :=
  hidden_iff (.inl (plain_of_all (List.cons_ne_nil _ _) (by decide)))

theorem quoted_password_shown : ¬∀ (w : WordTables) (p q : List Char), Hidden w p q := by
  intro h
  have hquoted : ¬Plain ['a', ' ', 'b'] := fun hp => absurd (hp.2 ' ' (by simp)) (by decide)
  exact told_ne hquoted (h WordTables.ascii _ _ sampleDatabase [.command ['f']] 0 (apart_sample _))

end BackupCenter.Zabbix
