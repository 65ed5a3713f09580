import BackupCenter.Bastion.Commands
import BackupCenter.Lib.Shell.Quotation
import BackupCenter.Lib.Shell.Words

/-!
# Which command lines are literal

For every line that the shell of the bastion may execute for a device, the exact condition on the
address and the user name under which the shell reads the command that was meant. The lines that are
typed have no quoting at all; the probe by `nc` quotes the address for one level of reading only.
-/
namespace BackupCenter.Bastion

open BackupCenter.Lib
open BackupCenter.Lib.Shell

/-! ## Numbers and safe hosts -/

theorem intText_unquotable (n : Int) : intText n ≠ [] ∧ ∀ c ∈ intText n, isUnquotable c = true := by
  have hdigits (m : Nat) : ∀ c ∈ m.repr.toList, isUnquotable c = true := by
    intro c hc
    rw [Nat.toList_repr] at hc
    have hdigit := Nat.isDigit_of_mem_toDigits (by decide) (by decide) hc
    simp [isUnquotable, Char.isAlphanum, hdigit]
  cases n with
  | ofNat m =>
    have htext : intText (.ofNat m) = m.repr.toList := rfl
    rw [htext]
    exact ⟨fun hnil => Nat.repr_ne_empty (String.toList_eq_nil_iff.mp hnil), hdigits m⟩
  | negSucc m =>
    have htext : intText (.negSucc m) = '-' :: (m + 1).repr.toList := by
      show ("-" ++ (m + 1).repr).toList = _
      rw [String.toList_append]
      rfl
    rw [htext]
    exact ⟨List.cons_ne_nil _ _, List.forall_mem_cons.mpr ⟨by decide, hdigits _⟩⟩

/-- The condition under which a line is literal for a device. -/
def Harmless (d : Device) : Command → Prop
  | .nc => Kept d.ipAddress ∧ (∀ c ∈ d.ipAddress, c ≠ '\'') ∧ IsOperand d.ipAddress
  | .bashTcp => True
  | .telnetProbe => IsOperand d.ipAddress
  | .ssh | .sshLegacy => IsWord (userAt d) ∧ IsOperand (userAt d) ∧ Typable (userAt d)
  | .telnet => IsWord d.ipAddress ∧ IsOperand d.ipAddress ∧ Typable d.ipAddress

/-! ## The probes -/

variable {d : Device} {t : Int}

theorem isWord_int (n : Int) : IsWord (intText n) :=
  isWord_of_unquotable (intText_unquotable n).1 (intText_unquotable n).2

theorem calm_of_unquotable {cs : List Char} (h : ∀ c ∈ cs, isUnquotable c = true) :
    ∀ c ∈ cs, isCalm c = true :=
  fun c hc => (isPlain_of_unquotable (h c hc)).2.1

theorem calm_int (n : Int) : ∀ c ∈ intText n, isCalm c = true :=
  calm_of_unquotable (intText_unquotable n).2

/-- Words, each with a blank after it. -/
def spaced (words : List (List Char)) : List Char := words.flatMap fun w => w ++ [' ']

theorem exec_spaced : ∀ {words : List (List Char)} {A : List Token},
    (∀ w ∈ words, IsWord w) →
    exec Reader.step { tokens := A } (spaced words) = some { tokens := A ++ words.map .word }
  | [], A, _ => by simp [spaced, exec]
  | w :: words, A, h => by
    have hw : exec Reader.step { tokens := A } (w ++ [' ']) =
        some { tokens := A ++ [.word w] } := by
      rw [exec_append (exec_word (h w (List.mem_cons_self ..))), exec_blank]
      rfl
    have hrest := exec_spaced (A := A ++ [.word w]) fun v hv => h v (List.mem_cons_of_mem _ hv)
    rw [spaced, List.flatMap_cons, exec_append hw, ← spaced, hrest, List.map_cons,
      List.append_assoc, List.singleton_append]

theorem tokensOf_redirections : tokensOf ">/dev/null 2>&1".toList = some quiet := by
  simp only [quiet, word]
  repeat rw [String.toList_ofList]
  rfl

/-- A word and the redirections after it. -/
theorem tokensOf_quiet {arg : List Char} (h : IsWord arg) :
    tokensOf (arg ++ " >/dev/null 2>&1".toList) = some (.word arg :: quiet) := by
  have htext : " >/dev/null 2>&1".toList = ' ' :: ">/dev/null 2>&1".toList := by
    rw [String.toList_ofList, String.toList_ofList]
  rw [htext, tokensOf, tokensFrom_word h, tokensFrom_end tokensOf_redirections]
  rfl

theorem forall_of_all {cs : List Char} {P : Char → Prop} [DecidablePred P]
    (h : cs.all (fun c => decide (P c)) = true) : ∀ c ∈ cs, P c :=
  fun c hc => of_decide_eq_true (List.all_eq_true.mp h c hc)

theorem calm_of_all {cs : List Char} (h : cs.all isCalm = true) : ∀ c ∈ cs, isCalm c = true :=
  List.all_eq_true.mp h

/-- A letter, a digit or one of the signs that `shlex.quote` leaves as they are. -/
def isSafeChar (c : Char) : Bool :=
  c.isAlphanum || ['_', '@', '%', '+', '=', ':', ',', '.', '/', '-'].contains c

theorem isSafeChar_eq (c : Char) : isSafeChar c = isUnquotable c := by
  have hsigns : "_@%+=:,./-".toList = ['_', '@', '%', '+', '=', ':', ',', '.', '/', '-'] := by
    rw [String.toList_ofList]
  rw [isSafeChar, isUnquotable, hsigns]

theorem isWord_of_safe {cs : List Char} (hne : cs ≠ []) (h : cs.all isSafeChar = true) :
    IsWord cs :=
  isWord_of_unquotable hne fun c hc => (isSafeChar_eq c).symm.trans (List.all_eq_true.mp h c hc)

/-- `sh -lc` and the double quotes of its script -/
theorem tokensOf_script (body : List Char) : tokensOf ("sh -lc \"".toList ++ body) =
    (exec Reader.step
      { mode := .double, word := some [], bare := false, tokens := [word "sh", word "-lc"] }
      body).bind Reader.finish := by
  have hstart : exec Reader.step {} "sh -lc \"".toList = some
      { mode := .double, word := some [], bare := false, tokens := [word "sh", word "-lc"] } := by
    simp only [word]
    repeat rw [String.toList_ofList]
    rfl
  rw [tokensOf, tokensFrom, exec_append hstart]

theorem exec_from {A B : List Token} {cs : List Char}
    (h : exec Reader.step {} cs = some { tokens := B }) :
    exec Reader.step { tokens := A } cs = some { tokens := A ++ B } := by
  have hafter := exec_after A cs {}
  rw [h] at hafter
  simpa [Reader.after] using hafter

/-- A program is looked for, `command -v … >/dev/null 2>&1 && `. -/
def lookup (program : List Char) : List Char :=
  "command -v ".toList ++ program ++ " >/dev/null 2>&1 && ".toList

theorem lookup_eq (program : List Char) :
    lookup program = "command -v ".toList ++ program ++ " >/dev/null 2>&1 && ".toList :=
  rfl

theorem exec_lookup {program : String} {cs : List Char} (hprogram : program.toList = cs)
    (h : IsWord cs) :
    exec Reader.step {} (lookup cs) = some { tokens := available program } := by
  have hstart : exec Reader.step {} "command -v ".toList =
      some { tokens := [word "command", word "-v"] } := by
    simp only [word]
    repeat rw [String.toList_ofList]
    rfl
  have hquiet : exec Reader.step {} ">/dev/null 2>&1 && ".toList =
      some { tokens := quiet ++ [.op ['&', '&']] } := by
    simp only [quiet, word]
    repeat rw [String.toList_ofList]
    rfl
  have hblank : " >/dev/null 2>&1 && ".toList = ' ' :: ">/dev/null 2>&1 && ".toList := by
    rw [String.toList_ofList, String.toList_ofList]
  have htext : lookup cs =
      ("command -v ".toList ++ cs ++ [' ']) ++ ">/dev/null 2>&1 && ".toList := by
    rw [List.append_assoc _ [' '], List.singleton_append, ← hblank]
    rfl
  have hword : word program = .word cs := congrArg Token.word hprogram
  rw [htext, exec_append (exec_append_word hstart h), exec_from hquiet, available, hword,
    List.append_assoc, List.append_assoc]
  rfl

theorem calm_ofList {cs : List Char} (h : cs.all isCalm = true) :
    ∀ c ∈ (String.ofList cs).toList, isCalm c = true := by
  rw [String.toList_ofList]
  exact calm_of_all h

theorem calm_lookup {program : List Char} (h : ∀ c ∈ program, isCalm c = true) :
    ∀ c ∈ lookup program, isCalm c = true :=
  List.forall_mem_append.mpr
    ⟨List.forall_mem_append.mpr ⟨calm_ofList rfl, h⟩, calm_ofList rfl⟩

theorem nc_literal_iff (timeout port : Int) (host : List Char) :
    (∃ text, tokensOf ("sh -lc \"command -v nc >/dev/null 2>&1 && nc -z -w ".toList ++
        intText timeout ++ ' ' :: quote host ++ ' ' :: intText port ++
        " >/dev/null 2>&1\"".toList) = some (script text) ∧
      tokensOf text = some (available "nc" ++
        [word "nc", word "-z", word "-w", .word (intText timeout), .word host,
          .word (intText port)] ++ quiet)) ↔
      Kept host ∧ ∀ c ∈ host, c ≠ '\'' := by
  let start := lookup ['n', 'c'] ++ "nc -z -w ".toList
  have hstart : exec Reader.step {} start =
      some { tokens := available "nc" ++ [word "nc", word "-z", word "-w"] } := by
    have hflags : exec Reader.step {} "nc -z -w ".toList =
        some { tokens := [word "nc", word "-z", word "-w"] } := by
      simp only [word]
      repeat rw [String.toList_ofList]
      rfl
    rw [exec_append (exec_lookup String.toList_ofList (isWord_of_safe (List.cons_ne_nil _ _) rfl)),
      exec_from hflags]
  have hcalm : ∀ c ∈ start ++ intText timeout ++ [' '], isCalm c = true :=
    List.forall_mem_append.mpr ⟨List.forall_mem_append.mpr
      ⟨List.forall_mem_append.mpr ⟨calm_lookup (calm_of_all rfl), calm_ofList rfl⟩,
        calm_int timeout⟩, calm_of_all rfl⟩
  have hquiet : weight isMark quiet = 0 := by
    simp only [quiet, word]
    repeat rw [String.toList_ofList]
    rfl
  have hA : weight isMark (available "nc" ++ [word "nc", word "-z", word "-w"] ++
      [.word (intText timeout)]) = 0 := by
    rw [weight_append, weight_word, countP_calm (calm_int timeout), weight_append, available,
      weight_append, weight_append, hquiet]
    simp only [word]
    repeat rw [String.toList_ofList]
    rfl
  have hpost : ∀ c ∈ intText port ++ " >/dev/null 2>&1".toList, isCalm c = true :=
    List.forall_mem_append.mpr ⟨calm_int port, calm_ofList rfl⟩
  have ht : weight isMark (.word (intText port) :: quiet) = 0 := by
    rw [weight_word, countP_calm (calm_int port), hquiet]
  have hiff := nested_argument_iff (X := [word "sh", word "-lc"]) (a := host)
    (exec_append_word hstart (isWord_int timeout)) hcalm hA (tokensOf_quiet (isWord_int port))
    hpost ht
  have hline : "sh -lc \"command -v nc >/dev/null 2>&1 && nc -z -w ".toList ++
        intText timeout ++ ' ' :: quote host ++ ' ' :: intText port ++
        " >/dev/null 2>&1\"".toList =
      "sh -lc \"".toList ++ (start ++ intText timeout ++ [' '] ++ quote host ++ ' ' ::
        (intText port ++ " >/dev/null 2>&1".toList) ++ ['"']) := by
    simp only [start, lookup_eq]
    repeat rw [String.toList_ofList]
    simp only [List.append_assoc, List.cons_append, List.nil_append]
  rw [hline, tokensOf_script]
  exact hiff

/-- What double quotes keep, whatever is read in it. -/
def isKept (c : Char) : Bool := isCalm c || c = '\''

theorem tokensOf_kept_script {body : List Char} (h : ∀ c ∈ body, isKept c = true) :
    tokensOf ("sh -lc \"".toList ++ (body ++ ['"'])) = some (script body) := by
  have hbody : ∀ c ∈ body, c ≠ '"' ∧ c ≠ '\\' ∧ c ≠ '$' ∧ c ≠ '`' := by
    intro c hc
    rcases Bool.or_eq_true_iff.mp (h c hc) with hcalm | hapostrophe
    · exact (isCalm_iff.mp hcalm).2
    · rw [of_decide_eq_true hapostrophe]
      decide
  obtain ⟨hkept, hlast⟩ := kept_of_forall hbody
  rw [tokensOf_script, exec_append (exec_double hkept hlast)]
  rfl

/-- The script of a probe with a time limit: the program that runs under `timeout`. -/
theorem tokensOf_limited {A : List Token} {start shell inner : List Char} (timeout : Int)
    (hstart : exec Reader.step {} start = some { tokens := A }) (hshell : IsWord shell)
    (rest : List Char) :
    tokensOf (start ++ (intText timeout ++ ' ' :: (shell ++ ' ' :: ("-lc".toList ++ ' ' ::
      ('\'' :: (inner ++ '\'' :: rest)))))) =
    tokensFrom (A ++ [.word (intText timeout), .word shell, word "-lc"])
      ('\'' :: (inner ++ '\'' :: rest)) := by
  have hflag : IsWord "-lc".toList := isWord_of_unquotable (by decide) (forall_of_all (by decide))
  rw [tokensOf, tokensFrom_append hstart, tokensFrom_word (isWord_int timeout),
    tokensFrom_word hshell, tokensFrom_word hflag]
  simp [word]

/-- What is looked for before a probe with a time limit: its program and `timeout`. -/
theorem exec_limited {program : String} {cs : List Char} (hprogram : program.toList = cs)
    (h : IsWord cs) :
    exec Reader.step {} (lookup cs ++ (lookup ['t', 'i', 'm', 'e', 'o', 'u', 't'] ++
        "timeout ".toList)) =
      some { tokens := available program ++ available "timeout" ++ [word "timeout"] } := by
  have htimeout : exec Reader.step {} "timeout ".toList = some { tokens := [word "timeout"] } := by
    simp only [word]
    repeat rw [String.toList_ofList]
    rfl
  rw [exec_append (exec_lookup hprogram h),
    exec_append (exec_from (exec_lookup (String.toList_ofList : "timeout".toList = _)
      (isWord_of_safe (List.cons_ne_nil _ _) rfl))), exec_from htimeout]

theorem isKept_of_calm {cs : List Char} (h : ∀ c ∈ cs, isCalm c = true) :
    ∀ c ∈ cs, isKept c = true :=
  fun c hc => Bool.or_eq_true_iff.mpr (.inl (h c hc))

theorem isKept_limited {start shell inner rest : List Char} (timeout : Int)
    (hstart : ∀ c ∈ start, isCalm c = true) (hshell : ∀ c ∈ shell, isCalm c = true)
    (hinner : ∀ c ∈ inner, isCalm c = true) (hrest : ∀ c ∈ rest, isCalm c = true) :
    ∀ c ∈ start ++ (intText timeout ++ ' ' :: (shell ++ ' ' :: ("-lc".toList ++ ' ' ::
      ('\'' :: (inner ++ '\'' :: rest))))), isKept c = true := by
  simp only [List.forall_mem_append, List.forall_mem_cons]
  exact ⟨isKept_of_calm hstart, isKept_of_calm (calm_int timeout), rfl, isKept_of_calm hshell, rfl,
    isKept_of_calm (calm_ofList rfl), rfl, rfl, isKept_of_calm hinner, rfl, isKept_of_calm hrest⟩

theorem calm_limited {program : List Char} (h : ∀ c ∈ program, isCalm c = true) :
    ∀ c ∈ lookup program ++ (lookup ['t', 'i', 'm', 'e', 'o', 'u', 't'] ++ "timeout ".toList),
      isCalm c = true :=
  List.forall_mem_append.mpr ⟨calm_lookup h, List.forall_mem_append.mpr
    ⟨calm_lookup (calm_of_all rfl), calm_ofList rfl⟩⟩

theorem bash_literal {host : List Char} (hhost : ∀ c ∈ host, isUnquotable c = true)
    (timeout port : Int) : ∃ text inner,
    tokensOf (("sh -lc \"command -v bash >/dev/null 2>&1 && " ++
        "command -v timeout >/dev/null 2>&1 && timeout ").toList ++ intText timeout ++
        " bash -lc '</dev/tcp/".toList ++ host ++ '/' :: intText port ++
        "' >/dev/null 2>&1\"".toList) = some (script text) ∧
      tokensOf text = some (available "bash" ++ available "timeout" ++
        [word "timeout", .word (intText timeout), word "bash", word "-lc", .word inner] ++ quiet) ∧
      tokensOf inner =
        some [.op ['<'], .word ("/dev/tcp/".toList ++ host ++ '/' :: intText port)] := by
  let inner := "</dev/tcp/".toList ++ (host ++ '/' :: intText port)
  let start := lookup ['b', 'a', 's', 'h'] ++ (lookup ['t', 'i', 'm', 'e', 'o', 'u', 't'] ++
    "timeout ".toList)
  let body := start ++ (intText timeout ++ ' ' :: (['b', 'a', 's', 'h'] ++ ' ' ::
    ("-lc".toList ++ ' ' :: ('\'' :: (inner ++ '\'' :: ' ' :: ">/dev/null 2>&1".toList)))))
  have hbash : "bash".toList = ['b', 'a', 's', 'h'] := String.toList_ofList
  have hword : IsWord ['b', 'a', 's', 'h'] := isWord_of_safe (List.cons_ne_nil _ _) rfl
  have hcalm : ∀ c ∈ inner, isCalm c = true :=
    List.forall_mem_append.mpr ⟨calm_ofList rfl, List.forall_mem_append.mpr
      ⟨calm_of_unquotable hhost, List.forall_mem_cons.mpr ⟨rfl, calm_int port⟩⟩⟩
  have hbody : ∀ c ∈ body, isKept c = true :=
    isKept_limited timeout (calm_limited (calm_of_all rfl)) (calm_of_all rfl) hcalm
      (List.forall_mem_cons.mpr ⟨rfl, calm_ofList rfl⟩)
  refine ⟨body, inner, ?_, ?_, ?_⟩
  · rw [← tokensOf_kept_script hbody]
    refine congrArg tokensOf ?_
    simp only [body, start, inner, lookup_eq, String.toList_append]
    repeat rw [String.toList_ofList]
    simp only [List.append_assoc, List.cons_append, List.nil_append]
  · rw [tokensOf_limited timeout (exec_limited hbash hword) hword,
      tokensFrom_quoted fun c hc => (isCalm_iff.mp (hcalm c hc)).1,
      tokensFrom_end tokensOf_redirections, ← hbash]
    rfl
  · have hplain : ∀ c ∈ host ++ '/' :: intText port, isPlain c = true :=
      List.forall_mem_append.mpr ⟨fun c hc => (isPlain_of_unquotable (hhost c hc)).1,
        List.forall_mem_cons.mpr ⟨rfl, (isWord_int port).2.1⟩⟩
    have hfrom : exec Reader.step {} "</dev/tcp/".toList =
        some { word := some "/dev/tcp/".toList, tokens := [.op ['<']] } := by
      repeat rw [String.toList_ofList]
      rfl
    rw [tokensOf, tokensFrom, exec_append hfrom, exec_plain hplain, List.append_assoc]
    rfl

theorem telnetProbe_literal {host : List Char} (hhost : ∀ c ∈ host, isUnquotable c = true)
    (hne : host ≠ []) (timeout port : Int) : ∃ text inner,
    tokensOf (("sh -lc \"command -v telnet >/dev/null 2>&1 && " ++
        "command -v timeout >/dev/null 2>&1 && timeout ").toList ++ intText timeout ++
        " sh -lc 'echo quit | telnet ".toList ++ host ++ ' ' :: intText port ++
        " >/dev/null 2>&1'\"".toList) = some (script text) ∧
      tokensOf text = some (available "telnet" ++ available "timeout" ++
        [word "timeout", .word (intText timeout), word "sh", word "-lc", .word inner]) ∧
      tokensOf inner = some ([word "echo", word "quit", .op ['|'], word "telnet", .word host,
        .word (intText port)] ++ quiet) := by
  let inner := "echo quit | telnet ".toList ++
    (host ++ ' ' :: (intText port ++ " >/dev/null 2>&1".toList))
  let start := lookup ['t', 'e', 'l', 'n', 'e', 't'] ++
    (lookup ['t', 'i', 'm', 'e', 'o', 'u', 't'] ++ "timeout ".toList)
  let body := start ++ (intText timeout ++ ' ' :: (['s', 'h'] ++ ' ' :: ("-lc".toList ++ ' ' ::
    ('\'' :: (inner ++ '\'' :: [])))))
  have htelnet : "telnet".toList = ['t', 'e', 'l', 'n', 'e', 't'] := String.toList_ofList
  have hsh : "sh".toList = ['s', 'h'] := String.toList_ofList
  have hcalm : ∀ c ∈ inner, isCalm c = true :=
    List.forall_mem_append.mpr ⟨calm_ofList rfl, List.forall_mem_append.mpr
      ⟨calm_of_unquotable hhost, List.forall_mem_cons.mpr ⟨rfl, List.forall_mem_append.mpr
        ⟨calm_int port, calm_ofList rfl⟩⟩⟩⟩
  have hbody : ∀ c ∈ body, isKept c = true :=
    isKept_limited timeout (calm_limited (calm_of_all rfl)) (calm_of_all rfl) hcalm
      (List.forall_mem_nil _)
  refine ⟨body, inner, ?_, ?_, ?_⟩
  · rw [← tokensOf_kept_script hbody]
    refine congrArg tokensOf ?_
    simp only [body, start, inner, lookup_eq, String.toList_append]
    repeat rw [String.toList_ofList]
    simp only [List.append_assoc, List.cons_append, List.nil_append]
  · rw [tokensOf_limited timeout
        (exec_limited htelnet (isWord_of_safe (List.cons_ne_nil _ _) rfl))
        (isWord_of_safe (List.cons_ne_nil _ _) rfl),
      tokensFrom_quoted_end fun c hc => (isCalm_iff.mp (hcalm c hc)).1, ← hsh]
    rfl
  · have hfrom : exec Reader.step {} "echo quit | telnet ".toList =
        some { tokens := [word "echo", word "quit", .op ['|'], word "telnet"] } := by
      simp only [word]
      repeat rw [String.toList_ofList]
      rfl
    rw [tokensOf, tokensFrom_append hfrom, tokensFrom_word (isWord_of_unquotable hne hhost),
      tokensFrom_end (tokensOf_quiet (isWord_int port))]
    rfl

/-! ## The lines that are typed -/

/-- A text in a typed line after fixed words. -/
theorem typed_iff {A t : List Token} {pre a rest : List Char}
    (hpre : exec Reader.step {} pre = some { tokens := A })
    (hA : ∀ w, Token.word w ∈ A → ∀ c ∈ w, isPlain c = true) (hrest : tokensOf rest = some t)
    (hcalm : ∀ c ∈ rest, isQuoting c = false ∧ c ≠ '\n') (htyped : Typable pre ∧ Typable rest) :
    (tokensOf (pre ++ (a ++ ' ' :: rest)) = some (A ++ .word a :: t) ∧
        IsOperand a ∧ Typable (pre ++ (a ++ ' ' :: rest))) ↔
      IsWord a ∧ IsOperand a ∧ Typable a := by
  have hline : Typable (pre ++ (a ++ ' ' :: rest)) ↔ Typable a := by
    simp only [Typable, List.forall_mem_append, List.forall_mem_cons]
    exact ⟨fun h => h.2.1, fun h => ⟨htyped.1, h, by decide, htyped.2⟩⟩
  rw [tokensOf, tokensFrom_append hpre, List.nil_append, hline,
    tokensFrom_word_iff hA hrest hcalm]

theorem typable_of_unquotable {cs : List Char} (h : ∀ c ∈ cs, isUnquotable c = true) :
    Typable cs := by
  intro c hc hcontrol
  have hchar := h c hc
  rw [isUnquotable, Bool.or_eq_true, isAlphanum_iff] at hchar
  rcases hchar with hrange | hmem
  · omega
  · have hall : ∀ d ∈ "_@%+=:,./-".toList, ¬(d.toNat < 32 ∨ d.toNat = 127) :=
      forall_of_all (by decide)
    exact hall c (List.contains_iff_mem.mp hmem) hcontrol

theorem typable_int (n : Int) : Typable (intText n) :=
  typable_of_unquotable (intText_unquotable n).2

theorem rest_int (n : Int) : ∀ c ∈ intText n, isQuoting c = false ∧ c ≠ '\n' := by
  intro c hc
  have hplain := (isWord_int n).2.1 c hc
  refine ⟨(isPlain_iff.mp hplain).1, ?_⟩
  rintro rfl
  exact absurd hplain (by decide)

theorem mem_spaced {words : List (List Char)} {c : Char} (h : c ∈ spaced words) :
    (∃ w ∈ words, c ∈ w) ∨ c = ' ' := by
  obtain ⟨w, hw, hc⟩ := List.mem_flatMap.mp h
  rcases List.mem_append.mp hc with hc | hc
  · exact .inl ⟨w, hw, hc⟩
  · exact .inr (List.mem_singleton.mp hc)

/-- The text of a line with `ssh` up to the user at the address. -/
def sshStart (strict : Bool) (options : String) : List Char :=
  ("ssh " ++ sshHostKeyOptions strict ++ " -o ConnectTimeout=25 " ++ options).toList

theorem sshLine_literal_iff {options : String} {words : List String} {texts : List (List Char)}
    (strict : Bool) (hstart : sshStart strict options = spaced texts)
    (hwords : sshWords strict words = texts.map .word)
    (hsafe : ∀ w ∈ texts, w ≠ [] ∧ ∀ c ∈ w, isUnquotable c = true) :
    ReadsSsh strict words d (sshLine strict options d) ↔
      IsWord (userAt d) ∧ IsOperand (userAt d) ∧ Typable (userAt d) := by
  have hline : sshLine strict options d =
      spaced texts ++ (userAt d ++ ' ' :: ("-p ".toList ++ intText d.port)) := by
    have hport : " -p ".toList = ' ' :: "-p ".toList := by decide
    rw [← hstart]
    simp only [sshLine, sshStart, userAt, hport, List.append_assoc, List.cons_append]
  have hpre : exec Reader.step {} (spaced texts) = some { tokens := sshWords strict words } := by
    rw [exec_spaced fun w hw => isWord_of_unquotable (hsafe w hw).1 (hsafe w hw).2, hwords]
    rfl
  have hrest : tokensOf ("-p ".toList ++ intText d.port) =
      some [word "-p", .word (intText d.port)] := by
    have hflag : exec Reader.step {} "-p ".toList = some { tokens := [word "-p"] } := by decide
    rw [tokensOf, tokensFrom_append hflag, tokensFrom_end (tokensOf_word (isWord_int d.port))]
    rfl
  have hcalm : ∀ c ∈ "-p ".toList ++ intText d.port, isQuoting c = false ∧ c ≠ '\n' :=
    List.forall_mem_append.mpr ⟨forall_of_all (by decide), rest_int d.port⟩
  have htypedRest : Typable ("-p ".toList ++ intText d.port) :=
    List.forall_mem_append.mpr ⟨forall_of_all (by decide), typable_int d.port⟩
  have htyped : Typable (spaced texts) := by
    intro c hc
    rcases mem_spaced hc with ⟨w, hw, hc⟩ | rfl
    · exact typable_of_unquotable (hsafe w hw).2 c hc
    · decide
  have hplain : ∀ w, Token.word w ∈ sshWords strict words → ∀ c ∈ w, isPlain c = true := by
    intro w hw c hc
    rw [hwords] at hw
    obtain ⟨v, hv, heq⟩ := List.mem_map.mp hw
    obtain rfl := Token.word.inj heq
    exact (isPlain_of_unquotable ((hsafe _ hv).2 c hc)).1
  rw [ReadsSsh, hline]
  exact typed_iff hpre hplain hrest hcalm ⟨htyped, htypedRest⟩

/-- The words of a line with `ssh`, as `sshWords` has them. -/
def sshTexts (strict : Bool) (options : List String) : List (List Char) :=
  "ssh".toList :: ((if strict then ["StrictHostKeyChecking=yes"]
    else ["StrictHostKeyChecking=no", "UserKnownHostsFile=/dev/null"]) ++
      "ConnectTimeout=25" :: options).flatMap fun o => ["-o".toList, o.toList]

theorem sshWords_eq (strict : Bool) (options : List String) :
    sshWords strict options = (sshTexts strict options).map .word := by
  simp [sshWords, sshTexts, List.map_flatMap, word]

/-- Words that `shlex.quote` leaves as they are. -/
def areSafe (words : List (List Char)) : Bool :=
  words.all fun w => !w.isEmpty && w.all isSafeChar

theorem safe_of_areSafe {words : List (List Char)} (h : areSafe words = true) :
    ∀ w ∈ words, w ≠ [] ∧ ∀ c ∈ w, isUnquotable c = true := by
  intro w hw
  have hsafe := List.all_eq_true.mp h w hw
  rw [Bool.and_eq_true, List.all_eq_true] at hsafe
  refine ⟨fun hnil => by simp [hnil] at hsafe, fun c hc => ?_⟩
  rw [← isSafeChar_eq]
  exact hsafe.2 c hc

theorem sshCommand_literal_iff (strict : Bool) :
    ReadsSsh strict sshOptions d (sshCommand strict d) ↔
      IsWord (userAt d) ∧ IsOperand (userAt d) ∧ Typable (userAt d) := by
  refine sshLine_literal_iff strict ?_ (sshWords_eq strict sshOptions) (safe_of_areSafe ?_)
  · cases strict <;>
      simp only [sshStart, sshHostKeyOptions, sshTexts, sshOptions, spaced, String.toList_append,
        List.cons_append, List.nil_append, List.append_nil, List.flatMap_cons, List.flatMap_nil,
        if_true, if_false, Bool.false_eq_true, List.append_assoc]
    all_goals
      repeat rw [String.toList_ofList]
      rfl
  · cases strict <;>
      simp only [sshTexts, sshOptions, List.cons_append, List.nil_append,
        List.flatMap_cons, List.flatMap_nil, if_true, if_false, Bool.false_eq_true]
    all_goals
      repeat rw [String.toList_ofList]
      rfl

theorem sshLegacyCommand_literal_iff (strict : Bool) :
    ReadsSsh strict sshLegacyOptions d (sshLegacyCommand strict d) ↔
      IsWord (userAt d) ∧ IsOperand (userAt d) ∧ Typable (userAt d) := by
  refine sshLine_literal_iff strict ?_ (sshWords_eq strict sshLegacyOptions) (safe_of_areSafe ?_)
  · cases strict <;>
      simp only [sshStart, sshHostKeyOptions, sshTexts, sshLegacyOptions, spaced,
        String.toList_append, List.cons_append, List.nil_append, List.append_nil,
        List.flatMap_cons, List.flatMap_nil, if_true, if_false, Bool.false_eq_true,
        List.append_assoc]
    all_goals
      repeat rw [String.toList_ofList]
      simp only [List.cons_append, List.nil_append]
  · cases strict <;>
      simp only [sshTexts, sshLegacyOptions, String.toList_append, List.cons_append,
        List.nil_append, List.flatMap_cons, List.flatMap_nil, if_true, if_false,
        Bool.false_eq_true]
    all_goals
      repeat rw [String.toList_ofList]
      rfl

theorem telnetCommand_literal_iff :
    (tokensOf (telnetCommand d) =
        some [word "telnet", .word d.ipAddress, .word (intText d.port)] ∧
      IsOperand d.ipAddress ∧ Typable (telnetCommand d)) ↔
      IsWord d.ipAddress ∧ IsOperand d.ipAddress ∧ Typable d.ipAddress := by
  have hline : telnetCommand d = "telnet ".toList ++ (d.ipAddress ++ ' ' :: intText d.port) :=
    List.append_assoc ..
  have hpre : exec Reader.step {} "telnet ".toList = some { tokens := [word "telnet"] } := by
    simp only [word]
    repeat rw [String.toList_ofList]
    rfl
  have hplain := Reader.PlainWords.exec (r := {}) ⟨nofun, nofun⟩ (.inl rfl)
    (forall_of_all (by decide)) hpre
  have hiff := typed_iff (a := d.ipAddress) hpre hplain.2 (tokensOf_word (isWord_int d.port))
    (rest_int d.port) ⟨forall_of_all (by decide), typable_int d.port⟩
  rw [hline]
  exact hiff

theorem unquotable_of_safe {host : List Char} (h : isSafeShellHost (stripChars host) = true) :
    ∀ c ∈ stripChars host, isUnquotable c = true := by
  intro c hc
  simp only [isSafeShellHost, stripChars_idem, Bool.and_eq_true, List.all_eq_true] at h
  have hchar := h.2 c hc
  simp only [isUnquotable, Bool.or_eq_true] at hchar ⊢
  refine hchar.imp_right fun hmem => ?_
  have hspecial : ∀ d ∈ ['.', '_', ':', '-'],
      ['_', '@', '%', '+', '=', ':', ',', '.', '/', '-'].contains d = true :=
    forall_of_all (by decide)
  simpa using hspecial c (by simpa using hmem)

theorem probe_literal_iff {strict : Bool} {timeoutSeconds : Int} {data : Device}
    {command : Command} {line : List Char}
    (h : (command, line) ∈ probes (stripChars data.ipAddress) data.port timeoutSeconds) :
    Literal strict timeoutSeconds (sanitizeConnectionFields data) line command ↔
      Harmless (sanitizeConnectionFields data) command := by
  dsimp only [probes] at h
  rw [stripChars_idem] at h
  split at h
  · exact absurd h List.not_mem_nil
  next hne =>
  rcases List.mem_append.mp h with h | h
  · obtain ⟨rfl, rfl⟩ := Prod.mk.inj (List.mem_singleton.mp h)
    have hiff := nc_literal_iff (max 1 timeoutSeconds) data.port (stripChars data.ipAddress)
    constructor
    · rintro ⟨text, hline, htext, hoperand⟩
      obtain ⟨hkept, hapostrophe⟩ := hiff.mp ⟨text, hline, htext⟩
      exact ⟨hkept, hapostrophe, hoperand⟩
    · rintro ⟨hkept, hapostrophe, hoperand⟩
      obtain ⟨text, hline, htext⟩ := hiff.mpr ⟨hkept, hapostrophe⟩
      exact ⟨text, hline, htext, hoperand⟩
  · split at h
    next hsafe =>
      have hhost := unquotable_of_safe hsafe
      rcases List.mem_cons.mp h with h | h
      · obtain ⟨rfl, rfl⟩ := Prod.mk.inj h
        exact iff_of_true (bash_literal hhost _ _) trivial
      · obtain ⟨rfl, rfl⟩ := Prod.mk.inj (List.mem_singleton.mp h)
        obtain ⟨text, inner, htext, hscript, hinner⟩ :=
          telnetProbe_literal hhost hne (max 1 timeoutSeconds) data.port
        constructor
        · rintro ⟨-, -, -, -, -, hoperand⟩
          exact hoperand
        · intro hoperand
          exact ⟨text, inner, htext, hscript, hinner, hoperand⟩
    next => exact absurd h List.not_mem_nil

/-- **Each line that the shell of the bastion may execute for a device is literal exactly if the
device is harmless for it.** -/
theorem commandLine_literal_iff {strict : Bool} {timeoutSeconds : Int} {data : Device}
    {command : Command} {line : List Char}
    (h : (command, line) ∈ commandLines strict timeoutSeconds (sanitizeConnectionFields data)) :
    Literal strict timeoutSeconds (sanitizeConnectionFields data) line command ↔
      Harmless (sanitizeConnectionFields data) command := by
  rcases List.mem_append.mp h with h | h
  · exact probe_literal_iff h
  · rcases List.mem_cons.mp h with h | h
    · obtain ⟨rfl, rfl⟩ := Prod.mk.inj h
      exact sshCommand_literal_iff strict
    rcases List.mem_cons.mp h with h | h
    · obtain ⟨rfl, rfl⟩ := Prod.mk.inj h
      exact sshLegacyCommand_literal_iff strict
    · obtain ⟨rfl, rfl⟩ := Prod.mk.inj (List.mem_singleton.mp h)
      exact telnetCommand_literal_iff

theorem plain_line_literal :
    Literal true 5 (sanitizeConnectionFields ⟨"10.0.0.1 ".toList, "admin".toList, 23⟩)
        "telnet 10.0.0.1 23".toList .telnet ↔
      Harmless (sanitizeConnectionFields ⟨"10.0.0.1 ".toList, "admin".toList, 23⟩) .telnet :=
  commandLine_literal_iff (List.mem_append_right _ (by decide +kernel))

/-- An address that ends the command, has another one run and hides the rest. -/
def injected : Device := ⟨"10.0.0.1; reboot #".toList, "admin".toList, 23⟩

example : tokensOf (telnetCommand injected) =
    some [word "telnet", word "10.0.0.1", .op [';'], word "reboot"] := by
  decide +kernel

theorem lines_not_literal :
    ¬∀ (strict : Bool) (timeoutSeconds : Int) (data : Device) (command : Command)
      (line : List Char),
      (command, line) ∈ commandLines strict timeoutSeconds (sanitizeConnectionFields data) →
      Literal strict timeoutSeconds (sanitizeConnectionFields data) line command := by
  intro h
  have htelnet : (Command.telnet, telnetCommand (sanitizeConnectionFields injected)) ∈
      commandLines true 5 (sanitizeConnectionFields injected) :=
    List.mem_append_right _
      (List.mem_cons_of_mem _ (List.mem_cons_of_mem _ (List.mem_cons_self ..)))
  have hread := (h true 5 injected .telnet _ htelnet).1
  revert hread
  decide +kernel

end BackupCenter.Bastion
