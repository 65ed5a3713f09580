import BackupCenter.Lib.Text

/-!
# Absolute paths

`os.path.abspath` as a text: empty parts and `.` are dropped, `..` takes back the part before it,
and two leading slashes stay two.
-/
namespace BackupCenter.Lib

/-- An absolute path: its leading slashes, and its parts. -/
structure AbsPath where
  slashes : Nat
  parts : List (List Char)
  deriving DecidableEq

def AbsPath.text (p : AbsPath) : List Char :=
  List.replicate p.slashes '/' ++ ['/'].intercalate p.parts

/-- `os.path.join` -/
def joinPath (path name : List Char) : List Char :=
  if ['/'] <+: name then name
  else if path = [] ∨ ['/'] <:+ path then path ++ name
  else path ++ '/' :: name

/-- The loop of `os.path.normpath`, for absolute paths. -/
def pushPart (parts : List (List Char)) (part : List Char) : List (List Char) :=
  if part = [] ∨ part = ['.'] then parts
  else if part = ['.', '.'] then parts.dropLast
  else parts ++ [part]

/-- `os.path.normpath` of an absolute path -/
def normpath (text : List Char) : AbsPath where
  slashes := if ['/', '/'] <+: text ∧ ¬ ['/', '/', '/'] <+: text then 2 else 1
  parts := (text.splitOn '/').foldl pushPart []

/-- `os.path.abspath`; the working directory is an absolute path. -/
def abspath (cwd text : List Char) : AbsPath :=
  if ['/'] <+: text then normpath text else normpath (joinPath cwd text)

/-- A part that names a file or a directory. -/
def IsName (part : List Char) : Prop := part ≠ [] ∧ '/' ∉ part

/-- The path is below the directory. -/
def AbsPath.Within (root p : AbsPath) : Prop :=
  p.slashes = root.slashes ∧ ∃ rest, rest ≠ [] ∧ p.parts = root.parts ++ rest

theorem pushPart_names {parts : List (List Char)} {part : List Char} (hpart : '/' ∉ part)
    (h : ∀ p ∈ parts, IsName p) : ∀ p ∈ pushPart parts part, IsName p := by
  unfold pushPart
  split_ifs with hskip hup
  · exact h
  · exact fun p hp => h p (List.dropLast_subset _ hp)
  · intro p hp
    rcases List.mem_append.mp hp with hp | hp
    · exact h p hp
    · obtain rfl := List.mem_singleton.mp hp
      exact ⟨fun he => hskip (.inl he), hpart⟩

theorem foldl_pushPart_names {pieces parts : List (List Char)}
    (hpieces : ∀ piece ∈ pieces, '/' ∉ piece) (h : ∀ p ∈ parts, IsName p) :
    ∀ p ∈ pieces.foldl pushPart parts, IsName p := by
  induction pieces generalizing parts with
  | nil => exact h
  | cons piece pieces ih =>
    have hpiece := hpieces piece List.mem_cons_self
    exact ih (fun q hq => hpieces q (List.mem_cons_of_mem _ hq)) (pushPart_names hpiece h)

theorem normpath_names (text : List Char) : ∀ p ∈ (normpath text).parts, IsName p :=
  foldl_pushPart_names
    (fun piece hpiece hslash => (mem_of_mem_splitOn piece hpiece '/' hslash).2 rfl)
    fun _ h => absurd h List.not_mem_nil

theorem abspath_names (cwd text : List Char) : ∀ p ∈ (abspath cwd text).parts, IsName p := by
  unfold abspath
  split
  · exact normpath_names text
  · exact normpath_names _

/-! ## Below a directory -/

/-- Splitting the text of a path gives its parts, after an empty one for each leading slash. -/
theorem AbsPath.splitOn_text {p : AbsPath} (hne : p.parts ≠ []) (h : ∀ q ∈ p.parts, IsName q) :
    p.text.splitOn '/' = List.replicate p.slashes [] ++ p.parts := by
  have htext : p.text = ['/'].intercalate (List.replicate p.slashes [] ++ p.parts) := by
    unfold AbsPath.text
    induction p.slashes with
    | zero => rfl
    | succ k ih =>
      have hrest : List.replicate k ([] : List Char) ++ p.parts ≠ [] := by
        simp [hne]
      rw [List.replicate_succ, List.replicate_succ, List.cons_append, List.cons_append,
        List.intercalate_cons_of_ne_nil hrest, ← ih]
      rfl
  rw [htext]
  refine List.splitOn_intercalate '/' ?_ (by simp [hne])
  intro q hq
  rcases List.mem_append.mp hq with hq | hq
  · rw [(List.mem_replicate.mp hq).2]
    exact List.not_mem_nil
  · exact (h q hq).2

/-- Empty pieces in front of a first one that is not empty can be counted. -/
theorem replicate_nil_append_inj {α : Type*} {m k : Nat} {xs ys : List (List α)}
    (hx : xs.head? ≠ some []) (hy : ys.head? ≠ some [])
    (h : List.replicate m [] ++ xs = List.replicate k [] ++ ys) : m = k ∧ xs = ys := by
  induction m generalizing k with
  | zero =>
    cases k with
    | zero => exact ⟨rfl, h⟩
    | succ k =>
      rw [List.replicate_succ, List.cons_append, List.replicate_zero, List.nil_append] at h
      exact absurd (by rw [h]; rfl) hx
  | succ m ih =>
    cases k with
    | zero =>
      rw [List.replicate_succ, List.cons_append, List.replicate_zero, List.nil_append] at h
      exact absurd (by rw [← h]; rfl) hy
    | succ k =>
      rw [List.replicate_succ, List.replicate_succ, List.cons_append, List.cons_append] at h
      obtain ⟨hmk, hxy⟩ := ih (List.cons.inj h).2
      exact ⟨congrArg Nat.succ hmk, hxy⟩

/-- The text of a path with a part has a character that is no slash. -/
theorem AbsPath.exists_mem_text {p : AbsPath} (hne : p.parts ≠ []) (h : ∀ q ∈ p.parts, IsName q) :
    ∃ c ∈ p.text, c ≠ '/' := by
  obtain ⟨q, qs, hparts⟩ := List.exists_cons_of_ne_nil hne
  obtain ⟨hq, hslash⟩ := h q (by rw [hparts]; exact List.mem_cons_self)
  obtain ⟨c, hc⟩ := List.exists_mem_of_ne_nil q hq
  refine ⟨c, List.mem_append_right _ ?_, fun he => hslash (he ▸ hc)⟩
  rw [hparts]
  cases qs with
  | nil => rwa [List.intercalate_singleton]
  | cons q' qs =>
    rw [List.intercalate_cons_cons]
    exact List.mem_append_left _ (List.mem_append_left _ hc)

theorem head_ne_nil {parts : List (List Char)} (h : ∀ q ∈ parts, IsName q) :
    parts.head? ≠ some [] := by
  cases parts with
  | nil => exact nofun
  | cons q qs => exact fun he => (h q List.mem_cons_self).1 (Option.some.inj he)

/-- A path whose text starts with the directory's text and a slash is below the directory. -/
theorem within_of_text {root p : AbsPath} (hroot : root.parts ≠ [])
    (hrootNames : ∀ q ∈ root.parts, IsName q) (hnames : ∀ q ∈ p.parts, IsName q)
    (h : root.text ++ ['/'] <+: p.text) : root.Within p := by
  obtain ⟨rest, hrest⟩ := h
  have hp : p.parts ≠ [] := by
    intro hnil
    obtain ⟨c, hc, hslash⟩ := root.exists_mem_text hroot hrootNames
    have hmem : c ∈ p.text := hrest ▸ List.mem_append_left _ (List.mem_append_left _ hc)
    rw [AbsPath.text, hnil, List.intercalate_nil, List.append_nil] at hmem
    exact hslash (List.mem_replicate.mp hmem).2
  have hsplit := congrArg (List.splitOn '/') hrest
  rw [p.splitOn_text hp hnames, List.append_assoc, List.singleton_append,
    List.splitOn_append_cons_self, root.splitOn_text hroot hrootNames, List.append_assoc] at hsplit
  have hhead : (root.parts ++ rest.splitOn '/').head? ≠ some [] := by
    rw [List.head?_append_of_ne_nil _ hroot]
    exact head_ne_nil hrootNames
  obtain ⟨hslashes, hparts⟩ := replicate_nil_append_inj hhead (head_ne_nil hnames) hsplit
  exact ⟨hslashes.symm, rest.splitOn '/', List.splitOn_ne_nil _ _, hparts.symm⟩

theorem joinPath_name {path name : List Char} (hname : ¬ ['/'] <+: name) (hpath : path ≠ [])
    (hend : ¬ ['/'] <:+ path) : joinPath path name = path ++ '/' :: name := by
  rw [joinPath, if_neg hname, if_neg (not_or.mpr ⟨hpath, hend⟩)]

/-- The path of something inside a directory has a part. -/
theorem normpath_parts_ne_nil (text : List Char) {name : List Char} (h : IsName name)
    (hdots : name ≠ ['.'] ∧ name ≠ ['.', '.']) :
    (normpath (text ++ '/' :: name)).parts ≠ [] := by
  unfold normpath
  dsimp only
  rw [List.splitOn_append_cons_self, List.splitOn_eq_singleton h.2, List.foldl_append,
    List.foldl_cons, List.foldl_nil, pushPart, if_neg (not_or.mpr ⟨h.1, hdots.1⟩), if_neg hdots.2]
  exact List.append_ne_nil_of_right_ne_nil _ (List.cons_ne_nil _ _)

/-- Joining keeps the end of the name. -/
theorem joinPath_suffix (path name : List Char) : ∃ init, joinPath path name = init ++ name := by
  unfold joinPath
  split_ifs
  · exact ⟨[], rfl⟩
  · exact ⟨path, rfl⟩
  · exact ⟨path ++ ['/'], by rw [List.append_assoc]; rfl⟩

theorem abspath_parts_ne_nil (cwd text : List Char) {name : List Char} (h : IsName name)
    (hdots : name ≠ ['.'] ∧ name ≠ ['.', '.']) :
    (abspath cwd (text ++ '/' :: name)).parts ≠ [] := by
  unfold abspath
  split
  · exact normpath_parts_ne_nil text h hdots
  · obtain ⟨init, hinit⟩ := joinPath_suffix cwd (text ++ '/' :: name)
    rw [hinit, ← List.append_assoc]
    exact normpath_parts_ne_nil (init ++ text) h hdots

end BackupCenter.Lib
