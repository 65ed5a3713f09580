import BackupCenter.Lib.Exec
import BackupCenter.Lib.Table
import Mathlib.Data.Fintype.Basic
import Mathlib.Logic.Function.Basic

/-!
# Databases with foreign keys

A database is a table for each relation, in which every foreign key finds its row. A statement that
leaves one without its row fails, and with it the transaction that it is in.
-/
namespace BackupCenter.Lib

variable {Rel Id : Type} {Row : Rel → Type} [∀ r, Keyed (Row r) Id]

abbrev Tables (Row : Rel → Type) [∀ r, Keyed (Row r) Id] := ∀ r, Table (Row r)

/-- The foreign keys of a row that are not `NULL`, each with the relation that it refers to. -/
abbrev ForeignKeys (Row : Rel → Type) (Id : Type) := ∀ r, Row r → List (Rel × Id)

/-- There is a row for the key. -/
def Tables.Has (tables : Tables Row) (k : Rel × Id) : Prop := ∃ row ∈ tables k.1, key row = k.2

def Intact (refs : ForeignKeys Row Id) (tables : Tables Row) : Prop :=
  ∀ r, ∀ row ∈ tables r, ∀ k ∈ refs r row, tables.Has k

instance [DecidableEq Id] (tables : Tables Row) (k : Rel × Id) : Decidable (tables.Has k) :=
  inferInstanceAs (Decidable (∃ row ∈ (tables k.1).rows, key row = k.2))

instance [Fintype Rel] [DecidableEq Id] (refs : ForeignKeys Row Id) (tables : Tables Row) :
    Decidable (Intact refs tables) :=
  inferInstanceAs (Decidable (∀ r, ∀ row ∈ (tables r).rows, ∀ k ∈ refs r row, tables.Has k))

structure Relational (refs : ForeignKeys Row Id) where
  tables : Tables Row
  intact : Intact refs tables

/-- A database is determined by its tables. -/
theorem Relational.eq_of_tables {refs : ForeignKeys Row Id} {db db' : Relational refs}
    (h : db.tables = db'.tables) : db = db' := by
  cases db
  cases db'
  cases h
  rfl

/-! ## Statements -/

/-- `DELETE FROM r WHERE p`, and `UPDATE r SET f WHERE p`. -/
inductive Statement (Row : Rel → Type) [∀ r, Keyed (Row r) Id] where
  | delete (r : Rel) (p : Row r → Bool)
  | update (r : Rel) (p : Row r → Bool) (f : Update (Row r))

section Statements

variable [DecidableEq Rel] {refs : ForeignKeys Row Id} {tables : Tables Row} {r q : Rel}
  {p : Row r → Bool} {f : Update (Row r)} {s : Statement Row} {ss : List (Statement Row)}
  {db db' : Relational refs}

/-- The tables after the statement. -/
def Statement.apply (tables : Tables Row) : Statement Row → Tables Row
  | .delete r p => Function.update tables r ((tables r).erase p)
  | .update r p f => Function.update tables r ((tables r).modify p f)

/-- The tables after the statements. -/
def applyAll (tables : Tables Row) (ss : List (Statement Row)) : Tables Row :=
  ss.foldl Statement.apply tables

/-- Execute a statement; a key without its row is an `IntegrityError`. -/
def execute [Fintype Rel] [DecidableEq Id] (db : Relational refs) (s : Statement Row) :
    Option (Relational refs) :=
  if h : Intact refs (s.apply db.tables) then some ⟨s.apply db.tables, h⟩ else none

@[simp] theorem apply_delete_self :
    (Statement.delete r p).apply tables r = (tables r).erase p := Function.update_self ..

@[simp] theorem apply_update_self :
    (Statement.update r p f).apply tables r = (tables r).modify p f := Function.update_self ..

theorem apply_delete_ne (h : q ≠ r) : (Statement.delete r p).apply tables q = tables q :=
  Function.update_of_ne h ..

theorem apply_update_ne (h : q ≠ r) : (Statement.update r p f).apply tables q = tables q :=
  Function.update_of_ne h ..

/-- The relation that the statement changes. -/
def Statement.rel : Statement Row → Rel
  | .delete r _ | .update r _ _ => r

theorem apply_of_ne (h : q ≠ s.rel) : s.apply tables q = tables q := by
  cases s with
  | delete => exact apply_delete_ne h
  | update => exact apply_update_ne h

theorem mem_apply_of_ne {row : Row q} (h : q ≠ s.rel) :
    row ∈ s.apply tables q ↔ row ∈ tables q := by
  rw [apply_of_ne h]

theorem applyAll_of_forall_ne (h : ∀ s ∈ ss, q ≠ s.rel) : applyAll tables ss q = tables q := by
  induction ss generalizing tables with
  | nil => rfl
  | cons s ss ih =>
    refine (ih fun s' hs' => h s' (List.mem_cons_of_mem _ hs')).trans ?_
    exact apply_of_ne (h s (List.mem_cons_self ..))

/-- No row meets the condition of the statement. -/
def Statement.Idle (tables : Tables Row) : Statement Row → Prop
  | .delete r p => ∀ row ∈ tables r, p row = false
  | .update r p _ => ∀ row ∈ tables r, p row = false

theorem Statement.Idle.apply_eq (h : s.Idle tables) : s.apply tables = tables := by
  cases s with
  | delete r p =>
    refine (congrArg (Function.update tables r) ?_).trans (Function.update_eq_self r tables)
    refine Table.eq_of_rows (List.filter_eq_self.mpr fun row hrow => ?_)
    rw [h row hrow]
    rfl
  | update r p f =>
    refine (congrArg (Function.update tables r) ?_).trans (Function.update_eq_self r tables)
    refine Table.eq_of_rows ((List.map_congr_left fun row hrow => ?_).trans (List.map_id _))
    rw [h row hrow]
    rfl

theorem applyAll_idle (h : ∀ s ∈ ss, s.Idle tables) : applyAll tables ss = tables := by
  induction ss with
  | nil => rfl
  | cons s ss ih =>
    show applyAll (s.apply tables) ss = tables
    rw [(h s (List.mem_cons_self ..)).apply_eq]
    exact ih fun s' hs' => h s' (List.mem_cons_of_mem _ hs')

/-- A statement adds no key. -/
theorem Tables.Has.of_apply {k : Rel × Id} (h : Tables.Has (s.apply tables) k) : tables.Has k := by
  obtain ⟨row, hrow, hkey⟩ := h
  by_cases ht : k.1 = s.rel
  · obtain ⟨t, id⟩ := k
    obtain rfl : t = s.rel := ht
    cases s with
    | delete r p => exact ⟨row, (Table.mem_erase.mp (apply_delete_self (p := p) ▸ hrow)).1, hkey⟩
    | update r p f =>
      obtain ⟨a, ha, rfl⟩ := Table.mem_modify.mp (apply_update_self (p := p) (f := f) ▸ hrow)
      refine ⟨a, ha, Eq.trans ?_ hkey⟩
      split
      · exact (f.keeps a).symm
      · rfl
  · exact ⟨row, (mem_apply_of_ne ht).mp hrow, hkey⟩

theorem Tables.Has.of_applyAll {k : Rel × Id} (h : Tables.Has (applyAll tables ss) k) :
    tables.Has k := by
  induction ss generalizing tables with
  | nil => exact h
  | cons s ss ih => exact Tables.Has.of_apply (ih h)

/-- An update removes no key. -/
theorem Tables.Has.update {k : Rel × Id} (h : tables.Has k) :
    Tables.Has ((Statement.update r p f).apply tables) k := by
  obtain ⟨row, hrow, hkey⟩ := h
  obtain ⟨t, id⟩ := k
  by_cases ht : t = r
  · subst ht
    refine ⟨if p row then f.apply row else row, ?_, ?_⟩
    · rw [apply_update_self]
      exact Table.mem_modify.mpr ⟨row, hrow, rfl⟩
    · split
      · exact (f.keeps row).trans hkey
      · exact hkey
  · exact ⟨row, (mem_apply_of_ne ht).mpr hrow, hkey⟩

/-- The statement brings in no foreign key. -/
def Statement.Clears (refs : ForeignKeys Row Id) : Statement Row → Prop
  | .delete _ _ => True
  | .update r _ f => ∀ row, refs r (f.apply row) ⊆ refs r row

/-- No row of this relation refers to a row of that one. -/
def Ignores (refs : ForeignKeys Row Id) (q r : Rel) : Prop :=
  ∀ row : Row q, ∀ k ∈ refs q row, k.1 ≠ r

/-- What refers to a relation is changed before it, and keys are only cleared. -/
structure ChildrenFirst (refs : ForeignKeys Row Id) (ss : List (Statement Row)) : Prop where
  clears : ∀ s ∈ ss, s.Clears refs
  ordered : ss.Pairwise fun s s' => Ignores refs s'.rel s.rel

/-- A statement that clears keys is sound if the keys that it does not clear are sound in the end.
-/
theorem Statement.Clears.intact (h : s.Clears refs) (hi : Intact refs tables)
    (hlast : ∀ s' ∈ ss, Ignores refs s'.rel s.rel)
    (hend : Intact refs (applyAll (s.apply tables) ss)) : Intact refs (s.apply tables) := by
  intro q row hrow k hk
  cases s with
  | delete r p =>
    by_cases ht : k.1 = r
    · -- what refers to the relation stays as it is from here on
      have hq : ∀ s' ∈ ss, q ≠ s'.rel := by
        rintro s' hs' rfl
        exact hlast s' hs' row k hk ht
      have hkept : row ∈ applyAll ((Statement.delete r p).apply tables) ss q := by
        rw [applyAll_of_forall_ne hq]
        exact hrow
      exact Tables.Has.of_applyAll (hend q row hkept k hk)
    · have hmem : row ∈ tables q := by
        by_cases hq : q = r
        · subst hq
          exact (Table.mem_erase.mp (apply_delete_self (p := p) ▸ hrow)).1
        · exact (mem_apply_of_ne hq).mp hrow
      obtain ⟨row', hrow', hkey⟩ := hi q row hmem k hk
      exact ⟨row', (mem_apply_of_ne ht).mpr hrow', hkey⟩
  | update r p f =>
    refine Tables.Has.update ?_
    by_cases hq : q = r
    · subst hq
      rw [apply_update_self] at hrow
      obtain ⟨a, ha, rfl⟩ := Table.mem_modify.mp hrow
      refine hi q a ha k ?_
      split at hk
      · exact h a hk
      · exact hk
    · exact hi q row ((mem_apply_of_ne hq).mp hrow) k hk

/-! ## Transactions -/

variable [Fintype Rel] [DecidableEq Id]

theorem execute_eq_some : execute db s = some db' ↔ db'.tables = s.apply db.tables := by
  unfold execute
  constructor
  · intro h
    obtain ⟨_, he⟩ := Option.dite_none_right_eq_some.mp h
    rw [← Option.some.inj he]
  · intro h
    rw [dif_pos (h ▸ db'.intact)]
    exact congrArg some (Relational.eq_of_tables h.symm)

/-- A transaction that is committed leaves what its statements leave. -/
theorem tables_of_exec (h : exec execute db ss = some db') :
    db'.tables = applyAll db.tables ss := by
  induction ss generalizing db with
  | nil =>
    obtain rfl := Option.some.inj h
    rfl
  | cons s ss ih =>
    obtain ⟨t, ht, hrest⟩ := exec_cons h
    rw [ih hrest, execute_eq_some.mp ht]
    rfl

/-- A transaction that goes from the children to the parents is committed exactly if no key lacks
its row in the end. -/
theorem commits_iff_intact (h : ChildrenFirst refs ss) (db : Relational refs) :
    (∃ db', exec execute db ss = some db') ↔ Intact refs (applyAll db.tables ss) := by
  constructor
  · rintro ⟨db', hrun⟩
    exact tables_of_exec hrun ▸ db'.intact
  · intro hend
    induction ss generalizing db with
    | nil => exact ⟨db, rfl⟩
    | cons s ss ih =>
      obtain ⟨hfirst, hrest⟩ := List.pairwise_cons.mp h.ordered
      have hsound : Intact refs (s.apply db.tables) :=
        (h.clears s (List.mem_cons_self ..)).intact db.intact hfirst hend
      have hnext : execute db s = some ⟨s.apply db.tables, hsound⟩ := execute_eq_some.mpr rfl
      rw [exec, hnext]
      exact ih ⟨fun s' hs' => h.clears s' (List.mem_cons_of_mem _ hs'), hrest⟩ _ hend

end Statements

/-! ## Ownership -/

/-- The row of the key, and the rows that belong to it, directly or not. -/
inductive PartOf (owners : ForeignKeys Row Id) (tables : Tables Row) (root : Rel × Id) :
    ∀ r, Row r → Prop
  | root {row : Row root.1} (hrow : row ∈ tables root.1) (hkey : key row = root.2) :
      PartOf owners tables root root.1 row
  | step {r : Rel} {row : Row r} {k : Rel × Id} {owner : Row k.1} (hrow : row ∈ tables r)
      (hk : k ∈ owners r row) (howner : PartOf owners tables root k.1 owner)
      (hkey : key owner = k.2) : PartOf owners tables root r row

/-- The row of this key is one of them. -/
def PartOf.Key (owners : ForeignKeys Row Id) (tables : Tables Row) (root k : Rel × Id) : Prop :=
  ∃ owner, PartOf owners tables root k.1 owner ∧ key owner = k.2

section Ownership

variable {owners : ForeignKeys Row Id} {tables : Tables Row} {root : Rel × Id} {r : Rel}
  {row : Row r}

theorem PartOf.mem (h : PartOf owners tables root r row) : row ∈ tables r := by
  cases h with
  | root hrow => exact hrow
  | step hrow => exact hrow

theorem partOf_of_ne (hr : r ≠ root.1) : PartOf owners tables root r row ↔
    row ∈ tables r ∧ ∃ k ∈ owners r row, PartOf.Key owners tables root k := by
  constructor
  · intro h
    cases h with
    | root => exact absurd rfl hr
    | step hrow hk howner hkey => exact ⟨hrow, _, hk, _, howner, hkey⟩
  · rintro ⟨hrow, k, hk, owner, howner, hkey⟩
    exact .step hrow hk howner hkey

theorem partOf_of_root {row : Row root.1} (h : ∀ row, owners root.1 row = []) :
    PartOf owners tables root root.1 row ↔ row ∈ tables root.1 ∧ key row = root.2 := by
  constructor
  · intro hpart
    have hmem := hpart.mem
    obtain ⟨r, id⟩ := root
    cases hpart with
    | root hrow hkey => exact ⟨hrow, hkey⟩
    | step hrow hk => exact absurd (h _ ▸ hk) List.not_mem_nil
  · rintro ⟨hrow, hkey⟩
    exact .root hrow hkey

end Ownership

end BackupCenter.Lib
