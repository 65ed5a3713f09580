import BackupCenter.Billing.Payments

/-!
# External references are read back

What a checkout sends as its external reference is what the payment brings back: the ids that it
was made of are found in it again.
-/
namespace BackupCenter.Billing

open BackupCenter.Lib
open BackupCenter.Tenants (Uuid)

/-- A key that is not taken apart. -/
def plainKey (name : String) : Bool :=
  name.toList.all fun c => c ≠ ':' && c ≠ '|' && !isSpace c

/-- A key with an id. -/
def referencePart (ids : UuidText) (name : String) (id : Uuid) : List Char :=
  name.toList ++ ':' :: (ids.str id).toList

section Parts

variable {ids : UuidText} {name : String} {id : Uuid}

theorem plainKey_iff : plainKey name = true ↔
    ∀ c ∈ name.toList, c ≠ ':' ∧ c ≠ '|' ∧ isSpace c = false := by
  simp [plainKey, and_assoc]

theorem plain_referencePart (hname : plainKey name = true) :
    ∀ c ∈ referencePart ids name id, c ≠ '|' ∧ isSpace c = false := by
  intro c hc
  rw [referencePart, List.mem_append, List.mem_cons] at hc
  rcases hc with hkey | rfl | hid
  · exact (plainKey_iff.mp hname c hkey).2
  · exact ⟨by decide, by decide⟩
  · obtain ⟨hbar, -, hspace⟩ := ids.plain id c hid
    exact ⟨hbar, hspace⟩

theorem keyAndValue_referencePart (hname : plainKey name = true) :
    keyAndValue (referencePart ids name id) = some (name, ids.str id) := by
  have hkey := plainKey_iff.mp hname
  have hbefore : ∀ c ∈ name.toList, decide (c ≠ ':') = true :=
    fun c hc => decide_eq_true (hkey c hc).1
  have htake : (referencePart ids name id).takeWhile (· ≠ ':') = name.toList := by
    rw [referencePart, List.takeWhile_append_of_pos hbefore]
    simp
  have hdrop : (referencePart ids name id).dropWhile (· ≠ ':') = ':' :: (ids.str id).toList := by
    rw [referencePart, List.dropWhile_append_of_pos hbefore]
    simp
  have hcolon : ':' ∈ referencePart ids name id := by simp [referencePart]
  rw [keyAndValue, if_pos hcolon, htake, hdrop, stripChars_eq_self fun c hc => (hkey c hc).2.2,
    List.drop_one, List.tail_cons, stripChars_eq_self fun c hc => (ids.plain id c hc).2.2,
    String.ofList_toList, String.ofList_toList]

end Parts

section References

variable {ids : UuidText} {tenantId planId invoiceId : Uuid}

theorem toList_newExternalReference :
    (newExternalReference ids tenantId planId invoiceId).toList =
      referencePart ids "tenant" tenantId ++
        '|' :: (referencePart ids "plan" planId ++
          '|' :: referencePart ids "invoice" invoiceId) := by
  simp [newExternalReference, referencePart]

theorem isSpace_newExternalReference :
    ∀ c ∈ (newExternalReference ids tenantId planId invoiceId).toList, isSpace c = false := by
  intro c hc
  rw [toList_newExternalReference] at hc
  simp only [List.mem_append, List.mem_cons] at hc
  rcases hc with hc | rfl | hc | rfl | hc
  · exact (plain_referencePart (by decide) c hc).2
  · decide
  · exact (plain_referencePart (by decide) c hc).2
  · decide
  · exact (plain_referencePart (by decide) c hc).2

/-- A new reference is read back. -/
theorem parse_newExternalReference :
    parseExternalReference (strip (newExternalReference ids tenantId planId invoiceId)) =
      [("invoice", ids.str invoiceId), ("plan", ids.str planId), ("tenant", ids.str tenantId)] := by
  have hstrip : stripChars (newExternalReference ids tenantId planId invoiceId).toList = _ :=
    stripChars_eq_self isSpace_newExternalReference
  have hbar : ∀ {name : String} {id : Uuid}, plainKey name = true →
      '|' ∉ referencePart ids name id :=
    fun hname hmem => (plain_referencePart hname _ hmem).1 rfl
  have hsplit : (newExternalReference ids tenantId planId invoiceId).toList.splitOn '|' =
      [referencePart ids "tenant" tenantId, referencePart ids "plan" planId,
        referencePart ids "invoice" invoiceId] := by
    rw [toList_newExternalReference, List.splitOn_append_cons_self_of_not_mem (hbar (by decide)),
      List.splitOn_append_cons_self_of_not_mem (hbar (by decide)),
      List.splitOn_eq_singleton (hbar (by decide))]
  rw [parseExternalReference, strip, hstrip, String.toList_ofList, hstrip, hsplit]
  simp only [List.filterMap_cons, List.filterMap_nil,
    @keyAndValue_referencePart ids "tenant" tenantId (by decide),
    @keyAndValue_referencePart ids "plan" planId (by decide),
    @keyAndValue_referencePart ids "invoice" invoiceId (by decide)]
  rfl

/-- The printed id, looked up and read. -/
theorem nonempty_str {id : Uuid} : Tenants.nonempty (some (ids.str id)) = some (ids.str id) := by
  have hne : ids.str id ≠ "" := by
    intro hempty
    have hread := ids.parse_str id
    rw [hempty, ids.parse_empty] at hread
    cases hread
  rw [Tenants.nonempty, Option.filter_some, if_pos (decide_eq_true hne)]

variable {p : Payment}

/-- The plan and the invoice that a payment names. -/
theorem refs_of_newExternalReference
    (h : p.externalReference = newExternalReference ids tenantId planId invoiceId) :
    (refId p.refs "plan").bind ids.parse = some planId ∧
      (refId p.refs "invoice").bind ids.parse = some invoiceId := by
  rw [Payment.refs, h, parse_newExternalReference]
  constructor
  · show ((Tenants.nonempty (some (ids.str planId))).or _).bind ids.parse = _
    rw [nonempty_str, Option.some_or, Option.bind_some, ids.parse_str]
  · show ((Tenants.nonempty (some (ids.str invoiceId))).or _).bind ids.parse = _
    rw [nonempty_str, Option.some_or, Option.bind_some, ids.parse_str]

end References

end BackupCenter.Billing
