import BackupCenter.Lib.Escapes
import BackupCenter.Vpn.Service

/-!
# What `nmcli` reads of a profile

`connect_group_vpn` hands the data and the secrets of a VPN over as lists of pairs with escaped
values; read as such lists they are the pairs that were meant.
-/
namespace BackupCenter.Vpn

open BackupCenter.Lib
open BackupCenter.Executor (Exn decryptIfSet)
open BackupCenter.Tenants (DeviceGroup)

/-- `text.replace(c, new)` -/
def replaceChar (c : Char) (new text : List Char) : List Char :=
  text.flatMap fun d => if d = c then new else [d]

/-- The two replacements of `_nm_escape`, one after the other, put a backslash before every comma
and every backslash. -/
theorem nmEscape_replace (value : String) :
    (nmEscape value).toList =
      replaceChar ',' ['\\', ','] (replaceChar '\\' ['\\', '\\'] value.toList) := by
  rw [nmEscape, String.toList_ofList, replaceChar, replaceChar, List.flatMap_assoc]
  refine List.flatMap_congr fun c _ => ?_
  by_cases hbackslash : c = '\\'
  · rw [hbackslash]
    decide
  · by_cases hcomma : c = ','
    · rw [hcomma]
      decide
    · simp [hbackslash, hcomma]

/-- The pairs that `nmcli` reads, with `\` before a comma or a backslash of a value. -/
def nmcliPairs (text : String) : List (String × Option String) :=
  (Escapes.readPairs ',' '\\' '=' text.toList).map fun pair =>
    (String.ofList pair.1, pair.2.map String.ofList)

theorem nmEscape_toList (value : String) :
    (nmEscape value).toList = Escapes.escape ',' '\\' value.toList := String.toList_ofList

/-- The item of a pair whose key is plain. -/
def itemText (pair : String × String) : String := pair.1 ++ "=" ++ nmEscape pair.2

/-- A key without anything that is special in a list of pairs. -/
def plainKey (key : String) : Bool := key.toList.all fun c => c != ',' && c != '\\' && c != '='

theorem plain_of_plainKey {key : String} (h : plainKey key = true) :
    ∀ c ∈ key.toList, (c ≠ ',' ∧ c ≠ '\\') ∧ c ≠ '=' := by
  simpa [plainKey] using h

theorem itemText_toList {pair : String × String} (h : plainKey pair.1 = true) :
    (itemText pair).toList =
      Escapes.writePair ',' '\\' '=' (pair.1.toList, pair.2.toList) := by
  have hplain := plain_of_plainKey h
  have hkey : Escapes.escape ',' '\\' pair.1.toList = pair.1.toList := by
    refine (List.flatMap_congr fun c hc => ?_).trans (List.flatMap_singleton' _)
    exact if_neg fun hspecial => hspecial.elim (hplain c hc).1.2 (hplain c hc).1.1
  have hsign : Escapes.escape ',' '\\' ('=' :: pair.2.toList) =
      '=' :: Escapes.escape ',' '\\' pair.2.toList := by
    rw [Escapes.escape_cons, if_neg (by decide)]
    rfl
  rw [Escapes.writePair, Escapes.escape_append, hkey, hsign, itemText, String.toList_append,
    String.toList_append, nmEscape_toList, List.append_assoc]
  rfl

/-- Items with plain keys are read as the pairs that they were written for. -/
theorem nmcliPairs_items {text : String} {pairs : List (String × String)} (hne : pairs ≠ [])
    (hkeys : (pairs.map Prod.fst).all plainKey = true)
    (htext : text.toList = [','].intercalate (pairs.map fun pair => (itemText pair).toList)) :
    nmcliPairs text = pairs.map fun pair => (pair.1, some pair.2) := by
  have hplain : ∀ pair ∈ pairs, plainKey pair.1 = true := fun pair hpair =>
    List.all_eq_true.mp hkeys _ (List.mem_map_of_mem hpair)
  have hitems : (pairs.map fun pair => (itemText pair).toList) =
      (pairs.map fun pair => (pair.1.toList, pair.2.toList)).map
        (Escapes.writePair ',' '\\' '=') := by
    rw [List.map_map]
    exact List.map_congr_left fun pair hpair => itemText_toList (hplain pair hpair)
  have hsign : ∀ pair ∈ pairs.map fun pair : String × String => (pair.1.toList, pair.2.toList),
      '=' ∉ pair.1 := by
    intro pair hpair
    obtain ⟨source, hsource, rfl⟩ := List.mem_map.mp hpair
    exact fun hmem => (plain_of_plainKey (hplain source hsource) _ hmem).2 rfl
  have hread := @Escapes.readPairs_writePairs Char _ ',' '\\' '=' (by decide) (by decide) _
    (fun hnil => hne (List.map_eq_nil_iff.mp hnil)) hsign
  rw [nmcliPairs, htext, hitems, ← Escapes.writePairs, hread, List.map_map, List.map_map]
  refine List.map_congr_left fun pair _ => ?_
  simp

/-! ## The profile of a group -/

variable {decrypt : String → Except Exn String} {group : DeviceGroup} {profile : Profile}

/-- The data and the secrets of the VPN of a group, when they are complete. -/
theorem groupProfile_eq (h : groupProfile decrypt group = .ok profile) : ∃ vpnPass vpnIpsec,
    decryptIfSet decrypt group.vpnPasswordEncrypted = .ok vpnPass ∧
    decryptIfSet decrypt group.vpnIpsecSecretEncrypted = .ok vpnIpsec ∧
    profile.vpnData = "gateway=" ++ nmEscape (strip (group.vpnServer.getD "")) ++ ",user=" ++
      nmEscape (strip (group.vpnUsername.getD "")) ++
      (if vpnIpsec = "" then "" else ",ipsec-enabled=yes") ∧
    profile.secrets = "password-flags=0,password=" ++ nmEscape vpnPass ++
      if vpnIpsec = "" then "" else ",ipsec-psk-flags=0,ipsec-psk=" ++ nmEscape vpnIpsec := by
  unfold groupProfile at h
  obtain ⟨vpnPass, hpass, h⟩ := bind_eq_ok.mp h
  obtain ⟨vpnIpsec, hipsec, h⟩ := bind_eq_ok.mp h
  split at h
  · cases h
  · obtain rfl := Except.ok.inj h
    exact ⟨vpnPass, vpnIpsec, hpass, hipsec, rfl, rfl⟩

/-- The data are read as the server and the user. -/
theorem data_read (vpnServer vpnUser vpnIpsec : String) :
    nmcliPairs ("gateway=" ++ nmEscape vpnServer ++ ",user=" ++ nmEscape vpnUser ++
        if vpnIpsec = "" then "" else ",ipsec-enabled=yes") =
      [("gateway", some vpnServer), ("user", some vpnUser)] ++
        if vpnIpsec = "" then [] else [("ipsec-enabled", some "yes")] := by
  by_cases hipsec : vpnIpsec = ""
  · rw [if_pos hipsec, if_pos hipsec]
    refine nmcliPairs_items (List.cons_ne_nil ("gateway", vpnServer) [("user", vpnUser)])
      (show ["gateway", "user"].all plainKey = true by decide) ?_
    simp [itemText, List.intercalate]
  · rw [if_neg hipsec, if_neg hipsec]
    refine nmcliPairs_items (List.cons_ne_nil ("gateway", vpnServer)
      [("user", vpnUser), ("ipsec-enabled", "yes")])
      (show ["gateway", "user", "ipsec-enabled"].all plainKey = true by decide) ?_
    simp [itemText, List.intercalate, nmEscape]

/-- The secrets are read as the password and the shared key. -/
theorem secrets_read (vpnPass vpnIpsec : String) :
    nmcliPairs ("password-flags=0,password=" ++ nmEscape vpnPass ++
        if vpnIpsec = "" then "" else ",ipsec-psk-flags=0,ipsec-psk=" ++ nmEscape vpnIpsec) =
      [("password-flags", some "0"), ("password", some vpnPass)] ++
        if vpnIpsec = "" then []
        else [("ipsec-psk-flags", some "0"), ("ipsec-psk", some vpnIpsec)] := by
  by_cases hipsec : vpnIpsec = ""
  · rw [if_pos hipsec, if_pos hipsec]
    refine nmcliPairs_items (List.cons_ne_nil ("password-flags", "0") [("password", vpnPass)])
      (show ["password-flags", "password"].all plainKey = true by decide) ?_
    simp [itemText, List.intercalate, nmEscape]
  · rw [if_neg hipsec, if_neg hipsec]
    refine nmcliPairs_items (List.cons_ne_nil ("password-flags", "0")
      [("password", vpnPass), ("ipsec-psk-flags", "0"), ("ipsec-psk", vpnIpsec)])
      (show ["password-flags", "password", "ipsec-psk-flags", "ipsec-psk"].all plainKey = true
        by decide) ?_
    simp [itemText, List.intercalate, nmEscape]

/-- The profile is read as the server, the user, the password and the shared key of the group. -/
def ReadsGroup (decrypt : String → Except Exn String) (group : DeviceGroup) (profile : Profile) :
    Prop :=
  ∃ vpnPass vpnIpsec,
    decryptIfSet decrypt group.vpnPasswordEncrypted = .ok vpnPass ∧
    decryptIfSet decrypt group.vpnIpsecSecretEncrypted = .ok vpnIpsec ∧
    nmcliPairs profile.vpnData =
      [("gateway", some (strip (group.vpnServer.getD ""))),
        ("user", some (strip (group.vpnUsername.getD "")))] ++
      (if vpnIpsec = "" then [] else [("ipsec-enabled", some "yes")]) ∧
    nmcliPairs profile.secrets =
      [("password-flags", some "0"), ("password", some vpnPass)] ++
      if vpnIpsec = "" then []
      else [("ipsec-psk-flags", some "0"), ("ipsec-psk", some vpnIpsec)]

theorem readsGroup (h : groupProfile decrypt group = .ok profile) :
    ReadsGroup decrypt group profile := by
  obtain ⟨vpnPass, vpnIpsec, hpass, hipsec, hdata, hsecrets⟩ := groupProfile_eq h
  refine ⟨vpnPass, vpnIpsec, hpass, hipsec, ?_, ?_⟩
  · rw [hdata]
    exact data_read _ _ _
  · rw [hsecrets]
    exact secrets_read _ _

/-- A group whose password and shared key hold what is special in a list of pairs. -/
def commaGroup : DeviceGroup where
  id := 1
  tenantId := 2
  name := "filial"
  slug := "filial"
  vpnServer := some "10.0.0.1"
  vpnUsername := some "op,user=x"
  vpnPasswordEncrypted := some "a,b=\\"
  vpnIpsecSecretEncrypted := some ",password=c\\"

theorem readsGroup_comma : ∃ profile, groupProfile .ok commaGroup = .ok profile ∧
    ReadsGroup .ok commaGroup profile := by
  have hcomplete : (groupProfile .ok commaGroup).isOk = true := by decide
  cases hprofile : groupProfile .ok commaGroup with
  | error e =>
    rw [hprofile] at hcomplete
    cases hcomplete
  | ok profile => exact ⟨profile, rfl, readsGroup hprofile⟩

end BackupCenter.Vpn
