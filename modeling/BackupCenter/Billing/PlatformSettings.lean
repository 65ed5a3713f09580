import BackupCenter.Lib.Guarded
import BackupCenter.Lib.Patch
import BackupCenter.Lib.Text

/-!
# The payment settings of the platform

The value of a setting comes from one of three layers: an encrypted row, a row in plain text, or the
environment while there is no row. A save writes a row for every setting, also for a secret that is
left blank to keep it.
-/
namespace BackupCenter.Billing.PlatformSettings

open BackupCenter.Lib

/-- `SystemSetting`; its key is unique, so the table is a dictionary. -/
structure SystemSetting where
  isSecret : Bool
  valueText : Option String
  valueEncrypted : Option String
  deriving DecidableEq

abbrev Settings := Dict String SystemSetting

/-- What the settings of the process give. -/
structure Environment where
  appPublicUrl : Option String
  mercadoPagoAccessToken : Option String
  mercadoPagoPublicKey : Option String
  mercadoPagoWebhookUrl : Option String
  mercadoPagoWebhookToken : Option String
  mercadoPagoUseSandbox : Bool

/-- `encrypt_password` and `decrypt_password`; two encryptions of one text differ by a nonce. -/
structure Fernet where
  encrypt : Nat → String → String
  decrypt : String → Except String String
  inverts : ∀ nonce text, decrypt (encrypt nonce text) = .ok text
  nonempty : ∀ nonce text, encrypt nonce text ≠ ""

/-- `PAYMENT_SETTING_KEYS`, with the defaults -/
def paymentSettingKeys (env : Environment) : List (String × String) :=
  [("APP_PUBLIC_URL", env.appPublicUrl.getD ""),
    ("MERCADO_PAGO_ACCESS_TOKEN", env.mercadoPagoAccessToken.getD ""),
    ("MERCADO_PAGO_PUBLIC_KEY", env.mercadoPagoPublicKey.getD ""),
    ("MERCADO_PAGO_WEBHOOK_URL", env.mercadoPagoWebhookUrl.getD ""),
    ("MERCADO_PAGO_WEBHOOK_TOKEN", env.mercadoPagoWebhookToken.getD ""),
    ("MERCADO_PAGO_USE_SANDBOX", if env.mercadoPagoUseSandbox then "1" else "0")]

/-- The encrypted value, if the row has one; what cannot be decrypted counts as empty. -/
def decryptedValue (f : Fernet) (row : SystemSetting) : Option String :=
  match row.valueEncrypted with
  | none | some "" => none
  | some cipher => some ((f.decrypt cipher).toOption.getD "")

/-- `_row_value` -/
def rowValue (f : Fernet) (env : Environment) (row : Option SystemSetting) (key : String) :
    String :=
  match row with
  | some row =>
    match row.isSecret, decryptedValue f row with
    | true, some value => value
    | _, _ => row.valueText.getD ""
  | none => ((paymentSettingKeys env).lookup key).getD ""

/-- `get_many` -/
def getMany (f : Fernet) (env : Environment) (db : Settings) (keys : List String) :
    List (String × String) :=
  keys.map fun key => (key, rowValue f env (db.lookup key) key)

structure PaymentConfig where
  appPublicUrl : String
  accessToken : String
  publicKey : String
  webhookUrl : String
  webhookToken : String
  useSandbox : Bool

/-- `_normalize_bool` of a text -/
def normalizeBool (lower : String → String) (value : String) : Bool :=
  lower (strip value) ∈ ["1", "true", "yes", "on"]

/-- `get_payment_config` -/
def getPaymentConfig (lower : String → String) (f : Fernet) (env : Environment) (db : Settings) :
    PaymentConfig :=
  let raw := getMany f env db ((paymentSettingKeys env).map (·.1))
  let value key := (raw.lookup key).getD ""
  { appPublicUrl := strip (value "APP_PUBLIC_URL")
    accessToken := strip (value "MERCADO_PAGO_ACCESS_TOKEN")
    publicKey := strip (value "MERCADO_PAGO_PUBLIC_KEY")
    webhookUrl := strip (value "MERCADO_PAGO_WEBHOOK_URL")
    webhookToken := strip (value "MERCADO_PAGO_WEBHOOK_TOKEN")
    useSandbox := normalizeBool lower (value "MERCADO_PAGO_USE_SANDBOX") }

structure PaymentForm where
  appPublicUrl : String
  webhookUrl : String
  useSandbox : Bool
  accessToken : Option String
  publicKey : Option String
  webhookToken : Option String
  clearAccessToken : Bool
  clearPublicKey : Bool
  clearWebhookToken : Bool

/-- What goes wrong in one save, and the nonces it draws, by the key that is written. -/
structure Attempt where
  queryError : Option String
  nonce : String → Nat
  encryptError : String → Option String
  commitError : Option String

/-! ## Saving -/

/-- `value or None` -/
def orNone (value : String) : Option String := if value = "" then none else some value

def raising : Option String → Except String Unit
  | some e => .error e
  | none => .ok ()

def textRow (value : String) : SystemSetting where
  isSecret := false
  valueText := orNone (strip value)
  valueEncrypted := none

/-- `upsert_text` -/
def upsertText (db : Settings) (key value : String) : Settings :=
  assign db (key, some (textRow value))

/-- `upsert_secret` -/
def upsertSecret (f : Fernet) (a : Attempt) (db : Settings) (key : String)
    (newValue : Option String) (clearFlag : Bool) : Except String Settings := do
  let row := (db.lookup key).getD ⟨true, none, none⟩
  let row := { row with isSecret := true, valueText := none }
  if clearFlag then return assign db (key, some { row with valueEncrypted := none })
  let normalized := strip (newValue.getD "")
  if normalized = "" then return assign db (key, some row)
  raising (a.encryptError key)
  let cipher := f.encrypt (a.nonce key) normalized
  return assign db (key, some { row with valueEncrypted := some cipher })

/-- A session: its changes are in the table once the commit has succeeded, and rolled back if
anything raises. -/
def session (a : Attempt) (db : Settings) (body : Settings → Except String Settings) :
    Except String Unit × Settings :=
  let outcome := do
    raising a.queryError
    let changed ← body db
    raising a.commitError
    return changed
  match outcome with
  | .ok changed => (.ok (), changed)
  | .error e => (.error e, db)

/-- `save_payment_config` -/
def savePaymentConfig (f : Fernet) (a : Attempt) (form : PaymentForm) (db : Settings) :
    Except String Unit × Settings :=
  session a db fun db => do
    let db := upsertText db "APP_PUBLIC_URL" form.appPublicUrl
    let db := upsertText db "MERCADO_PAGO_WEBHOOK_URL" form.webhookUrl
    let db := upsertText db "MERCADO_PAGO_USE_SANDBOX" (if form.useSandbox then "1" else "0")
    let db ← upsertSecret f a db "MERCADO_PAGO_ACCESS_TOKEN" form.accessToken form.clearAccessToken
    let db ← upsertSecret f a db "MERCADO_PAGO_PUBLIC_KEY" form.publicKey form.clearPublicKey
    upsertSecret f a db "MERCADO_PAGO_WEBHOOK_TOKEN" form.webhookToken form.clearWebhookToken

/-- `set_payment_mode` -/
def setPaymentMode (a : Attempt) (useSandbox : Bool) (db : Settings) :
    Except String Unit × Settings :=
  session a db fun db =>
    return assign db ("MERCADO_PAGO_USE_SANDBOX",
      some ⟨false, some (if useSandbox then "1" else "0"), none⟩)

/-! ## The promise -/

/-- The effective value of a setting. -/
def effective (f : Fernet) (env : Environment) (db : Settings) (key : String) : String :=
  rowValue f env (db.lookup key) key

/-- The secrets of a form: key, value and clear flag. -/
def PaymentForm.secrets (form : PaymentForm) : List (String × Option String × Bool) :=
  [("MERCADO_PAGO_ACCESS_TOKEN", form.accessToken, form.clearAccessToken),
    ("MERCADO_PAGO_PUBLIC_KEY", form.publicKey, form.clearPublicKey),
    ("MERCADO_PAGO_WEBHOOK_TOKEN", form.webhookToken, form.clearWebhookToken)]

def PaymentForm.texts (form : PaymentForm) : List (String × String) :=
  [("APP_PUBLIC_URL", form.appPublicUrl), ("MERCADO_PAGO_WEBHOOK_URL", form.webhookUrl),
    ("MERCADO_PAGO_USE_SANDBOX", if form.useSandbox then "1" else "0")]

/-- The field is left blank: nothing is entered, and the value is not to be cleared. -/
def Blank (newValue : Option String) (clearFlag : Bool) : Prop :=
  clearFlag = false ∧ strip (newValue.getD "") = ""

instance (newValue : Option String) (clearFlag : Bool) : Decidable (Blank newValue clearFlag) :=
  inferInstanceAs (Decidable (_ ∧ _))

/-- What a secret is after a save, given what it was. -/
def entered (newValue : Option String) (clearFlag : Bool) (before : String) : String :=
  if clearFlag then ""
  else if strip (newValue.getD "") = "" then before
  else strip (newValue.getD "")

/-- A save changes what was entered and nothing else, also when it is repeated; one that fails
changes nothing, and the payment mode is one flag. -/
structure ChangesEntered (f : Fernet) (env : Environment) (db : Settings) (form : PaymentForm) :
    Prop where
  secret : ∀ a db', savePaymentConfig f a form db = (.ok (), db') →
    ∀ field ∈ form.secrets,
      effective f env db' field.1 = entered field.2.1 field.2.2 (effective f env db field.1)
  text : ∀ a db', savePaymentConfig f a form db = (.ok (), db') →
    ∀ field ∈ form.texts, effective f env db' field.1 = strip field.2
  other : ∀ a db', savePaymentConfig f a form db = (.ok (), db') →
    ∀ key ∉ (paymentSettingKeys env).map (·.1), effective f env db' key = effective f env db key
  again : ∀ a a' db' db'', savePaymentConfig f a form db = (.ok (), db') →
    savePaymentConfig f a' form db' = (.ok (), db'') →
    ∀ key, effective f env db'' key = effective f env db' key
  mode : ∀ a useSandbox db', setPaymentMode a useSandbox db = (.ok (), db') →
    ∀ key, effective f env db' key =
      if key = "MERCADO_PAGO_USE_SANDBOX" then (if useSandbox then "1" else "0")
      else effective f env db key
  failed : ∀ a e db', (savePaymentConfig f a form db = (.error e, db') ∨
      ∃ useSandbox, setPaymentMode a useSandbox db = (.error e, db')) →
    ∀ key, effective f env db' key = effective f env db key

/-! ## The condition -/

/-- A secret that is left blank keeps its value: there is no row and the environment has no value,
or the row is encrypted, or dropping its text changes nothing. -/
def KeepsBlank (f : Fernet) (env : Environment) (db : Settings) (key : String) : Prop :=
  match db.lookup key with
  | none => ((paymentSettingKeys env).lookup key).getD "" = ""
  | some row => (row.isSecret = true ∧ (decryptedValue f row).isSome = true) ∨
      row.valueText.getD "" = (decryptedValue f row).getD ""

/-! ## What a save writes -/

variable {f : Fernet} {a a' : Attempt} {env : Environment} {db db' db'' : Settings}
  {form : PaymentForm} {key : String} {newValue : Option String} {clearFlag : Bool}

/-- The row of a secret after a save. -/
def secretRow (f : Fernet) (nonce : Nat) (row : Option SystemSetting) (newValue : Option String)
    (clearFlag : Bool) : SystemSetting where
  isSecret := true
  valueText := none
  valueEncrypted :=
    if clearFlag then none
    else if strip (newValue.getD "") = "" then row.bind SystemSetting.valueEncrypted
    else some (f.encrypt nonce (strip (newValue.getD "")))

/-- Every assignment that a save makes. -/
def PaymentForm.patch (f : Fernet) (a : Attempt) (form : PaymentForm) (db : Settings) :
    Patch String SystemSetting :=
  form.texts.map (fun field => (field.1, some (textRow field.2))) ++
    form.secrets.map fun field =>
      (field.1, some (secretRow f (a.nonce field.1) (db.lookup field.1) field.2.1 field.2.2))

theorem upsertSecret_ok (h : upsertSecret f a db key newValue clearFlag = .ok db') :
    db' = assign db (key, some (secretRow f (a.nonce key) (db.lookup key) newValue clearFlag)) := by
  have hbase : ((db.lookup key).getD ⟨true, none, none⟩).valueEncrypted =
      (db.lookup key).bind SystemSetting.valueEncrypted := by
    cases db.lookup key <;> rfl
  unfold upsertSecret at h
  unfold secretRow
  cases hclear : clearFlag with
  | true =>
    subst hclear
    exact (Except.ok.inj h).symm
  | false =>
    subst hclear
    by_cases hblank : strip (newValue.getD "") = ""
    · simp only [Bool.false_eq_true, if_false, if_pos hblank] at h ⊢
      rw [← hbase]
      exact (Except.ok.inj h).symm
    · simp only [Bool.false_eq_true, if_false, if_neg hblank] at h ⊢
      cases herror : a.encryptError key with
      | some e =>
        rw [herror] at h
        cases h
      | none =>
        rw [herror] at h
        exact (Except.ok.inj h).symm

theorem session_ok {body : Settings → Except String Settings}
    (h : session a db body = (.ok (), db')) : body db = .ok db' := by
  unfold session at h
  cases hquery : a.queryError with
  | some e => rw [hquery] at h; cases h
  | none =>
    cases hbody : body db with
    | error e => rw [hquery, hbody] at h; cases h
    | ok changed =>
      cases hcommit : a.commitError with
      | some e => rw [hquery, hbody, hcommit] at h; cases h
      | none => rw [hquery, hbody, hcommit] at h; cases h; rfl

theorem session_error {body : Settings → Except String Settings} {e : String}
    (h : session a db body = (.error e, db')) : db' = db := by
  unfold session at h
  dsimp only at h
  split at h
  · cases h
  · cases h
    rfl

theorem savePaymentConfig_ok (h : savePaymentConfig f a form db = (.ok (), db')) :
    db' = patched db (form.patch f a db) := by
  have hbody := session_ok h
  obtain ⟨token, htoken, hrest⟩ := bind_eq_ok.mp hbody
  obtain ⟨publicKey, hpublic, hwebhook⟩ := bind_eq_ok.mp hrest
  obtain rfl := upsertSecret_ok htoken
  obtain rfl := upsertSecret_ok hpublic
  obtain rfl := upsertSecret_ok hwebhook
  simp [upsertText, lookup_assign, PaymentForm.patch, PaymentForm.texts, PaymentForm.secrets,
    patched]

theorem given_secret {field : String × Option String × Bool} (h : field ∈ form.secrets) :
    (form.patch f a db).given field.1 = some
      (some (secretRow f (a.nonce field.1) (db.lookup field.1) field.2.1 field.2.2)) := by
  simp only [PaymentForm.secrets, List.mem_cons, List.not_mem_nil, or_false] at h
  rcases h with rfl | rfl | rfl <;>
    simp [Patch.given, PaymentForm.patch, PaymentForm.texts, PaymentForm.secrets]

theorem given_text {field : String × String} (h : field ∈ form.texts) :
    (form.patch f a db).given field.1 = some (some (textRow field.2)) := by
  simp only [PaymentForm.texts, List.mem_cons, List.not_mem_nil, or_false] at h
  rcases h with rfl | rfl | rfl <;>
    simp [Patch.given, PaymentForm.patch, PaymentForm.texts, PaymentForm.secrets]

theorem given_other (h : key ∉ (paymentSettingKeys env).map (·.1)) :
    (form.patch f a db).given key = none := by
  rw [given_eq_none]
  simp [PaymentForm.patch, PaymentForm.texts, PaymentForm.secrets, paymentSettingKeys] at h ⊢
  tauto

/-! ## Effective values -/

/-- The value of the encrypted layer alone. -/
def encryptedLayer (f : Fernet) (row : Option SystemSetting) : String :=
  (row.bind (decryptedValue f)).getD ""

theorem rowValue_some {row : SystemSetting} : rowValue f env (some row) key =
    if row.isSecret then (decryptedValue f row).getD (row.valueText.getD "")
    else row.valueText.getD "" := by
  simp only [rowValue]
  cases row.isSecret <;> cases decryptedValue f row <;> rfl

theorem rowValue_of_secret {row : SystemSetting} (h : row.isSecret = true) :
    rowValue f env (some row) key = (decryptedValue f row).getD (row.valueText.getD "") := by
  rw [rowValue_some, if_pos h]

theorem decryptedValue_congr {row row' : SystemSetting}
    (h : row.valueEncrypted = row'.valueEncrypted) :
    decryptedValue f row = decryptedValue f row' := by
  rw [decryptedValue, decryptedValue, h]

theorem decryptedValue_encrypt {row : SystemSetting} {nonce : Nat} {text : String}
    (h : row.valueEncrypted = some (f.encrypt nonce text)) :
    decryptedValue f row = some text := by
  unfold decryptedValue
  rw [h]
  split
  next he => cases he
  next he => exact absurd (Option.some.inj he) (f.nonempty nonce text)
  next cipher _ he =>
    rw [← Option.some.inj he, f.inverts]
    rfl

theorem decryptedValue_none {row : SystemSetting} (h : row.valueEncrypted = none) :
    decryptedValue f row = none := by
  rw [decryptedValue, h]

theorem rowValue_secretRow {nonce : Nat} {row : Option SystemSetting} :
    rowValue f env (some (secretRow f nonce row newValue clearFlag)) key =
      entered newValue clearFlag (encryptedLayer f row) := by
  rw [rowValue_of_secret rfl, entered]
  cases clearFlag with
  | true =>
    rw [decryptedValue_none rfl]
    rfl
  | false =>
    by_cases hblank : strip (newValue.getD "") = ""
    · simp only [Bool.false_eq_true, if_false, if_pos hblank]
      cases row with
      | none =>
        rw [decryptedValue_none (by simp [secretRow, hblank])]
        rfl
      | some row =>
        have hkept : (secretRow f nonce (some row) newValue false).valueEncrypted =
            row.valueEncrypted := by
          simp [secretRow, hblank]
        rw [decryptedValue_congr hkept]
        rfl
    · simp only [Bool.false_eq_true, if_false, if_neg hblank]
      have hnew : (secretRow f nonce row newValue false).valueEncrypted =
          some (f.encrypt nonce (strip (newValue.getD ""))) := by
        simp [secretRow, hblank]
      rw [decryptedValue_encrypt hnew, Option.getD_some]

theorem rowValue_textRow {value : String} :
    rowValue f env (some (textRow value)) key = strip value := by
  rw [rowValue_some]
  by_cases hempty : strip value = "" <;> simp [textRow, orNone, hempty]

theorem effective_secret (h : savePaymentConfig f a form db = (.ok (), db'))
    {field : String × Option String × Bool} (hfield : field ∈ form.secrets) :
    effective f env db' field.1 =
      entered field.2.1 field.2.2 (encryptedLayer f (db.lookup field.1)) := by
  rw [effective, savePaymentConfig_ok h, lookup_patched, given_secret hfield]
  exact rowValue_secretRow

theorem effective_text (h : savePaymentConfig f a form db = (.ok (), db'))
    {field : String × String} (hfield : field ∈ form.texts) :
    effective f env db' field.1 = strip field.2 := by
  rw [effective, savePaymentConfig_ok h, lookup_patched, given_text hfield]
  exact rowValue_textRow

theorem effective_other (h : savePaymentConfig f a form db = (.ok (), db'))
    (hkey : key ∉ (paymentSettingKeys env).map (·.1)) :
    effective f env db' key = effective f env db key := by
  rw [effective, savePaymentConfig_ok h, lookup_patched, given_other hkey]
  rfl

/-- A setting is a secret, a text or not one of the payment settings. -/
theorem key_cases (form : PaymentForm) (env : Environment) (key : String) :
    (∃ field ∈ form.secrets, field.1 = key) ∨ (∃ field ∈ form.texts, field.1 = key) ∨
      key ∉ (paymentSettingKeys env).map (·.1) := by
  simp only [PaymentForm.secrets, PaymentForm.texts, paymentSettingKeys, List.map_cons,
    List.map_nil, List.mem_cons, List.not_mem_nil, or_false, exists_eq_or_imp, exists_eq_left]
  tauto

theorem keepsBlank_iff :
    KeepsBlank f env db key ↔ encryptedLayer f (db.lookup key) = effective f env db key := by
  unfold KeepsBlank encryptedLayer effective
  cases db.lookup key with
  | none => exact eq_comm
  | some row =>
    change (row.isSecret = true ∧ _ ∨ _) ↔ (decryptedValue f row).getD "" = _
    rw [rowValue_some]
    cases hsecret : row.isSecret with
    | true =>
      cases hvalue : decryptedValue f row with
      | none => simp
      | some value => simp
    | false =>
      simp only [Bool.false_eq_true, false_and, false_or, if_false]
      exact eq_comm

/-- After a save a secret is in the encrypted layer. -/
theorem encryptedLayer_saved (h : savePaymentConfig f a form db = (.ok (), db'))
    {field : String × Option String × Bool} (hfield : field ∈ form.secrets) :
    encryptedLayer f (db'.lookup field.1) = effective f env db' field.1 := by
  rw [effective, savePaymentConfig_ok h, lookup_patched, given_secret hfield]
  exact (rowValue_of_secret rfl).symm

theorem entered_idem (value : Option String) (clearFlag : Bool) (before : String) :
    entered value clearFlag (entered value clearFlag before) = entered value clearFlag before := by
  unfold entered
  split_ifs <;> rfl

theorem entered_eq_iff {before before' : String} :
    entered newValue clearFlag before = entered newValue clearFlag before' ↔
      (Blank newValue clearFlag → before = before') := by
  unfold entered Blank
  cases clearFlag with
  | true => simp
  | false => by_cases hblank : strip (newValue.getD "") = "" <;> simp [hblank]

/-- An attempt in which nothing goes wrong. -/
def Attempt.calm : Attempt := ⟨none, fun _ => 0, fun _ => none, none⟩

theorem upsertSecret_calm (f : Fernet) (db : Settings) (key : String) (newValue : Option String)
    (clearFlag : Bool) : ∃ db', upsertSecret f .calm db key newValue clearFlag = .ok db' := by
  unfold upsertSecret
  dsimp only
  split
  · exact ⟨_, rfl⟩
  · split
    · exact ⟨_, rfl⟩
    · exact ⟨_, rfl⟩

theorem session_calm {body : Settings → Except String Settings} (h : body db = .ok db') :
    session .calm db body = (.ok (), db') := by
  simp only [session]
  rw [h]
  rfl

theorem savePaymentConfig_calm (f : Fernet) (form : PaymentForm) (db : Settings) :
    ∃ db', savePaymentConfig f .calm form db = (.ok (), db') := by
  let texts := upsertText (upsertText (upsertText db "APP_PUBLIC_URL" form.appPublicUrl)
    "MERCADO_PAGO_WEBHOOK_URL" form.webhookUrl)
    "MERCADO_PAGO_USE_SANDBOX" (if form.useSandbox then "1" else "0")
  obtain ⟨token, htoken⟩ := upsertSecret_calm f texts "MERCADO_PAGO_ACCESS_TOKEN" form.accessToken
    form.clearAccessToken
  obtain ⟨publicKey, hpublic⟩ := upsertSecret_calm f token "MERCADO_PAGO_PUBLIC_KEY" form.publicKey
    form.clearPublicKey
  obtain ⟨webhook, hwebhook⟩ := upsertSecret_calm f publicKey "MERCADO_PAGO_WEBHOOK_TOKEN"
    form.webhookToken form.clearWebhookToken
  refine ⟨webhook, session_calm ?_⟩
  exact bind_eq_ok.mpr ⟨token, htoken, bind_eq_ok.mpr ⟨publicKey, hpublic, hwebhook⟩⟩

theorem setPaymentMode_ok {useSandbox : Bool} (h : setPaymentMode a useSandbox db = (.ok (), db')) :
    effective f env db' key =
      if key = "MERCADO_PAGO_USE_SANDBOX" then (if useSandbox then "1" else "0")
      else effective f env db key := by
  unfold setPaymentMode at h
  have hbody := session_ok h
  obtain rfl := Except.ok.inj hbody
  rw [effective, lookup_assign]
  by_cases hkey : key = "MERCADO_PAGO_USE_SANDBOX"
  · rw [if_pos hkey, if_pos hkey, rowValue_some]
    cases useSandbox <;> rfl
  · rw [if_neg hkey, if_neg hkey, effective]

/-- What the application reads is decided by the effective values. -/
theorem getPaymentConfig_congr (lower : String → String)
    (h : ∀ key, effective f env db' key = effective f env db key) :
    getPaymentConfig lower f env db' = getPaymentConfig lower f env db := by
  have hmany : ∀ keys, getMany f env db' keys = getMany f env db keys :=
    fun keys => List.map_congr_left fun key _ => congrArg (Prod.mk key) (h key)
  unfold getPaymentConfig
  rw [hmany]

/-- A save that fails is not seen by the application. -/
theorem getPaymentConfig_failed (lower : String → String) {e : String}
    (h : savePaymentConfig f a form db = (.error e, db')) :
    getPaymentConfig lower f env db' = getPaymentConfig lower f env db :=
  getPaymentConfig_congr lower fun _ => by rw [session_error h]

/-- The save keeps what is left blank exactly if no blank secret comes from the environment or from
a text. -/
theorem changesEntered_iff :
    ChangesEntered f env db form ↔ ∀ field ∈ form.secrets, Blank field.2.1 field.2.2 →
      KeepsBlank f env db field.1 := by
  have hsecret : ∀ {a db'}, savePaymentConfig f a form db = (.ok (), db') →
      ∀ field ∈ form.secrets,
        (effective f env db' field.1 = entered field.2.1 field.2.2 (effective f env db field.1) ↔
          (Blank field.2.1 field.2.2 → KeepsBlank f env db field.1)) := by
    intro a db' h field hfield
    rw [effective_secret h hfield, entered_eq_iff, keepsBlank_iff]
  constructor
  · intro h field hfield
    obtain ⟨db', hsave⟩ := savePaymentConfig_calm f form db
    exact (hsecret hsave field hfield).mp (h.secret _ _ hsave field hfield)
  · intro h
    refine ⟨fun a db' hsave field hfield => (hsecret hsave field hfield).mpr (h field hfield),
      fun a db' hsave field hfield => effective_text hsave hfield,
      fun a db' hsave key hkey => effective_other hsave hkey, ?_,
      fun a useSandbox db' hmode key => setPaymentMode_ok hmode, ?_⟩
    · intro a a' db' db'' hsave hagain key
      rcases key_cases form env key with ⟨field, hfield, rfl⟩ | ⟨field, hfield, rfl⟩ | hkey
      · have hkept : encryptedLayer f (db'.lookup field.1) = effective f env db' field.1 :=
          encryptedLayer_saved hsave hfield
        rw [effective_secret hagain hfield, hkept, effective_secret hsave hfield, entered_idem]
      · rw [effective_text hagain hfield, effective_text hsave hfield]
      · exact effective_other hagain hkey
    · intro a e db' hfail key
      rcases hfail with hsave | ⟨useSandbox, hmode⟩
      · rw [session_error hsave]
      · rw [session_error hmode]

/-! ## A token in the environment -/

/-- A cipher that marks what it encrypts. -/
def markingFernet : Fernet where
  encrypt _ text := String.ofList ('c' :: text.toList)
  decrypt cipher := .ok (String.ofList cipher.toList.tail)
  inverts _ text := by rw [String.toList_ofList, List.tail_cons, String.ofList_toList]
  nonempty _ text h := by simpa using congrArg String.toList h

def tokenEnvironment : Environment where
  appPublicUrl := none
  mercadoPagoAccessToken := some "APP_USR-1"
  mercadoPagoPublicKey := none
  mercadoPagoWebhookUrl := none
  mercadoPagoWebhookToken := none
  mercadoPagoUseSandbox := false

/-- Only the address of the application is entered. -/
def addressForm : PaymentForm where
  appPublicUrl := "https://backup.example"
  webhookUrl := ""
  useSandbox := false
  accessToken := none
  publicKey := none
  webhookToken := none
  clearAccessToken := false
  clearPublicKey := false
  clearWebhookToken := false

/-- The access token of the environment is gone after a save that left it blank. -/
theorem blank_token_lost :
    ¬ ∀ f env db form, ChangesEntered f env db form := by
  intro h
  have hkept := (h markingFernet tokenEnvironment [] addressForm).secret .calm _ rfl
    ("MERCADO_PAGO_ACCESS_TOKEN", none, false) (List.mem_cons_self ..)
  exact absurd hkept (by decide +kernel)

end BackupCenter.Billing.PlatformSettings
