import BackupCenter.Messages.Masking

/-!
# Messages for operators

`sanitize_operational_message`: what a message of a script or of the executor is turned into before
it is shown. The stages run one after the other on the text that the one before has left.
-/
namespace BackupCenter.Messages

open BackupCenter.Lib
open BackupCenter.Lib.Regex

variable (w : WordTables)

/-- `\x1B\[[0-9;?]*[A-Za-z]` -/
def escapeRe : Regex :=
  inOrder [text "\x1b[", star (chr fun c => c.isDigit || c == ';' || c == '?'), chr Char.isAlpha]

/-- `.\x08` -/
def backspaceRe : Regex := seq dot (chr (· == '\x08'))

/-- `\bDetalhes?:` in any case -/
def detailRe : Regex :=
  inOrder [wordEdge w.isWord, itext "Detalhe", opt (ichar 's'), chr (· == ':')]

/-- `DETAIL_REPLACEMENTS` -/
def detailReplacements : List (String × String) :=
  [("<class 'pexpect.exceptions.EOF'>", "conexao encerrada antes do login/banner"),
    ("pexpect.exceptions.EOF", "conexao encerrada antes do login/banner"),
    ("<class 'pexpect.exceptions.TIMEOUT'>", "tempo esgotado aguardando resposta do equipamento"),
    ("pexpect.exceptions.TIMEOUT", "tempo esgotado aguardando resposta do equipamento"),
    ("<class 'EOFError'>", "conexao encerrada pelo equipamento"),
    ("EOFError", "conexao encerrada pelo equipamento"),
    ("NetmikoTimeoutException", "tempo esgotado na conexao com o equipamento"),
    ("NetmikoAuthenticationException", "falha de autenticacao no equipamento"),
    ("ReadTimeout", "tempo esgotado aguardando resposta do equipamento"),
    ("ParamikoAuthenticationException", "falha de autenticacao SSH"),
    ("SSHException", "falha na negociacao SSH")]

/-- `USELESS_DETAIL_PATTERNS` -/
def uselessDetails : List String :=
  ["<class 'pexpect.exceptions.EOF'>", "<class 'pexpect.exceptions.TIMEOUT'>",
    "<class 'EOFError'>"]

/-- `\s*Detalhe:\s*…\s*\.?` -/
def uselessRe (detail : String) : Regex :=
  inOrder [star space, text "Detalhe:", star space, text detail, star space,
    opt (chr (· == '.'))]

/-- `FRIENDLY_ERROR_PATTERNS` -/
def friendlyErrorPatterns : List (List String × String) :=
  [(["incompatible ssh peer", "no acceptable kex algorithm", "kex algorithm"],
      "SSH incompativel: o equipamento usa algoritmo antigo de troca de chaves que nao foi aceito " ++
        "nesta conexao."),
    (["no matching cipher", "no acceptable ciphers", "cipher"],
      "SSH incompativel: o equipamento usa cifra/criptografia que nao foi aceita nesta conexao."),
    (["error reading ssh protocol banner", "ssh protocol banner"],
      "A porta abriu, mas nao apresentou banner SSH valido. Confira se a porta/protocolo " ++
        "cadastrados estao corretos."),
    (["connection refused", "errno 111"],
      "A porta recusou a conexao. Confira porta, NAT, firewall ou servico remoto."),
    (["no route to host", "network is unreachable", "unable to connect"],
      "Nao ha rota/acesso de rede ate o equipamento."),
    (["authentication failed", "login failed", "permission denied", "bad username",
        "bad password"],
      "Credenciais recusadas pelo equipamento."),
    (["pattern not detected", "prompt not detected"],
      "O equipamento conectou, mas nao apresentou o prompt esperado para continuar o backup."),
    (["timed out", "timeout"], "Tempo esgotado aguardando resposta do equipamento."),
    (["connection reset by peer", "closed by remote host", "transport shut down or saw eof"],
      "A conexao foi encerrada pelo equipamento durante a tentativa.")]

/-! ## The detail -/

/-- `re.split` at the first detail mark: what stands before it, and the last part. -/
def splitDetail (message : String) : String × String :=
  match splitFrom (detailRe w) none message.toList with
  | some (before, behind) => (String.ofList before, String.ofList behind)
  | none => (message, message)

/-- The name that a part begins with, up to a colon. -/
def profileName (part : List Char) : Option String :=
  let isName (c : Char) : Bool := c.isAlphanum || c == '_' || c == '.' || c == '-'
  let part := part.dropWhile isSpace
  match part.takeWhile isName, (part.dropWhile isName).dropWhile isSpace with
  | [], _ => none
  | name, ':' :: _ => some (String.ofList name)
  | _, _ => none

/-- `_extract_attempted_profiles`. The white space behind a semicolon belongs to the separator; a
part is trimmed before its name is read. -/
def extractAttemptedProfiles (message : String) : List String :=
  let parts := (splitDetail w message).2.toList.splitOn ';'
  let profiles := parts.foldl (fun profiles part =>
    match profileName part with
    | some name => if profiles.contains name then profiles else profiles ++ [name]
    | none => profiles) []
  profiles.take 6

/-- `_friendly_detail_for` -/
def friendlyDetailFor (message : String) : Option String :=
  let low := w.lower message
  (friendlyErrorPatterns.find? fun group => containsAny low group.1).map fun group =>
    match extractAttemptedProfiles w message with
    | [] => group.2
    | profiles => group.2 ++ " Perfis de conexao testados: " ++ ", ".intercalate profiles ++ "."

/-! ## The stages -/

/-- `re.sub(r"\s+", " ", text)` -/
def collapse (text : List Char) : List Char := (plus space).subChars " " text

/-- The detail of a known error takes the place of whatever follows the first detail mark. -/
def withFriendlyDetail (message : String) : String :=
  match friendlyDetailFor w message with
  | none => message
  | some detail =>
    let stated := strip (splitDetail w message).1
    let before := if stated = "" then "Falha durante a operacao." else stated
    before ++ " Detalhe: " ++ detail

def sanitizeOperationalMessage (message : String) : String :=
  if message = "" then message
  else
    let message := escapeRe.sub "" message
    let message := backspaceRe.sub "" message
    let message := String.ofList (hideOptions (hidePasswords w message.toList))
    let message := withFriendlyDetail w message
    let message := detailReplacements.foldl (fun message r => (text r.1).sub r.2 message) message
    let message := uselessDetails.foldl (fun message d => (uselessRe d).sub "" message) message
    let message := (text "despositivo").sub "dispositivo" message
    strip (String.ofList (collapse message.toList))

end BackupCenter.Messages
