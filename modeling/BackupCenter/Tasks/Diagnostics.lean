import BackupCenter.Tasks.Meta

/-!
# Failure categories and the retry filter

`classifyFailure` is a cascade of substring tests whose order matters: a message
that mentions both a refused credential and a timeout is an authentication failure.
`shouldRetryTransientFailure` decides which failures a follow-up batch may retry.
-/
namespace BackupCenter.Tasks

open BackupCenter.Lib

variable (env : Env)

/-- `str(value or "").strip().lower()`. -/
def normalize (s : String) : String := env.lower (strip s)

/-- The category of a failure message. -/
def classifyFailure (message : String) : String :=
  let text := env.lower (strip message)
  if text = "" then "unknown"
  else if contains text "circuit breaker" &&
      containsAny text ["aberto", "ativado", "bloqueado"] then
    "circuit_breaker"
  else if contains text "error reading ssh protocol banner" then "banner_timeout"
  else if containsAny text ["sessao com jump host encerrada", "sessão com jump host encerrada",
      "nao foi possivel abrir shell interativo no jump host",
      "não foi possível abrir shell interativo no jump host"] then "jump_session_closed"
  else if contains text "jump host respondeu mas o dispositivo destino" then "connection"
  -- a refused credential mentions connectivity too, so it is tested before the next two groups
  else if containsAny text ["credenciais foram recusadas", "credenciais recusadas",
      "credencial recusada", "credenciais invalidas", "credenciais inválidas"] then "auth"
  else if containsAny text ["timed out", "timeout", "timeoutexception", "softtimelimitexceeded",
      "tempo esgotado", "tempo limite"] then "timeout"
  else if containsAny text ["rede inalcan", "não foi possível acessar a porta",
      "nao foi possivel acessar a porta", "precheck/fail-fast", "falha de conectividade",
      "conectividade com o dispositivo", "estabelecer conexao", "estabelecer conexão",
      "estabelecer conexao valida", "encerrada pelo equipamento", "conexao foi encerrada",
      "conexão foi encerrada", "rota/acesso de rede", "nao ha rota", "não há rota",
      "no route to host", "kex_exchange", "escape character"] then "connection"
  else if containsAny text ["connection refused", "refused", "errno 111", "port closed",
      "porta recusou", "recusou a conex", "a porta recusou"] then "port_refused"
  else if containsAny text ["eof", "connection closed", "socket", "network", "host unreachable",
      "no route to host", "tcp connection", "ssh", "telnet"] then "connection"
  else if containsAny text ["sem resposta ao ping", "no ping", "icmp", "100% packet loss"] then
    "no_ping"
  else if containsAny text ["auth", "autentic", "credencia", "senha", "password", "access denied",
      "permission denied", "login failed", "unauthorized", "invalid credentials",
      "has been locked", "cannot log on"] then "auth"
  else if containsAny text ["worker vpn", "networkmanager indispon", "nmcli não encontrado",
      "nmcli nao encontrado"] then "vpn_worker"
  else if containsAny text ["grafana_url", "api_key", "cadastro incomplet", "cadastro invalid",
      "cadastro inválid"] then "config"
  else if containsAny text ["vpn", "nmcli", "l2tp", "ipsec", "ppp"] then "vpn"
  else if containsAny text ["script", "traceback", "syntaxerror", "attributeerror", "typeerror",
      "keyerror", "modulenotfound", "importerror", "configuracao retornada",
      "configuração retornada", "retornou configuracao", "retornou configuração",
      "nao retornou configuracao", "não retornou configuração", "coleta do backup",
      "integridade do arquivo", "arquivo muito pequeno", "muito curta", "configuracao valida",
      "configuração válida", "criacao do dump", "criação do dump", "pg_dump", "dump retornou",
      "dump do zabbix"] then "script"
  else "unknown"

def transientFailureCategories : List String :=
  ["timeout", "connection", "vpn", "jump_session_closed"]

def isTransientFailure (category : String) : Bool :=
  transientFailureCategories.contains (env.lower (strip category))

/-- `str(stated or classify_failure(fallback)).strip().lower()`. -/
def statedCategory (stated fallback : String) : String :=
  normalize env (if stated ≠ "" then stated else classifyFailure env fallback)

/-- The same category with the tallies' own default for an empty one. -/
def tallyCategory (stated fallback : String) : String :=
  if statedCategory env stated fallback = "" then "unknown" else statedCategory env stated fallback

def isNmcliBackendUnavailableMessage (message : String) : Bool :=
  containsAny (env.lower (strip message))
    ["networkmanager indisponivel neste worker", "networkmanager indisponível neste worker",
      "backend do networkmanager indisponivel", "backend do networkmanager indisponível",
      "nmcli general status", "could not create nmclient object",
      "could not connect: no such file or directory", "nmcli nao encontrado",
      "nmcli não encontrado"]

/-- Lower case with every run of white space made one blank. -/
def normalizeRetryToken (value : String) : String :=
  " ".intercalate (words (env.lower (strip value)))

def isTransientRetryDeniedForDevice (deviceName deviceId : String) : Bool :=
  let normalizedName := normalizeRetryToken env deviceName
  let normalizedId := normalizeRetryToken env deviceId
  (normalizedId ≠ "" && env.transientRetryDenylistIds.contains normalizedId) ||
    (normalizedName ≠ "" && env.transientRetryDenylistNames.contains normalizedName)

/-- Messages of a connection failure that no retry will cure. -/
def hardMarkers : List String :=
  ["connection refused", "no route to host", "network is unreachable",
    "unable to connect to remote host", "unable to connect to port", "timeout opening channel",
    "administratively prohibited", "jump host nao conseguiu abrir canal tcp",
    "jump host não conseguiu abrir canal tcp", "authentication failed", "invalid username",
    "invalid password", "unauthorized", "access denied", "permission denied", "wrong tcp port",
    "incorrect hostname"]

/-- Whether a failed device may be retried automatically. -/
def shouldRetryTransientFailure (category message deviceName deviceId : String) : Bool :=
  let normalizedCategory := normalize env category
  let text := normalize env message
  if normalizedCategory = "" then false
  else if !isTransientFailure env normalizedCategory then false
  else if isNmcliBackendUnavailableMessage env text then false
  else if isTransientRetryDeniedForDevice env deviceName deviceId then false
  else if normalizedCategory = "connection" && containsAny text hardMarkers then false
  else true

/-- An accepted failure is of a transient category. -/
theorem transient_of_shouldRetry {category message deviceName deviceId : String}
    (h : shouldRetryTransientFailure env category message deviceName deviceId = true) :
    isTransientFailure env (normalize env category) = true := by
  simp only [shouldRetryTransientFailure] at h
  split at h
  · cases h
  split at h
  · cases h
  next ht => simpa using ht

end BackupCenter.Tasks
