import BackupCenter.Lib.Shell
import BackupCenter.Messages.Sanitizer

/-!
# The dump of the Zabbix database

The command line that dumps the database on the server, with the password of the database in it,
and the message that the script makes of what the server answers.
-/
namespace BackupCenter.Zabbix

open BackupCenter.Lib
open BackupCenter.Lib.Shell
open BackupCenter.Messages

/-! ## The command -/

/-- `_build_dump_base` -/
def buildDumpBase (dbType dbName dbUser dbPassword : List Char) (excludeTables : List (List Char)) :
    List Char :=
  if dbType = "postgres".toList then
    let excludeFlags :=
      [' '].intercalate (excludeTables.map fun t => "--exclude-table=".toList ++ quote t)
    stripChars ("PGPASSWORD=".toList ++ quote dbPassword ++ " pg_dump -h localhost -U ".toList ++
      quote dbUser ++ ' ' :: excludeFlags ++ ' ' :: quote dbName)
  else
    let excludeFlags := [' '].intercalate
      (excludeTables.map fun t => "--ignore-table=".toList ++ quote (dbName ++ '.' :: t))
    stripChars ("MYSQL_PWD=".toList ++ quote dbPassword ++
      " mysqldump --single-transaction -h localhost -u ".toList ++ quote dbUser ++
      ' ' :: quote dbName ++ ' ' :: excludeFlags)

/-- `MIN_REMOTE_DUMP_SIZE` -/
def minRemoteDumpSize : Int := 128

/-- What the script of `_build_dump_command` does behind the dump. -/
def dumpChecks (remote errPath : List Char) : List Char :=
  " 2>".toList ++ quote errPath ++ " | gzip > ".toList ++ quote remote ++
    ("; dump_status=$\x7bPIPESTATUS[0]:-1\x7d; gzip_status=$\x7bPIPESTATUS[1]:-1\x7d; " ++
      "size=$(wc -c < ").toList ++ quote remote ++
    (" 2>/dev/null || echo 0); echo \"__BC_DUMP_STATUS__ dump=$\x7bdump_status\x7d " ++
      "gzip=$\x7bgzip_status\x7d size=$\x7bsize:-0\x7d\"; if [ \"$\x7bdump_status\x7d\" -ne 0 ] || " ++
      "[ \"$\x7bgzip_status\x7d\" -ne 0 ] || [ \"$\x7bsize:-0\x7d\" -lt 128 ]; then " ++
      "echo \"__BC_DUMP_ERROR__\"; cat ").toList ++ quote errPath ++ " 2>/dev/null; fi".toList

/-- The script of `_build_dump_command`. -/
def dumpScript (dumpBase remote errPath : List Char) : List Char :=
  "rm -f ".toList ++ quote remote ++ ' ' :: quote errPath ++ "; ".toList ++ dumpBase ++
    dumpChecks remote errPath

/-- `_build_dump_command`: the command, and the file for what the dump writes to its error output -/
def buildDumpCommand (dumpBase remoteFilepath : List Char) : List Char × List Char :=
  let errPath := remoteFilepath ++ ".err".toList
  ("bash -lc ".toList ++ quote (dumpScript dumpBase remoteFilepath errPath), errPath)

/-! ## The message -/

variable (w : WordTables)

/-- The text of the answer that the message is made of. -/
def dumpErrorText (rawError : List Char) : List Char :=
  hideOptions (hidePasswords w (stripChars (collapse rawError)))

/-- The category and the message for a text without passwords. -/
def friendlyDumpText (text : List Char) (dbType : List Char) (size : Int) : String × String :=
  let low := w.lower (String.ofList text)
  let dbLabel := if dbType = "postgres".toList then "PostgreSQL" else "MariaDB/MySQL"
  let client := if dbType = "postgres".toList then "pg_dump" else "mysqldump"
  if contains low "command not found" || contains low (client ++ ": not found") ||
      contains low "no such file" then
    ("CONFIGURACAO", "Cliente " ++ dbLabel ++ " nao encontrado no servidor (" ++ client ++
      "). Confira o tipo de banco selecionado ou instale o cliente de dump.")
  else if containsAny low ["access denied", "authentication failed",
      "password authentication failed"] then
    ("AUTENTICACAO", "Credenciais do banco " ++ dbLabel ++
      " foram recusadas. Confira usuario e senha do banco no cadastro ou no zabbix_server.conf.")
  else if contains low "database" && containsAny low ["does not exist", "unknown database"] then
    ("CONFIGURACAO",
      "Banco de dados informado nao existe no servidor. Confira o nome do banco do Zabbix.")
  else if containsAny low ["could not connect", "connection refused", "can't connect",
      "cannot connect"] then
    ("CONEXAO", "Nao foi possivel conectar ao banco " ++ dbLabel ++
      " local no servidor Zabbix.")
  else if contains low "permission denied" then
    ("AUTENTICACAO",
      "Usuario conectado nao tem permissao suficiente para gerar ou gravar o dump temporario.")
  else if size ≠ 0 ∧ size < minRemoteDumpSize then
    ("CONFIGURACAO", "Dump gerado ficou vazio ou pequeno demais. Confira se o tipo de banco " ++
      "selecionado esta correto e se as credenciais acessam o banco do Zabbix.")
  else if text ≠ [] then ("SCRIPT", String.ofList (text.take 500))
  else
    ("SCRIPT", "Comando de dump nao retornou uma confirmacao valida. Confira o tipo de banco e " ++
      "as credenciais cadastradas.")

/-- `_friendly_dump_error` -/
def friendlyDumpError (rawError dbType : List Char) (size : Int) : String × String :=
  friendlyDumpText w (dumpErrorText w rawError) dbType size

/-! ## Answers with the command in them -/

/-- The database that is dumped, without its password. -/
structure Database where
  dbType : List Char
  dbName : List Char
  dbUser : List Char
  excludeTables : List (List Char)

def Database.dumpBase (db : Database) (password : List Char) : List Char :=
  buildDumpBase db.dbType db.dbName db.dbUser password db.excludeTables

/-- A part of an answer: a text of its own, or the command for the dump. -/
inductive Piece where
  | text (chars : List Char)
  | base
  | command (remoteFilepath : List Char)

variable {w}

def Piece.shown (db : Database) (password : List Char) : Piece → List Char
  | .text chars => chars
  | .base => db.dumpBase password
  | .command remoteFilepath => (buildDumpCommand (db.dumpBase password) remoteFilepath).1

/-- The answer of a device that repeats the command for the password. -/
def answer (db : Database) (password : List Char) (pieces : List Piece) : List Char :=
  pieces.flatMap (Piece.shown db password)

/-- No command that starts with the variable of the password stands right behind a word. -/
def Apart (w : WordTables) (db : Database) (password : List Char) (pieces : List Piece) : Prop :=
  ∀ before behind, pieces = before ++ .base :: behind →
    (answer db password before).getLast?.any w.isWord = false

end BackupCenter.Zabbix
