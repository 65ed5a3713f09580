import BackupCenter.Olt.OltCli
import BackupCenter.Olt.Zte

/-!
# Which answer the command line scripts store

Both loops keep the longest answer and stop at the first that they accept. The law of the
selection holds exactly when these are one and the same.
-/
namespace BackupCenter.Olt

open BackupCenter.Lib

/-- A script with what it is called with besides the answers to its backup commands. -/
inductive CliScript where
  | oltCli (profile : OltCli.OltCliProfile) (request : OltCli.Request) (probes : List Answer)
  | zte (nomeDispositivo : String)

namespace CliScript

variable (tables : CharTables)

def run : CliScript → List Answer → Outcome
  | oltCli profile request probes, answers =>
    OltCli.runOltCliBackup tables profile request answers probes
  | zte nomeDispositivo, answers => Zte.realizarBackup tables nomeDispositivo answers

/-- The answers to the commands that may be sent, judged with the script's own predicates. -/
def judged : CliScript → List Answer → List Judged
  | oltCli profile _ _, answers => OltCli.judged tables profile answers
  | zte _, answers => Zte.judged tables answers

def message : CliScript → String → String
  | oltCli _ request _ => OltCli.successMessage request
  | zte nomeDispositivo => Zte.successMessage nomeDispositivo

def kept : CliScript → Judged → Bool
  | oltCli .. => OltCli.kept
  | zte _ => Zte.kept

def accepted : CliScript → Judged → Bool
  | oltCli .. => OltCli.accepted
  | zte _ => Zte.accepted

end CliScript

end BackupCenter.Olt
