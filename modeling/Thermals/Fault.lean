import Thermals.Config
import Thermals.Log.Record

namespace Thermals

inductive Fault where
  | record (fault : Log.RecordFault)
  | config (fault : ConfigFault)
  /-- A text of settings that is not in their notation. -/
  | settings
  /-- A row of a log that holds no record. -/
  | row
  | file
  deriving DecidableEq

/-- What is told of a fault. The readers of settings, rows and files give a reason of their own. -/
def Fault.message (reason : String) : Fault → String
  | .record fault => "parse error " ++ fault.message
  | .config fault => "config error " ++ fault.message
  | .settings => "RON error " ++ reason
  | .row => "CSV error " ++ reason
  | .file => "IO error " ++ reason

end Thermals
