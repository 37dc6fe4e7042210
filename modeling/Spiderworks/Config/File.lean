import Spiderworks.Config.Settings
import Spiderworks.Digest.Sha256
import Spiderworks.Disk.Basic

namespace Spiderworks

inductive ConfigFileError where
  | io (e : IoError)
  | config (e : ConfigError)
  deriving DecidableEq, Repr

def Config.load (d : Disk) (path : String) : Except ConfigFileError (Config × String) :=
  match d.readText path with
  | .error e => .error (.io e)
  | .ok text =>
    match Config.read text with
    | .error e => .error (.config e)
    | .ok c => .ok (c, Sha256.hex (Utf8.encode text))

end Spiderworks
