import ConsoleNav.Config.Environment
import ConsoleNav.Config.Wire
import ConsoleNav.Text.Utf8

/-!
Settings from a file and the environment. The environment lies over the file, and the file over the
defaults; a file that cannot be used counts as a whole or not at all.
-/
namespace ConsoleNav.Config

inductive FileFault where
  | notText
  | malformed (fault : Json.Fault)

def FileFault.message (path : String) : FileFault → String
  | .notText => "Failed to read config file " ++ path ++ ": stream did not contain valid UTF-8"
  | .malformed fault => "Failed to parse config file: " ++ fault.cause.message

/-- The path of the file, given the directory for settings, if one is set, and the home directory. -/
def filePath? (settings home : Option String) : Option String :=
  match settings with
  | some d => if d.startsWith "/" then some (d ++ "/job-admin/config.json") else inHome
  | none => inHome
where
  inHome := home.map (· ++ "/.config/job-admin/config.json")

/-- The settings of a file, which need not exist. -/
def ofFile : Option (List UInt8) → Except FileFault Config
  | none => .ok {}
  | some octets =>
    match Text.decodeUtf8? octets with
    | none => .error .notText
    | some text =>
      match Json.Wire.decode text with
      | .ok c => .ok c
      | .error fault => .error (.malformed fault)

def load (file : Option (List UInt8)) (env : Environment) : Except FileFault Config := do
  .ok ((Layer.ofEnvironment env).onto (← ofFile file))

/-- The settings of a file and an environment, where a file that cannot be used is passed over. -/
def loadOrDefault (file : Option (List UInt8)) (env : Environment) : Config :=
  match load file env with
  | .ok c => c
  | .error _ => (Layer.ofEnvironment env).onto {}

end ConsoleNav.Config
