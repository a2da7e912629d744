import ConsoleNav.Config.Basic
import ConsoleNav.Route.Wire

/-!
The JSON form of settings. A text may give any of them; the others keep their defaults.
-/
namespace ConsoleNav.Config

open Json

def MenuOrigin.toJson : MenuOrigin → Json
  | .builtIn => .object [("kind", .string "fixture")]
  | .remote url retries =>
    .object [("kind", .string "remote"), ("url", .string url), ("retries", .number (.int retries.toNat))]

inductive OriginKind where
  | builtIn
  | remote

def originKinds : List (String × OriginKind) :=
  [("fixture", .builtIn), ("remote", .remote)]

def MenuOrigin.ofBody : OriginKind → Body → Except Cause MenuOrigin
  | .builtIn, body => do
    let () ← body.take "" () []
    .ok .builtIn
  | .remote, body => do
    let (url, retries) ← body.take "struct variant MenuSourceConfig::Remote"
      (("", defaultRetries) : String × UInt32)
      [⟨"url", .always, fun o v => do .ok (← takeString v, o.2)⟩,
        ⟨"retries", .never, fun o v => do .ok (o.1, UInt32.ofNat (← takeNat "u32" UInt32.size v))⟩]
    .ok (.remote url retries)

def MenuOrigin.reader (size depth : Nat) : Reader MenuOrigin := fun cs => do
  let ((kind, body), rest) ← readTagged size "internally tagged enum MenuSourceConfig"
    (readTag originKinds) (Wire.inner (readValue size) depth) cs
  .ok (← here (MenuOrigin.ofBody kind body), rest)

instance : Wire MenuOrigin := ⟨MenuOrigin.toJson, MenuOrigin.reader⟩

def toJson (c : Config) : Json :=
  .object [("host", .string c.host), ("port", .number (.int c.port.toNat)),
    ("menu_source", c.menuOrigin.toJson), ("load_timeout_ms", .number (.int c.loadTimeout.toNat)),
    ("route_filter", .string c.routeFilter.name), ("load_on_startup", .bool c.loadOnStartup)]

/-- The fields of a layer, whose values are nested at most `depth` deep. -/
def Layer.shape (size depth : Nat) : Shape Layer where
  blank := {}
  fields := [
    .of "host" .never readString fun s l => { l with host := some s },
    .of "port" .never (readNat "u16" UInt16.size) fun n l => { l with port := some (UInt16.ofNat n) },
    .of "menu_source" .never (MenuOrigin.reader size depth) fun o l => { l with menuOrigin := some o },
    .of "load_timeout_ms" .never (readNat "u64" UInt64.size) fun n l =>
      { l with loadTimeout := some (UInt64.ofNat n) },
    .of "route_filter" .never (Wire.reader size depth) fun k l => { l with routeFilter := some k },
    .of "load_on_startup" .never readBool fun b l => { l with loadOnStartup := some b }]

def Layer.reader (size depth : Nat) : Reader Layer :=
  readFlatRecord size depth "struct AppConfig" (Layer.shape size (depth - 1))

def reader (size depth : Nat) : Reader Config := fun cs => do
  let (l, rest) ← Layer.reader size depth cs
  .ok (l.onto {}, rest)

instance : Wire Config := ⟨toJson, reader⟩

end ConsoleNav.Config
