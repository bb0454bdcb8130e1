set_option autoImplicit false

namespace RecordFilter

inductive LogLevel where
  | off | error | warn | info | debug | trace
deriving DecidableEq

namespace LogLevel

def name : LogLevel → String
  | off => "OFF"
  | error => "ERROR"
  | warn => "WARN"
  | info => "INFO"
  | debug => "DEBUG"
  | trace => "TRACE"

/-- Reads the name of a level in any case of its ASCII letters; what is no name of a level is taken for `INFO`. -/
def ofText (s : String) : LogLevel :=
  match String.ofList (s.toList.map Char.toLower) with
  | "error" => error
  | "warn" => warn
  | "debug" => debug
  | "trace" => trace
  | "off" => off
  | _ => info

end LogLevel

structure Logger where
  name : String
  level : LogLevel
  /-- Whether its lines go on to the root logger. -/
  additive : Bool
  appenders : List String

structure LogSetup where
  root : LogLevel
  rootAppenders : List String
  appenders : List String
  loggers : List Logger
  files : List String

namespace LogSetup

def build (application : String) (level : Option String) (dev : Bool) : LogSetup :=
  let root := LogLevel.ofText (level.getD "info")
  let target := application ++ "::dev"
  let file := application ++ ".log"
  if dev then ⟨root, ["app"], ["app", "dev"], [⟨target, .trace, false, ["dev"]⟩], [file, "dev.log"]⟩
  else ⟨root, ["app"], ["app"], [⟨target, .off, false, []⟩], [file]⟩

end LogSetup

end RecordFilter
