import Verdict.Rule.Limits
import Verdict.Settings.Document
import Verdict.Settings.Environment
import Verdict.Settings.Files
import Verdict.Settings.Toml.Reader

set_option autoImplicit false

namespace Verdict

structure Observability where
  logLevel : String := "info"
  jsonLogs : Bool := false
deriving DecidableEq

structure Settings where
  serviceName : String := ""
  environment : String := ""
  limits : Limits := {}
  observability : Observability := {}
deriving DecidableEq

namespace Settings

def isProduction (s : Settings) : Bool := s.environment = "production"

def named (first second : String) : List Setting → List (String × Setting)
  | [] => []
  | [a] => [(first, a)]
  | a :: b :: _ => [(first, a), (second, b)]

def group? (first second : String) : Setting → Option (List (String × Setting))
  | .table ms => some ms
  | .list xs => some (named first second xs)
  | _ => none

def member? {α : Type} (f : Setting → Option α) (default : α) (name : String)
    (ms : List (String × Setting)) : Option α :=
  match ms.lookup name with
  | some s => f s
  | none => some default

def limits? (s : Setting) : Option Limits := do
  let ms ← group? "max_depth" "max_nodes" s
  let standard : Limits := {}
  let maxDepth ← member? Setting.toCount? standard.maxDepth "max_depth" ms
  let maxNodes ← member? Setting.toCount? standard.maxNodes "max_nodes" ms
  some { maxDepth, maxNodes }

def observability? (s : Setting) : Option Observability := do
  let ms ← group? "log_level" "json_logs" s
  let standard : Observability := {}
  let logLevel ← member? Setting.toText? standard.logLevel "log_level" ms
  let jsonLogs ← member? Setting.toFlag? standard.jsonLogs "json_logs" ms
  some { logLevel, jsonLogs }

def ofSetting? (s : Setting) : Option Settings := do
  let serviceName ← member? Setting.toText? "" "service_name" s.members
  let environment ← member? Setting.toText? "" "environment" s.members
  let limits ← member? limits? {} "limits" s.members
  let observability ← member? observability? {} "observability" s.members
  some { serviceName, environment, limits, observability }

def base (service environment : String) : Setting :=
  .table [("service_name", .text service), ("environment", .text environment)]

def ofLayers? (base : Setting) (layers : List (List (String × Setting))) : Option Settings :=
  ofSetting? (layers.foldl (fun under source => Setting.layer source under) base)

def toml? (text : String) : Option (List (String × Setting)) :=
  (Toml.read? text.toList).map Setting.members

def defaultEnvironment : String := "development"

def ofToml? (service text : String) : Option Settings := do
  let source ← toml? text
  ofLayers? (base service defaultEnvironment) [source]

def withoutMark (text : String) : String := String.ofList (Toml.skipMark text.toList)

/-- The settings of a file; a missing file sets nothing. A file of this name with `.toml` or `.json`
after it stands in for one that is missing; a file called `.toml` has no extension and is not taken. -/
def file? (files : Files) (path : String) : Option (List (String × Setting)) :=
  match files.get? path, files.get? (path ++ ".toml"), files.get? (path ++ ".json") with
  | some text, _, _ =>
      if (Files.names path).getLast? = some ".toml" then some [] else toml? (withoutMark text)
  | none, some text, _ => toml? (withoutMark text)
  | none, none, some text => Setting.ofDocument? (withoutMark text)
  | none, none, none => some []

/-- Settings from the files of a directory and the environment: the default file, the environment's
file, the service's file, and last the vars. -/
def load? (service : String) (files : Files) (vars : List (String × String)) :
    Option Settings := do
  let environment := (vars.lookup "RULEKIT_ENV").getD defaultEnvironment
  let directory := (vars.lookup "CONFIG_DIR").getD "config"
  let sources ← ["default", environment, service].mapM fun name =>
    file? files (Files.join directory (name ++ ".toml"))
  ofLayers? (base service environment) (sources ++ [Environment.settings vars])

end Settings

end Verdict
