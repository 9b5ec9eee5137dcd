import ClassReconciler.Api.Client
import ClassReconciler.CommandLine.Settings
import ClassReconciler.Controller.Controller
import ClassReconciler.Json.Printer
import ClassReconciler.Object.Definition
import ClassReconciler.Text.Quoted
import ClassReconciler.Text.Split

/-!
# Launching

What the settings ask for: the definition of the class resource is printed before anything
else is looked at, settings that make no sense are refused, and otherwise the controllers are
started.
-/

namespace ClassReconciler

/-! ## Files -/

/-- Why no file is read at a path. -/
inductive PathError where
  | missing
  | directory
  | tooLong
  | zeroCharacter
deriving DecidableEq

def PathError.message : PathError → String
  | .missing => "No such file or directory (os error 2)"
  | .directory => "Is a directory (os error 21)"
  | .tooLong => "File name too long (os error 36)"
  | .zeroCharacter => "file name contained an unexpected NUL byte"

/-- Why no file is read at a path that names nothing which exists. Without a name in it, it leads
to a directory; names have at most 255 bytes, and whole paths at most 4095. -/
def PathError.ofPath (path : String) : PathError :=
  let names := (splitAll '/' path.toList).filter (· ∉ [[], ['.'], ['.', '.']])
  if '\x00' ∈ path.toList then .zeroCharacter
  else if 4095 < path.utf8ByteSize then .tooLong
  else
    match names with
    | [] => .directory
    | name :: _ => if 255 < (String.ofList name).utf8ByteSize then .tooLong else .missing

/-! ## Launches -/

/-- Why the controllers are not started. -/
inductive LaunchError where
  | noWorkers
  | retryRange
  | unreadableKubeconfig (path : String) (error : PathError)
  | noCluster

def LaunchError.message : LaunchError → String
  | .noWorkers => "--workers must be at least 1"
  | .retryRange => "--retry-min-ms must not exceed --retry-max-ms"
  | .unreadableKubeconfig path error =>
    "failed to read kubeconfig from '" ++ quoted path ++ "': " ++ error.message
  | .noCluster => "failed to infer a cluster to connect to"

/-- What is done for the settings. -/
inductive Launch where
  | printDefinition
  | refuse (error : LaunchError)
  | start (settings : Settings)

/-- The number of workers is looked at before the delays. -/
def Settings.launch (s : Settings) : Launch :=
  if s.printsDefinition then .printDefinition
  else if s.workers = 0 then .refuse .noWorkers
  else if s.retryMaxMs < s.retryMinMs then .refuse .retryRange
  else .start s

/-! ## Starting -/

def Settings.apiConfig (s : Settings) : ApiConfig := ⟨s.requestTimeoutMs, s.controllerName⟩

/-- A controller that has reconciled nothing yet. -/
def Settings.controller (s : Settings) : Controller where
  retries := { backoff := ⟨.ofMillis s.retryMinMs, .ofMillis s.retryMaxMs⟩ }

/-! ## Ending -/

/-- What a run of the program leaves behind. -/
structure ExitReport where
  exit : Nat
  stdout : String
  stderr : String

/-- What a launch leaves behind where no file that it names exists and no cluster can be
reached. -/
def Launch.unconnected : Launch → ExitReport
  | .printDefinition => ⟨0, Definition.document.yaml, ""⟩
  | .refuse e => ⟨1, "", e.message⟩
  | .start s =>
    let e := match s.kubeconfig with
      | some path => LaunchError.unreadableKubeconfig path (.ofPath path)
      | none => .noCluster
    ⟨1, "", e.message⟩

end ClassReconciler
