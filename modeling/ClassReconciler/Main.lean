import ClassReconciler.Api.Client
import ClassReconciler.CommandLine.Launch
import ClassReconciler.CommandLine.Relay
import ClassReconciler.Reconcile.Reconciler

/-!
# The command line program

Prints the definition of the class resource, refuses settings that make no sense, or starts
the controllers on the standard streams, where a relay holds the connection to the cluster.
-/

namespace ClassReconciler

/-- The streams that the relay is on. -/
structure RelayStreams where
  input : IO.FS.Stream
  output : IO.FS.Stream

namespace RelayStreams

def write (r : RelayStreams) (line : String) : IO Unit := do
  r.output.putStrLn line
  r.output.flush

/-- Answers a step of an exchange. A request that has no time at all is not written. -/
def answer (r : RelayStreams) : (s : ExchangeStep) → IO s.Answer
  | .send _ (some 0) => pure Reply.timedOut
  | .send request limit => do
    r.write (request.line limit)
    let line ← r.input.getLine
    pure (Reply.ofLine line)
  | .wait ms => IO.sleep (UInt32.ofNat ms)
  | .clock => do
    let ms ← IO.monoMsNow
    pure ms

/-- Reconciles one object. -/
def reconcileKey (r : RelayStreams) (config : ApiConfig) (client : ApiClient)
    (controller : Controller) (key : Key) : IO (ApiClient × Controller) := do
  let start ← IO.monoNanosNow
  let (result, client) ← (client.run config (reconcile key).run).runM r.answer
  let nanos := (← IO.monoNanosNow) - start
  let elapsed := (Duration.ofParts? (nanos / nanosPerSecond) (nanos % nanosPerSecond)).getD .zero
  let (next, controller) := controller.finish key result elapsed
  r.write (ReconcileResult.line key result next)
  pure (client, controller)

/-- Reconciles the objects that the relay names, until it names no more. -/
partial def serve (r : RelayStreams) (config : ApiConfig) (client : ApiClient)
    (controller : Controller) : IO UInt32 := do
  let line ← r.input.getLine
  if line.isEmpty then pure 0
  else
    match Key.ofLine? line with
    | none => r.serve config client controller
    | some key => do
      let (client, controller) ← r.reconcileKey config client controller key
      r.serve config client controller

end RelayStreams

/-- Ends the program with an error. -/
def failWith (code : UInt32) (message : String) : IO UInt32 := do
  IO.eprintln message
  pure code

/-- The file that is to describe the cluster can be read, if one is named. -/
def kubeconfigIsReadable (settings : Settings) : IO Bool := do
  match settings.kubeconfig with
  | none => pure true
  | some path =>
    try
      let _ ← IO.FS.readFile path
      pure true
    catch _ => pure false

def runLaunch : Launch → IO UInt32
  | .printDefinition => do
    IO.print Definition.document.yaml
    pure 0
  | .refuse e => failWith 1 e.message
  | .start settings => do
    if ← kubeconfigIsReadable settings then
      let streams : RelayStreams := ⟨← IO.getStdin, ← IO.getStdout⟩
      streams.serve settings.apiConfig {} settings.controller
    else
      let path := settings.kubeconfig.getD ""
      failWith 1 (LaunchError.unreadableKubeconfig path (.ofPath path)).message

def runArguments (args : List String) : IO UInt32 :=
  match Settings.ofArguments args with
  | .error e => failWith 2 e.message
  | .ok settings => runLaunch settings.launch

end ClassReconciler

def main (args : List String) : IO UInt32 := ClassReconciler.runArguments args
