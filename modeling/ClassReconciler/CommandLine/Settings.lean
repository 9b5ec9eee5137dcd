import ClassReconciler.CommandLine.LogFilter
import ClassReconciler.CommandLine.SocketAddress
import ClassReconciler.CommandLine.TimeoutText
import ClassReconciler.Time.Duration

/-!
# Settings

What the command line sets, with the defaults, and how the arguments are read. An option is
written `--name value` or `--name=value` and may be given once. A value of its own argument
is checked when the next option starts, or at the end; an argument that is not known ends the
reading before that. Behind the command `crd` nothing may follow but two hyphens.
-/

namespace ClassReconciler

inductive LogFormat where
  | plain
  | json
deriving DecidableEq

/-- What the command line sets. -/
structure Settings where
  logLevel : String := "namespace_class=info,warn"
  logFormat : LogFormat := .plain
  cluster : Option String := none
  context : Option String := none
  kubeconfig : Option String := none
  user : Option String := none
  impersonateUser : Option String := none
  impersonateGroup : Option String := none
  responseHeadersTimeout : String := "9s"
  adminAddress : String := "0.0.0.0:8080"
  workers : Nat := 4
  requestTimeoutMs : Nat := 5000
  retryMinMs : Nat := 500
  retryMaxMs : Nat := 60000
  controllerName : String := "namespace-class-controller"
  printsDefinition : Bool := false

/-- Why arguments are not understood. -/
inductive ArgumentError where
  | invalidValue
  | missingValue
  | unknownArgument
  | unknownCommand
  | repeatedOption
deriving DecidableEq

def ArgumentError.message : ArgumentError → String
  | .invalidValue => "error: invalid value for one of the arguments"
  | .missingValue => "error: one of the values isn't valid for an argument"
  | .unknownArgument => "error: unexpected argument found"
  | .unknownCommand => "error: unrecognized subcommand"
  | .repeatedOption =>
    "error: an argument cannot be used with one or more of the other specified arguments"

/-! ## Values -/

namespace Settings

/-- A decimal number below a bound, with an optional plus sign. -/
def number? (bound : Nat) (s : String) : Option Nat :=
  let digits := skipPlus s.toList
  if isDigits digits ∧ digitsValue digits < bound then some (digitsValue digits) else none

/-- A number of 16 bits, for which zero may have a minus sign. -/
def word16? (s : String) : Option Nat :=
  match s.toList with
  | '-' :: c :: rest => if (c :: rest).all (· = '0') then some 0 else none
  | _ => number? UInt16.size s

def word64? : String → Option Nat := number? UInt64.size

/-- Sets the option of a name to a value; none where there is no such option. -/
def set? (s : Settings) (name value : String) : Option (Except ArgumentError Settings) :=
  let checked {α : Type} (a : Option α) (put : α → Settings) :
      Option (Except ArgumentError Settings) :=
    match a with
    | some a => some (.ok (put a))
    | none => some (.error .invalidValue)
  match name with
  | "log-level" =>
    checked (if LogFilter.isWritten value then some value else none)
      fun v => { s with logLevel := v }
  | "log-format" =>
    let format : Option LogFormat :=
      if value = "plain" then some .plain else if value = "json" then some .json else none
    checked format fun v => { s with logFormat := v }
  | "cluster" => some (.ok { s with cluster := some value })
  | "context" => some (.ok { s with context := some value })
  | "kubeconfig" =>
    some (if value = "" then .error .missingValue else .ok { s with kubeconfig := some value })
  | "user" => some (.ok { s with user := some value })
  | "as" => some (.ok { s with impersonateUser := some value })
  | "as-group" => some (.ok { s with impersonateGroup := some value })
  | "kube-api-response-headers-timeout" =>
    checked (if TimeoutText.isWritten value then some value else none)
      fun v => { s with responseHeadersTimeout := v }
  | "admin-addr" =>
    checked (if SocketAddress.isWritten value then some value else none)
      fun v => { s with adminAddress := v }
  | "workers" => checked (word16? value) fun v => { s with workers := v }
  | "request-timeout-ms" => checked (word64? value) fun v => { s with requestTimeoutMs := v }
  | "retry-min-ms" => checked (word64? value) fun v => { s with retryMinMs := v }
  | "retry-max-ms" => checked (word64? value) fun v => { s with retryMaxMs := v }
  | "controller-name" => some (.ok { s with controllerName := value })
  | _ => none

/-- There is an option of the name. -/
def isOption (name : String) : Bool := (set? {} name "").isSome

end Settings

/-! ## Arguments -/

/-- The settings so far, the options that were given, and the option whose value is still to
be checked, with the value unless it has yet to come. -/
structure ArgumentState where
  settings : Settings := {}
  given : List String := []
  pending : Option (String × Option String) := none

namespace ArgumentState

/-- Sets an option, which must not have been given before. -/
def assign (s : ArgumentState) (name value : String) : Except ArgumentError ArgumentState :=
  if name ∈ s.given then .error .repeatedOption
  else do
    let settings ← (s.settings.set? name value).getD (.error .unknownArgument)
    pure { s with settings, given := name :: s.given }

/-- Checks the value that is still to be checked. -/
def settle (s : ArgumentState) : Except ArgumentError ArgumentState :=
  match s.pending with
  | none => .ok s
  | some (_, none) => .error .missingValue
  | some (name, some value) => { s with pending := none }.assign name value

/-- An option and the value behind its equals sign. -/
def option (s : ArgumentState) (body : String) : Except ArgumentError ArgumentState :=
  let name := String.ofList (body.toList.takeWhile (· ≠ '='))
  let value := body.toList.dropWhile (· ≠ '=')
  if !Settings.isOption name then .error .unknownArgument
  else do
    let s ← s.settle
    match value with
    | [] => pure { s with pending := some (name, none) }
    | _ :: value => s.assign name (String.ofList value)

end ArgumentState

/-- An argument that starts with a hyphen and is more than that. -/
def looksLikeOption (arg : String) : Bool :=
  match arg.toList with
  | ['-'] => false
  | '-' :: _ => true
  | _ => false

/-- What stands behind two hyphens that end the options. -/
def readTrailing : List String → Except ArgumentError Unit
  | [] => .ok ()
  | arg :: _ => .error (if arg = "crd" then .unknownArgument else .unknownCommand)

/-- Reads arguments. -/
def readArguments (s : ArgumentState) : List String → Except ArgumentError Settings
  | [] => do
    let s ← s.settle
    pure s.settings
  | arg :: rest =>
    let awaitsValue : Option String :=
      match s.pending with
      | some (name, none) => some name
      | _ => none
    if awaitsValue.isNone ∧ arg = "crd" then
      if rest ∈ [[], ["--"]] then do
        let s ← s.settle
        pure { s.settings with printsDefinition := true }
      else .error .unknownArgument
    else if arg = "--" then do
      readTrailing rest
      let s ← s.settle
      pure s.settings
    else if arg.startsWith "--" then do
      let s ← s.option (arg.drop 2).toString
      readArguments s rest
    else if looksLikeOption arg then .error .unknownArgument
    else
      match awaitsValue with
      | some name => readArguments { s with pending := some (name, some arg) } rest
      | none => .error .unknownCommand

/-- The settings that arguments write. -/
def Settings.ofArguments (args : List String) : Except ArgumentError Settings :=
  readArguments {} args

end ClassReconciler
