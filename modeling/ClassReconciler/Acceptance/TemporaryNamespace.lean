import ClassReconciler.Acceptance.Steps

/-!
# Temporary namespaces

A test is given a namespace and the name of a class of its own, which are removed when it has
ended, however it ended. The class's finalizer is removed first, so that no controller is
needed for the class to go away.
-/

namespace ClassReconciler

/-- Characters that a random suffix is drawn from. -/
def isSuffixChar (c : Char) : Bool := c.isDigit || c.isLower

/-- A suffix drawn from random numbers: letters and digits, the letters made small. -/
def suffixOf (draws : List Nat) : String :=
  let letters := "abcdefghijklmnopqrstuvwxyz".toList
  let symbols := letters ++ letters ++ "0123456789".toList
  String.ofList (draws.map fun n => symbols.getD (n % symbols.length) 'a')

/-- The names that a test is given. -/
structure TemporaryNames where
  namespaceName : String
  className : String

def TemporaryNames.ofSuffix (suffix : String) : TemporaryNames where
  namespaceName := "namespace-class-test-" ++ suffix
  className := "test-class-" ++ suffix

/-- Makes a class go away; what fails on the way is passed over. -/
def discardClass (name : String) : Exchange Unit := do
  let found ← Exchange.send none (Collection.classes.get? name) NamespaceClass.decode
  match orAbsent found with
  | .ok (some c) => do
    let (held, released) := c.removeFinalizer
    if held then
      let _ ← Exchange.send none (Collection.classes.replace? name released.encode)
        NamespaceClass.decode
    let _ ← Exchange.send none (Collection.classes.delete? name)
      (Decode.deletion NamespaceClass.decode)
    pure ()
  | _ => pure ()

/-- Runs a test in a namespace of its own. The namespace says which test thread it is for.
The failure of its removal hides the test's own. -/
def withTemporaryNamespace (names : TemporaryNames) (thread : String)
    (test : Exchange (Except TestFailure α)) : TestStep α := do
  let ns : Namespace := { metadata := {
    name := some names.namespaceName
    labels := some (SortedMap.ofList [("namespace-class-test", thread)]) } }
  let _ ← TestStep.expect .createNamespace (Collection.namespaces.create? ns.encode)
    Namespace.decode
  let result ← ExceptT.lift test
  TestStep.expect .deleteNamespace
    (Collection.namespaces.delete? names.namespaceName
      (.obj [("propagationPolicy", .str "Background")]))
    (Decode.deletion Namespace.decode)
  discardClass names.className
  ExceptT.mk (pure result)

end ClassReconciler
