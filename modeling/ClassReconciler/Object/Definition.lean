import ClassReconciler.Json

/-!
# The definition of the class resource

The document that makes a cluster know namespace classes: a cluster-scoped resource with a
status of its own, whose embedded resources are kept as they are.
-/

namespace ClassReconciler

namespace Definition

def group : String := "namespaceclass.akuity.io"

def version : String := "v1alpha1"

/-- The schema of a list of embedded resources. -/
def embeddedResources (description : String) (extra : List (String × Json)) : Json :=
  Json.ofFields <| extra ++ [
    ("description", .str description),
    ("items", .obj [
      ("type", .str "object"),
      ("x-kubernetes-embedded-resource", .bool true),
      ("x-kubernetes-preserve-unknown-fields", .bool true)]),
    ("type", .str "array")]

def specSchema : Json := Json.ofFields [
  ("description", .str
    "Declares the resources that every namespace labeled with this class must contain."),
  ("properties", .obj [("resources", embeddedResources
    ("Raw Kubernetes objects (e.g. NetworkPolicy, ServiceAccount) to create in each namespace " ++
      "using this class. Any `metadata.namespace` is replaced with the target namespace.") [])]),
  ("type", .str "object")]

def statusSchema : Json := Json.ofFields [
  ("nullable", .bool true),
  ("properties", .obj [("lastAppliedResources", embeddedResources
    ("The resources that were applied by the last completed reconciliation. " ++
      "Always serialized so that a merge patch can clear it.") [("default", .arr [])])]),
  ("type", .str "object")]

def schema : Json := Json.ofFields [
  ("description", .str
    "Auto-generated derived type for NamespaceClassSpec via `CustomResource`"),
  ("properties", Json.ofFields [("spec", specSchema), ("status", statusSchema)]),
  ("required", .arr [.str "spec"]),
  ("title", .str "NamespaceClass"),
  ("type", .str "object")]

def names : Json := Json.ofFields [
  ("categories", .arr []),
  ("kind", .str "NamespaceClass"),
  ("plural", .str "namespaceclasses"),
  ("shortNames", .arr [.str "nsclass"]),
  ("singular", .str "namespaceclass")]

/-- The only version, which is served and stored. -/
def onlyVersion : Json := Json.ofFields [
  ("additionalPrinterColumns", .arr []),
  ("name", .str version),
  ("schema", .obj [("openAPIV3Schema", schema)]),
  ("served", .bool true),
  ("storage", .bool true),
  ("subresources", .obj [("status", .obj [])])]

def document : Json := Json.ofFields [
  ("apiVersion", .str "apiextensions.k8s.io/v1"),
  ("kind", .str "CustomResourceDefinition"),
  ("metadata", .obj [("name", .str ("namespaceclasses." ++ group))]),
  ("spec", Json.ofFields [
    ("group", .str group),
    ("names", names),
    ("scope", .str "Cluster"),
    ("versions", .arr [onlyVersion])])]

end Definition

end ClassReconciler
