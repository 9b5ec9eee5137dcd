/-!
# Well-known keys

The label, the annotations and the finalizer that tie namespaces to their classes.
-/

namespace ClassReconciler

/-- The label on a namespace that names its class. -/
def classLabel : String := "namespaceclass.akuity.io/name"

/-- The annotation on a namespace that asks for everything of the class to be deleted when
the class is deleted. -/
def cleanupKey : String := "namespaceclass.akuity.io/cleanup"

/-- The annotation on a namespace that asks for what the class no longer declares to be
deleted. -/
def cleanupObsoleteKey : String := "namespaceclass.akuity.io/cleanup-obsolete"

/-- The finalizer that holds a class until its namespaces are cleaned up. -/
def classFinalizer : String := "namespaceclass.akuity.io/finalizer"

/-- The selector of the namespaces that name a class. -/
def classSelector (className : String) : String := classLabel ++ "=" ++ className

end ClassReconciler
