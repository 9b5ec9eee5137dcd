import ClassReconciler.Json.Printer
import ClassReconciler.Json.Reader

/-!
# Values sent as text

A value that is sent arrives as what its text writes. A floating point number may arrive
changed, because numerals are not always read as the nearest number.
-/

namespace ClassReconciler

namespace Json

/-- What arrives of a value. -/
def received? (v : Json) : Option Document := Document.ofText? v.text

/-- What arrives of a value, where all of it can be read. -/
def reread? (v : Json) : Option Json := ofText? v.text

end Json

end ClassReconciler
