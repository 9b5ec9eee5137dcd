import ClassReconciler.Template

/-!
# Differences between revisions

What became of each template from one revision of a class to the next. The templates of the
next revision fall into three parts, each in their own order; those of the previous one that
the next one has no longer are a part of their own. Where an identity occurs several times in
the previous revision, the last occurrence is what a template is compared with.
-/

namespace ClassReconciler

/-- What a template is, compared with the previous revision. -/
inductive Change where
  | added
  | changed
  | unchanged
deriving DecidableEq

/-- The templates of two revisions by what became of them. -/
structure Diff where
  added : List Template
  changed : List Template
  unchanged : List Template
  removed : List Template

namespace Diff

/-- The last template of an identity. -/
def last? (templates : List Template) (id : TemplateId) : Option Template :=
  (templates.filter (·.id = id)).getLast?

/-- What a template is, compared with the previous revision. -/
def change (previous : List Template) (t : Template) : Change :=
  match last? previous t.id with
  | none => .added
  | some prior => if prior == t then .unchanged else .changed

def compute (previous current : List Template) : Diff where
  added := current.filter fun t => change previous t = .added
  changed := current.filter fun t => change previous t = .changed
  unchanged := current.filter fun t => change previous t = .unchanged
  removed := previous.filter fun t => t.id ∉ current.map Template.id

/-- The identities of a previous revision that the current one has no longer, in ascending
order. -/
def removedIds (previous current : List TemplateId) : List TemplateId :=
  TemplateId.sorted (previous.filter (· ∉ current))

end Diff

end ClassReconciler
