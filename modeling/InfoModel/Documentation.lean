import InfoModel.Property

/-!
# Documentation

Declarations may carry a formal name, a description, properties and remarks.
-/

namespace InfoModel

structure DocumentationDecl where
  formalName : Option String
  description : Option String
  props : List PropertyDecl
  remarks : Option String
deriving Repr, DecidableEq

def DocumentationDecl.ofTree? (t : Tree) : Option DocumentationDecl := do
  return ⟨← t.optionalText "formal-name", ← t.optionalText "description",
    ← t.items "props" PropertyDecl.ofTree?, ← t.optionalText "remarks"⟩

/-- The documentation of something declared, with its properties grouped. -/
structure Documentation where
  formalName : Option String
  description : Option String
  properties : Properties
  remarks : Option String
deriving Repr, DecidableEq

def DocumentationDecl.toDocumentation (d : DocumentationDecl) : Documentation :=
  ⟨d.formalName, d.description, Properties.ofDecls d.props, d.remarks⟩

end InfoModel
