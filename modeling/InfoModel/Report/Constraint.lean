import InfoModel.Constraint.Basic
import InfoModel.Report.Basic

/-!
# Reports of constraints

A set of constraints is shown with its variables, its rules, and how many rules there are of each
kind.
-/

namespace InfoModel
open InfoModel.Text

def Let.report (l : Let) : Tree :=
  .list [l.name.report, .text l.expression, .optionText l.remarks, l.source.report]

def AllowedValue.report (v : AllowedValue) : Tree :=
  .list [.text v.value, .optionText v.deprecated, .optionText v.description]

def KeyField.report (k : KeyField) : Tree :=
  .list [.text k.target, .optionText (k.pattern.map Pattern.source), .optionText k.remarks]

def keysReport (ks : List KeyField) : String × Tree :=
  ("key_fields", .list (ks.map KeyField.report))

def Check.entries : Check → List (String × Tree)
  | .allowedValues values allowOther extensible =>
    [("values", .list (values.map AllowedValue.report)), ("allow_other", .bool allowOther),
      ("extensible", .text extensible.text)]
  | .matches _ pattern datatype =>
    [("pattern", .optionText (pattern.map Pattern.source)),
      ("datatype", .optionText (datatype.map Datatype.name))]
  | .expect _ test => [("test", .text test)]
  | .index _ name ks | .indexHasKey _ name ks => [("name", .text name), keysReport ks]
  | .unique _ ks => [keysReport ks]
  | .hasCardinality _ min max =>
    [("min", .option (fun n => .nat n.toNat) min), ("effective_min", .nat (min.getD 0).toNat),
      ("max", .optionText (max.map MaxOccurs.text)),
      ("max_i32", .option (fun m => .integer m.flat) max)]

def Documentation.entries (d : Documentation) : List (String × Tree) :=
  [("formal_name", .optionText d.formalName), ("description", .optionText d.description),
    ("remarks", .optionText d.remarks), ("props", d.properties.report)]

def Rule.report (r : Rule) : Tree :=
  .record ([("kind", .text r.check.kind.text), ("id", .optionText r.head.id),
    ("level", .text r.head.level.text), ("target", .text r.head.target),
    ("message", .optionText r.check.message)] ++ r.head.documentation.entries ++
    [("source", r.head.source.report)] ++ r.check.entries)

def ConstraintSet.report (s : ConstraintSet) : Tree :=
  .record [("empty", .bool s.isEmpty), ("lets", .list (s.lets.map Let.report)),
    ("rules", .list (s.rules.map Rule.report)),
    ("counts", .list (CheckKind.all.map fun k => .nat (s.ofKind k).length))]

end InfoModel
