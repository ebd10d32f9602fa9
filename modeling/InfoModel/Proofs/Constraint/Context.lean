import InfoModel.Constraint.Compile
import InfoModel.Proofs.Building.Relabelling

/-!
# Three contexts of one block

A block of rules for values may stand on a flag, on a field, or among the rules of an assembly. All
three refuse the same blocks for the same reason and make the same rules of the others, except that
a rule of a flag applies to the flag itself. Only a flag notices other targets, and only those of
the rules before the first that is not valid. Main statement:
`compileValueConstraints_contexts_agree`.
-/

namespace InfoModel

namespace Traced
variable {σ τ ε α β γ δ : Type}

theorem Restates.mapM {f : α → β} {g : γ → δ} {make : γ → Traced σ ε α} {make' : δ → Traced σ ε β}
    (h : ∀ c, Restates f (make c) (make' (g c))) (cs : List γ) :
    Restates (List.map f) (cs.mapM make) ((cs.map g).mapM make') := by
  induction cs with
  | nil => rfl
  | cons c cs ih =>
    rw [List.map_cons, List.mapM_cons, List.mapM_cons]
    exact (h c).bind fun a => ih.bind fun as => rfl

/-- Where a failure leaves no steps of its own, the steps are those before the first failure. -/
theorem trace_mapM {f : α → Traced σ ε β} (h : ∀ a e, (f a).outcome = .error e → (f a).trace = [])
    (as : List α) :
    (as.mapM f).trace =
      (as.takeWhile fun a => (f a).outcome.isOk).flatMap fun a => (f a).trace := by
  induction as with
  | nil => rfl
  | cons a as ih =>
    rw [List.mapM_cons]
    cases ha : (f a).outcome with
    | error e =>
      have hok : (f a).outcome.isOk = false := by rw [ha]; rfl
      rw [trace_bind_error ha, h a e ha, List.takeWhile_cons_of_neg (by simp [hok])]
      rfl
    | ok b =>
      have hok : (f a).outcome.isOk = true := by rw [ha]; rfl
      have hrest : (as.mapM f >>= fun bs => pure (b :: bs)).trace = (as.mapM f).trace := by
        cases hs : (as.mapM f).outcome with
        | error e => exact trace_bind_error hs _
        | ok bs => rw [trace_bind_ok hs]; exact List.append_nil _
      rw [trace_bind_ok ha, hrest, ih, List.takeWhile_cons_of_pos (by simp [hok])]
      rfl

end Traced

def RuleDecl.otherTarget? (d : RuleDecl γ) : Option String := d.head.target.filter (· ≠ selfTarget)

def Rule.atSelf (rule : Rule) : Rule := ⟨{ rule.head with target := selfTarget }, rule.check⟩

def Event.isFlagTarget : Event → Bool
  | .flagTarget .. => true
  | _ => false

variable (r : Registry) (source : Source)

theorem outcome_compileFlagHead (d : RuleHeadDecl) :
    (compileFlagHead source d).outcome =
      .ok { compileHead source d with target := selfTarget } := by
  unfold compileFlagHead
  cases d.target with
  | none => rfl
  | some target =>
    dsimp only
    split
    · rfl
    · rfl

theorem trace_compileFlagHead (d : RuleDecl γ) :
    (compileFlagHead source d.head).trace
      = d.otherTarget?.toList.map (.flagTarget source.shortName) := by
  unfold compileFlagHead RuleDecl.otherTarget?
  cases d.head.target with
  | none => rfl
  | some target =>
    dsimp only
    split
    case isTrue ht => simp [Option.filter, ht, Traced.value, Traced.ofExcept]
    case isFalse ht => simp [Option.filter, ht]

theorem restates_compileModelRule (d : RuleDecl ValueCheckDecl) :
    Traced.Restates id (compileValueRule r source .field d)
      (compileModelRule r source d.toModel) := by
  refine Traced.Restates.bind_same rfl fun check => ?_
  rfl

theorem restates_compileFlagRule (d : RuleDecl ValueCheckDecl) :
    Traced.Restates Rule.atSelf (compileValueRule r source .field d)
      (compileValueRule r source .flag d) := by
  refine Traced.Restates.bind_same rfl fun check => ?_
  have hhead : Traced.Restates (fun h : RuleHead => { h with target := selfTarget })
      (.value (compileHead source d.head)) (compileFlagHead source d.head) :=
    outcome_compileFlagHead source d.head
  exact hhead.bind fun head => rfl

/-- A rule is refused before its head is looked at, so a flag's rule that is not valid does not
notice its target. -/
theorem trace_compileFlagRule (d : RuleDecl ValueCheckDecl) :
    (compileValueRule r source .flag d).trace
      = if (compileValueRule r source .flag d).outcome.isOk
        then d.otherTarget?.toList.map (.flagTarget source.shortName) else [] := by
  cases hcheck : compileValueCheck r d.check with
  | error e =>
    have hrule : compileValueRule r source .flag d = .fail e := by
      simp only [compileValueRule, hcheck]
      rfl
    rw [hrule]
    rfl
  | ok check =>
    have hrule : compileValueRule r source .flag d
        = compileFlagHead source d.head >>= fun head => pure ⟨head, check⟩ := by
      simp only [compileValueRule, hcheck]
      rfl
    have hhead := outcome_compileFlagHead source d.head
    rw [hrule, Traced.outcome_bind, hhead, Traced.trace_bind_ok hhead, trace_compileFlagHead]
    exact List.append_nil _

theorem isOk_compileFlagRule (d : RuleDecl ValueCheckDecl) :
    (compileValueRule r source .flag d).outcome.isOk
      = (compileValueRule r source .field d).outcome.isOk := by
  rw [restates_compileFlagRule r source d]
  cases (compileValueRule r source .field d).outcome with
  | ok rule => rfl
  | error e => rfl

theorem trace_compileFieldRule (d : RuleDecl ValueCheckDecl) :
    (compileValueRule r source .field d).trace = [] := by
  cases hcheck : compileValueCheck r d.check with
  | error e =>
    simp only [compileValueRule, hcheck]
    rfl
  | ok check =>
    simp only [compileValueRule, hcheck]
    rfl

theorem trace_compileModelRule (d : RuleDecl ModelCheckDecl) :
    (compileModelRule r source d).trace = [] := by
  cases hcheck : compileModelCheck r d.head d.check with
  | error e =>
    simp only [compileModelRule, hcheck]
    rfl
  | ok check =>
    simp only [compileModelRule, hcheck]
    rfl

/-- Compiles a block whose rules are compiled by `make`, and says so in the end by `event`. -/
def compileBlock (make : RuleDecl γ → Compiled Rule) (event : Nat → Nat → Event)
    (d : ConstraintDecl γ) : Compiled ConstraintSet := do
  let lets ← compileLets source d.lets
  let rules ← d.rules.mapM make
  .step (event lets.length rules.length)
  return ⟨lets, rules⟩

theorem compileValueConstraints_eq_compileBlock (context : ValueContext)
    (d : ValueConstraintDecl) :
    compileValueConstraints r source context d
      = compileBlock source (compileValueRule r source context)
          (.compiledValueRules source.shortName context.text) d := rfl

theorem compileModelConstraints_eq_compileBlock (d : ModelConstraintDecl) :
    compileModelConstraints r source d
      = compileBlock source (compileModelRule r source) (.compiledModelRules source.shortName) d :=
  rfl

def ConstraintSet.mapRules (f : Rule → Rule) (s : ConstraintSet) : ConstraintSet :=
  { s with rules := s.rules.map f }

variable {make : RuleDecl γ → Compiled Rule} {event event' : Nat → Nat → Event}

theorem restates_compileBlock {make' : RuleDecl δ → Compiled Rule} {f : Rule → Rule}
    {g : RuleDecl γ → RuleDecl δ} (h : ∀ rule, Traced.Restates f (make rule) (make' (g rule)))
    (d : ConstraintDecl γ) :
    Traced.Restates (ConstraintSet.mapRules f) (compileBlock source make event d)
      (compileBlock source make' event' ⟨d.lets, d.rules.map g⟩) :=
  Traced.Restates.bind_same rfl fun _ => (Traced.Restates.mapM h d.rules).bind fun _ => rfl

theorem restates_compileModelConstraints (d : ValueConstraintDecl) :
    Traced.Restates (ConstraintSet.mapRules id) (compileValueConstraints r source .field d)
      (compileModelConstraints r source d.toModel) :=
  restates_compileBlock source (restates_compileModelRule r source) d

theorem restates_compileFlagConstraints (d : ValueConstraintDecl) :
    Traced.Restates (ConstraintSet.mapRules Rule.atSelf) (compileValueConstraints r source .field d)
      (compileValueConstraints r source .flag d) := by
  have h : Traced.Restates _ (compileValueConstraints r source .field d)
      (compileValueConstraints r source .flag ⟨d.lets, d.rules.map id⟩) :=
    restates_compileBlock source (restates_compileFlagRule r source) d
  rwa [List.map_id] at h

theorem filter_trace_compileBlock {p : Event → Bool}
    (hp : ∀ lets rules, p (event lets rules) = false) (d : ConstraintDecl γ) :
    (compileBlock source make event d).trace.filter p
      = if (compileLets source d.lets).outcome.isOk then (d.rules.mapM make).trace.filter p
        else [] := by
  unfold compileBlock
  cases hlets : (compileLets source d.lets).outcome with
  | error e =>
    rw [Traced.trace_bind_error hlets]
    rfl
  | ok lets =>
    rw [Traced.trace_bind_ok hlets]
    cases hrules : (d.rules.mapM make).outcome with
    | error e =>
      rw [Traced.trace_bind_error hrules]
      rfl
    | ok rules =>
      have hend : (Traced.step (event lets.length rules.length) >>= fun _ =>
          pure (⟨lets, rules⟩ : ConstraintSet) : Compiled ConstraintSet).trace.filter p = [] := by
        simp [bind, pure, Traced.andThen, Traced.step, Traced.steps, Traced.value,
          Traced.ofExcept, hp]
      rw [Traced.trace_bind_ok hrules]
      change ([] ++ ((d.rules.mapM make).trace ++ _)).filter p = _
      rw [List.nil_append, List.filter_append, hend, List.append_nil]
      rfl

/-- The targets that the rules of a flag's block declare besides the flag itself: of all rules
before the first that is not valid, and of none if a variable is not valid. -/
def ConstraintDecl.otherTargets (d : ValueConstraintDecl) : List String :=
  if (compileLets source d.lets).outcome.isOk then
    (d.rules.takeWhile fun rule => (compileValueRule r source .field rule).outcome.isOk).filterMap
      RuleDecl.otherTarget?
  else []

theorem filter_trace_mapM_of_silent {p : Event → Bool} (h : ∀ rule, (make rule).trace = [])
    (rules : List (RuleDecl γ)) : (rules.mapM make).trace.filter p = [] := by
  rw [Traced.trace_mapM fun rule _ _ => h rule]
  simp [h]

theorem trace_mapM_compileFlagRule (rules : List (RuleDecl ValueCheckDecl)) :
    (rules.mapM (compileValueRule r source .flag)).trace
      = ((rules.takeWhile fun rule =>
          (compileValueRule r source .field rule).outcome.isOk).filterMap
            RuleDecl.otherTarget?).map (.flagTarget source.shortName) := by
  have hsilent : ∀ rule e, (compileValueRule r source .flag rule).outcome = .error e →
      (compileValueRule r source .flag rule).trace = [] := by
    intro rule e he
    rw [trace_compileFlagRule, he]
    rfl
  rw [Traced.trace_mapM hsilent]
  simp only [isOk_compileFlagRule]
  induction rules with
  | nil => rfl
  | cons rule rules ih =>
    cases hok : (compileValueRule r source .field rule).outcome.isOk with
    | false => simp [hok]
    | true =>
      rw [List.takeWhile_cons_of_pos (by simp [hok]), List.flatMap_cons, ih, trace_compileFlagRule,
        isOk_compileFlagRule, hok, if_pos rfl, List.filterMap_cons]
      cases rule.otherTarget? with
      | none => rfl
      | some target => rfl

/-- The same block on an assembly makes the rules that it makes on a field, and on a flag it makes
them for the flag itself, or each refuses it for the same reason. Only the flag notices targets:
each one other than the flag itself that a rule before the first refused rule declares. -/
theorem compileValueConstraints_contexts_agree (d : ValueConstraintDecl) :
    (compileModelConstraints r source d.toModel).outcome
      = (compileValueConstraints r source .field d).outcome
    ∧ (compileValueConstraints r source .flag d).outcome
      = (compileValueConstraints r source .field d).outcome.map (ConstraintSet.mapRules Rule.atSelf)
    ∧ (compileValueConstraints r source .flag d).trace.filter Event.isFlagTarget
      = (d.otherTargets r source).map (.flagTarget source.shortName)
    ∧ (compileValueConstraints r source .field d).trace.filter Event.isFlagTarget = []
    ∧ (compileModelConstraints r source d.toModel).trace.filter Event.isFlagTarget = [] := by
  refine ⟨?_, restates_compileFlagConstraints r source d, ?_, ?_, ?_⟩
  · have hmodel := restates_compileModelConstraints r source d
    unfold Traced.Restates at hmodel
    rw [hmodel]
    cases (compileValueConstraints r source .field d).outcome with
    | error e => rfl
    | ok s => simp [Except.map, ConstraintSet.mapRules]
  · rw [compileValueConstraints_eq_compileBlock, filter_trace_compileBlock source (fun _ _ => rfl),
      trace_mapM_compileFlagRule]
    unfold ConstraintDecl.otherTargets
    split
    · refine List.filter_eq_self.mpr ?_
      intro event hevent
      obtain ⟨target, -, rfl⟩ := List.mem_map.mp hevent
      rfl
    · rfl
  · rw [compileValueConstraints_eq_compileBlock, filter_trace_compileBlock source (fun _ _ => rfl),
      filter_trace_mapM_of_silent (trace_compileFieldRule r source), ite_self]
  · rw [compileModelConstraints_eq_compileBlock, filter_trace_compileBlock source (fun _ _ => rfl),
      filter_trace_mapM_of_silent (trace_compileModelRule r source), ite_self]

/-- A target is noticed neither in a rule that is not valid nor after it. -/
example (documentation : DocumentationDecl) :
    (⟨[], [⟨⟨none, none, some "count", documentation⟩, .expect none "true()"⟩,
        ⟨⟨none, none, some ".", documentation⟩, .expect none "true()"⟩,
        ⟨⟨none, none, some "size", documentation⟩, .indexHasKey none "sizes" []⟩,
        ⟨⟨none, none, some "color", documentation⟩, .expect none "true()"⟩]⟩
      : ValueConstraintDecl).otherTargets r source = ["count"] := by
  rfl

end InfoModel
