import InfoModel.Model.Part
import InfoModel.Proofs.Constraint.Context
import InfoModel.Proofs.Fault

/-!
# Blocks as a whole

A block is compiled in order or not at all. What is wrong with it is what is wrong with the first of
its variables, or if they are all valid with the first of its rules; otherwise its variables and
rules stand in the compiled set one for one. Main statement: `compileConstraints_all_or_nothing`.
-/

namespace InfoModel
open InfoModel.Text

/-! ### Variables -/

namespace LetDecl

def Valid (d : LetDecl) : Prop := isNcName (trimChars d.name.toList) = true

instance (d : LetDecl) : Decidable d.Valid := inferInstanceAs (Decidable (_ = _))

def fault? (d : LetDecl) : Option ConstraintFault :=
  if d.Valid then none else some (.invalidLetName d.name)

def variableIn (source : Source) (d : LetDecl) : Let :=
  ⟨⟨none, trim d.name⟩, d.expression, source, d.remarks⟩

theorem compile_eq (source : Source) (d : LetDecl) :
    Let.compile source d =
      if d.Valid then .ok (d.variableIn source) else .error (.invalidLetName d.name) := by
  cases h : nameFault? (trimChars d.name.toList) with
  | none =>
    simp [Let.compile, QName.unqualified, QName.make, Valid, isNcName, variableIn, trim, h]
  | some cause => simp [Let.compile, QName.unqualified, QName.make, Valid, isNcName, trim, h]

theorem faultOf?_compile (source : Source) (d : LetDecl) :
    faultOf? (Let.compile source d) = d.fault? := by
  rw [compile_eq]
  unfold fault?
  split <;> rfl

theorem eq_variableIn_of_compile {source : Source} {d : LetDecl} {l : Let}
    (h : Let.compile source d = .ok l) : d.variableIn source = l := by
  rw [compile_eq] at h
  split at h
  · exact Except.ok.inj h
  · cases h

end LetDecl

/-! ### Keys -/

def patternFault? (text : String) : Option ConstraintFault :=
  if (Pattern.compile text).isSome then none else some (.invalidRegex text)

def datatypeFault? (r : Registry) (name : String) : Option ConstraintFault :=
  if (r.lookup name).isSome then none else some (.unknownDatatype name)

/-- What is wrong with a key: it has no parts, or else the pattern of one of them is not valid. -/
def keysFault? (kind : CheckKind) (name : String) (keys : List KeyDecl) : Option ConstraintFault :=
  if keys.isEmpty then some (.noKeyFields kind name)
  else keys.findSome? fun key => key.pattern.bind patternFault?

structure KeyDecl.Compiles (d : KeyDecl) (key : KeyField) : Prop where
  target : key.target = d.target
  pattern : key.pattern.map some = d.pattern.map Pattern.compile
  remarks : key.remarks = d.remarks

theorem faultOf?_compilePattern (pattern : Option String) :
    faultOf? (compilePattern pattern) = pattern.bind patternFault? := by
  unfold compilePattern patternFault?
  cases pattern with
  | none => rfl
  | some text => cases h : Pattern.compile text <;> simp [faultOf?, h]

theorem eq_of_compilePattern {pattern : Option String} {p : Option Pattern}
    (h : compilePattern pattern = .ok p) : p.map some = pattern.map Pattern.compile := by
  unfold compilePattern at h
  cases pattern with
  | none =>
    cases h
    rfl
  | some text =>
    dsimp only at h
    split at h
    · next q hq =>
      cases h
      simp [hq]
    · cases h

theorem faultOf?_compileDatatype (r : Registry) (name : Option String) :
    faultOf? (compileDatatype r name) = name.bind (datatypeFault? r) := by
  unfold compileDatatype datatypeFault?
  cases name with
  | none => rfl
  | some n => cases h : r.lookup n <;> simp [faultOf?, h]

theorem eq_of_compileDatatype {r : Registry} {name : Option String} {t : Option Datatype}
    (h : compileDatatype r name = .ok t) : t.map some = name.map r.lookup := by
  unfold compileDatatype at h
  cases name with
  | none =>
    cases h
    rfl
  | some n =>
    dsimp only at h
    split at h
    · next t' ht =>
      cases h
      simp [ht]
    · cases h

theorem faultOf?_compileKeys (kind : CheckKind) (name : String) (keys : List KeyDecl) :
    faultOf? (compileKeys kind name keys) = keysFault? kind name keys := by
  have hkey : ∀ key, faultOf? (KeyField.compile key) = key.pattern.bind patternFault? := by
    intro key
    unfold KeyField.compile
    rw [faultOf?_map, faultOf?_compilePattern]
  unfold compileKeys keysFault?
  split
  · rfl
  · rw [faultOf?_listMapM]
    simp only [hkey]

theorem compiles_of_compileKeys {kind : CheckKind} {name : String} {keys : List KeyDecl}
    {compiled : List KeyField} (h : compileKeys kind name keys = .ok compiled) :
    List.Forall₂ KeyDecl.Compiles keys compiled := by
  unfold compileKeys at h
  split at h
  · cases h
  · refine (Except.listMapM_eq_ok_iff.mp h).imp fun key field hfield => ?_
    obtain ⟨p, hp, rfl⟩ := Except.map_eq_ok_iff.mp hfield
    exact ⟨rfl, eq_of_compilePattern hp, rfl⟩

/-! ### Checks -/

namespace ModelCheckDecl

def kind : ModelCheckDecl → CheckKind
  | .value (.allowedValues ..) => .allowedValues
  | .value (.matches ..) => .matches
  | .value (.expect ..) => .expect
  | .value (.indexHasKey ..) => .indexHasKey
  | .index .. => .index
  | .unique .. => .unique
  | .hasCardinality .. => .hasCardinality

/-- What is wrong with a check: a pattern comes before a datatype, and that a key has no parts comes
before what is wrong with one of them. -/
def fault? (r : Registry) (head : RuleHeadDecl) : ModelCheckDecl → Option ConstraintFault
  | .value (.allowedValues ..) => none
  | .value (.matches _ pattern datatype) =>
    (pattern.bind patternFault?).or (datatype.bind (datatypeFault? r))
  | .value (.expect ..) => none
  | .value (.indexHasKey _ name keys) => keysFault? .indexHasKey name keys
  | .index _ name keys => keysFault? .index name keys
  | .unique _ keys => keysFault? .unique (uniqueName head) keys
  | .hasCardinality _ min max => faultOf? (compileBounds min max)

/-- The compiled check is of the declared kind and has what is declared for it, in order. -/
inductive Compiles (r : Registry) : ModelCheckDecl → Check → Prop where
  | allowedValues {values : List AllowedValue} {allowOther : Option String}
      {extensible : Option Extensible} :
      Compiles r (.value (.allowedValues values allowOther extensible))
        (.allowedValues values (meansYes allowOther) (extensible.getD .external))
  | matches {message pattern datatype : Option String} {p : Option Pattern} {t : Option Datatype}
      (hpattern : p.map some = pattern.map Pattern.compile)
      (hdatatype : t.map some = datatype.map r.lookup) :
      Compiles r (.value (.matches message pattern datatype)) (.matches message p t)
  | expect {message : Option String} {test : String} :
      Compiles r (.value (.expect message test)) (.expect message test)
  | indexHasKey {message : Option String} {name : String} {keys : List KeyDecl}
      {compiled : List KeyField} (hkeys : List.Forall₂ KeyDecl.Compiles keys compiled) :
      Compiles r (.value (.indexHasKey message name keys)) (.indexHasKey message name compiled)
  | index {message : Option String} {name : String} {keys : List KeyDecl}
      {compiled : List KeyField} (hkeys : List.Forall₂ KeyDecl.Compiles keys compiled) :
      Compiles r (.index message name keys) (.index message name compiled)
  | unique {message : Option String} {keys : List KeyDecl} {compiled : List KeyField}
      (hkeys : List.Forall₂ KeyDecl.Compiles keys compiled) :
      Compiles r (.unique message keys) (.unique message compiled)
  | hasCardinality {message min max : Option String} {lo : Option UInt32} {hi : Option MaxOccurs}
      (hbounds : compileBounds min max = .ok (lo, hi)) :
      Compiles r (.hasCardinality message min max) (.hasCardinality message lo hi)

variable {r : Registry} {head : RuleHeadDecl}

theorem Compiles.kind_eq {d : ModelCheckDecl} {check : Check} (h : d.Compiles r check) :
    check.kind = d.kind := by
  cases h <;> rfl

theorem faultOf?_compile (d : ModelCheckDecl) :
    faultOf? (compileModelCheck r head d) = d.fault? r head := by
  cases d with
  | value d =>
    cases d with
    | allowedValues values allowOther extensible => rfl
    | «matches» message pattern datatype =>
      show faultOf? (compilePattern pattern >>= fun _ => _) = _
      rw [faultOf?_bind_of fun p _ => faultOf?_bind_none fun t => rfl, faultOf?_compilePattern,
        faultOf?_compileDatatype]
      rfl
    | expect message test => rfl
    | indexHasKey message name keys => exact (faultOf?_map _ _).trans (faultOf?_compileKeys ..)
  | index message name keys => exact (faultOf?_map _ _).trans (faultOf?_compileKeys ..)
  | unique message keys => exact (faultOf?_map _ _).trans (faultOf?_compileKeys ..)
  | hasCardinality message min max => exact faultOf?_map _ _

theorem compiles_of_compile {d : ModelCheckDecl} {check : Check}
    (h : compileModelCheck r head d = .ok check) : d.Compiles r check := by
  cases d with
  | value d =>
    cases d with
    | allowedValues values allowOther extensible =>
      cases h
      exact .allowedValues
    | «matches» message pattern datatype =>
      obtain ⟨p, hp, h⟩ := Except.bind_eq_ok_iff.mp h
      obtain ⟨t, ht, h⟩ := Except.bind_eq_ok_iff.mp h
      cases h
      exact .matches (eq_of_compilePattern hp) (eq_of_compileDatatype ht)
    | expect message test =>
      cases h
      exact .expect
    | indexHasKey message name keys =>
      obtain ⟨compiled, hkeys, rfl⟩ := Except.map_eq_ok_iff.mp h
      exact .indexHasKey (compiles_of_compileKeys hkeys)
  | index message name keys =>
    obtain ⟨compiled, hkeys, rfl⟩ := Except.map_eq_ok_iff.mp h
    exact .index (compiles_of_compileKeys hkeys)
  | unique message keys =>
    obtain ⟨compiled, hkeys, rfl⟩ := Except.map_eq_ok_iff.mp h
    exact .unique (compiles_of_compileKeys hkeys)
  | hasCardinality message min max =>
    obtain ⟨bounds, hbounds, rfl⟩ := Except.map_eq_ok_iff.mp h
    exact .hasCardinality hbounds

end ModelCheckDecl

/-! ### Rules -/

/-- The target that a rule declares, or else what it is declared on. -/
def RuleHeadDecl.ownTarget (d : RuleHeadDecl) : String := d.target.getD "."

def ValueContext.target : ValueContext → RuleHeadDecl → String
  | .flag, _ => "."
  | .field, d => d.ownTarget

namespace RuleDecl

def fault? (r : Registry) (d : RuleDecl ModelCheckDecl) : Option ConstraintFault :=
  d.check.fault? r d.head

/-- The rule checks what is declared and carries what is declared besides. -/
structure Compiles (r : Registry) (source : Source) (target : RuleHeadDecl → String)
    (d : RuleDecl ModelCheckDecl) (rule : Rule) : Prop where
  kind : rule.check.kind = d.check.kind
  check : d.check.Compiles r rule.check
  id : rule.head.id = d.head.id
  level : rule.head.level = d.head.level.getD .error
  target : rule.head.target = target d.head
  documentation : rule.head.documentation = d.head.documentation.toDocumentation
  source : rule.head.source = source

variable {r : Registry} {source : Source} {d : RuleDecl ModelCheckDecl} {rule : Rule}

theorem fault?_compile (d : RuleDecl ModelCheckDecl) :
    (compileModelRule r source d).fault? = d.fault? r := by
  unfold compileModelRule
  rw [Traced.fault?_bind_none fun check => rfl]
  exact ModelCheckDecl.faultOf?_compile d.check

theorem compiles_of_compile (h : (compileModelRule r source d).outcome = .ok rule) :
    d.Compiles r source RuleHeadDecl.ownTarget rule := by
  obtain ⟨check, hcheck, h⟩ := Traced.outcome_bind_eq_ok_iff.mp h
  cases h
  have hcompiles := ModelCheckDecl.compiles_of_compile hcheck
  exact ⟨hcompiles.kind_eq, hcompiles, rfl, rfl, rfl, rfl, rfl⟩

theorem Compiles.atSelf {target : RuleHeadDecl → String} (h : d.Compiles r source target rule) :
    d.Compiles r source (ValueContext.target .flag) rule.atSelf :=
  ⟨h.kind, h.check, h.id, h.level, rfl, h.documentation, h.source⟩

end RuleDecl

/-! ### Sets -/

namespace ConstraintSet
variable (s : ConstraintSet)

theorem count_ofKind [DecidableEq Rule] (rule : Rule) (kind : CheckKind) :
    (s.ofKind kind).count rule = if rule.check.kind = kind then s.rules.count rule else 0 := by
  unfold ofKind
  split
  · next h => exact List.count_filter (by simp [h])
  · next h =>
    refine List.count_eq_zero.mpr fun hmem => h ?_
    simpa using (List.mem_filter.mp hmem).2

theorem perm_ofKind : (CheckKind.all.flatMap s.ofKind).Perm s.rules := by
  classical
  refine List.perm_iff_count.mpr fun rule => ?_
  rw [List.count_flatMap]
  cases hkind : rule.check.kind <;> simp [CheckKind.all, Function.comp_def, count_ofKind, hkind]

/-- The set has the variables and rules of a block, one for one and in order. The lists of the rules
of one kind keep that order and make up all of the rules, and of several variables with one name the
last one counts. -/
structure Compiles (r : Registry) (source : Source) (target : RuleHeadDecl → String)
    (d : ModelConstraintDecl) (s : ConstraintSet) : Prop where
  lets : s.lets = d.lets.map (LetDecl.variableIn source)
  rules : List.Forall₂ (RuleDecl.Compiles r source target) d.rules s.rules
  ofKind : ∀ kind, (s.ofKind kind).Sublist s.rules ∧
    List.Forall₂ (RuleDecl.Compiles r source target)
      (d.rules.filter fun rule => rule.check.kind = kind) (s.ofKind kind)
  partition : (CheckKind.all.flatMap s.ofKind).Perm s.rules
  let? : ∀ name, s.let? name =
    (d.lets.findRev? fun l => trim l.name = name).map (LetDecl.variableIn source)

variable {s} {r : Registry} {source : Source} {target : RuleHeadDecl → String}
  {d : ModelConstraintDecl}

theorem compiles_of_forall₂ (hlets : s.lets = d.lets.map (LetDecl.variableIn source))
    (hrules : List.Forall₂ (RuleDecl.Compiles r source target) d.rules s.rules) :
    s.Compiles r source target d := by
  refine ⟨hlets, hrules, fun kind => ⟨List.filter_sublist, ?_⟩, s.perm_ofKind, fun name => ?_⟩
  · refine List.rel_filter ?_ hrules
    intro declared rule hcompiles
    simp only [hcompiles.kind]
  · unfold ConstraintSet.let?
    rw [hlets, List.findRev?_eq_find?_reverse, ← List.map_reverse, List.find?_map]
    rfl

theorem Compiles.atSelf (h : s.Compiles r source target d) :
    (s.mapRules Rule.atSelf).Compiles r source (ValueContext.target .flag) d := by
  refine compiles_of_forall₂ h.lets ?_
  refine List.forall₂_map_right_iff.mpr (h.rules.imp ?_)
  exact fun rule compiled => RuleDecl.Compiles.atSelf

end ConstraintSet

/-! ### Blocks -/

/-- What is wrong with a block: with the first variable that is not valid, or else with the first
rule. -/
def ConstraintDecl.fault? (r : Registry) (d : ModelConstraintDecl) : Option ConstraintFault :=
  (d.lets.findSome? LetDecl.fault?).or (d.rules.findSome? (RuleDecl.fault? r))

/-- What becomes of a block that is compiled for rules with the targets `target`. -/
structure ConstraintDecl.CompilesTo (r : Registry) (source : Source)
    (target : RuleHeadDecl → String) (d : ModelConstraintDecl)
    (outcome : Except ConstraintFault ConstraintSet) : Prop where
  ok_iff : (∃ s, outcome = .ok s) ↔
    (∀ l ∈ d.lets, l.Valid) ∧ ∀ rule ∈ d.rules, rule.fault? r = none
  error_iff : ∀ e, outcome = .error e ↔ d.fault? r = some e
  compiled : ∀ s, outcome = .ok s → s.Compiles r source target d

section
variable (r : Registry) (source : Source)

theorem LetDecl.fault?_eq_none_iff {d : LetDecl} : d.fault? = none ↔ d.Valid := by
  unfold fault?
  split <;> simp_all

theorem ConstraintDecl.fault?_eq_none_iff {d : ModelConstraintDecl} :
    d.fault? r = none ↔ (∀ l ∈ d.lets, l.Valid) ∧ ∀ rule ∈ d.rules, rule.fault? r = none := by
  unfold fault?
  rw [Option.or_eq_none_iff, List.findSome?_eq_none_iff, List.findSome?_eq_none_iff]
  simp only [LetDecl.fault?_eq_none_iff]

theorem ConstraintDecl.compilesTo_of_faultOf? {target : RuleHeadDecl → String}
    {d : ModelConstraintDecl} {outcome : Except ConstraintFault ConstraintSet}
    (hfault : faultOf? outcome = d.fault? r)
    (hcompiled : ∀ s, outcome = .ok s → s.Compiles r source target d) :
    d.CompilesTo r source target outcome := by
  refine ⟨?_, fun e => ?_, hcompiled⟩
  · rw [← faultOf?_eq_none_iff, hfault, fault?_eq_none_iff]
  · rw [← faultOf?_eq_some_iff, hfault]

theorem faultOf?_compileModelConstraints (d : ModelConstraintDecl) :
    faultOf? (compileModelConstraints r source d).outcome = d.fault? r := by
  rw [compileModelConstraints_eq_compileBlock]
  have hlets : (compileLets source d.lets).fault? = d.lets.findSome? LetDecl.fault? := by
    show faultOf? (d.lets.mapM (Let.compile source)) = _
    rw [faultOf?_listMapM]
    simp only [LetDecl.faultOf?_compile]
  have hrules : (d.rules.mapM (compileModelRule r source)).fault? =
      d.rules.findSome? (RuleDecl.fault? r) := by
    rw [Traced.fault?_mapM]
    simp only [RuleDecl.fault?_compile]
  show (compileBlock source (compileModelRule r source) _ d).fault? = _
  unfold compileBlock ConstraintDecl.fault?
  rw [Traced.fault?_bind_of fun lets _ => Traced.fault?_bind_none fun rules => rfl, hlets, hrules]

theorem compiles_of_compileModelConstraints {d : ModelConstraintDecl} {s : ConstraintSet}
    (h : (compileModelConstraints r source d).outcome = .ok s) :
    s.Compiles r source RuleHeadDecl.ownTarget d := by
  obtain ⟨lets, hlets, h⟩ := Traced.outcome_bind_eq_ok_iff.mp h
  obtain ⟨rules, hrules, h⟩ := Traced.outcome_bind_eq_ok_iff.mp h
  rw [Traced.outcome_mapM] at hrules
  cases h
  have hmapped := (Except.listMapM_eq_ok_iff.mp hlets).imp fun l compiled =>
    LetDecl.eq_variableIn_of_compile
  refine ConstraintSet.compiles_of_forall₂ ?_ ?_
  · exact (List.forall₂_eq_eq_eq ▸ List.forall₂_map_left_iff.mpr hmapped).symm
  · exact (Except.listMapM_eq_ok_iff.mp hrules).imp fun rule compiled =>
      RuleDecl.compiles_of_compile

theorem compilesTo_compileModelConstraints (d : ModelConstraintDecl) :
    d.CompilesTo r source RuleHeadDecl.ownTarget (compileModelConstraints r source d).outcome :=
  ConstraintDecl.compilesTo_of_faultOf? r source (faultOf?_compileModelConstraints r source d)
    fun _ => compiles_of_compileModelConstraints r source

theorem compilesTo_compileValueConstraints (context : ValueContext) (d : ValueConstraintDecl) :
    d.toModel.CompilesTo r source context.target
      (compileValueConstraints r source context d).outcome := by
  have hfield : (compileModelConstraints r source d.toModel).outcome
      = (compileValueConstraints r source .field d).outcome := by
    rw [restates_compileModelConstraints r source d]
    cases (compileValueConstraints r source .field d).outcome with
    | error e => rfl
    | ok s => simp [Except.map, ConstraintSet.mapRules]
  have hmodel := compilesTo_compileModelConstraints r source d.toModel
  rw [hfield] at hmodel
  cases context with
  | field => exact hmodel
  | flag =>
    have hflag := restates_compileFlagConstraints r source d
    refine ConstraintDecl.compilesTo_of_faultOf? r source ?_ fun s hs => ?_
    · rw [hflag, faultOf?_map, ← hfield, faultOf?_compileModelConstraints]
    · rw [hflag] at hs
      obtain ⟨s', hs', rfl⟩ := Except.map_eq_ok_iff.mp hs
      exact (hmodel.compiled s' hs').atSelf

end

/-! ### Definitions -/

namespace Kind

/-- The block that a definition declares, with all rules as rules for the content of an assembly. -/
def block? : (k : Kind) → k.Decl → Option ModelConstraintDecl
  | .assembly, d => d.constraint
  | .field, d => d.constraint.map ConstraintDecl.toModel
  | .flag, d => d.constraint.map ConstraintDecl.toModel

def target : Kind → RuleHeadDecl → String
  | .assembly | .field => RuleHeadDecl.ownTarget
  | .flag => fun _ => "."

end Kind

theorem outcome_compiledFor (m : Module) (definition : QName) (x : Compiled ConstraintSet) :
    (compiledFor m definition x).outcome =
      x.outcome.mapError (.constraint definition.text m.shortName) := by
  unfold compiledFor Traced.mapStep Traced.mapFault
  cases x.outcome with
  | ok s => rfl
  | error e => rfl

theorem constraints_of_declared {γ : Type} {r : Registry} {source : Source}
    {target : RuleHeadDecl → String} {compile : γ → Compiled ConstraintSet}
    {f : γ → ModelConstraintDecl} (h : ∀ b, (f b).CompilesTo r source target (compile b).outcome)
    (m : Module) (definition : QName) (build : Build ConstraintSet) (declared : Option γ)
    (hnone : declared = none → build = .value .empty)
    (hsome : ∀ b, declared = some b → build = compiledFor m definition (compile b)) :
    (declared.map f = none → build.outcome = .ok .empty) ∧
    ∀ block, declared.map f = some block → ∃ outcome, block.CompilesTo r source target outcome ∧
      build.outcome = outcome.mapError (.constraint definition.text m.shortName) := by
  cases declared with
  | none =>
    rw [hnone rfl]
    refine ⟨fun _ => rfl, ?_⟩
    intro block hblock
    cases hblock
  | some b =>
    rw [hsome b rfl]
    constructor
    · intro hnone
      cases hnone
    · intro block hblock
      cases hblock
      exact ⟨_, h b, outcome_compiledFor m definition (compile b)⟩

theorem Placed.constraints_of_block {k : Kind} (d : Placed k) :
    (k.block? d.decl = none → d.constraints.build.outcome = .ok .empty) ∧
    ∀ block, k.block? d.decl = some block → ∃ outcome,
      block.CompilesTo d.home.info.setup.registry d.head.source k.target outcome ∧
      d.constraints.build.outcome =
        outcome.mapError (.constraint d.name.text d.home.shortName) := by
  cases k with
  | assembly =>
    have h := constraints_of_declared (f := id)
      (compilesTo_compileModelConstraints d.home.info.setup.registry d.head.source)
      d.home d.name d.constraints.build d.definition.decl.constraint
      (fun hnone => by simp [constraints, Part.ofOwner, buildConstraints, hnone])
      (fun b hb => by simp [constraints, Part.ofOwner, buildConstraints, hb])
    rwa [Option.map_id] at h
  | field =>
    exact constraints_of_declared (compilesTo_compileValueConstraints _ _ .field)
      d.home d.name d.constraints.build d.definition.decl.constraint
      (fun hnone => by simp [constraints, Part.ofOwner, buildConstraints, hnone])
      (fun b hb => by simp [constraints, Part.ofOwner, buildConstraints, hb])
  | flag =>
    exact constraints_of_declared (compilesTo_compileValueConstraints _ _ .flag)
      d.home d.name d.constraints.build d.definition.decl.constraint
      (fun hnone => by simp [constraints, Part.ofOwner, buildConstraints, hnone])
      (fun b hb => by simp [constraints, Part.ofOwner, buildConstraints, hb])

/-- A block compiles if all of its variables and rules are valid, and then it compiles to them, one
for one and in order; otherwise it is refused for the first that is not valid, variables first. The
rules of a flag all have the flag as their target. The constraints of a definition are those that
its block compiles to, and they are refused for what is wrong with the block. -/
theorem compileConstraints_all_or_nothing (r : Registry) (source : Source) :
    (∀ rule, faultOf? (compileModelRule r source rule).outcome = rule.fault? r) ∧
    (∀ d : ModelConstraintDecl, d.CompilesTo r source RuleHeadDecl.ownTarget
      (compileModelConstraints r source d).outcome) ∧
    (∀ (context : ValueContext) (d : ValueConstraintDecl),
      d.toModel.CompilesTo r source context.target
        (compileValueConstraints r source context d).outcome) ∧
    ∀ (k : Kind) (d : Placed k),
      (k.block? d.decl = none → d.constraints.build.outcome = .ok .empty) ∧
      ∀ block, k.block? d.decl = some block → ∃ outcome,
        block.CompilesTo d.home.info.setup.registry d.head.source k.target outcome ∧
        d.constraints.build.outcome =
          outcome.mapError (.constraint d.name.text d.home.shortName) :=
  ⟨RuleDecl.fault?_compile, compilesTo_compileModelConstraints r source,
    compilesTo_compileValueConstraints r source, fun _ d => d.constraints_of_block⟩

/-- What is wrong with a variable comes before what is wrong with a rule. -/
example (r : Registry) (head : RuleHeadDecl) :
    ConstraintDecl.fault? r ⟨[⟨"a", ".", none⟩, ⟨"1", ".", none⟩], [⟨head, .index none "b" []⟩]⟩ =
      some (.invalidLetName "1") := by
  rfl

end InfoModel
