import InfoModel.Proofs.Building.Children
import InfoModel.Proofs.Occurrence.Bound

/-!
# Bounds that models carry

The assemblies, fields and groups of a model that is built carry the bounds that are declared for
them, one for one, and so do those that its choices are between. All of these bounds admit a count.
Main statement: `Occurrence.bounds_admit`.
-/

namespace InfoModel
open InfoModel.Text

def NamedChildDecl.useDecl : NamedChildDecl → UseDecl
  | .assembly use _ => use
  | .field use _ _ => use

def ModelChildDecl.bounds : ModelChildDecl → List (Option UInt32 × Option String)
  | .named child => [(child.useDecl.minOccurs, child.useDecl.maxOccurs)]
  | .choice children => children.map fun child => (child.useDecl.minOccurs, child.useDecl.maxOccurs)
  | .group head _ => [(head.minOccurs, head.maxOccurs)]

def ModelInstance.occurrences : ModelInstance → List Occurrence
  | .named i => [i.occurrence]
  | .choice c => c.body.map NamedInstance.occurrence
  | .group g => [g.occurrence]

def Model.occurrences (m : Model) : List Occurrence :=
  m.instances.flatMap ModelInstance.occurrences

/-- The bounds are those that are declared. -/
def Occurrence.ReadFrom (declared : Option UInt32 × Option String) (o : Occurrence) : Prop :=
  Occurrence.parse declared.1 declared.2 = .ok o

theorem UseDecl.readFrom_of_readOccurrence {use : UseDecl} {o : Occurrence}
    (h : use.readOccurrence.outcome = .ok o) :
    Occurrence.ReadFrom (use.minOccurs, use.maxOccurs) o :=
  Build.eq_ok_of_basic h

theorem NamedInstance.readFrom_of_build {owner : Owner} {site : Site}
    {earlier : List NamedInstance} {c : NamedChildDecl} {i : NamedInstance}
    (h : (NamedInstance.build owner site earlier c).outcome = .ok i) :
    Occurrence.ReadFrom (c.useDecl.minOccurs, c.useDecl.maxOccurs) i.occurrence := by
  obtain ⟨j, hj, h⟩ := Traced.outcome_bind_eq_ok_iff.mp h
  obtain ⟨-, -, h⟩ := Traced.outcome_bind_eq_ok_iff.mp h
  cases h
  cases c with
  | assembly use origin =>
    obtain ⟨base, -, hj⟩ := Traced.outcome_bind_eq_ok_iff.mp hj
    obtain ⟨occurrence, ho, hj⟩ := Traced.outcome_bind_eq_ok_iff.mp hj
    cases hj
    exact UseDecl.readFrom_of_readOccurrence ho
  | field use inXml origin =>
    obtain ⟨base, -, hj⟩ := Traced.outcome_bind_eq_ok_iff.mp hj
    obtain ⟨ownDefault, -, hj⟩ := Traced.outcome_bind_eq_ok_iff.mp hj
    obtain ⟨occurrence, ho, hj⟩ := Traced.outcome_bind_eq_ok_iff.mp hj
    cases hj
    exact UseDecl.readFrom_of_readOccurrence ho

theorem ModelInstance.readFrom_of_build {owner : Owner} {earlier : List ModelInstance}
    {c : ModelChildDecl} {i : ModelInstance}
    (h : (ModelInstance.build owner earlier c).outcome = .ok i) :
    List.Forall₂ Occurrence.ReadFrom c.bounds i.occurrences := by
  cases c with
  | named child =>
    obtain ⟨j, hj, h⟩ := Traced.outcome_bind_eq_ok_iff.mp h
    cases h
    exact .cons (NamedInstance.readFrom_of_build hj) .nil
  | choice children =>
    obtain ⟨body, hb, h⟩ := Traced.outcome_bind_eq_ok_iff.mp h
    cases h
    refine List.forall₂_map_left_iff.mpr (List.forall₂_map_right_iff.mpr ?_)
    refine Traced.forall₂_of_collect ?_ hb
    exact fun made child i hi => NamedInstance.readFrom_of_build hi
  | group head alternatives =>
    obtain ⟨g, hg, h⟩ := Traced.outcome_bind_eq_ok_iff.mp h
    cases h
    obtain ⟨occurrence, ho, hg⟩ := Traced.outcome_bind_eq_ok_iff.mp hg
    obtain ⟨-, -, hg⟩ := Traced.outcome_bind_eq_ok_iff.mp hg
    cases hg
    exact .cons (Build.eq_ok_of_basic ho) .nil

theorem Placed.readFrom_of_buildModel {d : Placed .assembly} {model : Model}
    (h : d.buildModel.outcome = .ok model) :
    List.Forall₂ Occurrence.ReadFrom (d.decl.model.flatMap ModelChildDecl.bounds)
      model.occurrences := by
  obtain ⟨instances, hc, h⟩ := Traced.outcome_bind_eq_ok_iff.mp h
  obtain ⟨-, -, h⟩ := Traced.outcome_bind_eq_ok_iff.mp h
  cases h
  have hall : List.Forall₂ (fun c i => List.Forall₂ Occurrence.ReadFrom c.bounds i.occurrences)
      d.decl.model instances := by
    refine Traced.forall₂_of_collect ?_ hc
    exact fun made c i hi => ModelInstance.readFrom_of_build hi
  exact List.rel_flatMap hall fun _ _ hi => hi

theorem Placed.sound_of_mem_occurrences {d : Placed .assembly} {model : Model}
    (h : d.buildModel.outcome = .ok model) {o : Occurrence} (ho : o ∈ model.occurrences) :
    o.Sound := by
  obtain ⟨declared, hread⟩ := exists_of_forall₂ (readFrom_of_buildModel h) ho
  exact (Occurrence.parse_eq_ok_iff.mp hread).2.2

namespace Occurrence

/-- A text is a bound if it is the word or a numeral below two to the 32nd, and every bound is read
back from its written form. As one number a bound is minus one only without limit, and otherwise it
does not decrease and is cut at two to the 31st less one. Bounds go together if the upper one is at
least one and not below the lower one. So whatever a model that is built carries admits a count of
at least one and at least the lower bound; and more than one is allowed just where two are. -/
theorem bounds_admit :
    (∀ s, (MaxOccurs.parse s = .ok .unbounded ↔ trim s = "unbounded") ∧
      (∀ n : UInt32, MaxOccurs.parse s = .ok (.bounded n) ↔ Numeral (trim s).toList n.toNat) ∧
      ∀ e, MaxOccurs.parse s = .error e ↔ trim s ≠ "unbounded" ∧
        ((∃ n, UInt32.size ≤ n ∧ Numeral (trim s).toList n) ∧
            e = .invalidOccurrence (trim s) .tooLarge ∨
          (∀ n, ¬ Numeral (trim s).toList n) ∧ e = .invalidOccurrence (trim s) .notBound)) ∧
    (∀ b : MaxOccurs, MaxOccurs.parse b.text = .ok b) ∧
    ((∀ b : MaxOccurs, b.flat = -1 ↔ b = .unbounded) ∧
      (∀ m n : UInt32, m ≤ n → (MaxOccurs.bounded m).flat ≤ (MaxOccurs.bounded n).flat) ∧
      ∀ n : UInt32, (MaxOccurs.bounded n).flat =
        if n.toNat < 2147483648 then (n.toNat : Int) else 2147483647) ∧
    (∀ lower upper o, Occurrence.parse lower upper = .ok o ↔
      o.min = lower.getD 0 ∧ MaxOccurs.parse (upper.getD "1") = .ok o.max ∧
        ∀ n, o.max = .bounded n → 1 ≤ n ∧ o.min ≤ n) ∧
    (∀ (d : Placed .assembly) model, d.buildModel.outcome = .ok model →
      List.Forall₂ ReadFrom (d.decl.model.flatMap ModelChildDecl.bounds) model.occurrences ∧
      ∀ o ∈ model.occurrences,
        ∃ count : UInt32, o.max.admits count = true ∧ 1 ≤ count ∧ o.min ≤ count) ∧
    ∀ o : Occurrence, o.isRepeatable = true ↔ o.max.admits 2 = true :=
  ⟨fun _ => ⟨MaxOccurs.parse_eq_unbounded_iff, fun _ => MaxOccurs.parse_eq_bounded_iff,
      fun _ => MaxOccurs.parse_eq_error_iff⟩,
    MaxOccurs.parse_text,
    ⟨fun _ => MaxOccurs.flat_eq_neg_one_iff, fun _ _ => MaxOccurs.flat_mono,
      MaxOccurs.flat_bounded⟩,
    fun _ _ _ => parse_eq_ok_iff,
    fun _ _ h => ⟨Placed.readFrom_of_buildModel h,
      fun _ ho => (Placed.sound_of_mem_occurrences h ho).admits⟩,
    isRepeatable_iff⟩

end Occurrence

namespace Sample

def pileChildren : List ModelChildDecl :=
  [.named (.assembly ⟨some 2, some "unbounded", none⟩ (.reference (referTo "part" none))),
    .choice [.field ⟨some 3, some " 03 ", none⟩ none (.inline (textField "note"))],
    .group ⟨none, some "4294967295", ⟨"tools", none, none⟩, none, none, none⟩ rackTools]

def pilesDecl : ModuleDecl :=
  ⟨"piles", none, none, some "urn:parts", none, none, [], [],
    [⟨.assembly, (⟨partHead, none, none, none, [], [], none⟩ : AssemblyDecl)⟩,
      ⟨.assembly, (⟨headed "pile", none, none, none, [], pileChildren, none⟩ : AssemblyDecl)⟩]⟩

def piles : Module := textModule pilesDecl

end Sample

theorem Occurrence.bounds_admit_piles :
    ∃ pile model, Sample.piles.own? .assembly ⟨some "urn:parts", "pile"⟩ = some pile ∧
      pile.buildModel.outcome = .ok model ∧
      model.occurrences = [⟨2, .unbounded⟩, ⟨3, .bounded 3⟩, ⟨0, .bounded 4294967295⟩] ∧
      ∀ o ∈ model.occurrences,
        ∃ count : UInt32, o.max.admits count = true ∧ 1 ≤ count ∧ o.min ≤ count := by
  obtain ⟨-, -, -, -, hcarried, -⟩ := bounds_admit
  have hpile : ∃ pile model, Sample.piles.own? .assembly ⟨some "urn:parts", "pile"⟩ = some pile ∧
      pile.buildModel.outcome = .ok model ∧
      model.occurrences = [⟨2, .unbounded⟩, ⟨3, .bounded 3⟩, ⟨0, .bounded 4294967295⟩] :=
    ⟨_, _, rfl, rfl, rfl⟩
  obtain ⟨pile, model, hown, hmodel, hoccurrences⟩ := hpile
  exact ⟨pile, model, hown, hmodel, hoccurrences, (hcarried pile model hmodel).2⟩

end InfoModel
