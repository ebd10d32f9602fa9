import InfoModel.Proofs.Building.Defaults
import InfoModel.Proofs.Module.Requoted
import InfoModel.Proofs.Tree.Printed
import InfoModel.Proofs.Value.Integer

/-!
# Quoted and bare scalars

Where a scalar is read for its text, an integer of at most 64 bits means the same whether a document
has its digits bare or quoted, and so does a truth value: both documents declare the same module.
As the default of a field or flag with integers for values, the digits of an integer yield exactly
this integer. Main statement: `ModuleDecl.quoted_alike`.
-/

namespace InfoModel
open Text Unicode
open InfoModel.Tree (Written Writes Requoted FitsWord)

namespace Tree

theorem isPlain_intText (n : Int) : ∀ c ∈ (intText n).toList, IsPlain c := by
  have hdigit : ∀ c : Char, c.isDigit = true → IsPlain c := by
    intro c hc
    have hrange : 48 ≤ c.toNat ∧ c.toNat ≤ 57 := Char.isDigit_iff_toNat.mp hc
    refine ⟨?_, ?_, Nat.le_trans (by decide) hrange.1⟩
    · rintro rfl
      exact absurd hrange (by decide)
    · rintro rfl
      exact absurd hrange (by decide)
  have hdigits := fun c hc => hdigit c ((numeral_natText n.natAbs).digits c hc)
  unfold intText
  split
  · rw [String.toList_append]
    exact List.forall_mem_cons.mpr ⟨by decide, hdigits⟩
  · exact hdigits

theorem written_quoted {s : String} (h : ∀ c ∈ s.toList, IsPlain c) :
    Written (.text s) ('"' :: (s.toList ++ ['"'])) :=
  .text (writtenText_of_plain h)

theorem isPlain_boolText (b : Bool) : ∀ c ∈ (boolText b).toList, IsPlain c := by
  have hall : (boolText b).toList.all (fun c => decide (IsPlain c)) = true := by
    cases b <;> rfl
  exact fun c hc => of_decide_eq_true (List.all_eq_true.mp hall c hc)

/-- The record gives the attribute as the integer, bare or quoted. -/
def Gives (t : Tree) (key : String) (n : Int) : Prop :=
  t.get? key = some (.integer n) ∨ t.get? key = some (.text (intText n))

theorem Gives.optionalScalar_eq {t : Tree} {key : String} {n : Int} (h : t.Gives key n) :
    t.optionalScalar key = some (some (intText n)) := by
  unfold optionalScalar optional
  rcases h with h | h <;> rw [h] <;> rfl

end Tree

theorem ValueDecl.default_of_gives {t : Tree} {n : Int} (h : t.Gives "default" n) {d : ValueDecl}
    (hd : ofTree? t = some d) : d.default = some (intText n) := by
  unfold ofTree? at hd
  rw [h.optionalScalar_eq] at hd
  obtain ⟨datatype, -, hd⟩ := Option.bind_eq_some_iff.mp hd
  cases hd
  rfl

theorem ReferenceDecl.default_of_gives {t : Tree} {n : Int} (h : t.Gives "default" n)
    {r : ReferenceDecl} (hr : ofTree? Tree.ownDefault t = some r) :
    r.default = some (intText n) := by
  unfold ofTree? Tree.ownDefault at hr
  rw [h.optionalScalar_eq] at hr
  obtain ⟨reference, -, hr⟩ := Option.bind_eq_some_iff.mp hr
  obtain ⟨useName, -, hr⟩ := Option.bind_eq_some_iff.mp hr
  obtain ⟨_, ⟨⟩, hr⟩ := Option.bind_eq_some_iff.mp hr
  obtain ⟨documentation, -, hr⟩ := Option.bind_eq_some_iff.mp hr
  cases hr
  rfl

theorem readInt?_intText (n : Int) : readInt? (intText n).toList = some n := by
  have hnumeral := numeral_natText n.natAbs
  unfold intText
  split
  · next hneg =>
    rw [String.toList_append]
    refine readInt?_eq_some_iff.mpr ⟨some '-', _, n.natAbs, ?_, rfl, hnumeral, ?_⟩
    · exact fun c hc => .inr (Option.some.inj hc).symm
    · show -(n.natAbs : Int) = n
      omega
  · next hpos =>
    refine readInt?_eq_some_iff.mpr ⟨none, _, n.natAbs, fun c hc => (nomatch hc), rfl, hnumeral, ?_⟩
    show (n.natAbs : Int) = n
    omega

theorem trimChars_intText (n : Int) : trimChars (intText n).toList = (intText n).toList := by
  have hnumeral := numeral_natText n.natAbs
  unfold intText
  split
  · rw [String.toList_append]
    refine trimChars_eq_self (fun c hc => ?_) fun c hc => ?_
    · cases hc
      decide
    · obtain ⟨d, ds, hds⟩ := List.exists_cons_of_ne_nil hnumeral.nonempty
      have hlast : c ∈ (natText n.natAbs).toList.getLast? := by
        rw [hds] at hc ⊢
        exact hc
      exact isBlank_of_isDigit (hnumeral.digits c (List.mem_of_getLast? hlast))
  · exact hnumeral.trimChars_eq

namespace Datatype

/-- The integers that are values of the datatype. -/
def HasInteger : Datatype → Int → Prop
  | .integer, _ => True
  | .nonNegativeInteger, n => 0 ≤ n
  | .positiveInteger, n => 1 ≤ n
  | _, _ => False

theorem parse_intText {d : Datatype} {n : Int} (h : d.HasInteger n) :
    d.parse (intText n) = .ok (.integer n) := by
  have hread : readInt? (trimChars (intText n).toList) = some n := by
    rw [trimChars_intText, readInt?_intText]
  have hinteger : integer.parse (intText n) = .ok (.integer n) :=
    integer_parse_eq_ok_iff.mpr ⟨n, hread, rfl⟩
  obtain ⟨-, hnonNegative, hpositive, -⟩ := integers_byForm (intText n)
  unfold HasInteger at h
  split at h
  · exact hinteger
  · exact (hnonNegative _).mpr ⟨n, h, hinteger, rfl⟩
  · exact (hpositive _).mpr ⟨n, h, hinteger, rfl⟩
  · exact h.elim

end Datatype

section
variable {n : Int}

theorem ValueType.ReadFrom.default_eq {r : Registry} {d : ValueDecl} {t : ValueType}
    (h : t.ReadFrom r d) (hinteger : t.datatype.HasInteger n) (hn : d.default = some (intText n)) :
    t.default = some (.integer n) := by
  have hdefault := h.default
  rw [hn] at hdefault
  generalize t.default = default at hdefault ⊢
  cases hdefault with
  | some hparse =>
    rw [Datatype.parse_intText hinteger] at hparse
    rw [Except.ok.inj hparse]

theorem ValueType.Supplies.default_eq {r : Registry} {d : ValueDecl} {t : ValueType}
    {own : Option String} {default : Option Value} (h : t.Supplies own default)
    (hread : t.ReadFrom r d) (hinteger : t.datatype.HasInteger n)
    (hn : own.or d.default = some (intText n)) : default = some (.integer n) := by
  cases h with
  | own hparse =>
    cases hn
    rw [Datatype.parse_intText hinteger] at hparse
    rw [Except.ok.inj hparse]
  | inherited => exact hread.default_eq hinteger hn

theorem Placed.ValueRead.default_eq {k : Kind} {d : Placed k} (h : d.ValueRead) {v : ValueDecl}
    {t : ValueType} (hv : k.valueDecl? d.decl = some v) (ht : k.valueType? d.definition = some t)
    (hinteger : t.datatype.HasInteger n) (hn : v.default = some (intText n)) :
    t.default = some (.integer n) := by
  unfold Placed.ValueRead at h
  rw [hv, ht] at h
  cases h with
  | some hread => exact hread.default_eq hinteger hn

theorem FlagInstance.Defaulted.default_eq {m : Module} {c : FlagChildDecl} {i : FlagInstance}
    (h : i.Defaulted m c) (hinteger : i.base.definition.definition.value.datatype.HasInteger n)
    (hn : c.origin.defaultText?.or i.base.definition.decl.value.default = some (intText n)) :
    i.default = some (.integer n) := by
  cases h.definition with
  | some hread => exact h.value.default_eq hread hinteger hn

theorem ModelInstance.Defaulted.default_eq {m : Module} {use : UseDecl} {inXml : Option XmlWrapping}
    {origin : OriginDecl FieldDecl} {i : FieldInstance}
    (h : (ModelInstance.named (.field i)).Defaulted m (.named (.field use inXml origin)))
    (hinteger : i.base.definition.definition.value.datatype.HasInteger n)
    (hn : origin.defaultText?.or i.base.definition.decl.value.default = some (intText n)) :
    i.default = some (.integer n) := by
  cases h with
  | field written definition value =>
    cases definition with
    | some hread => exact value.default_eq hread hinteger hn

end

def ModuleDecl.ofText? (s : String) : Option ModuleDecl := (Tree.ofText? s).bind ofTree?

theorem ModuleDecl.ofText?_eq {t : Tree} {s : String} (h : Tree.ofText? s = some t) :
    ofText? s = ofTree? t := by
  unfold ofText?
  rw [h]
  rfl

/-- A document is read as the tree that it writes. In it an integer of at most 64 bits is written by
its digits, and its digits are written as a text by putting them in quotes; so it is with truth
values. Two documents of which the second quotes some of the scalars that the first has bare,
wherever in a module these are read for their text, declare the same module and so build the same.
The digits of an integer are never refused where they are read for their text, and where the values
of a datatype are integers they are that integer. So a field or flag has the integer for its
default when its definition declares the digits, or when it is a reference that does so itself. -/
theorem ModuleDecl.quoted_alike :
    (∀ n, FitsWord n → Written (.integer n) (intText n).toList ∧
      Written (.text (intText n)) ('"' :: ((intText n).toList ++ ['"']))) ∧
    (∀ b, Written (.bool b) (boolText b).toList ∧
      Written (.text (boolText b)) ('"' :: ((boolText b).toList ++ ['"']))) ∧
    (∀ t s, Writes t s → Tree.ofText? s = some t) ∧
    (∀ t t' s s', Requoted .module t t' → Tree.ofText? s = some t → Tree.ofText? s' = some t' →
      ofText? s = ofText? s' ∧ ∀ setup location imports,
        (ofText? s).map (Module.build setup · location imports) =
          (ofText? s').map (Module.build setup · location imports)) ∧
    ∀ n, (∀ (t : Tree) key, t.Gives key n → t.optionalScalar key = some (some (intText n))) ∧
      (∀ (t : Tree) v, t.Gives "default" n → ValueDecl.ofTree? t = some v →
        v.default = some (intText n)) ∧
      (∀ (t : Tree) r, t.Gives "default" n → ReferenceDecl.ofTree? Tree.ownDefault t = some r →
        r.default = some (intText n)) ∧
      (∀ d : Datatype, d.HasInteger n → d.parse (intText n) = .ok (.integer n)) ∧
      (∀ m : Module, m.Built → ∀ k (d : Placed k), m.LeadsTo (.definition k d) → ∀ v t,
        k.valueDecl? d.decl = some v → k.valueType? d.definition = some t →
        t.datatype.HasInteger n → v.default = some (intText n) → t.default = some (.integer n)) ∧
      (∀ owner : Owner, owner.home.Built → ∀ earlier c i,
        (FlagInstance.build owner earlier c).outcome = .ok i →
        i.base.definition.definition.value.datatype.HasInteger n →
        c.origin.defaultText?.or i.base.definition.decl.value.default = some (intText n) →
        i.default = some (.integer n)) ∧
      ∀ owner : Owner, owner.home.Built → ∀ site earlier use inXml origin i,
        (NamedInstance.build owner site earlier (.field use inXml origin)).outcome =
          .ok (.field i) →
        i.base.definition.definition.value.datatype.HasInteger n →
        origin.defaultText?.or i.base.definition.decl.value.default = some (intText n) →
        i.default = some (.integer n) := by
  refine ⟨fun n hn => ⟨Tree.written_integer hn, Tree.written_quoted (Tree.isPlain_intText n)⟩,
    fun b => ⟨.bool b, Tree.written_quoted (Tree.isPlain_boolText b)⟩,
    fun t s => Tree.ofText?_of_writes, ?_, fun n => ?_⟩
  · intro t t' s s' h hs hs'
    have hsame : ofText? s = ofText? s' := by
      rw [ofText?_eq hs, ofText?_eq hs', ModuleDecl.ofTree?_eq h]
    exact ⟨hsame, fun setup location imports => by rw [hsame]⟩
  · refine ⟨fun t key h => h.optionalScalar_eq, fun t v h hv => ValueDecl.default_of_gives h hv,
      fun t r h hr => ReferenceDecl.default_of_gives h hr, fun d h => Datatype.parse_intText h,
      ?_, ?_, ?_⟩
    · intro m hm k d hd v t hv ht hinteger hn
      exact (hd.valueRead hm).default_eq hv ht hinteger hn
    · intro owner hm earlier c i hi hinteger hn
      exact (FlagInstance.defaulted_of_build hm hi).default_eq hinteger hn
    · intro owner hm site earlier use inXml origin i hi hinteger hn
      exact (ModelInstance.defaulted_of_buildNamed hm hi).default_eq hinteger hn

namespace Sample

def least : Tree :=
  .record [("type", .text "define-flag"), ("name", .text "least"), ("as-type", .text "integer"),
    ("default", .integer (-9223372036854775808))]

def seven : Tree :=
  .record [("type", .text "flag"), ("ref", .text "least"), ("required", .bool true),
    ("default", .text "7")]

def limits : Tree :=
  .record [("short-name", .text "limits"), ("schema-version", .integer 3),
    ("namespace", .text "urn:limits"),
    ("definitions", .list [least,
      .record [("type", .text "define-field"), ("name", .text "greatest"),
        ("as-type", .text "integer"), ("default", .integer 18446744073709551615),
        ("flags", .list [seven]),
        ("constraint", .record [("rules", .list [
          .record [("type", .text "allowed-values"), ("allow-other", .bool true),
            ("enums", .list [.record [("value", .integer 5), ("deprecated", .bool false)]])]])])]])]

def quotedLimits : Tree := limits.quoteAll .module

end Sample

open Sample

theorem ModuleDecl.quoted_alike_limits :
    Written (.integer (-9223372036854775808)) "-9223372036854775808".toList ∧
    Written (.text "18446744073709551615") "\"18446744073709551615\"".toList ∧
    (∃ v, ValueDecl.ofTree? least = some v ∧ v.default = some "-9223372036854775808") ∧
    (∃ r, ReferenceDecl.ofTree? Tree.ownDefault seven = some r ∧ r.default = some "7") ∧
    (∃ d m flag, ofText? limits.toText = some d ∧ ofText? quotedLimits.toText = some d ∧
      Module.assemble depotSetup 0 d none [] = .ok m ∧
      m.visible? .flag ⟨some "urn:limits", "least"⟩ = some flag ∧
      flag.definition.value.default = some (.integer (-9223372036854775808))) ∧
    ∃ carton flag field, depot.own? .assembly ⟨some "urn:depot", "carton"⟩ = some carton ∧
      (FlagInstance.build carton.owner [] (counted none (some "5"))).outcome = .ok flag ∧
      flag.default = some (.integer 5) ∧
      (NamedInstance.build carton.owner (.child carton.site 0) []
        (.field once none (.inline (numberField "3")))).outcome = .ok (.field field) ∧
      field.default = some (.integer 3) := by
  obtain ⟨hintegers, -, hwritten, hdocuments, hdefaults⟩ := quoted_alike
  refine ⟨(hintegers _ (by decide)).1, (hintegers 18446744073709551615 (by decide)).2,
    ?_, ?_, ?_, ?_⟩
  · have hread : ∃ v, ValueDecl.ofTree? least = some v := ⟨_, rfl⟩
    obtain ⟨v, hv⟩ := hread
    obtain ⟨-, hvalue, -⟩ := hdefaults (-9223372036854775808)
    exact ⟨v, hv, hvalue least v (.inl rfl) hv⟩
  · have hread : ∃ r, ReferenceDecl.ofTree? Tree.ownDefault seven = some r := ⟨_, rfl⟩
    obtain ⟨r, hr⟩ := hread
    obtain ⟨-, -, hreference, -⟩ := hdefaults 7
    exact ⟨r, hr, hreference seven r (.inr rfl) hr⟩
  · have hbare : Tree.ofText? limits.toText = some limits :=
      hwritten _ _ (Tree.writes_toText (by decide))
    have hquoted : Tree.ofText? quotedLimits.toText = some quotedLimits :=
      hwritten _ _ (Tree.writes_toText (by decide))
    obtain ⟨hlimits, -⟩ :=
      hdocuments _ _ _ _ (Tree.requoted_quoteAll .module limits) hbare hquoted
    have hread : ∃ d m flag, ofTree? limits = some d ∧
        Module.assemble depotSetup 0 d none [] = .ok m ∧
        m.visible? .flag ⟨some "urn:limits", "least"⟩ = some flag ∧
        flag.decl.value.default = some (intText (-9223372036854775808)) ∧
        flag.definition.value.datatype = .integer := ⟨_, _, _, rfl, rfl, rfl, rfl, rfl⟩
    obtain ⟨d, m, flag, hd, hm, hflag, hdeclared, hinteger⟩ := hread
    have hbuilt : m.Built := .intro hm nofun nofun
    have htext := (ofText?_eq hbare).trans hd
    refine ⟨d, m, flag, htext, hlimits ▸ htext, hm, hflag, ?_⟩
    obtain ⟨-, -, -, -, hdefinitions, -, -⟩ := hdefaults (-9223372036854775808)
    refine hdefinitions m hbuilt .flag flag (.visible hflag) _ _ rfl rfl ?_ hdeclared
    rw [hinteger]
    trivial
  · have hcarton : ∃ carton flag field,
        depot.own? .assembly ⟨some "urn:depot", "carton"⟩ = some carton ∧ carton.home = depot ∧
        (FlagInstance.build carton.owner [] (counted none (some "5"))).outcome = .ok flag ∧
        flag.base.definition.definition.value.datatype = .integer ∧
        (NamedInstance.build carton.owner (.child carton.site 0) []
          (.field once none (.inline (numberField "3")))).outcome = .ok (.field field) ∧
        field.base.definition.definition.value.datatype = .integer ∧
        field.base.definition.decl.value.default = some (intText 3) :=
      ⟨_, _, _, rfl, rfl, rfl, rfl, rfl, rfl, rfl⟩
    obtain ⟨carton, flag, field, hown, hhome, hflag, hcount, hfield, hnumber, hthree⟩ := hcarton
    have hbuilt : carton.home.Built := hhome ▸ built_depot
    obtain ⟨-, -, -, -, -, hflags, -⟩ := hdefaults 5
    obtain ⟨-, -, -, -, -, -, hfields⟩ := hdefaults 3
    refine ⟨carton, flag, field, hown, hflag, ?_, hfield, ?_⟩
    · refine hflags carton.owner hbuilt _ _ _ hflag ?_ rfl
      rw [hcount]
      trivial
    · refine hfields carton.owner hbuilt _ _ _ _ _ _ hfield ?_ hthree
      rw [hnumber]
      trivial

end InfoModel
