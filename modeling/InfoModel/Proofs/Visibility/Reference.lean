import InfoModel.Model.Build
import InfoModel.Proofs.Visibility.Table

/-!
# What references mean

A reference finds the definitions that its module declares and, behind them, the shared definitions
of all modules below; it finds nothing else. A definition that some module keeps to itself neither
shows through to the modules above nor hides a shared one below. Main statement:
`resolveReference_sound_complete`.
-/

namespace InfoModel

namespace Module
variable {k : Kind}

/-- The module declares a definition under the name, whatever its scope. -/
def Declares (m : Module) (k : Kind) (name : QName) : Prop := ∃ d ∈ m.own k, d.name = name

/-- The module shares a definition under the name. -/
def Shares (m : Module) (k : Kind) (name : QName) : Prop := ∃ d ∈ m.shared k, d.name = name

theorem isSome_find?_iff {ds : List (Placed k)} {name : QName} :
    (ds.find? (·.name = name)).isSome ↔ ∃ d ∈ ds, d.name = name := by
  rw [List.find?_isSome]
  simp only [decide_eq_true_eq]

theorem Built.isSome_exported?_iff {m : Module} (h : m.Built) (k : Kind) (name : QName) :
    (exported? k name m).isSome ↔ m.Shares k name ∨ ∃ b, m.Below b ∧ b.Shares k name := by
  revert h
  refine induct (P := fun m => m.Built → ((exported? k name m).isSome ↔
    m.Shares k name ∨ ∃ b, m.Below b ∧ b.Shares k name)) ?_ m
  intro m ih h
  rw [h.exported?_eq, Option.isSome_or, Bool.or_eq_true, isSome_find?_iff,
    List.findSome?_isSome_iff]
  rw [exists_below_iff]
  refine or_congr Iff.rfl ?_
  exact exists_congr fun i => and_congr_right fun hi => ih i hi (h.of_import hi)

theorem Built.of_exported? {m : Module} (h : m.Built) {name : QName} {d : Placed k}
    (hd : exported? k name m = some d) :
    d ∈ d.home.shared k ∧ d.name = name ∧ (d.home = m ∨ m.Below d.home) := by
  revert h hd
  refine induct (P := fun m => m.Built → exported? k name m = some d →
    d ∈ d.home.shared k ∧ d.name = name ∧ (d.home = m ∨ m.Below d.home)) ?_ m
  intro m ih h hd
  rw [h.exported?_eq, Option.or_eq_some_iff] at hd
  rcases hd with hd | ⟨-, hd⟩
  · have hm := List.mem_of_find?_eq_some hd
    have hn := List.find?_some hd
    have hh := (h.of_mem_own (mem_shared_iff.mp hm).1).1
    exact ⟨hh.symm ▸ hm, of_decide_eq_true hn, .inl hh⟩
  · obtain ⟨i, hi, hd⟩ := List.exists_of_findSome?_eq_some hd
    obtain ⟨hs, hn, hb⟩ := ih i hi (h.of_import hi) hd
    refine ⟨hs, hn, .inr ?_⟩
    rcases hb with hb | hb
    · exact hb ▸ below_of_mem hi
    · exact hb.of_import hi

theorem Built.isSome_visible?_iff {m : Module} (h : m.Built) (k : Kind) (name : QName) :
    (m.visible? k name).isSome ↔ m.Declares k name ∨ ∃ b, m.Below b ∧ b.Shares k name := by
  unfold visible?
  rw [Option.isSome_or, Bool.or_eq_true, List.findSome?_isSome_iff]
  refine or_congr ?_ ?_
  · rw [Option.isSome_iff_exists]
    exact exists_congr fun d => h.own?_eq_some_iff
  · rw [exists_below_iff]
    exact exists_congr fun i => and_congr_right fun hi =>
      (h.of_import hi).isSome_exported?_iff k name

/-- A visible definition is one of the module's own, or a shared one of a module below whose name
the module does not declare. -/
theorem Built.of_visible? {m : Module} (h : m.Built) {name : QName} {d : Placed k}
    (hd : m.visible? k name = some d) :
    d.name = name ∧ (d ∈ m.own k ∧ d.home = m ∨
      ¬ m.Declares k name ∧ d ∈ d.home.shared k ∧ m.Below d.home) := by
  unfold visible? at hd
  rw [Option.or_eq_some_iff] at hd
  rcases hd with hd | ⟨hn, hd⟩
  · obtain ⟨hm, hn⟩ := h.own?_eq_some_iff.mp hd
    exact ⟨hn, .inl ⟨hm, (h.of_mem_own hm).1⟩⟩
  · obtain ⟨i, hi, hd⟩ := List.exists_of_findSome?_eq_some hd
    obtain ⟨hs, hname, hb⟩ := (h.of_import hi).of_exported? hd
    refine ⟨hname, .inr ⟨?_, hs, ?_⟩⟩
    · rintro ⟨e, he, hen⟩
      have ho := h.own?_eq_some_iff.mpr ⟨he, hen⟩
      rw [hn] at ho
      exact absurd ho (Option.some_ne_none e).symm
    · rcases hb with hb | hb
      · exact hb ▸ below_of_mem hi
      · exact hb.of_import hi

theorem fst_resolveReference (m : Module) (k : Kind) (reference : String) (containing : QName)
    (s : Store) :
    (m.resolveReference k reference containing s).1 =
      (m.resolve k reference containing).outcome := by
  unfold resolveReference
  cases h : (m.resolve k reference containing).outcome with
  | ok d => rfl
  | error f => rfl

theorem snd_resolveReference (m : Module) (k : Kind) (reference : String) (containing : QName)
    (s : Store) :
    (m.resolveReference k reference containing s).2 =
      (m.resolve k reference containing).trace.foldl Store.take s := by
  unfold resolveReference
  cases h : (m.resolve k reference containing).outcome with
  | ok d => rfl
  | error f => rfl

theorem outcome_resolve_of_error {m : Module} {reference : String} {fault : Fault}
    (h : m.info.source.readName reference = .error fault) (k : Kind) (containing : QName) :
    (m.resolve k reference containing).outcome = .error (.basic fault) := by
  unfold resolve referenceName
  rw [h, Traced.outcome_bind]
  rfl

theorem outcome_resolve_of_ok {m : Module} {reference : String} {name : QName}
    (h : m.info.source.readName reference = .ok name) (k : Kind) (containing : QName) :
    (m.resolve k reference containing).outcome =
      match m.visible? k name with
      | some d => .ok d
      | none => .error (.unresolvedReference k reference containing.text m.shortName) := by
  unfold resolve referenceName
  rw [h, Traced.outcome_bind]
  show (m.find k name >>= _).outcome = _
  rw [find_eq, Traced.outcome_bind]
  cases m.visible? k name with
  | some d => rfl
  | none => rfl

/-- A reference that is not a name is refused as such. Any other succeeds exactly if its module
declares the name or a module below shares it; what it finds is a registered global definition of
the kind and the name, the module's own if there is one, and never one that another module keeps to
itself. -/
theorem resolveReference_sound_complete {m : Module} (h : m.Built) (k : Kind) (reference : String)
    (containing : QName) (s : Store) :
    (∀ fault, QName.parse reference m.info.source.context.bindings m.space = .error fault →
      (m.resolveReference k reference containing s).1 = .error (.basic fault)) ∧
    ∀ name, QName.parse reference m.info.source.context.bindings m.space = .ok name →
      ((∃ d, (m.resolveReference k reference containing s).1 = .ok d) ↔
        m.Declares k name ∨ ∃ b, m.Below b ∧ b.Shares k name) ∧
      (∀ fault, (m.resolveReference k reference containing s).1 = .error fault →
        fault = .unresolvedReference k reference containing.text m.shortName) ∧
      ∀ d, (m.resolveReference k reference containing s).1 = .ok d →
        d.name = name ∧ (d.home = m ∨ m.Below d.home) ∧
        d ∈ d.home.own k ∧ d.site = .global k name ∧ d.isInline = false ∧
        (m.Declares k name → d ∈ m.own k) ∧ (d.head.scope = .internal → d ∈ m.own k) := by
  rw [fst_resolveReference]
  refine ⟨fun fault hf => outcome_resolve_of_error hf k containing, ?_⟩
  intro name hn
  rw [outcome_resolve_of_ok hn k containing]
  have hv := h.isSome_visible?_iff k name
  cases hd : m.visible? k name with
  | none =>
    rw [hd] at hv
    refine ⟨⟨?_, ?_⟩, ?_, ?_⟩
    · rintro ⟨d, hf⟩
      exact absurd hf (by simp)
    · intro hs
      exact absurd (hv.mpr hs) (by simp)
    · intro fault hf
      exact (Except.error.inj hf).symm
    · intro d hf
      exact absurd hf (by simp)
  | some d =>
    rw [hd] at hv
    refine ⟨⟨fun _ => hv.mp rfl, fun _ => ⟨d, rfl⟩⟩, ?_, ?_⟩
    · intro fault hf
      exact absurd hf (by simp)
    · intro e he
      cases he
      obtain ⟨hname, ⟨ho, hh⟩ | ⟨hnd, hs, hb⟩⟩ := h.of_visible? hd
      · obtain ⟨-, hsite, hinline⟩ := h.of_mem_own ho
        exact ⟨hname, .inl hh, hh.symm ▸ ho, hname ▸ hsite, hinline, fun _ => ho, fun _ => ho⟩
      · obtain ⟨ho, hscope⟩ := mem_shared_iff.mp hs
        obtain ⟨-, hsite, hinline⟩ := (h.of_below hb).of_mem_own ho
        refine ⟨hname, .inr hb, ho, hname ▸ hsite, hinline, fun hdecl => absurd hdecl hnd, ?_⟩
        intro hi
        rw [hscope] at hi
        exact absurd hi (by decide)

theorem resolveReference_catalog :
    Sample.catalog.Built ∧
      QName.parse "nut" Sample.catalog.info.source.context.bindings Sample.catalog.space =
        .ok ⟨some "urn:parts", "nut"⟩ ∧
      ∃ d, (Sample.catalog.resolveReference .assembly "nut" ⟨none, "here"⟩ .empty).1 = .ok d ∧
        d.name = ⟨some "urn:parts", "nut"⟩ := by
  have hall := resolveReference_sound_complete Sample.built_catalog .assembly "nut"
    ⟨none, "here"⟩ .empty
  have hn : QName.parse "nut" Sample.catalog.info.source.context.bindings Sample.catalog.space =
    .ok ⟨some "urn:parts", "nut"⟩ := rfl
  obtain ⟨hiff, -, hd⟩ := hall.2 _ hn
  have hs : Sample.library.Shares .assembly ⟨some "urn:parts", "nut"⟩ :=
    ⟨_, List.mem_of_getElem? (i := 1) rfl, rfl⟩
  obtain ⟨d, hr⟩ := hiff.mpr (.inr ⟨Sample.library, below_of_mem List.mem_cons_self, hs⟩)
  exact ⟨Sample.built_catalog, hn, d, hr, (hd d hr).1⟩

end Module

end InfoModel
