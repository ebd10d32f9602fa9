import InfoModel.Model.Visibility
import InfoModel.Traced

/-!
# Building parts of definitions

The flags, the model, the alternatives and the constraints of a definition are built when they are
first asked for. Building is a computation with an outcome and with steps on the way: looks into
what other modules export, and events. Siblings are built in order, each knowing those before it.
-/

namespace InfoModel

/-- A step on the way to a part of a definition: a look for a name in what a module exports, with
what was found, or an event. -/
inductive Step where
  | look (m : Module) (k : Kind) (name : QName) (found : Option (Placed k))
  | notice (e : Event)

abbrev Build (α : Type) := Traced Step ModelFault α

namespace Build

/-- An outcome whose faults are faults of basic values, as a building without steps. -/
def basic (x : Except Fault α) : Build α := .ofExcept (orBasic x)

def noticeIf (cause : Bool) (e : Event) : Build Unit :=
  .steps (if cause then [.notice e] else [])

end Build

/-- What `make` makes of the elements one after the other; it is given what was made before. -/
def Traced.collect {σ ε α β : Type} (make : List β → α → Traced σ ε β) :
    List β → List α → Traced σ ε (List β)
  | made, [] => .value made
  | made, a :: as => do
    let b ← make made a
    collect make (made ++ [b]) as

theorem Traced.mem_collect {σ ε α β : Type} {make : List β → α → Traced σ ε β} {as : List α}
    {made bs : List β} (h : (collect make made as).outcome = .ok bs) {b : β} (hb : b ∈ bs) :
    b ∈ made ∨ ∃ earlier, ∃ a ∈ as, (make earlier a).outcome = .ok b := by
  induction as generalizing made with
  | nil =>
    cases h
    exact .inl hb
  | cons a as ih =>
    obtain ⟨c, hc, hs⟩ := outcome_bind_eq_ok_iff.mp h
    rcases ih hs with h' | ⟨earlier, a', ha', ho⟩
    · rcases List.mem_append.mp h' with h'' | h''
      · exact .inl h''
      · rw [List.mem_singleton.mp h'']
        exact .inr ⟨made, a, List.mem_cons_self, hc⟩
    · exact .inr ⟨earlier, a', List.mem_cons_of_mem a ha', ho⟩

/-- What a part is built for: the definition that declares it, and the place that its children are
counted from. -/
structure Owner where
  home : Module
  site : Site
  definition : QName

def Placed.owner (d : Placed k) : Owner := ⟨d.home, d.site, d.name⟩

namespace Module

def look (k : Kind) (name : QName) (m : Module) : Build (Option (Placed k)) :=
  let found := m.exported? k name
  ⟨[.look m k name found], .ok found⟩

/-- Looks for a name in what several modules export, up to the first that has it. -/
def lookThrough (k : Kind) (name : QName) : List Module → Build (Option (Placed k))
  | [] => .value none
  | m :: ms => do
    match ← look k name m with
    | some d => return some d
    | none => lookThrough k name ms

/-- Finds what a name means inside the module. -/
def find (m : Module) (k : Kind) (name : QName) : Build (Option (Placed k)) :=
  match m.own? k name with
  | some d => .value (some d)
  | none => lookThrough k name m.imports

/-- The definition that a reference in `containing` means. -/
def resolve (m : Module) (k : Kind) (reference : String) (containing : QName) :
    Build (Placed k) := do
  let name ← .ofExcept (m.referenceName reference)
  match ← m.find k name with
  | some d => .value d
  | none => .fail (.unresolvedReference k reference containing.text m.shortName)

theorem lookThrough_eq (k : Kind) (name : QName) (ms : List Module) :
    lookThrough k name ms =
      ⟨(upTo (fun i => (exported? k name i).isSome) ms).map fun i =>
          .look i k name (exported? k name i),
        .ok (ms.findSome? (exported? k name))⟩ := by
  induction ms with
  | nil => rfl
  | cons m ms ih =>
    unfold lookThrough upTo
    rw [ih, List.findSome?_cons]
    cases h : exported? k name m with
    | some d => simp [look, h, bind, pure, Traced.andThen, Traced.value, Traced.ofExcept]
    | none => simp [look, h, bind, Traced.andThen]

theorem find_eq (m : Module) (k : Kind) (name : QName) :
    m.find k name =
      ⟨(m.consulted k name).map fun i => .look i k name (exported? k name i),
        .ok (m.visible? k name)⟩ := by
  unfold find consulted visible?
  cases m.own? k name with
  | some d => rfl
  | none => exact lookThrough_eq k name m.imports

end Module

end InfoModel
