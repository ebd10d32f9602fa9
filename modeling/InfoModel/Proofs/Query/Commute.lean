import InfoModel.Proofs.Query.Cell
import InfoModel.Proofs.Resolution.Completeness
import InfoModel.Proofs.Store.History

/-!
# The order of queries does not matter

While the modules of a graph are held, what a query gives depends on the query and not on what was
asked before it; each part is built once, and each table of exports is made once, in whatever order
and however often they are asked for. Main statement: `Store.queries_commute`.
-/

namespace InfoModel

namespace Store
variable {G : Module → Prop} {s t : Store} {m : Module}

/-- The modules with the property `G` and all that they import were built and are held, and they
have different numbers. -/
structure Hosts (s : Store) (G : Module → Prop) : Prop where
  known : ∀ m, G m → s.Knows m
  held : ∀ m, G m → m.id ∉ s.released
  imports : ∀ m i, G m → i ∈ m.imports → G i
  distinct : ∀ m n, G m → G n → m.id = n.id → m = n

theorem Hosts.apart (h : s.Hosts G) : Apart G := by
  intro m n a b hm hn ha hb hslot
  have hid : m.id = n.id := by
    rw [← ha.slot_home, ← hb.slot_home, hslot]
  have hmn : m = n := h.distinct m n hm hn hid
  subst hmn
  exact ha.eq_of_slot (h.known m hm).built hb hslot

theorem Hosts.separate (h : s.Hosts G) : Separate G := ⟨h.imports, h.distinct, h.apart⟩

theorem Hosts.clear (h : s.Hosts G) (hs : Run .empty s) : ∀ m, G m → s.Clear m.id :=
  fun m hm => hs.clear (h.held m hm)

theorem hosts_nothing (s : Store) : s.Hosts fun _ => False :=
  ⟨fun _ h => h.elim, fun _ h => h.elim, fun _ _ h => h.elim, fun _ _ h => h.elim⟩

theorem Hosts.of_below (h : s.Hosts G) {b : Module} (hm : G m) (hb : m.Below b) : G b := by
  induction hb with
  | single hi => exact h.imports _ _ hm hi
  | tail _ hi ih => exact h.imports _ _ ih hi

theorem law_released : Law (fun _ => True) fun s t => t.released = s.released where
  refl _ := rfl
  trans h₁ h₂ := h₂.trans h₁
  imports _ _ := trivial
  consult _ s := by
    obtain ⟨published, journal, h⟩ := records_consult _ s
    rw [h]
  note _ _ _ := rfl
  built _ := rfl
  refused _ _ := rfl

theorem Hosts.build (h : s.Hosts G) (hs : s.Ahead) {setup : Setup} {d : ModuleDecl}
    {location : Option Uri} {imports : List Module} (himports : ∀ i ∈ imports, G i)
    (hb : Module.build setup d location imports s = (.ok m, t)) :
    t.Hosts fun n => n = m ∨ G n := by
  have hknown := fun i hi => h.known i (himports i hi)
  have ha := Module.assemble_of_build hb
  -- the number of the new module is above all numbers in the graph
  have hid : m.id = s.nextId := Module.id_of_assemble ha
  have hreleased : t.released = s.released := law_released.build rfl (fun _ _ => trivial) hb
  have hnumbers := runLaw_numbers.of_build hknown hb
  refine ⟨?_, ?_, ?_, ?_⟩
  · rintro n (rfl | hn)
    · exact Knows.of_build hknown hb
    · exact (h.known n hn).mono hnumbers
  · rintro n (rfl | hn)
    · rw [hreleased, hid]
      exact hs.next.held
    · rw [hreleased]
      exact h.held n hn
  · rintro n i (rfl | hn) hi
    · rw [Module.imports_of_assemble ha] at hi
      exact .inr (himports i hi)
    · exact .inr (h.imports n i hn hi)
  · rintro n n' (rfl | hn) (rfl | hn') hnn
    · rfl
    · have hlt := (h.known n' hn').number
      omega
    · have hlt := (h.known n hn).number
      omega
    · exact h.distinct n n' hn hn' hnn

theorem Hosts.law_makes (h : s.Hosts G) :
    Law G fun s t => ∃ made, s.Makes t made ∧ ∀ m ∈ made, G m where
  refl s := ⟨[], Makes.refl s, fun m hm => absurd hm List.not_mem_nil⟩
  trans h₁ h₂ := by
    obtain ⟨made, h₁, hg⟩ := h₁
    obtain ⟨more, h₂, hg'⟩ := h₂
    refine ⟨made ++ more, h₁.trans h₂, ?_⟩
    intro m hm
    rcases List.mem_append.mp hm with hm | hm
    · exact hg m hm
    · exact hg' m hm
  imports hm hi := h.imports _ _ hm hi
  consult hm s := by
    obtain ⟨made, hmade, hb⟩ := makes_consult (h.known _ hm).built s
    refine ⟨made, hmade, ?_⟩
    intro b hbm
    rcases hb b hbm with rfl | hbelow
    · exact hm
    · exact h.of_below hm hbelow
  note he _ s := ⟨[], makes_note he s, fun m hm => absurd hm List.not_mem_nil⟩
  built _ := ⟨[], makes_settle _ _ _, fun m hm => absurd hm List.not_mem_nil⟩
  refused _ _ := ⟨[], makes_settle _ _ _, fun m hm => absurd hm List.not_mem_nil⟩

theorem clear_after (hs : ∀ m, G m → s.Clear m.id) (qs : List Query) :
    ∀ m, G m → (s.after qs).Clear m.id := by
  have hu : s.Undisturbed (s.after qs) := law_undisturbed.after (fun _ _ => trivial) s
  exact fun m hm => hu.clear m.id (hs m hm)

/-- Let the modules of a graph be held. What a query gives is the same whatever was asked before it,
in any order and any number. Parts that have the same slot are the same. The store gives what cells
would give that hold what they were first filled with: one for each slot, filled with the part
itself or its fault, and one for the tables of each module; what a building finds on its way is what
the cells hold by then. A part was asked for, or a table made, exactly if its cell is filled. In the
course of any queries parts are built that had not been asked for, each once and whether or not its
building fails, and what is noticed about parts is what these buildings notice. Tables of exports
are made that were not there, each once, and shadowing is noticed with these. -/
theorem queries_commute (hs : Run .empty s) (hg : s.Hosts G) :
    (∀ (earlier earlier' : List Query) (q : Query) (m : Module), G m → q.Of m →
      (q.request (s.after earlier)).1 = (q.request (s.after earlier')).1) ∧
    (∀ m n a b, G m → G n → m.Has a → n.Has b → a.part.slot = b.part.slot → a = b) ∧
    (∃ cells, s.Agrees G cells ∧
      ∀ qs : List Query, (∀ q ∈ qs, ∃ m, G m ∧ q.Of m) →
        ∃ later, cells.Serves (s.serve qs).1 later ∧ (s.after qs).Agrees G later) ∧
    ∀ qs : List Query, (∀ q ∈ qs, ∃ m, G m ∧ q.Of m) →
      (∃ ran, s.Ran (s.after qs) ran ∧ ∀ a ∈ ran, ∃ m, G m ∧ m.Has a) ∧
      ∃ made, s.Makes (s.after qs) made ∧ ∀ m ∈ made, G m := by
  have hclear := hg.clear hs
  refine ⟨?_, hg.apart, ?_, fun qs hqs => ⟨ran_after hqs hclear, ?_⟩⟩
  · intro earlier earlier' q m hm hq
    have hqm : G q.home := hq.home.symm ▸ hm
    rw [Query.fst_request (clear_after hclear earlier _ hqm),
      Query.fst_request (clear_after hclear earlier' _ hqm)]
  · obtain ⟨cells, hcells⟩ := exists_agrees hg.separate s
    refine ⟨cells, hcells, fun qs hqs => ?_⟩
    obtain ⟨later, hserves, hlater⟩ := serve_agrees hg.separate hclear hcells hqs
    rw [snd_serve] at hlater
    exact ⟨later, hserves, hlater⟩
  · refine hg.law_makes.after (fun q hq => ?_) s
    obtain ⟨m, hm, hqm⟩ := hqs q hq
    exact hqm.home.symm ▸ hm

end Store

namespace Sample

def libraryStore : Store := (Module.build setup libraryDecl none [] .empty).2

def catalogStore : Store := (Module.build setup catalogDecl none [library] libraryStore).2

theorem build_library :
    Module.build setup libraryDecl none [] .empty = (.ok library, libraryStore) :=
  rfl

theorem build_catalog :
    Module.build setup catalogDecl none [library] libraryStore = (.ok catalog, catalogStore) := rfl

theorem knows_library : ∀ i ∈ [library], libraryStore.Knows i := by
  intro i hi
  rw [List.mem_singleton.mp hi]
  exact Store.Knows.of_build (fun _ hi => absurd hi List.not_mem_nil) build_library

theorem run_catalog : Store.Run .empty catalogStore := by
  have hlibrary : Store.Run .empty libraryStore :=
    .single (.build (fun _ hi => absurd hi List.not_mem_nil) setup libraryDecl none)
  exact hlibrary.tail (.build knows_library setup catalogDecl none)

theorem hosts_catalog : catalogStore.Hosts fun n => n = catalog ∨ n = library ∨ False := by
  have hlibrary : libraryStore.Hosts fun n => n = library ∨ False :=
    (Store.hosts_nothing .empty).build Store.ahead_empty (fun _ hi => absurd hi List.not_mem_nil)
      build_library
  have hahead : libraryStore.Ahead :=
    Store.runLaw_ahead.access
      (.build (fun _ hi => absurd hi List.not_mem_nil) setup libraryDecl none)
      Store.ahead_empty
  exact hlibrary.build hahead (fun i hi => .inl (List.mem_singleton.mp hi)) build_catalog

end Sample

namespace Store

theorem queries_commute_catalog :
    Run .empty Sample.catalogStore ∧
      Sample.catalogStore.Hosts (fun n => n = Sample.catalog ∨ n = Sample.library ∨ False) ∧
      (Sample.catalog.resolveReference .assembly "nut" ⟨none, "here"⟩
          (Sample.catalogStore.after [.resolveModule Sample.catalog,
            .exported Sample.library .assembly])).1 =
        (Sample.catalog.resolveReference .assembly "nut" ⟨none, "here"⟩ Sample.catalogStore).1 := by
  obtain ⟨hanswers, -, -, -⟩ := queries_commute Sample.run_catalog Sample.hosts_catalog
  have h := hanswers [.resolveModule Sample.catalog, .exported Sample.library .assembly] []
    (.resolveReference Sample.catalog .assembly "nut" ⟨none, "here"⟩) Sample.catalog (.inl rfl) rfl
  exact ⟨Sample.run_catalog, Sample.hosts_catalog, h⟩

end Store

end InfoModel
