import InfoModel.Proofs.Collection.Sorted
import InfoModel.Proofs.Collection.View
import InfoModel.Property

/-!
# Properties by key

Grouping sorts properties by namespace and name and keeps, for each key, the values that are
declared with it, each once. So the groups depend on nothing but the distinct values of each key in
the order in which they first occur: neither a property that is declared again counts, nor how
properties with different keys are mixed. Main statement: `Properties.grouped_exactly`.
-/

namespace InfoModel

namespace PropertyKey

instance : Std.TransOrd PropertyKey :=
  inferInstanceAs (Std.TransCmp (compareLex (compareOn space) (compareOn name)))

instance : Std.LawfulEqOrd PropertyKey where
  eq_of_compare {a b} h := by
    obtain ⟨hspace, hname⟩ := Ordering.then_eq_eq.mp h
    obtain ⟨space, name⟩ := a
    obtain ⟨space', name'⟩ := b
    obtain rfl : space = space' := Std.compare_eq_iff_eq.mp hspace
    obtain rfl : name = name' := Std.compare_eq_iff_eq.mp hname
    rfl

def Before (a b : PropertyKey) : Prop := a.space < b.space ∨ a.space = b.space ∧ a.name < b.name

theorem compare_eq_lt_iff {a b : PropertyKey} : compare a b = .lt ↔ a.Before b := by
  have htext : ∀ s t : String, compare s t = .lt ↔ s < t := fun s t => compareOfLessAndEq_eq_lt
  show (compare a.space b.space).then (compare a.name b.name) = .lt ↔ _
  rw [Ordering.then_eq_lt, htext, htext, Std.compare_eq_iff_eq]
  rfl

end PropertyKey

/-- The values that are declared with a key, in order. -/
def valuesDeclared (key : PropertyKey) (decls : List PropertyDecl) : List String :=
  (decls.filter fun p => p.key = key).map (·.value)

theorem valuesDeclared_append (key : PropertyKey) (before after : List PropertyDecl) :
    valuesDeclared key (before ++ after) =
      valuesDeclared key before ++ valuesDeclared key after := by
  unfold valuesDeclared
  rw [List.filter_append, List.map_append]

theorem mem_valuesDeclared {key : PropertyKey} {value : String} {decls : List PropertyDecl} :
    value ∈ valuesDeclared key decls ↔ ∃ p ∈ decls, p.key = key ∧ p.value = value := by
  unfold valuesDeclared
  simp [List.mem_map, List.mem_filter, and_assoc]

def PropertyDecl.spelledOut (p : PropertyDecl) : PropertyDecl :=
  { p with space := some (p.space.getD defaultPropertySpace) }

theorem valuesDeclared_spelledOut (key : PropertyKey) (decls : List PropertyDecl) :
    valuesDeclared key (decls.map PropertyDecl.spelledOut) = valuesDeclared key decls := by
  unfold valuesDeclared
  rw [List.filter_map, List.map_map]
  rfl

namespace Properties

variable {key : PropertyKey} {decls decls' : List PropertyDecl}

theorem ofDecls_concat (decls : List PropertyDecl) (p : PropertyDecl) :
    ofDecls (decls ++ [p]) = (ofDecls decls).add p := by
  unfold ofDecls
  rw [List.foldl_append]
  rfl

theorem sorted_ofDecls (decls : List PropertyDecl) : (ofDecls decls).groups.Sorted := by
  induction decls using List.reverseRecOn with
  | nil => exact SortedMap.Sorted.empty
  | append_singleton decls p ih =>
    rw [ofDecls_concat]
    exact ih.alter p.key _

theorem mem_keys_ofDecls : key ∈ (ofDecls decls).groups.keys ↔ ∃ p ∈ decls, p.key = key := by
  induction decls using List.reverseRecOn with
  | nil => simp [ofDecls, empty, SortedMap.empty, SortedMap.keys]
  | append_singleton decls p ih =>
    rw [ofDecls_concat]
    unfold add
    rw [SortedMap.mem_keys_alter, ih]
    simp [or_and_right, exists_or, or_comm, eq_comm]

theorem addValue_eraseDups (value : String) (values : List String) :
    addValue value values.eraseDups = (values ++ [value]).eraseDups := by
  rw [eraseDups_append_singleton]
  unfold addValue
  by_cases h : value ∈ values
  · simp [h]
  · simp [h]

/-- Each property adds its value to its own group, so that the values of a key are those declared
with it, each where it first occurs. -/
theorem values_ofDecls (decls : List PropertyDecl) (key : PropertyKey) :
    (ofDecls decls).values key = (valuesDeclared key decls).eraseDups := by
  induction decls using List.reverseRecOn with
  | nil => rfl
  | append_singleton decls p ih =>
    have hadd : ((ofDecls decls).add p).values key =
        if key = p.key then addValue p.value ((ofDecls decls).values p.key)
        else (ofDecls decls).values key := by
      unfold values add
      rw [(sorted_ofDecls decls).get?_alter]
      split <;> rfl
    rw [ofDecls_concat, hadd, valuesDeclared_append]
    by_cases h : key = p.key
    · subst h
      rw [if_pos rfl, ih, addValue_eraseDups]
      simp [valuesDeclared]
    · rw [if_neg h, ih]
      simp [valuesDeclared, Ne.symm h]

theorem eraseDups_eq_nil_iff {values : List String} : values.eraseDups = [] ↔ values = [] := by
  simp only [List.eq_nil_iff_forall_not_mem, List.mem_eraseDups]

theorem get?_ofDecls (decls : List PropertyDecl) (key : PropertyKey) :
    (ofDecls decls).groups.get? key =
      if valuesDeclared key decls = [] then none
      else some (valuesDeclared key decls).eraseDups := by
  have hdeclared : key ∈ (ofDecls decls).groups.keys ↔ valuesDeclared key decls ≠ [] := by
    rw [mem_keys_ofDecls]
    unfold valuesDeclared
    simp [List.filter_eq_nil_iff]
  have hvalues := values_ofDecls decls key
  unfold values at hvalues
  cases hget : (ofDecls decls).groups.get? key with
  | none =>
    have hnil := mt hdeclared.mpr (SortedMap.get?_eq_none_iff.mp hget)
    rw [if_pos (not_not.mp hnil)]
  | some vs =>
    rw [hget] at hvalues
    have hmem : key ∈ (ofDecls decls).groups.keys := by
      rw [← SortedMap.isSome_get?_iff, hget]
      rfl
    rw [if_neg (hdeclared.mp hmem), ← hvalues]
    rfl

theorem ne_nil_of_mem_entries {key : PropertyKey} {vs : List String}
    (h : (key, vs) ∈ (ofDecls decls).groups.entries) :
    vs ≠ [] ∧ vs = (ofDecls decls).values key := by
  have hget := (sorted_ofDecls decls).mem_entries_iff.mp h
  have hvalues : (ofDecls decls).values key = vs := by
    unfold values
    rw [hget]
    rfl
  refine ⟨?_, hvalues.symm⟩
  rw [get?_ofDecls] at hget
  split at hget
  · cases hget
  · next hne =>
    rw [← hvalues, values_ofDecls]
    exact mt eraseDups_eq_nil_iff.mp hne

theorem contains_ofDecls_iff {value : String} : (ofDecls decls).contains key value = true ↔
    ∃ p ∈ decls, p.key = key ∧ p.value = value := by
  unfold contains
  rw [values_ofDecls, List.contains_iff_mem, List.mem_eraseDups, mem_valuesDeclared]

theorem ofDecls_eq_iff : ofDecls decls = ofDecls decls' ↔
    ∀ key, (valuesDeclared key decls).eraseDups = (valuesDeclared key decls').eraseDups := by
  constructor
  · intro h key
    rw [← values_ofDecls, h, values_ofDecls]
  · intro h
    have hgroups : (ofDecls decls).groups = (ofDecls decls').groups := by
      refine (sorted_ofDecls decls).ext (sorted_ofDecls decls') fun key => ?_
      have hnil : valuesDeclared key decls = [] ↔ valuesDeclared key decls' = [] := by
        rw [← eraseDups_eq_nil_iff, h, eraseDups_eq_nil_iff]
      rw [get?_ofDecls, get?_ofDecls, h]
      simp only [hnil]
    cases hps : ofDecls decls
    cases hps' : ofDecls decls'
    rw [hps, hps'] at hgroups
    exact congrArg Properties.mk hgroups

theorem ofDecls_repeated {before after : List PropertyDecl} {p q : PropertyDecl} (hq : q ∈ before)
    (hkey : q.key = p.key) (hvalue : q.value = p.value) :
    ofDecls (before ++ p :: after) = ofDecls (before ++ after) := by
  refine ofDecls_eq_iff.mpr fun key => ?_
  have hsplit : before ++ p :: after = before ++ [p] ++ after := by simp
  rw [hsplit, valuesDeclared_append, valuesDeclared_append _ before after,
    ← eraseDups_eraseDups_append, ← eraseDups_eraseDups_append (valuesDeclared key before),
    valuesDeclared_append]
  by_cases h : p.key = key
  · have hmem : p.value ∈ valuesDeclared key before :=
      mem_valuesDeclared.mpr ⟨q, hq, hkey.trans h, hvalue⟩
    have hone : valuesDeclared key [p] = [p.value] := by simp [valuesDeclared, h]
    rw [hone, eraseDups_append_singleton, if_pos hmem]
  · have hnone : valuesDeclared key [p] = [] := by simp [valuesDeclared, h]
    rw [hnone, List.append_nil]

/-- For any list of properties, the groups stand in strictly increasing order of namespace and name,
one for each key that is declared and none of them empty, and hold the values declared with the key,
each where it first occurs. The groups stay the same when the default namespace is written out or
left out, when a property that is there already is declared once more behind it, and when properties
are declared in another order that keeps those of each key in theirs. -/
theorem grouped_exactly (decls : List PropertyDecl) :
    (ofDecls decls).groups.keys.Pairwise PropertyKey.Before ∧
    (∀ key, key ∈ (ofDecls decls).groups.keys ↔ ∃ p ∈ decls, p.key = key) ∧
    (∀ key vs, (key, vs) ∈ (ofDecls decls).groups.entries →
      vs ≠ [] ∧ vs = (ofDecls decls).values key) ∧
    (∀ key, (ofDecls decls).values key = (valuesDeclared key decls).eraseDups) ∧
    (∀ key value, (ofDecls decls).contains key value = true ↔
      ∃ p ∈ decls, p.key = key ∧ p.value = value) ∧
    (∀ decls', decls'.map PropertyDecl.spelledOut = decls.map PropertyDecl.spelledOut →
      ofDecls decls' = ofDecls decls) ∧
    (∀ before after p q, before ++ after = decls → q ∈ before → q.key = p.key →
      q.value = p.value → ofDecls (before ++ p :: after) = ofDecls decls) ∧
    (∀ decls', (∀ key, decls'.filter (·.key = key) = decls.filter (·.key = key)) →
      ofDecls decls' = ofDecls decls) := by
  refine ⟨?_, fun _ => mem_keys_ofDecls, fun _ _ => ne_nil_of_mem_entries, values_ofDecls decls,
    fun _ _ => contains_ofDecls_iff, ?_, ?_, ?_⟩
  · exact (sorted_ofDecls decls).imp fun h => PropertyKey.compare_eq_lt_iff.mp h
  · intro decls' h
    refine ofDecls_eq_iff.mpr fun key => ?_
    rw [← valuesDeclared_spelledOut, h, valuesDeclared_spelledOut]
  · rintro before after p q rfl hq hkey hvalue
    exact ofDecls_repeated hq hkey hvalue
  · intro decls' h
    refine ofDecls_eq_iff.mpr fun key => ?_
    unfold valuesDeclared
    rw [h]

namespace Sample

def statuses : List PropertyDecl :=
  [⟨"status", none, "draft"⟩, ⟨"status", none, "final"⟩, ⟨"status", some "urn:x", "other"⟩]

def statusAgain : PropertyDecl := ⟨"status", some defaultPropertySpace, "draft"⟩

end Sample

open Sample

theorem grouped_exactly_statuses :
    (⟨defaultPropertySpace, "status"⟩, ["draft", "final"]) ∈ (ofDecls statuses).groups.entries ∧
    ["draft", "final"] = (ofDecls statuses).values ⟨defaultPropertySpace, "status"⟩ ∧
    ofDecls (statusAgain :: statuses.tail) = ofDecls statuses ∧
    ofDecls (statuses ++ [statusAgain]) = ofDecls statuses ∧
    ofDecls (statuses.tail.tail ++ statuses.take 2) = ofDecls statuses := by
  obtain ⟨-, -, hgroups, -, -, hspelled, hrepeated, hreordered⟩ := grouped_exactly statuses
  have hmem : (⟨defaultPropertySpace, "status"⟩, ["draft", "final"]) ∈
      (ofDecls statuses).groups.entries := by decide
  refine ⟨hmem, (hgroups _ _ hmem).2, hspelled _ (by decide), ?_, hreordered _ ?_⟩
  · exact hrepeated statuses [] statusAgain ⟨"status", none, "draft"⟩ rfl (by decide) rfl rfl
  · intro key
    by_cases h : key = ⟨"urn:x", "status"⟩
    · subst h
      decide
    · have hother : PropertyDecl.key ⟨"status", some "urn:x", "other"⟩ ≠ key := Ne.symm h
      simp [statuses, List.filter_cons, hother]

end Properties

end InfoModel
