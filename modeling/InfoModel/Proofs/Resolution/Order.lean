import InfoModel.Proofs.Resolution.Place
import Mathlib.Data.List.Induction

/-!
# The order of full resolution

The parts of what stands in a module have turns: lists of numbers, compared from the left. Global
flags come before global fields and these before global assemblies, each kind in the order of its
declaration; within a definition its flags come first, then the definitions that they hold, its
model, what its children hold, and last its constraints. Full resolution asks for the parts by their
turns. Main statement: `Module.sorted_parts`.
-/

namespace InfoModel

def Kind.turn : Kind → Nat
  | .flag => 0
  | .field => 1
  | .assembly => 2

/-- The turn of a part among the parts of one owner and what stands in its flags and children. -/
def Role.turn : Role → Nat
  | .flags => 0
  | .model => 2
  | .alternatives => 3
  | .constraints => 5

def Site.turn (m : Module) : Site → List Nat
  | .global k name => [k.turn, (m.ownNames k).idxOf name]
  | .flag parent n => parent.turn m ++ [1, n]
  | .child parent n => parent.turn m ++ [4, n]

/-- The turn of a part of a module. -/
def Slot.turn (m : Module) (s : Slot) : List Nat := s.site.turn m ++ [s.role.turn]

/-- The parts stand in the order of their turns, which begin with `start` and go on with a number
from `lo` up to, but not including, `hi`. -/
structure Ranked (m : Module) (start : List Nat) (lo hi : Nat) (ps : List (Part Unit)) : Prop where
  sorted : ps.Pairwise fun p q => p.slot.turn m < q.slot.turn m
  within : ∀ p ∈ ps, ∃ r rest, p.slot.turn m = start ++ r :: rest ∧ lo ≤ r ∧ r < hi

namespace Ranked
variable {m : Module} {start : List Nat} {lo mid hi : Nat} {ps qs : List (Part Unit)}

theorem nil : Ranked m start lo hi [] :=
  ⟨List.Pairwise.nil, fun _ hp => absurd hp List.not_mem_nil⟩

theorem single {p : Part Unit} {r : Nat} (h : p.slot.turn m = start ++ [r]) (hlo : lo ≤ r)
    (hhi : r < hi) : Ranked m start lo hi [p] := by
  refine ⟨List.pairwise_singleton _ _, ?_⟩
  intro q hq
  rw [List.mem_singleton.mp hq]
  exact ⟨r, [], h, hlo, hhi⟩

theorem append (hps : Ranked m start lo mid ps) (hqs : Ranked m start mid hi qs) (hlo : lo ≤ mid)
    (hhi : mid ≤ hi) : Ranked m start lo hi (ps ++ qs) := by
  refine ⟨List.pairwise_append.mpr ⟨hps.sorted, hqs.sorted, ?_⟩, ?_⟩
  · intro p hp q hq
    obtain ⟨r, rest, hr, -, hlt⟩ := hps.within p hp
    obtain ⟨r', rest', hr', hle, -⟩ := hqs.within q hq
    rw [hr, hr']
    exact List.append_left_lt (.rel (Nat.lt_of_lt_of_le hlt hle))
  · intro p hp
    rcases List.mem_append.mp hp with hp | hp
    · obtain ⟨r, rest, hr, h₁, h₂⟩ := hps.within p hp
      exact ⟨r, rest, hr, h₁, Nat.lt_of_lt_of_le h₂ hhi⟩
    · obtain ⟨r, rest, hr, h₁, h₂⟩ := hqs.within p hp
      exact ⟨r, rest, hr, Nat.le_trans hlo h₁, h₂⟩

theorem nest {r : Nat} (h : Ranked m (start ++ [r]) lo hi ps) : Ranked m start r (r + 1) ps := by
  refine ⟨h.sorted, ?_⟩
  intro p hp
  obtain ⟨r', rest, hr, -, -⟩ := h.within p hp
  refine ⟨r, r' :: rest, ?_, Nat.le_refl r, Nat.lt_succ_self r⟩
  rw [hr, List.append_assoc]
  rfl

theorem flatMap {f : α → List (Part Unit)} {as : List α}
    (h : ∀ n a, as[n]? = some a → Ranked m start n (n + 1) (f a)) :
    Ranked m start 0 as.length (as.flatMap f) := by
  induction as using List.reverseRecOn with
  | nil => exact .nil
  | append_singleton as a ih =>
    have hlast : (as ++ [a])[as.length]? = some a := List.getElem?_concat_length
    have hinit : ∀ (n : Nat) (b : α), as[n]? = some b → (as ++ [a])[n]? = some b := by
      intro n b hb
      have hlt := (List.getElem?_eq_some_iff.mp hb).1
      rw [List.getElem?_append_left hlt, hb]
    rw [List.flatMap_append, List.flatMap_singleton, List.length_append, List.length_singleton]
    have hall := ih fun n b hb => h n b (hinit n b hb)
    exact hall.append (h _ a hlast) (Nat.zero_le _) (Nat.le_succ _)

end Ranked

namespace Occupant
variable {m : Module}

theorem ranked_task (m : Module) (x : Occupant) (r : Role) :
    Ranked m (x.site.turn m) r.turn (r.turn + 1) (x.task r) := by
  unfold task
  cases ha : x.aggregate? r with
  | none => exact .nil
  | some a =>
    refine .single ?_ (Nat.le_refl _) (Nat.lt_succ_self _)
    rw [Aggregate.slot_task, slot_of_aggregate? ha]
    rfl

theorem ranked_partsOf {start : List Nat} {r : Nat} {os : List (Option Occupant)}
    (place : Nat → Site) (hplace : ∀ n, (place n).turn m = start ++ [r, n])
    (h : ∀ n y, os[n]? = some (some y) → y.site = place n ∧ Ranked m (y.site.turn m) 0 6 y.parts) :
    Ranked m start r (r + 1) (partsOf os) := by
  refine Ranked.nest (Ranked.flatMap fun n o ho => ?_)
  cases o with
  | none => exact .nil
  | some y =>
    obtain ⟨hsite, hy⟩ := h n y ho
    have hturn : y.site.turn m = (start ++ [r]) ++ [n] := by
      rw [hsite, hplace, List.append_assoc]
      rfl
    exact (hturn ▸ hy).nest

theorem ranked_parts (m : Module) {x : Occupant} (hx : x.Seated) :
    Ranked m (x.site.turn m) 0 6 x.parts := by
  induction x using induct with
  | step x ih =>
    have hflags : Ranked m (x.site.turn m) 1 2 (partsOf x.flags) := by
      refine ranked_partsOf (.flag x.site) (fun _ => rfl) fun n y hn => ?_
      have hy : x.Holds y := .inl (List.mem_of_getElem? hn)
      exact ⟨(hx.flags n _ hn y rfl).2, ih y hy (seated_of_holds hy)⟩
    have hchildren : Ranked m (x.site.turn m) 4 5 (partsOf x.children) := by
      refine ranked_partsOf (.child x.site) (fun _ => rfl) fun n y hn => ?_
      have hy : x.Holds y := .inr (List.mem_of_getElem? hn)
      exact ⟨(hx.children n _ hn y rfl).2, ih y hy (seated_of_holds hy)⟩
    rw [parts_eq]
    have h₁ := (ranked_task m x .flags).append hflags (by decide) (by decide)
    have h₂ := h₁.append (ranked_task m x .model) (by decide) (by decide)
    have h₃ := h₂.append (ranked_task m x .alternatives) (by decide) (by decide)
    have h₄ := h₃.append hchildren (by decide) (by decide)
    exact h₄.append (ranked_task m x .constraints) (by decide) (by decide)

end Occupant

namespace Module
variable {m : Module}

theorem ranked_own (h : m.Built) (k : Kind) :
    Ranked m [k.turn] 0 (m.own k).length ((m.own k).flatMap (Placed.parts k)) := by
  refine Ranked.flatMap fun n d hd => ?_
  have hr := Occupant.ranked_parts m (Occupant.seated_definition k d)
  have hturn : Occupant.site (.definition k d) = .global k d.name :=
    site_of_mem_own (List.mem_of_getElem? hd)
  have hn : (m.ownNames k).idxOf d.name = n := by
    have hget : (m.ownNames k)[n]? = some d.name := by
      unfold ownNames
      rw [List.getElem?_map, hd]
      rfl
    obtain ⟨hlt, hget⟩ := List.getElem?_eq_some_iff.mp hget
    rw [← hget]
    exact (h.nodup_ownNames k).idxOf_getElem n hlt
  rw [hturn] at hr
  have hsite : (Site.global k d.name).turn m = [k.turn] ++ [n] := by
    unfold Site.turn
    rw [hn]
    rfl
  exact (hsite ▸ hr).nest

/-- Full resolution asks for the parts of a module by their turns. -/
theorem sorted_parts (h : m.Built) :
    m.parts.Pairwise fun p q => p.slot.turn m < q.slot.turn m := by
  have hflags : Ranked m [] 0 1 ((m.own .flag).flatMap (Placed.parts .flag)) :=
    (ranked_own h .flag).nest
  have hfields : Ranked m [] 1 2 ((m.own .field).flatMap (Placed.parts .field)) :=
    (ranked_own h .field).nest
  have hassemblies : Ranked m [] 2 3 ((m.own .assembly).flatMap (Placed.parts .assembly)) :=
    (ranked_own h .assembly).nest
  have hall := (hflags.append hfields (by decide) (by decide)).append hassemblies (by decide)
    (by decide)
  exact hall.sorted

end Module

end InfoModel
