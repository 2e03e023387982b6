import Mathlib.Data.List.Perm.Basic
import Mathlib.Data.Fintype.EquivFin
import Mathlib.Order.WellFounded
import WireGraph.Plan
import WireGraph.Proofs.Cycle.Search

/-!
# Orders of an adjacency

The order that is made generation by generation, against the edges. Main statement: there is none
exactly when some id leads back to itself, and otherwise it lists every id once and each before those
that it leads to.
-/

namespace WireGraph
open Relation

namespace Waiting
variable {w : Waiting}

def ids (w : Waiting) : List String := w.map Prod.fst

-- What one release does: an entry of the id is counted down, or goes when it is let go by the last
-- wire.
structure Released (w : Waiting) (id : String) (free : Bool) (left : Waiting) : Prop where
  kept : ((if free then [id] else []) ++ left.ids).Perm w.ids
  counted : ∀ e ∈ left, ∃ old ∈ w, old.1 = e.1 ∧ 0 < e.2 ∧ old.2 = e.2 + if id = e.1 then 1 else 0
  last : free = true → ∃ old ∈ w, old.1 = id ∧ old.2 ≤ 1

theorem release_released (distinct : w.ids.Nodup) (held : ∀ e ∈ w, 0 < e.2) (id : String) :
    Released w id (release id w).1 (release id w).2 := by
  induction w with
  | nil => exact ⟨by simp [release],by simp [release],by simp [release]⟩
  | cons e rest ih =>
    obtain ⟨key,count⟩ := e
    obtain ⟨new,distinct⟩ := List.nodup_cons.mp distinct
    have positive : 0 < count := held (key,count) (by simp)
    have ih := ih distinct fun e member => held e (List.mem_cons_of_mem _ member)
    -- The other entries have other ids, so they stay as they are.
    have others : key = id → ∀ e ∈ rest, ∃ old ∈ (key,count) :: rest, old.1 = e.1 ∧ 0 < e.2 ∧
        old.2 = e.2 + if id = e.1 then 1 else 0 := by
      rintro rfl e member
      have other : key ≠ e.1 := fun same => new (List.mem_map.mpr ⟨e,member,same.symm⟩)
      have member := List.mem_cons_of_mem (key,count) member
      exact ⟨e,member,rfl,held e member,by simp [other]⟩
    unfold release
    by_cases same : key = id
    · rw [if_pos same]
      by_cases single : count ≤ 1
      · rw [if_pos single]
        refine ⟨?_,others same,fun _ => ⟨(key,count),by simp,same,single⟩⟩
        simp [ids,same]
      · rw [if_neg single]
        refine ⟨by simp [ids],?_,fun no => absurd no Bool.false_ne_true⟩
        intro e member
        rcases List.mem_cons.mp member with rfl | later
        · refine ⟨(key,count),by simp,rfl,?_,?_⟩
          · change 0 < count - 1
            omega
          · rw [if_pos same.symm]
            change count = count - 1 + 1
            omega
        · exact others same e later
    · rw [if_neg same]
      refine ⟨?_,?_,?_⟩
      · exact List.perm_middle.trans (ih.kept.cons key)
      · intro e member
        rcases List.mem_cons.mp member with rfl | later
        · exact ⟨(key,count),by simp,rfl,positive,by simp [Ne.symm same]⟩
        · obtain ⟨old,stored,rest⟩ := ih.counted e later
          exact ⟨old,List.mem_cons_of_mem _ stored,rest⟩
      · intro free
        obtain ⟨old,stored,rest⟩ := ih.last free
        exact ⟨old,List.mem_cons_of_mem _ stored,rest⟩

-- What releasing several ids does, an id that comes several times being counted down as often.
structure ReleasedAll (w : Waiting) (items free : List String) (left : Waiting) : Prop where
  kept : (free ++ left.ids).Perm w.ids
  counted : ∀ e ∈ left, ∃ old ∈ w, old.1 = e.1 ∧ 0 < e.2 ∧ old.2 = e.2 + items.count e.1
  last : ∀ id ∈ free, ∃ old ∈ w, old.1 = id ∧ old.2 ≤ items.count id

theorem freed_cons (w : Waiting) (id : String) (rest : List String) :
    (w.releaseAll (id :: rest)).1 =
      (if (release id w).1 then [id] else []) ++ ((release id w).2.releaseAll rest).1 := by
  rw [releaseAll]
  dsimp only
  split <;> rfl

theorem left_cons (w : Waiting) (id : String) (rest : List String) :
    (w.releaseAll (id :: rest)).2 = ((release id w).2.releaseAll rest).2 := rfl

theorem releaseAll_released (distinct : w.ids.Nodup) (held : ∀ e ∈ w, 0 < e.2)
    (items : List String) :
    ReleasedAll w items (w.releaseAll items).1 (w.releaseAll items).2 := by
  induction items generalizing w with
  | nil =>
    refine ⟨by simp [releaseAll],?_,by simp [releaseAll]⟩
    intro e member
    exact ⟨e,member,rfl,held e member,by simp⟩
  | cons id rest ih =>
    have one := release_released distinct held id
    have left : (release id w).2.ids.Nodup := by
      have all := one.kept.nodup_iff.mpr distinct
      exact (List.nodup_append.mp all).2.1
    have more := ih left fun e member => by
      obtain ⟨_,_,_,positive,_⟩ := one.counted e member
      exact positive
    rw [freed_cons,left_cons]
    refine ⟨?_,?_,?_⟩
    · rw [List.append_assoc]
      exact (more.kept.append_left _).trans one.kept
    · intro e member
      obtain ⟨middle,between,same,positive,counted⟩ := more.counted e member
      obtain ⟨old,stored,same',_,counted'⟩ := one.counted middle between
      refine ⟨old,stored,same'.trans same,positive,?_⟩
      rw [counted',counted,same,List.count_cons,Nat.add_assoc]
      simp
    · intro x member
      rcases List.mem_append.mp member with here | later
      · by_cases free : (release id w).1 = true
        · rw [if_pos free,List.mem_singleton] at here
          subst here
          obtain ⟨old,stored,same,single⟩ := one.last free
          refine ⟨old,stored,same,?_⟩
          rw [List.count_cons_self]
          omega
        · rw [if_neg free] at here
          cases here
      · obtain ⟨middle,between,same,few⟩ := more.last x later
        obtain ⟨old,stored,same',_,counted⟩ := one.counted middle between
        refine ⟨old,stored,same'.trans same,?_⟩
        rw [counted,same,List.count_cons]
        simp only [beq_iff_eq]
        omega

end Waiting

namespace Adjacency
variable {adj : Adjacency} {listed ready : List String} {waiting : Waiting} {a b : String}

-- Each id has one row, and every id in a row has one.
structure Tidy (adj : Adjacency) : Prop where
  distinct : adj.ids.Nodup
  closed : ∀ a b, adj.Leads a b → b ∈ adj.ids

theorem mem_successorsOf {items : List String} :
    b ∈ adj.successorsOf items ↔ ∃ a ∈ items, adj.Leads a b := by
  simp [successorsOf,Leads]

theorem successorsOf_append (first second : List String) :
    adj.successorsOf (first ++ second) = adj.successorsOf first ++ adj.successorsOf second :=
  List.flatMap_append

theorem successorsOf_count {first second : List String} (same : first.Perm second) (id : String) :
    (adj.successorsOf first).count id = (adj.successorsOf second).count id :=
  (same.flatMap_right adj.row).count_eq id

theorem inDegree_count (distinct : adj.ids.Nodup) (id : String) :
    adj.inDegree id = (adj.successorsOf adj.ids).count id := by
  have rows : adj.successorsOf adj.ids = adj.edges.map (·.2) := by
    rw [successorsOf,ids,List.flatMap_map,edges,List.map_flatMap]
    refine List.flatMap_congr fun r member => ?_
    simp [row_of_mem distinct member,Function.comp_def]
  rw [rows,inDegree,List.count_eq_countP,List.countP_map,List.countP_eq_length_filter]
  rfl

-- Of the ids, some are listed, some come next, and the others wait: each for as many edges as lead to
-- it from ids that are not listed. None leads from these to an id that is listed or comes next.
structure Standing (adj : Adjacency) (listed ready : List String) (waiting : Waiting) : Prop where
  parted : (listed ++ (ready ++ waiting.ids)).Perm adj.ids
  held : ∀ e ∈ waiting, 0 < e.2 ∧ e.2 = (adj.successorsOf (ready ++ waiting.ids)).count e.1
  free : ∀ id ∈ listed ++ ready, (adj.successorsOf (ready ++ waiting.ids)).count id = 0

theorem Standing.distinct (tidy : adj.Tidy) (standing : adj.Standing listed ready waiting) :
    waiting.ids.Nodup := by
  have all := standing.parted.nodup_iff.mpr tidy.distinct
  exact (List.nodup_append.mp (List.nodup_append.mp all).2.1).2.1

theorem Standing.step (tidy : adj.Tidy) (standing : adj.Standing listed ready waiting) :
    adj.Standing (listed ++ ready) (waiting.releaseAll (adj.successorsOf ready)).1
      (waiting.releaseAll (adj.successorsOf ready)).2 := by
  have released := Waiting.releaseAll_released (standing.distinct tidy)
    (fun e member => (standing.held e member).1) (adj.successorsOf ready)
  -- What leads on from the ids that are now left, led on from those that waited.
  have counts (id : String) : (adj.successorsOf (ready ++ waiting.ids)).count id =
      (adj.successorsOf ready).count id +
        (adj.successorsOf ((waiting.releaseAll (adj.successorsOf ready)).1 ++
          (waiting.releaseAll (adj.successorsOf ready)).2.ids)).count id := by
    rw [successorsOf_append,List.count_append,successorsOf_count released.kept]
  refine ⟨?_,?_,?_⟩
  · rw [List.append_assoc]
    exact ((released.kept.append_left ready).append_left listed).trans standing.parted
  · intro e member
    obtain ⟨old,stored,same,positive,counted⟩ := released.counted e member
    have before := (standing.held old stored).2
    rw [same,counts] at before
    exact ⟨positive,by omega⟩
  · intro id member
    have total := counts id
    rcases List.mem_append.mp member with old | new
    · have none := standing.free id old
      omega
    · obtain ⟨old,stored,same,few⟩ := released.last id new
      have before := (standing.held old stored).2
      rw [same] at before
      omega

theorem Standing.begin (tidy : adj.Tidy) :
    adj.Standing [] (((adj.ids.map fun id => (id,adj.inDegree id)).filter (·.2 == 0)).map (·.1))
      ((adj.ids.map fun id => (id,adj.inDegree id)).filter (·.2 != 0)) := by
  have parted : (((adj.ids.map fun id => (id,adj.inDegree id)).filter (·.2 == 0)).map (·.1) ++
      Waiting.ids ((adj.ids.map fun id => (id,adj.inDegree id)).filter (·.2 != 0))).Perm adj.ids := by
    have both := (List.filter_append_perm (fun e : String × Nat => e.2 == 0)
      (adj.ids.map fun id => (id,adj.inDegree id))).map Prod.fst
    simpa [Waiting.ids,Function.comp_def,bne] using both
  refine ⟨by simpa using parted,?_,?_⟩
  · intro e member
    obtain ⟨listed,some_⟩ := List.mem_filter.mp member
    obtain ⟨id,_,rfl⟩ := List.mem_map.mp listed
    rw [successorsOf_count parted,← inDegree_count tidy.distinct]
    exact ⟨Nat.pos_of_ne_zero (bne_iff_ne.mp some_),rfl⟩
  · intro id member
    rw [List.nil_append] at member
    obtain ⟨e,listed,rfl⟩ := List.mem_map.mp member
    obtain ⟨listed,none⟩ := List.mem_filter.mp listed
    obtain ⟨id,_,rfl⟩ := List.mem_map.mp listed
    rw [successorsOf_count parted,← inDegree_count tidy.distinct]
    exact beq_iff_eq.mp none

-- An id that is next leads to ids that wait.
theorem Standing.onward (tidy : adj.Tidy) (standing : adj.Standing listed ready waiting)
    (member : a ∈ ready) (leads : adj.Leads a b) : b ∈ waiting.ids := by
  have target : b ∈ listed ++ (ready ++ waiting.ids) :=
    standing.parted.mem_iff.mpr (tidy.closed a b leads)
  rw [← List.append_assoc] at target
  rcases List.mem_append.mp target with done | waits
  · have none := List.count_eq_zero.mp (standing.free b done)
    exact absurd (mem_successorsOf.mpr ⟨a,List.mem_append_left _ member,leads⟩) none
  · exact waits

-- Whatever a member leads to stands later in the list or is among the others.
def Leading (adj : Adjacency) (others : List String) : List String → Prop
  | [] => True
  | id :: rest => (∀ s, adj.Leads id s → s ∈ rest ∨ s ∈ others) ∧ adj.Leading others rest

theorem Leading.append {others first second : List String}
    (onward : ∀ a ∈ first, ∀ b, adj.Leads a b → b ∈ second ∨ b ∈ others)
    (leading : adj.Leading others second) : adj.Leading others (first ++ second) := by
  induction first with
  | nil => exact leading
  | cons id rest ih =>
    refine ⟨?_,ih fun a member => onward a (List.mem_cons_of_mem _ member)⟩
    intro s leads
    rcases onward id (by simp) s leads with later | other
    · exact .inl (List.mem_append_right _ later)
    · exact .inr other

theorem Leading.grounded (leading : adj.Leading [] listed) : Grounded adj.Leads listed := by
  induction listed with
  | nil => trivial
  | cons id rest ih =>
    refine ⟨fun s leads => ?_,ih leading.2⟩
    rcases leading.1 s leads with later | none
    · exact later
    · cases none

theorem generations_exact (tidy : adj.Tidy) (standing : adj.Standing listed ready waiting) :
    ((adj.generations waiting ready).1 ++ (adj.generations waiting ready).2.ids).Perm
        (ready ++ waiting.ids) ∧
      adj.Leading (adj.generations waiting ready).2.ids (adj.generations waiting ready).1 ∧
      ∀ b ∈ (adj.generations waiting ready).2.ids,
        ∃ a ∈ (adj.generations waiting ready).2.ids, adj.Leads a b := by
  fun_induction generations adj waiting ready generalizing listed with
  | case1 waiting =>
    refine ⟨List.Perm.refl _,trivial,?_⟩
    intro b member
    obtain ⟨e,stored,rfl⟩ := List.mem_map.mp member
    obtain ⟨positive,counted⟩ := standing.held e stored
    exact mem_successorsOf.mp (List.count_pos_iff.mp (counted ▸ positive))
  | case2 =>
    rename_i waiting ready _ step later ih
    obtain ⟨kept,leading,held⟩ := ih (standing.step tidy)
    have released := (Waiting.releaseAll_released (standing.distinct tidy)
      (fun e member => (standing.held e member).1) (adj.successorsOf ready)).kept
    refine ⟨?_,?_,held⟩
    · rw [List.append_assoc]
      exact (kept.trans released).append_left ready
    · refine Leading.append (fun a member b leads => ?_) leading
      exact List.mem_append.mp
        ((kept.trans released).mem_iff.mpr (standing.onward tidy member leads))

-- Going back from id to id among finitely many, one comes round.
theorem held_returns {next : String → String → Prop} {ids : List String} (nonempty : ids ≠ [])
    (held : ∀ b ∈ ids, ∃ a ∈ ids, next a b) : ∃ id, TransGen next id id := by
  by_contra none
  let below (a b : { x // x ∈ ids }) : Prop := TransGen next a b
  have : IsTrans _ below := ⟨fun _ _ _ first second => TransGen.trans first second⟩
  have : Std.Irrefl below := ⟨fun a back => none ⟨a,back⟩⟩
  have founded : WellFounded below := Finite.wellFounded_of_trans_of_irrefl below
  obtain ⟨id,member⟩ := List.exists_mem_of_ne_nil ids nonempty
  obtain ⟨least,_,minimal⟩ := founded.has_min Set.univ ⟨⟨id,member⟩,trivial⟩
  obtain ⟨before,stored,leads⟩ := held least least.2
  exact minimal ⟨before,stored⟩ trivial (.single leads)

theorem order_exact (tidy : adj.Tidy) :
    (adj.order? = none ↔ ∃ id, TransGen adj.Leads id id) ∧
      ∀ order, adj.order? = some order → order.Perm adj.ids ∧ Grounded adj.Leads order := by
  have standing := Standing.begin tidy
  obtain ⟨kept,leading,held⟩ := generations_exact tidy standing
  have all := kept.trans (by simpa using standing.parted)
  unfold order?
  dsimp only
  split
  · rename_i nothing
    rw [nothing] at all leading
    have listed := all
    rw [Waiting.ids,List.map_nil,List.append_nil] at listed
    have grounded := leading.grounded
    refine ⟨⟨fun no => (nomatch no),?_⟩,fun order same => ?_⟩
    · rintro ⟨id,back⟩
      obtain ⟨next,out,_⟩ := TransGen.head'_iff.mp back
      obtain ⟨r,member,same,_⟩ := leads_row out
      have member : id ∈ adj.ids := List.mem_map.mpr ⟨r,member,same⟩
      exact absurd back (grounded.no_return (listed.mem_iff.mpr member))
    · cases same
      exact ⟨listed,grounded⟩
  · rename_i something
    refine ⟨⟨fun _ => ?_,fun _ => rfl⟩,fun _ no => (nomatch no)⟩
    exact held_returns (fun none => something (List.map_eq_nil_iff.mp none)) held

end Adjacency

end WireGraph
