import Mathlib.Data.List.Nodup
import WireGraph.Proofs.Cycle.Search
import WireGraph.Script.Run

/-!
# What a walk finds

The cycle that is met edge by edge, against the edges of its adjacency. The walk goes down into every
node it comes to, also into explored ones; the trail keeps out of those, and takes edges back only
when the walk goes on from an earlier node. Main statements: the trail brought back to a node of it is
the path to that node; a walk either meets a cycle or leaves a grounded list behind; and a cycle is
found exactly when there is one.
-/

namespace WireGraph
open Relation

namespace Trail
variable {adj : Adjacency} {start tail head : String} {edges : List Edge} {active : List String}

-- The last edge comes first, and the id where the trail ends is the end of that edge.
def tip (start : String) (edges : List Edge) : String := (edges.head?.map Prod.snd).getD start

-- The ids on the trail, back to its start.
def spine (start : String) (edges : List Edge) : List String := edges.map Prod.snd ++ [start]

def Linked (adj : Adjacency) (start : String) : List Edge → Prop
  | [] => True
  | (tail,head) :: before => adj.Leads tail head ∧ tail = tip start before ∧ Linked adj start before

theorem Linked.spine_eq (linked : Linked adj start edges) :
    spine start edges = tip start edges :: edges.map Prod.fst := by
  induction edges with
  | nil => rfl
  | cons edge before ih =>
    obtain ⟨tail,head⟩ := edge
    obtain ⟨_,meets,earlier⟩ := linked
    have shorter := ih earlier
    simp only [spine,tip] at shorter meets ⊢
    simp only [List.map_cons,List.cons_append,List.head?_cons,Option.map_some,Option.getD_some]
    rw [shorter,meets]

theorem Linked.chain (linked : Linked adj start edges) :
    (spine start edges).IsChain fun later earlier => adj.Leads earlier later := by
  induction edges with
  | nil => simp [spine]
  | cons edge before ih =>
    obtain ⟨tail,head⟩ := edge
    obtain ⟨leads,meets,earlier⟩ := linked
    have shorter := ih earlier
    have atTip := earlier.spine_eq
    simp only [spine,List.map_cons,List.cons_append] at shorter atTip ⊢
    rw [atTip] at shorter ⊢
    exact List.isChain_cons_cons.mpr ⟨meets ▸ leads,shorter⟩

theorem Linked.path (linked : Linked adj start edges) (nonempty : edges ≠ []) :
    TransGen adj.Leads start (tip start edges) := by
  induction edges with
  | nil => exact absurd rfl nonempty
  | cons edge before ih =>
    obtain ⟨tail,head⟩ := edge
    obtain ⟨leads,rfl,earlier⟩ := linked
    cases before with
    | nil => exact .single leads
    | cons last more => exact .tail (ih earlier (by simp)) leads

theorem Linked.earlier {later before : List Edge} (linked : Linked adj start (later ++ before)) :
    Linked adj start before := by
  induction later with
  | nil => exact linked
  | cons edge later ih => exact ih linked.2.2

-- A part of the trail, from the node where its first edge starts.
theorem Linked.later {x : String} {later before : List Edge}
    (linked : Linked adj start (later ++ (tail,x) :: before)) :
    Linked adj tail (later ++ [(tail,x)]) ∧
      tip tail (later ++ [(tail,x)]) = tip start (later ++ (tail,x) :: before) := by
  induction later with
  | nil => exact ⟨⟨linked.1,rfl,trivial⟩,rfl⟩
  | cons edge later ih =>
    obtain ⟨tail',head'⟩ := edge
    obtain ⟨leads,meets,earlier⟩ := linked
    obtain ⟨linked,same⟩ := ih earlier
    exact ⟨⟨leads,meets.trans same.symm,linked⟩,rfl⟩

theorem retreat_cons (tail : String) (edge last : Edge) (more : List Edge) (active : List String) :
    retreat tail (edge :: last :: more) active =
      if tail = last.2 then (last :: more,active.filter (· != edge.2))
      else retreat tail (last :: more) (active.filter (· != edge.2)) := by
  rw [retreat]

-- The trail goes back to an id that is on it: what lies above that id is taken off, and the active
-- ids are those of the path that is left.
theorem retreat_spine {above below : List String} {u : String}
    (shape : spine start edges = u :: above ++ tail :: below)
    (simple : (spine start edges).Nodup) (marks : ∀ x, x ∈ active ↔ x ∈ spine start edges) :
    ∃ later, edges = later ++ (retreat tail edges active).1 ∧
      spine start (retreat tail edges active).1 = tail :: below ∧
      ∀ x, x ∈ (retreat tail edges active).2 ↔ x ∈ tail :: below := by
  induction edges generalizing active above u with
  | nil => simp [spine] at shape
  | cons edge before ih =>
    obtain ⟨t,h⟩ := edge
    have inner : spine start before = above ++ tail :: below := (List.cons.inj shape).2
    obtain ⟨off,simple⟩ := List.nodup_cons.mp simple
    have marks : ∀ x, x ∈ active.filter (· != h) ↔ x ∈ spine start before := by
      intro x
      simp only [List.mem_filter,bne_iff_ne]
      constructor
      · rintro ⟨on,different⟩
        rcases List.mem_cons.mp ((marks x).mp on) with same | member
        · exact absurd same different
        · exact member
      · intro member
        refine ⟨(marks x).mpr (List.mem_cons_of_mem _ member),?_⟩
        rintro rfl
        exact off member
    cases before with
    | nil =>
      -- No edge is left: the trail is back at its start.
      have atStart : above = [] ∧ start = tail ∧ below = [] := by
        cases above with
        | nil => simpa [spine] using inner
        | cons a more => simp [spine] at inner
      obtain ⟨_,rfl,rfl⟩ := atStart
      exact ⟨[(t,h)],rfl,rfl,by simp [retreat]⟩
    | cons last more =>
      obtain ⟨t',h'⟩ := last
      rw [retreat_cons]
      by_cases same : tail = h'
      · rw [if_pos same]
        have kept : above = [] := by
          cases above with
          | nil => rfl
          | cons a rest =>
            have deeper : spine start more = rest ++ tail :: below := (List.cons.inj inner).2
            have again : h' ∈ spine start more := by rw [deeper]; simp [same]
            exact absurd again (List.nodup_cons.mp simple).1
        subst kept
        refine ⟨[(t,h)],rfl,inner,?_⟩
        intro x
        rw [marks,inner]
        rfl
      · rw [if_neg same]
        cases above with
        | nil => exact absurd (List.cons.inj inner).1.symm same
        | cons a rest =>
          obtain ⟨later,split,path,left⟩ := ih inner simple marks
          exact ⟨(t,h) :: later,congrArg ((t,h) :: ·) split,path,left⟩

-- The edges lead on from one another without coming back, and the marks are those of the ids on
-- the way.
structure Sound (adj : Adjacency) (start : String) (t : Trail) : Prop where
  linked : Linked adj start t.edges
  simple : (spine start t.edges).Nodup
  marks : ∀ x, x ∈ t.active ↔ x ∈ spine start t.edges
  head : t.head = t.edges.head?.map Prod.snd

theorem begin_sound (adj : Adjacency) (start : String) : (begin start).Sound adj start where
  linked := trivial
  simple := by simp [begin,spine]
  marks := by simp [begin,spine]
  head := rfl

theorem back_spine {t : Trail} {above below : List String} (sound : t.Sound adj start)
    (shape : spine start t.edges = above ++ tail :: below) :
    Linked adj start (t.broughtTo tail).edges ∧
      spine start (t.broughtTo tail).edges = tail :: below ∧
      (∀ x, x ∈ (t.broughtTo tail).active ↔ x ∈ tail :: below) ∧
      (t.broughtTo tail).seen = t.seen := by
  obtain ⟨linked,simple,marks,headAt⟩ := sound
  obtain ⟨edges,active,seen,head⟩ := t
  dsimp only at linked simple marks headAt shape
  have stays : above = [] → spine start edges = tail :: below ∧ ∀ x, x ∈ active ↔ x ∈ tail :: below := by
    rintro rfl
    exact ⟨shape,fun x => by rw [marks,shape]; rfl⟩
  unfold broughtTo
  cases edges with
  | nil =>
    subst headAt
    have kept : above = [] := by
      cases above with
      | nil => rfl
      | cons a rest => simp [spine] at shape
    exact ⟨linked,(stays kept).1,(stays kept).2,rfl⟩
  | cons edge before =>
    subst headAt
    simp only [List.head?_cons,Option.map_some]
    by_cases same : tail = edge.2
    · rw [if_pos same]
      have kept : above = [] := by
        cases above with
        | nil => rfl
        | cons a rest =>
          -- The tail is the tip already, so it cannot come once more below it.
          have deeper : spine start before = rest ++ tail :: below := (List.cons.inj shape).2
          have again : edge.2 ∈ spine start before := by rw [deeper]; simp [same]
          exact absurd again (List.nodup_cons.mp simple).1
      exact ⟨linked,(stays kept).1,(stays kept).2,rfl⟩
    · rw [if_neg same]
      cases above with
      | nil => exact absurd (List.cons.inj shape).1.symm same
      | cons a rest =>
        obtain ⟨later,split,path,left⟩ := retreat_spine shape simple marks
        rw [split] at linked
        exact ⟨linked.earlier,path,left,rfl⟩

theorem push_sound {kept : List Edge} {below seen : List String} (linked : Linked adj start kept)
    (shape : spine start kept = tail :: below) (simple : (tail :: below).Nodup)
    (marks : ∀ x, x ∈ active ↔ x ∈ tail :: below) (leads : adj.Leads tail head)
    (off : head ∉ tail :: below) :
    Sound adj start ⟨(tail,head) :: kept,head :: active,seen,some head⟩ := by
  have atTip : tail = tip start kept := by
    have both := linked.spine_eq
    rw [shape] at both
    exact (List.cons.inj both).1
  have longer : spine start ((tail,head) :: kept) = head :: tail :: below := congrArg (head :: ·) shape
  refine ⟨⟨leads,atTip,linked⟩,?_,?_,rfl⟩
  · rw [longer]
    exact List.nodup_cons.mpr ⟨off,simple⟩
  · intro x
    rw [longer,List.mem_cons,List.mem_cons,marks]

end Trail

namespace Adjacency
open Trail
variable {adj : Adjacency} {start tail head : String}

-- The edges of a closed path that comes to no id twice, in the order of the path.
structure Round (adj : Adjacency) (cycle : List Edge) : Prop where
  nonempty : cycle ≠ []
  simple : (cycle.map Prod.fst).Nodup
  closed : ∃ id, Linked adj id cycle.reverse ∧ tip id cycle.reverse = id

-- An edge from the tip back to an id on the trail closes a cycle: the trail from that id on.
theorem closes_round {kept : List Edge} {below : List String} (linked : Linked adj start kept)
    (shape : spine start kept = tail :: below) (simple : (tail :: below).Nodup)
    (leads : adj.Leads tail head) (on : head ∈ tail :: below) :
    adj.Round (((tail,head) :: kept).reverse.dropWhile (·.1 != head)) := by
  have both := linked.spine_eq
  rw [shape] at both
  obtain ⟨atTip,rest⟩ := List.cons.inj both
  have whole : Linked adj start ((tail,head) :: kept) := ⟨leads,atTip,linked⟩
  have tails : ((tail,head) :: kept).map Prod.fst = tail :: below := congrArg (tail :: ·) rest.symm
  rw [← tails] at on simple
  have reached : tip start ((tail,head) :: kept) = head := rfl
  generalize (tail,head) :: kept = edges at whole on simple reached
  obtain ⟨⟨id,x⟩,member,same⟩ := List.mem_map.mp on
  have same : id = head := same
  subst same
  obtain ⟨later,before,rfl⟩ := List.append_of_mem member
  obtain ⟨linked,atHead⟩ := whole.later
  rw [List.map_append,List.map_cons,List.nodup_append] at simple
  obtain ⟨laterSimple,simple,apart⟩ := simple
  -- The tails are distinct, so the first edge from the head is the one that was found.
  have cut : (later ++ (id,x) :: before).reverse.dropWhile (·.1 != id)
      = (later ++ [(id,x)]).reverse := by
    rw [List.reverse_append,List.reverse_cons,List.append_assoc,List.dropWhile_append_of_pos]
    · simp
    · intro e earlier
      have again : e.1 ∈ before.map Prod.fst := List.mem_map_of_mem (List.mem_reverse.mp earlier)
      simp only [bne_iff_ne]
      rintro rfl
      exact (List.nodup_cons.mp simple).1 again
  rw [cut]
  refine ⟨by simp,?_,id,by rwa [List.reverse_reverse],by rw [List.reverse_reverse,atHead,reached]⟩
  rw [List.map_reverse,List.nodup_reverse,List.map_append,List.nodup_append]
  refine ⟨laterSimple,by simp,?_⟩
  intro a inLater b inLast
  exact apart a inLater b (List.mem_cons.mpr (.inl (by simpa using inLast)))

theorem take_none {id : String} (none : take? id adj = .none) : adj.row id = [] := by
  induction adj with
  | nil => rfl
  | cons r adj ih =>
    obtain ⟨key,ids⟩ := r
    rw [row_cons]
    unfold take? at none
    split at none
    · rename_i same
      rw [if_pos same.symm]
      cases ids with
      | nil => rfl
      | cons s ids => cases none
    · rename_i different
      rw [if_neg (Ne.symm different)]
      exact ih (Option.map_eq_none_iff.mp none)

-- Only the row of the id gets shorter, and only by the successor that is taken.
theorem take_rows {id succ : String} {left : Adjacency} (taken : take? id adj = some (succ,left))
    (x s : String) : s ∈ adj.row x ↔ s ∈ left.row x ∨ (x = id ∧ s = succ) := by
  induction adj generalizing left with
  | nil => cases taken
  | cons r adj ih =>
    obtain ⟨key,ids⟩ := r
    unfold take? at taken
    split at taken
    · rename_i same
      subst same
      cases ids with
      | nil => cases taken
      | cons first ids =>
        cases taken
        rw [row_cons,row_cons]
        by_cases at_ : x = key
        · simp [at_,or_comm]
        · simp [at_]
    · rename_i different
      obtain ⟨⟨first,rest⟩,inner,same⟩ := Option.map_eq_some_iff.mp taken
      cases same
      rw [row_cons,row_cons]
      by_cases atKey : x = key
      · subst atKey
        simp [different]
      · simp only [if_neg atKey]
        exact ih inner

-- A walk under way. The stack is an explored part `up` on top of the path that the trail can be
-- brought back to; what was taken from the rows leads to nodes that are done or explored, or to the
-- next node of the path.
structure Walking (adj : Adjacency) (order : List String) (start : String) (left : Adjacency)
    (up path : List String) (t : Trail) (done : List String) : Prop where
  sound : t.Sound adj start
  trailed : ∃ above, spine start t.edges = above ++ path
  within : ∀ x ∈ up, x ∈ order
  off : ∀ x ∈ path, x ∉ order
  rows : ∀ x s, s ∈ left.row x → adj.Leads x s
  tried : ∀ x, x ∉ order → ∀ s, adj.Leads x s →
    s ∈ left.row x ∨ s ∈ done ++ order ∨ ∃ a b, path = a ++ s :: x :: b
  grounded : Grounded adj.Leads (done ++ order)
  seen : ∀ x, x ∈ t.seen ↔ x ∈ done ∨ x ∈ path
  started : start ∈ t.seen

section Walking
variable {order up path done : List String} {left : Adjacency} {t : Trail} {id succ : String}

theorem begin_walking (grounded : Grounded adj.Leads order) (new : start ∉ order) :
    Walking adj order start adj [] [start] (begin start) [] where
  sound := begin_sound adj start
  trailed := ⟨[],rfl⟩
  within := by simp
  off := by simpa using new
  rows := fun _ _ member => member
  tried := fun _ _ _ leads => .inl leads
  grounded := grounded
  seen := by simp [begin]
  started := by simp [begin]

theorem Walking.simple (walking : Walking adj order start left up path t done) : path.Nodup := by
  obtain ⟨above,shape⟩ := walking.trailed
  have whole := walking.sound.simple
  rw [shape,List.nodup_append] at whole
  exact whole.2.1

theorem Walking.leave (walking : Walking adj order start left (id :: up) path t done) :
    Walking adj order start left up path t done :=
  { walking with within := fun x member => walking.within x (List.mem_cons_of_mem _ member) }

theorem Walking.pass (walking : Walking adj order start left up path t done)
    (taken : take? id left = some (succ,rest)) (known : succ ∈ order) :
    Walking adj order start rest (succ :: up) path t done := by
  refine { walking with within := ?_, rows := ?_, tried := ?_ }
  · intro x member
    rcases List.mem_cons.mp member with rfl | old
    · exact known
    · exact walking.within x old
  · exact fun x s member => walking.rows x s ((take_rows taken x s).mpr (.inl member))
  · intro x new s leads
    rcases walking.tried x new s leads with untried | settled | onPath
    · rcases (take_rows taken x s).mp untried with later | ⟨_,rfl⟩
      · exact .inl later
      · exact .inr (.inl (List.mem_append_right _ known))
    · exact .inr (.inl settled)
    · exact .inr (.inr onPath)

-- The last node of the path has nothing left to try. It may have been done before, when the walk came
-- to it a second time.
theorem Walking.finish (walking : Walking adj order start left [] (id :: path) t done)
    (none : left.row id = []) : Walking adj order start left [] path t (id :: done) := by
  have simple := List.nodup_cons.mp walking.simple
  refine { walking with trailed := ?_, off := ?_, tried := ?_, grounded := ?_, seen := ?_ }
  · obtain ⟨above,shape⟩ := walking.trailed
    exact ⟨above ++ [id],by rw [shape]; simp⟩
  · exact fun x member => walking.off x (List.mem_cons_of_mem _ member)
  · intro x new s leads
    rcases walking.tried x new s leads with untried | settled | ⟨a,b,split⟩
    · exact .inl untried
    · exact .inr (.inl (List.mem_cons_of_mem _ settled))
    · cases a with
      | nil =>
        obtain ⟨rfl,_⟩ := List.cons.inj split
        exact .inr (.inl (by simp))
      | cons head a => exact .inr (.inr ⟨a,b,(List.cons.inj split).2⟩)
  · refine ⟨?_,walking.grounded⟩
    intro s leads
    rcases walking.tried id (walking.off id (by simp)) s leads with untried | settled | ⟨a,b,split⟩
    · rw [none] at untried
      cases untried
    · exact settled
    -- Nothing stands above the last node, and it stands nowhere else on the path.
    · cases a with
      | nil =>
        obtain ⟨_,rfl⟩ := List.cons.inj split
        exact absurd (by simp) simple.1
      | cons head a =>
        obtain ⟨_,rfl⟩ := List.cons.inj split
        exact absurd (by simp) simple.1
  · intro x
    rw [walking.seen x,List.mem_cons,List.mem_cons]
    exact or_left_comm.trans or_assoc.symm

theorem Walking.push (walking : Walking adj order start left [] (id :: path) t done)
    (taken : take? id left = some (succ,rest)) (new : succ ∉ order) (off : succ ∉ id :: path) :
    Walking adj order start rest [] (succ :: id :: path)
      ⟨(id,succ) :: (t.broughtTo id).edges,succ :: (t.broughtTo id).active,
        succ :: (t.broughtTo id).seen,some succ⟩ done := by
  obtain ⟨above,shape⟩ := walking.trailed
  obtain ⟨linked,kept,marks,seen⟩ := back_spine walking.sound shape
  have leads : adj.Leads id succ := walking.rows id succ ((take_rows taken id succ).mpr (.inr ⟨rfl,rfl⟩))
  refine ⟨push_sound linked kept walking.simple marks leads off,?_,by simp,?_,?_,?_,
    walking.grounded,?_,?_⟩
  · exact ⟨[],congrArg (succ :: ·) kept⟩
  · intro x member
    rcases List.mem_cons.mp member with rfl | old
    · exact new
    · exact walking.off x old
  · exact fun x s member => walking.rows x s ((take_rows taken x s).mpr (.inl member))
  · intro x unexplored s leads
    rcases walking.tried x unexplored s leads with untried | settled | ⟨a,b,split⟩
    · rcases (take_rows taken x s).mp untried with later | ⟨rfl,rfl⟩
      · exact .inl later
      · exact .inr (.inr ⟨[],path,rfl⟩)
    · exact .inr (.inl settled)
    · exact .inr (.inr ⟨succ :: a,b,congrArg (succ :: ·) split⟩)
  · intro x
    rw [seen,List.mem_cons,walking.seen x,List.mem_cons (b := succ)]
    exact or_left_comm
  · rw [seen]
    exact List.mem_cons_of_mem _ walking.started

theorem Walking.meets (walking : Walking adj order start left [] (id :: path) t done)
    (taken : take? id left = some (succ,rest)) (on : succ ∈ id :: path) :
    adj.Round (((id,succ) :: (t.broughtTo id).edges).reverse.dropWhile (·.1 != succ)) := by
  obtain ⟨above,shape⟩ := walking.trailed
  obtain ⟨linked,kept,_,_⟩ := back_spine walking.sound shape
  have leads : adj.Leads id succ := walking.rows id succ ((take_rows taken id succ).mpr (.inr ⟨rfl,rfl⟩))
  exact closes_round linked kept walking.simple leads on

-- A walk to its end either meets a cycle, or everything it has seen is grounded.
theorem follow_walk {explored stack : List String} (known : ∀ x, x ∈ explored ↔ x ∈ order)
    (walking : Walking adj order start left up path t done) (stacked : stack = up ++ path) :
    (∃ cycle, t.follow explored (walk left stack) = .inr cycle ∧ adj.Round cycle) ∨
      ∃ seen last, t.follow explored (walk left stack) = .inl seen ∧
        Grounded adj.Leads (last ++ order) ∧ (∀ x, x ∈ seen ↔ x ∈ last) ∧ start ∈ seen := by
  fun_induction walk left stack generalizing t up path done with
  | case1 left =>
    obtain ⟨rfl,rfl⟩ := List.append_eq_nil_iff.mp stacked.symm
    exact .inr ⟨t.seen,done,rfl,walking.grounded,by simpa using walking.seen,walking.started⟩
  | case2 left id below none ih =>
    cases up with
    | nil => subst stacked; exact ih (walking.finish (take_none none)) rfl
    | cons top up =>
      obtain ⟨rfl,rfl⟩ := List.cons.inj stacked
      exact ih walking.leave rfl
  | case3 left id below succ rest taken ih =>
    unfold follow
    by_cases old : succ ∈ order
    · rw [if_pos (by simpa using (known succ).mpr old)]
      exact ih (walking.pass taken old) (congrArg (succ :: ·) stacked)
    · rw [if_neg (by simpa using fun member => old ((known succ).mp member))]
      cases up with
      | cons top up =>
        -- An explored node leads to explored nodes only.
        obtain ⟨rfl,_⟩ := List.cons.inj stacked
        have leads := walking.rows id succ ((take_rows taken id succ).mpr (.inr ⟨rfl,rfl⟩))
        exact absurd (walking.grounded.right.step (walking.within id (by simp)) leads) old
      | nil =>
        subst stacked
        obtain ⟨above,shape⟩ := walking.trailed
        have marks := (back_spine walking.sound shape).2.2.1
        by_cases on : succ ∈ id :: below
        · rw [if_pos (by simpa using (marks succ).mpr on)]
          exact .inl ⟨_,rfl,walking.meets taken on⟩
        · rw [if_neg (by simpa using fun member => on ((marks succ).mp member))]
          exact ih (walking.push taken old on) rfl

end Walking

theorem cycleFrom_sound {explored order : List String} (starts : List String)
    (known : ∀ x, x ∈ explored ↔ x ∈ order) (grounded : Grounded adj.Leads order) :
    (∃ cycle, adj.cycleFrom explored starts = some cycle ∧ adj.Round cycle) ∨
      ∃ last, adj.cycleFrom explored starts = none ∧ Grounded adj.Leads last ∧
        (∀ x ∈ order, x ∈ last) ∧ ∀ x ∈ starts, x ∈ last := by
  induction starts generalizing explored order with
  | nil => exact .inr ⟨order,rfl,grounded,fun _ member => member,by simp⟩
  | cons start starts ih =>
    unfold cycleFrom
    by_cases old : start ∈ order
    · rw [if_pos (by simpa using (known start).mpr old)]
      rcases ih known grounded with found | ⟨last,none,grounded,keeps,covers⟩
      · exact .inl found
      · refine .inr ⟨last,none,grounded,keeps,?_⟩
        intro x member
        rcases List.mem_cons.mp member with rfl | later
        · exact keeps x old
        · exact covers x later
    · rw [if_neg (by simpa using fun member => old ((known start).mp member))]
      have whole : [start] = [] ++ [start] := rfl
      have ended := follow_walk known (begin_walking grounded old) whole
      rcases ended with ⟨cycle,found,round⟩ | ⟨seen,done,ended,grounded,same,started⟩
      · simp only [found]
        exact .inl ⟨cycle,rfl,round⟩
      · simp only [ended]
        have known : ∀ x, x ∈ seen ++ explored ↔ x ∈ done ++ order := by
          intro x
          rw [List.mem_append,List.mem_append,same x,known x]
        rcases ih known grounded with found | ⟨last,none,grounded,keeps,covers⟩
        · exact .inl found
        · refine .inr ⟨last,none,grounded,fun x member => keeps x (List.mem_append_right _ member),?_⟩
          intro x member
          rcases List.mem_cons.mp member with rfl | later
          · exact keeps x (List.mem_append_left _ ((same x).mp started))
          · exact covers x later

theorem cycle?_sound (adj : Adjacency) :
    (∃ cycle, adj.cycle? = some cycle ∧ adj.Round cycle) ∨
      (adj.cycle? = none ∧ ∀ id, ¬ TransGen adj.Leads id id) := by
  have known : ∀ x : String, x ∈ ([] : List String) ↔ x ∈ ([] : List String) := fun _ => Iff.rfl
  have nowhere : Grounded adj.Leads [] := trivial
  rcases cycleFrom_sound adj.ids known nowhere with found | ⟨last,none,grounded,_,covers⟩
  · exact .inl found
  · refine .inr ⟨none,?_⟩
    intro id back
    obtain ⟨_,out,_⟩ := TransGen.head'_iff.mp back
    obtain ⟨r,member,same,_⟩ := leads_row out
    exact grounded.no_return (covers id (List.mem_map.mpr ⟨r,member,same⟩)) back

theorem Round.returns {cycle : List Edge} (round : adj.Round cycle) :
    ∃ id, TransGen adj.Leads id id := by
  obtain ⟨nonempty,_,id,linked,atTip⟩ := round
  have path := linked.path (by simpa using nonempty)
  rw [atTip] at path
  exact ⟨id,path⟩

end Adjacency

namespace Graph
open Trail
variable {g : Graph}

-- Ids along a closed path of wires, the first of them once more at the end and no other twice.
structure Circuit (g : Graph) (ids : List String) : Prop where
  long : 2 ≤ ids.length
  returns : ids.head? = ids.getLast?
  simple : ids.dropLast.Nodup
  joined : ids.IsChain g.Joins

theorem digraph_leads (g : Graph) : g.digraph.Leads = g.Joins := by
  funext a b
  apply propext
  rw [Adjacency.Leads,digraph,Adjacency.row_map,← mem_successors]
  constructor
  · intro member
    split at member
    · exact member
    · cases member
  · intro member
    obtain ⟨w,stored,rfl,_⟩ := (mem_successors g a b).mp member
    have node : w.producer ∈ g.nodes := by
      simp only [nodes,mem_distinct,List.mem_append,List.mem_flatMap]
      exact .inr ⟨w,stored,by simp⟩
    rwa [if_pos node]

theorem round_circuit {cycle : List Edge} (round : g.digraph.Round cycle) :
    g.Circuit (cycle.map (·.1) ++ (cycle.map (·.1)).take 1) := by
  obtain ⟨nonempty,simple,id,linked,atTip⟩ := round
  obtain ⟨edge,rest,rfl⟩ := List.exists_cons_of_ne_nil nonempty
  -- Written backwards, the ids are those of the trail.
  have backwards := linked.spine_eq
  rw [atTip,List.map_reverse] at backwards
  have same : edge.1 = id := by
    have last := congrArg List.getLast? backwards
    rw [spine,List.getLast?_concat,List.map_cons,List.reverse_cons,← List.cons_append,
      List.getLast?_concat] at last
    exact (Option.some.inj last).symm
  have ids : (edge :: rest).map Prod.fst ++ [edge.1] = (spine id (edge :: rest).reverse).reverse := by
    rw [backwards,List.reverse_cons,List.reverse_reverse,same]
  have chain := List.isChain_reverse.mpr linked.chain
  rw [← ids,digraph_leads] at chain
  change g.Circuit ((edge :: rest).map Prod.fst ++ [edge.1])
  refine ⟨by simp,?_,?_,chain⟩
  · rw [List.getLast?_concat]
    rfl
  · rwa [List.dropLast_concat]

theorem findCycle_sound (g : Graph) :
    (∃ ids, g.findCycle = some ids ∧ g.Circuit ids ∧ ∃ id, TransGen g.Joins id id) ∨
      (g.findCycle = none ∧ ∀ id, ¬ TransGen g.Joins id id) := by
  rw [← digraph_leads]
  unfold findCycle
  rcases g.digraph.cycle?_sound with ⟨cycle,found,round⟩ | ⟨none,acyclic⟩
  · rw [found]
    exact .inl ⟨_,rfl,round_circuit round,round.returns⟩
  · rw [none]
    exact .inr ⟨rfl,acyclic⟩

theorem hasCycle_fault {fault : Fault} (stopped : g.hasCycle = .error fault) :
    ∃ id, fault = .danglingId id := by
  unfold hasCycle at stopped
  split at stopped
  · rename_i id _
    cases stopped
    exact ⟨id,rfl⟩
  · cases stopped

theorem checkSave_cyclic {cycle : List String} (refused : g.checkSave = .error (.cyclic cycle)) :
    g.Circuit cycle := by
  unfold checkSave at refused
  split at refused
  · cases refused
  · split at refused
    · rename_i stopped
      obtain ⟨id,rfl⟩ := hasCycle_fault stopped
      cases refused
    · rename_i answered
      have closed := (answer_exact answered).mp rfl
      rcases g.findCycle_sound with ⟨ids,found,circuit,_⟩ | ⟨_,acyclic⟩
      · cases refused
        rwa [found]
      · obtain ⟨id,back⟩ := closed
        exact absurd back (acyclic id)
    · cases refused

end Graph

-- A save whose transaction reaches no registry was stopped by the session or by the graph.
theorem Session.unsent_save {s : Session} {session stops : Bool} {script : List Action}
    {verdict : Verdict} {fault : Fault}
    (unsent : (s.perform (.save session script stops verdict)).submitted = none)
    (refused : (s.perform (.save session script stops verdict)).outcome = .error fault) :
    s.checkSave session = .error fault ∨ s.graph.checkSave = .error fault := by
  rw [perform] at unsent refused
  split at refused
  · rename_i f stopped
    cases refused
    exact .inl stopped
  · rename_i opened
    simp only [opened] at unsent
    unfold beginSave at unsent refused
    cases checked : s.graph.checkSave with
    | error f =>
      simp only [checked] at refused
      cases refused
      exact .inr rfl
    | ok _ =>
      simp only [checked] at unsent
      unfold concludeSave at unsent
      split at unsent <;> cases unsent

theorem Graph.findCycle_agrees (g : Graph) (ends : g.WiresEnd) :
    (g.findCycle = none ↔ g.hasCycle = .ok false) ∧
      (∀ ids, g.findCycle = some ids → g.Circuit ids) ∧
      ∀ (s : Session) (session stops : Bool) (script : List Action) (verdict : Verdict)
        (cycle : List String), s.graph = g →
        (s.perform (.save session script stops verdict)).submitted = none →
        (s.perform (.save session script stops verdict)).outcome = .error (.cyclic cycle) →
        g.Circuit cycle := by
  obtain ⟨found,answered⟩ := answers ends
  have exactly := answer_exact answered
  refine ⟨?_,?_,?_⟩
  · rcases g.findCycle_sound with ⟨ids,some,_,back⟩ | ⟨none,acyclic⟩
    · rw [some,answered,exactly.mpr back]
      simp
    · have no : found = false := by
        cases found with
        | false => rfl
        | true =>
          obtain ⟨id,back⟩ := exactly.mp rfl
          exact absurd back (acyclic id)
      simp [none,answered,no]
  · intro ids some
    rcases g.findCycle_sound with ⟨ids',same,circuit,_⟩ | ⟨none,_⟩
    · rw [same] at some
      cases some
      exact circuit
    · rw [none] at some
      cases some
  · rintro s session stops script verdict cycle rfl unsent refused
    rcases Session.unsent_save unsent refused with closed | cyclic
    · unfold Session.checkSave Session.checkOpen at closed
      split at closed
      · split at closed <;> cases closed
      · cases closed
    · exact checkSave_cyclic cyclic

theorem Graph.branches_circuit :
    branches.WiresEnd ∧ branches.hasCycle = .ok true ∧ branches.findCycle = some ["d","c","d"] ∧
      branches.Circuit ["d","c","d"] ∧
      (({ graph := branches } : Session).perform (.save true [] false .accept)).outcome =
        .error (.cyclic ["d","c","d"]) := by
  have ends : branches.WiresEnd := by unfold WiresEnd; decide
  have found : branches.findCycle = some ["d","c","d"] := by decide +kernel
  have refused : (({ graph := branches } : Session).perform (.save true [] false .accept)).outcome =
      .error (.cyclic ["d","c","d"]) := by decide +kernel
  obtain ⟨exactly,_,saves⟩ := findCycle_agrees branches ends
  have circuit := saves { graph := branches } true false [] .accept _ rfl (by decide +kernel) refused
  obtain ⟨answer,answered⟩ := answers ends
  refine ⟨ends,?_,found,circuit,refused⟩
  cases answer with
  | true => exact answered
  | false =>
    rw [exactly.mpr answered] at found
    cases found

end WireGraph
