import WireGraph.Proofs.Graph.Passage

/-!
# Removals

What an edit takes out of a graph, read off from the graph before it and after it. Main statements:
these are the wires and components that the edit's changes take out, the wires first and each kind
in the order of the graph; the events report them in this order; and each of them that a registry
knows leaves its record behind, in this order too. A component that is removed takes the wires at it
along and nothing else.
-/

namespace WireGraph

inductive Removal where
  | wire (w : Wire)
  | component (c : Component)
deriving DecidableEq, Repr

def Removal.deletion? : Removal → Option Deletion
  | .wire w => w.deletion?
  | .component c => c.deletion?

def Removal.event : Removal → Event
  | .wire w => .wireRemoved w.id w.producer w.consumer
  | .component c => .componentRemoved c.id c.pid

def Event.removes : Event → Bool
  | .componentRemoved _ _ | .wireRemoved _ _ _ => true
  | .componentAdded _ | .wireAdded _ _ _ => false

def Change.removal? : Change → Option Removal
  | .cut w => some (.wire w)
  | .removed c => some (.component c)
  | .placed _ | .connected _ _ => none

-- The removals that are among some changes, in their order.
def removalsOf (path : List Change) : List Removal := path.filterMap Change.removal?

theorem removalsOf_cons (change : Change) (rest : List Change) :
    removalsOf (change :: rest) = removalsOf [change] ++ removalsOf rest :=
  List.filterMap_append (l := [change])

theorem removalsOf_parts (ws : List Wire) (cs : List Component) :
    removalsOf (ws.map .cut ++ cs.map .removed) = ws.map .wire ++ cs.map .component := by
  simp [removalsOf,Change.removal?,Function.comp_def]

-- A part of a list is found again by its keys.
theorem filter_part {α : Type} {f : α → String} {part all : List α} (inside : part.Sublist all)
    (apart : (all.map f).Nodup) : all.filter (fun a => (part.map f).contains (f a)) = part := by
  induction inside with
  | slnil => rfl
  | @cons part rest a inside ih =>
    rw [List.map_cons,List.nodup_cons] at apart
    have out : f a ∉ part.map f := fun member => apart.1 ((inside.map f).subset member)
    rw [List.filter_cons_of_neg (by simpa using out)]
    exact ih apart.2
  | @cons_cons part rest a inside ih =>
    rw [List.map_cons,List.nodup_cons] at apart
    rw [List.filter_cons_of_pos (by simp)]
    refine congrArg (a :: ·) (Eq.trans (List.filter_congr fun b member => ?_) (ih apart.2))
    have other : f b ≠ f a := fun same => apart.1 (same ▸ List.mem_map.mpr ⟨b,member,rfl⟩)
    simp [other]

theorem Table.get?_part {α : Type} (t : Table α) (key : String) :
    (t.get? key).toList.Sublist t.values := by
  cases found : t.get? key with
  | none => exact List.nil_sublist _
  | some value => exact List.singleton_sublist.mpr (List.mem_map.mpr ⟨_,Table.get?_iff.mp found,rfl⟩)

namespace Graph
variable {g after : Graph} {change : Change} {path : List Change}

-- What is in the graph before and is not in it after.
def gone (before after : Graph) : List Removal :=
  (before.wires.values.filter fun w => !after.wires.contains w.id).map .wire ++
    (before.components.values.filter fun c => !after.contains c.id).map .component

theorem gone_none (keyed : g.Keyed) (wires : ∀ k ∈ g.wires.keys, k ∈ after.wires.keys)
    (components : ∀ k ∈ g.components.keys, k ∈ after.components.keys) : g.gone after = [] := by
  unfold gone
  rw [List.filter_eq_nil_iff.mpr,List.filter_eq_nil_iff.mpr]
  · rfl
  · intro c stored
    simpa [contains,Table.contains_iff] using components _ (Table.key_mem (keyed.component stored))
  · intro w stored
    simpa [Table.contains_iff] using wires _ (Table.key_mem (keyed.wire stored))

theorem Moves.deletions (move : Moves g change after) :
    after.pending.deletions =
      g.pending.deletions ++ (removalsOf [change]).filterMap Removal.deletion? := by
  cases move with
  | placed =>
    exact (Pending.noteCreation_deletions _ _).trans (List.append_nil _).symm
  | connected => exact (List.append_nil _).symm
  | @cut w =>
    change g.pending.deletions ++ w.deletion?.toList = _
    cases record : w.deletion? <;> simp [removalsOf,Change.removal?,Removal.deletion?,record]
  | @removed c =>
    change g.pending.deletions ++ c.deletion?.toList = _
    cases record : c.deletion? <;> simp [removalsOf,Change.removal?,Removal.deletion?,record]

-- Whatever a registry knows of what is taken out leaves its record, in the order of the changes.
theorem Runs.deletions (runs : Runs g path after) :
    after.pending.deletions =
      g.pending.deletions ++ (removalsOf path).filterMap Removal.deletion? := by
  induction runs with
  | nil => exact (List.append_nil _).symm
  | @cons g middle after change rest move _ ih =>
    rw [ih,move.deletions,removalsOf_cons change rest,List.filterMap_append,List.append_assoc]

theorem Moves.reported (move : Moves g change after) :
    ∃ news, after.events = g.events ++ news ∧
      news.filter Event.removes = (removalsOf [change]).map Removal.event := by
  cases move with
  | placed => exact ⟨_,rfl,rfl⟩
  | connected => exact ⟨_,rfl,rfl⟩
  | cut => exact ⟨_,rfl,rfl⟩
  | removed => exact ⟨_,rfl,rfl⟩

theorem Runs.reported (runs : Runs g path after) :
    ∃ news, after.events = g.events ++ news ∧
      news.filter Event.removes = (removalsOf path).map Removal.event := by
  induction runs with
  | nil => exact ⟨[],(List.append_nil _).symm,rfl⟩
  | @cons g middle after change rest move _ ih =>
    obtain ⟨first,events,removed⟩ := move.reported
    obtain ⟨others,later,removals⟩ := ih
    refine ⟨first ++ others,?_,?_⟩
    · rw [later,events,List.append_assoc]
    · rw [List.filter_append,removed,removals,removalsOf_cons change rest,List.map_append]

-- Where nothing is added, what is left is what was not taken out.
theorem Runs.left (runs : Runs g path after) (only : ∀ c ∈ path, c.removal?.isSome = true) :
    (∀ k, k ∈ after.wires.keys ↔ k ∈ g.wires.keys ∧ ∀ w, .cut w ∈ path → w.id ≠ k) ∧
      ∀ k, k ∈ after.components.keys ↔
        k ∈ g.components.keys ∧ ∀ c, .removed c ∈ path → c.id ≠ k := by
  induction runs with
  | nil => simp
  | cons move _ ih =>
    obtain ⟨wires,components⟩ := ih fun c member => only c (List.mem_cons_of_mem _ member)
    have first := only _ List.mem_cons_self
    cases move with
    | placed => cases first
    | connected => cases first
    | @cut w =>
      refine ⟨fun k => ?_,fun k => ?_⟩
      · rw [wires k]
        change k ∈ (Table.erase _ w.id).keys ∧ _ ↔ _
        rw [Table.mem_keys_erase]
        simp only [List.mem_cons,Change.cut.injEq,forall_eq_or_imp,and_assoc]
        exact and_congr_right fun _ => and_congr_left fun _ => ne_comm
      · rw [components k]
        simp [withoutWire]
    | @removed c =>
      refine ⟨fun k => ?_,fun k => ?_⟩
      · rw [wires k]
        simp [withoutComponent]
      · rw [components k]
        change k ∈ (Table.erase _ c.id).keys ∧ _ ↔ _
        rw [Table.mem_keys_erase]
        simp only [List.mem_cons,Change.removed.injEq,forall_eq_or_imp,and_assoc]
        exact and_congr_right fun _ => and_congr_left fun _ => ne_comm

theorem Runs.gone {ws : List Wire} {cs : List Component} (keyed : g.Keyed)
    (runs : Runs g (ws.map .cut ++ cs.map .removed) after) (wires : ws.Sublist g.wires.values)
    (components : cs.Sublist g.components.values) :
    g.gone after = ws.map .wire ++ cs.map .component := by
  obtain ⟨left,kept⟩ := runs.left (by
    intro change member
    rcases List.mem_append.mp member with cut | removed
    · obtain ⟨w,_,rfl⟩ := List.mem_map.mp cut
      rfl
    · obtain ⟨c,_,rfl⟩ := List.mem_map.mp removed
      rfl)
  have cut : g.wires.values.filter (fun w => !after.wires.contains w.id) = ws := by
    refine Eq.trans (List.filter_congr fun w stored => ?_)
      (filter_part wires (keyed.wire_ids ▸ g.wires.keys_nodup))
    have present : w.id ∈ g.wires.keys := Table.key_mem (keyed.wire stored)
    rw [Bool.eq_iff_iff,Bool.not_eq_true',Bool.eq_false_iff,Ne,Table.contains_iff,left]
    simp [present]
  have removed : g.components.values.filter (fun c => !after.contains c.id) = cs := by
    refine Eq.trans (List.filter_congr fun c stored => ?_)
      (filter_part components (keyed.component_ids ▸ g.components.keys_nodup))
    have present : c.id ∈ g.components.keys := Table.key_mem (keyed.component stored)
    rw [Bool.eq_iff_iff,Bool.not_eq_true',Bool.eq_false_iff,Ne,contains,Table.contains_iff,kept]
    simp [present]
  rw [Graph.gone,cut,removed]

-- What an admitted edit takes out is what is gone after it: the wires first, all in the order in
-- which the graph has them.
theorem apply_gone (keyed : g.Keyed) {e : Edit} (runs : Runs g (g.changes e) after) :
    g.gone after = removalsOf (g.changes e) := by
  cases e with
  | place spec =>
    obtain _ | ⟨move,rest⟩ := runs
    cases rest
    cases move with
    | placed =>
      exact gone_none keyed (fun _ old => old) fun _ old => Table.mem_keys_insert.mpr (.inl old)
  | connect producer consumer =>
    obtain _ | ⟨move,rest⟩ := runs
    cases rest
    cases move with
    | connected =>
      exact gone_none keyed (fun _ old => Table.mem_keys_insert.mpr (.inl old)) fun _ old => old
  | remove i =>
    rw [changes] at runs ⊢
    rw [removalsOf_parts]
    exact runs.gone keyed List.filter_sublist (g.components.get?_part i)
  | disconnect i =>
    have parts : g.changes (.disconnect i) =
        (g.wire? i).toList.map .cut ++ ([] : List Component).map .removed :=
      (List.append_nil _).symm
    rw [parts] at runs ⊢
    rw [removalsOf_parts]
    exact runs.gone keyed (g.wires.get?_part i) (List.nil_sublist _)
  | clear =>
    rw [changes] at runs ⊢
    rw [removalsOf_parts]
    exact runs.gone keyed (List.Sublist.refl _) (List.Sublist.refl _)

-- The wires that a registry knows leave a record each.
theorem wire_deletions (ws : List Wire) : ws.filterMap (·.deletion?) =
    (ws.filter fun w => !w.fresh).map fun w => .wire ⟨w.producer,w.consumer⟩ := by
  induction ws with
  | nil => rfl
  | cons w rest ih =>
    rw [← toList_filterMap,ih]
    cases fresh : w.fresh <;> simp [Wire.deletion?,fresh]

theorem component_deletions (c : Component) : [c].filterMap (·.deletion?) =
    if c.pid = unregisteredPid then [] else [.component ⟨c.pid⟩] := by
  by_cases none : c.pid = unregisteredPid <;> simp [Component.deletion?,Component.registered,none]

-- The graph without the component and the wires at it, and with what is told of them.
def uprooted (g : Graph) (c : Component) : Graph :=
  { g with
    components := g.components.filter fun e => e.2.id != c.id
    wires := g.wires.filter fun e => e.2.producer != c.id && e.2.consumer != c.id
    pending :=
      { deletions := g.pending.deletions ++
          ((g.attached c.id).filter fun w => !w.fresh).map
            (fun w => .wire ⟨w.producer,w.consumer⟩) ++
          if c.pid = unregisteredPid then [] else [.component ⟨c.pid⟩]
        creations := g.pending.creations.filter (· != c.id) }
    events := g.events ++
      (g.attached c.id).map (fun w => .wireRemoved w.id w.producer w.consumer) ++
        [.componentRemoved c.id c.pid] }

theorem uprooted_eq (keyed : g.Keyed) (c : Component) :
    (g.cut (g.attached c.id)).bared [c] = g.uprooted c := by
  have components : g.components.without [c.id] = g.components.filter fun e => e.2.id != c.id := by
    refine Table.filter_congr fun e stored => ?_
    rw [keyed.components e stored,List.contains_cons,List.contains_nil,Bool.or_false]
    rfl
  have wires : g.wires.without ((g.attached c.id).map (·.id)) =
      g.wires.filter fun e => e.2.producer != c.id && e.2.consumer != c.id := by
    rw [attached,Table.without_filter keyed.wires]
    exact Table.filter_congr fun e _ => Bool.not_or _ _
  have creations : g.pending.creations.removeAll [c.id] =
      g.pending.creations.filter (· != c.id) := by
    refine List.filter_congr fun id _ => ?_
    rw [List.elem_cons,List.elem_nil]
    cases same : id == c.id <;> simp [bne,same]
  simp only [bared,cut,uprooted,List.map_cons,List.map_nil,components,wires,creations,
    wire_deletions,component_deletions]
  rfl

-- A component is gone when it has been removed, so it cannot be removed again.
theorem uprooted_absent (keyed : g.Keyed) (free : g.locked = false) (c : Component) :
    (g.uprooted c).remove c.id = (.error (.notFound "component" c.id),g.uprooted c) := by
  have absent : (g.uprooted c).component? c.id = none := by
    cases found : (g.uprooted c).component? c.id with
    | none => rfl
    | some d =>
      obtain ⟨stored,other⟩ := List.mem_filter.mp (Table.get?_iff.mp found)
      rw [keyed.components _ stored] at other
      simp at other
  have unlocked : (g.uprooted c).locked = false := free
  rw [remove,unlocked,absent]
  rfl

theorem remove_exact (keyed : g.Keyed) (free : g.locked = false) {c : Component}
    (stored : c ∈ g.components.values) :
    let after := g.uprooted c
    g.remove c.id = (.ok (),after) ∧
      after.components.values = g.components.values.filter (·.id != c.id) ∧
      after.wires.values =
        g.wires.values.filter (fun w => w.producer != c.id && w.consumer != c.id) ∧
      ((g.attached c.id).map (·.id)).Nodup ∧
      after.remove c.id = (.error (.notFound "component" c.id),after) := by
  refine ⟨?_,?_,?_,?_,?_⟩
  · rw [← uprooted_eq keyed]
    exact (remove_runs keyed free stored).1
  · exact Table.values_filter fun _ _ => rfl
  · exact Table.values_filter fun _ _ => rfl
  · exact keyed.filtered_distinct _
  · exact uprooted_absent keyed free c

-- A component with a wire to itself, two wires in parallel of which one is fresh, and a wire that
-- passes it by.
def hub : Graph :=
  { restore
      { components := [
          { id := "a", pid := "p", factory := "f", name := "A", role := .both },
          { id := "b", pid := "q", factory := "f", name := "B", role := .both },
          { id := "c", factory := "f", name := "C", role := .both }]
        wires := [⟨"u","a","b",false⟩,⟨"v","c","a",false⟩,⟨"w","b","b",false⟩,⟨"x","a","b",true⟩,
          ⟨"y","b","c",false⟩] } [] 0 with
    pending := { deletions := [.component ⟨"r"⟩], creations := ["c","b"] } }

theorem hub_uprooted :
    let b : Component := { id := "b", pid := "q", factory := "f", name := "B", role := .both }
    let after := hub.uprooted b
    hub.remove "b" = (.ok (),after) ∧
      after.components.values.map (·.id) = ["a","c"] ∧ after.wires.values.map (·.id) = ["v"] ∧
      after.pending = ⟨[.component ⟨"r"⟩,.wire ⟨"a","b"⟩,.wire ⟨"b","b"⟩,.wire ⟨"b","c"⟩,
        .component ⟨"q"⟩],["c"]⟩ ∧
      after.events = [.wireRemoved "u" "a" "b",.wireRemoved "w" "b" "b",.wireRemoved "x" "a" "b",
        .wireRemoved "y" "b" "c",.componentRemoved "b" "q"] ∧
      after.remove "b" = (.error (.notFound "component" "b"),after) := by
  intro b after
  have keyed : hub.Keyed := ⟨by decide +kernel,by decide +kernel⟩
  obtain ⟨removed,components,wires,_,again⟩ := remove_exact keyed rfl (c:=b) (by decide +kernel)
  refine ⟨removed,?_,?_,by decide +kernel,by decide +kernel,again⟩
  · rw [components]
    decide +kernel
  · rw [wires]
    decide +kernel

end Graph

end WireGraph
