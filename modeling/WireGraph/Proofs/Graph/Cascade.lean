import WireGraph.Graph.Store

/-!
# What a removal leaves

A removal takes out components and wires, and besides it only tells of them: to the events, and to
the records that are pending. The graph without some wires and the graph without some components are
said here at one stroke. Main statement: they come to the same when they are taken out one after
another, and the order in which they are taken is the order in which they are told of.
-/

namespace WireGraph

namespace Table
variable {α : Type} {t : Table α}

theorem filter_filter (t : Table α) (p q : String × α → Bool) :
    (t.filter p).filter q = t.filter fun e => p e && q e :=
  ext (by simp [List.filter_filter,Bool.and_comm])

theorem filter_congr {p q : String × α → Bool} (same : ∀ e ∈ t.entries, p e = q e) :
    t.filter p = t.filter q :=
  ext (List.filter_congr same)

-- The table without what is under these keys.
def without (t : Table α) (keys : List String) : Table α := t.filter fun e => !keys.contains e.1

theorem without_nil (t : Table α) : t.without [] = t :=
  ext (List.filter_eq_self.mpr fun _ _ => rfl)

theorem erase_without (t : Table α) (key : String) (keys : List String) :
    (t.erase key).without keys = t.without (key :: keys) := by
  rw [erase,without,filter_filter,without]
  refine filter_congr fun e _ => ?_
  rw [List.contains_cons,Bool.not_or]
  rfl

-- Without the records that pass a test, taken out by their names.
theorem without_filter {name : α → String} (keyed : ∀ e ∈ t.entries, name e.2 = e.1)
    (q : α → Bool) : t.without ((t.values.filter q).map name) = t.filter fun e => !q e.2 := by
  refine filter_congr fun e stored => congrArg _ ?_
  rw [Bool.eq_iff_iff,List.contains_iff_mem,List.mem_map]
  constructor
  · rintro ⟨a,member,same⟩
    obtain ⟨listed,passes⟩ := List.mem_filter.mp member
    obtain ⟨d,entry,rfl⟩ := List.mem_map.mp listed
    have key : d.1 = e.1 := (keyed d entry).symm.trans same
    have one : d.2 = e.2 := entry_unique (key ▸ entry : (e.1,d.2) ∈ t.entries) stored
    rwa [← one]
  · intro passes
    exact ⟨e.2,List.mem_filter.mpr ⟨List.mem_map.mpr ⟨e,stored,rfl⟩,passes⟩,keyed e stored⟩

theorem without_keys {keys : List String} (all : ∀ key ∈ t.keys, key ∈ keys) :
    t.without keys = .empty :=
  ext (List.filter_eq_nil_iff.mpr fun e stored => by simpa using all e.1 (key_mem stored))

end Table

def Wire.removedEvent (w : Wire) : Event := .wireRemoved w.id w.producer w.consumer

def Component.removedEvent (c : Component) : Event := .componentRemoved c.id c.pid

theorem toList_filterMap {α β : Type} (f : α → Option β) (a : α) (rest : List α) :
    (f a).toList ++ rest.filterMap f = (a :: rest).filterMap f := by
  cases made : f a <;> simp [made]

theorem erase_removeAll (ids : List String) (id : String) (rest : List String) :
    (ids.filter (· != id)).removeAll rest = ids.removeAll (id :: rest) := by
  rw [List.removeAll,List.removeAll,List.filter_filter]
  refine List.filter_congr fun a _ => ?_
  rw [List.elem_cons,Bool.and_comm]
  cases same : a == id <;> simp [bne,same]

namespace Graph
variable {g : Graph}

-- The graph after the wires were taken out of it, one after another.
def cut (g : Graph) (ws : List Wire) : Graph :=
  { g with
    wires := g.wires.without (ws.map (·.id))
    pending := { g.pending with deletions := g.pending.deletions ++ ws.filterMap (·.deletion?) }
    events := g.events ++ ws.map (·.removedEvent) }

-- The graph after the components were taken out of it, one after another.
def bared (g : Graph) (cs : List Component) : Graph :=
  { g with
    components := g.components.without (cs.map (·.id))
    pending :=
      { deletions := g.pending.deletions ++ cs.filterMap (·.deletion?)
        creations := g.pending.creations.removeAll (cs.map (·.id)) }
    events := g.events ++ cs.map (·.removedEvent) }

theorem cut_nil (g : Graph) : g.cut [] = g := by
  simp [cut,Table.without_nil]

theorem cut_cons (g : Graph) (w : Wire) (rest : List Wire) :
    (g.withoutWire w).cut rest = g.cut (w :: rest) := by
  simp only [cut,withoutWire,Pending.noteWireRemoval,Table.erase_without,List.append_assoc,
    toList_filterMap,List.map_cons]
  rfl

theorem bared_nil (g : Graph) : g.bared [] = g := by
  have creations : g.pending.creations.removeAll [] = g.pending.creations :=
    List.filter_eq_self.mpr fun _ _ => rfl
  simp [bared,Table.without_nil,creations]

theorem bared_cons (g : Graph) (c : Component) (rest : List Component) :
    (g.withoutComponent c.id c).bared rest = g.bared (c :: rest) := by
  simp only [bared,withoutComponent,Pending.noteRemoval,Table.erase_without,erase_removeAll,
    List.append_assoc,toList_filterMap,List.map_cons]
  rfl

end Graph

end WireGraph
