import WireGraph.Proofs.Graph.Passage

/-!
# Restored graphs

What a topology leaves in the graph that is restored from it. Main statements: records that share an
id leave one record, in the place of the first of them and with the value of the last, and this is
so of all components and of the wires that are not stale; a topology that is consistent is restored
as it is; and a graph whose records are under their ids and whose wires end at its components is
restored from its own topology, record by record.
-/

namespace WireGraph

-- Of the records with one name one is left: the last, in the place of the first.
structure Merges {α : Type} (name : α → String) (records merged : List α) : Prop where
  places : merged.map name = (records.map name).eraseDups
  latest : ∀ a ∈ merged, (records.filter fun b => name b == name a).getLast? = some a

namespace Table
variable {α : Type} {name : α → String}

-- What comes later overwrites what came before, so the inductions go from the end of the list.
theorem ofList_append (name : α → String) (records : List α) (r : α) :
    ofList name (records ++ [r]) = (ofList name records).insert (name r) r :=
  List.foldl_append

theorem keys_ofList (name : α → String) (records : List α) :
    (ofList name records).keys = (records.map name).eraseDups := by
  induction records using List.reverseRecOn with
  | nil => rfl
  | append_singleton records r ih =>
    rw [ofList_append,keys_insert,ih,List.map_append,List.eraseDups_append,List.map_singleton,
      List.cons_removeAll]
    by_cases known : name r ∈ records.map name
    · rw [if_pos (List.mem_eraseDups.mpr known),if_neg (by simpa using known)]
      exact (List.append_nil _).symm
    · rw [if_neg (mt List.mem_eraseDups.mp known),if_pos (by simpa using known)]
      rfl

theorem ofList_latest (name : α → String) (records : List α) :
    ∀ e ∈ (ofList name records).entries,
      (records.filter fun b => name b == e.1).getLast? = some e.2 := by
  induction records using List.reverseRecOn with
  | nil => exact fun _ none => nomatch none
  | append_singleton records r ih =>
    intro e stored
    rw [ofList_append] at stored
    rw [List.filter_append]
    rcases mem_insert.mp stored with rfl | ⟨old,other⟩
    · simp
    · have skipped : [r].filter (fun b => name b == e.1) = [] := by simp [Ne.symm other]
      rw [skipped,List.append_nil,ih e old]

theorem ofList_merges (name : α → String) (records : List α) :
    Merges name records (ofList name records).values where
  places := by
    rw [← keys_ofList,values,keys,List.map_map]
    exact List.map_congr_left (ofList_key name records)
  latest := by
    intro a stored
    obtain ⟨e,entry,rfl⟩ := List.mem_map.mp stored
    rw [ofList_key name records e entry]
    exact ofList_latest name records e entry

-- Records under their own names make up the table by themselves.
theorem eq_of_values {s t : Table α} (named : ∀ e ∈ s.entries, name e.2 = e.1)
    (also : ∀ e ∈ t.entries, name e.2 = e.1) (same : s.values = t.values) : s = t := by
  have entries {u : Table α} (keyed : ∀ e ∈ u.entries, name e.2 = e.1) :
      u.values.map (fun a => (name a,a)) = u.entries := by
    rw [values,List.map_map]
    refine (List.map_congr_left fun e stored => ?_).trans (List.map_id _)
    exact Prod.ext (keyed e stored) rfl
  exact ext (by rw [← entries named,same,entries also])

end Table

namespace Topology

-- Both ends of the wire are among the components; otherwise it is stale.
def joined (t : Topology) (w : Wire) : Bool :=
  (t.components.map (·.id)).contains w.producer && (t.components.map (·.id)).contains w.consumer

-- No id comes twice, and no wire is stale.
structure Consistent (t : Topology) : Prop where
  components : (t.components.map (·.id)).Nodup
  wires : (t.wires.map (·.id)).Nodup
  ends : ∀ w ∈ t.wires,
    w.producer ∈ t.components.map (·.id) ∧ w.consumer ∈ t.components.map (·.id)

instance (t : Topology) : Decidable t.Consistent :=
  decidable_of_iff ((t.components.map (·.id)).Nodup ∧ (t.wires.map (·.id)).Nodup ∧
      ∀ w ∈ t.wires,
        w.producer ∈ t.components.map (·.id) ∧ w.consumer ∈ t.components.map (·.id))
    ⟨fun ⟨a,b,c⟩ => ⟨a,b,c⟩,fun ⟨a,b,c⟩ => ⟨a,b,c⟩⟩

theorem joined_iff {t : Topology} {w : Wire} : t.joined w = true ↔
    w.producer ∈ t.components.map (·.id) ∧ w.consumer ∈ t.components.map (·.id) := by
  rw [joined,Bool.and_eq_true,List.contains_iff_mem,List.contains_iff_mem]

end Topology

namespace Graph
variable {g : Graph} {t : Topology} {driverFactories : List String} {drawn : Nat}

theorem restored_contains (t : Topology) (id : String) :
    (restoredComponents t).contains id = (t.components.map (·.id)).contains id := by
  rw [Bool.eq_iff_iff,Table.contains_iff,List.contains_iff_mem,restoredComponents,Table.keys_ofList,
    List.mem_eraseDups]

-- What is not stale is judged by the components of the topology, in whatever order they come.
theorem restored_wires (t : Topology) :
    restoredWires (restoredComponents t) t.wires =
      Table.ofList (·.id) (t.wires.filter t.joined) := by
  refine congrArg _ (List.filter_congr fun w _ => ?_)
  rw [restored_contains,restored_contains,Topology.joined]

theorem restore_components (t : Topology) (driverFactories : List String) (drawn : Nat)
    (supply : List String) :
    Merges (·.id) t.components (restore t driverFactories drawn supply).components.values :=
  Table.ofList_merges _ _

theorem restore_wires (t : Topology) (driverFactories : List String) (drawn : Nat)
    (supply : List String) :
    Merges (·.id) (t.wires.filter t.joined) (restore t driverFactories drawn supply).wires.values := by
  change Merges _ _ (restoredWires (restoredComponents t) t.wires).values
  rw [restored_wires]
  exact Table.ofList_merges _ _

theorem restore_consistent (consistent : t.Consistent) (driverFactories : List String)
    (drawn : Nat) (supply : List String) :
    (restore t driverFactories drawn supply).topology = t := by
  have components : (restoredComponents t).values = t.components :=
    Table.ofList_values _ _ consistent.components
  have wires : (restoredWires (restoredComponents t) t.wires).values = t.wires := by
    have kept : t.wires.filter t.joined = t.wires :=
      List.filter_eq_self.mpr fun w stored => Topology.joined_iff.mpr (consistent.ends w stored)
    rw [restored_wires,kept]
    exact Table.ofList_values _ _ consistent.wires
  change Topology.mk (restoredComponents t).values
    (restoredWires (restoredComponents t) t.wires).values = t
  rw [components,wires]

theorem Keyed.consistent (keyed : g.Keyed) (ends : g.WiresEnd) : g.topology.Consistent where
  components := keyed.component_ids ▸ g.components.keys_nodup
  wires := keyed.wire_ids ▸ g.wires.keys_nodup
  ends := fun w stored => by
    obtain ⟨producer,consumer⟩ := ends w stored
    exact ⟨keyed.contains_iff.mp producer,keyed.contains_iff.mp consumer⟩

-- The tables come back with their keys, not only the topology.
theorem restore_exact (keyed : g.Keyed) (ends : g.WiresEnd) (driverFactories : List String)
    (drawn : Nat) (supply : List String) :
    (restore g.topology driverFactories drawn supply).components = g.components ∧
      (restore g.topology driverFactories drawn supply).wires = g.wires := by
  have again := restore_keyed g.topology driverFactories drawn supply
  have same := restore_consistent (keyed.consistent ends) driverFactories drawn supply
  exact ⟨Table.eq_of_values again.components keyed.components (congrArg Topology.components same),
    Table.eq_of_values again.wires keyed.wires (congrArg Topology.wires same)⟩

-- Whatever a topology was, what was restored of it once is restored as it is.
theorem restored_consistent (t : Topology) (driverFactories : List String) (drawn : Nat)
    (supply : List String) : (restore t driverFactories drawn supply).topology.Consistent :=
  (restore_keyed t driverFactories drawn supply).consistent
    (restore_wiresEnd t driverFactories drawn supply)

end Graph

end WireGraph
