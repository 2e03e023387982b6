import WireGraph.Proofs.Graph.Restore
import WireGraph.Proofs.Session.Course

/-!
# Storing what was restored

A restored graph is taken along by a script, its topology is stored, and the graph is restored
again. Main statement: nothing is lost on this way, at whatever point of the script the topology is
stored; and of a topology that no graph had before, just the records are lost that share an id with
a later one and the wires that are stale.
-/

namespace WireGraph

namespace Session
variable {s : Session} {actions : List Action} {x : Session}

-- At each point of a script the records are under their ids and the wires end at components.
theorem visits_whole (keyed : s.graph.Keyed) (ends : s.graph.WiresEnd)
    (lawful : everyIn Step.lawful actions = true) (stops : Bool)
    (member : x ∈ s :: (nodesAlong (s.runAll stops actions).traces).map (·.after)) :
    x.graph.Keyed ∧ x.graph.WiresEnd := by
  have follows : Follows s false (s.runAll stops actions).traces (s.runAll stops actions).after :=
    runAll_follows keyed actions stops lawful fun no => nomatch no
  obtain ⟨out,passes⟩ := follows.visits member
  exact ⟨passes.keyed keyed,passes.wiresEnd ends⟩

theorem stored_restored :
    (∀ (t : Topology) (driverFactories : List String) (drawn : Nat) (supply : List String),
      let g := Graph.restore t driverFactories drawn supply
      Merges (·.id) t.components g.components.values ∧
        Merges (·.id) (t.wires.filter t.joined) g.wires.values ∧ g.Keyed ∧ g.pending = {} ∧
        g.events = [] ∧ (t.Consistent → g.topology = t) ∧
        ∀ driverFactories drawn supply,
          (Graph.restore g.topology driverFactories drawn supply).topology = g.topology) ∧
    ∀ (t : Topology) (driverFactories : List String) (drawn : Nat) (supply : List String)
      (s : Session), s.graph = Graph.restore t driverFactories drawn supply →
      ∀ actions stops, everyIn Step.lawful actions = true →
      ∀ x ∈ s :: (nodesAlong (s.runAll stops actions).traces).map (·.after),
      ∀ driverFactories drawn supply,
        let again := Graph.restore x.graph.topology driverFactories drawn supply
        again.components = x.graph.components ∧ again.wires = x.graph.wires := by
  refine ⟨fun t driverFactories drawn supply => ?_,
    fun t driverFactories drawn supply s restored actions stops lawful x member => ?_⟩
  · exact ⟨Graph.restore_components t _ _ _,Graph.restore_wires t _ _ _,Graph.restore_keyed _ _ _ _,rfl,
      rfl,fun consistent => Graph.restore_consistent consistent _ _ _,
      Graph.restore_consistent (Graph.restored_consistent t driverFactories drawn supply)⟩
  · obtain ⟨keyed,ends⟩ := visits_whole (s := s) (restored ▸ Graph.restore_keyed _ _ _ _)
      (restored ▸ Graph.restore_wiresEnd _ _ _ _) lawful stops member
    exact Graph.restore_exact keyed ends

-- A component stored twice, a wire that is stale at first, and one that is stale in between.
def patchwork : Topology where
  components :=
    [{ id := "a", factory := "filter", name := "A", role := .both },
      { id := "b", factory := "filter", name := "B", role := .both },
      { id := "a", pid := "p", factory := "timer", name := "C", role := .both }]
  wires :=
    [⟨"w","a","z",true⟩,⟨"v","a","b",true⟩,⟨"w","a","b",false⟩,⟨"v","z","b",true⟩,⟨"v","b","a",false⟩]

-- A session over what is restored of it.
def mended : Session := { graph := Graph.restore patchwork [] 0 }

def mending : List Action :=
  [.step (.edit (.place { name := "D", factory := "logger", role := .consumer })),
    .step (.edit (.disconnect "w")),.step (.edit (.connect "b" "id-1")),.step .commit,
    .step (.editSession (.connect "a" "id-1"))]

theorem mended_restored :
    let g := (mended.runAll false mending).after.graph
    ¬patchwork.Consistent ∧
      mended.graph.topology =
        ⟨[{ id := "a", pid := "p", factory := "timer", name := "C", role := .both },
            { id := "b", factory := "filter", name := "B", role := .both }],
          [⟨"v","b","a",false⟩,⟨"w","a","b",false⟩]⟩ ∧
      (Graph.restore mended.graph.topology [] 0).topology = mended.graph.topology ∧
      g.topology.wires = [⟨"v","b","a",false⟩,⟨"id-2","b","id-1",false⟩,⟨"id-3","a","id-1",true⟩] ∧
      (Graph.restore g.topology [] 7).components = g.components ∧
      (Graph.restore g.topology [] 7).wires = g.wires := by
  obtain ⟨restored,stored⟩ := stored_restored
  obtain ⟨_,_,_,_,_,_,again⟩ := restored patchwork [] 0 []
  obtain ⟨components,wires⟩ := stored patchwork [] 0 [] mended rfl mending false (by decide)
    (mended.runAll false mending).after (by decide +kernel) [] 7 []
  exact ⟨by decide,by decide +kernel,again [] 0 [],by decide +kernel,components,wires⟩

end Session

end WireGraph
