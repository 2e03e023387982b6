import WireGraph.Proofs.Graph.Report
import WireGraph.Proofs.Graph.Restore
import WireGraph.Proofs.Session.Course

/-!
# Well-formed graphs

What a graph is meant to be like: every id, name and pair of ends is there once, and a wire leads
from an output to an input of two different components. Main statement: the empty graph is so, what
is restored from a well-formed topology or opened by a snapshot that holds one is so, and nothing
that happens to a graph takes it away, as long as no id that is given out is in use. The report on
such a graph complains of nothing but wires that lead round.
-/

namespace WireGraph
open Relation

structure Topology.WellFormed (t : Topology) : Prop where
  components : (t.components.map (·.id)).Nodup
  wires : (t.wires.map (·.id)).Nodup
  named : ∀ c ∈ t.components, c.name ≠ ""
  names : (t.components.map (·.name)).Nodup
  apart : ∀ w ∈ t.wires, w.producer ≠ w.consumer
  output : ∀ w ∈ t.wires, ∃ p ∈ t.components, p.id = w.producer ∧ p.role.hasOutput = true
  input : ∀ w ∈ t.wires, ∃ c ∈ t.components, c.id = w.consumer ∧ c.role.hasInput = true
  pairs : (t.wires.map fun w => (w.producer,w.consumer)).Nodup

instance (t : Topology) : Decidable t.WellFormed :=
  decidable_of_iff ((t.components.map (·.id)).Nodup ∧ (t.wires.map (·.id)).Nodup ∧
      (∀ c ∈ t.components, c.name ≠ "") ∧ (t.components.map (·.name)).Nodup ∧
      (∀ w ∈ t.wires, w.producer ≠ w.consumer) ∧
      (∀ w ∈ t.wires, ∃ p ∈ t.components, p.id = w.producer ∧ p.role.hasOutput = true) ∧
      (∀ w ∈ t.wires, ∃ c ∈ t.components, c.id = w.consumer ∧ c.role.hasInput = true) ∧
      (t.wires.map fun w => (w.producer,w.consumer)).Nodup)
    ⟨fun ⟨a,b,c,d,e,f,g,h⟩ => ⟨a,b,c,d,e,f,g,h⟩,fun ⟨a,b,c,d,e,f,g,h⟩ => ⟨a,b,c,d,e,f,g,h⟩⟩

namespace Topology
variable {t : Topology}

theorem empty_wellFormed : ({} : Topology).WellFormed := by decide

theorem WellFormed.placed (wf : t.WellFormed) {c : Component}
    (new : c.id ∉ t.components.map (·.id)) (named : c.name ≠ "")
    (unnamed : c.name ∉ t.components.map (·.name)) :
    ({ t with components := t.components ++ [c] } : Topology).WellFormed where
  components := by simpa [List.nodup_append] using ⟨wf.components,by simpa using new⟩
  wires := wf.wires
  named := by simpa [or_imp,forall_and] using ⟨wf.named,named⟩
  names := by simpa [List.nodup_append] using ⟨wf.names,by simpa using unnamed⟩
  apart := wf.apart
  output := fun w stored => by
    obtain ⟨p,listed,ports⟩ := wf.output w stored
    exact ⟨p,List.mem_append_left _ listed,ports⟩
  input := fun w stored => by
    obtain ⟨c,listed,ports⟩ := wf.input w stored
    exact ⟨c,List.mem_append_left _ listed,ports⟩
  pairs := wf.pairs

theorem WellFormed.connected (wf : t.WellFormed) {w : Wire} (new : w.id ∉ t.wires.map (·.id))
    (apart : w.producer ≠ w.consumer)
    (output : ∃ p ∈ t.components, p.id = w.producer ∧ p.role.hasOutput = true)
    (input : ∃ c ∈ t.components, c.id = w.consumer ∧ c.role.hasInput = true)
    (unjoined : ¬t.Joins w.producer w.consumer) :
    ({ t with wires := t.wires ++ [w] } : Topology).WellFormed where
  components := wf.components
  wires := by simpa [List.nodup_append] using ⟨wf.wires,by simpa using new⟩
  named := wf.named
  names := wf.names
  apart := by simpa [or_imp,forall_and] using ⟨wf.apart,apart⟩
  output := by simpa [or_imp,forall_and] using ⟨wf.output,output⟩
  input := by simpa [or_imp,forall_and] using ⟨wf.input,input⟩
  pairs := by simpa [List.nodup_append] using ⟨wf.pairs,by simpa [Joins] using unjoined⟩

theorem WellFormed.cut (wf : t.WellFormed) (keep : Wire → Bool) :
    ({ t with wires := t.wires.filter keep } : Topology).WellFormed where
  components := wf.components
  wires := wf.wires.sublist (List.filter_sublist.map _)
  named := wf.named
  names := wf.names
  apart := fun w left => wf.apart w (List.mem_filter.mp left).1
  output := fun w left => wf.output w (List.mem_filter.mp left).1
  input := fun w left => wf.input w (List.mem_filter.mp left).1
  pairs := wf.pairs.sublist (List.filter_sublist.map _)

-- A component that no wire needs may go.
theorem WellFormed.removed (wf : t.WellFormed) {id : String}
    (free : ∀ w ∈ t.wires, w.producer ≠ id ∧ w.consumer ≠ id) :
    ({ t with components := t.components.filter (·.id != id) } : Topology).WellFormed where
  components := wf.components.sublist (List.filter_sublist.map _)
  wires := wf.wires
  named := fun c left => wf.named c (List.mem_filter.mp left).1
  names := wf.names.sublist (List.filter_sublist.map _)
  apart := wf.apart
  output := fun w stored => by
    obtain ⟨p,listed,same,port⟩ := wf.output w stored
    exact ⟨p,List.mem_filter.mpr ⟨listed,bne_iff_ne.mpr (same ▸ (free w stored).1)⟩,same,port⟩
  input := fun w stored => by
    obtain ⟨c,listed,same,port⟩ := wf.input w stored
    exact ⟨c,List.mem_filter.mpr ⟨listed,bne_iff_ne.mpr (same ▸ (free w stored).2)⟩,same,port⟩
  pairs := wf.pairs

-- Nothing is stale in a well-formed topology.
theorem WellFormed.consistent (wf : t.WellFormed) : t.Consistent where
  components := wf.components
  wires := wf.wires
  ends := fun w stored => by
    obtain ⟨p,producer,starts,_⟩ := wf.output w stored
    obtain ⟨c,consumer,stops,_⟩ := wf.input w stored
    exact ⟨List.mem_map.mpr ⟨p,producer,starts⟩,List.mem_map.mpr ⟨c,consumer,stops⟩⟩

-- A save changes neither ids nor names nor roles.
theorem WellFormed.committed (wf : t.WellFormed) :
    Topology.WellFormed ⟨t.components.map (·.committed),t.wires.map (·.committed)⟩ where
  components := by simpa [Function.comp_def,Component.committed_id] using wf.components
  wires := by simpa [Function.comp_def,Wire.committed] using wf.wires
  named := by simpa [Component.committed_name] using wf.named
  names := by simpa [Function.comp_def,Component.committed_name] using wf.names
  apart := by simpa [Wire.committed] using wf.apart
  output := by simpa [Component.committed_eq,Wire.committed] using wf.output
  input := by simpa [Component.committed_eq,Wire.committed] using wf.input
  pairs := by simpa [Function.comp_def,Wire.committed] using wf.pairs

end Topology

namespace Graph
variable {g after : Graph} {change : Change} {out : List Event}

structure WellFormed (g : Graph) : Prop where
  keyed : g.Keyed
  topology : g.topology.WellFormed

theorem commit_topology (g : Graph) : g.commit.topology =
    ⟨g.topology.components.map (·.committed),g.topology.wires.map (·.committed)⟩ := by
  rw [topology,commit,Table.values_mapValues,Table.values_mapValues]
  rfl

theorem unnamed_iff {name : String} :
    g.named? name = none ↔ name ∉ g.topology.components.map (·.name) := by
  simp [named?,topology]

theorem Moves.wellFormed (move : Moves g change after) (keyed : g.Keyed)
    (spares : g.Spares g.drawn after.drawn) (wf : g.topology.WellFormed) :
    after.topology.WellFormed := by
  rw [move.topology keyed spares]
  cases move with
  | placed admitted =>
    obtain ⟨_,named,unnamed,_⟩ := checkPlace_iff.mp admitted
    obtain ⟨new,_⟩ := spares.next (Nat.lt_succ_self _)
    refine wf.placed ?_ named (unnamed_iff.mp unnamed)
    exact keyed.component_ids ▸ new
  | connected admitted =>
    obtain ⟨_,apart,unjoined,p,c,source,target,output,input⟩ := checkConnect_iff.mp admitted
    obtain ⟨_,new⟩ := spares.next (Nat.lt_succ_self _)
    obtain ⟨producer,starts⟩ := keyed.found source
    obtain ⟨consumer,ends⟩ := keyed.found target
    refine wf.connected ?_ apart ⟨p,producer,starts,output⟩ ⟨c,consumer,ends,input⟩
      (wireBetween_none.mp unjoined)
    exact keyed.wire_ids ▸ new
  | cut => exact wf.cut _
  | removed _ free => exact wf.removed (attached_nil.mp free)

theorem Happens.wellFormed (happens : Happens g out after) (keyed : g.Keyed)
    (spares : g.Spares g.drawn after.drawn) (wf : g.topology.WellFormed) :
    after.topology.WellFormed := by
  cases happens with
  | moved move => exact move.wellFormed keyed spares wf
  | committed => rw [commit_topology]; exact wf.committed
  | noted | barred | drained => exact wf

theorem Passes.wellFormed (passes : Passes g out after) (spares : g.Spares g.drawn after.drawn)
    (wf : g.WellFormed) : after.WellFormed where
  keyed := passes.keyed wf.keyed
  topology := passes.keeps (P := fun _ h => h.topology.WellFormed) wf.keyed spares []
    (fun happens keyed spares kept => happens.wellFormed keyed spares kept) wf.topology

theorem restore_topology {t : Topology} (wf : t.WellFormed) (driverFactories : List String)
    (drawn : Nat) (supply : List String) :
    (restore t driverFactories drawn supply).topology = t :=
  restore_consistent wf.consistent driverFactories drawn supply

theorem restore_wellFormed {t : Topology} (wf : t.WellFormed) (driverFactories : List String)
    (drawn : Nat) (supply : List String) : (restore t driverFactories drawn supply).WellFormed :=
  ⟨restore_keyed _ _ _ _,(restore_topology wf driverFactories drawn supply).symm ▸ wf⟩

theorem WellFormed.wiresEnd (wf : g.WellFormed) : g.WiresEnd := by
  intro w stored
  rw [wf.keyed.contains_iff,wf.keyed.contains_iff]
  exact wf.topology.consistent.ends w stored

theorem WellFormed.checks (wf : g.WellFormed) : ∀ f ∈ g.staticChecks, f.passes = true := by
  have ports : g.checkPorts.passes = true := by
    refine checkPorts_passes.mpr fun w stored p c source target => ?_
    obtain ⟨p',producer,starts,output⟩ := wf.topology.output w stored
    obtain ⟨c',consumer,ends,input⟩ := wf.topology.input w stored
    rw [← starts,recordWithId_eq wf.topology.components producer] at source
    rw [← ends,recordWithId_eq wf.topology.components consumer] at target
    cases source
    cases target
    exact ⟨output,input⟩
  have ends : g.checkEnds.passes = true := by
    refine checkEnds_passes.mpr fun w stored => ?_
    obtain ⟨producer,consumer⟩ := wf.wiresEnd w stored
    exact ⟨wf.keyed.contains_iff.mp producer,wf.keyed.contains_iff.mp consumer⟩
  simp only [staticChecks,List.forall_mem_cons]
  exact ⟨checkNames_passes.mpr wf.topology.names,ends,ports,
    checkPairs_passes.mpr ⟨wf.topology.apart,wf.topology.pairs⟩,fun _ none => by cases none⟩

-- A report on a well-formed graph can only complain of wires that lead round.
theorem WellFormed.report (wf : g.WellFormed) : ∃ r, g.report = .ok r ∧
    (r.ok = true ↔ ∀ id, ¬TransGen g.topology.Joins id id) := by
  obtain ⟨cyclic,answered⟩ := answers wf.wiresEnd
  obtain ⟨r,reported,good⟩ := report_ok answered
  refine ⟨r,reported,good.trans ?_⟩
  rw [and_iff_right wf.checks,← Bool.not_eq_true,answer_exact answered,not_exists,topology_joins]

end Graph

namespace Session

theorem wellFormed_kept :
    (∀ driverFactories supply, Graph.WellFormed { driverFactories,supply }) ∧
      (∀ (t : Topology) (driverFactories : List String) (drawn : Nat) (supply : List String),
        t.WellFormed → (Graph.restore t driverFactories drawn supply).WellFormed ∧
          (Graph.restore t driverFactories drawn supply).topology = t) ∧
      (∀ (snapshot : Snapshot) (settings : Settings) (supply : List String) (s : Session),
        snapshot.graph.WellFormed → Session.start snapshot settings supply = .ok s →
        (Graph.restore snapshot.graph settings.driverFactories 0 supply).Spares 0 s.graph.drawn →
        s.graph.WellFormed) ∧
      ∀ (s : Session) (actions : List Action) (stops : Bool), s.graph.WellFormed →
        everyIn Step.lawful actions = true →
        ∀ x ∈ s :: (nodesAlong (s.runAll stops actions).traces).map (·.after),
          s.graph.Spares s.graph.drawn x.graph.drawn →
          x.graph.WellFormed ∧ ∃ r, x.graph.report = .ok r ∧
            (r.ok = true ↔ ∀ id, ¬TransGen x.graph.topology.Joins id id) := by
  refine ⟨fun _ _ => ?_,fun t driverFactories drawn supply wf => ?_,
    fun snapshot settings supply s wf started spares => ?_,
    fun s actions stops wf lawful x member spares => ?_⟩
  · exact ⟨⟨fun _ none => (nomatch none),fun _ none => (nomatch none)⟩,Topology.empty_wellFormed⟩
  · exact ⟨Graph.restore_wellFormed wf _ _ _,Graph.restore_topology wf _ _ _⟩
  · obtain ⟨out,passes⟩ := start_passes started
    exact passes.wellFormed spares (Graph.restore_wellFormed wf _ _ _)
  · have follows : Follows s false (s.runAll stops actions).traces (s.runAll stops actions).after :=
      runAll_follows wf.keyed actions stops lawful fun no => nomatch no
    obtain ⟨out,passes⟩ := follows.visits member
    have kept := passes.wellFormed spares wf
    exact ⟨kept,kept.report⟩

-- Two components that feed each other are well-formed all the same.
def relay : List Action :=
  [.step (.edit (.place { name := "F", factory := "filter", role := .both })),
    .step (.edit (.connect "b" "id-2")),.save true [] false .accept,
    .step (.edit (.connect "id-2" "b")),.step (.edit (.connect "id-2" "b")),.step .commit,
    .save true [] false .accept]

theorem relay_wellFormed :
    let g := (shift.runAll false relay).after.graph
    handover.graph.WellFormed ∧ Session.start handover {} = .ok shift ∧
      (Graph.restore handover.graph [assetFactory] 0).Spares 0 shift.graph.drawn ∧
      everyIn Step.lawful relay = true ∧ shift.graph.Spares shift.graph.drawn g.drawn ∧
      g.WellFormed ∧ (∃ r, g.report = .ok r ∧ r.ok = false) ∧
      ∃ id, TransGen g.topology.Joins id id := by
  have stored : handover.graph.WellFormed := by decide
  have started : Session.start handover {} = .ok shift := by decide +kernel
  have unused : (Graph.restore handover.graph [assetFactory] 0).Spares 0 shift.graph.drawn := by
    decide +kernel
  have lawful : everyIn Step.lawful relay = true := by decide
  have spares : shift.graph.Spares shift.graph.drawn
      (shift.runAll false relay).after.graph.drawn := by decide +kernel
  obtain ⟨_,_,opens,kept⟩ := wellFormed_kept
  obtain ⟨wf,r,reported,good⟩ := kept shift relay false (opens handover {} [] shift stored started unused)
    lawful (shift.runAll false relay).after (by decide +kernel) spares
  have bad : (shift.runAll false relay).after.graph.report.map (·.ok) = .ok false := by
    decide +kernel
  rw [reported] at bad
  have bad : r.ok = false := Except.ok.inj bad
  have round : ¬∀ id, ¬TransGen (shift.runAll false relay).after.graph.topology.Joins id id := by
    rw [← good,bad]
    exact Bool.noConfusion
  exact ⟨stored,started,unused,lawful,spares,wf,⟨r,reported,bad⟩,not_forall_not.mp round⟩

end Session

end WireGraph
