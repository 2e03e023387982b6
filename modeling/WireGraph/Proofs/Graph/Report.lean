import Mathlib.Data.List.Nodup
import WireGraph.Report

/-!
# What a report says

Each check of a report passes exactly when what it looks for is not in the graph. Main statement: a
report is good exactly when the four checks of the records pass and the wires do not lead round.
-/

namespace WireGraph

theorem Finding.passes_iff {f : Finding} : f.passes = true ↔ f.complaints = [] := List.isEmpty_iff

namespace Graph
variable {g : Graph} {id : String}

theorem checkNames_passes :
    g.checkNames.passes = true ↔ (g.components.values.map (·.name)).Nodup := by
  rw [Finding.passes_iff,checkNames]
  split
  · rename_i distinct
    exact ⟨fun _ => distinct,fun _ => rfl⟩
  · rename_i repeated
    exact ⟨fun none => (nomatch none),fun distinct => absurd distinct repeated⟩

theorem hasRecord_iff : g.hasRecord id = true ↔ id ∈ g.components.values.map (·.id) := by
  simp [hasRecord,recordWithId?]

theorem checkEnds_passes : g.checkEnds.passes = true ↔ ∀ w ∈ g.wires.values,
    w.producer ∈ g.components.values.map (·.id) ∧ w.consumer ∈ g.components.values.map (·.id) := by
  rw [Finding.passes_iff,checkEnds,List.map_eq_nil_iff,List.filter_eq_nil_iff]
  refine forall₂_congr fun w _ => ?_
  rw [Bool.not_eq_true,Bool.not_eq_false',Bool.and_eq_true,hasRecord_iff,hasRecord_iff]

-- Where ids are distinct, an id leads to the component that has it.
theorem recordWithId_eq (distinct : (g.components.values.map (·.id)).Nodup) {c : Component}
    (stored : c ∈ g.components.values) : g.recordWithId? c.id = some c := by
  obtain ⟨d,found⟩ := Option.isSome_iff_exists.mp
    (hasRecord_iff.mpr (List.mem_map.mpr ⟨c,stored,rfl⟩))
  obtain ⟨listed,same⟩ := List.mem_filter.mp (List.mem_of_getLast? found)
  rw [found,List.inj_on_of_nodup_map distinct listed stored (by simpa using same)]

theorem checkPorts_passes : g.checkPorts.passes = true ↔ ∀ w ∈ g.wires.values, ∀ p c,
    g.recordWithId? w.producer = some p → g.recordWithId? w.consumer = some c →
      p.role.hasOutput = true ∧ c.role.hasInput = true := by
  rw [Finding.passes_iff,checkPorts,List.flatMap_eq_nil_iff]
  refine forall₂_congr fun w _ => ?_
  unfold portComplaints
  split
  · rename_i p c source target
    cases output : p.role.hasOutput <;> cases input : c.role.hasInput <;> simp_all
  · rename_i open_
    exact ⟨fun _ p c source target => absurd target (open_ p c source),fun _ => rfl⟩

theorem pairComplaints_nil {seen : List Edge} {ws : List Wire} : g.pairComplaints seen ws = [] ↔
    (∀ w ∈ ws, w.producer ≠ w.consumer) ∧ (∀ w ∈ ws, (w.producer,w.consumer) ∉ seen) ∧
      (ws.map fun w => (w.producer,w.consumer)).Nodup := by
  induction ws generalizing seen with
  | nil => simp [pairComplaints]
  | cons w rest ih =>
    rw [pairComplaints,List.append_eq_nil_iff,ih]
    by_cases loops : w.producer = w.consumer
    · simp [loops]
    · by_cases known : (w.producer,w.consumer) ∈ seen
      · simp [loops,known]
      · simp only [loops,known,List.contains_iff_mem,if_false,List.map_cons,List.nodup_cons,
          List.mem_cons,not_or,List.mem_map]
        grind

theorem checkPairs_passes : g.checkPairs.passes = true ↔
    (∀ w ∈ g.wires.values, w.producer ≠ w.consumer) ∧
      (g.wires.values.map fun w => (w.producer,w.consumer)).Nodup := by
  rw [Finding.passes_iff,checkPairs,pairComplaints_nil]
  simp

theorem checkAcyclic_passes {cyclic : Bool} :
    (g.checkAcyclic cyclic).passes = true ↔ cyclic = false := by
  rw [Finding.passes_iff,checkAcyclic]
  cases cyclic <;> simp

theorem report_ok {cyclic : Bool} (answered : g.hasCycle = .ok cyclic) :
    ∃ r, g.report = .ok r ∧
      (r.ok = true ↔ (∀ f ∈ g.staticChecks, f.passes = true) ∧ cyclic = false) := by
  refine ⟨_,by rw [report,answered],?_⟩
  simp only [List.all_append,Bool.and_eq_true,List.all_eq_true]
  rw [List.forall_mem_singleton,checkAcyclic_passes]

end Graph

end WireGraph
