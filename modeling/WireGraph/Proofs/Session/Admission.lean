import WireGraph.Proofs.Session.Pids
import WireGraph.Proofs.Session.WellFormed

/-!
# What is admitted

The checks of an edit, said of the records that the graph holds and not in the order in which they
are made. Main statement: an edit takes effect exactly when the graph admits it, and an open session
makes the same edits as its graph; whatever else is asked of them leaves the graph and the session as
they were, down to the next id.
-/

namespace WireGraph

-- An edit of the graph, or of the session over it.
def Step.edits : Step → Bool
  | .edit _ | .editSession _ | .create _ => true
  | _ => false

namespace Graph
variable {g : Graph}

-- What each edit asks of the graph.
def Admits (g : Graph) : Edit → Prop
  | .place spec => g.locked = false ∧ spec.name ≠ "" ∧
      (∀ c ∈ g.components.values, c.name ≠ spec.name) ∧
      (spec.pid = unregisteredPid →
        (∀ c ∈ g.components.values, c.pid ≠ unregisteredPid → c.pid ≠ spec.name) ∧
        (spec.factory ∈ g.driverFactories → ∃ driver ∈ spec.driver, driver ≠ ""))
  | .connect producer consumer => g.locked = false ∧ producer ≠ consumer ∧
      (∃ p ∈ g.components.values, p.id = producer ∧ p.role.hasOutput = true) ∧
      (∃ c ∈ g.components.values, c.id = consumer ∧ c.role.hasInput = true) ∧
      ∀ w ∈ g.wires.values, ¬(w.producer = producer ∧ w.consumer = consumer)
  | .remove id => g.locked = false ∧ ∃ c ∈ g.components.values, c.id = id
  | .disconnect id => g.locked = false ∧ ∃ w ∈ g.wires.values, w.id = id
  | .clear => g.locked = false

instance (g : Graph) : (e : Edit) → Decidable (g.Admits e)
  | .place _ | .connect _ _ | .remove _ | .disconnect _ => instDecidableAnd
  | .clear => instDecidableEqBool _ _

theorem registered_none {pid : String} : g.registeredAs? pid = none ↔
    ∀ c ∈ g.components.values, c.pid ≠ unregisteredPid → c.pid ≠ pid := by
  rw [registeredAs_none]
  constructor
  · rintro (rfl | free) c stored real
    · exact real
    · obtain ⟨e,entry,rfl⟩ := List.mem_map.mp stored
      exact free e entry
  · intro free
    by_cases none : pid = unregisteredPid
    · exact .inl none
    · refine .inr fun e entry same => ?_
      exact free e.2 (List.mem_map.mpr ⟨e,entry,rfl⟩) (same ▸ none) same

theorem driver_given {driver : Option String} : driver.getD "" ≠ "" ↔ ∃ d ∈ driver, d ≠ "" := by
  cases driver <;> simp

theorem checkPlace_admits {spec : NewComponent} :
    g.checkPlace spec = .ok () ↔ g.Admits (.place spec) := by
  rw [checkPlace_iff,unnamed_iff,registered_none,driver_given]
  simp [Admits,topology]

-- A component is found under an id exactly when one has this id.
theorem Keyed.component_found (keyed : g.Keyed) {id : String} {p : Component → Prop} :
    (∃ c, g.component? id = some c ∧ p c) ↔ ∃ c ∈ g.components.values, c.id = id ∧ p c := by
  constructor
  · rintro ⟨c,found,holds⟩
    obtain ⟨stored,same⟩ := keyed.found found
    exact ⟨c,stored,same,holds⟩
  · rintro ⟨c,stored,rfl,holds⟩
    exact ⟨c,Table.get?_iff.mpr (keyed.component stored),holds⟩

theorem checkConnect_admits (keyed : g.Keyed) {producer consumer : String} :
    g.checkConnect producer consumer = .ok () ↔ g.Admits (.connect producer consumer) := by
  rw [checkConnect_iff,wireBetween_none,Admits,← keyed.component_found,← keyed.component_found]
  simp only [Joins]
  constructor
  · rintro ⟨free,apart,unjoined,p,c,source,target,output,input⟩
    exact ⟨free,apart,⟨p,source,output⟩,⟨c,target,input⟩,fun w stored ends => unjoined ⟨w,stored,ends⟩⟩
  · rintro ⟨free,apart,⟨p,source,output⟩,⟨c,target,input⟩,unjoined⟩
    refine ⟨free,apart,?_,p,c,source,target,output,input⟩
    rintro ⟨w,stored,ends⟩
    exact unjoined w stored ends

-- An answer that is put in other words is an answer all the same.
theorem map_made {α β ε : Type} {f : α → β} {outcome : Except ε α} :
    (∃ b, outcome.map f = .ok b) ↔ ∃ a, outcome = .ok a := by
  cases outcome <;> simp [Except.map]

theorem remove_made (keyed : g.Keyed) {id : String} :
    (∃ a, (g.remove id).1 = .ok a) ↔ g.Admits (.remove id) := by
  constructor
  · rintro ⟨a,made⟩
    unfold remove at made
    split at made
    · cases made
    rename_i free
    split at made
    · cases made
    rename_i c found
    obtain ⟨stored,same⟩ := keyed.found found
    exact ⟨by simpa using free,c,stored,same⟩
  · rintro ⟨free,c,stored,rfl⟩
    exact ⟨(),by rw [(remove_runs keyed free stored).1]⟩

theorem disconnect_made (keyed : g.Keyed) {id : String} :
    (∃ a, (g.disconnect id).1 = .ok a) ↔ g.Admits (.disconnect id) := by
  constructor
  · rintro ⟨a,made⟩
    unfold disconnect at made
    split at made
    · cases made
    rename_i free
    split at made
    · cases made
    rename_i w found
    obtain ⟨stored,same⟩ := keyed.foundWire found
    exact ⟨by simpa using free,w,stored,same⟩
  · rintro ⟨free,w,stored,rfl⟩
    exact ⟨(),by rw [(disconnect_runs keyed free stored).1]⟩

theorem clear_made (keyed : g.Keyed) : (∃ a, g.clear.1 = .ok a) ↔ g.Admits .clear := by
  constructor
  · rintro ⟨a,made⟩
    unfold clear at made
    split at made
    · cases made
    · rename_i free
      exact Bool.eq_false_iff.mpr free
  · intro free
    exact ⟨(),by rw [(clear_runs keyed free).1]⟩

-- An edit is made exactly when the graph admits it.
theorem apply_made (keyed : g.Keyed) (e : Edit) :
    (∃ added, (g.apply e).1 = .ok added) ↔ g.Admits e := by
  cases e with
  | place spec => exact map_made.trans (place_made.trans checkPlace_admits)
  | connect producer consumer =>
    exact map_made.trans (connect_made.trans (checkConnect_admits keyed))
  | remove id => exact map_made.trans (remove_made keyed)
  | disconnect id => exact map_made.trans (disconnect_made keyed)
  | clear => exact map_made.trans (clear_made keyed)

theorem apply_refused (keyed : g.Keyed) {e : Edit} {f : Fault} (refused : (g.apply e).1 = .error f) :
    (g.apply e).2 = g := by
  rcases apply_cases keyed e with ⟨_,kept⟩ | ⟨added,after,made,_⟩
  · rw [kept]
  · rw [made] at refused
    cases refused

end Graph

namespace Session
variable {s : Session}

theorem edit_made (keyed : s.graph.Keyed) (e : Edit) :
    (∃ added, (s.edit e).1 = .ok added) ↔ s.closed = false ∧ s.graph.Admits e := by
  rw [← Graph.apply_made keyed e,← checkOpen_iff]
  unfold edit
  cases s.checkOpen with
  | error f => simp
  | ok opened =>
    cases made : s.graph.apply e with
    | mk outcome after => cases outcome <;> simp

theorem edit_refused (keyed : s.graph.Keyed) {e : Edit} {f : Fault}
    (refused : (s.step (.editSession e)).1 = .error f) : (s.step (.editSession e)).2 = s := by
  simp only [step] at refused ⊢
  rcases edit_cases keyed e with ⟨_,kept⟩ | ⟨added,graph,made,_⟩
  · rw [kept]
  · rw [made] at refused
    cases refused

-- Whichever way an edit is asked for, if it is refused then nothing has happened.
theorem step_refused (keyed : s.graph.Keyed) {x : Step} (edits : x.edits = true) {f : Fault}
    (refused : (s.step x).1 = .error f) : (s.step x).2 = s := by
  cases x with
  | edit e =>
    have same : (s.graph.apply e).2 = s.graph := by
      cases outcome : (s.graph.apply e).1 with
      | error reason => exact Graph.apply_refused keyed outcome
      | ok added =>
        simp only [step,withEdited,outcome] at refused
        cases refused
    rw [step,withEdited,same]
  | editSession e => exact edit_refused keyed refused
  | create order =>
    rcases s.create_cases order with ⟨_,kept⟩ | ⟨e,_,same⟩
    · rw [kept]
    · rw [same] at refused ⊢
      exact edit_refused keyed refused
  | _ => cases edits

theorem admits_exactly (keyed : s.graph.Keyed) :
    (∀ e, ((∃ added, (s.graph.apply e).1 = .ok added) ↔ s.graph.Admits e) ∧
      ∀ f, (s.graph.apply e).1 = .error f → (s.graph.apply e).2 = s.graph) ∧
    (∀ e, (∃ added, (s.edit e).1 = .ok added) ↔ s.closed = false ∧ s.graph.Admits e) ∧
    ∀ x : Step, x.edits = true → ∀ f, (s.step x).1 = .error f → (s.step x).2 = s :=
  ⟨fun e => ⟨Graph.apply_made keyed e,fun _ refused => Graph.apply_refused keyed refused⟩,
    edit_made keyed,fun _ edits _ refused => step_refused keyed edits refused⟩

-- A pid that is taken cannot be a name, a driver that is asked for cannot be left out, and a closed
-- session takes nothing at all.
theorem shift_admits :
    let g := shift.graph
    (∃ added, (g.apply (.place { name := "D", factory := "filter", role := .both })).1 = .ok added) ∧
      (¬∃ added, (g.apply (.place { name := "q", factory := "filter", role := .both })).1 =
        .ok added) ∧
      (¬∃ added, (shift.close.edit .clear).1 = .ok added) ∧
      (shift.step (.create (.ok { factory := assetFactory, name := "D" }))).2 = shift := by
  have started : Session.start handover {} = .ok shift := by decide +kernel
  have keyed : shift.graph.Keyed := (start_quiet started).1
  obtain ⟨made,_,refused⟩ := admits_exactly keyed
  obtain ⟨_,closed,_⟩ := admits_exactly (s := shift.close) ⟨keyed.components,keyed.wires⟩
  exact ⟨(made _).1.mpr (by decide +kernel),mt (made _).1.mp (by decide +kernel),
    fun cleared => Bool.noConfusion ((closed _).mp cleared).1,
    refused _ rfl (.missingDriver assetFactory) (by decide +kernel)⟩

end Session

end WireGraph
