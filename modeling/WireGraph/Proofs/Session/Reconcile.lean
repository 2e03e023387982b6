import WireGraph.Proofs.Graph.Restore
import WireGraph.Proofs.Session.Admission
import WireGraph.Proofs.Session.Course
import WireGraph.Proofs.Session.Difference

/-!
# Reconciling with a registry

A snapshot lists what is registered, and each record that the stored graph does not cover gets a
component of its own. Main statement: whatever the records are called, as long as they have real
pids, a session opens on the restored graph with these components after the others, in the order of
their records; they share neither pid nor name with any component, and in the end every record is
covered, so that there is nothing to be done when the result is stored and opened again.
-/

namespace WireGraph

-- The component shows what is registered, under a name of its own or under the pid.
structure Registration.Makes (r : Registration) (c : Component) : Prop where
  pid : c.pid = r.pid
  factory : c.factory = r.factory
  role : c.role = r.role
  driver : c.driver = r.driver
  name : c.name = if r.name = "" then r.pid else r.name

namespace Graph
variable {g grown : Graph} {r : Registration} {records taken : List Registration}

-- The record needs no component, or cannot have one: a component is registered under its pid, or
-- has its label for a name, or there is no label.
def Covers (g : Graph) (r : Registration) : Prop :=
  (∃ c ∈ g.components.values, c.pid = r.pid) ∨ r.label = "" ∨
    ∃ c ∈ g.components.values, c.name = r.label

instance (g : Graph) (r : Registration) : Decidable (g.Covers r) := instDecidableOr

theorem Covers.mono (covers : g.Covers r)
    (more : g.components.values ⊆ grown.components.values) : grown.Covers r := by
  rcases covers with ⟨c,stored,same⟩ | unlabelled | ⟨c,stored,same⟩
  · exact .inl ⟨c,more stored,same⟩
  · exact .inr (.inl unlabelled)
  · exact .inr (.inr ⟨c,more stored,same⟩)

theorem reconcile_covered (covers : g.Covers r) (real : r.pid ≠ unregisteredPid)
    (free : g.locked = false) : g.reconcile r = .ok g := by
  unfold reconcile
  cases known : g.registeredAs? r.pid with
  | some c => rfl
  | none =>
    have unknown := registered_none.mp known
    have named : r.label ≠ "" → ∃ c ∈ g.components.values, c.name = r.label := by
      intro labelled
      rcases covers with ⟨c,stored,same⟩ | unlabelled | taken
      · exact absurd same (unknown c stored (same ▸ real))
      · exact absurd unlabelled labelled
      · exact taken
    have refused : ∃ f, g.checkPlace r.request = .error f ∧ f.isName = true := by
      unfold checkPlace
      by_cases unlabelled : r.label = ""
      · exact ⟨.emptyName,by simp [free,Registration.request,unlabelled],rfl⟩
      · have taken : (g.named? r.label).isSome = true := by
          simpa [named?] using named unlabelled
        exact ⟨.duplicateName r.label,by simp [free,Registration.request,unlabelled,taken],rfl⟩
    obtain ⟨f,refused,skipped⟩ := refused
    simp [place,refused,skipped]

theorem reconcile_placed (lacks : ¬g.Covers r) (real : r.pid ≠ unregisteredPid)
    (free : g.locked = false) :
    g.reconcile r = .ok (g.placed r.request) ∧ Moves g (.placed r.request) (g.placed r.request) := by
  obtain ⟨unheld,labelled,unnamed⟩ := by simpa [Covers] using lacks
  have unknown : g.registeredAs? r.pid = none :=
    registered_none.mpr fun c stored _ => unheld c stored
  have admitted : g.checkPlace r.request = .ok () :=
    checkPlace_admits.mpr ⟨free,labelled,unnamed,fun none => absurd none real⟩
  exact ⟨by simp [reconcile,unknown,place,admitted],.placed admitted⟩

-- How a graph takes in records one after another; `taken` are those that it lacked.
inductive Reconciles : Graph → List Registration → Graph → List Registration → Prop where
  | nil {g : Graph} : Reconciles g [] g []
  | covered {g grown : Graph} {r : Registration} {records taken : List Registration}
      (covers : g.Covers r) (onward : Reconciles g records grown taken) :
      Reconciles g (r :: records) grown taken
  | placed {g grown : Graph} {r : Registration} {records taken : List Registration}
      (lacks : ¬g.Covers r) (move : Moves g (.placed r.request) (g.placed r.request))
      (onward : Reconciles (g.placed r.request) records grown taken) :
      Reconciles g (r :: records) grown (r :: taken)

theorem reconcileAll (real : ∀ r ∈ records, r.pid ≠ unregisteredPid) (free : g.locked = false) :
    ∃ grown taken, records.foldlM Graph.reconcile g = .ok grown ∧
      Reconciles g records grown taken := by
  induction records generalizing g with
  | nil => exact ⟨g,[],rfl,.nil⟩
  | cons r rest ih =>
    have here : r.pid ≠ unregisteredPid := real r List.mem_cons_self
    have others : ∀ r ∈ rest, r.pid ≠ unregisteredPid :=
      fun r member => real r (List.mem_cons_of_mem _ member)
    rw [List.foldlM_cons]
    by_cases covers : g.Covers r
    · rw [reconcile_covered covers here free]
      obtain ⟨grown,taken,done,onward⟩ := ih others free
      exact ⟨grown,taken,done,.covered covers onward⟩
    · obtain ⟨made,move⟩ := reconcile_placed covers here free
      rw [made]
      obtain ⟨grown,taken,done,onward⟩ := ih (g := g.placed r.request) others free
      exact ⟨grown,r :: taken,done,.placed covers move onward⟩

-- Where every record is covered there is nothing to be done.
theorem reconcileAll_covered (covered : ∀ r ∈ records, g.Covers r)
    (real : ∀ r ∈ records, r.pid ≠ unregisteredPid) (free : g.locked = false) :
    records.foldlM Graph.reconcile g = .ok g := by
  induction records with
  | nil => rfl
  | cons r rest ih =>
    rw [List.foldlM_cons,reconcile_covered (covered r List.mem_cons_self)
      (real r List.mem_cons_self) free]
    exact ih (fun r member => covered r (List.mem_cons_of_mem _ member))
      fun r member => real r (List.mem_cons_of_mem _ member)

theorem Reconciles.sublist (reconciles : Reconciles g records grown taken) :
    taken.Sublist records := by
  induction reconciles with
  | nil => exact .slnil
  | covered _ _ ih => exact ih.cons _
  | placed _ _ _ ih => exact ih.cons_cons _

theorem Reconciles.wires (reconciles : Reconciles g records grown taken) :
    grown.wires = g.wires := by
  induction reconciles with
  | nil => rfl
  | covered _ _ ih => exact ih
  | placed _ _ _ ih => exact ih

theorem Reconciles.drawn_le (reconciles : Reconciles g records grown taken) :
    g.drawn ≤ grown.drawn := by
  induction reconciles with
  | nil => exact Nat.le_refl _
  | covered _ _ ih => exact ih
  | placed _ _ _ ih => exact Nat.le_trans (Nat.le_succ _) ih

theorem placed_values {spec : NewComponent} (new : g.nextId ∉ g.components.keys) :
    (g.placed spec).components.values = g.components.values ++ [spec.withId g.nextId] :=
  Table.values_insert_new new

-- What the graph has in the end: the components it had, and one after them for each record that was
-- taken in, with a pid and a name that no other component has.
theorem Reconciles.grows (reconciles : Reconciles g records grown taken)
    (spares : g.Spares g.drawn grown.drawn) :
    ∃ made, grown.components.values = g.components.values ++ made ∧
      List.Forall₂ Registration.Makes taken made ∧
      (∀ c ∈ made, ∀ d ∈ grown.components.values, d ≠ c → d.pid ≠ c.pid ∧ d.name ≠ c.name) ∧
      ∀ r ∈ records, grown.Covers r := by
  induction reconciles with
  | nil =>
    exact ⟨[],(List.append_nil _).symm,.nil,fun _ none => (nomatch none),fun _ none => (nomatch none)⟩
  | @covered g grown r records taken covers onward ih =>
    obtain ⟨made,values,makes,alone,covered⟩ := ih spares
    refine ⟨made,values,makes,alone,List.forall_mem_cons.mpr ⟨covers.mono ?_,covered⟩⟩
    exact values ▸ List.subset_append_left _ _
  | @placed g grown r records taken lacks move onward ih =>
    obtain ⟨new,_⟩ := spares.next (Nat.lt_of_succ_le onward.drawn_le)
    obtain ⟨made,values,makes,alone,covered⟩ :=
      ih ((move.spares spares).narrow (Nat.le_refl _) (Nat.le_refl _))
    rw [placed_values new,List.append_assoc,List.singleton_append] at values
    obtain ⟨unheld,_,unnamed⟩ := by simpa [Covers] using lacks
    have first : r.request.withId g.nextId ∈ grown.components.values := by
      rw [values]
      exact List.mem_append_right _ List.mem_cons_self
    refine ⟨_,values,.cons ⟨rfl,rfl,rfl,rfl,rfl⟩ makes,List.forall_mem_cons.mpr ⟨?_,alone⟩,
      List.forall_mem_cons.mpr ⟨.inl ⟨_,first,rfl⟩,covered⟩⟩
    -- The new component is apart from the older ones since the graph lacked its record, and from
    -- those that come after it since they are apart from it.
    intro d stored other
    rw [values] at stored
    rcases List.mem_append.mp stored with old | later
    · exact ⟨unheld d old,unnamed d old⟩
    · rcases List.mem_cons.mp later with rfl | later
      · exact absurd rfl other
      · obtain ⟨pid,name⟩ := alone d later _ first (Ne.symm other)
        exact ⟨pid.symm,name.symm⟩

end Graph

namespace Session
variable {s : Session} {snapshot : Snapshot} {settings : Settings} {supply : List String}

theorem start_grown {grown : Graph}
    (done : snapshot.components.foldlM Graph.reconcile
      (Graph.restore snapshot.graph settings.driverFactories 0 supply) = .ok grown) :
    Session.start snapshot settings supply = .ok { graph := grown.drain.2, snapshot } := by
  unfold Session.start
  simp only [done]
  rfl

-- With the result in place of the stored graph, the session opens as it was.
theorem start_again (real : ∀ r ∈ snapshot.components, r.pid ≠ unregisteredPid)
    (keyed : s.graph.Keyed) (ends : s.graph.WiresEnd)
    (covered : ∀ r ∈ snapshot.components, s.graph.Covers r) (settings : Settings)
    (supply : List String) :
    ∃ again, Session.start { snapshot with graph := s.graph.topology } settings supply = .ok again ∧
      again.graph.components = s.graph.components ∧ again.graph.wires = s.graph.wires := by
  obtain ⟨components,wires⟩ := Graph.restore_exact keyed ends settings.driverFactories 0 supply
  have still : ∀ r ∈ snapshot.components,
      (Graph.restore s.graph.topology settings.driverFactories 0 supply).Covers r :=
    fun r member => (covered r member).mono (components ▸ List.Subset.refl _)
  exact ⟨_,start_grown (Graph.reconcileAll_covered still real rfl),components,wires⟩

theorem reconciled_exactly (real : ∀ r ∈ snapshot.components, r.pid ≠ unregisteredPid)
    (settings : Settings) (supply : List String) :
    let stored := Graph.restore snapshot.graph settings.driverFactories 0 supply
    ∃ s, Session.start snapshot settings supply = .ok s ∧ s.dirty = false ∧ s.graph.events = [] ∧
      s.graph.pending = {} ∧ s.graph.wires = stored.wires ∧
      Merges (·.id) (snapshot.graph.wires.filter snapshot.graph.joined) s.graph.wires.values ∧
      Merges (·.id) snapshot.graph.components stored.components.values ∧
      (stored.Spares 0 s.graph.drawn → ∃ taken made,
        s.graph.components.values = stored.components.values ++ made ∧
        taken.Sublist snapshot.components ∧ List.Forall₂ Registration.Makes taken made ∧
        (∀ c ∈ made, ∀ d ∈ s.graph.components.values, d ≠ c → d.pid ≠ c.pid ∧ d.name ≠ c.name) ∧
        (∀ r ∈ snapshot.components, s.graph.Covers r) ∧
        ∀ settings supply, ∃ again,
          Session.start { snapshot with graph := s.graph.topology } settings supply = .ok again ∧
          again.graph.components = s.graph.components ∧ again.graph.wires = s.graph.wires) := by
  intro stored
  obtain ⟨grown,taken,done,reconciles⟩ := Graph.reconcileAll (g := stored) real rfl
  have started := start_grown done
  obtain ⟨keyed,pending⟩ := start_clean started real
  refine ⟨_,started,rfl,rfl,pending,reconciles.wires,?_,Graph.restore_components _ _ _ _,
    fun spares => ?_⟩
  · change Merges _ _ grown.wires.values
    rw [reconciles.wires]
    exact Graph.restore_wires _ _ _ _
  · obtain ⟨made,values,makes,alone,covered⟩ := reconciles.grows spares
    exact ⟨taken,made,values,reconciles.sublist,makes,alone,covered,
      start_again real keyed (start_wiresEnd started) covered⟩

-- Records of a pid that the graph has, of names that are taken before or on the way, of no name at
-- all, and two that the graph lacks.
def roster : Snapshot where
  graph :=
    { components :=
        [{ id := "a", pid := "p", factory := "timer", name := "A", role := .producer },
          { id := "b", factory := "filter", name := "q", role := .both }]
      wires := [⟨"v","a","z",false⟩,⟨"w","a","b",false⟩] }
  components :=
    [{ pid := "p", factory := "timer", name := "P", role := .producer },
      { pid := "q", factory := "logger", role := .consumer },
      { pid := "s", factory := "logger", name := "S", role := .consumer },
      { pid := "s", factory := "logger", name := "T", role := .consumer },
      { pid := "t", factory := "logger", name := "S", role := .consumer },
      { pid := "", factory := "logger", role := .consumer },
      { pid := "u", factory := assetFactory, role := .both }]

theorem roster_reconciled : ∃ s, Session.start roster {} = .ok s ∧
    s.graph.topology.components.map (fun c => (c.id,c.pid,c.name)) =
      [("a","p","A"),("b","none","q"),("id-1","s","S"),("id-2","u","u")] ∧
    s.graph.topology.wires = [⟨"w","a","b",false⟩] ∧
    (∀ r ∈ roster.components, s.graph.Covers r) ∧
    ∃ again, Session.start { roster with graph := s.graph.topology } {} = .ok again ∧
      again.graph.components = s.graph.components ∧ again.graph.wires = s.graph.wires := by
  obtain ⟨s,started,_,_,_,_,_,_,whole⟩ := @reconciled_exactly roster (by decide) {} []
  have opened : s = (Session.start roster {}).toOption.getD {} := by rw [started]; rfl
  obtain ⟨_,_,_,_,_,_,covered,again⟩ := whole (by rw [opened]; decide +kernel)
  refine ⟨s,started,?_,?_,covered,again {} []⟩
  · rw [opened]
    decide +kernel
  · rw [opened]
    decide +kernel

end Session

end WireGraph
