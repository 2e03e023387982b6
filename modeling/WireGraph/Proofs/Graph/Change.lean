import WireGraph.Proofs.Graph.Cascade

/-!
# Changes

What an edit does to a graph, one component or wire at a time. Main statements: an edit that is
refused leaves the graph as it is, and one that is admitted runs through its changes; each of them
keeps every record under its own id. A property that every change keeps is kept by every edit.
-/

namespace WireGraph

-- One component or wire more, or one less.
inductive Change where
  | placed (spec : NewComponent)
  | connected (producer consumer : String)
  | cut (w : Wire)
  | removed (c : Component)

namespace Table

-- With one of several records taken out, the others are still stored under their names.
theorem erase_others {α : Type} {t : Table α} {name : α → String} {a : α} {rest : List α}
    (stored : ∀ b ∈ a :: rest, (name b,b) ∈ t.entries) (apart : ((a :: rest).map name).Nodup) :
    ∀ b ∈ rest, (name b,b) ∈ (t.erase (name a)).entries := by
  intro b member
  rw [List.map_cons,List.nodup_cons] at apart
  have other : name b ≠ name a := fun same => apart.1 (same ▸ List.mem_map.mpr ⟨b,member,rfl⟩)
  exact List.mem_filter.mpr ⟨stored b (List.mem_cons_of_mem _ member),by simp [other]⟩

end Table

namespace Graph

-- Every record is stored under its own id. A record that was changed by hand may break this.
structure Keyed (g : Graph) : Prop where
  components : ∀ e ∈ g.components.entries, e.2.id = e.1
  wires : ∀ e ∈ g.wires.entries, e.2.id = e.1

-- Everything one change can do, with what is known of the graph when it does. A component goes only
-- when no wire is attached to it.
inductive Moves : Graph → Change → Graph → Prop where
  | placed {g : Graph} {spec : NewComponent} (admitted : g.checkPlace spec = .ok ()) :
      Moves g (.placed spec) (g.placed spec)
  | connected {g : Graph} {producer consumer : String}
      (admitted : g.checkConnect producer consumer = .ok ()) :
      Moves g (.connected producer consumer) (g.connected producer consumer)
  | cut {g : Graph} {w : Wire} (stored : (w.id,w) ∈ g.wires.entries) :
      Moves g (.cut w) (g.withoutWire w)
  | removed {g : Graph} {c : Component} (stored : (c.id,c) ∈ g.components.entries)
      (free : g.attached c.id = []) : Moves g (.removed c) (g.withoutComponent c.id c)

-- The supply is fresh from the id after the first `since` to the one at `upto`: none of them is in
-- use, and no two are the same.
structure Spares (g : Graph) (since upto : Nat) : Prop where
  unused : ∀ n, n ≤ upto → since < n → g.drawnId n ∉ g.components.keys ∧ g.drawnId n ∉ g.wires.keys
  apart : ∀ n, n ≤ upto → ∀ m, m < n → since < m → g.drawnId m ≠ g.drawnId n

instance (g : Graph) (since upto : Nat) : Decidable (g.Spares since upto) :=
  decidable_of_iff
    ((∀ n, n ≤ upto → since < n → g.drawnId n ∉ g.components.keys ∧ g.drawnId n ∉ g.wires.keys) ∧
      ∀ n, n ≤ upto → ∀ m, m < n → since < m → g.drawnId m ≠ g.drawnId n)
    ⟨fun ⟨unused,apart⟩ => ⟨unused,apart⟩,fun ⟨unused,apart⟩ => ⟨unused,apart⟩⟩

inductive Runs : Graph → List Change → Graph → Prop where
  | nil {g : Graph} : Runs g [] g
  | cons {g middle after : Graph} {change : Change} {rest : List Change} :
      Moves g change middle → Runs middle rest after → Runs g (change :: rest) after

variable {g middle after : Graph} {change : Change} {path more : List Change}

theorem Runs.append (first : Runs g path middle) (second : Runs middle more after) :
    Runs g (path ++ more) after := by
  induction first with
  | nil => exact second
  | cons move _ ih => exact .cons move (ih second)

theorem Runs.single (move : Moves g change after) : Runs g [change] after := .cons move .nil

-- The change at hand is one of the run, so a property may speak of what is placed.
theorem Runs.preserves {P : Graph → Prop} (runs : Runs g path after)
    (step : ∀ {before change next}, change ∈ path → Moves before change next →
      P before → P next) (start : P g) : P after := by
  induction runs with
  | nil => exact start
  | cons move _ ih =>
    exact ih (fun member => step (List.mem_cons_of_mem _ member)) (step List.mem_cons_self move start)

theorem Moves.drawn_le (move : Moves g change after) : g.drawn ≤ after.drawn := by
  cases move with
  | placed => exact Nat.le_succ _
  | connected => exact Nat.le_succ _
  | cut => exact Nat.le_refl _
  | removed => exact Nat.le_refl _

theorem Spares.narrow {since later upto sooner : Nat} (spares : g.Spares since upto)
    (from_later : since ≤ later) (to_sooner : sooner ≤ upto) : g.Spares later sooner :=
  ⟨fun n under past =>
      spares.unused n (Nat.le_trans under to_sooner) (Nat.lt_of_le_of_lt from_later past),
    fun n under m before past =>
      spares.apart n (Nat.le_trans under to_sooner) m before (Nat.lt_of_le_of_lt from_later past)⟩

theorem drawnId_congr (supply : after.supply = g.supply) : after.drawnId = g.drawnId :=
  funext fun n => by rw [drawnId,drawnId,supply]

-- Only the keys in use and the supply count.
theorem Spares.congr {since upto : Nat} (spares : g.Spares since upto)
    (components : after.components.keys = g.components.keys)
    (wires : after.wires.keys = g.wires.keys) (supply : after.supply = g.supply) :
    after.Spares since upto := by
  have same := drawnId_congr supply
  refine ⟨fun n under past => ?_,same ▸ spares.apart⟩
  rw [same,components,wires]
  exact spares.unused n under past

-- A supply that states its ids, each once and none of them in use, is fresh for as long as it lasts.
theorem spares_stated (distinct : g.supply.Nodup)
    (unused : ∀ id ∈ g.supply, id ∉ g.components.keys ∧ id ∉ g.wires.keys) (since : Nat) :
    g.Spares since g.supply.length := by
  have stated : ∀ n, n ≤ g.supply.length → since < n →
      ∃ place : n - 1 < g.supply.length, g.drawnId n = g.supply[n - 1] := by
    intro n under past
    have place : n - 1 < g.supply.length := by omega
    exact ⟨place,by rw [drawnId,List.getElem?_eq_getElem place,Option.getD_some]⟩
  refine ⟨fun n under past => ?_,fun n under m before past same => ?_⟩
  · obtain ⟨place,drawn⟩ := stated n under past
    exact drawn ▸ unused _ (List.getElem_mem place)
  · obtain ⟨sooner,first⟩ := stated m (by omega) past
    obtain ⟨later,second⟩ := stated n under (by omega)
    rw [first,second] at same
    exact List.pairwise_iff_getElem.mp distinct _ _ sooner later (by omega) same

-- The numbered ids never repeat themselves, so only the keys in use can stand in their way.
theorem spares_numbered {since upto : Nat} (none : g.supply = []) :
    g.Spares since upto ↔ ∀ n, n ≤ upto → since < n →
      numberedId n ∉ g.components.keys ∧ numberedId n ∉ g.wires.keys := by
  have numbered : g.drawnId = numberedId := funext fun n => by
    rw [drawnId,none,List.getElem?_nil,Option.getD_none]
  constructor
  · exact fun spares => numbered ▸ spares.unused
  · intro unused
    refine ⟨numbered ▸ unused,fun n _ m before _ same => ?_⟩
    rw [numbered,numberedId_inj] at same
    exact Nat.ne_of_lt before same

theorem Moves.supply (move : Moves g change after) : after.supply = g.supply := by
  cases move <;> rfl

-- What a change adds is under the id that was next, and no later id is the same.
theorem Moves.spares {upto : Nat} (move : Moves g change after) (spares : g.Spares g.drawn upto) :
    after.Spares after.drawn upto := by
  have same := drawnId_congr move.supply
  refine ⟨fun n under past => ?_,fun n under m before past =>
    same ▸ spares.apart n under m before (Nat.lt_of_le_of_lt move.drawn_le past)⟩
  rw [same]
  obtain ⟨component,wire⟩ := spares.unused n under (Nat.lt_of_le_of_lt move.drawn_le past)
  cases move with
  | placed =>
    refine ⟨fun taken => ?_,wire⟩
    rcases Table.mem_keys_insert.mp taken with old | next
    · exact component old
    · exact spares.apart n under _ past (Nat.lt_succ_self _) next.symm
  | connected =>
    refine ⟨component,fun taken => ?_⟩
    rcases Table.mem_keys_insert.mp taken with old | next
    · exact wire old
    · exact spares.apart n under _ past (Nat.lt_succ_self _) next.symm
  | cut => exact ⟨component,fun taken => wire (Table.mem_keys_erase.mp taken).1⟩
  | removed => exact ⟨fun taken => component (Table.mem_keys_erase.mp taken).1,wire⟩

theorem Runs.supply (runs : Runs g path after) : after.supply = g.supply :=
  runs.preserves (P := fun h => h.supply = g.supply) (fun _ move same => move.supply.trans same) rfl

theorem Runs.spares {upto : Nat} (runs : Runs g path after) (spares : g.Spares g.drawn upto) :
    after.Spares after.drawn upto := by
  induction runs with
  | nil => exact spares
  | cons move _ ih => exact ih (move.spares spares)

theorem Runs.drawn_le (runs : Runs g path after) : g.drawn ≤ after.drawn := by
  induction runs with
  | nil => exact Nat.le_refl _
  | cons move _ ih => exact Nat.le_trans move.drawn_le ih

theorem Moves.keyed (move : Moves g change after) (keyed : g.Keyed) : after.Keyed := by
  cases move with
  | placed =>
    refine ⟨?_,keyed.wires⟩
    intro e stored
    rcases Table.mem_insert.mp stored with rfl | ⟨old,_⟩
    · rfl
    · exact keyed.components e old
  | connected =>
    refine ⟨keyed.components,?_⟩
    intro e stored
    rcases Table.mem_insert.mp stored with rfl | ⟨old,_⟩
    · rfl
    · exact keyed.wires e old
  | cut => exact ⟨keyed.components,fun e stored => keyed.wires e (List.mem_filter.mp stored).1⟩
  | removed => exact ⟨fun e stored => keyed.components e (List.mem_filter.mp stored).1,keyed.wires⟩

theorem Runs.keyed (runs : Runs g path after) (keyed : g.Keyed) : after.Keyed :=
  runs.preserves (fun _ move kept => move.keyed kept) keyed

theorem restore_keyed (t : Topology) (driverFactories : List String) (drawn : Nat)
    (supply : List String) : (restore t driverFactories drawn supply).Keyed :=
  ⟨Table.ofList_key _ _,Table.ofList_key _ _⟩

theorem Keyed.settle (keyed : g.Keyed) : g.settle.Keyed := by
  refine ⟨?_,?_⟩
  · rintro e stored
    obtain ⟨old,before,rfl⟩ := List.mem_map.mp stored
    exact (Component.committed_id old.2).trans (keyed.components old before)
  · rintro e stored
    obtain ⟨old,before,rfl⟩ := List.mem_map.mp stored
    exact keyed.wires old before

theorem Keyed.wire (keyed : g.Keyed) {w : Wire} (stored : w ∈ g.wires.values) :
    (w.id,w) ∈ g.wires.entries := by
  obtain ⟨⟨key,value⟩,entry,rfl⟩ := List.mem_map.mp stored
  rwa [keyed.wires _ entry]

theorem Keyed.component (keyed : g.Keyed) {c : Component} (stored : c ∈ g.components.values) :
    (c.id,c) ∈ g.components.entries := by
  obtain ⟨⟨key,value⟩,entry,rfl⟩ := List.mem_map.mp stored
  rwa [keyed.components _ entry]

theorem Keyed.found (keyed : g.Keyed) {id : String} {c : Component}
    (found : g.component? id = some c) : c ∈ g.components.values ∧ c.id = id := by
  have entry := Table.get?_iff.mp found
  exact ⟨List.mem_map.mpr ⟨_,entry,rfl⟩,keyed.components _ entry⟩

theorem Keyed.foundWire (keyed : g.Keyed) {id : String} {w : Wire}
    (found : g.wire? id = some w) : w ∈ g.wires.values ∧ w.id = id := by
  have entry := Table.get?_iff.mp found
  exact ⟨List.mem_map.mpr ⟨_,entry,rfl⟩,keyed.wires _ entry⟩

theorem Keyed.wire_ids (keyed : g.Keyed) : g.wires.values.map (·.id) = g.wires.keys := by
  rw [Table.values,Table.keys,List.map_map]
  exact List.map_congr_left keyed.wires

theorem Keyed.component_ids (keyed : g.Keyed) :
    g.components.values.map (·.id) = g.components.keys := by
  rw [Table.values,Table.keys,List.map_map]
  exact List.map_congr_left keyed.components

-- Wires that are all stored under their ids come out one after another.
theorem dropWires_runs (ws : List Wire) (stored : ∀ w ∈ ws, (w.id,w) ∈ g.wires.entries)
    (apart : (ws.map (·.id)).Nodup) :
    g.dropWires ws = (.ok (),g.cut ws) ∧ Runs g (ws.map .cut) (g.cut ws) := by
  induction ws generalizing g with
  | nil => rw [cut_nil]; exact ⟨rfl,.nil⟩
  | cons w rest ih =>
    have here : (w.id,w) ∈ g.wires.entries := stored w List.mem_cons_self
    have present : g.wires.contains w.id = true := Table.contains_iff.mpr (Table.key_mem here)
    obtain ⟨dropped,runs⟩ := ih (g := g.withoutWire w) (Table.erase_others stored apart)
      (List.nodup_cons.mp apart).2
    rw [cut_cons] at dropped runs
    exact ⟨by rw [dropWires,if_pos present,dropped],.cons (.cut here) runs⟩

-- Components come out in the same way once there are no wires.
theorem dropComponents_runs (cs : List Component) (bare : g.wires = .empty)
    (stored : ∀ c ∈ cs, (c.id,c) ∈ g.components.entries) (apart : (cs.map (·.id)).Nodup) :
    g.dropComponents cs = (.ok (),g.bared cs) ∧ Runs g (cs.map .removed) (g.bared cs) := by
  induction cs generalizing g with
  | nil => rw [bared_nil]; exact ⟨rfl,.nil⟩
  | cons c rest ih =>
    have here : (c.id,c) ∈ g.components.entries := stored c List.mem_cons_self
    have present : g.contains c.id = true := Table.contains_iff.mpr (Table.key_mem here)
    have free : g.attached c.id = [] := by rw [attached,bare]; rfl
    obtain ⟨dropped,runs⟩ := ih (g := g.withoutComponent c.id c) bare
      (Table.erase_others stored apart) (List.nodup_cons.mp apart).2
    rw [bared_cons] at dropped runs
    exact ⟨by rw [dropComponents,if_pos present,dropped],.cons (.removed here free) runs⟩

-- The changes that an admitted edit makes, in order.
def changes (g : Graph) : Edit → List Change
  | .place spec => [.placed spec]
  | .connect producer consumer => [.connected producer consumer]
  | .remove i => (g.attached i).map .cut ++ (g.component? i).toList.map .removed
  | .disconnect i => (g.wire? i).toList.map .cut
  | .clear => g.wires.values.map .cut ++ g.components.values.map .removed

-- What is asked of a new component and of a new wire.
theorem checkPlace_iff {spec : NewComponent} : g.checkPlace spec = .ok () ↔
    g.locked = false ∧ spec.name ≠ "" ∧ g.named? spec.name = none ∧
      (spec.pid = unregisteredPid → g.registeredAs? spec.name = none ∧
        (spec.factory ∈ g.driverFactories → spec.driver.getD "" ≠ "")) := by
  unfold checkPlace
  constructor
  · intro admitted
    split at admitted
    · cases admitted
    rename_i free
    split at admitted
    · cases admitted
    rename_i named
    split at admitted
    · cases admitted
    rename_i unnamed
    split at admitted
    · cases admitted
    rename_i unheld
    split at admitted
    · cases admitted
    rename_i driven
    refine ⟨by simpa using free,named,by simpa using unnamed,fun unregistered => ⟨?_,?_⟩⟩
    · simpa [unregistered] using unheld
    · simpa [unregistered] using driven
  · rintro ⟨free,named,unnamed,registry⟩
    have unheld : ¬(spec.pid = unregisteredPid ∧ (g.registeredAs? spec.name).isSome = true) := by
      rintro ⟨unregistered,held⟩
      simp [(registry unregistered).1] at held
    have driven : ¬(spec.pid = unregisteredPid ∧ g.driverFactories.contains spec.factory = true ∧
        spec.driver.getD "" = "") := by
      rintro ⟨unregistered,driver,missing⟩
      exact (registry unregistered).2 (List.contains_iff_mem.mp driver) missing
    rw [if_neg (by simp [free]),if_neg named,if_neg (by simp [unnamed]),if_neg unheld,if_neg driven]

theorem checkConnect_iff {producer consumer : String} : g.checkConnect producer consumer = .ok () ↔
    g.locked = false ∧ producer ≠ consumer ∧ g.wireBetween? producer consumer = none ∧
      ∃ p c, g.component? producer = some p ∧ g.component? consumer = some c ∧
        p.role.hasOutput = true ∧ c.role.hasInput = true := by
  unfold checkConnect
  constructor
  · intro admitted
    split at admitted
    · cases admitted
    rename_i free
    split at admitted
    · cases admitted
    rename_i apart
    split at admitted
    · cases admitted
    · cases admitted
    rename_i p c source target
    split at admitted
    · cases admitted
    rename_i output
    split at admitted
    · cases admitted
    rename_i input
    split at admitted
    · cases admitted
    rename_i unjoined
    exact ⟨by simpa using free,apart,by simpa using unjoined,p,c,source,target,
      by simpa using output,by simpa using input⟩
  · rintro ⟨free,apart,unjoined,p,c,source,target,output,input⟩
    simp [free,apart,unjoined,source,target,output,input]

theorem place_made {spec : NewComponent} :
    (∃ id, (g.place spec).1 = .ok id) ↔ g.checkPlace spec = .ok () := by
  unfold place
  cases g.checkPlace spec <;> simp

theorem connect_made {producer consumer : String} :
    (∃ id, (g.connect producer consumer).1 = .ok id) ↔
      g.checkConnect producer consumer = .ok () := by
  unfold connect
  cases g.checkConnect producer consumer <;> simp

theorem place_cases (g : Graph) (spec : NewComponent) :
    (∃ f, g.place spec = (.error f,g)) ∨
      g.place spec = (.ok g.nextId,g.placed spec) ∧ Moves g (.placed spec) (g.placed spec) := by
  unfold place
  split
  · rename_i admitted
    exact .inr ⟨rfl,.placed admitted⟩
  · rename_i f _
    exact .inl ⟨f,rfl⟩

theorem connect_cases (g : Graph) (producer consumer : String) :
    (∃ f, g.connect producer consumer = (.error f,g)) ∨
      g.connect producer consumer = (.ok g.nextId,g.connected producer consumer) ∧
        Moves g (.connected producer consumer) (g.connected producer consumer) := by
  unfold connect
  split
  · rename_i admitted
    exact .inr ⟨rfl,.connected admitted⟩
  · rename_i f _
    exact .inl ⟨f,rfl⟩

theorem Keyed.filtered_distinct (keyed : g.Keyed) (p : Wire → Bool) :
    ((g.wires.values.filter p).map (·.id)).Nodup :=
  (keyed.wire_ids ▸ g.wires.keys_nodup).sublist (List.filter_sublist.map _)

-- No wire is left at a component when those that are attached to it were cut.
theorem attached_cut (keyed : g.Keyed) (id : String) : (g.cut (g.attached id)).attached id = [] := by
  refine List.filter_eq_nil_iff.mpr fun w member touches => ?_
  obtain ⟨e,left,rfl⟩ := List.mem_map.mp member
  obtain ⟨old,gone⟩ := List.mem_filter.mp left
  have taken : e.2 ∈ g.attached id := List.mem_filter.mpr ⟨List.mem_map.mpr ⟨e,old,rfl⟩,touches⟩
  have apart : e.1 ∉ (g.attached id).map (·.id) := by simpa using gone
  exact apart (List.mem_map.mpr ⟨_,taken,keyed.wires e old⟩)

-- A component is removed with the wires that are attached to it, and the wires go first.
theorem remove_runs (keyed : g.Keyed) (free : g.locked = false) {c : Component}
    (stored : c ∈ g.components.values) :
    g.remove c.id = (.ok (),(g.cut (g.attached c.id)).bared [c]) ∧
      Runs g (g.changes (.remove c.id)) ((g.cut (g.attached c.id)).bared [c]) := by
  have found : g.component? c.id = some c := Table.get?_iff.mpr (keyed.component stored)
  obtain ⟨dropped,runs⟩ := dropWires_runs (g.attached c.id)
    (fun w member => keyed.wire (List.mem_filter.mp member).1) (keyed.filtered_distinct _)
  rw [← bared_cons,bared_nil,changes,found]
  refine ⟨by simp [remove,free,found,dropped],runs.append (.single (.removed ?_ ?_))⟩
  · exact keyed.component stored
  · exact attached_cut keyed c.id

theorem disconnect_runs (keyed : g.Keyed) (free : g.locked = false) {w : Wire}
    (stored : w ∈ g.wires.values) :
    g.disconnect w.id = (.ok (),g.cut [w]) ∧
      Runs g (g.changes (.disconnect w.id)) (g.cut [w]) := by
  have entry := keyed.wire stored
  have found : g.wire? w.id = some w := Table.get?_iff.mpr entry
  obtain ⟨dropped,runs⟩ := dropWires_runs [w] (by simpa using entry) (by simp)
  rw [changes,found]
  exact ⟨by simp [disconnect,free,found,dropped],runs⟩

theorem cut_all (keyed : g.Keyed) : (g.cut g.wires.values).wires = .empty :=
  Table.without_keys fun _ listed => keyed.wire_ids ▸ listed

theorem bared_all (keyed : g.Keyed) : (g.bared g.components.values).components = .empty :=
  Table.without_keys fun _ listed => keyed.component_ids ▸ listed

theorem clear_runs (keyed : g.Keyed) (free : g.locked = false) :
    g.clear = (.ok (),(g.cut g.wires.values).bared g.components.values) ∧
      Runs g (g.changes .clear) ((g.cut g.wires.values).bared g.components.values) := by
  obtain ⟨dropped,runs⟩ := dropWires_runs g.wires.values (fun w member => keyed.wire member)
    (keyed.wire_ids ▸ g.wires.keys_nodup)
  obtain ⟨emptied,rest⟩ := dropComponents_runs g.components.values (cut_all keyed)
    (fun c member => keyed.component member) (keyed.component_ids ▸ g.components.keys_nodup)
  have components : (g.cut g.wires.values).components = g.components := rfl
  exact ⟨by simp [clear,free,dropped,emptied,components],runs.append rest⟩

theorem remove_cases (keyed : g.Keyed) (id : String) :
    (∃ f, g.remove id = (.error f,g)) ∨
      ∃ after, g.remove id = (.ok (),after) ∧ Runs g (g.changes (.remove id)) after := by
  cases locked : g.locked with
  | true => exact .inl ⟨_,if_pos locked⟩
  | false =>
    cases found : g.component? id with
    | none => exact .inl ⟨.notFound "component" id,by simp [remove,locked,found]⟩
    | some c =>
      obtain ⟨stored,rfl⟩ := keyed.found found
      exact .inr ⟨_,remove_runs keyed locked stored⟩

theorem disconnect_cases (keyed : g.Keyed) (id : String) :
    (∃ f, g.disconnect id = (.error f,g)) ∨
      ∃ after, g.disconnect id = (.ok (),after) ∧ Runs g (g.changes (.disconnect id)) after := by
  cases locked : g.locked with
  | true => exact .inl ⟨_,if_pos locked⟩
  | false =>
    cases found : g.wire? id with
    | none => exact .inl ⟨.notFound "wire" id,by simp [disconnect,locked,found]⟩
    | some w =>
      obtain ⟨stored,rfl⟩ := keyed.foundWire found
      exact .inr ⟨_,disconnect_runs keyed locked stored⟩

theorem clear_cases (keyed : g.Keyed) :
    (∃ f, g.clear = (.error f,g)) ∨
      ∃ after, g.clear = (.ok (),after) ∧ Runs g (g.changes .clear) after := by
  cases locked : g.locked with
  | true => exact .inl ⟨_,if_pos locked⟩
  | false => exact .inr ⟨_,clear_runs keyed locked⟩

-- An edit is refused, and then nothing has happened, or it runs through its changes.
theorem apply_cases (keyed : g.Keyed) (e : Edit) :
    (∃ f, g.apply e = (.error f,g)) ∨
      ∃ added after, g.apply e = (.ok added,after) ∧ Runs g (g.changes e) after := by
  cases e with
  | place spec =>
    rcases g.place_cases spec with ⟨f,refused⟩ | ⟨made,move⟩
    · exact .inl ⟨f,by rw [apply,refused]; rfl⟩
    · exact .inr ⟨_,_,by rw [apply,made]; rfl,.single move⟩
  | connect producer consumer =>
    rcases g.connect_cases producer consumer with ⟨f,refused⟩ | ⟨made,move⟩
    · exact .inl ⟨f,by rw [apply,refused]; rfl⟩
    · exact .inr ⟨_,_,by rw [apply,made]; rfl,.single move⟩
  | remove id =>
    rcases remove_cases keyed id with ⟨f,refused⟩ | ⟨after,made,runs⟩
    · exact .inl ⟨f,by rw [apply,refused]; rfl⟩
    · exact .inr ⟨_,_,by rw [apply,made]; rfl,runs⟩
  | disconnect id =>
    rcases disconnect_cases keyed id with ⟨f,refused⟩ | ⟨after,made,runs⟩
    · exact .inl ⟨f,by rw [apply,refused]; rfl⟩
    · exact .inr ⟨_,_,by rw [apply,made]; rfl,runs⟩
  | clear =>
    rcases clear_cases keyed with ⟨f,refused⟩ | ⟨after,made,runs⟩
    · exact .inl ⟨f,by rw [apply,refused]; rfl⟩
    · exact .inr ⟨_,_,by rw [apply,made]; rfl,runs⟩

end Graph

end WireGraph
