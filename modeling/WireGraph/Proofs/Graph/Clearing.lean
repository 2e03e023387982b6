import WireGraph.Proofs.Graph.Passage
import WireGraph.Proofs.Graph.Removal

/-!
# Removing in any order

Components can be removed one after another in any order: what is left is the same, and so are the
records of what went, but for their order. Main statement: this, and that clearing a graph is to
remove every wire and then every component, in the order of the graph. To remove the components
alone comes to the same wherever each wire has a component at one of its ends; a wire that was led
away from all components by hand is taken by clearing only.
-/

namespace WireGraph

theorem contains_perm {ids others : List String} (perm : ids.Perm others) (id : String) :
    ids.contains id = others.contains id := by
  rw [Bool.eq_iff_iff,List.contains_iff_mem,List.contains_iff_mem,perm.mem_iff]

-- What passes the first test, and what does not but passes the second.
theorem filter_either {α : Type} (p q : α → Bool) (as : List α) :
    (as.filter p ++ (as.filter fun a => !p a).filter q).Perm (as.filter fun a => p a || q a) := by
  have split := List.filter_append_perm p (as.filter fun a => p a || q a)
  rw [List.filter_filter,List.filter_filter] at split
  have first : as.filter (fun a => p a && (p a || q a)) = as.filter p :=
    List.filter_congr fun a _ => by cases p a <;> rfl
  have second : as.filter (fun a => !p a && (p a || q a)) =
      (as.filter fun a => !p a).filter q := by
    rw [List.filter_filter]
    exact List.filter_congr fun a _ => by cases p a <;> simp
  rwa [first,second] at split

-- One end of the wire is among these ids.
def Wire.touches (w : Wire) (ids : List String) : Bool :=
  ids.contains w.producer || ids.contains w.consumer

namespace Graph
variable {g middle after : Graph} {ids others more : List String} {es : List Edit}

-- Makes the edits one after another, up to the first that is refused.
def applyAll (g : Graph) : List Edit → Edited Unit
  | [] => (.ok (),g)
  | e :: rest =>
    match g.apply e with
    | (.ok _,after) => after.applyAll rest
    | (.error f,after) => (.error f,after)

theorem applyAll_append (done : g.applyAll es = (.ok (),middle)) (later : List Edit) :
    g.applyAll (es ++ later) = middle.applyAll later := by
  induction es generalizing g with
  | nil => cases done; rfl
  | cons e rest ih =>
    rw [applyAll] at done
    rw [List.cons_append,applyAll]
    cases made : g.apply e with
    | mk outcome next =>
      rw [made] at done
      cases outcome with
      | ok added => exact ih done
      | error f => cases done

theorem applyAll_remove {id : String} (made : g.remove id = (.ok (),middle)) (rest : List Edit) :
    g.applyAll (.remove id :: rest) = middle.applyAll rest := by
  simp [applyAll,apply,made,Except.map]

theorem applyAll_disconnect {id : String} (made : g.disconnect id = (.ok (),middle))
    (rest : List Edit) : g.applyAll (.disconnect id :: rest) = middle.applyAll rest := by
  simp [applyAll,apply,made,Except.map]

theorem Keyed.cut (keyed : g.Keyed) (ws : List Wire) : (g.cut ws).Keyed :=
  ⟨keyed.components,fun e left => keyed.wires e (List.mem_filter.mp left).1⟩

theorem Keyed.bared (keyed : g.Keyed) (cs : List Component) : (g.bared cs).Keyed :=
  ⟨fun e left => keyed.components e (List.mem_filter.mp left).1,keyed.wires⟩

-- What is left of a graph without the components of these ids, and what is pending of them; the
-- order in which their records came to be is left open.
structure Sheds (g : Graph) (ids : List String) (after : Graph) : Prop where
  components : after.components = g.components.without ids
  wires : after.wires = g.wires.filter fun e => !e.2.touches ids
  creations : after.pending.creations = g.pending.creations.removeAll ids
  deletions : after.pending.deletions.Perm (g.pending.deletions ++
    ((g.wires.values.filter (·.touches ids)).filterMap (·.deletion?) ++
      (g.components.values.filter fun c => ids.contains c.id).filterMap (·.deletion?)))

theorem Sheds.nil (g : Graph) : g.Sheds [] g where
  components := g.components.without_nil.symm
  wires := (Table.ext (List.filter_eq_self.mpr fun _ _ => rfl)).symm
  creations := (List.filter_eq_self.mpr fun _ _ => rfl).symm
  deletions := by simp [Wire.touches]

theorem Sheds.perm (sheds : g.Sheds ids after) (perm : ids.Perm others) : g.Sheds others after := by
  obtain ⟨components,wires,creations,deletions⟩ := sheds
  simp only [Table.without,Wire.touches,List.removeAll,List.elem_eq_contains,contains_perm perm]
    at components wires creations deletions
  exact ⟨components,wires,creations,deletions⟩

theorem Sheds.trans (keyed : g.Keyed) (first : g.Sheds ids middle)
    (second : middle.Sheds more after) : g.Sheds (ids ++ more) after := by
  have spread (id : String) : (ids ++ more).contains id = (ids.contains id || more.contains id) :=
    by simp
  have touches (w : Wire) : w.touches (ids ++ more) = (w.touches ids || w.touches more) := by
    simp only [Wire.touches,spread]
    ac_rfl
  refine ⟨?_,?_,?_,?_⟩
  · rw [second.components,first.components,Table.without,Table.without,Table.filter_filter]
    exact Table.filter_congr fun e _ => by rw [spread,Bool.not_or]
  · rw [second.wires,first.wires,Table.filter_filter]
    exact Table.filter_congr fun e _ => by rw [touches,Bool.not_or]
  · rw [second.creations,first.creations,List.removeAll,List.removeAll,List.filter_filter]
    refine List.filter_congr fun id _ => ?_
    simp only [List.elem_eq_contains,spread,Bool.not_or,Bool.and_comm]
  · have wires : middle.wires.values = g.wires.values.filter fun w => !w.touches ids := by
      rw [first.wires]
      exact Table.values_filter fun _ _ => rfl
    have components : middle.components.values =
        g.components.values.filter fun c => !ids.contains c.id := by
      rw [first.components]
      exact Table.values_filter fun e stored => by rw [keyed.components e stored]
    -- A wire between the two lots goes with the first; together they take what touches either.
    refine second.deletions.trans ((first.deletions.append_right _).trans ?_)
    simp only [wires,components,touches,spread]
    have ws := (filter_either (·.touches ids) (·.touches more) g.wires.values).filterMap
      (·.deletion?)
    have cs := (filter_either (fun c => ids.contains c.id) (fun c => more.contains c.id)
      g.components.values).filterMap (·.deletion?)
    rw [List.filterMap_append] at ws cs
    rw [List.append_assoc]
    refine .append_left _ (.trans ?_ (ws.append cs))
    rw [List.append_assoc,List.append_assoc]
    exact .append_left _ (List.perm_append_comm_assoc _ _ _)

-- What is attached to a component is what has it at one of its ends.
theorem attached_touches (g : Graph) (id : String) :
    g.attached id = g.wires.values.filter (·.touches [id]) := by
  refine List.filter_congr fun w _ => ?_
  simp only [Wire.touches,List.contains_cons,List.contains_nil,Bool.or_false]

theorem remove_sheds (keyed : g.Keyed) {c : Component} (stored : c ∈ g.components.values) :
    g.Sheds [c.id] ((g.cut (g.attached c.id)).bared [c]) where
  components := rfl
  wires := by
    rw [attached_touches]
    exact Table.without_filter keyed.wires _
  creations := rfl
  deletions := by
    have one : g.components.values.filter (fun d => ([c].map (·.id)).contains d.id) = [c] :=
      filter_part (List.singleton_sublist.mpr stored) (keyed.component_ids ▸ g.components.keys_nodup)
    rw [List.map_singleton] at one
    rw [one,← attached_touches,← List.append_assoc]
    exact .refl _

theorem Keyed.contains_component (keyed : g.Keyed) {id : String} (present : g.contains id = true) :
    ∃ c ∈ g.components.values, c.id = id :=
  List.mem_map.mp (keyed.contains_iff.mp present)

-- Components come out in any order, one after another.
theorem removeAll_sheds (keyed : g.Keyed) (free : g.locked = false) (distinct : ids.Nodup)
    (present : ∀ id ∈ ids, g.contains id = true) :
    ∃ after, g.applyAll (ids.map .remove) = (.ok (),after) ∧ g.Sheds ids after := by
  induction ids generalizing g with
  | nil => exact ⟨g,rfl,.nil g⟩
  | cons id rest ih =>
    obtain ⟨c,stored,rfl⟩ := keyed.contains_component (present id List.mem_cons_self)
    obtain ⟨others,distinct⟩ := List.nodup_cons.mp distinct
    have next : ((g.cut (g.attached c.id)).bared [c]).Keyed := (keyed.cut _).bared _
    have left : ∀ other ∈ rest, ((g.cut (g.attached c.id)).bared [c]).contains other = true := by
      intro other member
      have apart : other ≠ c.id := fun same => others (same ▸ member)
      have here := Table.contains_iff.mp (present other (List.mem_cons_of_mem _ member))
      obtain ⟨d,entry⟩ := Table.mem_keys.mp here
      refine Table.contains_iff.mpr (Table.mem_keys.mpr ⟨d,List.mem_filter.mpr ⟨entry,?_⟩⟩)
      simp [apart]
    obtain ⟨after,done,sheds⟩ := ih next free distinct left
    refine ⟨after,?_,(remove_sheds keyed stored).trans keyed sheds⟩
    rw [List.map_cons,applyAll_remove ((remove_runs keyed free stored).1),done]

-- Wires come out one after another as they do at one stroke.
theorem disconnectAll_exact (keyed : g.Keyed) (free : g.locked = false) {ws : List Wire}
    (stored : ∀ w ∈ ws, (w.id,w) ∈ g.wires.entries) (apart : (ws.map (·.id)).Nodup) :
    g.applyAll (ws.map fun w => .disconnect w.id) = (.ok (),g.cut ws) := by
  induction ws generalizing g with
  | nil => rw [cut_nil]; rfl
  | cons w rest ih =>
    have here : w ∈ g.wires.values := List.mem_map.mpr ⟨_,stored w List.mem_cons_self,rfl⟩
    have one : g.cut [w] = g.withoutWire w := by rw [← cut_cons,cut_nil]
    rw [List.map_cons,applyAll_disconnect ((disconnect_runs keyed free here).1),one,← cut_cons]
    exact ih (one ▸ keyed.cut [w]) free (Table.erase_others stored apart)
      (List.nodup_cons.mp apart).2

-- Where there are no wires, each component comes out alone.
theorem removeAll_bared (keyed : g.Keyed) (free : g.locked = false) (bare : g.wires = .empty)
    {cs : List Component} (stored : ∀ c ∈ cs, (c.id,c) ∈ g.components.entries)
    (apart : (cs.map (·.id)).Nodup) :
    g.applyAll (cs.map fun c => .remove c.id) = (.ok (),g.bared cs) := by
  induction cs generalizing g with
  | nil => rw [bared_nil]; rfl
  | cons c rest ih =>
    have here : c ∈ g.components.values := List.mem_map.mpr ⟨_,stored c List.mem_cons_self,rfl⟩
    have none : g.attached c.id = [] := by rw [attached,bare]; rfl
    have one : (g.cut (g.attached c.id)).bared [c] = g.withoutComponent c.id c := by
      rw [none,cut_nil,← bared_cons,bared_nil]
    rw [List.map_cons,applyAll_remove ((remove_runs keyed free here).1),one,← bared_cons]
    exact ih (one ▸ (keyed.cut _).bared _) free bare (Table.erase_others stored apart)
      (List.nodup_cons.mp apart).2

-- Clearing takes out every wire and then every component, as if each were asked for.
theorem clear_sweeps (keyed : g.Keyed) (free : g.locked = false) :
    g.applyAll (g.wires.keys.map .disconnect ++ g.components.keys.map .remove) =
      (.ok (),(g.cut g.wires.values).bared g.components.values) := by
  have wires : g.wires.keys.map Edit.disconnect = g.wires.values.map fun w => .disconnect w.id := by
    rw [← keyed.wire_ids,List.map_map]
    rfl
  have components :
      g.components.keys.map Edit.remove = g.components.values.map fun c => .remove c.id := by
    rw [← keyed.component_ids,List.map_map]
    rfl
  have first : g.applyAll (g.wires.values.map fun w => .disconnect w.id) =
      (.ok (),g.cut g.wires.values) :=
    disconnectAll_exact keyed free (fun w member => keyed.wire member)
      (keyed.wire_ids ▸ g.wires.keys_nodup)
  rw [wires,components,applyAll_append first]
  exact removeAll_bared (keyed.cut _) free (cut_all keyed) (fun c member => keyed.component member)
    (keyed.component_ids ▸ g.components.keys_nodup)

-- With no component left, a wire is left only if it had a component at neither end.
theorem Sheds.all (keyed : g.Keyed) (sheds : g.Sheds g.components.keys after) :
    after.components = .empty ∧
      after.wires = g.wires.filter (fun e => !(g.contains e.2.producer || g.contains e.2.consumer)) ∧
      ((g.cut g.wires.values).bared g.components.values).pending.deletions.Perm
        (after.pending.deletions ++ after.wires.values.filterMap (·.deletion?)) := by
  refine ⟨sheds.components.trans (Table.without_keys fun _ listed => listed),sheds.wires,?_⟩
  have left : after.wires.values = g.wires.values.filter fun w => !w.touches g.components.keys := by
    rw [sheds.wires]
    exact Table.values_filter fun _ _ => rfl
  have every : g.components.values.filter (fun c => g.components.keys.contains c.id) =
      g.components.values := by
    refine List.filter_eq_self.mpr fun c stored => List.contains_iff_mem.mpr ?_
    exact Table.key_mem (keyed.component stored)
  have ws := (List.filter_append_perm (·.touches g.components.keys) g.wires.values).filterMap
    (·.deletion?)
  rw [List.filterMap_append] at ws
  refine List.Perm.trans ?_ (sheds.deletions.append_right _).symm
  rw [every,left]
  change ((g.pending.deletions ++ g.wires.values.filterMap (·.deletion?)) ++
    g.components.values.filterMap (·.deletion?)).Perm _
  rw [List.append_assoc,List.append_assoc,List.append_assoc]
  refine .append_left _ ((ws.symm.append_right _).trans ?_)
  rw [List.append_assoc]
  exact .append_left _ List.perm_append_comm

-- Whichever component goes first, both leave the same.
theorem removeAll_perm (keyed : g.Keyed) (free : g.locked = false) (distinct : ids.Nodup)
    (present : ∀ id ∈ ids, g.contains id = true) (perm : ids.Perm others) :
    ∃ after final, g.applyAll (ids.map .remove) = (.ok (),after) ∧
      g.applyAll (others.map .remove) = (.ok (),final) ∧
      after.components = final.components ∧ after.wires = final.wires ∧
      after.pending.creations = final.pending.creations ∧
      after.pending.deletions.Perm final.pending.deletions := by
  obtain ⟨after,done,one⟩ := removeAll_sheds keyed free distinct present
  obtain ⟨final,also,two⟩ := removeAll_sheds keyed free (perm.nodup_iff.mp distinct)
    fun id member => present id (perm.mem_iff.mpr member)
  have one := one.perm perm
  exact ⟨after,final,done,also,one.components.trans two.components.symm,
    one.wires.trans two.wires.symm,one.creations.trans two.creations.symm,
    one.deletions.trans two.deletions.symm⟩

-- What clearing tells a registry beyond the removal of all components is of the wires it leaves.
theorem removeAll_clears (keyed : g.Keyed) (free : g.locked = false)
    (perm : ids.Perm g.components.keys) :
    ∃ after, g.applyAll (ids.map .remove) = (.ok (),after) ∧ after.components = .empty ∧
      after.wires =
        g.wires.filter (fun e => !(g.contains e.2.producer || g.contains e.2.consumer)) ∧
      ((g.cut g.wires.values).bared g.components.values).pending.deletions.Perm
        (after.pending.deletions ++ after.wires.values.filterMap (·.deletion?)) ∧
      ((∀ w ∈ g.wires.values, g.contains w.producer = true ∨ g.contains w.consumer = true) →
        after.wires = .empty ∧
          ((g.cut g.wires.values).bared g.components.values).pending.deletions.Perm
            after.pending.deletions) := by
  obtain ⟨after,done,sheds⟩ := removeAll_sheds keyed free
    (perm.nodup_iff.mpr g.components.keys_nodup)
    fun id member => Table.contains_iff.mpr (perm.mem_iff.mp member)
  obtain ⟨components,wires,deletions⟩ := (sheds.perm perm).all keyed
  refine ⟨after,done,components,wires,deletions,fun ends => ?_⟩
  have none : after.wires = .empty := by
    rw [wires]
    refine Table.ext (List.filter_eq_nil_iff.mpr fun e stored => ?_)
    rcases ends e.2 (List.mem_map.mpr ⟨e,stored,rfl⟩) with starts | stops <;> simp [*]
  rw [none] at deletions
  exact ⟨none,by simpa [Table.values] using deletions⟩

theorem removals_commute (keyed : g.Keyed) (free : g.locked = false) :
    (∀ ids others : List String, ids.Nodup → (∀ id ∈ ids, g.contains id = true) →
      ids.Perm others → ∃ after final, g.applyAll (ids.map .remove) = (.ok (),after) ∧
        g.applyAll (others.map .remove) = (.ok (),final) ∧
        after.components = final.components ∧ after.wires = final.wires ∧
        after.pending.creations = final.pending.creations ∧
        after.pending.deletions.Perm final.pending.deletions) ∧
    ∃ cleared, g.clear = (.ok (),cleared) ∧
      g.applyAll (g.wires.keys.map .disconnect ++ g.components.keys.map .remove) =
        (.ok (),cleared) ∧
      cleared.components = .empty ∧ cleared.wires = .empty ∧
      ∀ ids : List String, ids.Perm g.components.keys →
        ∃ after, g.applyAll (ids.map .remove) = (.ok (),after) ∧ after.components = .empty ∧
          after.wires =
            g.wires.filter (fun e => !(g.contains e.2.producer || g.contains e.2.consumer)) ∧
          cleared.pending.deletions.Perm
            (after.pending.deletions ++ after.wires.values.filterMap (·.deletion?)) ∧
          ((∀ w ∈ g.wires.values, g.contains w.producer = true ∨ g.contains w.consumer = true) →
            after.wires = .empty ∧ cleared.pending.deletions.Perm after.pending.deletions) :=
  ⟨fun _ _ distinct present perm => removeAll_perm keyed free distinct present perm,
    _,(clear_runs keyed free).1,clear_sweeps keyed free,bared_all (keyed.cut _),
    cut_all keyed,fun _ perm => removeAll_clears keyed free perm⟩

-- Two components that are joined both ways, a third after them, and only one wire that is fresh.
def crossing : Graph :=
  Graph.restore
    { components := [
        { id := "a", pid := "p", factory := "f", name := "A", role := .both },
        { id := "b", factory := "f", name := "B", role := .both },
        { id := "c", pid := "q", factory := "f", name := "C", role := .both }]
      wires := [
        { id := "u", producer := "a", consumer := "b", fresh := false },
        { id := "v", producer := "b", consumer := "a" },
        { id := "w", producer := "b", consumer := "c", fresh := false }] } [] 0

theorem crossing_commutes : ∃ after final,
    crossing.applyAll (["a","b"].map .remove) = (.ok (),after) ∧
      crossing.applyAll (["b","a"].map .remove) = (.ok (),final) ∧
      after.pending.deletions.Perm final.pending.deletions ∧
      after.pending.deletions ≠ final.pending.deletions := by
  have commutes := removals_commute (g := crossing) (restore_keyed _ _ _ _) rfl
  obtain ⟨after,final,done,also,_,_,_,deletions⟩ :=
    commutes.1 ["a","b"] ["b","a"] (by decide) (by decide +kernel) (.swap _ _ _)
  refine ⟨after,final,done,also,deletions,?_⟩
  have first : after = (crossing.applyAll (["a","b"].map .remove)).2 := by rw [done]
  have second : final = (crossing.applyAll (["b","a"].map .remove)).2 := by rw [also]
  rw [first,second]
  decide +kernel

-- A wire that joined two components until both of its ends were led away.
def adrift : Graph :=
  ((Graph.restore
    { components := [
        { id := "a", factory := "timer", name := "A", role := .producer },
        { id := "b", factory := "logger", name := "B", role := .consumer }]
      wires := [{ id := "w", producer := "a", consumer := "b", fresh := false }] } [] 0).amendWire
    "w" [.producer "x",.consumer "y"]).2

-- Clearing takes it and tells the registry; removing the components leaves it where it is.
theorem adrift_remains : adrift.Keyed ∧ adrift.locked = false ∧
    ["a","b"].Perm adrift.components.keys ∧
    ∃ cleared after, adrift.clear = (.ok (),cleared) ∧
      adrift.applyAll (["a","b"].map .remove) = (.ok (),after) ∧
      cleared.wires = .empty ∧ after.wires ≠ .empty ∧
      ¬cleared.pending.deletions.Perm after.pending.deletions := by
  refine ⟨⟨by decide +kernel,by decide +kernel⟩,by decide +kernel,by decide +kernel,
    adrift.clear.2,(adrift.applyAll (["a","b"].map .remove)).2,by decide +kernel,by decide +kernel,
    by decide +kernel,by decide +kernel,by decide +kernel⟩

end Graph

end WireGraph
