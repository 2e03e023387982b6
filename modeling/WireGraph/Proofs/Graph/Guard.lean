import WireGraph.Proofs.Graph.Plan
import WireGraph.Proofs.Graph.Verdict

/-!
# What a new wire is checked for

A wire that is added is checked on its own; a report checks all wires of a graph at once. Main
statement: where the first four checks of a report have no complaint, a wire may be added exactly
when they have none of the graph with this wire in it; and then the fifth check finds a cycle
exactly when there was one before or the wires led from the new wire's consumer to its producer. For
this every component has to be stored under its own id: the guard looks under the one and the report
for the other.
-/

namespace WireGraph
open Relation

section Pair
variable {α : Type} {next : α → α → Prop} {p c a b : α}

-- The relation with one pair more.
def withPair (next : α → α → Prop) (p c : α) (a b : α) : Prop := next a b ∨ a = p ∧ b = c

theorem withPair_wider : next ≤ withPair next p c := fun _ _ => .inl

-- A way that takes the new pair leads to it and away from it without it.
theorem withPair_leads : ReflTransGen (withPair next p c) a b ↔
    ReflTransGen next a b ∨ ReflTransGen next a p ∧ ReflTransGen next c b := by
  constructor
  · intro path
    induction path with
    | refl => exact .inl .refl
    | tail _ step ih =>
      rcases step with old | ⟨rfl,rfl⟩
      · rcases ih with direct | ⟨before,after⟩
        · exact .inl (direct.tail old)
        · exact .inr ⟨before,after.tail old⟩
      · rcases ih with direct | ⟨before,_⟩
        · exact .inr ⟨direct,.refl⟩
        · exact .inr ⟨before,.refl⟩
  · rintro (direct | ⟨before,after⟩)
    · exact ReflTransGen.mono withPair_wider _ _ direct
    · have leads := ReflTransGen.mono (withPair_wider (p:=p) (c:=c)) _ _ before
      exact (leads.tail (.inr ⟨rfl,rfl⟩)).trans (ReflTransGen.mono withPair_wider _ _ after)

theorem withPair_returns : (∃ a, TransGen (withPair next p c) a a) ↔
    (∃ a, TransGen next a a) ∨ ReflTransGen next c p := by
  constructor
  · rintro ⟨a,path⟩
    obtain ⟨b,step,back⟩ := TransGen.head'_iff.mp path
    rcases step with old | ⟨rfl,rfl⟩
    · rcases withPair_leads.mp back with direct | ⟨before,after⟩
      · exact .inl ⟨a,.head' old direct⟩
      · exact .inr (after.trans (.head old before))
    · rcases withPair_leads.mp back with direct | ⟨before,_⟩
      · exact .inr direct
      · exact .inr before
  · rintro (⟨a,path⟩ | back)
    · exact ⟨a,TransGen.mono withPair_wider _ _ path⟩
    · exact ⟨p,.head' (.inr ⟨rfl,rfl⟩) (ReflTransGen.mono withPair_wider _ _ back)⟩

end Pair

namespace Finding
variable {f : Finding} {text : String} {good rest : List String}

-- A report that goes on with a good line goes on with a check that passes.
theorem good_prefix (told : ("OK: " ++ text) :: good <+: f.lines ++ rest) :
    f.passes = true ∧ good <+: rest := by
  cases passes : f.passes with
  | true =>
    rw [lines_pass passes,List.singleton_append,List.cons_prefix_cons] at told
    exact ⟨rfl,told.2⟩
  | false =>
    rw [lines_fail passes] at told
    cases complaints : f.complaints with
    | nil =>
      rw [passes_iff.mpr complaints] at passes
      cases passes
    | cons first others =>
      rw [complaints,List.map_cons,List.cons_append,List.cons_prefix_cons] at told
      have silent := good_no_error text
      rw [told.1,error_line first] at silent
      cases silent

end Finding

namespace Graph
variable {g after : Graph} {w : Wire} {p c id : String}

-- What the first four checks say when they have no complaint.
def goodLines : List String :=
  ["OK: Component names are unique.","OK: All wires reference existing components.",
    "OK: All wire endpoints correspond to exposed ports.","OK: No self-loops or duplicate wires."]

-- There is a report, and it begins with four good lines.
def Vouched (g : Graph) : Prop := ∃ r, g.report = .ok r ∧ goodLines <+: r.messages

-- One wire more, under an id that no wire has. Whatever else belongs to the graph is left open.
structure Gains (g : Graph) (w : Wire) (after : Graph) : Prop where
  components : after.components = g.components
  wires : after.wires = g.wires.insert w.id w
  new : w.id ∉ g.wires.keys

theorem goodLines_eq (g : Graph) : g.staticChecks.map ("OK: " ++ ·.pass) = goodLines := rfl

theorem vouched_lines {cyclic : Bool} (answered : g.hasCycle = .ok cyclic)
    (pass : g.staticChecks.all (·.passes) = true) : ∃ r, g.report = .ok r ∧
      r.messages = goodLines ++ (g.checkAcyclic cyclic).lines := by
  refine ⟨_,by rw [report,answered],?_⟩
  rw [List.flatMap_append,good_lines pass,goodLines_eq,List.flatMap_singleton]

theorem vouched_iff : g.Vouched ↔ (∃ cyclic, g.hasCycle = .ok cyclic) ∧
    g.checkNames.passes = true ∧ g.checkEnds.passes = true ∧ g.checkPorts.passes = true ∧
      g.checkPairs.passes = true := by
  constructor
  · rintro ⟨r,reported,told⟩
    obtain ⟨cyclic,answered,rfl⟩ := report_parts reported
    rw [← g.goodLines_eq] at told
    simp only [staticChecks,List.map_cons,List.cons_append,List.nil_append,List.flatMap_cons]
      at told
    obtain ⟨names,told⟩ := Finding.good_prefix told
    obtain ⟨ends,told⟩ := Finding.good_prefix told
    obtain ⟨ports,told⟩ := Finding.good_prefix told
    obtain ⟨pairs,_⟩ := Finding.good_prefix told
    exact ⟨⟨cyclic,answered⟩,names,ends,ports,pairs⟩
  · rintro ⟨⟨cyclic,answered⟩,names,ends,ports,pairs⟩
    obtain ⟨r,reported,messages⟩ :=
      vouched_lines answered (by simp [staticChecks,names,ends,ports,pairs])
    exact ⟨r,reported,messages ▸ List.prefix_append _ _⟩

-- The record with an id is the component under it.
theorem Named.record (named : g.Named) (id : String) : g.recordWithId? id = g.component? id := by
  cases found : g.component? id with
  | none =>
    refine Option.not_isSome_iff_eq_none.mp fun present => ?_
    have listed : id ∈ g.components.keys := named.ids ▸ hasRecord_iff.mp present
    obtain ⟨c,entry⟩ := Table.mem_keys.mp listed
    rw [component?,Table.get?_iff.mpr entry] at found
    cases found
  | some c =>
    have entry := Table.get?_iff.mp found
    have same : c.id = id := named _ entry
    rw [← same]
    exact recordWithId_eq named.distinct (List.mem_map.mpr ⟨_,entry,rfl⟩)

namespace Gains

theorem values (gains : g.Gains w after) : after.wires.values = g.wires.values ++ [w] := by
  rw [gains.wires,Table.values_insert_new gains.new]

theorem record (gains : g.Gains w after) (id : String) :
    after.recordWithId? id = g.recordWithId? id := by
  rw [recordWithId?,recordWithId?,gains.components]

theorem names (gains : g.Gains w after) : after.checkNames = g.checkNames := by
  rw [checkNames,checkNames,gains.components]

theorem ends (gains : g.Gains w after) : after.checkEnds.passes = true ↔
    g.checkEnds.passes = true ∧ w.producer ∈ g.components.values.map (·.id) ∧
      w.consumer ∈ g.components.values.map (·.id) := by
  rw [checkEnds_passes,checkEnds_passes,gains.values,gains.components,List.forall_mem_append,
    List.forall_mem_singleton]

theorem ports (gains : g.Gains w after) : after.checkPorts.passes = true ↔
    g.checkPorts.passes = true ∧ ∀ p c, g.recordWithId? w.producer = some p →
      g.recordWithId? w.consumer = some c → p.role.hasOutput = true ∧ c.role.hasInput = true := by
  simp only [checkPorts_passes,gains.values,gains.record,List.forall_mem_append,
    List.forall_mem_singleton]

theorem pairs (gains : g.Gains w after) : after.checkPairs.passes = true ↔
    g.checkPairs.passes = true ∧ w.producer ≠ w.consumer ∧ ¬g.Joins w.producer w.consumer := by
  have joined : (w.producer,w.consumer) ∈ g.wires.values.map (fun v => (v.producer,v.consumer)) ↔
      g.Joins w.producer w.consumer := by
    simp [Joins]
  rw [checkPairs_passes,checkPairs_passes,gains.values,List.forall_mem_append,
    List.forall_mem_singleton,List.map_append,List.map_singleton,List.nodup_append_comm,
    List.singleton_append,List.nodup_cons,joined]
  constructor
  · rintro ⟨⟨apart,here⟩,unjoined,once⟩
    exact ⟨⟨apart,once⟩,here,unjoined⟩
  · rintro ⟨⟨apart,once⟩,here,unjoined⟩
    exact ⟨⟨apart,here⟩,unjoined,once⟩

theorem joins (gains : g.Gains w after) :
    after.Joins = withPair g.Joins w.producer w.consumer := by
  funext a b
  rw [Joins,gains.values,withPair,Joins]
  simp only [List.mem_append,List.mem_singleton,or_and_right,exists_or,exists_eq_left]
  rw [@eq_comm _ w.producer,@eq_comm _ w.consumer]

end Gains

-- A report that vouches for a graph vouches for the ends of its wires too.
theorem Vouched.wiresEnd (named : g.Named) (vouched : g.Vouched) : g.WiresEnd := by
  intro w stored
  obtain ⟨_,_,ends,_⟩ := vouched_iff.mp vouched
  obtain ⟨producer,consumer⟩ := checkEnds_passes.mp ends w stored
  rw [named.ids] at producer consumer
  exact ⟨Table.contains_iff.mpr producer,Table.contains_iff.mpr consumer⟩

-- What the report has to say of a new wire is what the guard asks of it.
theorem Gains.vouched (gains : g.Gains w after) (named : g.Named) (vouched : g.Vouched) :
    after.Vouched ↔ w.producer ≠ w.consumer ∧ g.wireBetween? w.producer w.consumer = none ∧
      ∃ p c, g.component? w.producer = some p ∧ g.component? w.consumer = some c ∧
        p.role.hasOutput = true ∧ c.role.hasInput = true := by
  obtain ⟨_,names,ends,ports,pairs⟩ := vouched_iff.mp vouched
  have named' : after.Named := by
    rw [Named,gains.components]
    exact named
  have listed (id : String) : id ∈ g.components.values.map (·.id) ↔
      ∃ c, g.component? id = some c := by
    rw [← hasRecord_iff,hasRecord,named.record,Option.isSome_iff_exists]
  rw [vouched_iff,gains.names,gains.ends,gains.ports,gains.pairs,wireBetween_none]
  simp only [names,ends,ports,pairs,true_and,listed,named.record]
  constructor
  · rintro ⟨_,⟨⟨p,source⟩,c,target⟩,exposed,apart,unjoined⟩
    exact ⟨apart,unjoined,p,c,source,target,exposed p c source target⟩
  · rintro ⟨apart,unjoined,p,c,source,target,exposed⟩
    have there (id : String) : after.contains id = g.contains id := by
      rw [Graph.contains,gains.components,Graph.contains]
    have answered : ∃ cyclic, after.hasCycle = .ok cyclic := by
      refine answers fun v stored => ?_
      rw [gains.values] at stored
      rw [there,there]
      rcases List.mem_append.mp stored with old | new
      · exact vouched.wiresEnd named v old
      · rw [List.mem_singleton.mp new]
        exact ⟨Table.contains_iff.mpr (Table.key_mem (Table.get?_iff.mp source)),
          Table.contains_iff.mpr (Table.key_mem (Table.get?_iff.mp target))⟩
    refine ⟨answered,⟨⟨p,source⟩,c,target⟩,fun p' c' first second => ?_,apart,unjoined⟩
    rw [source] at first
    rw [target] at second
    cases first
    cases second
    exact exposed

theorem connect_gains (new : g.nextId ∉ g.wires.keys) (ran : g.connect p c = (.ok id,after)) :
    g.Gains ⟨id,p,c,true⟩ after := by
  rcases g.connect_cases p c with ⟨f,refused⟩ | ⟨added,_⟩
  · rw [refused] at ran
    cases ran
  · rw [added] at ran
    cases ran
    exact ⟨rfl,rfl,new⟩

theorem connect_vouched (named : g.Named) (free : g.locked = false) (vouched : g.Vouched)
    (gains : g.Gains w after) :
    (∃ id, (g.connect w.producer w.consumer).1 = .ok id) ↔ after.Vouched := by
  rw [gains.vouched named vouched,connect_made,checkConnect_iff]
  simp only [free,true_and]

-- The fifth check finds a cycle where there was one or where the new wire closes one.
theorem Gains.returns (gains : g.Gains w after) {cyclic : Bool}
    (answered : after.hasCycle = .ok cyclic) :
    cyclic = true ↔ (∃ wires, g.Tour wires) ∨ ReflTransGen g.Joins w.consumer w.producer := by
  rw [answer_exact answered,gains.joins,withPair_returns,tour_exact]

-- The last line of a report says whether there is a cycle.
theorem acyclic_line (g : Graph) (cyclic : Bool) : ∃ line, (g.checkAcyclic cyclic).lines = [line] ∧
    (line.startsWith "ERR: Cycle detected in the graph" = true ↔ cyclic = true) ∧
    (line = "OK: Graph is acyclic." ↔ cyclic = false) := by
  cases cyclic with
  | false =>
    refine ⟨"OK: Graph is acyclic.",rfl,?_,by simp⟩
    decide +kernel
  | true =>
    refine ⟨"ERR: " ++ g.cycleComplaint,rfl,?_,?_⟩
    · rw [String.startsWith_string_iff,cycleComplaint]
      split <;> simp
    · simp only [Bool.true_eq_false,iff_false]
      intro same
      have chars := congrArg String.toList same
      simp at chars

theorem connect_exact (named : g.Named) (free : g.locked = false) (vouched : g.Vouched)
    (p c : String) :
    (∀ w after, w.producer = p → w.consumer = c → g.Gains w after →
      ((∃ id, (g.connect p c).1 = .ok id) ↔ after.Vouched)) ∧
    (g.nextId ∉ g.wires.keys → ∀ id after, g.connect p c = (.ok id,after) →
      g.Gains ⟨id,p,c,true⟩ after ∧ ∃ r line, after.report = .ok r ∧
        r.messages = goodLines ++ [line] ∧
        (line.startsWith "ERR: Cycle detected in the graph" = true ↔
          (∃ wires, g.Tour wires) ∨ ReflTransGen g.Joins c p) ∧
        (line = "OK: Graph is acyclic." ↔
          ¬((∃ wires, g.Tour wires) ∨ ReflTransGen g.Joins c p))) := by
  refine ⟨?_,?_⟩
  · rintro w after rfl rfl gains
    exact connect_vouched named free vouched gains
  · intro new id after ran
    have gains := connect_gains new ran
    have content : after.Vouched := (connect_vouched named free vouched gains).mp ⟨id,by rw [ran]⟩
    obtain ⟨⟨cyclic,answered⟩,names,ends,ports,pairs⟩ := vouched_iff.mp content
    obtain ⟨r,reported,messages⟩ :=
      vouched_lines answered (by simp [staticChecks,names,ends,ports,pairs])
    obtain ⟨line,last,bad,good⟩ := after.acyclic_line cyclic
    have returns := gains.returns answered
    refine ⟨gains,r,line,reported,last ▸ messages,bad.trans returns,good.trans ?_⟩
    rw [← returns,Bool.not_eq_true]

-- Two wires in a row, which a third can close to a round.
def chained : Graph := restore
  { components := [{ id := "a", factory := "filter", name := "A", role := .both },
      { id := "b", factory := "filter", name := "B", role := .both },
      { id := "c", factory := "filter", name := "C", role := .both }]
    wires := [⟨"u","a","b",false⟩,⟨"v","b","c",true⟩] } [] 0

theorem chained_guarded :
    chained.Named ∧ chained.locked = false ∧ chained.Vouched ∧
      chained.nextId ∉ chained.wires.keys ∧
      (∀ w after, w.producer = "a" → w.consumer = "b" → chained.Gains w after → ¬after.Vouched) ∧
      ∃ id after r line, chained.connect "c" "a" = (.ok id,after) ∧ after.Vouched ∧
        after.report = .ok r ∧ r.messages = goodLines ++ [line] ∧
        line.startsWith "ERR: Cycle detected in the graph" = true := by
  have named : chained.Named := by unfold Named; decide +kernel
  have vouched : chained.Vouched := vouched_iff.mpr ⟨⟨false,by decide +kernel⟩,by decide +kernel,
    by decide +kernel,by decide +kernel,by decide +kernel⟩
  have new : chained.nextId ∉ chained.wires.keys := by decide +kernel
  have leads : ReflTransGen chained.Joins "a" "c" := by
    refine .tail (.single ⟨⟨"u","a","b",false⟩,?_,rfl,rfl⟩) ⟨⟨"v","b","c",true⟩,?_,rfl,rfl⟩
    · decide +kernel
    · decide +kernel
  obtain ⟨parallel,_⟩ := connect_exact named rfl vouched "a" "b"
  obtain ⟨closing,gained⟩ := connect_exact named rfl vouched "c" "a"
  have made : chained.connect "c" "a" = (.ok "id-1",chained.connected "c" "a") := by decide +kernel
  obtain ⟨gains,r,line,reported,messages,cycle,_⟩ := gained new _ _ made
  refine ⟨named,rfl,vouched,new,?_,"id-1",_,r,line,made,?_,reported,messages,cycle.mpr (.inr leads)⟩
  · intro w after starts ends gains content
    obtain ⟨id,made⟩ := (parallel w after starts ends gains).mpr content
    have refused : (chained.connect "a" "b").1 = .error (.duplicateWire "a" "b") := by
      decide +kernel
    rw [refused] at made
    cases made
  · exact (closing _ _ rfl rfl gains).mp ⟨_,by rw [made]⟩

-- A component whose id was changed by hand; the graph still has it under the old one.
def relabelled : Graph :=
  ((restore
    { components := [{ id := "a", factory := "timer", name := "A", role := .producer },
        { id := "b", factory := "logger", name := "B", role := .consumer }] } [] 0).amendComponent
    "a" [.id "z"]).2

-- The guard finds it there and lets the wire in, and the report misses the wire's producer.
theorem relabelled_unguarded :
    relabelled.locked = false ∧ relabelled.Vouched ∧
      ∃ w after, w.producer = "a" ∧ w.consumer = "b" ∧ relabelled.Gains w after ∧
        relabelled.connect "a" "b" = (.ok w.id,after) ∧
        ¬((∃ id, (relabelled.connect "a" "b").1 = .ok id) ↔ after.Vouched) := by
  have made : relabelled.connect "a" "b" = (.ok "id-1",relabelled.connected "a" "b") := by
    decide +kernel
  have gains := connect_gains (by decide +kernel) made
  have vouched : relabelled.Vouched := vouched_iff.mpr ⟨⟨false,by decide +kernel⟩,by decide +kernel,
    by decide +kernel,by decide +kernel,by decide +kernel⟩
  refine ⟨by decide +kernel,vouched,⟨"id-1","a","b",true⟩,_,rfl,rfl,gains,made,?_⟩
  intro agree
  have content := agree.mp ⟨"id-1",by rw [made]⟩
  obtain ⟨_,_,ends,_⟩ := vouched_iff.mp content
  have missed : (relabelled.connected "a" "b").checkEnds.passes = false := by decide +kernel
  rw [missed] at ends
  cases ends

end Graph

end WireGraph
