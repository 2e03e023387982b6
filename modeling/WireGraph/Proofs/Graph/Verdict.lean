import WireGraph.Proofs.Cycle.Search
import WireGraph.Proofs.Graph.Passage
import WireGraph.Proofs.Graph.Report

/-!
# The lines of a report

What the lines of a report say and where they come from. Main statements: the report on a restored
graph is good exactly when the graph is sound, and then each check says so in one line of its own;
a wire that ends nowhere has its line in every report, but one that starts nowhere leaves no report
at all.
-/

namespace WireGraph
open Relation

-- A check that holds has its one line; one that does not has complaints only.
structure Finding.Tells (f : Finding) (holds : Prop) : Prop where
  good : holds → f.lines = ["OK: " ++ f.pass]
  bad : ¬holds → f.lines ≠ [] ∧ ∀ line ∈ f.lines, line.startsWith "ERR:" = true

namespace Finding
variable {f : Finding}

theorem lines_pass (passes : f.passes = true) : f.lines = ["OK: " ++ f.pass] :=
  if_pos (passes_iff.mp passes)

theorem lines_fail (fails : f.passes = false) : f.lines = f.complaints.map ("ERR: " ++ ·) := by
  refine if_neg fun none => ?_
  rw [passes_iff.mpr none] at fails
  cases fails

theorem good_line (text : String) : ("OK: " ++ text).startsWith "OK:" = true := by
  rw [String.startsWith_string_iff]
  simp

theorem good_no_error (text : String) : ("OK: " ++ text).startsWith "ERR:" = false := by
  rw [Bool.eq_false_iff,ne_eq,String.startsWith_string_iff]
  simp

theorem error_line (text : String) : ("ERR: " ++ text).startsWith "ERR:" = true := by
  rw [String.startsWith_string_iff]
  simp

theorem tells {holds : Prop} (exactly : f.passes = true ↔ holds) : f.Tells holds where
  good := fun h => lines_pass (exactly.mpr h)
  bad := fun no => by
    have fails : f.passes = false := by
      rw [Bool.eq_false_iff]
      exact fun passes => no (exactly.mp passes)
    have complains : f.complaints ≠ [] := by
      intro none
      rw [passes_iff.mpr none] at fails
      cases fails
    rw [lines_fail fails]
    refine ⟨by simpa using complains,?_⟩
    intro line member
    obtain ⟨text,_,rfl⟩ := List.mem_map.mp member
    exact error_line text

theorem passes_quiet : f.passes = true ↔ ∀ line ∈ f.lines, line.startsWith "ERR:" = false := by
  have told : f.Tells (f.passes = true) := tells Iff.rfl
  constructor
  · intro passes line member
    rw [told.good passes,List.mem_singleton] at member
    rw [member]
    exact good_no_error f.pass
  · intro quiet
    by_contra fails
    obtain ⟨nonempty,errors⟩ := told.bad fails
    obtain ⟨line,member⟩ := List.exists_mem_of_ne_nil _ nonempty
    have silent := quiet line member
    rw [errors line member] at silent
    cases silent

theorem lines_errors (f : Finding) :
    f.lines.filter (·.startsWith "ERR:") = f.complaints.map ("ERR: " ++ ·) := by
  cases passes : f.passes with
  | true => simp [lines_pass passes,passes_iff.mp passes,good_no_error]
  | false =>
    rw [lines_fail passes,List.filter_eq_self]
    intro line member
    obtain ⟨text,_,rfl⟩ := List.mem_map.mp member
    exact error_line text

end Finding

namespace Graph
variable {g : Graph} {cyclic : Bool} {r : Report}

-- What a report on a restored graph vouches for.
structure Sound (g : Graph) : Prop where
  names : (g.components.values.map (·.name)).Nodup
  ports : ∀ w ∈ g.wires.values, ∃ p ∈ g.components.values, ∃ c ∈ g.components.values,
    p.id = w.producer ∧ c.id = w.consumer ∧ p.role.hasOutput = true ∧ c.role.hasInput = true
  apart : ∀ w ∈ g.wires.values, w.producer ≠ w.consumer
  pairs : (g.wires.values.map fun w => (w.producer,w.consumer)).Nodup
  acyclic : ¬∃ wires, g.Tour wires

-- The wires with an end that no component has as its id.
def openWires (g : Graph) : List Wire :=
  g.wires.values.filter fun w => !(g.hasRecord w.producer && g.hasRecord w.consumer)

def openLine (producer consumer : String) : String :=
  "ERR: " ++ ("Wire " ++ producer ++ "->" ++ consumer ++ " references missing component(s).")

-- The wires that loop back, and those that join a pair which an earlier wire joins already.
def repeatedWires (g : Graph) : List Wire :=
  (g.wires.values.zipIdx.filter fun e => decide (e.1.producer = e.1.consumer ∨
    ∃ v ∈ g.wires.values.take e.2, v.producer = e.1.producer ∧ v.consumer = e.1.consumer)).map (·.1)

def repeatedLine (g : Graph) (w : Wire) : String :=
  "ERR: " ++
    (if w.producer = w.consumer then
      "Wire " ++ w.id ++ " loops " ++ g.label w.producer ++ " back to itself."
    else "Duplicate wire " ++ g.label w.producer ++ "->" ++ g.label w.consumer ++ ".")

theorem report_parts (reported : g.report = .ok r) : ∃ cyclic, g.hasCycle = .ok cyclic ∧
    r = ⟨(g.staticChecks ++ [g.checkAcyclic cyclic]).all (·.passes),
      (g.staticChecks ++ [g.checkAcyclic cyclic]).flatMap (·.lines)⟩ := by
  unfold report at reported
  split at reported
  · cases reported
  · rename_i cyclic answered
    cases reported
    exact ⟨cyclic,answered,rfl⟩

theorem good_quiet (fs : List Finding) : fs.all (·.passes) = true ↔
    ∀ line ∈ fs.flatMap (·.lines), line.startsWith "ERR:" = false := by
  rw [List.all_eq_true]
  constructor
  · intro pass line member
    obtain ⟨f,listed,member⟩ := List.mem_flatMap.mp member
    exact Finding.passes_quiet.mp (pass f listed) line member
  · intro quiet f listed
    refine Finding.passes_quiet.mpr fun line member => ?_
    exact quiet line (List.mem_flatMap.mpr ⟨f,listed,member⟩)

-- A check that passes has one line, so a good report has one for each check.
theorem good_lines {fs : List Finding} (good : fs.all (·.passes) = true) :
    fs.flatMap (·.lines) = fs.map ("OK: " ++ ·.pass) := by
  induction fs with
  | nil => rfl
  | cons f rest ih =>
    rw [List.all_cons,Bool.and_eq_true] at good
    rw [List.flatMap_cons,Finding.lines_pass good.1,ih good.2]
    rfl

-- `before` are the wires that were looked at, and `seen` their pairs.
theorem pairComplaints_lines (g : Graph) (before : List Wire) (seen : List Edge)
    (known : ∀ pair, pair ∈ seen ↔ pair ∈ before.map fun w => (w.producer,w.consumer))
    (ws : List Wire) :
    (g.pairComplaints seen ws).map ("ERR: " ++ ·) =
      (((ws.zipIdx before.length).filter fun e => decide (e.1.producer = e.1.consumer ∨
        ∃ v ∈ (before ++ ws).take e.2, v.producer = e.1.producer ∧ v.consumer = e.1.consumer)).map
          (·.1)).map g.repeatedLine := by
  induction ws generalizing before seen with
  | nil => rfl
  | cons w rest ih =>
    have later := ih (before ++ [w]) ((w.producer,w.consumer) :: seen) (by
      intro pair
      rw [List.mem_cons,known pair,List.map_append,List.mem_append]
      exact or_comm.trans (by simp))
    rw [List.append_assoc,List.singleton_append,List.length_append,List.length_singleton] at later
    have taken : (before ++ w :: rest).take before.length = before := List.take_left' rfl
    have earlier : (w.producer,w.consumer) ∈ seen ↔
        ∃ v ∈ before, v.producer = w.producer ∧ v.consumer = w.consumer := by
      rw [known,List.mem_map]
      simp
    rw [pairComplaints,List.map_append,later,List.zipIdx_cons,List.filter_cons]
    by_cases loops : w.producer = w.consumer
    · simp [loops,repeatedLine]
    · by_cases again : (w.producer,w.consumer) ∈ seen
      · have hit := earlier.mp again
        simp only [loops,again,taken,hit,repeatedLine,List.contains_iff_mem,if_true,if_false,
          or_true,decide_true,List.map_cons,List.map_nil,List.singleton_append]
      · have miss := mt earlier.mpr again
        simp only [loops,again,taken,miss,List.contains_iff_mem,if_false,or_self,decide_false,
          List.map_nil,List.nil_append,Bool.false_eq_true]

theorem checkPairs_errors (g : Graph) : g.checkPairs.lines.filter (·.startsWith "ERR:") =
    g.repeatedWires.map g.repeatedLine := by
  rw [Finding.lines_errors]
  exact pairComplaints_lines g [] [] (by simp) g.wires.values

/-! ## Restored graphs -/

theorem checkPorts_ends (keyed : g.Keyed) (ends : g.WiresEnd) : g.checkPorts.passes = true ↔
    ∀ w ∈ g.wires.values, ∃ p ∈ g.components.values, ∃ c ∈ g.components.values,
      p.id = w.producer ∧ c.id = w.consumer ∧ p.role.hasOutput = true ∧ c.role.hasInput = true := by
  have distinct : (g.components.values.map (·.id)).Nodup :=
    keyed.component_ids ▸ g.components.keys_nodup
  rw [checkPorts_passes]
  refine forall₂_congr fun w stored => ?_
  obtain ⟨starts,stops⟩ := ends w stored
  obtain ⟨p,producer,source⟩ := List.mem_map.mp (keyed.contains_iff.mp starts)
  obtain ⟨c,consumer,target⟩ := List.mem_map.mp (keyed.contains_iff.mp stops)
  constructor
  · intro ports
    have exposed := ports p c (source ▸ recordWithId_eq distinct producer)
      (target ▸ recordWithId_eq distinct consumer)
    exact ⟨p,producer,c,consumer,source,target,exposed⟩
  · rintro ⟨p',producer',c',consumer',source',target',ports⟩ p'' c'' first second
    rw [← source',recordWithId_eq distinct producer'] at first
    rw [← target',recordWithId_eq distinct consumer'] at second
    cases first
    cases second
    exact ports

theorem checkEnds_ends (keyed : g.Keyed) (ends : g.WiresEnd) : g.checkEnds.passes = true := by
  refine checkEnds_passes.mpr fun w stored => ?_
  obtain ⟨producer,consumer⟩ := ends w stored
  exact ⟨keyed.contains_iff.mp producer,keyed.contains_iff.mp consumer⟩

theorem acyclic_iff (answered : g.hasCycle = .ok cyclic) :
    (g.checkAcyclic cyclic).passes = true ↔ ¬∃ wires, g.Tour wires := by
  rw [checkAcyclic_passes,← Bool.not_eq_true,answer_exact answered,g.tour_exact]

-- A check is good exactly when the graph is as it should be in its respect.
theorem restored_report (t : Topology) (driverFactories : List String) (drawn : Nat)
    (supply : List String) :
    let g := restore t driverFactories drawn supply
    ∃ r cyclic, g.report = .ok r ∧ g.hasCycle = .ok cyclic ∧
      (r.ok = true ↔ g.Sound) ∧
      (r.ok = true ↔ ∀ line ∈ r.messages, line.startsWith "ERR:" = false) ∧
      (r.ok = true → r.messages.length = 5 ∧ ∀ line ∈ r.messages, line.startsWith "OK:" = true) ∧
      r.messages = g.checkNames.lines ++ g.checkEnds.lines ++ g.checkPorts.lines ++
        g.checkPairs.lines ++ (g.checkAcyclic cyclic).lines ∧
      g.checkNames.Tells (g.components.values.map (·.name)).Nodup ∧
      g.checkEnds.Tells (∀ w ∈ g.wires.values, w.producer ∈ g.components.values.map (·.id) ∧
        w.consumer ∈ g.components.values.map (·.id)) ∧
      g.checkPorts.Tells (∀ w ∈ g.wires.values, ∃ p ∈ g.components.values,
        ∃ c ∈ g.components.values, p.id = w.producer ∧ c.id = w.consumer ∧
          p.role.hasOutput = true ∧ c.role.hasInput = true) ∧
      g.checkPairs.Tells ((∀ w ∈ g.wires.values, w.producer ≠ w.consumer) ∧
        (g.wires.values.map fun w => (w.producer,w.consumer)).Nodup) ∧
      (g.checkAcyclic cyclic).Tells (¬∃ wires, g.Tour wires) ∧
      g.checkPairs.lines.filter (·.startsWith "ERR:") = g.repeatedWires.map g.repeatedLine := by
  intro g
  have keyed : g.Keyed := restore_keyed t driverFactories drawn supply
  have ends : g.WiresEnd := restore_wiresEnd t driverFactories drawn supply
  obtain ⟨cyclic,answered⟩ := answers ends
  obtain ⟨r,reported,_⟩ := report_ok answered
  obtain ⟨cyclic',answered',parts⟩ := report_parts reported
  rw [answered] at answered'
  cases answered'
  have ports := checkPorts_ends keyed ends
  have acyclic := acyclic_iff answered
  refine ⟨r,cyclic,reported,answered,?_,?_,?_,?_,Finding.tells checkNames_passes,
    Finding.tells checkEnds_passes,Finding.tells ports,Finding.tells checkPairs_passes,
    Finding.tells acyclic,g.checkPairs_errors⟩
  · have holds := checkEnds_ends keyed ends
    rw [parts]
    simp only [staticChecks,List.cons_append,List.nil_append,List.all_cons,List.all_nil,
      Bool.and_true,Bool.and_eq_true,checkNames_passes,holds,ports,checkPairs_passes,acyclic,true_and]
    constructor
    · rintro ⟨names,joined,⟨apart,pairs⟩,round⟩
      exact ⟨names,joined,apart,pairs,round⟩
    · rintro ⟨names,joined,apart,pairs,round⟩
      exact ⟨names,joined,⟨apart,pairs⟩,round⟩
  · rw [parts]
    exact good_quiet _
  · intro good
    rw [parts] at good ⊢
    rw [good_lines good]
    refine ⟨rfl,fun line member => ?_⟩
    obtain ⟨f,_,rfl⟩ := List.mem_map.mp member
    exact Finding.good_line f.pass
  · rw [parts]
    simp [staticChecks,List.append_assoc]

-- All five checks have something to say of it: two names alike, a consumer that feeds, a loop, a
-- wire with a parallel, and a way round. The wire to `z` is stale.
def tangle : Topology where
  components := [{ id := "a", factory := "timer", name := "A", role := .both },
    { id := "b", factory := "timer", name := "B", role := .both },
    { id := "c", factory := "logger", name := "A", role := .consumer }]
  wires := [⟨"1","a","b",true⟩,⟨"2","b","a",true⟩,⟨"3","a","b",false⟩,⟨"4","b","b",true⟩,
    ⟨"5","b","b",true⟩,⟨"6","c","a",true⟩,⟨"7","a","z",true⟩]

theorem tangle_report :
    let g := restore tangle [] 0
    ¬g.Sound ∧ g.repeatedWires = [⟨"3","a","b",false⟩,⟨"4","b","b",true⟩,⟨"5","b","b",true⟩] ∧
      ∃ r, g.report = .ok r ∧ r.ok = false ∧
        g.checkPairs.lines.filter (·.startsWith "ERR:") =
          ["ERR: Duplicate wire A->B.","ERR: Wire 4 loops B back to itself.",
            "ERR: Wire 5 loops B back to itself."] := by
  intro g
  obtain ⟨r,_,reported,_,sound,_,_,_,_,_,_,_,_,errors⟩ := restored_report tangle [] 0 []
  have unsound : ¬g.Sound := fun holds => absurd holds.names (by decide +kernel)
  have repeated : g.repeatedWires =
      [⟨"3","a","b",false⟩,⟨"4","b","b",true⟩,⟨"5","b","b",true⟩] := by decide +kernel
  refine ⟨unsound,repeated,r,reported,?_,?_⟩
  · rw [Bool.eq_false_iff,ne_eq,sound]
    exact unsound
  · rw [errors,repeated]
    decide +kernel

/-! ## Wires that end or start nowhere -/

def OpenLine (line : String) : Prop := ∃ producer consumer, line = openLine producer consumer

theorem good_closed (text : String) : ¬OpenLine ("OK: " ++ text) := by
  rintro ⟨producer,consumer,same⟩
  have chars := congrArg String.toList same
  simp [openLine] at chars

-- A complaint that begins or ends otherwise is not about an end of a wire.
theorem other_closed {text : String}
    (other : text.toList.head? ≠ some 'W' ∨ text.toList.reverse.take 2 ≠ ['.',')']) :
    ¬OpenLine ("ERR: " ++ text) := by
  rintro ⟨producer,consumer,same⟩
  rw [openLine,String.append_right_inj] at same
  subst same
  rcases other with first | last
  · simp at first
  · simp at last

theorem lines_closed {f : Finding} (other : ∀ text ∈ f.complaints,
      text.toList.head? ≠ some 'W' ∨ text.toList.reverse.take 2 ≠ ['.',')']) :
    ∀ line ∈ f.lines, ¬OpenLine line := by
  intro line member
  cases passes : f.passes with
  | true =>
    rw [Finding.lines_pass passes,List.mem_singleton] at member
    rw [member]
    exact good_closed f.pass
  | false =>
    rw [Finding.lines_fail passes] at member
    obtain ⟨text,complaint,rfl⟩ := List.mem_map.mp member
    exact other_closed (other text complaint)

theorem checkNames_closed (g : Graph) : ∀ line ∈ g.checkNames.lines, ¬OpenLine line := by
  refine lines_closed fun text complaint => .inl ?_
  unfold checkNames at complaint
  split at complaint
  · cases complaint
  · rw [List.mem_singleton.mp complaint]
    simp

theorem checkPorts_closed (g : Graph) : ∀ line ∈ g.checkPorts.lines, ¬OpenLine line := by
  refine lines_closed fun text complaint => .inr ?_
  obtain ⟨w,_,complaint⟩ := List.mem_flatMap.mp complaint
  unfold portComplaints at complaint
  split at complaint
  · rcases List.mem_append.mp complaint with out | into
    · split at out
      · cases out
      · rw [List.mem_singleton.mp out]
        simp
    · split at into
      · cases into
      · rw [List.mem_singleton.mp into]
        simp
  · cases complaint

theorem pairComplaints_closed (seen : List Edge) (ws : List Wire) :
    ∀ text ∈ g.pairComplaints seen ws,
      text.toList.head? ≠ some 'W' ∨ text.toList.reverse.take 2 ≠ ['.',')'] := by
  induction ws generalizing seen with
  | nil => intro text none; cases none
  | cons w rest ih =>
    intro text complaint
    rw [pairComplaints] at complaint
    rcases List.mem_append.mp complaint with here | later
    · split at here
      · rw [List.mem_singleton.mp here]
        exact .inr (by simp)
      · split at here
        · rw [List.mem_singleton.mp here]
          exact .inl (by simp)
        · cases here
    · exact ih _ text later

theorem checkAcyclic_closed (g : Graph) (cyclic : Bool) :
    ∀ line ∈ (g.checkAcyclic cyclic).lines, ¬OpenLine line := by
  refine lines_closed fun text complaint => .inl ?_
  unfold checkAcyclic at complaint
  dsimp only at complaint
  split at complaint
  · rw [List.mem_singleton.mp complaint,cycleComplaint]
    split <;> simp
  · cases complaint

-- The second check names the wires without two ends, and says nothing of others.
theorem checkEnds_lines (g : Graph) : ∃ rest, (∀ line ∈ rest, ¬OpenLine line) ∧
    g.checkEnds.lines = (g.openWires.map fun w => openLine w.producer w.consumer) ++ rest := by
  have complaints : g.checkEnds.complaints.map ("ERR: " ++ ·) =
      g.openWires.map fun w => openLine w.producer w.consumer := List.map_map
  rw [← complaints]
  cases passes : g.checkEnds.passes with
  | true =>
    refine ⟨["OK: " ++ g.checkEnds.pass],?_,?_⟩
    · intro line member
      rw [List.mem_singleton.mp member]
      exact good_closed _
    · rw [Finding.lines_pass passes,Finding.passes_iff.mp passes]
      rfl
  | false => exact ⟨[],by simp,by rw [Finding.lines_fail passes,List.append_nil]⟩

theorem openWires_bad (reported : g.report = .ok r) (some_ : g.openWires ≠ []) : r.ok = false := by
  obtain ⟨cyclic,_,rfl⟩ := report_parts reported
  have fails : g.checkEnds.passes ≠ true := by
    intro passes
    exact some_ (List.map_eq_nil_iff.mp (Finding.passes_iff.mp passes))
  simp [staticChecks,fails]

theorem report_error {fault : Fault} : g.report = .error fault ↔
    ∃ id, g.danglingProducer? = some id ∧ fault = .danglingId id := by
  unfold report hasCycle
  cases g.danglingProducer? with
  | none => simp
  | some id => simp [eq_comm]

theorem report_fails : (∃ fault, g.report = .error fault) ↔
    ∃ w ∈ g.wires.values, g.contains w.producer = false := by
  have first : (∃ w, g.wires.values.find? (fun w => !g.contains w.producer) = some w) ↔
      ∃ w ∈ g.wires.values, g.contains w.producer = false := by
    rw [← Option.isSome_iff_exists,List.find?_isSome]
    simp
  rw [← first]
  simp [report_error,danglingProducer?]

-- A wire that starts at no component stops the search for a cycle, and with it the report, although
-- all checks before it pass over such a wire.
theorem report_open (g : Graph) :
    ((∃ fault, g.report = .error fault) ↔ ∃ w ∈ g.wires.values, g.contains w.producer = false) ∧
      (∀ fault, g.report = .error fault →
        ∃ id, g.danglingProducer? = some id ∧ fault = .danglingId id) ∧
      ∀ r, g.report = .ok r → (g.openWires ≠ [] → r.ok = false) ∧
        ∃ before after, (∀ line ∈ before ++ after, ¬OpenLine line) ∧
          r.messages = before ++ (g.openWires.map fun w => openLine w.producer w.consumer) ++ after := by
  refine ⟨report_fails,fun _ => report_error.mp,fun r reported => ⟨openWires_bad reported,?_⟩⟩
  obtain ⟨cyclic,_,rfl⟩ := report_parts reported
  obtain ⟨rest,closed,ends⟩ := g.checkEnds_lines
  refine ⟨g.checkNames.lines,
    rest ++ g.checkPorts.lines ++ g.checkPairs.lines ++ (g.checkAcyclic cyclic).lines,?_,?_⟩
  · have pairs : ∀ line ∈ g.checkPairs.lines, ¬OpenLine line :=
      lines_closed (pairComplaints_closed [] g.wires.values)
    simp only [List.forall_mem_append]
    exact ⟨g.checkNames_closed,⟨⟨closed,g.checkPorts_closed⟩,pairs⟩,g.checkAcyclic_closed cyclic⟩
  · simp [staticChecks,ends,List.append_assoc]

-- A wire between two components whose record was changed by hand.
def strayed (change : WireChange) : Graph :=
  ((restore
    { components := [{ id := "a", factory := "timer", name := "A", role := .producer },
        { id := "b", factory := "logger", name := "B", role := .consumer }]
      wires := [⟨"w","a","b",true⟩] } [] 0).amendWire "w" [change]).2

theorem strayed_consumer :
    let g := strayed (.consumer "ghost")
    (∀ w ∈ g.wires.values, g.contains w.producer = true) ∧ g.openWires = [⟨"w","a","ghost",true⟩] ∧
      ∃ r, g.report = .ok r ∧ r.ok = false ∧
        r.messages.count "ERR: Wire a->ghost references missing component(s)." = 1 := by
  intro g
  have starts : ∀ w ∈ g.wires.values, g.contains w.producer = true := by decide +kernel
  have found : g.openWires = [⟨"w","a","ghost",true⟩] := by decide +kernel
  obtain ⟨fails,_,lines⟩ := report_open g
  cases reported : g.report with
  | error fault =>
    obtain ⟨w,stored,lost⟩ := fails.mp ⟨fault,reported⟩
    rw [starts w stored] at lost
    cases lost
  | ok r =>
    obtain ⟨bad,before,after,closed,messages⟩ := lines r reported
    refine ⟨starts,found,r,rfl,bad (by simp [found]),?_⟩
    have others : (before ++ after).count "ERR: Wire a->ghost references missing component(s)." = 0 :=
      List.count_eq_zero.mpr fun member => closed _ member ⟨"a","ghost",by decide +kernel⟩
    have line : openLine "a" "ghost" = "ERR: Wire a->ghost references missing component(s)." := by
      decide +kernel
    rw [List.count_append] at others
    rw [messages,found,List.map_singleton,line,List.count_append,List.count_append,
      List.count_singleton_self]
    omega

-- The same wire without a producer is owed a line, and there is no report to hold it.
theorem strayed_producer :
    let g := strayed (.producer "ghost")
    g.openWires = [⟨"w","ghost","b",true⟩] ∧ g.report = .error (.danglingId "ghost") ∧
      ¬∃ r, g.report = .ok r := by
  intro g
  have stopped : g.report = .error (.danglingId "ghost") := by decide +kernel
  refine ⟨by decide +kernel,stopped,?_⟩
  rintro ⟨r,reported⟩
  rw [stopped] at reported
  cases reported

end Graph

end WireGraph
