import Mathlib.Data.List.Induction
import WireGraph.Files

/-!
# Files that are written and read

What a tree must be like for a path to be writable: the names fit, no file stands on the way, and no
directory at its end. Main statements: a text that was written to a path is what stands there; saving
makes exactly the directories that are missing on the way to a writable path, and the file there then
holds the text, or the part of it that the disk took; every other file stays as it was; and a path
that is not writable is refused with all files as they were.
-/

namespace WireGraph

namespace Path
variable {here way : List String} {name : String}

-- The place that a way leads to from the directory `here`.
def reached (here : List String) : List String → List String
  | [] => here
  | name :: rest =>
    if name = upName then reached (above here) rest else reached (here ++ [name]) rest

-- The places that a way enters by their names, in order; a step up leads back to one known before.
def entered (here : List String) : List String → List (List String)
  | [] => []
  | name :: rest =>
    if name = upName then entered (above here) rest
    else (here ++ [name]) :: entered (here ++ [name]) rest

def place (p : Path) : List String := reached p.base p.names

theorem reached_concat (other : name ≠ upName) :
    reached here (way ++ [name]) = reached here way ++ [name] := by
  induction way generalizing here with
  | nil => rw [List.nil_append,reached,reached,if_neg other,reached]
  | cons first rest ih =>
    rw [List.cons_append,reached,reached]
    split <;> exact ih

theorem place_concat {p : Path} (names : p.names = way ++ [name]) (other : name ≠ upName) :
    p.place = reached p.base way ++ [name] := by
  rw [place,names,reached_concat other]

theorem entered_append (way more : List String) :
    entered here (way ++ more) = entered here way ++ entered (reached here way) more := by
  induction way generalizing here with
  | nil => rfl
  | cons first rest ih =>
    rw [List.cons_append,entered,entered,reached]
    split
    · exact ih
    · rw [ih,List.cons_append]

-- The text of a path is no shorter for one name more at its end.
theorem intercalate_concat (names : List String) (name : String) :
    Text.byteLength ("/".intercalate names) ≤ Text.byteLength ("/".intercalate (names ++ [name])) := by
  simp only [Text.byteLength]
  induction names with
  | nil => simp
  | cons first rest ih =>
    cases rest with
    | nil =>
      simp only [List.cons_append,List.nil_append,String.intercalate_cons_cons,
        String.intercalate_singleton,String.utf8ByteSize_append]
      omega
    | cons second rest =>
      simp only [List.cons_append,String.intercalate_cons_cons,String.utf8ByteSize_append] at ih ⊢
      omega

theorem text_short {rooted : Bool}
    (short : Text.byteLength (text { rooted, names := way ++ [name] }) < byteLimit) :
    Text.byteLength (text { rooted, names := way }) < byteLimit := by
  have shorter := intercalate_concat way name
  simp only [text,Text.byteLength] at short shorter ⊢
  cases rooted with
  | true =>
    simp only [if_true,String.utf8ByteSize_append] at short ⊢
    omega
  | false =>
    rw [if_neg Bool.false_ne_true] at short ⊢
    by_cases none : way = []
    · rw [if_pos none]
      decide
    · rw [if_neg none]
      rw [if_neg (by simp)] at short
      omega

end Path

namespace FileTree
variable {t t' : FileTree} {names here way : List String} {name text : String} {path : Path}

/-! ## Ways through a tree -/

-- A way can be gone once the directories missing on it are made: every name fits, and no file stands
-- in it.
structure Passable (t : FileTree) (here way : List String) : Prop where
  fits : ∀ name ∈ way, Text.byteLength name ≤ Path.nameByteLimit
  clear : ∀ place ∈ Path.entered here way, t.hasDirectory place = true ∨ t.file? place = none

theorem up_fits : Text.byteLength Path.upName ≤ Path.nameByteLimit := by decide

theorem passable_append {more : List String} : t.Passable here (way ++ more) ↔
    t.Passable here way ∧ t.Passable (Path.reached here way) more := by
  constructor
  · intro passable
    refine ⟨⟨fun name member => ?_,fun place member => ?_⟩,
      ⟨fun name member => ?_,fun place member => ?_⟩⟩
    · exact passable.fits name (List.mem_append_left _ member)
    · refine passable.clear place ?_
      rw [Path.entered_append]
      exact List.mem_append_left _ member
    · exact passable.fits name (List.mem_append_right _ member)
    · refine passable.clear place ?_
      rw [Path.entered_append]
      exact List.mem_append_right _ member
  · intro ⟨first,last⟩
    refine ⟨fun name member => ?_,fun place member => ?_⟩
    · exact (List.mem_append.mp member).elim (first.fits name) (last.fits name)
    · rw [Path.entered_append] at member
      exact (List.mem_append.mp member).elim (first.clear place) (last.clear place)

-- A way leads to a directory exactly when it enters directories only.
theorem follow_directory : t.follow here way = .directory ↔
    (∀ name ∈ way, Text.byteLength name ≤ Path.nameByteLimit) ∧
      ∀ place ∈ Path.entered here way, t.hasDirectory place = true := by
  induction way generalizing here with
  | nil => simp [follow,Path.entered]
  | cons name rest ih =>
    rw [follow,Path.entered]
    by_cases up : name = Path.upName
    · rw [if_pos up,if_pos up,ih,List.forall_mem_cons]
      have fits : Text.byteLength name ≤ Path.nameByteLimit := up ▸ up_fits
      simp only [fits,true_and]
    rw [if_neg up,if_neg up,List.forall_mem_cons,List.forall_mem_cons]
    by_cases long : Path.nameByteLimit < Text.byteLength name
    · rw [if_pos long]
      simp [Nat.not_le.mpr long]
    rw [if_neg long]
    dsimp only
    by_cases directory : t.hasDirectory (here ++ [name]) = true
    · rw [if_pos directory,ih]
      simp only [Nat.not_lt.mp long,directory,true_and]
    · rw [if_neg directory]
      cases t.file? (here ++ [name]) <;> by_cases ends : rest = [] <;> simp [ends,directory]

-- The place of a file under these names, which may not be there yet.
def slot (names : List String) : Option String → Place
  | some text => .file names text
  | none => .vacant names

theorem follow_name (other : name ≠ Path.upName)
    (fits : Text.byteLength name ≤ Path.nameByteLimit)
    (free : t.hasDirectory (here ++ [name]) = false) :
    t.follow here [name] = slot (here ++ [name]) (t.file? (here ++ [name])) := by
  rw [follow,if_neg other,if_neg (Nat.not_lt.mpr fits)]
  dsimp only
  rw [free,if_neg Bool.false_ne_true]
  cases t.file? (here ++ [name]) <;> rfl

-- Beyond the end of a way a further name is looked for in the directory there.
theorem follow_concat : t.follow here (way ++ [name]) =
    match t.follow here way with
    | .directory => t.follow (Path.reached here way) [name]
    | .file _ _ => .behindFile
    | .vacant _ => .nowhere
    | blocked => blocked := by
  induction way generalizing here with
  | nil => rfl
  | cons first rest ih =>
    rw [List.cons_append,follow,follow,Path.reached]
    by_cases up : first = Path.upName
    · rw [if_pos up,if_pos up,if_pos up,ih]
    rw [if_neg up,if_neg up,if_neg up]
    by_cases long : Path.nameByteLimit < Text.byteLength first
    · rw [if_pos long,if_pos long]
    rw [if_neg long,if_neg long]
    dsimp only
    by_cases directory : t.hasDirectory (here ++ [first]) = true
    · rw [if_pos directory,if_pos directory,ih]
    rw [if_neg directory,if_neg directory]
    cases t.file? (here ++ [first]) <;> by_cases ends : rest = [] <;> simp [ends]

-- The end of a passable way is a directory, or nothing is there.
theorem Passable.ends (passable : t.Passable here way) : t.follow here way = .directory ∨
    (∃ names, t.follow here way = .vacant names) ∨ t.follow here way = .nowhere := by
  induction way generalizing here with
  | nil => exact .inl rfl
  | cons name rest ih =>
    obtain ⟨fits,clear⟩ := passable
    rw [follow]
    rw [Path.entered] at clear
    by_cases up : name = Path.upName
    · rw [if_pos up] at clear ⊢
      exact ih ⟨fun other member => fits other (.tail _ member),clear⟩
    rw [if_neg up] at clear ⊢
    rw [if_neg (Nat.not_lt.mpr (fits name (.head _)))]
    dsimp only
    by_cases directory : t.hasDirectory (here ++ [name]) = true
    · rw [if_pos directory]
      exact ih ⟨fun other member => fits other (.tail _ member),
        fun place member => clear place (.tail _ member)⟩
    · rw [if_neg directory]
      rw [(clear _ (.head _)).resolve_left directory]
      dsimp only
      split
      · exact .inr (.inl ⟨_,rfl⟩)
      · exact .inr (.inr rfl)

theorem passable_directory (there : t.follow here way = .directory) : t.Passable here way := by
  obtain ⟨fits,directories⟩ := follow_directory.mp there
  exact ⟨fits,fun place member => .inl (directories place member)⟩

-- What one name can lead to: a directory, a place that is free, or a place that bars the way.
theorem follow_single (t : FileTree) (here : List String) (name : String) :
    t.follow here [name] = .directory ∨
    (t.Passable here [name] ∧ Path.entered here [name] = [here ++ [name]] ∧
      t.follow here [name] = .vacant (here ++ [name])) ∨
    (¬t.Passable here [name] ∧ ((∃ names text, t.follow here [name] = .file names text) ∨
      t.follow here [name] = .tooLong)) := by
  by_cases other : name = Path.upName
  · refine .inl (follow_directory.mpr ⟨?_,?_⟩)
    · exact List.forall_mem_singleton.mpr (other ▸ up_fits)
    · rw [Path.entered,if_pos other,Path.entered]
      exact nofun
  have enters : Path.entered here [name] = [here ++ [name]] := by
    rw [Path.entered,if_neg other,Path.entered]
  by_cases fits : Text.byteLength name ≤ Path.nameByteLimit
  · cases directory : t.hasDirectory (here ++ [name]) with
    | true =>
      refine .inl (follow_directory.mpr ⟨List.forall_mem_singleton.mpr fits,?_⟩)
      rw [enters,List.forall_mem_singleton]
      exact directory
    | false =>
      have found := follow_name other fits directory
      cases file : t.file? (here ++ [name]) with
      | none =>
        rw [file] at found
        refine .inr (.inl ⟨⟨List.forall_mem_singleton.mpr fits,?_⟩,enters,found⟩)
        rw [enters,List.forall_mem_singleton]
        exact .inr file
      | some text =>
        rw [file] at found
        refine .inr (.inr ⟨fun passable => ?_,.inl ⟨_,text,found⟩⟩)
        have clear := passable.clear _ (enters ▸ List.mem_singleton_self _)
        rw [directory,file] at clear
        exact clear.elim nofun nofun
  · refine .inr (.inr ⟨fun passable => fits (passable.fits _ (List.mem_singleton_self _)),.inr ?_⟩)
    rw [follow,if_neg other,if_pos (Nat.not_le.mp fits)]

/-! ## Making directories -/

-- Directories at these places more, and nothing else.
structure Paves (t grown : FileTree) (places : List (List String)) : Prop where
  files : grown.files = t.files
  limits : grown.limits = t.limits
  directories : ∀ names, grown.hasDirectory names = true ↔
    t.hasDirectory names = true ∨ names ∈ places

theorem Paves.single (t : FileTree) (names : List String) :
    t.Paves { t with directories := t.directories ++ [names] } [names] := by
  refine ⟨rfl,rfl,fun place => ?_⟩
  simp [hasDirectory,or_assoc]

theorem Paves.trans {grown wider : FileTree} {places more : List (List String)}
    (first : t.Paves grown places) (then_ : grown.Paves wider more) :
    t.Paves wider (places ++ more) := by
  refine ⟨then_.files.trans first.files,then_.limits.trans first.limits,fun names => ?_⟩
  rw [then_.directories,first.directories,List.mem_append,or_assoc]

-- Where a way leads to a directory nothing is missing on it.
theorem Paves.there (found : t.follow here way = .directory) :
    t.Paves t (Path.entered here way) := by
  refine ⟨rfl,rfl,fun names => ⟨.inl,?_⟩⟩
  rintro (old | entered)
  · exact old
  · exact (follow_directory.mp found).2 names entered

theorem Paves.file {grown : FileTree} {places : List (List String)} (paves : t.Paves grown places)
    (names : List String) : grown.file? names = t.file? names := by
  rw [file?,file?,paves.files]

-- What was passable stays so, and nothing else becomes so, when the way up to there is made.
theorem Paves.passable {grown : FileTree} {more : List String}
    (paves : t.Paves grown (Path.entered here way)) (passable : t.Passable here way) :
    grown.Passable (Path.reached here way) more ↔ t.Passable (Path.reached here way) more := by
  have same : ∀ place, (grown.hasDirectory place = true ∨ grown.file? place = none) ↔
      (t.hasDirectory place = true ∨ t.file? place = none) := by
    intro place
    rw [paves.directories,paves.file]
    constructor
    · rintro ((old | entered) | free)
      · exact .inl old
      · exact passable.clear place entered
      · exact .inr free
    · exact Or.imp_left .inl
  exact ⟨fun ⟨fits,clear⟩ => ⟨fits,fun place member => (same place).mp (clear place member)⟩,
    fun ⟨fits,clear⟩ => ⟨fits,fun place member => (same place).mpr (clear place member)⟩⟩

theorem Paves.leads {grown : FileTree} (paves : t.Paves grown (Path.entered here way))
    (passable : t.Passable here way) : grown.follow here way = .directory :=
  follow_directory.mpr ⟨passable.fits,fun place entered => (paves.directories place).mpr (.inr entered)⟩

theorem locate_follow (short : Text.byteLength path.text < Path.byteLimit) :
    t.locate path = t.follow path.base path.names := by
  rw [locate,if_neg (Nat.not_le.mpr short)]

section Directories
variable {rooted : Bool}

theorem addDirectory_follow (nameable : Path.isUnnameable { rooted, names := way } = false)
    (short : Text.byteLength (Path.text { rooted, names := way }) < Path.byteLimit) :
    t.addDirectory { rooted, names := way } =
      match t.follow (Path.base { rooted }) way with
      | .directory => .error (.occupied { rooted, names := way })
      | .file _ _ => .error (.occupied { rooted, names := way })
      | .vacant names => .ok { t with directories := t.directories ++ [names] }
      | .behindFile => .error (.notDirectory { rooted, names := way })
      | .nowhere => .error (.missing { rooted, names := way })
      | .tooLong => .error (.nameTooLong { rooted, names := way }) := by
  have located : t.locate { rooted, names := way } = t.follow (Path.base { rooted }) way :=
    locate_follow short
  rw [← located]
  cases found : t.locate { rooted, names := way } <;> simp [addDirectory,nameable,found]

-- One more directory, where the directory that is to hold it is there.
theorem addOrKeep_exact
    (nameable : Path.isUnnameable { rooted, names := way ++ [name] } = false)
    (short : Text.byteLength (Path.text { rooted, names := way ++ [name] }) < Path.byteLimit)
    (parent : t.follow (Path.base { rooted }) way = .directory) :
    let path : Path := { rooted, names := way ++ [name] }
    let here := Path.reached (Path.base { rooted }) way
    (t.Passable here [name] → ∃ grown, t.addOrKeep path = (.ok (),grown) ∧
      t.Paves grown (Path.entered here [name])) ∧
    (¬t.Passable here [name] → ∃ e, t.addOrKeep path = (.error e,t)) := by
  intro path here
  have made : t.addDirectory path = _ := addDirectory_follow nameable short
  have found : t.locate path = t.follow (Path.base { rooted }) (way ++ [name]) := locate_follow short
  rw [follow_concat,parent] at made found
  dsimp only at made found
  have failed : ∀ e, t.follow here [name] ≠ .directory →
      t.addDirectory path = .error e → t.addOrKeep path = (.error e,t) := by
    intro e elsewhere refused
    rw [addOrKeep,refused]
    dsimp only
    rw [if_neg (found ▸ elsewhere)]
  rcases follow_single t here name with
    there | ⟨passable,enters,free⟩ | ⟨blocked,⟨names,text,file⟩ | long⟩
  · rw [there] at made found
    refine ⟨fun _ => ⟨t,?_,.there there⟩,fun blocked => absurd (passable_directory there) blocked⟩
    rw [addOrKeep,made]
    dsimp only
    rw [if_pos found]
  · rw [free] at made
    have paves := Paves.single t (here ++ [name])
    rw [← enters] at paves
    refine ⟨fun _ => ⟨_,?_,paves⟩,fun blocked => absurd passable blocked⟩
    rw [addOrKeep,made,enters]
  · rw [file] at made
    refine ⟨fun passable => absurd passable blocked,fun _ => ⟨_,failed _ ?_ made⟩⟩
    rw [file]
    exact nofun
  · rw [long] at made
    refine ⟨fun passable => absurd passable blocked,fun _ => ⟨_,failed _ ?_ made⟩⟩
    rw [long]
    exact nofun

theorem makeDirectory_nil : t.makeDirectory { rooted } = t.addOrKeep { rooted } := by
  rw [makeDirectory,List.reverse_nil,makeAlong.eq_def]
  dsimp only
  split
  · rename_i none
    cases none
  · rfl

theorem makeDirectory_concat : t.makeDirectory { rooted, names := way ++ [name] } =
    match t.addDirectory { rooted, names := way ++ [name] } with
    | .error (.missing _) =>
      match t.makeDirectory { rooted, names := way } with
      | (.ok (),grown) => grown.addOrKeep { rooted, names := way ++ [name] }
      | (.error e,left) => (.error e,left)
    | _ => t.addOrKeep { rooted, names := way ++ [name] } := by
  rw [makeDirectory,List.reverse_append,List.reverse_singleton,List.singleton_append,
    makeAlong.eq_def]
  simp only [List.reverse_cons,List.reverse_reverse]
  split
  · rename_i missing same
    cases same
    rw [missing]
    rfl
  · split
    · rename_i other _ _ missing
      exact absurd rfl (other _ _ _ missing)
    · rfl

theorem makeDirectory_refused {e : FileError}
    (refused : t.addDirectory { rooted, names := way ++ [name] } = .error e)
    (other : ∀ path, e ≠ .missing path)
    (elsewhere : t.locate { rooted, names := way ++ [name] } ≠ .directory) :
    t.makeDirectory { rooted, names := way ++ [name] } = (.error e,t) := by
  rw [makeDirectory_concat,refused]
  split
  · rename_i same
    cases same
    exact absurd rfl (other _)
  · rw [addOrKeep,refused]
    exact congrArg (·,t) (if_neg elsewhere)

-- A directory is made at the end of a way exactly when the way is passable, with those that are
-- missing on the way.
structure Makes (t : FileTree) (rooted : Bool) (way : List String) : Prop where
  goes : t.Passable (Path.base { rooted }) way →
    ∃ grown, t.makeDirectory { rooted, names := way } = (.ok (),grown) ∧
      t.Paves grown (Path.entered (Path.base { rooted }) way)
  stops : ¬t.Passable (Path.base { rooted }) way →
    ∃ e left, t.makeDirectory { rooted, names := way } = (.error e,left)

section Step
variable (nameable : Path.isUnnameable { rooted, names := way ++ [name] } = false)
  (short : Text.byteLength (Path.text { rooted, names := way ++ [name] }) < Path.byteLimit)
include nameable short

-- The directory that is to hold the new one is there.
theorem makes_inside (parent : t.follow (Path.base { rooted }) way = .directory) :
    t.Makes rooted (way ++ [name]) := by
  have made := addDirectory_follow (t := t) nameable short
  rw [follow_concat,parent] at made
  have kept : t.makeDirectory { rooted, names := way ++ [name] } =
      t.addOrKeep { rooted, names := way ++ [name] } := by
    rw [makeDirectory_concat,made]
    rcases follow_single t (Path.reached (Path.base { rooted }) way) name with
      there | ⟨_,_,free⟩ | ⟨_,⟨_,_,file⟩ | long⟩
    · simp only [there]
    · simp only [free]
    · simp only [file]
    · simp only [long]
  obtain ⟨goes,stops⟩ := addOrKeep_exact nameable short parent
  refine ⟨fun passable => ?_,fun blocked => ?_⟩
  · obtain ⟨grown,added,paves⟩ := goes (passable_append.mp passable).2
    rw [kept,Path.entered_append]
    exact ⟨grown,added,(Paves.there parent).trans paves⟩
  · rw [passable_append] at blocked
    obtain ⟨e,failed⟩ := stops fun passable => blocked ⟨passable_directory parent,passable⟩
    exact ⟨e,t,kept.trans failed⟩

-- The directory that is to hold the new one is missing, and is made first.
theorem makes_above (above : t.Makes rooted way)
    (missing : t.follow (Path.base { rooted }) (way ++ [name]) = .nowhere) :
    t.Makes rooted (way ++ [name]) := by
  have refused : t.addDirectory { rooted, names := way ++ [name] } =
      .error (.missing { rooted, names := way ++ [name] }) :=
    (addDirectory_follow nameable short).trans (by rw [missing])
  have climbs : t.makeDirectory { rooted, names := way ++ [name] } = _ := makeDirectory_concat
  rw [refused] at climbs
  dsimp only at climbs
  by_cases passable : t.Passable (Path.base { rooted }) way
  · obtain ⟨grown,made,paves⟩ := above.goes passable
    obtain ⟨goes,stops⟩ := addOrKeep_exact nameable short (paves.leads passable)
    rw [made] at climbs
    dsimp only at climbs
    refine ⟨fun whole => ?_,fun blocked => ?_⟩
    · obtain ⟨wider,added,more⟩ := goes ((paves.passable passable).mpr (passable_append.mp whole).2)
      rw [climbs,Path.entered_append]
      exact ⟨wider,added,paves.trans more⟩
    · rw [passable_append] at blocked
      obtain ⟨e,failed⟩ := stops fun last => blocked ⟨passable,(paves.passable passable).mp last⟩
      exact ⟨e,grown,climbs.trans failed⟩
  · obtain ⟨e,left,failed⟩ := above.stops passable
    rw [failed] at climbs
    exact ⟨fun whole => absurd (passable_append.mp whole).1 passable,fun _ => ⟨e,left,climbs⟩⟩

-- The way is barred before its end.
theorem makes_barred (barred : ¬t.Passable (Path.base { rooted }) way)
    (last : t.follow (Path.base { rooted }) (way ++ [name]) = .behindFile ∨
      t.follow (Path.base { rooted }) (way ++ [name]) = .tooLong) :
    t.Makes rooted (way ++ [name]) := by
  have located : t.locate { rooted, names := way ++ [name] } =
    t.follow (Path.base { rooted }) (way ++ [name]) := locate_follow short
  have made := addDirectory_follow (t := t) nameable short
  refine ⟨fun whole => absurd (passable_append.mp whole).1 barred,fun _ => ?_⟩
  rcases last with behind | long
  · rw [behind] at located made
    exact ⟨_,t,makeDirectory_refused made nofun (located ▸ nofun)⟩
  · rw [long] at located made
    exact ⟨_,t,makeDirectory_refused made nofun (located ▸ nofun)⟩

end Step

theorem makeDirectory_exact (nameable : Path.isUnnameable { rooted, names := way } = false)
    (short : Text.byteLength (Path.text { rooted, names := way }) < Path.byteLimit) :
    t.Makes rooted way := by
  induction way using List.reverseRecOn with
  | nil =>
    have here : t.follow (Path.base { rooted }) [] = .directory := rfl
    refine ⟨fun _ => ⟨t,?_,.there here⟩,fun blocked => absurd (passable_directory here) blocked⟩
    have found : t.locate { rooted } = .directory := locate_follow short
    rw [makeDirectory_nil,addOrKeep,addDirectory_follow nameable short]
    exact congrArg (·,t) (if_pos found)
  | append_singleton way name ih =>
    have onward : t.follow (Path.base { rooted }) (way ++ [name]) = _ := follow_concat
    have above := ih (by simp_all [Path.isUnnameable]) (Path.text_short short)
    cases parent : t.follow (Path.base { rooted }) way with
    | directory => exact makes_inside nameable short parent
    | vacant names => exact makes_above nameable short above (by rw [onward,parent])
    | nowhere => exact makes_above nameable short above (by rw [onward,parent])
    | file names text =>
      refine makes_barred nameable short (fun passable => ?_) (.inl (by rw [onward,parent]))
      have ends := passable.ends
      simp [parent] at ends
    | behindFile =>
      refine makes_barred nameable short (fun passable => ?_) (.inl (by rw [onward,parent]))
      have ends := passable.ends
      simp [parent] at ends
    | tooLong =>
      refine makes_barred nameable short (fun passable => ?_) (.inr (by rw [onward,parent]))
      have ends := passable.ends
      simp [parent] at ends

end Directories

theorem addOrKeep_files : (t.addOrKeep path).2.files = t.files := by
  rw [addOrKeep]
  split
  · rename_i grown made
    rw [addDirectory] at made
    split at made
    · cases made
    · cases place : t.locate path <;> rw [place] at made <;> cases made
      rfl
  · rfl

-- Making a directory changes no text, whether it comes to its end or not.
theorem makeAlong_files {rooted : Bool} {reversed : List String} :
    (t.makeAlong rooted reversed).2.files = t.files := by
  induction reversed generalizing t with
  | nil =>
    rw [makeAlong.eq_def]
    dsimp only
    split
    · rename_i none
      cases none
    · exact addOrKeep_files
  | cons name rest ih =>
    have above := ih (t := t)
    rw [makeAlong.eq_def]
    dsimp only
    split
    · rename_i same
      cases same
      split
      · rename_i grown made
        rw [made] at above
        exact addOrKeep_files.trans above
      · rename_i e left failed
        rw [failed] at above
        exact above
    · exact addOrKeep_files

/-! ## Writing -/

-- Only directories lead the way to a file; what is there does not matter until the end.
theorem follow_slot {content : Option String} (found : t.follow here way = slot names content)
    (same : t'.directories = t.directories) : t'.follow here way = slot names (t'.file? names) := by
  have directories : ∀ names, t'.hasDirectory names = t.hasDirectory names := by
    intro names
    rw [hasDirectory,hasDirectory,same]
  induction way generalizing here with
  | nil => cases content <;> cases found
  | cons name rest ih =>
    rw [follow] at found ⊢
    by_cases up : name = Path.upName
    · rw [if_pos up] at found ⊢
      exact ih found
    rw [if_neg up] at found ⊢
    by_cases long : Path.nameByteLimit < Text.byteLength name
    · rw [if_pos long] at found
      cases content <;> cases found
    rw [if_neg long] at found ⊢
    dsimp only at found ⊢
    rw [directories]
    by_cases directory : t.hasDirectory (here ++ [name]) = true
    · rw [if_pos directory] at found ⊢
      exact ih found
    rw [if_neg directory] at found ⊢
    have last : rest = [] ∧ here ++ [name] = names := by
      by_cases ends : rest = [] <;> cases file : t.file? (here ++ [name]) <;> cases content <;>
        simp_all [slot]
    obtain ⟨rfl,rfl⟩ := last
    cases t'.file? (here ++ [name]) <;> rfl

theorem locate_slot {content : Option String} (found : t.locate path = slot names content)
    (same : t'.directories = t.directories) : t'.locate path = slot names (t'.file? names) := by
  rw [locate] at found ⊢
  split at found
  · cases content <;> cases found
  · rename_i short
    rw [if_neg short]
    exact follow_slot found same

theorem put_absent (absent : t.file? names = none) :
    (t.put names text).files = t.files ++ [(names,text)] := by
  rw [put,absent]
  rfl

theorem put_present {old : String} (present : t.file? names = some old) :
    (t.put names text).files = t.files.map fun f => if f.1 == names then (f.1,text) else f := by
  rw [put,present]
  rfl

-- Putting a text into a file changes no name.
theorem renames_none (names other : List String) (text : String) :
    ((fun f : List String × String => f.1 == other) ∘
      fun f => if f.1 == names then (f.1,text) else f) = fun f => f.1 == other := by
  funext f
  rw [Function.comp_apply]
  split <;> rfl

theorem put_self : (t.put names text).file? names = some text := by
  cases held : t.file? names with
  | none =>
    rw [file?,put_absent held,List.find?_append]
    rw [file?,Option.map_eq_none_iff] at held
    rw [held]
    simp
  | some old =>
    rw [file?,put_present held,List.find?_map,renames_none]
    rw [file?,Option.map_eq_some_iff] at held
    obtain ⟨f,first,_⟩ := held
    have here := List.find?_some first
    rw [beq_iff_eq] at here
    simp [first,here]

theorem write_slot {content : Option String} (nameable : path.isUnnameable = false)
    (found : t.locate path = slot names content) : t.write path text = t.fill names text := by
  rw [write,nameable,if_neg Bool.false_ne_true,found]
  cases content <;> rfl

-- A write that fails has changed no text, unless a file was opened for it.
theorem write_cases (t : FileTree) (path : Path) (text : String) :
    (path.isUnnameable = false ∧ ∃ names content, t.locate path = slot names content) ∨
      ∃ e, t.write path text = (.error e,t) := by
  rw [write]
  cases nameable : path.isUnnameable with
  | true => exact .inr ⟨_,if_pos rfl⟩
  | false =>
    rw [if_neg Bool.false_ne_true]
    cases place : t.locate path with
    | file names old => exact .inl ⟨rfl,names,some old,rfl⟩
    | vacant names => exact .inl ⟨rfl,names,none,rfl⟩
    | _ => exact .inr ⟨_,rfl⟩

-- The disk takes the whole text at a place.
def Takes (t : FileTree) (names : List String) (text : String) : Prop :=
  ∀ n, t.limit? names = some n → text.length ≤ n

theorem fill_ok (filled : t.fill names text = (.ok (),t')) : t' = t.put names text := by
  rw [fill] at filled
  split at filled
  · split at filled <;> cases filled
    rfl
  · cases filled
    rfl

theorem write_read (written : t.write path text = (.ok (),t')) : t'.read path = .ok text := by
  rcases write_cases t path text with ⟨nameable,names,content,found⟩ | ⟨e,failed⟩
  · rw [write_slot nameable found] at written
    have filled := fill_ok written
    subst filled
    have here := locate_slot found (rfl : (t.put names text).directories = t.directories)
    rw [put_self] at here
    rw [read,nameable,if_neg Bool.false_ne_true,here]
    rfl
  · rw [failed] at written
    cases written

/-! ## Saving -/

-- A path that a text can be written to: its names fit, no file stands on the way, and at its end, of
-- which the way makes no directory, there is none.
structure WritableAt (t : FileTree) (path : Path) (way : List String) (name : String) : Prop where
  names : path.names = way ++ [name]
  nameable : path.isUnnameable = false
  short : Text.byteLength path.text < Path.byteLimit
  passable : t.Passable path.base way
  other : name ≠ Path.upName
  fits : Text.byteLength name ≤ Path.nameByteLimit
  free : t.hasDirectory path.place = false
  apart : path.place ∉ Path.entered path.base way

def Writable (t : FileTree) (path : Path) : Prop := ∃ way name, t.WritableAt path way name

theorem follow_slot_parts {content : Option String} (found : t.follow here [name] = slot names content) :
    name ≠ Path.upName ∧ Text.byteLength name ≤ Path.nameByteLimit ∧
      t.hasDirectory (here ++ [name]) = false := by
  have elsewhere : t.follow here [name] ≠ .directory := by
    rw [found]
    cases content <;> exact nofun
  rw [Ne,follow_directory,List.forall_mem_singleton] at elsewhere
  have other : name ≠ Path.upName := by
    rintro rfl
    exact elsewhere ⟨up_fits,by simp [Path.entered]⟩
  have fits : Text.byteLength name ≤ Path.nameByteLimit := by
    refine Nat.not_lt.mp fun long => ?_
    rw [follow,if_neg other,if_pos long] at found
    cases content <;> cases found
  refine ⟨other,fits,Bool.eq_false_iff.mpr fun directory => elsewhere ⟨fits,?_⟩⟩
  rw [Path.entered,if_neg other,Path.entered,List.forall_mem_singleton]
  exact directory

theorem parent_concat (names : path.names = way ++ [name]) :
    path.parent = { rooted := path.rooted, names := way } := by
  rw [Path.parent,names,List.dropLast_concat]

theorem parent_nameable (names : path.names = way ++ [name]) (nameable : path.isUnnameable = false) :
    Path.isUnnameable { rooted := path.rooted, names := way } = false := by
  rw [Path.isUnnameable,names,List.any_append,Bool.or_eq_false_iff] at nameable
  exact nameable.1

theorem parent_short (names : path.names = way ++ [name])
    (short : Text.byteLength path.text < Path.byteLimit) :
    Text.byteLength (Path.text { rooted := path.rooted, names := way }) < Path.byteLimit := by
  obtain ⟨rooted,_⟩ := path
  subst names
  exact Path.text_short short

-- On the way to a writable path the missing directories are made, and then a file can be opened.
theorem WritableAt.opens (writable : t.WritableAt path way name) :
    ∃ grown, t.makeDirectory path.parent = (.ok (),grown) ∧
      t.Paves grown (Path.entered path.base way) ∧
      grown.locate path = slot path.place (t.file? path.place) := by
  obtain ⟨names,nameable,short,passable,other,fits,free,apart⟩ := writable
  have makes : t.Makes path.rooted way :=
    makeDirectory_exact (parent_nameable names nameable) (parent_short names short)
  obtain ⟨grown,made,paves⟩ := makes.goes passable
  have place := Path.place_concat names other
  refine ⟨grown,parent_concat names ▸ made,paves,?_⟩
  have still : grown.hasDirectory path.place = false :=
    Bool.eq_false_iff.mpr fun directory =>
      ((paves.directories _).mp directory).elim (Bool.eq_false_iff.mp free) apart
  have leads : grown.follow path.base way = .directory := paves.leads passable
  rw [locate_follow short,names,follow_concat,leads]
  rw [place] at still ⊢
  rw [← paves.file]
  exact follow_name other fits still

-- Where a file can be opened after the directories above it were made, the path is writable.
theorem opened_writable {grown : FileTree} {content : Option String}
    (nameable : path.isUnnameable = false) (made : t.makeDirectory path.parent = (.ok (),grown))
    (found : grown.locate path = slot names content) :
    t.Writable path := by
  have short : Text.byteLength path.text < Path.byteLimit := by
    refine Nat.not_le.mp fun long => ?_
    rw [locate,if_pos long] at found
    cases content <;> cases found
  rw [locate_follow short] at found
  rcases List.eq_nil_or_concat path.names with none | ⟨way,name,split⟩
  · rw [none,follow] at found
    cases content <;> cases found
  · rw [List.concat_eq_append] at split
    have makes : t.Makes path.rooted way :=
      makeDirectory_exact (parent_nameable split nameable) (parent_short split short)
    rw [parent_concat split] at made
    have passable : t.Passable path.base way := by
      by_contra blocked
      obtain ⟨e,left,failed⟩ := makes.stops blocked
      rw [failed] at made
      cases made
    obtain ⟨_,again,paves⟩ := makes.goes passable
    rw [made] at again
    cases again
    have leads : grown.follow path.base way = .directory := paves.leads passable
    rw [split,follow_concat,leads] at found
    obtain ⟨other,fits,free⟩ := follow_slot_parts found
    have place := Path.place_concat split other
    have clear : ¬(t.hasDirectory path.place = true ∨ path.place ∈ Path.entered path.base way) := by
      rw [place]
      exact fun directory => Bool.eq_false_iff.mp free ((paves.directories _).mpr directory)
    rw [not_or,Bool.not_eq_true] at clear
    exact ⟨way,name,split,nameable,short,passable,other,fits,clear.1,clear.2⟩

-- A text that was saved was written once the directories above it were made.
theorem save_parts (saved : t.save path text = (.ok (),t')) :
    ∃ grown, t.makeDirectory path.parent = (.ok (),grown) ∧
      grown.write path text = (.ok (),t') := by
  rw [save] at saved
  split at saved
  · rename_i grown made
    exact ⟨grown,made,saved⟩
  · cases saved

-- At a path that is not writable nothing is opened, and every text stays as it was.
theorem save_refused (blocked : ¬t.Writable path) (text : String) :
    ∃ e left, t.save path text = (.error e,left) ∧ left.files = t.files := by
  have files : (t.makeDirectory path.parent).2.files = t.files := makeAlong_files
  rw [save]
  rcases made : t.makeDirectory path.parent with ⟨e | _,grown⟩ <;> rw [made] at files
  · exact ⟨e,grown,rfl,files⟩
  · rcases write_cases grown path text with ⟨nameable,names,content,found⟩ | ⟨e,failed⟩
    · exact absurd (opened_writable nameable made found) blocked
    · exact ⟨e,grown,failed,files⟩

end FileTree

end WireGraph
