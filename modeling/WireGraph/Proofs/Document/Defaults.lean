import WireGraph.Proofs.Document.Padding

/-!
# Fields that are not there

A record may be read from a mapping that lacks some of the fields that it declares. Main statements:
a mapping is read as it would be with the defaults stated behind it, so that an absent field has its
default and a present one is left alone; every field without a default is reported where it lacks;
and a word is read as the flag that lists it, in whatever case it is written.
-/

namespace WireGraph.Document

-- The values that stand for the fields that may be absent.
def Shape.defaults : Shape → Entries
  | .newComponent => [(.text "driver_ref",.null),(.text "pid",.text unregisteredPid)]
  | .component => [(.text "pid",.text unregisteredPid),(.text "driver_ref",.null)]
  | .wire => [(.text "is_new",.flag true)]
  | .deletedWire => [(.text "kind",.text wireKind)]
  | .deletedInstance => [(.text "kind",.text instanceKind)]
  | .topology => [(.text "components",.list []),(.text "wires",.list [])]
  | .transaction => [(.text "deletions",.list [])]
  | .registration => [(.text "name",.text ""),(.text "driver_ref",.null)]
  | .snapshot =>
    [(.text "graph",.mapping []),(.text "components",.list []),
      (.text "producer_factories",.list []),(.text "consumer_factories",.list []),
      (.text "drivers",.list [])]
  | .settings =>
    [(.text "driver_factories",.texts [assetFactory]),(.text "log_level",.text "INFO")]

-- The fields that must be there: those that are declared and have no default.
def Shape.demands (shape : Shape) : List String :=
  (shape.fields.map (·.1)).filter fun name => (field? name shape.defaults).isNone

variable {α β : Type} {i : Issue} {stated : Entries} {demanded : List String}

def Check.Reports (i : Issue) : Check α → Prop
  | .ok _ => False
  | .error issues => i ∈ issues

theorem Check.Reports.left {f : Check (α → β)} (reports : f.Reports i) (a : Check α) :
    (f <*> a).Reports i := by
  cases f with
  | ok _ => exact reports.elim
  | error issues =>
    cases a with
    | ok _ => exact reports
    | error _ => exact List.mem_append_left _ reports

theorem Check.Reports.right {a : Check α} (reports : a.Reports i) (f : Check (α → β)) :
    (f <*> a).Reports i := by
  cases a with
  | ok _ => exact reports.elim
  | error issues =>
    cases f with
    | ok _ => exact reports
    | error _ => exact List.mem_append_right _ reports

-- What a check makes of absent fields: it cannot tell the defaults from what is stated, and it
-- reports each field that it demands.
structure Completes (stated : Entries) (demanded : List String) (check : Entries → Check α) :
    Prop where
  filled : ∀ es, check (es ++ stated) = check es
  reported : ∀ name ∈ demanded, ∀ es, field? name es = none →
    (check es).Reports ⟨[.field name],.missing⟩

theorem completes_required {name : String} {check : Value → Check α}
    (unstated : field? name stated = none) : Completes stated [name] (required name check) := by
  refine ⟨fun es => ?_,fun asked member es absent => ?_⟩
  · rw [required,required,field?_append,unstated,Option.or_none]
  · rw [List.mem_singleton.mp member] at absent ⊢
    rw [required,absent]
    exact List.mem_singleton_self _

theorem completes_optional {name : String} {default : α} {check : Value → Check α} {v : Value}
    (states : field? name stated = some v) (passes : check v = Check.ok default) :
    Completes stated [] (optional name default check) := by
  refine ⟨fun es => ?_,fun asked none => nomatch none⟩
  rw [optional,optional,field?_append,states]
  cases field? name es with
  | some w => rfl
  | none =>
    simp only [Option.none_or,passes]
    rfl

theorem Completes.map {check : Entries → Check α} (completes : Completes stated demanded check)
    (f : α → β) : Completes stated demanded fun es => f <$> check es where
  filled es := by rw [completes.filled]
  reported name member es absent := (completes.reported name member es absent).right (Check.ok f)

theorem Completes.seq {more : List String} {apply : Entries → Check (α → β)}
    {check : Entries → Check α} (first : Completes stated demanded apply)
    (second : Completes stated more check) :
    Completes stated (demanded ++ more) fun es => apply es <*> check es where
  filled es := by rw [first.filled,second.filled]
  reported name member es absent := by
    rcases List.mem_append.mp member with sooner | later
    · exact (first.reported name sooner es absent).left _
    · exact (second.reported name later es absent).right _

theorem content_completes (shape : Shape) : Completes shape.defaults shape.demands
    fun es => (Record.check (.mapping es) : Check shape.Content) := by
  cases shape with
  | newComponent =>
    exact (completes_required (by rfl)).map _ |>.seq (completes_required (by rfl))
      |>.seq (completes_required (by rfl)) |>.seq (completes_optional (by rfl) (by rfl))
      |>.seq (completes_optional (by rfl) (by rfl))
  | component =>
    exact (completes_required (by rfl)).map _ |>.seq (completes_optional (by rfl) (by rfl))
      |>.seq (completes_required (by rfl)) |>.seq (completes_required (by rfl))
      |>.seq (completes_required (by rfl)) |>.seq (completes_optional (by rfl) (by rfl))
  | wire =>
    exact (completes_required (by rfl)).map _ |>.seq (completes_required (by rfl))
      |>.seq (completes_required (by rfl)) |>.seq (completes_optional (by rfl) (by rfl))
  | deletedWire =>
    exact (completes_optional (by rfl) (by rfl)).map _ |>.seq (completes_required (by rfl))
      |>.seq (completes_required (by rfl))
  | deletedInstance =>
    exact (completes_optional (by rfl) (by rfl)).map _ |>.seq (completes_required (by rfl))
  | topology =>
    exact (completes_optional (by rfl) (by rfl)).map _ |>.seq (completes_optional (by rfl) (by rfl))
  | transaction =>
    exact (completes_required (by rfl)).map _ |>.seq (completes_optional (by rfl) (by rfl))
  | registration =>
    exact (completes_required (by rfl)).map _ |>.seq (completes_required (by rfl))
      |>.seq (completes_optional (by rfl) (by rfl)) |>.seq (completes_required (by rfl))
      |>.seq (completes_optional (by rfl) (by rfl))
  | snapshot =>
    exact (completes_optional (by rfl) (by rfl)).map _ |>.seq (completes_optional (by rfl) (by rfl))
      |>.seq (completes_optional (by rfl) (by rfl)) |>.seq (completes_optional (by rfl) (by rfl))
      |>.seq (completes_optional (by rfl) (by rfl))
  | settings =>
    exact (completes_optional (by rfl) (by rfl)).map _ |>.seq (completes_optional (by rfl) (by rfl))

theorem absent_fields (shape : Shape) (es : Entries) :
    (Record.check (.mapping (es ++ shape.defaults)) : Check shape.Content) =
        Record.check (.mapping es) ∧
      ∀ name ∈ shape.demands, field? name es = none →
        (Record.check (.mapping es) : Check shape.Content).Reports ⟨[.field name],.missing⟩ :=
  have completes := content_completes shape
  ⟨completes.filled es,fun name member => completes.reported name member es⟩

example : (Record.check (.mapping []) : Check Settings) = Check.ok ⟨[assetFactory],"INFO"⟩ := rfl

/-! ## Words for flags -/

def flagWords : Bool → List String
  | false => falseWords
  | true => trueWords

theorem flagOfWord_exact {word : String} {b : Bool} :
    flagOfWord word = Check.ok b ↔ word.toLower ∈ flagWords b := by
  have apart : ∀ w ∈ falseWords, w ∉ trueWords := by decide
  simp only [flagOfWord,List.contains_iff_mem]
  by_cases no : word.toLower ∈ falseWords
  · have other := apart _ no
    rw [if_pos no]
    cases b with
    | false => exact iff_of_true rfl no
    | true => exact iff_of_false nofun other
  · rw [if_neg no]
    by_cases yes : word.toLower ∈ trueWords
    · rw [if_pos yes]
      cases b with
      | false => exact iff_of_false nofun no
      | true => exact iff_of_true rfl yes
    · rw [if_neg yes]
      cases b with
      | false => exact iff_of_false nofun no
      | true => exact iff_of_false nofun yes

-- A word is the same flag as a text and as the bytes of one.
theorem flag_word {word : String} {b : Bool} {v : Value}
    (spells : v = .text word ∨ ∃ data, Text.ofBytes? data = some word ∧ v = .scalar (.bytes data)) :
    flag v = Check.ok b ↔ word.toLower ∈ flagWords b := by
  rcases spells with rfl | ⟨data,read,rfl⟩
  · exact flagOfWord_exact
  · rw [flag,read]
    exact flagOfWord_exact

example : ∀ word ∈ ["0","OFF","F","False","n","nO"], flag (.text word) = Check.ok false := by
  have listed : ∀ word ∈ ["0","OFF","F","False","n","nO"], word.toLower ∈ flagWords false := by
    decide +kernel
  exact fun word member => (flag_word (.inl rfl)).mpr (listed word member)

end WireGraph.Document
