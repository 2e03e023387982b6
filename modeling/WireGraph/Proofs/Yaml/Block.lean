import WireGraph.Proofs.Yaml.Key

/-!
# Blocks read back

Nested lists and mappings, as they are written in block style and read again. Main statement: every
value that is nested no deeper than lines are wide is read as the node of that value, and what comes
behind it is left.
-/

namespace WireGraph.Yaml

open Document (Scalar Value)

variable {p : Spot} {suffix : List Char} {feed : Feed} {depth limit : Nat} {v : Value}

-- Whether every key is the name of a field.
def Named (entries : List (Scalar × Value)) : Prop :=
  ∀ e ∈ entries, ∃ name, e.1 = .text name ∧ isFieldName name = true

-- The values that are stored: known scalars, lists, and mappings that have fields. They are nested
-- no deeper than `depth`.
inductive Stored : (depth : Nat) → Value → Prop
  | scalar {depth : Nat} {s : Scalar} (known : isStored s = true) : Stored depth (.scalar s)
  | list {depth : Nat} {items : List Value} (stored : ∀ item ∈ items, Stored depth item) :
    Stored (depth + 1) (.list items)
  | mapping {depth : Nat} {entries : List (Scalar × Value)} (filled : entries ≠ [])
    (distinct : (entries.map (·.1)).Nodup) (named : Named entries)
    (stored : ∀ e ∈ entries, Stored depth e.2) : Stored (depth + 1) (.mapping entries)

def nodeOf : (depth : Nat) → Value → Node
  | _, .scalar s => scalarOf s
  | depth + 1, .list items => .sequence .list (items.map (nodeOf depth))
  | depth + 1, .mapping entries =>
    .mapping .mapping (entries.map fun e => (scalarOf e.1,nodeOf depth e.2))
  | _, _ => .scalar .null ""

@[simp] theorem nodeOf_scalar (depth : Nat) (s : Scalar) :
    nodeOf depth (.scalar s) = scalarOf s := by
  cases depth <;> rfl

theorem scalarOf_size (s : Scalar) : (scalarOf s).size = 1 := by
  cases s <;> rfl

theorem nodeOf_counted (depth : Nat) (v : Value) : 0 < (nodeOf depth v).size := by
  cases v with
  | scalar s =>
    rw [nodeOf_scalar,scalarOf_size]
    exact Nat.one_pos
  | list items => cases depth <;> exact Nat.succ_pos _
  | mapping entries => cases depth <;> exact Nat.succ_pos _
  | _ => cases depth <;> exact Nat.one_pos

/-! ## The text behind an entry -/

def itemsAfter (column : Nat) : List Value → List Char
  | [] => []
  | rest => spaces column ++ itemsAt column rest

def entriesAfter (column : Nat) : List (Scalar × Value) → List Char
  | [] => []
  | rest => spaces column ++ entriesAt column rest

theorem itemsAt_cons (column : Nat) (item : Value) (rest : List Value) :
    itemsAt column (item :: rest) =
      '-' :: ' ' :: (blockAt (column + 2) item ++ itemsAfter column rest) := by
  cases rest <;> simp [itemsAt,itemsAfter]

theorem itemsAfter_cons (column : Nat) (item : Value) (rest : List Value) :
    itemsAfter column (item :: rest) = spaces column ++ itemsAt column (item :: rest) := rfl

theorem entriesAfter_cons (column : Nat) (e : Scalar × Value) (rest : List (Scalar × Value)) :
    entriesAfter column (e :: rest) = spaces column ++ entriesAt column (e :: rest) := rfl

theorem entriesAt_cons (column : Nat) (name : String) (value : Value)
    (rest : List (Scalar × Value)) : entriesAt column ((.text name,value) :: rest) =
      name.toList ++ ':' ::
        (fieldAt column name.toList.length value ++ entriesAfter column rest) := by
  cases rest <;> simp [entriesAt,entriesAfter,keyText,Scalar.inline]

-- A list that has items and a mapping that has fields begin on a line of their own.
theorem fieldAt_list {items : List Value} (filled : items ≠ []) (column used : Nat) :
    fieldAt column used (.list items) = newLine column ++ itemsAt column items := by
  rw [fieldAt]
  exact filled

theorem fieldAt_mapping {entries : List (Scalar × Value)} (filled : entries ≠ [])
    (column used : Nat) : fieldAt column used (.mapping entries) =
      newLine (column + 2) ++ entriesAt (column + 2) entries := by
  rw [fieldAt]
  exact filled

theorem itemsAfter_resumes {column word dash : Nat} (resumes : Resumes word dash suffix)
    (inside : column < dash) (rest : List Value) :
    Resumes word dash (itemsAfter column rest ++ suffix) := by
  cases rest with
  | nil => exact resumes
  | cons item rest =>
    refine .inr ⟨column,'-',' ' :: (blockAt (column + 2) item ++ itemsAfter column rest ++ suffix),
      ?_,.inr ⟨rfl,rfl,inside⟩⟩
    rw [itemsAfter_cons,itemsAt_cons,List.append_assoc,List.cons_append,List.cons_append]

theorem name_begins {name : String} (named : isFieldName name = true) :
    ∃ c word, name.toList = c :: word ∧ isWordChar c = true := by
  simp only [isFieldName,Bool.and_eq_true,Bool.not_eq_true',List.all_eq_true] at named
  cases chars : name.toList with
  | nil => simp [chars] at named
  | cons c word => exact ⟨c,word,rfl,named.1.1.2 c (by simp [chars])⟩

theorem entriesAt_begins {entries : List (Scalar × Value)} (filled : entries ≠ [])
    (named : Named entries) (column : Nat) (more : List Char) :
    ∃ c rest, entriesAt column entries ++ more = c :: rest ∧ isWordChar c = true := by
  cases entries with
  | nil => exact absurd rfl filled
  | cons e rest =>
    obtain ⟨name,key,fieldName⟩ := named e (by simp)
    obtain ⟨c,word,chars,letter⟩ := name_begins fieldName
    obtain ⟨_,value⟩ := e
    subst key
    exact ⟨c,_,by rw [entriesAt_cons,chars,List.cons_append,List.cons_append],letter⟩

theorem entriesAfter_resumes {column word dash : Nat} (resumes : Resumes word dash suffix)
    (inside : column < word) {rest : List (Scalar × Value)} (named : Named rest) :
    Resumes word dash (entriesAfter column rest ++ suffix) := by
  cases rest with
  | nil => exact resumes
  | cons e rest =>
    obtain ⟨c,more,same,letter⟩ := entriesAt_begins (List.cons_ne_nil e rest) named column suffix
    refine .inr ⟨column,c,more,?_,.inl ⟨letter,inside⟩⟩
    rw [entriesAfter_cons,List.append_assoc,same]

/-! ## Lists -/

-- A part of a block that was read: what stands there, and what is left behind it.
def Yields {α : Type} (read : Except Fault (α × Feed)) (feed : Feed) (a : α)
    (suffix : List Char) : Prop :=
  ∃ gs, read = .ok (a,feed.move gs) ∧ Rests suffix gs

theorem blockEnds_out {column : Nat} {c : Char} (out : p.column < column) (cs : List Char) :
    blockEnds column (glyphsFrom p (c :: cs)) = true := by
  simp [glyphsFrom,blockEnds,out]

theorem blockEnds_inside {column : Nat} {c : Char} {cs : List Char} (inside : p.column = column)
    (unmarked : atDocumentMarker (glyphsFrom p (c :: cs)) = false) :
    blockEnds column (glyphsFrom p (c :: cs)) = false := by
  rw [glyphsFrom] at unmarked ⊢
  rw [blockEnds,unmarked]
  simp [inside]

theorem blockItems_end {column : Nat} {shared : Bool}
    (resumes : Resumes (if shared then column + 1 else column) column suffix)
    (rests : Rests suffix feed.rest) :
    Yields (blockItems (limit + 1) column shared feed) feed [] suffix := by
  obtain ⟨gs,gap⟩ : ∃ gs, (skipGap false false feed.rest).2 = gs := ⟨_,rfl⟩
  refine ⟨gs,?_,by rw [← gap]; exact rests.closed⟩
  obtain ⟨q,start,same⟩ := rests
  rw [blockItems,gap]
  dsimp only
  by_cases ends : blockEnds column gs = true
  · rw [if_pos ends]
    rfl
  · rw [afterGap,gap] at same
    rcases resumes.token start with ⟨_,none⟩ | ⟨r,c,rest,here,token⟩
    · rw [same,none] at ends
      exact absurd rfl ends
    · rw [same,here] at ends ⊢
      have inside : ¬r.column < column := fun out => ends (blockEnds_out out rest)
      rcases token with ⟨letter,near⟩ | ⟨_,_,near⟩
      · cases shared with
        | false => exact absurd near inside
        | true =>
          have column_eq : r.column = column := by
            have near : r.column < column + 1 := near
            omega
          have dash : c ≠ '-' := by
            rintro rfl
            cases letter
          rw [if_neg ends]
          simp [glyphsFrom,atIndicator,column_eq,dash,Feed.move,pure,Except.pure]
      · exact absurd near inside

-- How an item is read behind its dash, which stands at `column`.
def ItemReads (column : Nat) (item : Value) (node : Node) : Prop :=
  ∀ {limit : Nat} {p : Spot} {feed : Feed} {suffix : List Char}, p.column = column + 1 →
    Resumes (column + 1) (column + 1) suffix → 3 * node.size ≤ limit →
      feed.rest = glyphsFrom p (' ' :: (blockAt (column + 2) item ++ suffix)) →
        Yields (blockNode limit (column + 1) true false {} feed) feed node suffix

theorem blockItems_cons {column : Nat} {shared : Bool} {item : Value} {rest : List Value}
    {node : Node} {nodes : List Node} (reads : ItemReads column item node)
    (here : afterGap feed.rest = glyphsFrom p (itemsAt column (item :: rest) ++ suffix))
    (inside : p.column = column)
    (resumes : Resumes (column + 1) (column + 1) (itemsAfter column rest ++ suffix))
    (enough : 3 * node.size ≤ limit)
    (onward : ∀ feed : Feed, Rests (itemsAfter column rest ++ suffix) feed.rest →
      Yields (blockItems limit column shared feed) feed nodes suffix) :
    Yields (blockItems (limit + 1) column shared feed) feed (node :: nodes) suffix := by
  rw [itemsAt_cons,List.cons_append,List.cons_append,List.append_assoc] at here
  have second : (p.after '-').column = column + 1 := by rw [after_basic (by decide),inside]
  obtain ⟨text,same⟩ : ∃ text,
    blockAt (column + 2) item ++ (itemsAfter column rest ++ suffix) = text := ⟨_,rfl⟩
  rw [same] at here
  have behind := feed.move_rest (glyphsFrom (p.after '-') (' ' :: text))
  obtain ⟨gs,read,rests⟩ := reads second resumes enough (by rw [same]; exact behind)
  obtain ⟨gs',more,rests'⟩ := onward (feed.move gs) rests
  refine ⟨gs',?_,rests'⟩
  have unmarked : atDocumentMarker (glyphsFrom p ('-' :: ' ' :: text)) = false :=
    Yaml.unmarked (.inr fun _ => ⟨by simp,by simp⟩)
  have gap : (skipGap false false feed.rest).2 = glyphsFrom p ('-' :: ' ' :: text) := here
  rw [blockItems,gap]
  dsimp only
  rw [blockEnds_inside inside unmarked,if_neg Bool.false_ne_true]
  change (if (!(p.column == column)) = true then _ else if true = true then
    blockNode limit (column + 1) true false {}
      (feed.move (glyphsFrom (p.after '-') (' ' :: text))) >>= _ else _) = _
  rw [inside,beq_self_eq_true,if_neg (by decide),if_pos rfl,read,Feed.move_move,ok_bind,more]
  rfl

-- The items from the first one on, which stands at `column` already.
theorem blockItems_read {column : Nat} {shared : Bool} {node : Value → Node} {items : List Value}
    (filled : items ≠ []) (counted : ∀ item, 0 < (node item).size)
    (reads : ∀ item ∈ items, ItemReads column item (node item))
    (here : afterGap feed.rest = glyphsFrom p (itemsAt column items ++ suffix))
    (inside : p.column = column)
    (resumes : Resumes (if shared then column + 1 else column) column suffix)
    (enough : 3 * sizeOfItems (items.map node) + 1 ≤ limit) :
    Yields (blockItems limit column shared feed) feed (items.map node) suffix := by
  induction items generalizing feed p limit with
  | nil => exact absurd rfl filled
  | cons item rest ih =>
    rw [List.map_cons,sizeOfItems] at enough
    obtain ⟨limit,rfl⟩ : ∃ n, limit = n + 1 := ⟨limit - 1,by omega⟩
    have wide : Resumes (column + 1) (column + 1) suffix := by
      refine resumes.wider ?_ (Nat.le_succ column)
      split <;> omega
    refine blockItems_cons (reads item (by simp)) here inside
      (itemsAfter_resumes wide (Nat.lt_succ_self column) rest) (by omega) fun feed rests => ?_
    have counted := counted item
    obtain ⟨n,rfl⟩ : ∃ n, limit = n + 1 := ⟨limit - 1,by omega⟩
    cases rest with
    | nil => exact blockItems_end resumes rests
    | cons next rest =>
      rw [itemsAfter_cons,List.append_assoc,itemsAt_cons,List.cons_append] at rests
      obtain ⟨q,second,here⟩ := rests.here rfl
      refine ih (List.cons_ne_nil _ _) (fun item member => reads item (.tail _ member)) ?_ second
        (by omega)
      rw [here,itemsAt_cons,List.cons_append]
      rfl

/-! ## Mappings -/

-- How the value of a field is read behind the colon of its key, which stands at `column`.
def FieldReads (column : Nat) (value : Value) (node : Node) : Prop :=
  ∀ {limit used : Nat} {p : Spot} {feed : Feed} {suffix : List Char}, column < p.column →
    Resumes (column + 1) column suffix → 3 * node.size ≤ limit →
      feed.rest = glyphsFrom p (fieldAt column used value ++ suffix) →
        Yields (blockNode limit (column + 1) false true {} feed) feed node suffix

theorem fieldAt_blank (column used : Nat) (value : Value) (more : List Char) :
    blankNext (fieldAt column used value ++ more) = true := by
  cases value with
  | list items => cases items <;> simp [fieldAt,newLine,blankNext,isBlank,isBreak]
  | mapping entries => cases entries <;> simp [fieldAt,newLine,blankNext,isBlank,isBreak]
  | _ => simp [fieldAt,blankNext,isBlank,isBreak]

theorem blockEntries_end {column : Nat} (resumes : Resumes column column suffix)
    (rests : Rests suffix feed.rest) :
    Yields (blockEntries (limit + 1) column feed) feed [] suffix := by
  obtain ⟨gs,gap⟩ : ∃ gs, (skipGap false false feed.rest).2 = gs := ⟨_,rfl⟩
  refine ⟨gs,?_,by rw [← gap]; exact rests.closed⟩
  obtain ⟨q,start,same⟩ := rests
  rw [afterGap,gap] at same
  have ends : blockEnds column gs = true := by
    rcases resumes.token start with ⟨_,none⟩ | ⟨r,c,rest,here,token⟩
    · rw [same,none]
      rfl
    · rw [same,here]
      exact blockEnds_out (token.elim (·.2) (·.2.2)) rest
  rw [blockEntries,gap]
  dsimp only
  rw [if_pos ends]
  rfl

theorem blockEntries_cons {column : Nat} {name : String} {value : Value}
    {rest : List (Scalar × Value)} {node : Node} {nodes : List (Node × Node)}
    (named : isFieldName name = true) (reads : FieldReads column value node)
    (here : afterGap feed.rest =
      glyphsFrom p (entriesAt column ((.text name,value) :: rest) ++ suffix))
    (inside : p.column = column)
    (resumes : Resumes (column + 1) column (entriesAfter column rest ++ suffix))
    (enough : 3 * node.size ≤ limit)
    (onward : ∀ feed : Feed, Rests (entriesAfter column rest ++ suffix) feed.rest →
      Yields (blockEntries limit column feed) feed nodes suffix) :
    Yields (blockEntries (limit + 1) column feed) feed ((.scalar .text name,node) :: nodes)
      suffix := by
  rw [entriesAt_cons,List.append_assoc,List.cons_append,List.append_assoc] at here
  obtain ⟨text,same⟩ : ∃ text, fieldAt column name.toList.length value ++
    (entriesAfter column rest ++ suffix) = text := ⟨_,rfl⟩
  have blank : blankNext text = true := by
    rw [← same]
    exact fieldAt_blank column _ value _
  rw [same] at here
  have gap : (skipGap false false feed.rest).2 = glyphsFrom p (name.toList ++ ':' :: text) := here
  obtain ⟨q,further,key⟩ := readKey_field limit (column + 1) named blank
    (feed.move_rest (glyphsFrom p (name.toList ++ ':' :: text)))
  have behind := feed.move_rest (glyphsFrom q text)
  obtain ⟨gs,read,rests⟩ := reads (by rw [← inside]; exact further) resumes enough
    (by rw [same]; exact behind)
  obtain ⟨gs',more,rests'⟩ := onward (feed.move gs) rests
  obtain ⟨c,word,chars,letter⟩ := name_begins named
  refine ⟨gs',?_,rests'⟩
  rw [chars,List.cons_append] at key gap
  have unmarked := word_unmarked (p := p) letter (word ++ ':' :: text)
  have query : atIndicator '?' (glyphsFrom p (c :: (word ++ ':' :: text))) = false := by
    have other : c ≠ '?' := by
      rintro rfl
      cases letter
    simp [glyphsFrom,atIndicator,other]
  rw [blockEntries,gap]
  dsimp only
  rw [blockEnds_inside inside unmarked,if_neg Bool.false_ne_true,query,key]
  change (if (!(p.column == column)) = true then _ else
    blockNode limit (column + 1) false true {} (feed.move (glyphsFrom q text)) >>= _) = _
  rw [inside,beq_self_eq_true,if_neg (by decide),read,Feed.move_move,ok_bind]
  change (blockEntries limit column (feed.move gs) >>= _) = _
  rw [more]
  rfl

-- The fields from the first one on, whose key stands at `column` already.
theorem blockEntries_read {column : Nat} {node : Value → Node} {entries : List (Scalar × Value)}
    (filled : entries ≠ []) (named : Named entries) (counted : ∀ v, 0 < (node v).size)
    (reads : ∀ e ∈ entries, FieldReads column e.2 (node e.2))
    (here : afterGap feed.rest = glyphsFrom p (entriesAt column entries ++ suffix))
    (inside : p.column = column) (resumes : Resumes column column suffix)
    (enough : 3 * sizeOfEntries (entries.map fun e => (scalarOf e.1,node e.2)) + 1 ≤ limit) :
    Yields (blockEntries limit column feed) feed
      (entries.map fun e => (scalarOf e.1,node e.2)) suffix := by
  induction entries generalizing feed p limit with
  | nil => exact absurd rfl filled
  | cons e rest ih =>
    obtain ⟨name,key,fieldName⟩ := named e (by simp)
    obtain ⟨_,value⟩ := e
    subst key
    have named : Named rest := fun e member => named e (.tail _ member)
    change 3 * (1 + (node value).size +
      sizeOfEntries (rest.map fun e => (scalarOf e.1,node e.2))) + 1 ≤ limit at enough
    have counted := counted value
    obtain ⟨limit,rfl⟩ : ∃ n, limit = n + 2 := ⟨limit - 2,by omega⟩
    have room : 3 * (node value).size ≤ limit + 1 := by omega
    refine blockEntries_cons fieldName (reads (.text name,value) (by simp)) here inside
      (entriesAfter_resumes (resumes.wider (Nat.le_succ column) (Nat.le_refl column))
        (Nat.lt_succ_self column) named) room fun feed rests => ?_
    cases rest with
    | nil => exact blockEntries_end resumes rests
    | cons next rest =>
      obtain ⟨c,more,same,letter⟩ :=
        entriesAt_begins (List.cons_ne_nil next rest) named column suffix
      rw [entriesAfter_cons,List.append_assoc,same] at rests
      obtain ⟨q,second,here⟩ := rests.here (word_solid letter)
      refine ih (List.cons_ne_nil _ _) named (fun e member => reads e (.tail _ member)) ?_ second
        (by omega)
      rw [here,same]

/-! ## Nodes -/

-- A list stands at the column of its block or further in, or in a field at the column of the key.
theorem blockNode_dash {floor : Nat} {crossed keyOk seqOk : Bool} {text : List Char}
    (gap : skipGap false false feed.rest = (crossed,glyphsFrom p ('-' :: ' ' :: text)))
    (further : floor ≤ p.column → (keyOk || crossed) = true)
    (level : p.column < floor → p.column + 1 = floor ∧ seqOk = true) :
    blockNode (limit + 1) floor keyOk seqOk {} feed =
      ((fun found => (.sequence .list found.1,found.2)) <$>
        blockItems limit p.column (decide (p.column < floor))
          (feed.move (glyphsFrom p ('-' :: ' ' :: text)))) := by
  have unmarked : atDocumentMarker (glyphsFrom p ('-' :: ' ' :: text)) = false :=
    Yaml.unmarked (.inr fun _ => ⟨by simp,by simp⟩)
  have dash : atIndicator '-' (glyphsFrom p ('-' :: ' ' :: text)) = true := rfl
  obtain ⟨gs,same⟩ : ∃ gs, glyphsFrom p ('-' :: ' ' :: text) = ⟨'-',p⟩ :: gs := ⟨_,rfl⟩
  rw [same] at unmarked dash gap ⊢
  rw [blockNode,gap]
  dsimp only
  rw [unmarked,if_neg Bool.false_ne_true,if_neg (by simp),
    if_neg (by by_cases out : p.column < floor <;> omega),if_neg (by simp)]
  by_cases out : p.column < floor
  · rw [if_pos out,dash,(level out).2,wrapped_bare,decide_eq_true out]
    rfl
  · rw [if_neg out,dash,further (Nat.not_lt.1 out),wrapped_bare,decide_eq_false out]
    rfl

-- What is known of a value that is nested no deeper than `depth`.
structure Reads (depth : Nat) (v : Value) : Prop where
  item : ∀ column, column + 2 + 2 * depth < width → ItemReads column v (nodeOf depth v)
  field : ∀ column, column + 2 + 2 * depth < width → FieldReads column v (nodeOf depth v)

theorem blockNode_one {floor indent column : Nat} {s : Scalar} (stored : isStored s = true)
    (room : floor ≤ indent) (inner : 0 < floor) (narrow : indent < width)
    (resumes : Resumes floor floor suffix) (inside : floor ≤ p.column + 1) (keyOk seqOk : Bool)
    (here : feed.rest = glyphsFrom p (' ' :: (scalarAt indent column s ++ '\n' :: suffix))) :
    Yields (blockNode (limit + 1) floor keyOk seqOk {} feed) feed (scalarOf s) suffix := by
  obtain ⟨c,rest,same,begins⟩ := scalarAt_begins stored indent column ('\n' :: suffix)
  have gap : skipGap false false feed.rest =
      (false,glyphsFrom (p.after ' ') (scalarAt indent column s ++ '\n' :: suffix)) := by
    rw [here,same,skipGap_space begins.solid]
  exact blockNode_scalar room inner narrow resumes stored inside keyOk seqOk gap

theorem reads_scalar {s : Scalar} (stored : isStored s = true) (depth : Nat) :
    Reads depth (.scalar s) where
  item := by
    intro column narrow limit p feed suffix inside resumes enough here
    rw [nodeOf_scalar] at enough ⊢
    rw [scalarOf_size] at enough
    obtain ⟨n,rfl⟩ : ∃ n, limit = n + 1 := ⟨limit - 1,by omega⟩
    rw [blockAt,List.append_assoc] at here
    exact blockNode_one stored (by omega) (by omega) (by omega) resumes (by omega) true false here
  field := by
    intro column narrow limit used p feed suffix inside resumes enough here
    rw [nodeOf_scalar] at enough ⊢
    rw [scalarOf_size] at enough
    obtain ⟨n,rfl⟩ : ∃ n, limit = n + 1 := ⟨limit - 1,by omega⟩
    rw [fieldAt,List.cons_append,List.cons_append,List.append_assoc] at here
    exact blockNode_one stored (by omega) (by omega) (by omega)
      (resumes.wider (Nat.le_refl _) (Nat.le_succ _)) (by omega) false true here

theorem reads_empty (depth : Nat) : Reads (depth + 1) (.list []) where
  item := by
    intro column narrow limit p feed suffix inside resumes enough here
    change 3 ≤ limit at enough
    obtain ⟨n,rfl⟩ : ∃ n, limit = n + 3 := ⟨limit - 3,by omega⟩
    have gap : skipGap false false feed.rest =
        (false,glyphsFrom (p.after ' ') ('[' :: ']' :: '\n' :: suffix)) := by
      rw [here]
      exact skipGap_space rfl p _
    exact ⟨_,blockNode_empty (by omega) (by simp [inside]) true false suffix gap,
      newline_rests _ suffix⟩
  field := by
    intro column narrow limit used p feed suffix inside resumes enough here
    change 3 ≤ limit at enough
    obtain ⟨n,rfl⟩ : ∃ n, limit = n + 3 := ⟨limit - 3,by omega⟩
    have gap : skipGap false false feed.rest =
        (false,glyphsFrom (p.after ' ') ('[' :: ']' :: '\n' :: suffix)) := by
      rw [here]
      exact skipGap_space rfl p _
    exact ⟨_,blockNode_empty (by omega) (by simp only [after_space]; omega) false true suffix gap,
      newline_rests _ suffix⟩

theorem Yields.map {α β : Type} {read : Except Fault (α × Feed)} {a : α} (f : α → β)
    (yields : Yields read feed a suffix) :
    Yields ((fun found => (f found.1,found.2)) <$> read) feed (f a) suffix := by
  obtain ⟨gs,same,rests⟩ := yields
  exact ⟨gs,by rw [same]; rfl,rests⟩

-- A list from its first dash on.
theorem list_read {floor column : Nat} {crossed keyOk seqOk : Bool} {items : List Value}
    (filled : items ≠ []) (reads : ∀ item ∈ items, Reads depth item)
    (narrow : column + 2 + 2 * depth < width) (inside : p.column = column)
    (gap : skipGap false false feed.rest = (crossed,glyphsFrom p (itemsAt column items ++ suffix)))
    (further : floor ≤ column → (keyOk || crossed) = true)
    (level : column < floor → column + 1 = floor ∧ seqOk = true)
    (resumes : Resumes (if column < floor then column + 1 else column) column suffix)
    (enough : 3 * (nodeOf (depth + 1) (.list items)).size ≤ limit) :
    Yields (blockNode limit floor keyOk seqOk {} feed) feed (nodeOf (depth + 1) (.list items))
      suffix := by
  change 3 * (sizeOfItems (items.map (nodeOf depth)) + 1) ≤ limit at enough
  obtain ⟨n,rfl⟩ : ∃ n, limit = n + 1 := ⟨limit - 1,by omega⟩
  obtain ⟨text,same⟩ : ∃ text, itemsAt column items ++ suffix = '-' :: ' ' :: text := by
    obtain ⟨item,rest,rfl⟩ := List.exists_cons_of_ne_nil filled
    exact ⟨_,by rw [itemsAt_cons]; rfl⟩
  subst inside
  rw [same] at gap
  rw [blockNode_dash gap further level]
  refine Yields.map _ (blockItems_read (p := p) filled (nodeOf_counted depth)
    (fun item member => (reads item member).item _ narrow) ?_ rfl ?_ (by omega))
  · rw [Feed.move_rest,same]
    exact afterGap_solid rfl _
  · by_cases out : p.column < floor
    · rw [if_pos out] at resumes
      rw [decide_eq_true out]
      exact resumes
    · rw [if_neg out] at resumes
      rw [decide_eq_false out]
      exact resumes

theorem reads_list {items : List Value} (filled : items ≠ [])
    (reads : ∀ item ∈ items, Reads depth item) : Reads (depth + 1) (.list items) where
  item := by
    intro column narrow limit p feed suffix inside resumes enough here
    have gap : skipGap false false feed.rest =
        (false,glyphsFrom (p.after ' ') (itemsAt (column + 2) items ++ suffix)) := by
      obtain ⟨item,rest,rfl⟩ := List.exists_cons_of_ne_nil filled
      rw [here,blockAt,itemsAt_cons]
      exact skipGap_space rfl p _
    refine list_read filled reads (by omega) (by simp [inside]) gap (fun _ => rfl)
      (fun out => by omega) ?_ enough
    rw [if_neg (by omega)]
    exact resumes.wider (Nat.le_succ _) (Nat.le_succ _)
  field := by
    intro column narrow limit used p feed suffix inside resumes enough here
    have gap : skipGap false false feed.rest =
        (true,glyphsFrom ((p.after '\n').along column) (itemsAt column items ++ suffix)) := by
      obtain ⟨item,rest,rfl⟩ := List.exists_cons_of_ne_nil filled
      rw [here,fieldAt_list filled,List.append_assoc,itemsAt_cons]
      exact skipGap_newLine rfl column p _
    refine list_read filled reads (by omega) (by simp) gap (fun _ => rfl) (fun _ => ⟨rfl,rfl⟩) ?_
      enough
    rw [if_pos (Nat.lt_succ_self column)]
    exact resumes

-- A mapping from its first key on.
theorem mapping_read {floor column : Nat} {crossed keyOk seqOk : Bool}
    {entries : List (Scalar × Value)} (filled : entries ≠ []) (named : Named entries)
    (reads : ∀ e ∈ entries, Reads depth e.2) (narrow : column + 2 + 2 * depth < width)
    (inside : p.column = column)
    (gap : skipGap false false feed.rest =
      (crossed,glyphsFrom p (entriesAt column entries ++ suffix)))
    (begins : (keyOk || crossed) = true) (room : floor ≤ column)
    (resumes : Resumes column column suffix)
    (enough : 3 * (nodeOf (depth + 1) (.mapping entries)).size ≤ limit) :
    Yields (blockNode limit floor keyOk seqOk {} feed) feed (nodeOf (depth + 1) (.mapping entries))
      suffix := by
  change 3 * (sizeOfEntries (entries.map fun e => (scalarOf e.1,nodeOf depth e.2)) + 1) ≤ limit
    at enough
  obtain ⟨n,rfl⟩ : ∃ n, limit = n + 1 := ⟨limit - 1,by omega⟩
  obtain ⟨e,rest,rfl⟩ := List.exists_cons_of_ne_nil filled
  obtain ⟨name,key,fieldName⟩ := named e (by simp)
  obtain ⟨_,value⟩ := e
  subst key inside
  obtain ⟨c,word,chars,letter⟩ := name_begins fieldName
  have text := entriesAt_cons p.column name value rest
  have here := feed.move_rest
    (glyphsFrom p (entriesAt p.column ((.text name,value) :: rest) ++ suffix))
  have start : afterGap (glyphsFrom p (entriesAt p.column ((.text name,value) :: rest) ++ suffix)) =
      glyphsFrom p (entriesAt p.column ((.text name,value) :: rest) ++ suffix) := by
    rw [text,chars]
    exact afterGap_solid (word_solid letter) _
  have fields := Yields.map (mappingNode {}) (blockEntries_read filled named (nodeOf_counted depth)
    (fun e member => (reads e member).field _ narrow) (by rw [here]; exact start) rfl resumes
    (by omega : _ ≤ n))
  have behind := fieldAt_blank p.column name.toList.length value
    (entriesAfter p.column rest ++ suffix)
  obtain ⟨q,_,found⟩ := readKey_field n floor fieldName behind
    (by rw [here,text,List.append_assoc,List.cons_append,List.append_assoc])
  rw [text,chars,List.append_assoc,List.cons_append] at gap found fields
  rw [blockNode_begins (word_begins letter _) gap (word_unmarked letter _) room]
  simp only [found,begins]
  exact fields

theorem reads_mapping {entries : List (Scalar × Value)} (filled : entries ≠ [])
    (named : Named entries) (reads : ∀ e ∈ entries, Reads depth e.2) :
    Reads (depth + 1) (.mapping entries) where
  item := by
    intro column narrow limit p feed suffix inside resumes enough here
    obtain ⟨c,rest,same,letter⟩ := entriesAt_begins filled named (column + 2) suffix
    have gap : skipGap false false feed.rest =
        (false,glyphsFrom (p.after ' ') (entriesAt (column + 2) entries ++ suffix)) := by
      rw [here,blockAt,same]
      exact skipGap_space (word_solid letter) p _
    exact mapping_read filled named reads (by omega) (by simp [inside]) gap rfl (by omega)
      (resumes.wider (Nat.le_succ _) (Nat.le_succ _)) enough
  field := by
    intro column narrow limit used p feed suffix inside resumes enough here
    obtain ⟨c,rest,same,letter⟩ := entriesAt_begins filled named (column + 2) suffix
    have gap : skipGap false false feed.rest =
        (true,glyphsFrom ((p.after '\n').along (column + 2))
          (entriesAt (column + 2) entries ++ suffix)) := by
      rw [here,fieldAt_mapping filled,List.append_assoc,same]
      exact skipGap_newLine (word_solid letter) (column + 2) p _
    exact mapping_read filled named reads (by omega) (by simp) gap rfl (by omega)
      (resumes.wider (Nat.le_succ _) (by omega)) enough

theorem Stored.reads (stored : Stored depth v) : Reads depth v := by
  induction stored with
  | scalar known => exact reads_scalar known _
  | @list depth items _ ih =>
    by_cases filled : items = []
    · subst filled
      exact reads_empty depth
    · exact reads_list filled ih
  | mapping filled _ named _ ih => exact reads_mapping filled named ih

end WireGraph.Yaml
