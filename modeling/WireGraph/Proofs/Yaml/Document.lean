import WireGraph.Proofs.Yaml.Web

/-!
# Documents read back

The text of a whole mapping. It holds only characters that stand for themselves, and its length
bounds how deep the readers can go. Main statement: a stored mapping reads back as it was written.
-/

namespace WireGraph.Yaml

open Document (Scalar Value)

variable {c : Char} {cs : List Char} {depth : Nat} {v : Value}

/-! ## Written characters -/

-- Only line ends, and characters that stand for themselves in every style.
def Written (cs : List Char) : Prop := ∀ c ∈ cs, c = '\n' ∨ isBasic c = true

@[simp] theorem written_nil : Written [] := by simp [Written]

@[simp] theorem written_cons : Written (c :: cs) ↔ (c = '\n' ∨ isBasic c = true) ∧ Written cs :=
  List.forall_mem_cons

@[simp] theorem written_append {more : List Char} :
    Written (cs ++ more) ↔ Written cs ∧ Written more := List.forall_mem_append

theorem written_basics (basic : ∀ c ∈ cs, isBasic c = true) : Written cs :=
  fun c member => .inr (basic c member)

@[simp] theorem written_spaces (n : Nat) : Written (spaces n) :=
  written_basics fun c member => by rw [List.eq_of_mem_replicate member]; decide

@[simp] theorem written_newLine (n : Nat) : Written (newLine n) := by simp [newLine]

theorem written_plainText {indent column : Nat} {before : Option Char} (written : Written cs) :
    Written (plainText indent column before cs) := by
  induction cs generalizing column before with
  | nil => exact written
  | cons c cs ih =>
    rw [written_cons] at written
    rw [plainText]
    split
    · simp [ih written.2]
    · simp [written.1,ih written.2]

theorem written_singleText {indent column : Nat} {before : Option Char} (written : Written cs) :
    Written (singleText indent column before cs) := by
  induction cs generalizing column before with
  | nil => exact written
  | cons c cs ih =>
    rw [written_cons] at written
    have quote : isBasic '\'' = true := by decide
    rw [singleText]
    split
    · simp [quote,ih written.2]
    split
    · rw [written_append,written_cons]
      refine ⟨?_,.inl rfl,?_⟩
      · split <;> simp
      · split <;> simp [ih written.2]
    split
    · simp [ih written.2]
    · simp [written.1,ih written.2]

theorem written_upperDigits (count n : Nat) : Written (upperDigits count n) := by
  induction count generalizing n with
  | zero => exact written_nil
  | succ count ih =>
    have digit := (digit_upper (n % 16) (Nat.mod_lt _ (by decide))).2.1
    rw [hexDigit_mod] at digit
    rw [upperDigits_succ,written_append]
    exact ⟨ih _,by simp [digit]⟩

theorem written_escaped (c : Char) : Written (escaped c) := by
  have backslash : isBasic '\\' = true := by decide
  rw [escaped]
  split
  · rename_i letter short
    rw [shortEscape?,Option.map_eq_some_iff] at short
    obtain ⟨e,found,rfl⟩ := short
    have basic : ∀ e ∈ shortEscapes, e.1 ≠ '\t' → isBasic e.1 = true := by decide
    have same := List.find?_some found
    simp only [Bool.and_eq_true,bne_iff_ne] at same
    simp [backslash,basic e (List.mem_of_find?_eq_some found) same.1.1.2]
  · have marks : isBasic 'x' = true ∧ isBasic 'u' = true ∧ isBasic 'U' = true := by decide
    rw [written_cons,codeEscape]
    refine ⟨.inr backslash,?_⟩
    split
    · simp [marks,written_upperDigits]
    split <;> simp [marks,written_upperDigits]

theorem written_escapedBreak (indent : Nat) (next : Option Char) :
    Written (escapedBreak indent next) := by
  have backslash : isBasic '\\' = true := by decide
  rw [escapedBreak,written_append,written_cons]
  refine ⟨⟨.inr backslash,written_newLine indent⟩,?_⟩
  split <;> simp [backslash]

theorem written_doubleText {indent column : Nat} {first afterEscape : Bool} :
    Written (doubleText indent column first afterEscape cs) := by
  induction cs generalizing column first afterEscape with
  | nil => exact written_nil
  | cons c cs ih =>
    rw [doubleText]
    by_cases special : isEscaped c = true
    · rw [if_pos special]
      dsimp only
      split <;> simp [written_escaped,written_escapedBreak,ih]
    · have basic : isBasic c = true := by
        simp only [isEscaped,Bool.not_eq_true,Bool.or_eq_false_iff,Bool.not_eq_false'] at special
        exact special.2
      rw [if_neg special]
      split <;> simp [written_escapedBreak,basic,ih]

theorem written_scalarAt {s : Scalar} (stored : isStored s = true) (indent column : Nat) :
    Written (scalarAt indent column s) := by
  by_cases bare : ∀ t, s ≠ .text t
  · obtain ⟨c,rest,word,safe,_⟩ := bareWord_start s
    rw [scalarAt_bare stored bare,word]
    exact written_plainText (written_basics safe.rest.basic)
  · simp only [not_forall,not_not] at bare
    obtain ⟨t,rfl⟩ := bare
    have quotes : isBasic '\'' = true ∧ isBasic '"' = true := by decide
    rw [scalarAt,textAt,styleOf]
    by_cases double : needsDouble t.toList = true
    · rw [if_pos double,styledText]
      simp [quotes,written_doubleText]
    have written : Written t.toList := (SingleRest.of_single (Bool.not_eq_true _ ▸ double)).basic
    rw [if_neg double]
    split
    · exact written_plainText written
    · rw [styledText]
      simp [quotes,written_singleText written]

theorem written_name {name : String} (named : isFieldName name = true) : Written name.toList := by
  simp only [isFieldName,Bool.and_eq_true,List.all_eq_true] at named
  exact written_basics fun c member => word_basic (named.1.1.2 c member)

theorem written_items {items : List Value}
    (written : ∀ item ∈ items, ∀ column, Written (blockAt column item)) (column : Nat) :
    Written (itemsAt column items) := by
  have marks : isBasic '-' = true ∧ isBasic ' ' = true ∧ isBasic '[' = true ∧
      isBasic ']' = true := by decide
  induction items with
  | nil => simp [itemsAt,marks]
  | cons item rest ih =>
    have rest_written := ih fun item member => written item (.tail _ member)
    rw [itemsAt_cons]
    cases rest with
    | nil => simp [marks,itemsAfter,written item]
    | cons next rest => simp [marks,itemsAfter_cons,written item,rest_written]

theorem written_entries {entries : List (Scalar × Value)} (filled : entries ≠ [])
    (named : Named entries) (column : Nat)
    (written : ∀ e ∈ entries, ∀ used, Written (fieldAt column used e.2)) :
    Written (entriesAt column entries) := by
  have colon : isBasic ':' = true := by decide
  induction entries with
  | nil => exact absurd rfl filled
  | cons e rest ih =>
    obtain ⟨name,key,fieldName⟩ := named e (by simp)
    have first := written e (by simp)
    obtain ⟨_,value⟩ := e
    subst key
    rw [entriesAt_cons]
    cases rest with
    | nil => simp [written_name fieldName,colon,first,entriesAfter]
    | cons next rest =>
      have rest_written := ih (List.cons_ne_nil _ _) (fun e member => named e (.tail _ member))
        fun e member => written e (.tail _ member)
      simp [written_name fieldName,colon,first,entriesAfter_cons,rest_written]

theorem Stored.written (stored : Stored depth v) (column : Nat) :
    Written (blockAt column v) ∧ ∀ used, Written (fieldAt column used v) := by
  have marks : isBasic ' ' = true ∧ isBasic '[' = true ∧ isBasic ']' = true := by decide
  induction stored generalizing column with
  | scalar known => simp [blockAt,fieldAt,marks,written_scalarAt known]
  | @list depth items _ ih =>
    have items_written := written_items fun item member column => (ih item member column).1
    refine ⟨by rw [blockAt]; exact items_written column,fun used => ?_⟩
    by_cases filled : items = []
    · subst filled
      simp [fieldAt,marks]
    · simp [fieldAt_list filled,items_written]
  | @mapping depth entries filled _ named _ ih =>
    have entries_written := fun column =>
      written_entries filled named column fun e member used => (ih e member column).2 used
    refine ⟨by rw [blockAt]; exact entries_written column,fun used => ?_⟩
    simp [fieldAt_mapping filled,entries_written]

/-! ## Sizes -/

theorem scalarAt_filled {s : Scalar} (known : isStored s = true) (indent column : Nat) :
    0 < (scalarAt indent column s).length := by
  obtain ⟨c,rest,same,_⟩ := scalarAt_begins known indent column []
  rw [List.append_nil] at same
  rw [same]
  exact Nat.succ_pos _

theorem size_items {node : Value → Node} {items : List Value} (column : Nat)
    (smaller : ∀ item ∈ items, ∀ column, 3 * (node item).size ≤ 2 * (blockAt column item).length)
    (filled : items ≠ []) :
    3 * sizeOfItems (items.map node) + 4 ≤ 2 * (itemsAt column items).length := by
  induction items with
  | nil => exact absurd rfl filled
  | cons item rest ih =>
    have first := smaller item (by simp) (column + 2)
    rw [itemsAt_cons]
    simp only [List.map_cons,sizeOfItems,List.length_cons,List.length_append]
    cases rest with
    | nil =>
      simp only [List.map_nil,sizeOfItems]
      omega
    | cons next rest =>
      have others := ih (fun item member => smaller item (.tail _ member)) (List.cons_ne_nil _ _)
      simp only [itemsAfter_cons,List.length_append]
      omega

theorem size_entries {node : Value → Node} {entries : List (Scalar × Value)} (column : Nat)
    (named : Named entries)
    (smaller : ∀ e ∈ entries, ∀ used,
      3 * (node e.2).size + 3 ≤ 2 * (fieldAt column used e.2).length)
    (filled : entries ≠ []) :
    3 * sizeOfEntries (entries.map fun e => (scalarOf e.1,node e.2)) + 4 ≤
      2 * (entriesAt column entries).length := by
  induction entries with
  | nil => exact absurd rfl filled
  | cons e rest ih =>
    obtain ⟨name,key,fieldName⟩ := named e (by simp)
    obtain ⟨c,word,chars,_⟩ := name_begins fieldName
    obtain ⟨_,value⟩ := e
    subst key
    have first : 3 * (node value).size + 3 ≤
        2 * (fieldAt column name.toList.length value).length :=
      smaller (.text name,value) (by simp) _
    rw [entriesAt_cons]
    simp only [List.map_cons,sizeOfEntries,List.length_cons,List.length_append,scalarOf_size]
    have long : 0 < name.toList.length := by
      rw [chars]
      exact Nat.succ_pos _
    cases rest with
    | nil =>
      simp only [List.map_nil,sizeOfEntries]
      omega
    | cons next rest =>
      have others := ih (fun e member => named e (.tail _ member))
        (fun e member => smaller e (.tail _ member)) (List.cons_ne_nil _ _)
      simp only [entriesAfter_cons,List.length_append]
      omega

-- A node is never larger than its text, by which the readers are bounded.
theorem Stored.size (stored : Stored depth v) (column : Nat) :
    3 * (nodeOf depth v).size ≤ 2 * (blockAt column v).length ∧
      ∀ used, 3 * (nodeOf depth v).size + 3 ≤ 2 * (fieldAt column used v).length := by
  induction stored generalizing column with
  | @scalar depth s known =>
    rw [nodeOf_scalar,scalarOf_size]
    constructor
    · have filled := scalarAt_filled known column column
      simp only [blockAt,List.length_append,List.length_singleton]
      omega
    · intro used
      have filled := scalarAt_filled known (column + 2) (column + used + 2)
      simp only [fieldAt,List.length_append,List.length_cons,List.length_nil]
      omega
  | @list depth items _ ih =>
    by_cases filled : items = []
    · subst filled
      exact ⟨by simp [blockAt,itemsAt,nodeOf,Node.size,sizeOfItems],fun used => by
        simp [fieldAt,nodeOf,Node.size,sizeOfItems]⟩
    · have smaller := fun column =>
        size_items column (fun item member column => (ih item member column).1) filled
      have here := smaller column
      rw [nodeOf,Node.size]
      constructor
      · rw [blockAt]
        omega
      · intro used
        simp only [fieldAt_list filled,newLine,List.length_append,List.length_cons]
        omega
  | @mapping depth entries filled _ named _ ih =>
    have smaller := fun column => size_entries column named
      (fun e member used => (ih e member column).2 used) filled
    have here := smaller column
    have inner := smaller (column + 2)
    rw [nodeOf,Node.size]
    constructor
    · rw [blockAt]
      omega
    · intro used
      simp only [fieldAt_mapping filled,newLine,List.length_append,List.length_cons]
      omega

/-! ## Whole documents -/

theorem basic_bounds (basic : isBasic c = true) : 32 ≤ c.toNat ∧ c.toNat ≤ 126 := by
  simp only [isBasic,Bool.and_eq_true,decide_eq_true_eq] at basic
  exact basic

theorem Written.allowed (written : Written cs) : cs.all isAllowed = true := by
  rw [List.all_eq_true]
  intro c member
  rcases written c member with rfl | basic
  · rfl
  · have bounds := basic_bounds basic
    simp [isAllowed,bounds]

theorem Written.unified (written : Written cs) : unifyBreaks cs = cs := by
  induction cs with
  | nil => rfl
  | cons c cs ih =>
    rw [written_cons] at written
    have other : c ≠ '\r' := by
      rintro rfl
      rcases written.1 with line | basic
      · cases line
      · cases basic
    rw [unifyBreaks.eq_4 c cs (fun _ same => absurd same other) other,ih written.2]

theorem length_glyphsFrom (p : Spot) (cs : List Char) : (glyphsFrom p cs).length = cs.length := by
  induction cs generalizing p with
  | nil => rfl
  | cons c cs ih => simp [glyphsFrom,ih]

theorem glyphs_written (written : Written (c :: cs)) (first : isBasic c = true) :
    glyphs (unifyBreaks (c :: cs)) = .ok (glyphsFrom {} (c :: cs)) := by
  rw [written.unified,glyphs,written.allowed,if_pos rfl,withoutMark,if_neg (basic_not_mark first)]

-- A document whose first line begins with a key.
theorem readDocument_key {text : List Char} (letter : isWordChar c = true) {node : Node}
    (read : Yields (blockNode (2 * (text.length + 1) + 8) 0 true false {}
      { rest := glyphsFrom {} (c :: text) }) { rest := glyphsFrom {} (c :: text) } node []) :
    readDocument (glyphsFrom {} (c :: text)) = .ok (some node) := by
  obtain ⟨gs,found,q,start,same⟩ := read
  have limit : limitFor (glyphsFrom {} (c :: text)) = 2 * (text.length + 1) + 8 := by
    rw [limitFor,length_glyphsFrom,List.length_cons]
  have percent : c ≠ '%' := by
    rintro rfl
    cases letter
  have directives : readDirectives (2 * (text.length + 1) + 8) {} (glyphsFrom {} (c :: text)) =
      .ok ({},glyphsFrom {} (c :: text)) := by
    rw [readDirectives,skipGap_solid (word_solid letter)]
    simp [glyphsFrom,percent]
  have unmarked := word_unmarked (p := {}) letter text
  rw [atDocumentMarker,Bool.or_eq_false_iff] at unmarked
  have ends : checkEnd (2 * (text.length + 1) + 8) gs = .ok () := by
    have nothing : (skipGap false false gs).2 = [] := same
    rw [checkEnd,nothing]
  have nonempty : (glyphsFrom {} (c :: text)).isEmpty = false := rfl
  rw [readDocument,limit,directives]
  simp only [ok_bind,nonempty,unmarked,found,Feed.move_rest,ends]
  rfl

-- A stored mapping is read as its node.
theorem readDocument_stored {entries : List (Scalar × Value)}
    (stored : Stored (depth + 1) (.mapping entries)) (narrow : 2 + 2 * depth < width) :
    readDocument (glyphsFrom {} (blockAt 0 (.mapping entries))) =
      .ok (some (nodeOf (depth + 1) (.mapping entries))) := by
  have size := (stored.size 0).1
  cases stored with
  | mapping filled distinct named fields =>
    obtain ⟨c,text,same,letter⟩ := entriesAt_begins filled named 0 []
    rw [List.append_nil] at same
    rw [blockAt,same] at size ⊢
    have gap : skipGap false false (glyphsFrom {} (c :: text)) =
        (false,glyphsFrom {} (entriesAt 0 entries ++ [])) := by
      rw [List.append_nil,same]
      exact skipGap_solid (word_solid letter) false text
    have reads := fun e member => (fields e member).reads
    refine readDocument_key letter
      (mapping_read filled named reads (by omega) rfl gap rfl (Nat.le_refl 0) (.inl rfl) ?_)
    rw [List.length_cons] at size
    omega

theorem read_write {entries : List (Scalar × Value)}
    (stored : Stored (depth + 1) (.mapping entries)) (narrow : 2 + 2 * depth < width) :
    read (write (.mapping entries)) = .ok (.mapping entries) := by
  have written := (stored.written 0).1
  have node := readDocument_stored stored narrow
  have value := stored.value
  cases stored with
  | mapping filled distinct named fields =>
    obtain ⟨c,text,same,letter⟩ := entriesAt_begins filled named 0 []
    rw [List.append_nil] at same
    rw [blockAt,same] at written node
    rw [read,write,String.toList_ofList,blockAt,same,glyphs_written written (word_basic letter)]
    simp only [ok_bind,node,value]

end WireGraph.Yaml
