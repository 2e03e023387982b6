import WireGraph.Proofs.Yaml.Scalar

/-!
# Keys and other nodes of one line

What a block can hold without a block inside it: scalars, keys and empty lists. Main statements: a
scalar and an empty list are read as such wherever a block holds them, and a field name is read as a
key, with what comes behind its colon left.
-/

namespace WireGraph.Yaml

open Document (Scalar Value)

variable {p : Spot} {c : Char} {cs suffix : List Char} {floor limit : Nat} {feed : Feed}

theorem readProp_none (anchor : c ≠ '&') (tag : c ≠ '!') (props : Props)
    (here : feed.rest = glyphsFrom p (c :: cs)) : readProp props feed = .ok none := by
  rw [readProp,here,glyphsFrom]
  dsimp only
  rw [if_neg anchor,if_neg tag]

theorem readKey_read {node : Node} {gs : List Glyph} {more : List Char} (begins : Begins c more)
    (here : feed.rest = glyphsFrom p (c :: cs))
    (read : readScalar false floor {} feed = .ok (some (node,feed.move gs))) (limit : Nat) :
    readKey? limit floor feed =
      .ok ((afterKey? false p gs).map fun rest => (node,feed.move rest)) := by
  have mark := begins.mark
  simp only [List.contains_cons,List.contains_nil,Bool.or_eq_false_iff,beq_eq_false_iff_ne] at mark
  have props : readProps feed = .ok ({},feed) := by
    rw [readProps,readProp_none (by simp [mark]) (by simp [mark]) {} here]
    rfl
  have bracket : atChar '[' feed.rest = false := by simp [here,glyphsFrom,atChar,mark]
  have brace : atChar '\x7b' feed.rest = false := by simp [here,glyphsFrom,atChar,mark]
  have start : spotOf feed.rest = p := by rw [here]; rfl
  simp [readKey?,props,bracket,brace,read,Feed.move,start,pure,Except.pure]

-- A node of a block that is no list is a mapping where a key stands, and a scalar otherwise.
theorem blockNode_begins {crossed : Bool} {more : List Char} (begins : Begins c more)
    (gap : skipGap false false feed.rest = (crossed,glyphsFrom p (c :: more)))
    (unmarked : atDocumentMarker (glyphsFrom p (c :: more)) = false) (inside : floor ≤ p.column)
    (keyOk seqOk : Bool) : blockNode (limit + 1) floor keyOk seqOk {} feed = (do
      let here := feed.move (glyphsFrom p (c :: more))
      let isKey ← if keyOk || crossed then (·.isSome) <$> readKey? limit floor here else .ok false
      if isKey then
        (fun found => (mappingNode {} found.1,found.2)) <$> blockEntries limit p.column here
      else match ← readScalar false floor {} here with
        | some found => return found
        | none => .error .malformed) := by
  have mark := begins.mark
  simp only [List.contains_cons,List.contains_nil,Bool.or_eq_false_iff,beq_eq_false_iff_ne] at mark
  have prop : readProp {} (feed.move (glyphsFrom p (c :: more))) = .ok none :=
    readProp_none (by simp [mark]) (by simp [mark]) {} rfl
  have indicator : ∀ mark : Char, mark = '-' ∨ mark = '?' →
      atIndicator mark (glyphsFrom p (c :: more)) = false := by
    intro mark either
    rw [glyphsFrom,atIndicator,atBlank_glyphs,Bool.and_eq_false_imp]
    intro same
    rw [beq_iff_eq] at same
    exact begins.alone (by rwa [← same] at either)
  have dash := indicator '-' (.inl rfl)
  have query := indicator '?' (.inr rfl)
  obtain ⟨gs,same⟩ : ∃ gs, glyphsFrom p (c :: more) = ⟨c,p⟩ :: gs := ⟨_,rfl⟩
  rw [same] at prop dash query unmarked gap ⊢
  rw [blockNode,gap]
  dsimp only
  rw [unmarked,if_neg Bool.false_ne_true,if_neg (by simp [mark]),if_neg (Nat.not_lt.2 (by omega)),
    if_neg (by simp [mark]),if_neg (Nat.not_lt.2 inside),dash,if_neg Bool.false_ne_true,query]
  have bracket : ¬(c = '[' ∨ c = '\x7b') := by simp [mark]
  simp only [prop,wrapped_bare,ok_bind,if_neg bracket]
  cases keyOk || crossed <;> rfl

-- A scalar as the value of a field or as an item.
theorem blockNode_scalar {indent column : Nat} {s : Scalar} {crossed : Bool} (room : floor ≤ indent)
    (inner : 0 < floor) (narrow : indent < width) (resumes : Resumes floor floor suffix)
    (stored : isStored s = true) (inside : floor ≤ p.column) (keyOk seqOk : Bool)
    (gap : skipGap false false feed.rest =
      (crossed,glyphsFrom p (scalarAt indent column s ++ '\n' :: suffix))) :
    ∃ gs, blockNode (limit + 1) floor keyOk seqOk {} feed = .ok (scalarOf s,feed.move gs) ∧
      Rests suffix gs := by
  obtain ⟨gs,read,rests,keyless⟩ := scalarAt_read room (by omega) narrow resumes column stored
    inside (feed.move_rest (glyphsFrom p (scalarAt indent column s ++ '\n' :: suffix)))
  obtain ⟨c,rest,same,begins⟩ := scalarAt_begins stored indent column ('\n' :: suffix)
  rw [same] at read gap
  have key := readKey_read begins rfl read limit
  rw [keyless] at key
  refine ⟨gs,?_,rests⟩
  rw [blockNode_begins begins gap (Yaml.unmarked (.inl (by omega))) inside]
  simp only [key,read]
  cases keyOk || crossed <;> rfl

/-! ## Keys -/

-- A name of small letters that is a text as it stands, and no longer than a key may be.
def isFieldName (name : String) : Bool :=
  !name.toList.isEmpty && name.toList.all isWordChar && name.toList.length ≤ keyReach
    && kindOf name == .text

theorem word_apart {marks : List Char} (letter : isWordChar c = true)
    (apart : marks.any isWordChar = false) : marks.contains c = false := by
  rw [Bool.eq_false_iff]
  intro member
  rw [List.contains_iff_mem] at member
  exact absurd letter (List.any_eq_false.1 apart c member)

theorem word_begins (letter : isWordChar c = true) (rest : List Char) : Begins c rest where
  solid := word_solid letter
  mark := word_apart letter (by decide)
  alone := by rintro (rfl | rfl) <;> cases letter

theorem word_unmarked (letter : isWordChar c = true) (cs : List Char) :
    atDocumentMarker (glyphsFrom p (c :: cs)) = false := by
  refine unmarked_start ?_ ?_ p cs <;> rintro rfl <;> cases letter

theorem plainFrom_word (floor : Nat) {word more : List Char}
    (letters : ∀ c ∈ word, isWordChar c = true) (blank : blankNext more = true) (p : Spot) :
    plainFrom false floor .nothing (glyphsFrom p (word ++ ':' :: more)) =
      (word,glyphsFrom (p.along word.length) (':' :: more)) := by
  induction word generalizing p with
  | nil =>
    have ends : endsPlain false ⟨':',p⟩ (glyphsFrom (p.after ':') more) = true := by
      rw [endsPlain,atBlank_glyphs,blank]
      rfl
    rw [List.nil_append,glyphsFrom,plainFrom.eq_def]
    change (if endsPlain false ⟨':',p⟩ _ = true then _ else _) = _
    rw [ends,if_pos rfl]
    rfl
  | cons c word ih =>
    have letter := letters c (by simp)
    have basic := word_basic letter
    have other : c ≠ ' ' ∧ c ≠ ':' ∧ c ≠ '#' := by
      refine ⟨?_,?_,?_⟩ <;> rintro rfl <;> cases letter
    rw [List.cons_append,plainFrom_char basic other.1 (absurd · other.2.1) (fun _ => rfl) (.inl rfl),
      after_basic basic,ih fun d member => letters d (List.mem_cons_of_mem _ member)]
    simp only [Spot.along,List.length_cons,Scanned.after,Nat.add_assoc,Nat.add_comm 1]
    rfl

theorem word_beginsPlain (letter : isWordChar c = true) (rest : List Glyph) :
    beginsPlain false ⟨c,p⟩ rest = true := by
  have space : c ≠ ' ' := by
    rintro rfl
    cases letter
  have plain : indicators.contains c = false := word_apart letter (by decide)
  rw [beginsPlain,basic_not_blank (word_basic letter) space,plain]
  rfl

theorem readKey_field (limit floor : Nat) {name : String} {more : List Char}
    (named : isFieldName name = true) (blank : blankNext more = true)
    (here : feed.rest = glyphsFrom p (name.toList ++ ':' :: more)) : ∃ q : Spot,
      p.column < q.column ∧ readKey? limit floor feed =
        .ok (some (.scalar .text name,feed.move (glyphsFrom q more))) := by
  simp only [isFieldName,Bool.and_eq_true,Bool.not_eq_true',List.all_eq_true,decide_eq_true_eq,
    beq_iff_eq] at named
  obtain ⟨⟨⟨filled,letters⟩,short⟩,kind⟩ := named
  refine ⟨(p.along name.toList.length).after ':',?_,?_⟩
  · rw [after_basic (by decide)]
    exact Nat.lt_succ_of_le (Nat.le_add_right _ _)
  have read := plainFrom_word floor letters blank p
  have found : afterKey? false p (glyphsFrom (p.along name.toList.length) (':' :: more)) =
      some (glyphsFrom ((p.along name.toList.length).after ':') more) := by
    have next := atBlank_glyphs ((p.along name.toList.length).after ':') more
    rw [blank] at next
    simp [afterKey?,glyphsFrom,skipSpaces,next,short]
  obtain ⟨c,word,chars⟩ : ∃ c word, name.toList = c :: word := by
    cases chars : name.toList with
    | nil => simp [chars] at filled
    | cons c word => exact ⟨c,word,rfl⟩
  have letter := letters c (by simp [chars])
  have marks : c ≠ '*' ∧ c ≠ '\'' ∧ c ≠ '"' := by
    refine ⟨?_,?_,?_⟩ <;> rintro rfl <;> cases letter
  have begins := word_begins letter (word ++ ':' :: more)
  have text : String.ofList (c :: word) = name := by rw [← chars,String.ofList_toList]
  rw [chars,List.cons_append] at here read
  have scalar := readScalar_plain here marks (word_beginsPlain letter _) read
  rw [text,kind] at scalar
  rw [readKey_read begins here scalar,← chars,found]
  rfl

/-! ## Empty lists -/

theorem flowGap_solid (solid : isSolid c = true) (percent : c ≠ '%') (inside : p.column ≠ 0)
    (cs : List Char) : flowGap (glyphsFrom p (c :: cs)) = .ok (glyphsFrom p (c :: cs)) := by
  have unmarked : atDocumentMarker (glyphsFrom p (c :: cs)) = false := Yaml.unmarked (.inl inside)
  rw [flowGap,skipGap_solid solid]
  dsimp only
  rw [unmarked,if_neg Bool.false_ne_true,glyphsFrom]
  exact if_neg percent

theorem flowNode_empty (limit : Nat) (inside : p.column ≠ 0) (cs : List Char)
    (here : feed.rest = glyphsFrom p ('[' :: ']' :: cs)) :
    flowNode (limit + 2) {} feed =
      .ok (.sequence .list [],feed.move (glyphsFrom (p.along 2) cs)) := by
  have prop : readProp {} (feed.move (glyphsFrom p ('[' :: ']' :: cs))) = .ok none :=
    readProp_none (by decide) (by decide) {} rfl
  have items : flowItems (limit + 1) true (feed.move (glyphsFrom (p.after '[') (']' :: cs))) =
      .ok ([],feed.move (glyphsFrom (p.along 2) cs)) := by
    have closing : isSolid ']' = true := rfl
    rw [flowItems]
    simp only [Feed.move,flowGap_solid (p := p.after '[') closing (by decide)
      (Nat.succ_ne_zero _) cs,ok_bind]
    rfl
  rw [flowNode,here,flowGap_solid rfl (by decide) inside]
  simp only [ok_bind,prop,wrapped_bare]
  change (fun found => (sequenceNode {} found.1,found.2)) <$> flowItems (limit + 1) true
    (feed.move (glyphsFrom (p.after '[') (']' :: cs))) = _
  rw [items]
  rfl

theorem readKey_empty (floor : Nat) (prop : ∀ props, readProp props feed = .ok none)
    (here : feed.rest = glyphsFrom p ('[' :: ']' :: '\n' :: suffix))
    (flow : flowNode limit {} feed =
      .ok (.sequence .list [],feed.move (glyphsFrom (p.along 2) ('\n' :: suffix)))) :
    readKey? limit floor feed = .ok none := by
  have bracket : atChar '[' feed.rest = true := by
    rw [here]
    rfl
  have props : readProps feed = .ok ({},feed) := by
    rw [readProps,prop]
    rfl
  simp [readKey?,props,bracket,flow,Feed.move,newline_keyless,pure,Except.pure]

theorem blockNode_empty {crossed : Bool} (inner : 0 < floor) (inside : floor ≤ p.column)
    (keyOk seqOk : Bool) (suffix : List Char) (gap : skipGap false false feed.rest =
      (crossed,glyphsFrom p ('[' :: ']' :: '\n' :: suffix))) :
    blockNode (limit + 3) floor keyOk seqOk {} feed =
      .ok (.sequence .list [],feed.move (glyphsFrom (p.along 2) ('\n' :: suffix))) := by
  have unmarked : atDocumentMarker (glyphsFrom p ('[' :: ']' :: '\n' :: suffix)) = false :=
    Yaml.unmarked (.inl (by omega))
  have here := feed.move_rest (glyphsFrom p ('[' :: ']' :: '\n' :: suffix))
  have prop := fun props => readProp_none (by decide) (by decide) props here
  have flow := flowNode_empty limit (by omega : p.column ≠ 0) ('\n' :: suffix) here
  have key := readKey_empty floor prop here flow
  obtain ⟨gs,same⟩ : ∃ gs, glyphsFrom p ('[' :: ']' :: '\n' :: suffix) = ⟨'[',p⟩ :: gs := ⟨_,rfl⟩
  have dash : atIndicator '-' (⟨'[',p⟩ :: gs) = false := rfl
  have query : atIndicator '?' (⟨'[',p⟩ :: gs) = false := rfl
  rw [same] at unmarked prop flow key gap
  rw [blockNode,gap]
  dsimp only
  rw [unmarked,if_neg Bool.false_ne_true,if_neg (by simp),if_neg (Nat.not_lt.2 (by omega)),
    if_neg (by simp),if_neg (Nat.not_lt.2 inside),dash,if_neg Bool.false_ne_true,query,key]
  simp only [prop,flow,ok_bind,ok_map]
  cases keyOk || crossed <;> rfl

end WireGraph.Yaml
