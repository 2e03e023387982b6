import WireGraph.Proofs.Yaml.Escape

/-!
# Scalars read back

A scalar behind a space, as the value of a field or as an item. Main statement: it is read as the
scalar that was written, and what comes behind its line is left.
-/

namespace WireGraph.Yaml

open Document (Scalar)

variable {p : Spot} {c : Char} {cs : List Char} {floor indent : Nat} {suffix : List Char}

-- What nothing but a scalar can begin with.
structure Begins (c : Char) (rest : List Char) : Prop where
  solid : isSolid c = true
  mark : ['%','|','>','[','\x7b','&','!'].contains c = false
  alone : c = '-' ∨ c = '?' → blankNext rest = false

-- The scalars that a record holds.
def isStored : Scalar → Bool
  | .null | .flag _ | .text _ => true
  | _ => false

def scalarOf : Scalar → Node
  | .null => .scalar .null "null"
  | .flag b => .scalar .flag (flagWord b)
  | .text s => .scalar .text s
  | _ => .scalar .null ""

@[simp] theorem ok_bind {ε α β : Type} (a : α) (f : α → Except ε β) :
    (Except.ok a >>= f) = f a := rfl

@[simp] theorem ok_map {ε α β : Type} (f : α → β) (a : α) :
    f <$> (Except.ok a : Except ε α) = .ok (f a) := rfl

@[simp] theorem Feed.move_rest (feed : Feed) (gs : List Glyph) : (feed.move gs).rest = gs := rfl

@[simp] theorem Feed.move_move (feed : Feed) (gs more : List Glyph) :
    (feed.move gs).move more = feed.move more := rfl

@[simp] theorem wrapped_bare {α : Type} (feed : Feed) (make : α → Node)
    (content : Feed → Except Fault (α × Feed)) :
    wrapped {} feed make content = (fun found => (make found.1,found.2)) <$> content feed := by
  change (content feed >>= fun found => .ok (make found.1,found.2)) = _
  cases content feed <;> rfl

-- A scalar that was read: the node, and what is left behind its line.
def ScalarRead (floor : Nat) (feed : Feed) (suffix : List Char) (node : Node) : Prop :=
  ∃ gs, readScalar false floor {} feed = .ok (some (node,feed.move gs)) ∧ Rests suffix gs ∧
    ∀ start, afterKey? false start gs = none

theorem newline_rests (q : Spot) (suffix : List Char) :
    Rests suffix (glyphsFrom q ('\n' :: suffix)) := ⟨q.after '\n',rfl,afterGap_newline q suffix⟩

-- Behind a quoted text its line ends.
theorem newline_keyless (q : Spot) (suffix : List Char) (start : Spot) :
    afterKey? false start (glyphsFrom q ('\n' :: suffix)) = none := rfl

theorem Resumes.keyless {word dash : Nat} (resumes : Resumes word dash suffix)
    (start : p.column = 0) (spot : Spot) :
    afterKey? false spot (afterGap (glyphsFrom p suffix)) = none := by
  rcases resumes.token start with ⟨rfl,none⟩ | ⟨q,c,rest,same,token⟩
  · rw [none]
    rfl
  · have other : c ≠ ' ' ∧ c ≠ ':' := by
      rcases token with ⟨letter,_⟩ | ⟨rfl,_⟩
      · constructor <;> rintro rfl <;> cases letter
      · decide
    rw [same]
    simp [afterKey?,glyphsFrom,skipSpaces,other]

/-! ## Each style -/

section Styles
variable {feed : Feed} {gs : List Glyph} {more : List Char}

theorem readScalar_quote (here : feed.rest = glyphsFrom p ('\'' :: more))
    (read : singleFrom .nothing (glyphsFrom (p.after '\'') more) = .ok (cs,gs)) :
    readScalar false floor {} feed = .ok (some (.scalar .text (String.ofList cs),feed.move gs)) := by
  rw [readScalar,here,glyphsFrom]
  change (some <$> wrapped {} feed (scalarNode {} false) _) = _
  rw [wrapped_bare,read]
  rfl

theorem readScalar_doubleQuote (here : feed.rest = glyphsFrom p ('"' :: more))
    (read : doubleFrom (.text .nothing) (glyphsFrom (p.after '"') more) =
      .ok (Text.pieces cs,gs)) :
    readScalar false floor {} feed = .ok (some (.scalar .text (String.ofList cs),feed.move gs)) := by
  have whole : quotedNode {} (Text.pieces cs) = .scalar .text (String.ofList cs) := by
    rw [quotedNode,Text.whole_pieces]
    rfl
  rw [readScalar,here,glyphsFrom]
  change (some <$> wrapped {} feed (quotedNode {}) _) = _
  rw [wrapped_bare,read]
  exact congrArg (fun node => Except.ok (some (node,feed.move gs))) whole

theorem readScalar_plain (here : feed.rest = glyphsFrom p (c :: more))
    (marks : c ≠ '*' ∧ c ≠ '\'' ∧ c ≠ '"')
    (begins : beginsPlain false ⟨c,p⟩ (glyphsFrom (p.after c) more) = true)
    (read : plainFrom false floor .nothing (glyphsFrom p (c :: more)) = (cs,gs)) :
    readScalar false floor {} feed =
      .ok (some (.scalar (kindOf (String.ofList cs)) (String.ofList cs),feed.move gs)) := by
  rw [glyphsFrom] at read
  rw [readScalar,here,glyphsFrom]
  dsimp only
  rw [if_neg marks.1,if_neg marks.2.1,if_neg marks.2.2,if_pos begins,wrapped_bare,read]
  rfl

theorem single_read (indented : 0 < indent) (column : Nat) (safe : SingleRest none cs)
    (here : feed.rest = glyphsFrom p (styledText .single indent column cs ++ '\n' :: suffix)) :
    ScalarRead floor feed suffix (.scalar .text (String.ofList cs)) := by
  have carries : Carries none cs.head? .nothing := ⟨by simp,by simp⟩
  obtain ⟨q,read⟩ := singleFrom_text indented suffix safe (column + 1) carries (p.after '\'')
  refine ⟨_,readScalar_quote ?_ read,newline_rests q suffix,newline_keyless q suffix⟩
  rw [here,styledText,List.cons_append,List.cons_append,List.append_assoc,List.singleton_append]

theorem double_read (indented : 0 < indent) (narrow : indent < width) (column : Nat)
    (here : feed.rest = glyphsFrom p (styledText .double indent column cs ++ '\n' :: suffix)) :
    ScalarRead floor feed suffix (.scalar .text (String.ofList cs)) := by
  have gives : Gives (.text .nothing)
      (doubleText indent (column + 1) true false cs ++ '"' :: '\n' :: suffix) cs ('\n' :: suffix) :=
    doubleText_gives indented narrow suffix (column + 1) true false trivial
  obtain ⟨q,read⟩ := gives (p.after '"')
  refine ⟨_,readScalar_doubleQuote ?_ read,newline_rests q suffix,newline_keyless q suffix⟩
  rw [here,styledText,List.cons_append,List.cons_append,List.append_assoc,List.singleton_append]

-- A text that may stand without quotes, its kind apart.
structure PlainStart (c : Char) (cs : List Char) : Prop where
  space : c ≠ ' '
  start : badStart (c :: cs) = false
  rest : PlainRest c cs

theorem plainText_first (space : c ≠ ' ') (indent column : Nat) (cs : List Char) :
    plainText indent column none (c :: cs) = c :: plainText indent (column + 1) (some c) cs := by
  rw [plainText,if_neg]
  exact fun breaks => space (breaksHere_parts breaks).1

theorem PlainStart.follows (safe : PlainStart c cs)
    (lone : c = '?' ∨ c = ':' ∨ c = '-') (indent column : Nat) (more : List Char) :
    blankNext (plainText indent column (some c) cs ++ more) = false := by
  refine blankNext_plainText ?_
  have start := safe.start
  simp only [badStart,Bool.or_eq_false_iff,Bool.and_eq_false_imp] at start
  exact start.1.1.2 (by simpa [or_assoc] using lone)

theorem PlainStart.unindicated (safe : PlainStart c cs) : leadIndicators.contains c = false := by
  have start := safe.start
  simp only [badStart,Bool.or_eq_false_iff] at start
  exact start.1.1.1

theorem PlainStart.begins (safe : PlainStart c cs) (indent column : Nat) (more : List Char) :
    beginsPlain false ⟨c,p⟩
      (glyphsFrom (p.after c) (plainText indent column (some c) cs ++ more)) = true := by
  have solid := basic_not_blank (safe.rest.basic c (by simp)) safe.space
  have unindicated := safe.unindicated
  by_cases lone : c = '?' ∨ c = ':' ∨ c = '-'
  · have next := safe.follows lone indent column more
    rw [beginsPlain,atBlank_glyphs,next]
    rcases lone with rfl | rfl | rfl <;> rfl
  · have plain : indicators.contains c = false := by
      simp only [leadIndicators,List.contains_cons,List.contains_nil,Bool.or_eq_false_iff,
        beq_eq_false_iff_ne] at unindicated
      simp [indicators,unindicated] at lone ⊢
      exact ⟨lone.2.2,lone.1,lone.2.1⟩
    rw [beginsPlain,solid,plain]
    rfl

theorem plain_read (room : floor ≤ indent) (indented : 0 < indent)
    (resumes : Resumes floor floor suffix) (column : Nat) (safe : PlainStart c cs)
    (inside : floor ≤ p.column) (here : feed.rest = glyphsFrom p
      (plainText indent column none (c :: cs) ++ '\n' :: suffix)) :
    ScalarRead floor feed suffix
      (.scalar (kindOf (String.ofList (c :: cs))) (String.ofList (c :: cs))) := by
  have basic := safe.rest.basic c (by simp)
  have carries : Carries (some c) cs.head? .nothing :=
    .solid safe.space (safe.rest.not_newline <| congrArg some ·) _
  obtain ⟨q,start,read⟩ := plainFrom_text room indented resumes safe.rest (column + 1) carries
    (p.after c) (by rw [after_basic basic]; exact Nat.le_succ_of_le inside)
  have unindicated := safe.unindicated
  rw [plainText_first safe.space,List.cons_append] at here
  refine ⟨_,readScalar_plain here ?_ ?_ ?_,⟨q,start,afterGap_again _⟩,resumes.keyless start⟩
  · refine ⟨?_,?_,?_⟩ <;> rintro rfl <;> cases unindicated
  · exact safe.begins _ _ _
  · rw [plainFrom_char basic safe.space
      (fun colon => safe.follows (.inr (.inl colon)) _ _ _) (fun _ => rfl) (.inl rfl),read]
    rfl

-- A text in each style begins with a character that nothing but a scalar begins with.
theorem styled_begins (style : Style)
    (plain : style = .plain → ∃ c rest, cs = c :: rest ∧ PlainStart c rest)
    (indent column : Nat) (more : List Char) : ∃ c rest,
    styledText style indent column cs ++ more = c :: rest ∧ Begins c rest := by
  cases style with
  | single => exact ⟨'\'',_,rfl,rfl,rfl,by rintro (⟨⟨⟩⟩ | ⟨⟨⟩⟩)⟩
  | double => exact ⟨'"',_,rfl,rfl,rfl,by rintro (⟨⟨⟩⟩ | ⟨⟨⟩⟩)⟩
  | plain =>
    obtain ⟨c,rest,rfl,safe⟩ := plain rfl
    refine ⟨c,plainText indent (column + 1) (some c) rest ++ more,?_,?_,?_,?_⟩
    · rw [styledText,plainText_first safe.space,List.cons_append]
    · have sign : c ≠ '#' := by
        rintro rfl
        cases safe.unindicated
      simp [isSolid,basic_not_break (safe.rest.basic c (by simp)),safe.space,sign]
    · have unindicated := safe.unindicated
      simp only [leadIndicators,List.contains_cons,List.contains_nil,Bool.or_eq_false_iff,
        beq_eq_false_iff_ne] at unindicated
      simp [unindicated]
    · exact fun lone => safe.follows (by tauto) _ _ _

end Styles

/-! ## Stored scalars -/

theorem PlainStart.of_plainText (plain : isPlainText cs = true) (single : needsDouble cs = false) :
    ∃ c rest, cs = c :: rest ∧ PlainStart c rest := by
  cases cs with
  | nil => cases plain
  | cons c rest =>
    simp only [isPlainText,Bool.and_eq_true,Bool.not_eq_true',bne_iff_ne,beq_iff_eq] at plain
    obtain ⟨⟨⟨⟨⟨_,line⟩,space⟩,last⟩,start⟩,inside⟩ := plain
    simp only [needsDouble,Bool.or_eq_false_iff,List.any_eq_false,Bool.and_eq_true,
      Bool.not_eq_true',bne_iff_ne] at single
    refine ⟨c,rest,rfl,space,start,fun d member => ?_,inside,last⟩
    have newline : d ≠ '\n' := by
      rintro rfl
      simp [member] at line
    cases basic : isBasic d with
    | true => rfl
    | false => exact absurd ⟨newline,basic⟩ (single.1 d member)

theorem SingleRest.of_single (single : needsDouble cs = false) : SingleRest none cs where
  basic := by
    intro c member
    simp only [needsDouble,Bool.or_eq_false_iff,List.any_eq_false,Bool.and_eq_true,
      Bool.not_eq_true',bne_iff_ne] at single
    by_cases line : c = '\n'
    · exact .inl line
    · cases basic : isBasic c with
      | true => exact .inr rfl
      | false => exact absurd ⟨line,basic⟩ (single.1 c member)
  firm := by
    simp only [needsDouble,Bool.or_eq_false_iff] at single
    exact single.2

theorem isPlainText_kind (plain : isPlainText cs = true) :
    kindOf (String.ofList cs) = .text := by
  cases cs with
  | nil => cases plain
  | cons c rest =>
    simp only [isPlainText,Bool.and_eq_true,beq_iff_eq] at plain
    exact plain.1.1.1.1.1

theorem plainText_spaceless {column : Nat} {before : Option Char} (spaceless : ' ' ∉ cs) :
    plainText indent column before cs = cs := by
  induction cs generalizing column before with
  | nil => rfl
  | cons c cs ih =>
    rw [plainText,if_neg,ih (List.not_mem_of_not_mem_cons spaceless)]
    exact fun breaks => spaceless (by simp [(breaksHere_parts breaks).1])

-- What a value is written with when it is no text.
def bareWord : Scalar → List Char
  | .flag b => (flagWord b).toList
  | _ => ['n','u','l','l']

theorem bareWord_start (s : Scalar) :
    ∃ c rest, bareWord s = c :: rest ∧ PlainStart c rest ∧ ' ' ∉ bareWord s := by
  have word : ∀ c rest, badStart (c :: rest) = false → badInside c rest = false →
      (c :: rest).all (fun d => isBasic d && d != ' ') = true →
        PlainStart c rest ∧ ' ' ∉ c :: rest := by
    intro c rest start inside basic
    simp only [List.all_eq_true,Bool.and_eq_true,bne_iff_ne] at basic
    refine ⟨⟨(basic c (by simp)).2,start,fun d member => (basic d member).1,inside,?_⟩,
      fun member => (basic ' ' member).2 rfl⟩
    exact fun last => (basic ' ' (List.mem_of_getLast? last)).2 rfl
  cases s with
  | flag b =>
    cases b with
    | true => exact ⟨'t',['r','u','e'],rfl,word _ _ rfl rfl rfl⟩
    | false => exact ⟨'f',['a','l','s','e'],rfl,word _ _ rfl rfl rfl⟩
  | _ => exact ⟨'n',['u','l','l'],rfl,word _ _ rfl rfl rfl⟩

-- How a scalar that is no text is written: its word in plain style.
theorem scalarAt_bare {s : Scalar} (stored : isStored s = true) (bare : ∀ t, s ≠ .text t)
    (indent column : Nat) :
    scalarAt indent column s = plainText indent column none (bareWord s) := by
  obtain ⟨c,rest,_,_,spaceless⟩ := bareWord_start s
  rw [plainText_spaceless spaceless]
  cases s with
  | text t => exact absurd rfl (bare t)
  | null => rfl
  | flag b => rfl
  | _ => cases stored

theorem bareWord_node {s : Scalar} (stored : isStored s = true) (bare : ∀ t, s ≠ .text t) :
    Node.scalar (kindOf (String.ofList (bareWord s))) (String.ofList (bareWord s)) = scalarOf s := by
  cases s with
  | text t => exact absurd rfl (bare t)
  | null =>
    have kind : kindOf (String.ofList (bareWord .null)) = .null := by decide
    rw [kind]
    rfl
  | flag b =>
    have kind : kindOf (String.ofList (bareWord (.flag b))) = .flag := by cases b <;> decide
    rw [kind,bareWord,String.ofList_toList]
    rfl
  | _ => cases stored

theorem scalarAt_read (room : floor ≤ indent) (indented : 0 < indent) (narrow : indent < width)
    (resumes : Resumes floor floor suffix) (column : Nat) {s : Scalar} (stored : isStored s = true)
    (inside : floor ≤ p.column) {feed : Feed}
    (here : feed.rest = glyphsFrom p (scalarAt indent column s ++ '\n' :: suffix)) :
    ScalarRead floor feed suffix (scalarOf s) := by
  by_cases bare : ∀ t, s ≠ .text t
  · obtain ⟨c,rest,word,safe,_⟩ := bareWord_start s
    rw [scalarAt_bare stored bare,word] at here
    rw [← bareWord_node stored bare,word]
    exact plain_read room indented resumes column safe inside here
  · simp only [not_forall,not_not] at bare
    obtain ⟨t,rfl⟩ := bare
    rw [scalarAt,textAt,styleOf] at here
    rw [scalarOf,← String.ofList_toList (s := t)]
    by_cases double : needsDouble t.toList = true
    · rw [if_pos double] at here
      exact double_read indented narrow column here
    rw [Bool.not_eq_true] at double
    rw [double,if_neg Bool.false_ne_true] at here
    by_cases plain : isPlainText t.toList = true
    · rw [if_pos plain] at here
      obtain ⟨c,rest,same,safe⟩ := PlainStart.of_plainText plain double
      rw [← isPlainText_kind plain]
      rw [same] at here ⊢
      exact plain_read room indented resumes column safe inside here
    · rw [if_neg plain] at here
      exact single_read indented column (.of_single double) here

theorem scalarAt_begins {s : Scalar} (stored : isStored s = true) (indent column : Nat)
    (more : List Char) : ∃ c rest, scalarAt indent column s ++ more = c :: rest ∧ Begins c rest := by
  by_cases bare : ∀ t, s ≠ .text t
  · obtain ⟨c,rest,word,safe,_⟩ := bareWord_start s
    rw [scalarAt_bare stored bare]
    exact styled_begins .plain (fun _ => ⟨c,rest,word,safe⟩) indent column more
  · simp only [not_forall,not_not] at bare
    obtain ⟨t,rfl⟩ := bare
    refine styled_begins _ (fun style => ?_) indent column more
    rw [styleOf] at style
    by_cases double : needsDouble t.toList = true
    · rw [if_pos double] at style
      cases style
    rw [Bool.not_eq_true] at double
    rw [double,if_neg Bool.false_ne_true] at style
    by_cases plain : isPlainText t.toList = true
    · exact PlainStart.of_plainText plain double
    · rw [if_neg plain] at style
      cases style

end WireGraph.Yaml
