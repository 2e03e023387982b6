import WireGraph.Yaml.Read
import WireGraph.Yaml.Write

/-!
# Where written characters stand

What the readers see of a written text: the spots of its characters, the gaps between its lines, and
where a document could begin or end. Main statement: a gap is left at the character that comes after
its spaces and line ends.
-/

namespace WireGraph.Yaml
variable {p : Spot} {c : Char} {cs : List Char} {gs : List Glyph}

theorem basic_not_break (basic : isBasic c = true) : isBreak c = false := by
  cases broken : isBreak c with
  | false => rfl
  | true =>
    simp only [isBreak,Bool.or_eq_true,beq_iff_eq] at broken
    rcases broken with ((rfl | rfl) | rfl) | rfl <;> cases basic

theorem basic_not_mark (basic : isBasic c = true) : c ≠ byteOrderMark := by
  rintro rfl
  cases basic

theorem after_basic (basic : isBasic c = true) :
    p.after c = { p with column := p.column + 1, index := p.index + 1 } := by
  rw [Spot.after,basic_not_break basic,if_neg Bool.false_ne_true,if_neg (basic_not_mark basic)]

@[simp] theorem after_newline (p : Spot) : p.after '\n' = ⟨p.line + 1,0,p.index + 1⟩ := rfl

@[simp] theorem after_space (p : Spot) : p.after ' ' = ⟨p.line,p.column + 1,p.index + 1⟩ := rfl

-- The spot behind `n` characters of a line.
def Spot.along (p : Spot) (n : Nat) : Spot := ⟨p.line,p.column + n,p.index + n⟩

@[simp] theorem Spot.along_line (p : Spot) (n : Nat) : (p.along n).line = p.line := rfl
@[simp] theorem Spot.along_column (p : Spot) (n : Nat) : (p.along n).column = p.column + n := rfl
@[simp] theorem Spot.along_index (p : Spot) (n : Nat) : (p.along n).index = p.index + n := rfl

theorem spaces_succ (n : Nat) : spaces (n + 1) = ' ' :: spaces n := rfl

/-! ## Gaps -/

-- What is left behind white space, comments and line ends.
def afterGap (gs : List Glyph) : List Glyph := (skipGap false false gs).2

theorem skipGap_crossed (inComment crossed : Bool) (gs : List Glyph) :
    (skipGap inComment crossed gs).2 = (skipGap inComment false gs).2 := by
  induction gs generalizing inComment crossed with
  | nil => rfl
  | cons g rest ih =>
    unfold skipGap
    split
    · rfl
    split
    · exact ih true crossed
    split
    · exact ih false crossed
    split
    · exact ih true crossed
    · rfl

@[simp] theorem afterGap_newline (p : Spot) (cs : List Char) :
    afterGap (glyphsFrom p ('\n' :: cs)) = afterGap (glyphsFrom (p.after '\n') cs) :=
  skipGap_crossed false true _

-- The characters that end a gap.
def isSolid (c : Char) : Bool := !isBreak c && c != ' ' && c != '#'

theorem skipGap_solid (solid : isSolid c = true) (crossed : Bool) (cs : List Char) :
    skipGap false crossed (glyphsFrom p (c :: cs)) = (crossed,glyphsFrom p (c :: cs)) := by
  simp only [isSolid,Bool.and_eq_true,Bool.not_eq_true',bne_iff_ne] at solid
  simp [glyphsFrom,skipGap,solid]

theorem afterGap_solid (solid : isSolid c = true) (cs : List Char) :
    afterGap (glyphsFrom p (c :: cs)) = glyphsFrom p (c :: cs) := by
  rw [afterGap,skipGap_solid solid]

theorem skipGap_spaces (crossed : Bool) (n : Nat) (p : Spot) (cs : List Char) :
    skipGap false crossed (glyphsFrom p (spaces n ++ cs)) =
      skipGap false crossed (glyphsFrom (p.along n) cs) := by
  induction n generalizing p with
  | zero => rfl
  | succ n ih =>
    rw [spaces_succ,List.cons_append]
    change skipGap false crossed (glyphsFrom (p.after ' ') _) = _
    rw [ih]
    simp only [after_space,Spot.along,Nat.add_assoc,Nat.add_comm 1]

theorem afterGap_spaces (n : Nat) (p : Spot) (cs : List Char) :
    afterGap (glyphsFrom p (spaces n ++ cs)) = afterGap (glyphsFrom (p.along n) cs) :=
  congrArg Prod.snd (skipGap_spaces false n p cs)

-- The gaps before a value: a space on the same line, or a new line.
theorem skipGap_space (solid : isSolid c = true) (p : Spot) (cs : List Char) :
    skipGap false false (glyphsFrom p (' ' :: c :: cs)) =
      (false,glyphsFrom (p.after ' ') (c :: cs)) := skipGap_solid solid false cs

theorem skipGap_newLine (solid : isSolid c = true) (n : Nat) (p : Spot) (cs : List Char) :
    skipGap false false (glyphsFrom p (newLine n ++ c :: cs)) =
      (true,glyphsFrom ((p.after '\n').along n) (c :: cs)) := by
  change skipGap false true (glyphsFrom (p.after '\n') (spaces n ++ c :: cs)) = _
  rw [skipGap_spaces,skipGap_solid solid]

-- Behind a gap there is no gap.
theorem afterGap_skipGap (inComment crossed : Bool) (gs : List Glyph) :
    afterGap (skipGap inComment crossed gs).2 = (skipGap inComment crossed gs).2 := by
  fun_induction skipGap inComment crossed gs with
  | case1 => rfl
  | case2 _ _ _ _ _ ih => exact ih
  | case3 _ _ _ _ ih => exact ih
  | case4 _ _ _ _ _ _ _ ih => exact ih
  | case5 _ _ _ _ _ _ _ _ ih => exact ih
  | case6 inComment crossed g rest line comment blank sign =>
    rw [afterGap,skipGap,if_neg line,if_neg Bool.false_ne_true,if_neg blank,if_neg sign]

theorem afterGap_again (gs : List Glyph) : afterGap (afterGap gs) = afterGap gs :=
  afterGap_skipGap false false gs

/-! ## Markers -/

theorem atMarker_glyphs {mark : Char} (found : atMarker mark (glyphsFrom p cs) = true) :
    p.column = 0 ∧ ∃ rest, cs = mark :: mark :: mark :: rest := by
  match cs with
  | [] => cases found
  | [_] => cases found
  | [_,_] => cases found
  | a :: b :: d :: rest =>
    simp only [glyphsFrom,atMarker,Bool.and_eq_true,beq_iff_eq] at found
    obtain ⟨⟨⟨⟨start,rfl⟩,rfl⟩,rfl⟩,_⟩ := found
    exact ⟨start,rest,rfl⟩

theorem unmarked (apart : p.column ≠ 0 ∨
      ∀ rest, cs ≠ '-' :: '-' :: '-' :: rest ∧ cs ≠ '.' :: '.' :: '.' :: rest) :
    atDocumentMarker (glyphsFrom p cs) = false := by
  rw [Bool.eq_false_iff]
  intro found
  rw [atDocumentMarker,Bool.or_eq_true] at found
  rcases found with dash | dot
  · obtain ⟨start,rest,same⟩ := atMarker_glyphs dash
    exact apart.elim (fun inside => inside start) fun other => (other rest).1 same
  · obtain ⟨start,rest,same⟩ := atMarker_glyphs dot
    exact apart.elim (fun inside => inside start) fun other => (other rest).2 same

theorem unmarked_start (dash : c ≠ '-') (dot : c ≠ '.') (p : Spot) (cs : List Char) :
    atDocumentMarker (glyphsFrom p (c :: cs)) = false := by
  refine unmarked (.inr fun rest => ⟨?_,?_⟩) <;> rintro ⟨rfl,_⟩
  · exact dash rfl
  · exact dot rfl

theorem unmarked_spaces (n : Nat) (p : Spot) (cs : List Char) :
    atDocumentMarker (glyphsFrom p (spaces (n + 1) ++ cs)) = false :=
  unmarked_start (by decide) (by decide) p (spaces n ++ cs)

theorem atBlank_glyphs (p : Spot) (cs : List Char) : atBlank (glyphsFrom p cs) = blankNext cs := by
  cases cs <;> rfl

/-! ## What follows -/

def isWordChar (c : Char) : Bool := ('a' ≤ c && c ≤ 'z') || c == '_'

-- The text behind a value on lines of its own: none, a field further out than `word`, or an item
-- further out than `dash`.
def Resumes (word dash : Nat) (suffix : List Char) : Prop :=
  suffix = [] ∨ ∃ k c rest, suffix = spaces k ++ c :: rest ∧
    ((isWordChar c = true ∧ k < word) ∨ (c = '-' ∧ rest.head? = some ' ' ∧ k < dash))

theorem Resumes.wider {word dash word' dash' : Nat} {suffix : List Char}
    (resumes : Resumes word dash suffix) (words : word ≤ word') (dashes : dash ≤ dash') :
    Resumes word' dash' suffix := by
  rcases resumes with none | ⟨k,c,rest,same,⟨letter,inside⟩ | ⟨item,blank,inside⟩⟩
  · exact .inl none
  · exact .inr ⟨k,c,rest,same,.inl ⟨letter,by omega⟩⟩
  · exact .inr ⟨k,c,rest,same,.inr ⟨item,blank,by omega⟩⟩

theorem word_basic (letter : isWordChar c = true) : isBasic c = true := by
  simp only [isWordChar,Bool.or_eq_true,Bool.and_eq_true,decide_eq_true_eq,beq_iff_eq] at letter
  simp only [isBasic,Bool.and_eq_true,decide_eq_true_eq]
  rcases letter with ⟨low,high⟩ | rfl
  · have first : ' ' ≤ 'a' := by decide
    have last : 'z' ≤ '~' := by decide
    exact ⟨Char.le_trans first low,Char.le_trans high last⟩
  · decide

theorem word_solid (letter : isWordChar c = true) : isSolid c = true := by
  simp only [isSolid,Bool.and_eq_true,Bool.not_eq_true',bne_iff_ne]
  refine ⟨⟨basic_not_break (word_basic letter),?_⟩,?_⟩ <;> rintro rfl <;> cases letter

-- Where the gap before the suffix ends, and what stands there.
theorem Resumes.token {word dash : Nat} {suffix : List Char} (resumes : Resumes word dash suffix)
    (start : p.column = 0) : (suffix = [] ∧ afterGap (glyphsFrom p suffix) = []) ∨
      ∃ (q : Spot) (c : Char) (rest : List Char),
        afterGap (glyphsFrom p suffix) = glyphsFrom q (c :: rest) ∧
        ((isWordChar c = true ∧ q.column < word) ∨
          (c = '-' ∧ rest.head? = some ' ' ∧ q.column < dash)) := by
  rcases resumes with rfl | ⟨k,c,rest,rfl,token⟩
  · exact .inl ⟨rfl,rfl⟩
  · have solid : isSolid c = true := by
      rcases token with ⟨letter,_⟩ | ⟨rfl,_⟩
      · exact word_solid letter
      · rfl
    refine .inr ⟨p.along k,c,rest,?_,?_⟩
    · rw [afterGap_spaces,afterGap_solid solid]
    · simpa [Spot.along,start] using token

-- The glyphs `gs` are those of the suffix, apart from the gap before them.
def Rests (suffix : List Char) (gs : List Glyph) : Prop :=
  ∃ q : Spot, q.column = 0 ∧ afterGap gs = afterGap (glyphsFrom q suffix)

theorem Rests.closed {suffix : List Char} (rests : Rests suffix gs) :
    Rests suffix (afterGap gs) := by
  obtain ⟨q,start,same⟩ := rests
  exact ⟨q,start,by rw [afterGap_again,same]⟩

theorem Rests.here {n : Nat} (rests : Rests (spaces n ++ c :: cs) gs) (solid : isSolid c = true) :
    ∃ q : Spot, q.column = n ∧ afterGap gs = glyphsFrom q (c :: cs) := by
  obtain ⟨q,start,same⟩ := rests
  refine ⟨q.along n,by simp [start],?_⟩
  rw [same,afterGap_spaces,afterGap_solid solid]

theorem Resumes.unmarked {word dash : Nat} {suffix : List Char}
    (resumes : Resumes word dash suffix) : atDocumentMarker (glyphsFrom p suffix) = false := by
  refine Yaml.unmarked (.inr fun rest => ?_)
  rcases resumes with rfl | ⟨k,c,more,rfl,token⟩
  · exact ⟨by simp,by simp⟩
  · cases k with
    | zero =>
      rcases token with ⟨letter,_⟩ | ⟨rfl,blank,_⟩
      · refine ⟨?_,?_⟩ <;> rintro ⟨rfl,rfl⟩ <;> cases letter
      · refine ⟨?_,by simp [spaces]⟩
        rintro ⟨_,rfl⟩
        cases blank
    | succ k => exact ⟨by simp [spaces_succ],by simp [spaces_succ]⟩

end WireGraph.Yaml
