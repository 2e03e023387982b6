import WireGraph.Proofs.Yaml.Glyph

/-!
# Texts read back

A text without quotes or in single quotes, read again. Main statements: either style gives back the
characters of every text that it is used for, however the lines were broken, and leaves what comes
behind the text.
-/

namespace WireGraph.Yaml
variable {p : Spot} {c : Char} {cs : List Char} {held : Held}

@[simp] theorem map_after {α : Type} (first read : List α) (rest : List Glyph) :
    (Scanned.after first <$> (.ok (read,rest) : Except Fault (Scanned α))) =
      .ok (first ++ read,rest) := rfl

-- What a reader holds back after the character `before`, when `next` comes.
def Carries (before next : Option Char) : Held → Prop
  | .nothing => before ≠ some ' ' ∧ before ≠ some '\n'
  | .blanks _ => before = some ' '
  | .breaks first more => first = '\n' ∧
      ((more = [] ∧ before = some ' ' ∧ next ≠ some ' ') ∨ (more ≠ [] ∧ before = some '\n'))
  | .joined => False

theorem Carries.solid (space : c ≠ ' ') (line : c ≠ '\n') (next : Option Char) :
    Carries (some c) next .nothing := ⟨by simpa using space,by simpa using line⟩

-- A space that is read holds one space more back.
theorem Carries.blank {before next next' : Option Char} (carries : Carries before next held)
    (space : next = some ' ') (line : before ≠ some '\n') :
    Carries (some ' ') next' (held.withBlank ' ') ∧
      (held.withBlank ' ').chars = held.chars ++ [' '] := by
  cases held with
  | nothing => exact ⟨rfl,rfl⟩
  | blanks cs => exact ⟨rfl,rfl⟩
  | breaks first more =>
    obtain ⟨_,⟨_,_,other⟩ | ⟨_,same⟩⟩ := carries
    · exact absurd space other
    · exact absurd same line
  | joined => cases carries

-- The line end of a fold is held back as the one space that it stands for.
theorem Carries.folded {next : Option Char} (space : next ≠ some ' ') :
    Carries (some ' ') next (.breaks '\n' []) := ⟨rfl,.inl ⟨rfl,rfl,space⟩⟩

theorem Carries.broken (first : List Char) (next : Option Char) :
    Carries (some '\n') next (.breaks '\n' (first ++ ['\n'])) := ⟨rfl,.inr ⟨by simp,rfl⟩⟩

theorem Carries.none_held {before next : Option Char} (carries : Carries before next held)
    (space : before ≠ some ' ') (line : before ≠ some '\n') : held = .nothing := by
  cases held with
  | nothing => rfl
  | blanks cs => exact absurd carries space
  | breaks first more =>
    obtain ⟨_,⟨_,same,_⟩ | ⟨_,same⟩⟩ := carries
    · exact absurd same space
    · exact absurd same line
  | joined => cases carries

theorem breaksHere_parts {column : Nat} {before : Option Char} {rest : List Char}
    (breaks : breaksHere column c before rest = true) :
    c = ' ' ∧ before ≠ some ' ' ∧ rest.head? ≠ some ' ' := by
  simp only [breaksHere,Bool.and_eq_true,beq_iff_eq,bne_iff_ne] at breaks
  exact ⟨breaks.1.1.1,breaks.1.1.2,breaks.1.2⟩

/-! ## Plain texts -/

theorem plainFrom_spaces (flow : Bool) (floor n : Nat) (p : Spot) (first : Char)
    (more cs : List Char) : plainFrom flow floor (.breaks first more) (glyphsFrom p (spaces n ++ cs)) =
      plainFrom flow floor (.breaks first more) (glyphsFrom (p.along n) cs) := by
  induction n generalizing p with
  | zero => rfl
  | succ n ih =>
    rw [spaces_succ,List.cons_append,glyphsFrom,plainFrom,if_pos rfl]
    change plainFrom flow floor (.breaks first more) _ = _
    rw [ih]
    simp only [after_space,Spot.along,Nat.add_assoc,Nat.add_comm 1]

theorem plainFrom_newline (floor : Nat) (p : Spot)
    (unmarked : atDocumentMarker (glyphsFrom (p.after '\n') cs) = false) :
    plainFrom false floor .nothing (glyphsFrom p ('\n' :: cs)) =
      plainFrom false floor (.breaks '\n' []) (glyphsFrom (p.after '\n') cs) := by
  change (if atDocumentMarker (glyphsFrom (p.after '\n') cs) = true then _ else _) = _
  rw [unmarked,if_neg Bool.false_ne_true]
  rfl

-- At the end of its line a plain text goes on only where the next line stands further in.
theorem plainFrom_end {floor : Nat} {suffix : List Char} (resumes : Resumes floor floor suffix)
    (p : Spot) : ∃ q : Spot, q.column = 0 ∧
      plainFrom false floor .nothing (glyphsFrom p ('\n' :: suffix)) =
        ([],afterGap (glyphsFrom q suffix)) := by
  refine ⟨p.after '\n',rfl,?_⟩
  rw [plainFrom_newline floor p resumes.unmarked]
  rcases resumes with rfl | ⟨k,c,rest,rfl,token⟩
  · rfl
  · have solid : isSolid c = true := by
      rcases token with ⟨letter,_⟩ | ⟨rfl,_⟩
      · exact word_solid letter
      · rfl
    have out : k < floor := token.elim (·.2) (·.2.2)
    rw [plainFrom_spaces,afterGap_spaces,afterGap_solid solid]
    simp only [isSolid,Bool.and_eq_true,Bool.not_eq_true',bne_iff_ne] at solid
    rw [glyphsFrom,plainFrom,if_neg solid.1.2,if_neg (by simp [solid.1.1])]
    split
    · rfl
    · rw [if_pos]
      simp [Spot.along,out]

theorem plainFrom_fold (floor n : Nat) (p : Spot) (cs : List Char) :
    plainFrom false floor .nothing (glyphsFrom p (newLine (n + 1) ++ cs)) =
      plainFrom false floor (.breaks '\n' []) (glyphsFrom ((p.after '\n').along (n + 1)) cs) := by
  rw [newLine,List.cons_append,plainFrom_newline floor p (unmarked_spaces _ _ _)]
  exact plainFrom_spaces false floor (n + 1) (p.after '\n') '\n' [] cs

theorem plainFrom_space (flow : Bool) (floor : Nat) (p : Spot) (cs : List Char) :
    plainFrom flow floor held (glyphsFrom p (' ' :: cs)) =
      plainFrom flow floor (held.withBlank ' ') (glyphsFrom (p.after ' ') cs) := by
  cases held <;> rfl

-- What the rest of a text without quotes must not hold.
structure PlainRest (before : Char) (cs : List Char) : Prop where
  basic : ∀ c ∈ before :: cs, isBasic c = true
  inside : badInside before cs = false
  last : (before :: cs).getLast? ≠ some ' '

theorem PlainRest.tail {before : Char} (safe : PlainRest before (c :: cs)) : PlainRest c cs where
  basic := fun d member => safe.basic d (List.mem_cons_of_mem _ member)
  inside := by
    have inside := safe.inside
    simp only [badInside,Bool.or_eq_false_iff] at inside
    exact inside.2
  last := by
    have last := safe.last
    rwa [List.getLast?_cons_cons] at last

theorem PlainRest.not_newline {before : Char} (safe : PlainRest before cs) :
    some before ≠ some '\n' := by
  rintro ⟨rfl⟩
  cases safe.basic '\n' (by simp)

-- A line is not folded before a character that is no blank.
theorem blankNext_plainText {indent column : Nat} {before : Option Char} {more : List Char}
    (next : blankNext cs = false) :
    blankNext (plainText indent column before cs ++ more) = false := by
  cases cs with
  | nil => cases next
  | cons c cs =>
    have stays : breaksHere column c before cs = false := by
      rw [Bool.eq_false_iff]
      intro breaks
      rw [(breaksHere_parts breaks).1] at next
      cases next
    rw [plainText,stays,if_neg Bool.false_ne_true]
    exact next

theorem basic_not_blank (basic : isBasic c = true) (space : c ≠ ' ') : isBlank c = false := by
  have tab : c ≠ '\t' := by
    rintro rfl
    cases basic
  simp [isBlank,space,tab,basic_not_break basic]

-- A character of a plain text that is no space.
theorem plainFrom_char {floor : Nat} (basic : isBasic c = true) (space : c ≠ ' ')
    (colon : c = ':' → blankNext cs = false) (sign : c = '#' → held = .nothing)
    (inside : held = .nothing ∨ floor ≤ p.column) :
    plainFrom false floor held (glyphsFrom p (c :: cs)) =
      (plainFrom false floor .nothing (glyphsFrom (p.after c) cs)).after (held.chars ++ [c]) := by
  have goes : endsPlain false ⟨c,p⟩ (glyphsFrom (p.after c) cs) = false := by
    simp only [endsPlain,basic_not_blank basic space,atBlank_glyphs,Bool.false_and,Bool.or_false,
      Bool.false_or,Bool.and_eq_false_imp,beq_iff_eq]
    exact colon
  have keeps : ¬(held ≠ .nothing ∧ (c = '#' ∨ (false = false ∧ p.column < floor))) := by
    rintro ⟨holds,rfl | ⟨_,outside⟩⟩
    · exact holds (sign rfl)
    · exact inside.elim holds fun inside => absurd outside (Nat.not_lt.2 inside)
  rw [glyphsFrom,plainFrom.eq_def]
  dsimp only
  rw [if_neg space,if_neg (by simp [basic_not_break basic]),if_neg (by simp [goes]),if_neg keeps]

theorem plainFrom_text {floor indent : Nat} {suffix : List Char} (room : floor ≤ indent)
    (indented : 0 < indent) (resumes : Resumes floor floor suffix) {before : Char}
    (safe : PlainRest before cs) (column : Nat) (carries : Carries (some before) cs.head? held)
    (p : Spot) (inside : floor ≤ p.column) : ∃ q : Spot, q.column = 0 ∧
      plainFrom false floor held
          (glyphsFrom p (plainText indent column (some before) cs ++ '\n' :: suffix)) =
        (held.chars ++ cs,afterGap (glyphsFrom q suffix)) := by
  induction cs generalizing before held column p with
  | nil =>
    rw [carries.none_held safe.last safe.not_newline]
    exact plainFrom_end resumes p
  | cons c cs ih =>
    rw [plainText]
    by_cases breaks : breaksHere column c (some before) cs = true
    · -- The space was written as a line end.
      obtain ⟨rfl,space,next⟩ := breaksHere_parts breaks
      obtain ⟨n,rfl⟩ : ∃ n, indent = n + 1 := ⟨indent - 1,by omega⟩
      obtain ⟨q,start,same⟩ := ih safe.tail (n + 1) (.folded next) ((p.after '\n').along (n + 1))
        (Nat.le_add_left_of_le room)
      refine ⟨q,start,?_⟩
      rw [if_pos breaks,carries.none_held space safe.not_newline,List.append_assoc,plainFrom_fold,
        same]
      rfl
    · rw [if_neg breaks,List.cons_append]
      by_cases space : c = ' '
      · subst space
        obtain ⟨carries,chars⟩ := carries.blank rfl safe.not_newline
        obtain ⟨q,start,same⟩ := ih safe.tail (column + 1) carries (p.after ' ')
          (by simp only [after_space]; omega)
        refine ⟨q,start,?_⟩
        rw [plainFrom_space,same,chars,List.append_assoc,List.singleton_append]
      · have basic := safe.basic c (by simp)
        have guarded := safe.inside
        simp only [badInside,Bool.or_eq_false_iff,Bool.and_eq_false_imp,beq_iff_eq] at guarded
        obtain ⟨q,start,same⟩ := ih safe.tail (column + 1)
          (Carries.solid space (safe.tail.not_newline <| congrArg some ·) _) (p.after c)
          (by rw [after_basic basic]; exact Nat.le_succ_of_le inside)
        refine ⟨q,start,?_⟩
        rw [plainFrom_char basic space (fun colon => blankNext_plainText (guarded.1.1 colon))
          (fun sign => carries.none_held (fun blank => ?_) safe.not_newline) (.inr inside),same,
          Scanned.after,List.append_assoc]
        · rfl
        · have apart := guarded.1.2 sign
          rw [Option.some.inj blank] at apart
          cases apart

/-! ## Texts in single quotes -/

theorem singleFrom_space (p : Spot) (cs : List Char) :
    singleFrom held (glyphsFrom p (' ' :: cs)) =
      singleFrom (held.withBlank ' ') (glyphsFrom (p.after ' ') cs) := by
  rw [glyphsFrom,singleFrom.eq_def]
  exact if_pos (.inl rfl)

theorem singleFrom_spaces (n : Nat) (p : Spot) (first : Char) (more cs : List Char) :
    singleFrom (.breaks first more) (glyphsFrom p (spaces n ++ cs)) =
      singleFrom (.breaks first more) (glyphsFrom (p.along n) cs) := by
  induction n generalizing p with
  | zero => rfl
  | succ n ih =>
    rw [spaces_succ,List.cons_append,singleFrom_space,Held.withBlank,ih]
    simp only [after_space,Spot.along,Nat.add_assoc,Nat.add_comm 1]

theorem singleFrom_newline (p : Spot)
    (unmarked : atDocumentMarker (glyphsFrom (p.after '\n') cs) = false) :
    singleFrom held (glyphsFrom p ('\n' :: cs)) =
      singleFrom (heldBreak '\n' held) (glyphsFrom (p.after '\n') cs) := by
  rw [glyphsFrom,singleFrom.eq_def]
  change (if atDocumentMarker (glyphsFrom (p.after '\n') cs) = true then _ else _) = _
  rw [unmarked,if_neg Bool.false_ne_true]

theorem singleFrom_quote (p : Spot) (cs : List Char) :
    singleFrom held (glyphsFrom p ('\'' :: '\'' :: cs)) =
      (Scanned.after (held.chars ++ ['\'']) <$>
        singleFrom .nothing (glyphsFrom (p.along 2) cs)) := by
  rw [glyphsFrom,singleFrom.eq_def]
  rfl

theorem singleFrom_char (basic : isBasic c = true) (space : c ≠ ' ') (quote : c ≠ '\'')
    (p : Spot) (cs : List Char) : singleFrom held (glyphsFrom p (c :: cs)) =
      (Scanned.after (held.chars ++ [c]) <$> singleFrom .nothing (glyphsFrom (p.after c) cs)) := by
  have blank := basic_not_blank basic space
  simp only [isBlank,Bool.or_eq_false_iff,beq_eq_false_iff_ne] at blank
  rw [glyphsFrom,singleFrom.eq_def]
  dsimp only
  rw [if_neg (by simp [blank]),if_neg (by simp [blank]),if_neg quote]

-- What the rest of a text in single quotes must not hold.
structure SingleRest (before : Option Char) (cs : List Char) : Prop where
  basic : ∀ c ∈ cs, c = '\n' ∨ isBasic c = true
  firm : hasLooseBreak (before.toList ++ cs) = false

theorem SingleRest.tail {before : Option Char} (safe : SingleRest before (c :: cs)) :
    SingleRest (some c) cs where
  basic := fun d member => safe.basic d (List.mem_cons_of_mem _ member)
  firm := by
    have firm := safe.firm
    cases before with
    | none => exact firm
    | some b =>
      simp only [Option.toList,List.cons_append,List.nil_append,hasLooseBreak,
        Bool.or_eq_false_iff] at firm
      exact firm.2

theorem SingleRest.newline_before {before : Option Char} (safe : SingleRest before (' ' :: cs)) :
    before ≠ some '\n' := by
  rintro rfl
  cases safe.firm

theorem SingleRest.space_before {before : Option Char} (safe : SingleRest before ('\n' :: cs)) :
    before ≠ some ' ' := by
  rintro rfl
  cases safe.firm

-- A line end of the text as it is written: two of them where a run begins.
def writtenBreak (before : Option Char) : List Char :=
  if before = some '\n' then ['\n'] else ['\n','\n']

theorem singleFrom_break {before next : Option Char} (carries : Carries before next held)
    (space : before ≠ some ' ') (p : Spot) (cs : List Char)
    (unmarked : ∀ q : Spot, atDocumentMarker (glyphsFrom q cs) = false) :
    ∃ q : Spot, singleFrom held (glyphsFrom p (writtenBreak before ++ cs)) =
      singleFrom (.breaks '\n' (held.chars ++ ['\n'])) (glyphsFrom q cs) := by
  by_cases run : before = some '\n'
  · refine ⟨p.after '\n',?_⟩
    rw [writtenBreak,if_pos run,List.singleton_append,singleFrom_newline p (unmarked _)]
    cases held with
    | nothing => exact absurd run carries.2
    | blanks cs => exact absurd carries space
    | breaks first more =>
      obtain ⟨rfl,⟨_,same,_⟩ | ⟨some,_⟩⟩ := carries
      · exact absurd same space
      · simp [heldBreak,Held.chars,some,breakChar,nextLine]
    | joined => cases carries
  · refine ⟨(p.after '\n').after '\n',?_⟩
    rw [writtenBreak,if_neg run,carries.none_held space run,List.cons_append,List.singleton_append,
      singleFrom_newline p (unmarked_start (by decide) (by decide) _ _),
      singleFrom_newline _ (unmarked _)]
    rfl

theorem writtenBreak_append (before : Option Char) (cs : List Char) :
    (if before = some '\n' then [] else ['\n']) ++ '\n' :: cs = writtenBreak before ++ cs := by
  rw [writtenBreak]
  split <;> rfl

-- The line ends of a text, the indentation behind the last of them left out.
theorem singleFrom_lineEnd {before : Option Char} (carries : Carries before (some '\n') held)
    (space : before ≠ some ' ') (n column : Nat) (p : Spot) (cs more : List Char) :
    ∃ (q : Spot) (column' : Nat),
      singleFrom held (glyphsFrom p (singleText (n + 1) column before ('\n' :: cs) ++ more)) =
        singleFrom (.breaks '\n' (held.chars ++ ['\n']))
          (glyphsFrom q (singleText (n + 1) column' (some '\n') cs ++ more)) := by
  rw [singleText,if_neg (by decide),if_pos rfl,writtenBreak_append,List.append_assoc]
  by_cases next : cs.head? = some '\n'
  · obtain ⟨cs,rfl⟩ : ∃ rest, cs = '\n' :: rest := by
      cases cs with
      | nil => cases next
      | cons d cs => exact ⟨cs,by rw [Option.some.inj next]⟩
    rw [if_pos next]
    have unmarked : ∀ q : Spot, atDocumentMarker
        (glyphsFrom q (singleText (n + 1) 0 (some '\n') ('\n' :: cs) ++ more)) = false := by
      intro q
      rw [singleText,if_neg (by decide),if_pos rfl,if_pos rfl]
      exact unmarked_start (by decide) (by decide) q _
    obtain ⟨q,broken⟩ := singleFrom_break carries space p _ unmarked
    exact ⟨q,0,broken⟩
  · rw [if_neg next,List.append_assoc]
    obtain ⟨q,broken⟩ := singleFrom_break carries space p _ (unmarked_spaces n · _)
    exact ⟨q.along (n + 1),n + 1,by rw [broken,singleFrom_spaces]⟩

theorem singleFrom_fold (n : Nat) (p : Spot) (cs : List Char) :
    singleFrom .nothing (glyphsFrom p (newLine (n + 1) ++ cs)) =
      singleFrom (.breaks '\n' []) (glyphsFrom ((p.after '\n').along (n + 1)) cs) := by
  rw [newLine,List.cons_append,singleFrom_newline p (unmarked_spaces _ _ _)]
  exact singleFrom_spaces (n + 1) (p.after '\n') '\n' [] cs

theorem singleFrom_text {indent : Nat} (indented : 0 < indent) (suffix : List Char)
    {before : Option Char} (safe : SingleRest before cs) (column : Nat)
    (carries : Carries before cs.head? held) (p : Spot) : ∃ q : Spot,
      singleFrom held
          (glyphsFrom p (singleText indent column before cs ++ '\'' :: '\n' :: suffix)) =
        .ok (held.chars ++ cs,glyphsFrom q ('\n' :: suffix)) := by
  obtain ⟨n,rfl⟩ : ∃ n, indent = n + 1 := ⟨indent - 1,by omega⟩
  induction cs generalizing before held column p with
  | nil =>
    refine ⟨p.after '\'',?_⟩
    rw [singleText,List.nil_append,List.append_nil,glyphsFrom,singleFrom.eq_def]
    rfl
  | cons c cs ih =>
    by_cases line : c = '\n'
    · subst line
      obtain ⟨r,column',ended⟩ := singleFrom_lineEnd carries safe.space_before n column p cs
        ('\'' :: '\n' :: suffix)
      obtain ⟨q,same⟩ := ih safe.tail column' (.broken held.chars _) r
      exact ⟨q,by rw [ended,same]; simp [Held.chars]⟩
    rw [singleText]
    by_cases quote : c = '\''
    · subst quote
      obtain ⟨q,same⟩ := ih safe.tail (column + 2) (.solid (by decide) line _) (p.along 2)
      refine ⟨q,?_⟩
      rw [if_pos rfl,List.cons_append,List.cons_append,singleFrom_quote,same,map_after,
        List.append_assoc]
      rfl
    rw [if_neg quote,if_neg line]
    by_cases folds : (breaksHere column c before cs && before.isSome && !cs.isEmpty) = true
    · simp only [Bool.and_eq_true] at folds
      obtain ⟨rfl,space,next⟩ := breaksHere_parts folds.1.1
      obtain ⟨q,same⟩ := ih safe.tail (n + 1) (.folded next) ((p.after '\n').along (n + 1))
      refine ⟨q,?_⟩
      rw [if_pos (by simp [folds]),carries.none_held space safe.newline_before,List.append_assoc,
        singleFrom_fold,same]
      rfl
    rw [if_neg folds,List.cons_append]
    by_cases space : c = ' '
    · subst space
      obtain ⟨carries,chars⟩ := carries.blank rfl safe.newline_before
      obtain ⟨q,same⟩ := ih safe.tail (column + 1) carries (p.after ' ')
      refine ⟨q,?_⟩
      rw [singleFrom_space,same,chars,List.append_assoc,List.singleton_append]
    · have basic := (safe.basic c (by simp)).resolve_left line
      obtain ⟨q,same⟩ := ih safe.tail (column + 1) (.solid space line _) (p.after c)
      refine ⟨q,?_⟩
      rw [singleFrom_char basic space quote,same,map_after,List.append_assoc]
      rfl

end WireGraph.Yaml
