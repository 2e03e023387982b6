import Mathlib.Tactic.Ring
import WireGraph.Proofs.Yaml.Text

/-!
# Escapes read back

Characters that are written by escapes, and the texts in double quotes that hold them. Main
statements: every escape stands for the character that it was written for, and a text in double
quotes gives back its characters, wherever its lines were broken.
-/

namespace WireGraph.Yaml
variable {p : Spot} {c : Char} {cs : List Char} {held : Held}

theorem map_after_twice {α : Type} (first second : List α) (scanned : Except Fault (Scanned α)) :
    (Scanned.after first <$> Scanned.after second <$> scanned) =
      (Scanned.after (first ++ second) <$> scanned) := by
  cases scanned with
  | error f => rfl
  | ok s => exact congrArg Except.ok (Prod.ext (List.append_assoc _ _ _).symm rfl)

@[simp] theorem map_after_nil {α : Type} (scanned : Except Fault (Scanned α)) :
    (Scanned.after [] <$> scanned) = scanned := by
  cases scanned <;> rfl

/-! ## Codes -/

theorem isHalf_iff (n : Nat) : Text.isHalf n = true ↔ 0xD800 ≤ n ∧ n < 0xE000 := by
  rw [Text.isHalf,Bool.and_eq_true,decide_eq_true_eq,decide_eq_true_eq]

-- No character has the code of a half.
theorem ofCode_toNat (c : Char) : Text.Piece.ofCode? c.toNat = some (.char c) := by
  have valid : c.toNat.isValidChar := c.valid
  have whole : ¬Text.isHalf c.toNat = true := by
    rw [isHalf_iff]
    rcases valid with low | high <;> omega
  rw [Text.Piece.ofCode?,if_neg whole,if_pos valid,Char.ofNat_toNat]

theorem toNat_lt (c : Char) : c.toNat < 16 ^ 8 := by
  have valid : c.toNat.isValidChar := c.valid
  rcases valid with low | high <;> omega

theorem digit_upper : ∀ n < 16, isHex (Text.hexDigit n).toUpper = true ∧
    isBasic (Text.hexDigit n).toUpper = true ∧ digitValue (Text.hexDigit n).toUpper = n := by
  decide

theorem hexDigit_mod (n : Nat) : Text.hexDigit (n % 16) = Text.hexDigit n := by
  rw [Text.hexDigit,Nat.mod_mod,Text.hexDigit]

theorem upperDigits_succ (count n : Nat) : upperDigits (count + 1) n =
    upperDigits count (n / 16) ++ [(Text.hexDigit n).toUpper] := by
  simp [upperDigits,Text.hexDigits]

-- All digits but the last of a character code.
theorem doubleFrom_digits {left count : Nat} (enough : count ≤ left) (value n : Nat) (p : Spot)
    (cs : List Char) : ∃ q : Spot,
      doubleFrom (.code left value) (glyphsFrom p (upperDigits count n ++ cs)) =
        doubleFrom (.code (left - count) (value * 16 ^ count + n % 16 ^ count))
          (glyphsFrom q cs) := by
  induction count generalizing n cs with
  | zero => exact ⟨p,by simp [upperDigits,Text.hexDigits,Nat.mod_one]⟩
  | succ count ih =>
    obtain ⟨hex,_,value_eq⟩ := digit_upper (n % 16) (Nat.mod_lt _ (by decide))
    rw [hexDigit_mod] at hex value_eq
    obtain ⟨q,same⟩ := ih (Nat.le_of_succ_le enough) (n / 16) ((Text.hexDigit n).toUpper :: cs)
    obtain ⟨m,rest⟩ : ∃ m, left - count = m + 1 := ⟨left - count - 1,by omega⟩
    refine ⟨q.after (Text.hexDigit n).toUpper,?_⟩
    rw [upperDigits_succ,List.append_assoc,List.singleton_append,same,glyphsFrom,rest,doubleFrom]
    dsimp only
    rw [if_pos hex,value_eq,Nat.sub_succ,rest,Nat.pow_succ,Nat.mul_comm (16 ^ count) 16,
      Nat.mod_mul,Nat.pred_succ]
    congr 2
    ring

theorem doubleFrom_code {count n : Nat} (small : n < 16 ^ (count + 1)) (p : Spot) (cs : List Char)
    {piece : Text.Piece} (known : Text.Piece.ofCode? n = some piece) : ∃ q : Spot,
      doubleFrom (.code count 0) (glyphsFrom p (upperDigits (count + 1) n ++ cs)) =
        (Scanned.after [piece] <$> doubleFrom (.text .nothing) (glyphsFrom q cs)) := by
  obtain ⟨q,same⟩ := doubleFrom_digits (Nat.le_refl count) 0 (n / 16) p
    ((Text.hexDigit n).toUpper :: cs)
  obtain ⟨hex,_,value_eq⟩ := digit_upper (n % 16) (Nat.mod_lt _ (by decide))
  rw [hexDigit_mod] at hex value_eq
  have high : n / 16 % 16 ^ count = n / 16 := Nat.mod_eq_of_lt (by omega)
  refine ⟨q.after (Text.hexDigit n).toUpper,?_⟩
  rw [upperDigits_succ,List.append_assoc,List.singleton_append,same,glyphsFrom,Nat.sub_self,
    doubleFrom]
  dsimp only
  rw [if_pos hex,value_eq,Nat.zero_mul,Nat.zero_add,high,Nat.div_add_mod',known]

/-! ## Escapes -/

theorem shortEscapes_known : ∀ e ∈ shortEscapes, ofShortEscape? e.1 = some e.2 := by decide

theorem codeEscape_read (c : Char) (p : Spot) (cs : List Char) : ∃ q : Spot,
    doubleFrom .escape (glyphsFrom p (codeEscape c ++ cs)) =
      (Scanned.after [.char c] <$> doubleFrom (.text .nothing) (glyphsFrom q cs)) := by
  rw [codeEscape]
  split
  · exact doubleFrom_code (by omega) (p.after 'x') cs (ofCode_toNat c)
  split
  · exact doubleFrom_code (by omega) (p.after 'u') cs (ofCode_toNat c)
  · exact doubleFrom_code (toNat_lt c) (p.after 'U') cs (ofCode_toNat c)

theorem shortEscape_known {letter : Char} (found : shortEscape? c = some letter) :
    ofShortEscape? letter = some c := by
  rw [shortEscape?,Option.map_eq_some_iff] at found
  obtain ⟨e,found,rfl⟩ := found
  have same := List.find?_some found
  simp only [Bool.and_eq_true,beq_iff_eq] at same
  rw [shortEscapes_known e (List.mem_of_find?_eq_some found),same.1.1.1]

theorem doubleFrom_backslash (p : Spot) (cs : List Char) :
    doubleFrom (.text held) (glyphsFrom p ('\\' :: cs)) =
      (Scanned.after (Text.pieces held.chars) <$> doubleFrom .escape (glyphsFrom (p.after '\\') cs)) := rfl

theorem escaped_read (c : Char) (p : Spot) (cs : List Char) : ∃ q : Spot,
    doubleFrom (.text held) (glyphsFrom p (escaped c ++ cs)) =
      (Scanned.after (Text.pieces (held.chars ++ [c])) <$>
        doubleFrom (.text .nothing) (glyphsFrom q cs)) := by
  rw [escaped,Text.pieces_append]
  cases short : shortEscape? c with
  | some letter =>
    refine ⟨(p.after '\\').after letter,?_⟩
    dsimp only [List.cons_append,List.nil_append]
    rw [doubleFrom_backslash,glyphsFrom,doubleFrom]
    dsimp only
    rw [shortEscape_known short,map_after_twice]
    rfl
  | none =>
    obtain ⟨q,same⟩ := codeEscape_read c (p.after '\\') cs
    refine ⟨q,?_⟩
    dsimp only [List.cons_append]
    rw [doubleFrom_backslash,same,map_after_twice]
    rfl

/-! ## Texts in double quotes -/

theorem doubleFrom_space (p : Spot) (cs : List Char) :
    doubleFrom (.text held) (glyphsFrom p (' ' :: cs)) =
      doubleFrom (.text (held.withBlank ' ')) (glyphsFrom (p.after ' ') cs) := by
  rw [glyphsFrom,doubleFrom.eq_def]
  exact if_pos (.inl rfl)

theorem doubleFrom_char (basic : isBasic c = true) (space : c ≠ ' ') (quote : c ≠ '"')
    (backslash : c ≠ '\\') (p : Spot) (cs : List Char) :
    doubleFrom (.text held) (glyphsFrom p (c :: cs)) =
      (Scanned.after (Text.pieces (held.chars ++ [c])) <$>
        doubleFrom (.text .nothing) (glyphsFrom (p.after c) cs)) := by
  have blank := basic_not_blank basic space
  simp only [isBlank,Bool.or_eq_false_iff,beq_eq_false_iff_ne] at blank
  rw [glyphsFrom,doubleFrom.eq_def]
  dsimp only
  rw [if_neg (by simp [blank]),if_neg (by simp [blank]),if_neg quote,if_neg backslash]

theorem doubleFrom_joined (n : Nat) (p : Spot) (cs : List Char) :
    doubleFrom (.text .joined) (glyphsFrom p (spaces n ++ cs)) =
      doubleFrom (.text .joined) (glyphsFrom (p.along n) cs) := by
  induction n generalizing p with
  | zero => rfl
  | succ n ih =>
    rw [spaces_succ,List.cons_append,doubleFrom_space,Held.withBlank,ih]
    simp only [after_space,Spot.along,Nat.add_assoc,Nat.add_comm 1]

-- Where a reader may stand before `next`, which is written at `column`. Behind an escaped line end
-- spaces do not count, so that a space needs an escape there.
def DoubleState.Reads (column : Nat) (next : Option Char) : DoubleState → Prop
  | .text .nothing => True
  | .text (.blanks _) => True
  | .text .joined => next ≠ some ' '
  | .text (.breaks _ _) => False
  | .escape => next = some ' ' ∧ column ≤ width
  | .code _ _ => False

def DoubleState.chars : DoubleState → List Char
  | .text held => held.chars
  | _ => []

-- An escape that has begun can only be that of a space, right behind a line end.
theorem DoubleState.Reads.textual {state : DoubleState} {column : Nat}
    (reads : state.Reads column (some c)) (either : isEscaped c = true ∨ width < column) :
    ∃ held, state = .text held := by
  cases state with
  | text held => exact ⟨held,rfl⟩
  | escape =>
    obtain ⟨⟨⟩,inside⟩ := reads
    rcases either with special | wide
    · cases special
    · exact absurd wide (Nat.not_lt.2 inside)
  | code left value => cases reads

-- From `state` on, `text` stands for `cs`, and `rest` comes behind it.
def Gives (state : DoubleState) (text cs rest : List Char) : Prop :=
  ∀ p : Spot, ∃ q : Spot,
    doubleFrom state (glyphsFrom p text) =
      .ok (Text.pieces (state.chars ++ cs),glyphsFrom q rest)

section Gives
variable {state : DoubleState} {text rest : List Char} {column : Nat}

-- A character that stands as it is, behind an escaped line end or anywhere else.
theorem Gives.plain (reads : state.Reads column (some c)) (unescaped : isEscaped c = false)
    (onward : ∀ state' : DoubleState, (∀ column next, state'.Reads column next) →
      Gives state' text cs rest) : Gives state (c :: text) (c :: cs) rest := by
  intro p
  simp only [isEscaped,Bool.or_eq_false_iff,Bool.not_eq_false',beq_eq_false_iff_ne] at unescaped
  obtain ⟨⟨quote,backslash⟩,basic⟩ := unescaped
  cases state with
  | text held =>
    by_cases space : c = ' '
    · subst space
      have loose : ∀ column next, (DoubleState.text (held.withBlank ' ')).Reads column next := by
        cases held with
        | nothing => exact fun _ _ => trivial
        | blanks cs => exact fun _ _ => trivial
        | breaks first more => cases reads
        | joined => exact absurd rfl reads
      have chars : (held.withBlank ' ').chars = held.chars ++ [' '] := by
        cases held with
        | nothing => rfl
        | blanks cs => rfl
        | breaks first more => cases reads
        | joined => exact absurd rfl reads
      obtain ⟨q,same⟩ := onward _ loose (p.after ' ')
      refine ⟨q,?_⟩
      rw [doubleFrom_space,same,DoubleState.chars,chars,List.append_assoc]
      rfl
    · obtain ⟨q,same⟩ := onward (.text .nothing) (fun _ _ => trivial) (p.after c)
      refine ⟨q,?_⟩
      rw [doubleFrom_char basic space quote backslash,same,map_after,← Text.pieces_append,
        List.append_assoc]
      rfl
  | escape =>
    obtain ⟨⟨⟩,_⟩ := reads
    obtain ⟨q,same⟩ := onward (.text .nothing) (fun _ _ => trivial) (p.after ' ')
    exact ⟨q,congrArg (Scanned.after [Text.Piece.char ' '] <$> ·) same⟩
  | code left value => cases reads

theorem Gives.escaped (onward : Gives (.text .nothing) text cs rest) :
    Gives (.text held) (escaped c ++ text) (c :: cs) rest := by
  intro p
  obtain ⟨r,read⟩ := escaped_read c p text
  obtain ⟨q,same⟩ := onward r
  refine ⟨q,?_⟩
  rw [read,same,map_after,← Text.pieces_append,List.append_assoc]
  rfl

theorem doubleFrom_lineEnd (n : Nat) (p : Spot) (cs : List Char) :
    doubleFrom .escape (glyphsFrom p ('\n' :: (spaces (n + 1) ++ cs))) =
      doubleFrom (.text .joined) (glyphsFrom ((p.after '\n').along (n + 1)) cs) := by
  rw [← doubleFrom_joined]
  change (if (!atDocumentMarker _) = true then _ else _) = _
  rw [unmarked_spaces]
  rfl

-- An escaped line end is followed by a state that reads what stands on the new line.
theorem Gives.escapedBreak {indent : Nat} (indented : 0 < indent) (narrow : indent < width)
    {next : Option Char} (onward : ∀ state' : DoubleState,
      state'.Reads (columnAfterBreak indent next) next → Gives state' text cs rest) :
    Gives (.text held) (escapedBreak indent next ++ text) cs rest := by
  intro p
  obtain ⟨n,rfl⟩ : ∃ n, indent = n + 1 := ⟨indent - 1,by omega⟩
  have line := doubleFrom_lineEnd n (p.after '\\')
  simp only [Yaml.escapedBreak,newLine,List.cons_append,doubleFrom_backslash,List.append_assoc,line]
  by_cases space : next = some ' '
  · obtain ⟨q,same⟩ := onward .escape ⟨space,by rw [columnAfterBreak,if_pos space]; exact narrow⟩ _
    refine ⟨q,?_⟩
    rw [if_pos space,List.singleton_append,doubleFrom_backslash,Held.chars,Text.pieces_nil,
      map_after_nil,same,map_after,← Text.pieces_append]
    rfl
  · obtain ⟨q,same⟩ := onward (.text .joined) space _
    refine ⟨q,?_⟩
    rw [if_neg space,List.nil_append,same,map_after,← Text.pieces_append]
    rfl

end Gives

theorem doubleText_gives {indent : Nat} (indented : 0 < indent) (narrow : indent < width)
    (suffix : List Char) (column : Nat) (first afterEscape : Bool) {state : DoubleState}
    (reads : state.Reads column cs.head?) :
    Gives state (doubleText indent column first afterEscape cs ++ '"' :: '\n' :: suffix) cs
      ('\n' :: suffix) := by
  induction cs generalizing column first afterEscape state with
  | nil =>
    intro p
    refine ⟨p.after '"',?_⟩
    cases state with
    | text held =>
      rw [doubleText,List.nil_append,List.append_nil,glyphsFrom,doubleFrom.eq_def]
      rfl
    | escape => cases reads.1
    | code left value => cases reads
  | cons c cs ih =>
    rw [doubleText]
    by_cases special : isEscaped c = true
    · obtain ⟨held,rfl⟩ := reads.textual (.inl special)
      rw [if_pos special]
      dsimp only
      split
      · rw [List.append_assoc,List.append_assoc]
        exact .escaped (.escapedBreak indented narrow fun state' reads => ih _ _ _ reads)
      · rw [List.append_assoc]
        exact .escaped (ih _ _ _ trivial)
    rw [Bool.not_eq_true] at special
    rw [special,if_neg Bool.false_ne_true]
    split
    · rename_i full
      simp only [Bool.and_eq_true,decide_eq_true_eq] at full
      obtain ⟨held,rfl⟩ := reads.textual (.inr full.2)
      rw [List.append_assoc,List.cons_append]
      exact .escapedBreak indented narrow fun state' reads =>
        .plain reads special fun _ loose => ih _ _ _ (loose _ _)
    · exact .plain reads special fun _ loose => ih _ _ _ (loose _ _)

end WireGraph.Yaml
