/-!
# Literals

What may stand in the round brackets of an action that is tied to a text: numbers, quoted texts, the
words for truth values and for nothing, and tuples, sets and dictionaries of these. Only whether a
text is such a literal is asked here.
-/

namespace WireGraph.Terminal

def isWordChar (c : Char) : Bool := c.isAlphanum || c == '_' || 128 ≤ c.toNat

-- Skips blanks; inside brackets line ends are blanks too.
def skipBlank (inside : Bool) (cs : List Char) : List Char :=
  cs.dropWhile fun c => c == ' ' || c == '\t' || c.toNat == 12 || (inside && c == '\n')

def endsWord (cs : List Char) : Bool := !(cs.head?.any isWordChar)

def digitRun? (digit : Char → Bool) (cs : List Char) : Option (List Char × List Char) :=
  let (run, rest) := cs.span fun c => digit c || c == '_'
  let firstAndLast := run.head?.any digit && run.getLast?.any digit
  if firstAndLast && !((run.zip run.tail).contains ('_', '_')) then some (run, rest) else none

def basedDigits? (letter : Char) (cs : List Char) : Option (List Char) :=
  let digit : Option (Char → Bool) :=
    if letter = 'x' || letter = 'X' then
      some fun c => c.isDigit || ('a' ≤ c.toLower && c.toLower ≤ 'f')
    else if letter = 'o' || letter = 'O' then some fun c => '0' ≤ c && c ≤ '7'
    else if letter = 'b' || letter = 'B' then some fun c => c == '0' || c == '1'
    else none
  digit.bind fun digit => (digitRun? digit cs).map (·.2)

def afterExponent? : List Char → Option (List Char)
  | e :: rest =>
    if e = 'e' || e = 'E' then
      let digits := match rest with
        | '+' :: more => more
        | '-' :: more => more
        | more => more
      (digitRun? Char.isDigit digits).map (·.2)
    else none
  | [] => none

-- A decimal number: whether it counts an imaginary unit, and what follows it. Zeros come first only
-- before a point, an exponent or such a unit.
def decimal? (cs : List Char) : Option (Bool × List Char) := do
  let (whole, rest) ←
    if cs.head?.any (· == '.') then some ([], cs) else digitRun? Char.isDigit cs
  let (pointed, rest) ← match rest with
    | '.' :: more =>
      if more.head?.any Char.isDigit then (digitRun? Char.isDigit more).map fun r => (true, r.2)
      else if whole = [] then none
      else some (true, more)
    | _ => some (false, rest)
  let (raised, rest) := match afterExponent? rest with
    | some more => (true, more)
    | none => (false, rest)
  let (imaginary, rest) := match rest with
    | 'j' :: more => (true, more)
    | 'J' :: more => (true, more)
    | _ => (false, rest)
  let zeros := whole.head?.any (· == '0') && whole.any fun c => c != '0' && c != '_'
  if zeros && !pointed && !raised && !imaginary then none
  else if endsWord rest then some (imaginary, rest)
  else none

def number? : List Char → Option (Bool × List Char)
  | '0' :: letter :: rest =>
    match basedDigits? letter rest with
    | some more => if endsWord more then some (false, more) else none
    | none => decimal? ('0' :: letter :: rest)
  | cs => decimal? cs

def complex? (inside : Bool) (cs : List Char) : Option (List Char) := do
  let body := match cs with
    | '+' :: rest => skipBlank inside rest
    | '-' :: rest => skipBlank inside rest
    | _ => cs
  let (imaginary, rest) ← number? body
  match skipBlank inside rest with
  | sign :: more =>
    if sign = '+' || sign = '-' then
      match number? (skipBlank inside more) with
      | some (true, after) => if imaginary then none else some after
      | _ => none
    else some rest
  | [] => some rest

def afterQuoted? (quote : Char) : List Char → Option (List Char)
  | [] => none
  | '\\' :: _ :: rest => afterQuoted? quote rest
  | c :: rest =>
    if c = quote then some rest else if c = '\n' then none else afterQuoted? quote rest

def afterLongQuoted? (quote : Char) : List Char → Option (List Char)
  | [] => none
  | '\\' :: _ :: rest => afterLongQuoted? quote rest
  | c :: rest =>
    if [quote, quote, quote].isPrefixOf (c :: rest) then some ((c :: rest).drop 3)
    else afterLongQuoted? quote rest

def quotePrefixes : List String := ["", "r", "u", "b", "br", "rb"]

def quoted? (cs : List Char) : Option (Bool × List Char) :=
  let (letters, rest) := cs.span Char.isAlpha
  let word := (String.ofList letters).toLower
  if !quotePrefixes.contains word then none
  else match rest with
    | quote :: more =>
      if quote != '\'' && quote != '"' then none
      else
        let after := if [quote, quote].isPrefixOf more then afterLongQuoted? quote (more.drop 2)
          else none
        (after.or (afterQuoted? quote more)).map fun rest => (word.contains 'b', rest)
    | [] => none

def quotedRun? (inside : Bool) : (limit : Nat) → List Char → Option (Bool × List Char)
  | 0, _ => none
  | limit + 1, cs => do
    let (data, rest) ← quoted? cs
    match quotedRun? inside limit (skipBlank inside rest) with
    | some (more, after) => if data = more then some (data, after) else none
    | none => return (data, rest)

def afterWord? (cs : List Char) : Option (List Char) :=
  let (word, rest) := cs.span isWordChar
  if ["True", "False", "None"].contains (String.ofList word) then some rest else none

mutual

def literal? : (limit : Nat) → (inside : Bool) → List Char → Option (List Char)
  | 0, _, _ => none
  | limit + 1, inside, cs =>
    match cs with
    | '(' :: rest => literals? limit ')' false (skipBlank true rest)
    | '\x7b' :: rest => literals? limit '\x7d' true (skipBlank true rest)
    | _ =>
      (afterWord? cs).or (((quotedRun? inside (cs.length + 1) cs).map (·.2)).or
        (complex? inside cs))

-- What follows the closing bracket of literals with commas between them; where `keyed` holds, each
-- may have a colon and another literal behind it.
def literals? : (limit : Nat) → (close : Char) → (keyed : Bool) → List Char → Option (List Char)
  | 0, _, _, _ => none
  | limit + 1, close, keyed, cs =>
    if cs.head? = some close then some cs.tail
    else do
      let rest ← literal? limit true cs
      let rest ← match skipBlank true rest with
        | ':' :: more => if keyed then literal? limit true (skipBlank true more) else none
        | _ => some rest
      match skipBlank true rest with
      | ',' :: more => literals? limit close keyed (skipBlank true more)
      | c :: more => if c = close then some more else none
      | [] => none

end

def isLiteral (cs : List Char) : Bool :=
  match literal? (2 * cs.length + 2) false (skipBlank false cs) with
  | some rest => (skipBlank true rest).isEmpty
  | none => false

end WireGraph.Terminal
