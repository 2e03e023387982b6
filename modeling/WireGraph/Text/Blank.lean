/-!
# White space

The characters that separate words, and those that end lines, in texts of any script.
-/

namespace WireGraph.Text

def isSpace (c : Char) : Bool :=
  let n := c.toNat
  (9 ≤ n && n ≤ 13) || (28 ≤ n && n ≤ 32) || n == 0x85 || n == 0xA0 || n == 0x1680
    || (0x2000 ≤ n && n ≤ 0x200A) || n == 0x2028 || n == 0x2029 || n == 0x202F || n == 0x205F
    || n == 0x3000

def isLineEnd (c : Char) : Bool :=
  let n := c.toNat
  (10 ≤ n && n ≤ 13) || (28 ≤ n && n ≤ 30) || n == 0x85 || n == 0x2028 || n == 0x2029

def trim (cs : List Char) : List Char :=
  ((cs.dropWhile isSpace).reverse.dropWhile isSpace).reverse

def wordsFrom (word : List Char) : List Char → List (List Char)
  | [] => if word = [] then [] else [word.reverse]
  | c :: rest =>
    if !isSpace c then wordsFrom (c :: word) rest
    else if word = [] then wordsFrom [] rest
    else word.reverse :: wordsFrom [] rest

def words (cs : List Char) : List (List Char) := wordsFrom [] cs

@[simp] theorem trim_nil : trim [] = [] := rfl

end WireGraph.Text
