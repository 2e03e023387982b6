import WireGraph.Files

/-!
# Arguments

The words of a command line: options that begin with two dashes and take a value, in the same word
after an equals sign or in the next one, and the words in between. After a lone pair of dashes no
word is an option.
-/

namespace WireGraph.CommandLine

-- The options found with their values, in order, and the other words.
structure Arguments where
  options : List (String × String) := []
  words : List String := []
deriving DecidableEq, Repr

def isOption (word : String) : Bool := word.startsWith "-" && word != "-"

def splitOption (word : String) : String × Option String :=
  let (name, rest) := word.toList.span (· != '=')
  match rest with
  | [] => (word, none)
  | _ :: value => (String.ofList name, some (String.ofList value))

namespace Arguments

def withOption (a : Arguments) (name value : String) : Arguments :=
  { a with options := (name, value) :: a.options }

def withWord (a : Arguments) (word : String) : Arguments := { a with words := word :: a.words }

-- Reads words with the given options. Where `mixed` is false, the first word that is no option ends
-- the options. There is no answer when an option is unknown or lacks its value.
def read (known : List String) (mixed : Bool) : List String → Option Arguments
  | [] => some {}
  | word :: rest =>
    if word = "--" then some { words := rest }
    else if isOption word then
      let (name, value?) := splitOption word
      if known.contains name then
        match value?, rest with
        | some value, rest => (read known mixed rest).map (·.withOption name value)
        | none, value :: rest => (read known mixed rest).map (·.withOption name value)
        | none, [] => none
      else none
    else if mixed then (read known mixed rest).map (·.withWord word)
    else some { words := word :: rest }

def last? (a : Arguments) (name : String) : Option String :=
  ((a.options.filter (·.1 == name)).map (·.2)).getLast?

def all (a : Arguments) (name : String) : List String :=
  (a.options.filter (·.1 == name)).map (·.2)

-- The only word; none if there are none or several.
def only? (a : Arguments) : Option String :=
  match a.words with
  | [word] => some word
  | _ => none

end Arguments

end WireGraph.CommandLine
