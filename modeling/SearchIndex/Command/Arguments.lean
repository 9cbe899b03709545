import SearchIndex.Keyed
import SearchIndex.Text.Pieces

/-!
# Arguments of a command line

A word that starts with a dash and goes on is an option, unless two dashes alone came before it:
after these every word is an argument. An option has its value after an equals sign or as its next
word; given twice, it has the later one. Some grammars take options only before the first argument.

## Main definitions

* `Word.ofText`: a word by its form
* `Grammar`: the options that are known, and where they may stand
* `Given`: what a command line holds
* `Grammar.read`: what a command line holds, if it follows the grammar
-/

namespace SearchIndex.Command

/-- A word of a command line. -/
inductive Word where
  /-- Two dashes. -/
  | ending
  /-- The name of an option, and its value if it is in the same word. -/
  | option (name : String) (value : Option String)
  | argument (text : String)
deriving DecidableEq, Repr

/-- **A word by its form.** -/
def Word.ofText (s : String) : Word :=
  match s.toList with
  | '-' :: c :: cs =>
    if s = "--" then .ending
    else
      match Text.cutAt? ['='] ('-' :: c :: cs) with
      | some (name, value) => .option (String.ofList name) (some (String.ofList value))
      | none => .option s none
  | _ => .argument s

/-- The option that asks for help. -/
def helpOption : String := "--help"

/-- The options that are known, and where they may stand. -/
structure Grammar where
  /-- The names of the options that have a value. -/
  options : List String := []
  /-- Options may stand after arguments. -/
  mixed : Bool := true
deriving DecidableEq, Repr

/-- What a command line holds. -/
structure Given where
  options : List (String × String) := []
  help : Bool := false
  arguments : List String := []
deriving DecidableEq, Repr, Inhabited

namespace Given

/-- The value of an option. -/
def option? (g : Given) (name : String) : Option String := Keyed.find? name g.options

/-- An option was given. -/
def withOption (g : Given) (name value : String) : Given :=
  { g with options := Keyed.put name value g.options }

/-- Arguments were given. -/
def withArguments (g : Given) (words : List String) : Given :=
  { g with arguments := g.arguments ++ words }

end Given

namespace Grammar

/-- What a command line holds after what was read of it; nothing if a word is no known option or
lacks its value. -/
def readFrom (g : Grammar) (given : Given) : List String → Option Given
  | [] => some given
  | word :: words =>
    match Word.ofText word with
    | .ending => some (given.withArguments words)
    | .argument text =>
      if g.mixed then readFrom g (given.withArguments [text]) words
      else some (given.withArguments (text :: words))
    | .option name value =>
      if name = helpOption then
        if value.isSome then none else readFrom g { given with help := true } words
      else if g.options.contains name then
        match value, words with
        | some value, words => readFrom g (given.withOption name value) words
        | none, value :: words => readFrom g (given.withOption name value) words
        | none, [] => none
      else none

/-- **What a command line holds**, if it follows the grammar. -/
def read (g : Grammar) (words : List String) : Option Given := g.readFrom {} words

end Grammar

end SearchIndex.Command
