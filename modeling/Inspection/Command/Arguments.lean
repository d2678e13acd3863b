/-!
# Arguments

How the words of a command line are read. A word that starts with a dash is an option: `--name`, its
value after an equals sign or as the next word, or a dash and letters, each an option of its own and
the last one perhaps with its value right behind it. After `--` all words are positional.
-/

namespace Inspection.Command

/-- An option that a command has. -/
structure OptionRule where
  /-- How it is called in the command; the long spelling without its dashes. -/
  name : String
  /-- The letter of its short spelling. -/
  letter : Option Char
  takesValue : Bool
deriving Repr, DecidableEq

/-- An option that was given. One without a value has the empty one. -/
structure Given where
  name : String
  value : String
deriving Repr, DecidableEq

/-- What a word with options gives. -/
structure OptionWord where
  given : List Given
  /-- The option whose value is the next word. -/
  awaiting : Option String
deriving Repr, DecidableEq

/-- The options and the positional words of a command line. -/
structure Arguments where
  options : List Given
  words : List String
deriving Repr, DecidableEq

/-- Reads the letters after a single dash. -/
def readLetters (rules : List OptionRule) : List Char → Option OptionWord
  | [] => some ⟨[], none⟩
  | c :: rest =>
    match rules.find? fun r => r.letter = some c with
    | none => none
    | some r =>
      if !r.takesValue then
        (readLetters rules rest).map fun w => { w with given := ⟨r.name, ""⟩ :: w.given }
      else if rest.isEmpty then some ⟨[], some r.name⟩
      else some ⟨[⟨r.name, String.ofList rest⟩], none⟩

/-- Reads a name after two dashes, and what follows an equals sign after it. -/
def readName (rules : List OptionRule) (cs : List Char) : Option OptionWord :=
  let name := cs.takeWhile (· ≠ '=')
  match rules.find? fun r => r.name = String.ofList name with
  | none => none
  | some r =>
    match r.takesValue, cs.drop name.length with
    | true, [] => some ⟨[], some r.name⟩
    | true, _ :: value => some ⟨[⟨r.name, String.ofList value⟩], none⟩
    | false, [] => some ⟨[⟨r.name, ""⟩], none⟩
    | false, _ => none

/-- Reads a word that starts with a dash. -/
def readOption (rules : List OptionRule) : List Char → Option OptionWord
  | '-' :: '-' :: name => readName rules name
  | '-' :: letters => readLetters rules letters
  | _ => none

/-- Whether a word is positional wherever it stands. -/
def isPositional (word : String) : Bool :=
  !word.startsWith "-" || word = "-"

/-- Reads words. Unless options may follow positional words, the first of these ends the options. -/
def readWords (rules : List OptionRule) (mixed : Bool) : List String → Option Arguments
  | [] => some ⟨[], []⟩
  | word :: rest =>
    if word = "--" then some ⟨[], rest⟩
    else if isPositional word then
      if mixed then (readWords rules mixed rest).map fun a => { a with words := word :: a.words }
      else some ⟨[], word :: rest⟩
    else
      match readOption rules word.toList with
      | none => none
      | some ⟨given, none⟩ =>
        (readWords rules mixed rest).map fun a => { a with options := given ++ a.options }
      | some ⟨given, some name⟩ =>
        match rest with
        | [] => none
        | value :: rest =>
          (readWords rules mixed rest).map fun a =>
            { a with options := given ++ ⟨name, value⟩ :: a.options }

namespace Arguments

/-- Whether an option was given. -/
def has (a : Arguments) (name : String) : Bool :=
  a.options.any fun g => g.name = name

/-- All values of an option. -/
def values (a : Arguments) (name : String) : List String :=
  (a.options.filter fun g => g.name = name).map Given.value

/-- The value of an option; of several the last. -/
def value? (a : Arguments) (name : String) : Option String :=
  (a.values name).getLast?

end Arguments

end Inspection.Command
