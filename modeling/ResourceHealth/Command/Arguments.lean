import ResourceHealth.Command
import ResourceHealth.Counter

/-!
# Arguments

The command line is read from the left: options of the program, the name of a
command, options of the command.  A short option may carry its value along, and
short options may be written in one word.

Main definitions:

- `Arguments.spelling`: the options with their names.
- `Arguments.read`: the options up to the next word that is none.
- `Arguments.parse`: what a command line asks for.
-/

namespace ResourceHealth

namespace Arguments

/-! ## Options -/

/-- The options. -/
inductive OptionName where
  | config
  | verbose
  | version
  | help
  | strict
  | json
  | count
  | interval
  | samples
deriving DecidableEq

/-- How an option is written. -/
structure Spelling where
  long : List Char
  short : Option Char

/-- How each option is written. -/
def spelling (name : OptionName) : Spelling :=
  match name with
  | .config => ⟨"config".toList, some 'c'⟩
  | .verbose => ⟨"verbose".toList, some 'v'⟩
  | .version => ⟨"version".toList, some 'V'⟩
  | .help => ⟨"help".toList, some 'h'⟩
  | .strict => ⟨"strict".toList, none⟩
  | .json => ⟨"json".toList, none⟩
  | .count => ⟨"count".toList, some 'n'⟩
  | .interval => ⟨"interval-ms".toList, some 'i'⟩
  | .samples => ⟨"samples".toList, some 's'⟩

/-- Whether an option has a value. -/
def takesValue : OptionName → Bool
  | .config => true
  | .count => true
  | .interval => true
  | .samples => true
  | _ => false

/-- Whether a text can be the value of an option: a path is not empty and a number is a
counter. -/
def accepts (name : OptionName) (value : List Char) : Bool :=
  match name with
  | .config => value ≠ []
  | _ => (Counter.read? value).isSome

/-- The options that are known everywhere. -/
def everywhere : List OptionName := [.config, .verbose, .help]

/-- An option that was given, with its value. -/
structure Given where
  name : OptionName
  value : List Char := []
deriving DecidableEq

/-! ## Reading -/

/-- Why reading the options ends before the end. -/
inductive Halt where
  | refused
  | version
  | help
deriving DecidableEq

/-- The options with one more.  Only the verbosity may be given again. -/
def add (given : List Given) (next : Given) : Except Halt (List Given) :=
  match next.name with
  | .version => .error .version
  | .help => .error .help
  | .verbose => .ok (given ++ [next])
  | name =>
    if given.any (·.name = name) then .error .refused
    else if takesValue name ∧ accepts name next.value = false then .error .refused
    else .ok (given ++ [next])

/-- What a word that holds options comes to. -/
inductive Word where
  /-- The options are complete. -/
  | complete (given : List Given)
  /-- The last option needs the next word as its value. -/
  | waiting (given : List Given) (name : OptionName)

/-- The options that short names in one word stand for.  An option with a value takes the rest
of the word, without an equals sign before it. -/
def readShort (known : List OptionName) : List Given → List Char → Except Halt Word
  | given, [] => .ok (.complete given)
  | given, c :: rest =>
    match known.find? fun name => (spelling name).short = some c with
    | none => .error .refused
    | some name =>
      if takesValue name then
        match rest with
        | [] => .ok (.waiting given name)
        | '=' :: value => (add given ⟨name, value⟩).map .complete
        | value => (add given ⟨name, value⟩).map .complete
      else match add given { name } with
        | .error halt => .error halt
        | .ok more => readShort known more rest

/-- The option that a long name stands for; a value may follow after an equals sign. -/
def readLong (known : List OptionName) (given : List Given) (word : List Char) :
    Except Halt Word :=
  let long := word.takeWhile (· ≠ '=')
  match known.find? (fun name => (spelling name).long = long), word.dropWhile (· ≠ '=') with
  | none, _ => .error .refused
  | some name, _ :: value =>
    if takesValue name then (add given ⟨name, value⟩).map .complete
    else .error .refused
  | some name, [] =>
    if takesValue name then .ok (.waiting given name)
    else (add given { name }).map .complete

/-- Whether a word starts like an option, so that it is no value. -/
def isOptionLike : List Char → Bool
  | '-' :: _ :: _ => true
  | _ => false

/-- What stands after the options. -/
structure Stop where
  given : List Given
  /-- The first word that is no option and the words behind it. -/
  word : Option (List Char × List (List Char))

/-- What a word comes to if it is made of options; two dashes alone say that no options follow,
and then nothing may. -/
def readWord (known : List OptionName) (given : List Given) (word : List Char)
    (isLast : Bool) : Option (Except Halt Word) :=
  match word with
  | ['-', '-'] => some (if isLast then .ok (.complete given) else .error .refused)
  | '-' :: '-' :: long => some (readLong known given long)
  | '-' :: c :: short => some (readShort known given (c :: short))
  | _ => none

/-- The options up to the first word that is none. -/
def read (known : List OptionName) : List Given → List (List Char) → Except Halt Stop
  | given, [] => .ok ⟨given, none⟩
  | given, word :: rest =>
    match readWord known given word rest.isEmpty with
    | none => .ok ⟨given, some (word, rest)⟩
    | some (.error halt) => .error halt
    | some (.ok (.complete more)) => read known more rest
    | some (.ok (.waiting more name)) =>
      match rest with
      | [] => .error .refused
      | value :: others =>
        if isOptionLike value then .error .refused
        else match add more ⟨name, value⟩ with
          | .error halt => .error halt
          | .ok complete => read known complete others

/-! ## Commands -/

/-- What a command line asks for. -/
inductive Request where
  | run (config : Option Path) (verbosity : Nat) (command : Command)
  | version
  | help
  | refused
deriving DecidableEq

/-- The value of an option, if it was given. -/
def value? (given : List Given) (name : OptionName) : Option (List Char) :=
  (given.find? (·.name = name)).map (·.value)

/-- Whether an option was given. -/
def has (given : List Given) (name : OptionName) : Bool :=
  given.any (·.name = name)

/-- The number that an option was given, or its default. -/
def number (given : List Given) (name : OptionName) (default : Nat) : Nat :=
  ((value? given name).bind Counter.read?).getD default

/-- Where an option of the whole program counts: after the name of the command if it was given
there, else before it. -/
def decisive (before after : List Given) (name : OptionName) : List Given :=
  if has after name then after else before

/-- The options of a command of its own, and the command that they make. -/
def commands : List (List Char × List OptionName × (List Given → Command)) := [
  ("status".toList, [.strict], fun given => .status (has given .strict)),
  ("watch".toList, [.count, .interval], fun given =>
    .watch (number given .count 10) (number given .interval 1000)),
  ("summary".toList, [.samples, .json], fun given =>
    .summary (number given .samples 1) (has given .json))]

/-- The request that stops reading. -/
def Halt.request : Halt → Request
  | .refused => .refused
  | .version => .version
  | .help => .help

/-- What a command line asks for that names help as its command: help for the program, or for
one command. -/
def helpRequest (words : List (List Char)) : Request :=
  match words with
  | [] => .help
  | [word] =>
    if (commands.lookup word).isSome ∨ word = "help".toList then .help else .refused
  | _ => .refused

/-- What a command line asks for.  Settings for the whole program may stand before or after the
name of the command; those after it count. -/
def parse (arguments : List (List Char)) : Request :=
  match read (.version :: everywhere) [] arguments with
  | .error halt => halt.request
  | .ok ⟨_, none⟩ => .refused
  | .ok ⟨before, some (word, rest)⟩ =>
    if word = "help".toList then helpRequest rest
    else match commands.lookup word with
      | none => .refused
      | some (own, command) =>
        match read (own ++ everywhere) [] rest with
        | .error halt => halt.request
        | .ok ⟨_, some _⟩ => .refused
        | .ok ⟨after, none⟩ =>
          let config := value? (decisive before after .config) .config
          let verbosity := (decisive before after .verbose).countP (·.name = .verbose)
          .run (config.map Path.ofText) verbosity (command after)

end Arguments

end ResourceHealth
