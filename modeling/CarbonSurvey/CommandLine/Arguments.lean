/-! # Command-line arguments

Options may stand anywhere among the other arguments. A one-letter option may be bundled with others
and may have its value attached, a long one may have its value after an equals sign, and two dashes
end the options. An option that is unknown, given twice or without its value makes the command line
unusable, and so do too many or too few arguments.

Help is left out: there is no `--help`, no `-h` and no command `help`, here or below a command, and no
text for them. A command line that asks for help counts as one that cannot be used, which says nothing
about what the program prints for it.
-/

namespace CarbonSurvey.CommandLine

/-- An option with its two spellings. -/
structure Switch where
  letter : Char
  word : String
  takesValue : Bool
  deriving Repr, DecidableEq

/-- What a command is asked to do. Files are named by their paths. -/
inductive Command where
  /-- Prints the values of names, for one participant if there is a situation. -/
  | run (model : String) (names : List String) (situation : Option String) (raw : Bool)
  | inspect (model name : String)
  | list (model : String) (start : Option String)
  | stats (model situations catalogue : String) (raw : Bool)
  deriving Repr, DecidableEq

inductive Request where
  | version
  | command (command : Command)
  deriving Repr, DecidableEq

namespace Switch

def situation : Switch := ⟨'s', "situation", true⟩
def situations : Switch := ⟨'s', "situations", true⟩
def catalogue : Switch := ⟨'c', "catalogue", true⟩
def start : Switch := ⟨'p', "prefix", true⟩
def raw : Switch := ⟨'r', "raw", false⟩

end Switch

/-- The arguments of a command, sorted out. An option without a value has the empty one. -/
structure Given where
  operands : List String
  options : List (Char × String)
  deriving Repr, DecidableEq

namespace Given

def none : Given := ⟨[], []⟩

def operand (given : Given) (argument : String) : Given :=
  { given with operands := given.operands ++ [argument] }

def value? (given : Given) (switch : Switch) : Option String :=
  given.options.lookup switch.letter

def has (given : Given) (switch : Switch) : Bool :=
  (given.value? switch).isSome

/-- Takes an option, unless it is there already. -/
def option? (given : Given) (switch : Switch) (value : String) : Option Given :=
  if given.has switch then .none
  else some { given with options := given.options ++ [(switch.letter, value)] }

end Given

/-- Whether an argument cannot be the value of the option before it. A single dash can. -/
def looksLikeOption : List Char → Bool
  | '-' :: _ :: _ => true
  | _ => false

/-- The options of a bundle of letters. The last one may still want its value. -/
def takeLetters (known : List Switch) (given : Given) : List Char → Option (Given × Option Switch)
  | [] => some (given, none)
  | letter :: rest =>
    match known.find? (·.letter = letter) with
    | none => none
    | some switch =>
      if switch.takesValue then
        match rest with
        | [] => some (given, some switch)
        | '=' :: value => (given.option? switch (.ofList value)).map (·, none)
        | value => (given.option? switch (.ofList value)).map (·, none)
      else
        (given.option? switch "").bind fun given => takeLetters known given rest

/-- A long option after its dashes. It may still want its value. -/
def takeWord (known : List Switch) (given : Given) (argument : List Char) :
    Option (Given × Option Switch) :=
  let word := argument.takeWhile (· ≠ '=')
  match known.find? (·.word.toList = word), argument.dropWhile (· ≠ '=') with
  | none, _ => none
  | some switch, [] =>
    if switch.takesValue then some (given, some switch)
    else (given.option? switch "").map (·, none)
  | some switch, _ :: value =>
    if switch.takesValue then (given.option? switch (.ofList value)).map (·, none) else none

/-- Sorts out arguments one by one. `wanting` is an option whose value has to come next. -/
def sort (known : List Switch) : Given → Option Switch → List String → Option Given
  | given, none, [] => some given
  | _, some _, [] => none
  | given, some switch, argument :: rest =>
    if looksLikeOption argument.toList then none
    else (given.option? switch argument).bind fun given => sort known given none rest
  | given, none, argument :: rest =>
    match argument.toList with
    | ['-', '-'] => some (rest.foldl Given.operand given)
    | '-' :: '-' :: word =>
      (takeWord known given word).bind fun (given, wanting) => sort known given wanting rest
    | '-' :: letter :: letters =>
      (takeLetters known given (letter :: letters)).bind fun (given, wanting) =>
        sort known given wanting rest
    | _ => sort known (given.operand argument) none rest

/-- A path that is not empty. -/
def path? (argument : String) : Option String :=
  if argument = "" then none else some argument

/-- An option that may be left out, but if it is there names a file. -/
def optionalPath? (given : Given) (switch : Switch) : Option (Option String) :=
  match given.value? switch with
  | none => some none
  | some value => (path? value).map some

def requiredPath? (given : Given) (switch : Switch) : Option String :=
  (given.value? switch).bind path?

def run? (arguments : List String) : Option Command := do
  let given ← sort [.situation, .raw] .none none arguments
  match given.operands with
  | model :: name :: names =>
    return .run (← path? model) (name :: names) (← optionalPath? given .situation) (given.has .raw)
  | _ => none

def inspect? (arguments : List String) : Option Command := do
  let given ← sort [] .none none arguments
  match given.operands with
  | [model, name] => return .inspect (← path? model) name
  | _ => none

def list? (arguments : List String) : Option Command := do
  let given ← sort [.start] .none none arguments
  match given.operands with
  | [model] => return .list (← path? model) (given.value? .start)
  | _ => none

def stats? (arguments : List String) : Option Command := do
  let given ← sort [.situations, .catalogue, .raw] .none none arguments
  match given.operands with
  | [model] =>
    return .stats (← path? model) (← requiredPath? given .situations)
      (← requiredPath? given .catalogue) (given.has .raw)
  | _ => none

/-- What a command line asks for, if it can be used. -/
def Request.parse? : List String → Option Request
  | [] => none
  | first :: rest =>
    match first with
    | "run" => (run? rest).map .command
    | "show" => (inspect? rest).map .command
    | "list" => (list? rest).map .command
    | "stats" => (stats? rest).map .command
    | "--version" => some .version
    | _ => if first.toList.take 2 = ['-', 'V'] then some .version else none

end CarbonSurvey.CommandLine
