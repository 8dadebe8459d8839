import ImportOrder.Journal
import ImportOrder.Text.Basic

/-!
# Command line arguments

The arguments of a run: flags for the whole program, the name of a command, and the command's own
options among its paths. Two dashes end the options.

## Main definitions

* `Mode`, `Invocation`: what a run does
* `Request`: what the arguments ask for
* `Request.ofArguments`: reading the arguments
-/

namespace ImportOrder

/-- **What a run does** with files that are out of order. -/
inductive Mode where
  | check
  | fix
deriving Repr, DecidableEq, Inhabited

/-- **A run**: what it does, on which files and directories, with which settings file, and the least
level of remarks that it shows. -/
structure Invocation where
  mode : Mode
  paths : List String
  config : Option String
  level : Level
deriving Repr, DecidableEq, Inhabited

/-- **What arguments ask for.** -/
inductive Request where
  | invalid
  | help
  | version
  | run (invocation : Invocation)
deriving Repr, DecidableEq, Inhabited

/-- The flags of the whole program. -/
inductive Flag where
  | verbose
  | quiet
  | version
  | help
deriving Repr, DecidableEq, Inhabited

/-- Whether an argument is written as an option: a dash and more. -/
def isOption (arg : String) : Bool := arg.toList.head? == some '-' && 1 < arg.length

namespace Flag

/-- The flag of a long name. -/
def ofName? : String → Option Flag
  | "--verbose" => some .verbose
  | "--quiet" => some .quiet
  | "--version" => some .version
  | "--help" => some .help
  | _ => none

/-- The flag of a letter. -/
def ofLetter? : Char → Option Flag
  | 'v' => some .verbose
  | 'q' => some .quiet
  | _ => none

/-- The flags of an argument: one by its long name, or several by their letters. -/
def ofArgument? (arg : String) : Option (List Flag) :=
  match ofName? arg with
  | some flag => some [flag]
  | none => if arg.startsWith "--" then none else (arg.toList.drop 1).mapM ofLetter?

/-- The flags at the start of the arguments, and the arguments after them. -/
def takeAll? : List String → Option (List Flag × List String)
  | [] => some ([], [])
  | arg :: rest =>
    if arg = "--" then some ([], rest)
    else if isOption arg then do
      let flags ← ofArgument? arg
      let (more, rest) ← takeAll? rest
      return (flags ++ more, rest)
    else some ([], arg :: rest)

/-- The least level of remarks to show; being quiet wins. -/
def level (flags : List Flag) : Level :=
  if flags.contains quiet then .error else if flags.contains verbose then .debug else .info

/-- What the first flag that asks for an answer of its own asks for. -/
def answer? (flags : List Flag) : Option Request :=
  flags.findSome? fun
    | version => some .version
    | help => some .help
    | _ => none

end Flag

/-- **The arguments of a command.** -/
structure CommandArguments where
  paths : List String := []
  config : Option String := none
  help : Bool := false
deriving Repr, DecidableEq, Inhabited

namespace CommandArguments

/-- The value after a name and an equals sign. -/
def valueOf? (name arg : String) : Option String :=
  (Text.after? (name ++ "=").toList arg.toList).map String.ofList

/-- Reads the arguments of a command. -/
def read? (acc : CommandArguments) : List String → Option CommandArguments
  | [] => some acc
  | arg :: rest =>
    if arg = "--" then some { acc with paths := acc.paths ++ rest }
    else if arg = "--help" then read? { acc with help := true } rest
    else if arg = "--config" then
      match rest with
      | [] => none
      | value :: rest => read? { acc with config := some value } rest
    else
      match valueOf? "--config" arg with
      | some value => read? { acc with config := some value } rest
      | none =>
        if isOption arg then none else read? { acc with paths := acc.paths ++ [arg] } rest

/-- What a command and its arguments ask for. -/
def request (mode : Mode) (level : Level) (args : List String) : Request :=
  match read? {} args with
  | none => .invalid
  | some a =>
    if a.help then .help
    else if a.paths.isEmpty then .invalid
    else .run ⟨mode, a.paths, a.config, level⟩

end CommandArguments

namespace Request

/-- What the arguments of a run ask for. -/
def ofArguments (args : List String) : Request :=
  match Flag.takeAll? args with
  | none => .invalid
  | some (flags, rest) =>
    match Flag.answer? flags, rest with
    | some answer, _ => answer
    | none, "check" :: args => CommandArguments.request .check (Flag.level flags) args
    | none, "fix" :: args => CommandArguments.request .fix (Flag.level flags) args
    | none, _ => .invalid

end Request

end ImportOrder
