/-
# `CrudStack.Command.Arguments` — the command line

A command line names one of two commands and then, in any order, a source and options.  An option
takes its value from the same argument, behind an equals sign or behind its letter, or from the next
one; behind `--` everything is a source.  A value is judged when the next thing is settled, not when
it is read, so of two faults in a line the one that is met first in this order counts.
-/
import CrudStack.Artifact
import CrudStack.Settings

namespace CrudStack.Command

/-- Why a command line is not carried out. -/
inductive UsageFault where
  | helpWanted
  | versionWanted
  | nothingGiven
  | unknownCommand
  | unknownArgument
  | missingArgument
  | invalidValue
  | repeatedOption
  | surplusValue
  deriving DecidableEq, Repr

/-- What a value of the command line is for. -/
inductive Slot where
  | source
  | destination
  | config
  | database
  deriving DecidableEq, Repr

/-- What a command is to do. -/
structure Request where
  mode : Mode
  source : Path
  destination : Option Path
  config : Option Path
  database : Option Database
  deriving DecidableEq, Repr

/-! ## Names -/

/-- The command of a name. -/
def commandNamed? (name : String) : Option Mode :=
  if name = "generate_back" ∨ name = "generate-back" then some .backend
  else if name = "generate_front" ∨ name = "generate-front" then some .frontend
  else none

/-- Name of the command that explains the others. -/
def helpName : String := "help"

/-- The option of a long name. -/
def slotNamed? (mode : Mode) (name : String) : Option Slot :=
  if name = "destination" then some .destination
  else if name = "config" then some .config
  else if name = "database" ∧ mode = .backend then some .database
  else none

/-- The option of a letter. -/
def slotLettered? (c : Char) : Option Slot := if c = 'd' then some .destination else none

/-- How an argument reads. -/
inductive Shape where
  /-- Two dashes alone. -/
  | rest
  /-- Two dashes and a name, and the value behind an equals sign. -/
  | long (name : String) (value : Option String)
  /-- A dash and a letter, and what is written behind it. -/
  | short (letter : Char) (behind : List Char)
  | plain
  deriving DecidableEq, Repr

/-- A name and the value behind its first equals sign. -/
def splitEquals (cs : List Char) : String × Option String :=
  let name := String.ofList (cs.takeWhile (· ≠ '='))
  match cs.dropWhile (· ≠ '=') with
  | [] => (name, none)
  | _ :: value => (name, some (String.ofList value))

/-- How an argument reads. -/
def shapeOf (argument : String) : Shape :=
  match argument.toList with
  | ['-', '-'] => .rest
  | '-' :: '-' :: cs => .long (splitEquals cs).1 (splitEquals cs).2
  | '-' :: c :: behind => .short c behind
  | _ => .plain

/-! ## Reading the arguments of a command -/

/-- How far the arguments of a command have been read: the values that are settled, one that is not
yet, whether an option waits for its value, whether `--` was met, and whether a source was. -/
structure Reading where
  mode : Mode
  settled : List (Slot × String)
  pending : Option (Slot × Option String)
  waiting : Bool
  onlySources : Bool
  hasSource : Bool

namespace Reading

/-- Nothing read yet. -/
def start (mode : Mode) : Reading := ⟨mode, [], none, false, false, false⟩

/-- Judges a value and keeps it. -/
def settleValue (r : Reading) (slot : Slot) (value : String) : Except UsageFault Reading :=
  if (r.settled.lookup slot).isSome then .error .repeatedOption
  else
    let valid :=
      if slot = .database then (Database.ofLabel? value).isSome else !value.isEmpty
    if valid then .ok { r with settled := r.settled ++ [(slot, value)] }
    else .error .invalidValue

/-- Settles what is pending; an option without a value cannot be. -/
def settle (r : Reading) : Except UsageFault Reading :=
  match r.pending with
  | none => .ok r
  | some (_, none) => .error .invalidValue
  | some (slot, some value) => settleValue { r with pending := none } slot value

/-- Takes an option, with its value if that is in the same argument. -/
def option (r : Reading) (slot : Slot) (value : Option String) : Except UsageFault Reading := do
  let r ← r.settle
  match value with
  | some value => return { (← r.settleValue slot value) with waiting := false }
  | none => return { r with pending := some (slot, none), waiting := true }

/-- Takes a source. -/
def takeSource (r : Reading) (argument : String) : Except UsageFault Reading := do
  if r.hasSource then throw .unknownArgument
  let r ← r.settle
  return { r with pending := some (.source, some argument), waiting := false, hasSource := true }

/-- Asks for help, once what is pending is settled. -/
def wantHelp (r : Reading) : Except UsageFault Reading := do
  let _ ← r.settle
  throw .helpWanted

/-- The value that is written behind the letter of an option. -/
def attached : List Char → Option String
  | [] => none
  | '=' :: value => some (String.ofList value)
  | value => some (String.ofList value)

/-- Takes an argument that is no option. -/
def takePlain (r : Reading) (argument : String) : Except UsageFault Reading :=
  match r.waiting, r.pending with
  | true, some (slot, _) =>
    .ok { r with pending := some (slot, some argument), waiting := false }
  | _, _ => r.takeSource argument

/-- Takes the next argument. -/
def take (r : Reading) (argument : String) : Except UsageFault Reading :=
  if r.onlySources then r.takeSource argument
  else
    match shapeOf argument with
    | .rest => .ok { r with onlySources := true }
    | .long name value =>
      if name = helpName then if value.isSome then .error .surplusValue else r.wantHelp
      else
        match slotNamed? r.mode name with
        | some slot => r.option slot value
        | none => .error .unknownArgument
    | .short letter behind =>
      if letter = 'h' then r.wantHelp
      else
        match slotLettered? letter with
        | some slot => r.option slot (attached behind)
        | none => .error .unknownArgument
    | .plain => r.takePlain argument

/-- The request that the settled values make up. -/
def request (r : Reading) : Except UsageFault Request :=
  match r.settled.lookup .source with
  | none => .error .missingArgument
  | some source =>
    .ok
      { mode := r.mode
        source := ⟨source⟩
        destination := (r.settled.lookup .destination).map Path.mk
        config := (r.settled.lookup .config).map Path.mk
        database := (r.settled.lookup .database).bind Database.ofLabel? }

end Reading

/-- Reads the arguments of a command. -/
def parseCommand (mode : Mode) (arguments : List String) : Except UsageFault Request := do
  let r ← arguments.foldlM Reading.take (Reading.start mode)
  (← r.settle).request

/-! ## Reading the whole line -/

/-- Whether a name is that of a command. -/
def isCommandName (name : String) : Bool := (commandNamed? name).isSome || name = helpName

/-- Asks for help on commands: at most one that exists. -/
def parseHelp : List String → UsageFault
  | [] => .helpWanted
  | [name] => if isCommandName name then .helpWanted else .unknownCommand
  | _ => .unknownCommand

/-- What an argument before any command amounts to. -/
def parseLeading (argument : String) (rest : List String) : UsageFault :=
  match shapeOf argument with
  | .rest =>
    match rest with
    | [] => .nothingGiven
    | next :: _ => if isCommandName next then .unknownArgument else .unknownCommand
  | .long name value =>
    if name = helpName then if value.isSome then .surplusValue else .helpWanted
    else if name = "version" then if value.isSome then .surplusValue else .versionWanted
    else .unknownArgument
  | .short letter _ =>
    if letter = 'h' then .helpWanted
    else if letter = 'V' then .versionWanted
    else .unknownArgument
  | .plain => .unknownCommand

/-- Reads a command line; its first element is the name of the program. -/
def parse (line : List String) : Except UsageFault Request :=
  match line.drop 1 with
  | [] => .error .nothingGiven
  | first :: rest =>
    match commandNamed? first with
    | some mode => parseCommand mode rest
    | none =>
      if first = helpName then .error (parseHelp rest) else .error (parseLeading first rest)

end CrudStack.Command
