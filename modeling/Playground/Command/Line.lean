import Playground.Command.Fault
import Playground.Text.Chars
import Playground.Text.Similar

/-!
# Reading command lines

`Invocation.ofWords` reads the words of a command line.  The value of an option may follow it as a
word of its own; it is checked only when the next argument starts, so that a fault in a later word
may be found first.
-/

namespace Playground.Command

/-- What is asked of the program. -/
inductive Task where
  | compile (file out : Option String)
  | watch (file out link : Option String) (noInput : Bool)
  | share (file : Option String)
  | openLink (link : String) (write : Option String)
  | libs
deriving DecidableEq, Inhabited, Repr

/-- A command line. -/
structure Invocation where
  color : String
  verbose : Bool
  config : String
  task : Task
deriving DecidableEq, Inhabited, Repr

/-- Where words are read: in front of the command, or behind its name. -/
structure Level where
  /-- the usage without any arguments -/
  stem : String
  usage : String
  positionals : List Argument
  options : List Argument
  /-- a command may follow -/
  isProgram : Bool

/-- In front of the command. -/
def programLevel : Level :=
  { stem := programName, usage := programUsage, positionals := []
    options := sharedOptions ++ [helpOption, versionOption], isProgram := true }

/-- Behind the name of a command. -/
def Spec.level (c : Spec) : Level :=
  { stem := programName ++ " " ++ c.name, usage := c.usage, positionals := c.positionals
    options := c.options ++ sharedOptions ++ [helpOption], isProgram := false }

/-- What was read at a level. -/
structure Reading where
  /-- the arguments that were given, with their values -/
  given : List (Argument × String) := []
  /-- the argument whose value has not been checked, and the value if there is one -/
  pending : Option (Argument × Option String) := none
  /-- the next word is a value of the pending argument -/
  awaiting : Bool := false
  /-- no further word is an option -/
  escaped : Bool := false
  /-- how many places have been filled -/
  filled : Nat := 0

namespace Level

variable (l : Level)

/-- The usage with some arguments. -/
def usageWith (used : List Argument) : String :=
  let options := (used.filter fun a => a.long.isSome).eraseDups.map (·.usageText true)
  let places := l.positionals.map fun p => p.usageText (p.required || used.contains p)
  " ".intercalate
    ([l.stem] ++ options ++ places ++ if l.isProgram then ["<COMMAND>"] else [])

/-- Adds an argument with a value. -/
def give (r : Reading) (a : Argument) (value : String) : Except Fault Reading :=
  if r.given.any fun g => g.1.name = a.name then .error (.givenTwice a l.usage)
  else if a.value.isSome && value.isEmpty && !a.mayBeEmpty then .error (.valueMissing a)
  else if !a.choices.isEmpty && !a.choices.contains value then
    .error (.valueInvalid a value (Text.similar value a.choices).getLast?)
  else .ok { r with given := r.given ++ [(a, value)] }

/-- Checks the value of the pending argument. -/
def settle (r : Reading) : Except Fault Reading :=
  match r.pending with
  | none => .ok r
  | some (a, none) => .error (.valueMissing a)
  | some (a, some value) => l.give { r with pending := none, awaiting := false } a value

/-- Adds a switch, or answers it. -/
def flip (help : String) (r : Reading) (a : Argument) : Except Fault Reading := do
  -- a fault in the value before comes first, even before the help
  let r ← l.settle r
  if a.name = "help" then throw (.help help)
  if a.name = "version" then throw .version
  l.give r a ""

/-- Adds an option, with its value if that is attached. -/
def option (r : Reading) (a : Argument) (value : Option String) : Except Fault Reading := do
  let r ← l.settle r
  match value with
  | some v => l.give r a v
  | none => return { r with pending := some (a, none), awaiting := true }

/-- The tip on how to pass a word as a value. -/
def escapeTip (word : String) : String :=
  "to pass '" ++ word ++ "' as a value, use '-- " ++ word ++ "'"

/-- The fault of a long option that is not known, in front of some words. -/
def unknownLong (r : Reading) (name : String) (rest : List String) : Fault :=
  let longs (options : List Argument) : List String := options.filterMap (·.long)
  let word := "--" ++ name
  let givenArguments := r.given.map (·.1)
  match (Text.similar name (longs l.options)).getLast? with
  | some long =>
    let used := givenArguments ++ l.options.filter fun a => a.long = some long
    .unknownArgument word (some ("--" ++ long)) [] (l.usageWith used)
  | none =>
    let elsewhere : List (Nat × String) :=
      if !l.isProgram then []
      else
        commands.filterMap fun c => do
          let long ← (Text.similar name (longs c.level.options)).getLast?
          let place ← rest.findIdx? (· = c.name)
          return (place, "'" ++ c.name ++ " --" ++ long ++ "' exists")
    -- of the commands with such an option the one that is named first
    let first := elsewhere.foldl (fun best e =>
      match best with
      | none => some e
      | some b => if e.1 < b.1 then some e else some b) (none : Option (Nat × String))
    let tips := (if l.positionals.isEmpty then [] else [escapeTip word])
      ++ (first.map (·.2)).toList
    let usage := if givenArguments.isEmpty then l.usage else l.usageWith givenArguments
    .unknownArgument word none tips usage

/-- Reads a long option, in front of some words. -/
def long (help : String) (r : Reading) (text : List Char) (rest : List String) :
    Except Fault Reading :=
  let name := String.ofList (text.takeWhile (· ≠ '='))
  let value := match text.dropWhile (· ≠ '=') with
    | [] => none
    | _ :: v => some (String.ofList v)
  match l.options.find? fun a => a.long = some name with
  | none => .error (l.unknownLong r name rest)
  | some a =>
    if a.value.isSome then l.option r a value
    else
      match value with
      | none => l.flip help r a
      | some v => .error (.valueUnneeded a v (l.usageWith (r.given.map (·.1) ++ [a])))

/-- Reads short options that stand together. -/
def shorts (help : String) : List Char → Reading → Except Fault Reading
  | [], r => .ok r
  | c :: cs, r =>
    match l.options.find? fun a => a.short = some c with
    | none =>
      let word := "-" ++ c.toString
      .error (.unknownArgument word none
        (if l.positionals.isEmpty then [] else [escapeTip word]) l.usage)
    | some a =>
      if a.value.isSome then
        match cs with
        | [] => l.option r a none
        | '=' :: value => l.option r a (some (String.ofList value))
        | value => l.option r a (some (String.ofList value))
      else
        match l.flip help r a with
        | .error f => .error f
        | .ok r => shorts help cs r

/-- The fault of a word that has no place. -/
def misplaced (r : Reading) (word : String) : Fault :=
  if l.isProgram then
    if r.escaped && (command? word).isSome || r.escaped && word = "help" then
      .unknownArgument word none
        ["subcommand '" ++ word ++ "' exists; to use it, remove the '--' before it"] l.usage
    else .unknownCommand word (Text.similar word commandNames) l.usage
  else .unknownArgument word none [] l.usage

/-- Reads a word that fills a place. -/
def place (r : Reading) (word : String) : Except Fault Reading := do
  match l.positionals[r.filled]? with
  | none => throw (l.misplaced r word)
  | some a =>
    let r ← l.settle r
    return { r with pending := some (a, some word), filled := r.filled + 1 }

/-- Reads words up to the name of a command, if one may follow: what was read, and the name with
the words behind it. -/
def read (help : String) : List String → Reading →
    Except Fault (Reading × Option (String × List String))
  | [], r => .ok (r, none)
  | word :: rest, r => do
    if r.escaped then
      read help rest (← l.place r word)
    -- the name of a command can be the value of an option
    else if l.isProgram && !r.awaiting && commandNames.contains word then
      return (r, some (word, rest))
    else
      match word.toList with
      -- an option that still waits is left without a value, which is found when it is checked
      | ['-', '-'] => read help rest { r with escaped := true, awaiting := false }
      | '-' :: '-' :: text => read help rest (← l.long help r text rest)
      | '-' :: c :: cs => read help rest (← l.shorts help (c :: cs) r)
      | _ =>
        match r.awaiting, r.pending with
        | true, some (a, _) =>
          read help rest { r with pending := some (a, some word), awaiting := false }
        | _, _ => read help rest (← l.place r word)

/-- Checks what was read to the end. -/
def finish (r : Reading) : Except Fault Reading := do
  let r ← l.settle r
  let missing := l.positionals.filter fun p => p.required && !(r.given.map (·.1)).contains p
  if missing.isEmpty then return r
  throw (.argumentsMissing missing (l.usageWith (r.given.map (·.1) ++ missing)))

end Level

namespace Reading

variable (r : Reading)

/-- The value that was given for an argument. -/
def value? (name : String) : Option String :=
  (r.given.find? fun g => g.1.name = name).map (·.2)

/-- Whether a switch was given. -/
def has (name : String) : Bool := (r.value? name).isSome

end Reading

/-- The task of a command. -/
def Spec.task (c : Spec) (r : Reading) : Task :=
  match c.name with
  | "compile" => .compile (r.value? "file") (r.value? "out")
  | "watch" => .watch (r.value? "file") (r.value? "out") (r.value? "link") (r.has "no_stdin")
  | "share" => .share (r.value? "file")
  | "open" => .openLink ((r.value? "link").getD "") (r.value? "write")
  | _ => .libs

/-- The help that some words behind `help` ask for. -/
def helpOn : List String → Fault
  | [] => .help programHelp
  | "help" :: [] => .help helpHelp
  | "help" :: word :: _ => .unknownCommand word [] (programName ++ " help [COMMAND]...")
  | word :: rest =>
    match command? word, rest with
    | none, _ => .unknownCommand word [] programUsage
    | some c, [] => .help c.helpText
    | some c, word :: _ => .unknownCommand word [] c.usage

/-- The command line in some words. -/
def Invocation.ofWords (words : List String) : Except Fault Invocation := do
  let (front, next) ← programLevel.read programHelp words {}
  match next with
  | none =>
    let front ← programLevel.finish front
    throw (if front.given.isEmpty then .nothingGiven else .missingCommand)
  | some ("help", rest) => throw (helpOn rest)
  | some (name, rest) =>
    let c := (command? name).getD default
    let (own, _) ← c.level.read c.helpText rest {}
    -- what is still pending in front of the command is checked last
    let own ← c.level.finish own
    let front ← programLevel.finish front
    let value (name default : String) : String :=
      ((own.value? name) <|> (front.value? name)).getD default
    return {
      color := value "color" "auto"
      verbose := own.has "verbose" || front.has "verbose"
      config := value "config" "playground.toml"
      task := c.task own }

end Playground.Command
