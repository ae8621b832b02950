import IndicatorFeeds.Number.Word

namespace IndicatorFeeds.CommandLine

/-- What to do. -/
inductive Command where
  | create (name : String) (intervalDays : UInt64)
  | update (name : String) (intervalDays : Option UInt64) (updateEnabled : Option Bool)
  | delete (name : String)
  | refresh (name : String)
  | tick (name : String)
deriving Repr, DecidableEq

/-- A command and where its configuration is. -/
structure Invocation where
  configPath : Option String
  envFile : Option String
  command : Command
deriving Repr, DecidableEq

/-- Why arguments start no command. -/
inductive Refusal where
  | help
  | usage
deriving Repr, DecidableEq

/-- The arguments that one level of the command line knows. -/
structure Grammar where
  /-- Options with a value, and which values they take. -/
  options : List (String × (String → Bool)) := []
  /-- Options without a value. -/
  flags : List String := []
  /-- How many names there may be. -/
  names : Nat := 0
  subcommands : List String := []

/-- Arguments of one level that have been read. -/
structure Arguments where
  options : List (String × String) := []
  flags : List String := []
  names : List String := []

/-- How far one level has been read. -/
structure Reading where
  arguments : Arguments := {}
  /-- The last option, if its value is still to come or still to be looked at. -/
  pending : Option (String × Option String) := none
  /-- Whether all further arguments are names. -/
  namesOnly : Bool := false

/-- Keeps a value of an option. It must be one that the option takes, and the first. -/
private def keep (g : Grammar) (a : Arguments) (option value : String) :
    Except Refusal Arguments :=
  let isTaken := match g.options.lookup option with
    | some takes => takes value
    | none => false
  if isTaken && (a.options.lookup option).isNone then
    .ok { a with options := (option, value) :: a.options }
  else .error .usage

def Reading.settle (g : Grammar) (r : Reading) : Except Refusal Arguments :=
  match r.pending with
  | none => .ok r.arguments
  | some (_, none) => .error .usage
  | some (option, some value) => keep g r.arguments option value

private def continue' (r : Reading) (arguments : Arguments) : Reading :=
  { r with arguments, pending := none }

/-- Takes an argument that starts with two dashes and has a name after them. -/
private def takeLong (g : Grammar) (r : Reading) (name : String) (value : Option String) :
    Except Refusal Reading := do
  if (g.options.lookup name).isSome then
    let a ← r.settle g
    match value with
    | none => return { r with arguments := a, pending := some (name, none) }
    | some value => return continue' r (← keep g a name value)
  else if value.isSome then throw .usage
  else if name = "help" then
    let _ ← r.settle g
    throw .help
  else if g.flags.contains name then
    let a ← r.settle g
    if a.flags.contains name then throw .usage
    return continue' r { a with flags := name :: a.flags }
  else throw .usage

private def takeName (g : Grammar) (r : Reading) (name : String) : Except Refusal Reading := do
  let a ← r.settle g
  if a.names.length < g.names then return continue' r { a with names := a.names ++ [name] }
  else throw .usage

/-- Splits what stands after two dashes at the first equals sign. -/
private def splitValue (cs : List Char) : String × Option String :=
  match cs.dropWhile (· ≠ '=') with
  | [] => (String.ofList cs, none)
  | _ :: value => (String.ofList (cs.takeWhile (· ≠ '=')), some (String.ofList value))

/-- What kind of argument a text is by its dashes. -/
private inductive Shape where
  | long (name : String) (value : Option String)
  | short (letter : Char)
  | separator
  | bare

private def shape (argument : String) : Shape :=
  match argument.toList with
  | ['-', '-'] => .separator
  | '-' :: '-' :: cs => .long (splitValue cs).1 (splitValue cs).2
  | '-' :: c :: _ => .short c
  | _ => .bare

private def take (g : Grammar) (r : Reading) (argument : String) : Except Refusal Reading :=
  if r.namesOnly then takeName g r argument
  else match r.pending, shape argument with
    | _, .separator => .ok { r with namesOnly := true }
    | some (option, none), .bare => .ok { r with pending := some (option, some argument) }
    | _, .bare => takeName g r argument
    | _, .long name value => takeLong g r name value
    | _, .short 'h' => do
      let _ ← r.settle g
      throw .help
    | _, .short _ => .error .usage

/-- Whether the next argument can be a subcommand. -/
private def Reading.isOpen (r : Reading) : Bool :=
  match r.pending with
  | some (_, none) => false
  | _ => !r.namesOnly

def read (g : Grammar) (r : Reading) :
    List String → Except Refusal (Reading × Option (String × List String))
  | [] => .ok (r, none)
  | argument :: rest =>
    if r.isOpen && g.subcommands.contains argument then .ok (r, some (argument, rest))
    else do read g (← take g r argument) rest

/-- The name of each command. -/
def commandNames : List String := ["create", "update", "delete", "refresh", "tick"]

private def isPath (value : String) : Bool := !value.isEmpty

private def isWord (value : String) : Bool := (Number.word? value).isSome

private def anyText : String → Bool := fun _ => true

private def topGrammar : Grammar where
  options := [("config", isPath), ("env-file", isPath)]
  subcommands := "help" :: commandNames

private def grammarOf : String → Grammar
  | "create" => { options := [("interval-days", isWord)], names := 1 }
  | "update" =>
    { options := [("interval-days", isWord)], flags := ["enable", "disable"], names := 1 }
  | "tick" => { options := [("name", anyText)] }
  | _ => { names := 1 }

private def intervalDays? (a : Arguments) : Option UInt64 :=
  (a.options.lookup "interval-days").bind Number.word?

/-- Whether a job is to be enabled or disabled; not both. -/
private def updateEnabled (a : Arguments) : Except Refusal (Option Bool) :=
  match a.flags.contains "enable", a.flags.contains "disable" with
  | true, true => .error .usage
  | true, false => .ok (some true)
  | false, true => .ok (some false)
  | false, false => .ok none

private def commandOf (command : String) (a : Arguments) : Except Refusal Command := do
  match command, a.names with
  | "tick", _ =>
    match a.options.lookup "name" with
    | some name => return .tick name
    | none => throw .usage
  | "create", [name] => return .create name ((intervalDays? a).getD 1)
  | "update", [name] => return .update name (intervalDays? a) (← updateEnabled a)
  | "delete", [name] => return .delete name
  | "refresh", [name] => return .refresh name
  | _, _ => throw .usage

/-- Help on the whole or on one command. -/
private def helpOn : List String → Refusal
  | [] => .help
  | [command] => if topGrammar.subcommands.contains command then .help else .usage
  | _ => .usage

/-- What arguments ask for. The path of the configuration may also come from elsewhere, as
`fallback`. -/
def parse (fallback : Option String) (arguments : List String) : Except Refusal Invocation := do
  match ← read topGrammar {} arguments with
  | (_, none) => throw .usage
  | (_, some ("help", rest)) => throw (helpOn rest)
  | (top, some (command, rest)) =>
    let (r, _) ← read (grammarOf command) {} rest
    let command ← commandOf command (← r.settle (grammarOf command))
    let a ← top.settle topGrammar
    let configPath ← match a.options.lookup "config", fallback with
      | some path, _ => pure (some path)
      | none, some path => if isPath path then pure (some path) else throw .usage
      | none, none => pure none
    return ⟨configPath, a.options.lookup "env-file", command⟩

end IndicatorFeeds.CommandLine
