/-!
# The command line

A command line is options and words. `Request.read` turns its arguments into a request, or refuses
them; it looks at nothing but the arguments.

* An option with a value takes it after an equals sign or as the next argument, which then does not
  look like an option. Giving such an option twice is refused.
* The switch for more detail may stand anywhere and be repeated. Where it is given on several levels
  of a command, the innermost level counts. A request for help is refused like anything else that
  names no command.
* Within a command two hyphens end the options; what follows are words.
-/

namespace RuntimeProfiles

/-- What the program is asked to do. -/
inductive Command where
  | init (defaultProfile : String)
  | listProfiles
  | describeProfile (name : String) (format : Option String)
  | validateProfile (name : String)
  | newProfile (name : String)
  | resolve (profile : Option String) (build : Bool) (format : Option String)
  | layout (format : Option String)
  | nullCheck (offsets : List String)
  | doctor
deriving DecidableEq, Repr

/-- A request of the command line. -/
inductive Request where
  /-- The version of the program. -/
  | version
  /-- A command, and the number of requests for more detail. -/
  | run (verbosity : Nat) (command : Command)
deriving DecidableEq, Repr

/-- The options and words that a command takes. -/
structure Usage where
  /-- Options with a value. -/
  options : List String
  /-- Options without one. -/
  switches : List String
  /-- The least number of words. -/
  least : Nat
  /-- The greatest number of words, if there is one. -/
  greatest : Option Nat

/-- The arguments of a command, sorted out. -/
structure Arguments where
  options : List (String × String)
  switches : List String
  words : List String
  verbosity : Nat
deriving DecidableEq, Repr

namespace Arguments

def empty : Arguments := ⟨[], [], [], 0⟩

/-- Adds the value of an option that has not been given before. -/
def addOption? (arguments : Arguments) (name value : String) : Option Arguments :=
  if (arguments.options.lookup name).isSome then none
  else some { arguments with options := (name, value) :: arguments.options }

/-- Adds a switch that has not been given before. -/
def addSwitch? (arguments : Arguments) (name : String) : Option Arguments :=
  if arguments.switches.contains name then none
  else some { arguments with switches := name :: arguments.switches }

def addWord (arguments : Arguments) (word : String) : Arguments :=
  { arguments with words := arguments.words ++ [word] }

def addVerbosity (arguments : Arguments) (count : Nat) : Arguments :=
  { arguments with verbosity := arguments.verbosity + count }

end Arguments

/-- What a single argument looks like. -/
inductive Shape where
  /-- Two hyphens alone. -/
  | separator
  /-- A name after two hyphens, and the value after an equals sign. -/
  | long (name : String) (value : Option String)
  /-- Letters after one hyphen. -/
  | short (letters : List Char)
  /-- Anything else. -/
  | word
deriving DecidableEq, Repr

/-- What an argument looks like; a hyphen alone is a word. -/
def Shape.of (argument : String) : Shape :=
  match argument.toList with
  | ['-', '-'] => .separator
  | '-' :: '-' :: rest =>
    let name := rest.takeWhile (· ≠ '=')
    match rest.dropWhile (· ≠ '=') with
    | _ :: value => .long (String.ofList name) (some (String.ofList value))
    | [] => .long (String.ofList name) none
  | ['-'] => .word
  | '-' :: letters => .short letters
  | _ => .word

/-- The number of requests for more detail in an argument that holds nothing else. -/
def Shape.verbosity? : Shape → Option Nat
  | .long "verbose" none => some 1
  | .short letters => if letters.all (· = 'v') then some letters.length else none
  | _ => none

namespace Usage

/-- Sorts out the arguments of a command. `ended` says that the options have ended, and `pending` is
the option whose value comes next. -/
def sort (usage : Usage) (ended : Bool) (pending : Option String) (arguments : Arguments) :
    List String → Option Arguments
  | [] => if pending.isNone then some arguments else none
  | argument :: rest =>
    match pending with
    | some name =>
      if Shape.of argument = .word then do
        sort usage false none (← arguments.addOption? name argument) rest
      else none
    | none =>
      if ended then sort usage true none (arguments.addWord argument) rest
      else
        match Shape.of argument with
        | .separator => sort usage true none arguments rest
        | .word => sort usage false none (arguments.addWord argument) rest
        | .long name value =>
          match value with
          | some value =>
            if usage.options.contains name then do
              sort usage false none (← arguments.addOption? name value) rest
            else none
          | none =>
            if usage.options.contains name then sort usage false (some name) arguments rest
            else if usage.switches.contains name then do
              sort usage false none (← arguments.addSwitch? name) rest
            else do
              let count ← (Shape.of argument).verbosity?
              sort usage false none (arguments.addVerbosity count) rest
        | .short letters => do
          let count ← (Shape.short letters).verbosity?
          sort usage false none (arguments.addVerbosity count) rest

/-- The arguments of a command, if they fit its usage. -/
def read (usage : Usage) (arguments : List String) : Option Arguments := do
  let sorted ← usage.sort false none .empty arguments
  if usage.least ≤ sorted.words.length && usage.greatest.all (sorted.words.length ≤ ·) then
    return sorted
  else none

end Usage

namespace Request

/-- The verbosity of a command of which the outer levels ask for `outer`. -/
def innermost (outer inner : Nat) : Nat := if inner = 0 then outer else inner

/-- A command that takes no words, with the options of a usage. -/
def readPlain (verbosity : Nat) (options switches : List String) (arguments : List String)
    (build : Arguments → Option Command) : Option Request := do
  let sorted ← Usage.read ⟨options, switches, 0, some 0⟩ arguments
  return .run (innermost verbosity sorted.verbosity) (← build sorted)

/-- A command on a profile, which takes its name. -/
def readNamed (verbosity : Nat) (options : List String) (arguments : List String)
    (build : String → Arguments → Command) : Option Request := do
  let sorted ← Usage.read ⟨options, [], 1, some 1⟩ arguments
  let name ← sorted.words.head?
  return .run (innermost verbosity sorted.verbosity) (build name sorted)

/-- A command on profiles. `verbosity` is that of the outer level, `own` that of this one. -/
def readProfile (verbosity own : Nat) : List String → Option Request
  | [] => none
  | argument :: rest =>
    let level := innermost verbosity own
    if argument = "list" then readPlain level [] [] rest fun _ => some .listProfiles
    else if argument = "describe" then
      readNamed level ["format"] rest fun name sorted =>
        .describeProfile name (sorted.options.lookup "format")
    else if argument = "validate" then
      readNamed level [] rest fun name _ => .validateProfile name
    else if argument = "new" then readNamed level [] rest fun name _ => .newProfile name
    else do
      let count ← (Shape.of argument).verbosity?
      readProfile verbosity (own + count) rest

/-- A command by its name. -/
def readCommand (verbosity : Nat) (name : String) (rest : List String) : Option Request :=
  if name = "init" then
    readPlain verbosity ["default-profile"] [] rest fun sorted =>
      some (.init ((sorted.options.lookup "default-profile").getD "host-debug"))
  else if name = "profile" then readProfile verbosity 0 rest
  else if name = "resolve" then
    readPlain verbosity ["profile", "format"] ["build"] rest fun sorted =>
      let profile := sorted.options.lookup "profile"
      let build := sorted.switches.contains "build"
      if build && profile.isSome then none
      else some (.resolve profile build (sorted.options.lookup "format"))
  else if name = "layout" then
    readPlain verbosity ["format"] [] rest fun sorted =>
      some (.layout (sorted.options.lookup "format"))
  else if name = "null-check" then do
    let sorted ← Usage.read ⟨[], [], 1, none⟩ rest
    return .run (innermost verbosity sorted.verbosity) (.nullCheck sorted.words)
  else if name = "doctor" then readPlain verbosity [] [] rest fun _ => some .doctor
  else none

/-- Whether letters after a hyphen ask for the version, after requests for more detail. -/
def asksVersion (letters : List Char) : Bool := (letters.dropWhile (· = 'v')).head? = some 'V'

/-- The request that arguments make; `verbosity` is that of the arguments before them. -/
def readFrom (verbosity : Nat) : List String → Option Request
  | [] => none
  | argument :: rest =>
    match Shape.of argument with
    | .word => readCommand verbosity argument rest
    | .separator => none
    | .long "version" none => some .version
    | .short letters =>
      if asksVersion letters then some .version
      else do
        let count ← (Shape.short letters).verbosity?
        readFrom (verbosity + count) rest
    | shape => do
      let count ← shape.verbosity?
      readFrom (verbosity + count) rest

/-- The request that arguments make. -/
def read (arguments : List String) : Option Request := readFrom 0 arguments

end Request

end RuntimeProfiles
