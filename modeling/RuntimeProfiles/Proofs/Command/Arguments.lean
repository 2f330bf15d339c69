import RuntimeProfiles.Command.Invocation

/-!
# Every command can be asked for

`Command.arguments` puts a command down as arguments, with the value of an option behind an equals
sign and the words behind two hyphens, so that a value or a name may start with anything. Reading
them gives the command back (**`Command.read_arguments`**), and the program runs it
(**`Invocation.run_arguments`**). A value that does not look like an option may as well be an
argument of its own (**`Request.readPlain_spelled`**).
-/

namespace RuntimeProfiles

/-! ## The shape of single arguments -/

/-- An option with its value. -/
def optionArgument (name value : String) : String := "--" ++ name ++ "=" ++ value

theorem Shape.of_optionArgument {name : String} (hname : name.toList.all (· ≠ '=') = true)
    (value : String) : Shape.of (optionArgument name value) = .long name (some value) := by
  have htext : (optionArgument name value).toList
      = '-' :: '-' :: (name.toList ++ '=' :: value.toList) := by
    simp [optionArgument]
  have hname : ∀ c ∈ name.toList, decide (c ≠ '=') = true := List.all_eq_true.1 hname
  have htake : (name.toList ++ '=' :: value.toList).takeWhile (· ≠ '=') = name.toList := by
    rw [List.takeWhile_append_of_pos hname]
    simp
  have hdrop : (name.toList ++ '=' :: value.toList).dropWhile (· ≠ '=') = '=' :: value.toList := by
    rw [List.dropWhile_append_of_pos hname]
    simp
  obtain ⟨c, tail, hcons⟩ := List.exists_cons_of_ne_nil
    (show name.toList ++ '=' :: value.toList ≠ [] by simp)
  rw [Shape.of, htext]
  rw [hcons] at htake hdrop ⊢
  simp only [htake, hdrop, String.ofList_toList]

theorem Shape.of_separator : Shape.of "--" = .separator := by decide

namespace Usage

variable {usage : Usage} {arguments : Arguments} {rest : List String}

/-! ## Sorting out arguments -/

theorem sort_option {name : String} (hname : name.toList.all (· ≠ '=') = true)
    (hknown : usage.options.contains name = true) (hfresh : arguments.options.lookup name = none)
    (value : String) :
    usage.sort false none arguments (optionArgument name value :: rest)
      = usage.sort false none { arguments with options := (name, value) :: arguments.options }
        rest := by
  have hshape := Shape.of_optionArgument hname value
  rw [sort]
  simp only [hshape, hknown, Arguments.addOption?, hfresh]
  rfl

/-- How an option is given a value: behind an equals sign, or as an argument of its own. -/
inductive Spells (name value : String) : List String → Prop
  | joined : Spells name value [optionArgument name value]
  | apart : Spells name value ["--" ++ name, value]

/-- An option without a value waits for the next argument. -/
theorem sort_apart {name : String} (hshape : Shape.of ("--" ++ name) = .long name none)
    (hknown : usage.options.contains name = true) {sorted : Option Arguments}
    (h : usage.sort false (some name) arguments rest = sorted) :
    usage.sort false none arguments (("--" ++ name) :: rest) = sorted := by
  rw [sort]
  simp only [hshape, hknown]
  exact h

/-- Both spellings give an option its value, unless that looks like an option. -/
theorem sort_spelled {name value : String} {spelling : List String} (h : Spells name value spelling)
    (hname : name.toList.all (· ≠ '=') = true) (hshape : Shape.of ("--" ++ name) = .long name none)
    (hvalue : Shape.of value = .word) (hknown : usage.options.contains name = true)
    (hfresh : arguments.options.lookup name = none) (rest : List String) :
    usage.sort false none arguments (spelling ++ rest)
      = usage.sort false none arguments (optionArgument name value :: rest) := by
  cases h with
  | joined => rfl
  | apart =>
    rw [sort_option hname hknown hfresh]
    apply sort_apart hshape hknown
    show usage.sort false (some name) arguments (value :: rest) = _
    rw [sort]
    simp only [hvalue, Arguments.addOption?, hfresh]
    rfl

/-- A value that looks like an option is refused as an argument of its own. -/
theorem sort_apart_refused {name value : String}
    (hshape : Shape.of ("--" ++ name) = .long name none) (hvalue : Shape.of value ≠ .word)
    (hknown : usage.options.contains name = true) :
    usage.sort false none arguments (["--" ++ name, value] ++ rest) = none := by
  apply sort_apart hshape hknown
  show usage.sort false (some name) arguments (value :: rest) = _
  rw [sort]
  exact if_neg hvalue

theorem sort_switch {switch name : String} (hshape : Shape.of switch = .long name none)
    (hoption : usage.options.contains name = false) (hknown : usage.switches.contains name = true)
    (hfresh : arguments.switches.contains name = false) :
    usage.sort false none arguments (switch :: rest)
      = usage.sort false none { arguments with switches := name :: arguments.switches } rest := by
  rw [sort]
  simp only [hshape, hoption, hknown, Arguments.addSwitch?, hfresh]
  rfl

theorem sort_ended (words : List String) :
    usage.sort true none arguments words
      = some { arguments with words := arguments.words ++ words } := by
  -- once the options have ended, the shape of a word is not looked at
  induction words generalizing arguments with
  | nil => rw [sort, List.append_nil]; rfl
  | cons word words ih =>
    have hwords : (arguments.addWord word).words ++ words = arguments.words ++ word :: words := by
      simp [Arguments.addWord]
    rw [sort]
    simp only [ih, hwords]
    rfl

/-- Behind two hyphens there are words only, whatever they look like. -/
theorem sort_separator (words : List String) :
    usage.sort false none arguments ("--" :: words)
      = some { arguments with words := arguments.words ++ words } := by
  rw [sort, Shape.of_separator]
  exact sort_ended words

end Usage

/-! ## Commands as arguments -/

namespace Command

/-- The option for a format. -/
def formatArguments (format : Option String) : List String :=
  format.toList.map (optionArgument "format")

/-- Arguments that ask for a command. -/
def arguments : Command → List String
  | .init defaultProfile => ["init", optionArgument "default-profile" defaultProfile]
  | .listProfiles => ["profile", "list"]
  | .describeProfile name format =>
    "profile" :: "describe" :: formatArguments format ++ ["--", name]
  | .validateProfile name => ["profile", "validate", "--", name]
  | .newProfile name => ["profile", "new", "--", name]
  | .resolve profile build format =>
    "resolve" :: profile.toList.map (optionArgument "profile")
      ++ (if build then ["--build"] else []) ++ formatArguments format
  | .layout format => "layout" :: formatArguments format
  | .nullCheck offsets => "null-check" :: "--" :: offsets
  | .doctor => ["doctor"]

/-- The compiled-in build is not asked for together with a profile, and offsets are checked only if
there are any. -/
def IsPossible : Command → Prop
  | .resolve profile build _ => build = true → profile = none
  | .nullCheck offsets => offsets ≠ []
  | _ => True

end Command

namespace Usage

theorem sort_optional {usage : Usage} {name : String} (hname : name.toList.all (· ≠ '=') = true)
    (hknown : usage.options.contains name = true) {arguments : Arguments}
    (hfresh : arguments.options.lookup name = none) (value : Option String) (rest : List String) :
    usage.sort false none arguments (value.toList.map (optionArgument name) ++ rest)
      = usage.sort false none
        { arguments with options := value.toList.map (name, ·) ++ arguments.options } rest := by
  cases value with
  | none => rfl
  | some value => exact sort_option hname hknown hfresh value

end Usage

namespace Request

theorem readFrom_word {argument : String} (h : Shape.of argument = .word) (verbosity : Nat)
    (rest : List String) :
    readFrom verbosity (argument :: rest) = readCommand verbosity argument rest := by
  rw [readFrom, h]

theorem readFrom_verbose (verbosity count : Nat) (rest : List String) :
    readFrom verbosity (List.replicate count "--verbose" ++ rest)
      = readFrom (verbosity + count) rest := by
  have hshape : Shape.of "--verbose" = .long "verbose" none := by decide
  induction count generalizing verbosity with
  | zero => rfl
  | succ count ih =>
    have hcount : verbosity + (count + 1) = verbosity + 1 + count := by omega
    have hstep : readFrom verbosity ("--verbose" :: (List.replicate count "--verbose" ++ rest))
        = readFrom (verbosity + 1) (List.replicate count "--verbose" ++ rest) := by
      rw [readFrom, hshape]
      rfl
    rw [List.replicate_succ, List.cons_append, hstep, ih, hcount]

theorem read_word {argument : String} (h : Shape.of argument = .word) (verbosity : Nat)
    (rest : List String) :
    read (List.replicate verbosity "--verbose" ++ argument :: rest)
      = readCommand verbosity argument rest := by
  rw [read, readFrom_verbose, Nat.zero_add, readFrom_word h]

/-- A command does not care about the spelling of its first option. -/
theorem readPlain_spelled {options switches : List String} {name value : String}
    {spelling : List String} (h : Usage.Spells name value spelling)
    (hname : name.toList.all (· ≠ '=') = true) (hshape : Shape.of ("--" ++ name) = .long name none)
    (hvalue : Shape.of value = .word) (hknown : options.contains name = true) (verbosity : Nat)
    (rest : List String) (build : Arguments → Option Command) :
    readPlain verbosity options switches (spelling ++ rest) build
      = readPlain verbosity options switches (optionArgument name value :: rest) build := by
  rw [readPlain, readPlain, Usage.read, Usage.read,
    Usage.sort_spelled h hname hshape hvalue hknown rfl]

theorem readPlain_apart_refused {options switches : List String} {name value : String}
    (hshape : Shape.of ("--" ++ name) = .long name none) (hvalue : Shape.of value ≠ .word)
    (hknown : options.contains name = true) (verbosity : Nat) (rest : List String)
    (build : Arguments → Option Command) :
    readPlain verbosity options switches (["--" ++ name, value] ++ rest) build = none := by
  rw [readPlain, Usage.read, Usage.sort_apart_refused hshape hvalue hknown]
  rfl

theorem readNamed_format (verbosity : Nat) (name : String) (format : Option String)
    (build : String → Arguments → Command) :
    readNamed verbosity ["format"] (Command.formatArguments format ++ ["--", name]) build
      = some (.run verbosity (build name ⟨format.toList.map ("format", ·), [], [name], 0⟩)) := by
  rw [readNamed, Usage.read, Command.formatArguments,
    Usage.sort_optional (by decide) (by decide) (by rfl), Usage.sort_separator]
  simp [innermost, Arguments.empty]

theorem readNamed_plain (verbosity : Nat) (name : String) (build : String → Arguments → Command) :
    readNamed verbosity [] ["--", name] build
      = some (.run verbosity (build name ⟨[], [], [name], 0⟩)) := by
  rw [readNamed, Usage.read, Usage.sort_separator]
  simp [innermost, Arguments.empty]

end Request

namespace Command

/-- **Every command can be asked for** with any verbosity. -/
theorem read_arguments {command : Command} (h : command.IsPossible) (verbosity : Nat) :
    Request.read (List.replicate verbosity "--verbose" ++ command.arguments)
      = some (.run verbosity command) := by
  rw [Request.read, Request.readFrom_verbose, Nat.zero_add]
  cases command with
  | init defaultProfile =>
    rw [arguments, Request.readFrom_word (by decide), Request.readCommand, if_pos rfl,
      Request.readPlain, Usage.read, Usage.sort_option (by decide) (by decide) (by rfl)]
    simp [Usage.sort, Request.innermost, Arguments.empty]
  | listProfiles =>
    rw [arguments, Request.readFrom_word (by decide)]
    rfl
  | describeProfile name format =>
    have hnamed := Request.readNamed_format verbosity name format
      fun name sorted => .describeProfile name (sorted.options.lookup "format")
    rw [arguments, List.cons_append, Request.readFrom_word (by decide), Request.readCommand,
      if_neg (by decide), if_pos rfl, List.cons_append, Request.readProfile, if_neg (by decide),
      if_pos rfl]
    simp only [Request.innermost, if_true]
    rw [hnamed]
    cases format <;> simp
  | validateProfile name =>
    have hnamed := Request.readNamed_plain verbosity name fun name _ => .validateProfile name
    rw [arguments, Request.readFrom_word (by decide), Request.readCommand, if_neg (by decide),
      if_pos rfl, Request.readProfile, if_neg (by decide), if_neg (by decide), if_pos rfl]
    simp only [Request.innermost, if_true]
    rw [hnamed]
  | newProfile name =>
    have hnamed := Request.readNamed_plain verbosity name fun name _ => .newProfile name
    rw [arguments, Request.readFrom_word (by decide), Request.readCommand, if_neg (by decide),
      if_pos rfl, Request.readProfile, if_neg (by decide), if_neg (by decide), if_neg (by decide),
      if_pos rfl]
    simp only [Request.innermost, if_true]
    rw [hnamed]
  | resolve profile build format =>
    rw [arguments, List.cons_append, List.cons_append, Request.readFrom_word (by decide),
      Request.readCommand, if_neg (by decide), if_neg (by decide), if_pos rfl, Request.readPlain,
      Usage.read, List.append_assoc, Usage.sort_optional (by decide) (by decide) (by rfl),
      formatArguments, ← List.append_nil (format.toList.map _)]
    -- the options are sorted from left to right, so the format comes upon the profile
    have hfresh : (profile.toList.map (("profile", ·)) ++ Arguments.empty.options).lookup "format"
        = none := by
      cases profile <;> rfl
    cases build with
    | false =>
      rw [if_neg (by decide), List.nil_append, Usage.sort_optional (by decide) (by decide) hfresh]
      cases profile <;> cases format <;>
        simp [Usage.sort, Request.innermost, Arguments.empty, List.lookup_cons]
    | true =>
      have hshape : Shape.of "--build" = .long "build" none := by decide
      rw [h rfl, if_pos rfl, List.singleton_append, Usage.sort_switch hshape (by decide)
        (by decide) (by rfl), Usage.sort_optional (by decide) (by decide) (by rfl)]
      cases format <;> simp [Usage.sort, Request.innermost, Arguments.empty]
  | layout format =>
    rw [arguments, formatArguments, ← List.append_nil (format.toList.map _),
      Request.readFrom_word (by decide), Request.readCommand, if_neg (by decide),
      if_neg (by decide), if_neg (by decide), if_pos rfl, Request.readPlain, Usage.read,
      Usage.sort_optional (by decide) (by decide) (by rfl)]
    cases format <;> simp [Usage.sort, Request.innermost, Arguments.empty]
  | nullCheck offsets =>
    rw [arguments, Request.readFrom_word (by decide), Request.readCommand, if_neg (by decide),
      if_neg (by decide), if_neg (by decide), if_neg (by decide), if_pos rfl, Usage.read,
      Usage.sort_separator]
    have hlength : 1 ≤ offsets.length := List.length_pos_iff.2 h
    simp [Request.innermost, Arguments.empty, hlength]
  | doctor =>
    rw [arguments, Request.readFrom_word (by decide)]
    rfl

end Command

/-- The program runs what it is asked for. -/
theorem Invocation.run_arguments {command : Command} (h : command.IsPossible) (tree : FileTree)
    (directory : Path) (verbosity : Nat) :
    run tree directory (List.replicate verbosity "--verbose" ++ command.arguments)
      = ofOutcome verbosity (command.run tree directory) := by
  rw [run, Command.read_arguments h]
  rfl

end RuntimeProfiles
