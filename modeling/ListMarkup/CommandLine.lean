import ListMarkup.Configuration.Reader

/-!
# The command line

A call of the program names the markup to render, a configuration file and the form
of the output.  Arguments that begin with a hyphen are options, up to an argument of
two hyphens; each option may be given once.
-/

set_option autoImplicit false

namespace ListMarkup.CommandLine

/-- What the arguments of a call ask for. -/
structure Invocation where
  /-- The markup; without it the input is rendered. -/
  text : Option Text := none
  configuration : Option Text := none
  json : Bool := false
  verbose : Bool := false
  listFunctions : Bool := false

/-- The options. -/
inductive Flag where
  | configuration
  | json
  | verbose
  | listFunctions
  deriving DecidableEq

namespace Flag

/-- The option of a long name. -/
def ofLong? (name : Text) : Option Flag :=
  if name = "config".toList then some .configuration
  else if name = "json".toList then some .json
  else if name = "verbose".toList then some .verbose
  else if name = "list-functions".toList then some .listFunctions
  else none

/-- The option of a short name. -/
def ofShort? : Char → Option Flag
  | 'c' => some .configuration
  | 'j' => some .json
  | 'v' => some .verbose
  | _ => none

end Flag

namespace Invocation

/-- The invocation with one more option, unless it is given already. -/
def withFlag? (invocation : Invocation) : Flag → Option Invocation
  | .configuration => none
  | .json => if invocation.json then none else some { invocation with json := true }
  | .verbose => if invocation.verbose then none else some { invocation with verbose := true }
  | .listFunctions =>
    if invocation.listFunctions then none else some { invocation with listFunctions := true }

/-- The invocation with a configuration file, unless one is given already or the path
is empty. -/
def withConfiguration? (invocation : Invocation) (path : Text) : Option Invocation :=
  if path.isEmpty || invocation.configuration.isSome then none
  else some { invocation with configuration := some path }

/-- The invocation with markup, unless it is given already. -/
def withText? (invocation : Invocation) (text : Text) : Option Invocation :=
  if invocation.text.isSome then none else some { invocation with text := some text }

/-! ## Reading arguments -/

/-- An option that waits for its value, or none. -/
abbrev Pending := Bool

/-- Reads options written as single letters behind one hyphen.  The letter of an option
with a value takes the rest as the value, with or without an equals sign, or waits for
the next argument. -/
def readShort? (invocation : Invocation) : Text → Option (Invocation × Pending)
  | [] => some (invocation, false)
  | letter :: rest => do
    match ← Flag.ofShort? letter with
    | .configuration =>
      match rest with
      | [] => some (invocation, true)
      | '=' :: path => (invocation.withConfiguration? path).map (·, false)
      | path => (invocation.withConfiguration? path).map (·, false)
    | flag => (← invocation.withFlag? flag).readShort? rest

/-- Reads an option written with two hyphens, which are taken off. -/
def readLong? (invocation : Invocation) (option : Text) : Option (Invocation × Pending) :=
  match Text.cut? ['='] option with
  | some (name, value) => do
    match ← Flag.ofLong? name with
    | .configuration => (invocation.withConfiguration? value).map (·, false)
    | _ => none
  | none => do
    match ← Flag.ofLong? option with
    | .configuration => some (invocation, true)
    | flag => (invocation.withFlag? flag).map (·, false)

/-- Reads arguments none of which is an option. -/
def readTexts? (invocation : Invocation) (arguments : List Text) : Option Invocation :=
  arguments.foldlM withText? invocation

/-- Reads arguments.  A value that an option waits for must not look like an option. -/
def read? (invocation : Invocation) (pending : Pending) : List Text → Option Invocation
  | [] => if pending then none else some invocation
  | argument :: rest =>
    match argument with
    | '-' :: c :: option =>
      if pending then none
      else if c = '-' then
        if option.isEmpty then invocation.readTexts? rest
        else do
          let (invocation, pending) ← invocation.readLong? option
          invocation.read? pending rest
      else do
        let (invocation, pending) ← invocation.readShort? (c :: option)
        invocation.read? pending rest
    | text => do
      let invocation ←
        if pending then invocation.withConfiguration? text else invocation.withText? text
      invocation.read? false rest

/-- What arguments ask for, if they are in order. -/
def ofArguments? (arguments : List Text) : Option Invocation :=
  read? {} false arguments

/-- Whether the input of the program is rendered. -/
def readsInput (invocation : Invocation) : Bool :=
  invocation.text.isNone && !invocation.listFunctions

end Invocation

/-! ## What the program does -/

/-- What the program leaves: its exit status, its output and its error message. -/
structure Outcome where
  status : Nat
  output : Text := []
  error : Option Text := none

namespace Outcome

/-- The outcome of a call whose arguments are not in order. -/
def misused : Outcome := { status := 2 }

/-- The outcome of a call that fails. -/
def failed (message : Text) : Outcome :=
  { status := 1, error := some ("error: ".toList ++ message) }

end Outcome

/-- Where the configuration is looked for when no file is named, relative to the
directory for configurations. -/
def defaultConfigurationPath : Text :=
  "wikilist/config.json".toList

/-- The configuration of an invocation: that of the named file, or else of the default
file if there is one. -/
def Invocation.configure {m : Type → Type} [Monad m] (invocation : Invocation)
    (lookUp : Text → m Configuration.FileContent) (defaultPath : Option Text) :
    m (Except Failure Configuration) := do
  match invocation.configuration, defaultPath with
  | some path, _ => return Configuration.load path (← lookUp path)
  | none, none => return .ok {}
  | none, some path =>
    let file ← lookUp path
    return if file.exists then Configuration.load path file else .ok {}

/-- The output for a site.  The input is absent when it is no valid text. -/
def Invocation.respond (invocation : Invocation) (site : Site) (input : Option Text) : Outcome :=
  if invocation.listFunctions then
    { status := 0, output := site.functions.names.flatMap (· ++ ['\n']) }
  else
    match invocation.text.or input with
    | none => .failed "failed to read stdin: stream did not contain valid UTF-8".toList
    | some text =>
      let rendered := site.render text
      { status := 0
        output := (if invocation.json then rendered.jsonString else rendered) ++ ['\n'] }

/-- Runs the program on its arguments.  Files are looked up before the input is read,
and the input is read only when it is needed. -/
def run {m : Type → Type} [Monad m] (arguments : List Text)
    (lookUp : Text → m Configuration.FileContent) (defaultPath : Option Text)
    (readInput : m (Option Text)) : m Outcome := do
  match Invocation.ofArguments? arguments with
  | none => return .misused
  | some invocation =>
    match ← invocation.configure lookUp defaultPath with
    | .error failure =>
      return .failed ("failed to load configuration: ".toList ++ failure.describe)
    | .ok configuration =>
      let input ← if invocation.readsInput then readInput else pure none
      return invocation.respond (Site.ofConfiguration configuration) input

end ListMarkup.CommandLine
