import ListMarkup.Expansion
import ListMarkup.Text.Case
import ListMarkup.Text.Integer
import ListMarkup.Text.Separator
import ListMarkup.ValueList.Basic

/-!
# Parameters and arguments

A function declares its parameters, and the texts given in a call are arranged
against them.  In positional style the place of an argument decides.  In named style
an argument that begins with a declared name and an equals sign belongs to that
parameter, whatever its place; the first other argument belongs to the first
parameter.

An argument is expanded only when the function asks for it.
-/

set_option autoImplicit false

namespace ListMarkup

/-- How the text of an argument is read.  It is trimmed in any case. -/
structure Reading where
  /-- The text is expanded before it is trimmed. -/
  expand : Bool := true
  /-- The escapes in the text are undone after it is trimmed. -/
  unescape : Bool := true
  deriving DecidableEq

namespace Reading

/-- The text is not expanded, and its escapes stay. -/
def verbatim : Reading := { expand := false, unescape := false }

/-- The text is expanded, and its escapes stay. -/
def expanded : Reading := { unescape := false }

/-- The text is expanded, and its escapes are undone. -/
def unescaped : Reading := {}

end Reading

/-- A declared parameter, with the way in which its argument is read. -/
structure Parameter extends reading : Reading where
  name : Text
  /-- Another name under which a named argument is accepted. -/
  otherName : Option Text := none
  /-- The value when no argument is given. -/
  default : Text := []

/-- How the arguments of a call find their parameters. -/
inductive Style where
  | positional
  | named
  deriving DecidableEq

/-- The parameters of a function. -/
structure Signature where
  style : Style
  parameters : List Parameter

/-- Texts given for parameters, under the names of the parameters.  The first entry
of a name counts. -/
abbrev Given := List (Text × Text)

/-- The texts given in a call, arranged against a signature. -/
structure Arguments where
  signature : Signature
  given : Given

namespace Signature

/-- The parameter of a name. -/
def find? (signature : Signature) (name : Text) : Option Parameter :=
  signature.parameters.find? fun parameter => parameter.name == name

/-- The parameter that a named argument means, by its name or its other name. -/
def findNamed? (signature : Signature) (name : Text) : Option Parameter :=
  signature.parameters.find? fun parameter =>
    parameter.name == name || parameter.otherName == some name

/-- The parameter and the text of a named argument. -/
def splitNamed? (signature : Signature) (argument : Text) : Option (Parameter × Text) := do
  let (name, text) ← Text.cut? ['='] argument
  let parameter ← signature.findNamed? name.trim
  pure (parameter, text)

/-! ## Arranging and reading arguments -/

/-- The text for a parameter, unless one is given already. -/
def giveIfAbsent (given : Given) (parameter : Parameter) (text : Text) : Given :=
  if (given.lookup parameter.name).isSome then given else (parameter.name, text) :: given

/-- The texts given by place. -/
def arrangePositional (signature : Signature) (arguments : List Text) : Given :=
  (signature.parameters.zip arguments).foldl
    (fun given (parameter, text) => giveIfAbsent given parameter text) []

/-- The texts given by name, and by the first argument without a name. -/
def arrangeNamed (signature : Signature) : (unnamedSeen : Bool) → Given → List Text → Given
  | _, given, [] => given
  | unnamedSeen, given, argument :: rest =>
    match signature.splitNamed? argument with
    | some (parameter, text) =>
      signature.arrangeNamed unnamedSeen ((parameter.name, text) :: given) rest
    | none =>
      let given :=
        match unnamedSeen, signature.parameters with
        | false, parameter :: _ => giveIfAbsent given parameter argument
        | _, _ => given
      signature.arrangeNamed true given rest

/-- The arguments of a call. -/
def arrange (signature : Signature) (arguments : List Text) : Arguments where
  signature := signature
  given :=
    match signature.style with
    | .positional => signature.arrangePositional arguments
    | .named => signature.arrangeNamed false [] arguments

end Signature

/-- The text of an argument, read in a given way. -/
def Reading.read (reading : Reading) (text : Text) : Expansion Text := do
  let expansion ← if reading.expand then Expansion.expand text else pure text
  let trimmed := expansion.trim
  pure (if reading.unescape then trimmed.unescape else trimmed)

namespace Arguments

/-- The value of a parameter: its argument read as declared, or the default when
there is none.  A name that is not declared has the empty value. -/
def get (arguments : Arguments) (name : Text) : Expansion Text :=
  match arguments.signature.find? name with
  | none => pure []
  | some parameter =>
    match arguments.given.lookup parameter.name with
    | none => pure parameter.default
    | some text => parameter.reading.read text

/-- The value of a parameter as an integer, if it is one. -/
def integer? (arguments : Arguments) (name : Text) : Expansion (Option Int) := do
  let text ← arguments.get name
  pure (Text.integer? text.trim)

/-- Whether an argument is given for a parameter, be it empty. -/
def isGiven (arguments : Arguments) (name : Text) : Bool :=
  match arguments.signature.find? name with
  | none => false
  | some parameter => (arguments.given.lookup parameter.name).isSome

/-- The words that answer no. -/
def refusals : List Text :=
  ["".toList, "no".toList, "false".toList, "off".toList, "0".toList]

/-- Whether a parameter answers yes, which everything does but a refusal. -/
def flag (arguments : Arguments) (name : Text) : Expansion Bool := do
  let text ← arguments.get name
  pure (!refusals.contains text.lower)

/-- The list that one parameter holds, written with the separator that another one
holds.  The separator is not looked at when the list is empty. -/
def list (arguments : Arguments) (name separatorName : Text) : Expansion ValueList := do
  let text ← arguments.get name
  if text.isEmpty then pure []
  else
    let separator ← arguments.get separatorName
    pure (ValueList.ofText separator text)

end Arguments

end ListMarkup
