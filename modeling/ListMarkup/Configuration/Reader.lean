import ListMarkup.Configuration.Basic
import ListMarkup.Json.Value

/-!
# Reading configurations

A configuration file is a JSON object with the fields `templates` and `max_depth`, or
a list of the two values in this order.  What is left out has its default.  Other
fields and a field given twice are refused.
-/

set_option autoImplicit false

namespace ListMarkup

open Json

/-- The values of the fields, as far as they are given. -/
structure GivenFields where
  templates : Option (List (Text × Text)) := none
  maxDepth : Option Nat := none

namespace GivenFields

/-- The configuration with defaults for what is not given. -/
def complete (fields : GivenFields) : Configuration :=
  let defaults : Configuration := {}
  { templates := fields.templates.getD defaults.templates
    maxDepth := fields.maxDepth.getD defaults.maxDepth }

/-- The name of the field with templates. -/
def templatesName : Text := "templates".toList

/-- The name of the field with the depth limit. -/
def maxDepthName : Text := "max_depth".toList

/-- Refuses an object because of a key.  The fault is placed after the end of the
object, if that is what follows the key. -/
def refuseKey {α : Type} (cause : Cause) : Reader α := do
  if (← Reader.peekAfterBlanks) = some '\x7d' then Reader.skip
  Reader.failHere cause

/-- One more field of an object. -/
def step (fields : GivenFields) (first : Bool) : Reader (Option GivenFields) := do
  match ← Reader.nextKey first with
  | none => pure none
  | some name =>
    if name = templatesName then
      if fields.templates.isSome then refuseKey (.duplicateField name)
      else
        Reader.colon
        let templates ← Reader.textMap
        pure (some { fields with templates := some templates })
    else if name = maxDepthName then
      if fields.maxDepth.isSome then refuseKey (.duplicateField name)
      else
        Reader.colon
        let maxDepth ← Reader.natural
        pure (some { fields with maxDepth := some maxDepth })
    else
      refuseKey
        (.unknownField name
          (backquoted templatesName ++ " or ".toList ++ backquoted maxDepthName))

/-- The fields of an object, of which the opening brace is taken. -/
def ofObject : Reader GivenFields := do
  let (fields, _) ←
    Reader.iterate (fun (fields, first) => do
        return (← step fields first).map fun fields => (fields, false))
      (({}, true) : GivenFields × Bool)
  Reader.objectEnd
  pure fields

/-- The fields of a list, of which the opening bracket is taken. -/
def ofList : Reader GivenFields := do
  if ← Reader.hasNextElement true then
    let templates ← Reader.textMap
    if ← Reader.hasNextElement false then
      let maxDepth ← Reader.natural
      Reader.listEnd
      pure { templates := some templates, maxDepth := some maxDepth }
    else
      Reader.listEnd
      pure { templates := some templates }
  else
    Reader.listEnd
    pure {}

end GivenFields

/-! ## Whole files -/

namespace Configuration

/-- Reads a configuration that fills a text. -/
def reader : Reader Configuration := do
  let fields ←
    match ← Reader.peekAfterBlanks with
    | none => Reader.failAtNext .endInValue
    | some '\x7b' => do
      Reader.skip
      GivenFields.ofObject
    | some '[' => do
      Reader.skip
      GivenFields.ofList
    | some _ => Reader.refuse "struct Config".toList
  Reader.textEnd
  pure fields.complete

/-- The configuration in the text of a file. -/
def ofJson (text path : Text) : Except Failure Configuration :=
  match reader.run' ⟨text, Position.start⟩ with
  | .ok configuration => .ok configuration
  | .error fault =>
    .error
      { message := "invalid configuration: ".toList ++ fault.cause.message
        path := some path
        line := some fault.position.line
        column := some fault.position.column }

/-- What a path leads to. -/
inductive FileContent where
  | missing
  /-- The path cannot be followed, so nothing is known to be there. -/
  | unreachable (reason : Text)
  /-- There is something that cannot be read as text. -/
  | unreadable (reason : Text)
  | text (content : Text)

/-- Whether a path is known to lead to something. -/
def FileContent.exists : FileContent → Bool
  | .missing | .unreachable _ => false
  | .unreadable _ | .text _ => true

/-- The configuration in a file that has to exist. -/
def load (path : Text) (file : FileContent) : Except Failure Configuration :=
  match file with
  | .missing =>
    .error { message := "configuration file not found".toList, path := some path }
  | .unreachable reason | .unreadable reason =>
    .error
      { message := "cannot read configuration: ".toList ++ reason, path := some path }
  | .text content => ofJson content path

end Configuration

end ListMarkup
