import ListMarkup.Site

/-!
# Configurations

A configuration gives the templates of a site and the limit on how deeply they may
call each other.
-/

set_option autoImplicit false

namespace ListMarkup

/-- Templates by name, in the order of their names, and the depth limit. -/
structure Configuration where
  templates : List (Text × Text) := []
  maxDepth : Nat := 40

/-- The site of a configuration.  Of templates whose names come out the same the last
one counts. -/
def Site.ofConfiguration (configuration : Configuration) : Site :=
  configuration.templates.foldl (fun site (name, body) => site.withTemplate name body)
    { maxDepth := configuration.maxDepth }

/-- What went wrong around rendering, with the file and the place in it when they are
known. -/
structure Failure where
  message : Text
  path : Option Text := none
  line : Option Nat := none
  column : Option Nat := none

/-- A failure in words. -/
def Failure.describe (failure : Failure) : Text :=
  let file :=
    match failure.path with
    | some path => " in ".toList ++ path
    | none => []
  let place :=
    match failure.line, failure.column with
    | some line, some column =>
      " (at line ".toList ++ Text.ofNat line ++ ", column ".toList ++ Text.ofNat column ++ [')']
    | some line, none => " (at line ".toList ++ Text.ofNat line ++ [')']
    | none, _ => []
  failure.message ++ file ++ place

end ListMarkup
