import ListMarkup.Builtin.LongForm

/-!
# Tables of functions

A function is found by its name.  A new function takes the place of the one that is
registered under exactly its name; looking a function up ignores the case of ASCII
letters and white space around the name, and finds the function registered first.
-/

set_option autoImplicit false

namespace ListMarkup

/-- A function that markup can call. -/
structure ParserFunction where
  name : Text
  signature : Signature
  body : Arguments → Expansion Text

/-- Calls a function with the texts of its arguments. -/
def ParserFunction.call (function : ParserFunction) (arguments : List Text) : Expansion Text :=
  function.body (function.signature.arrange arguments)

/-- Functions in the order of their registration. -/
abbrev FunctionTable := List ParserFunction

namespace FunctionTable

/-- The table after a function is registered. -/
def register (table : FunctionTable) (function : ParserFunction) : FunctionTable :=
  (table.filter fun other => other.name != function.name) ++ [function]

/-- The function that a name means. -/
def find? (table : FunctionTable) (name : Text) : Option ParserFunction :=
  List.find? (fun function => function.name.equalsIgnoringAsciiCase name.trim) table

/-- The names in the table, in order. -/
def names (table : FunctionTable) : List Text :=
  table.map ParserFunction.name

/-- Calls a function by name, if there is one. -/
def call? (table : FunctionTable) (name : Text) (arguments : List Text) :
    Option (Expansion Text) :=
  (table.find? name).map fun function => function.call arguments

open Builtin in
/-- The functions that are always there. -/
def builtin : FunctionTable :=
  [⟨"if".toList, conditionalSignature, conditional⟩,
   ⟨"ifeq".toList, comparisonSignature, comparison⟩,
   ⟨"uc".toList, oneTextSignature, transformed Text.upper⟩,
   ⟨"lc".toList, oneTextSignature, transformed Text.lower⟩,
   ⟨"esc".toList, oneTextSignature, transformed Text.escape⟩,
   ⟨"uesc".toList, oneTextSignature, transformed Text.unescape⟩,
   ⟨"lstcnt".toList, countSignature, countValues⟩,
   ⟨"lstsep".toList, separateSignature, separate⟩,
   ⟨"lstelem".toList, elementSignature, element⟩,
   ⟨"lstsub".toList, sublistSignature, sublist⟩,
   ⟨"lstfnd".toList, findSignature, findValue⟩,
   ⟨"lstind".toList, positionSignature, position⟩,
   ⟨"lstapp".toList, appendSignature, added ValueList.append⟩,
   ⟨"lstprep".toList, prependSignature, added ValueList.prepend⟩,
   ⟨"lstjoin".toList, concatenateSignature, concatenate⟩,
   ⟨"lstcntuniq".toList, countDistinctSignature, countDistinct⟩,
   ⟨"lstuniq".toList, distinctSignature, distinct⟩,
   ⟨"listunique".toList, listDistinctSignature, listDistinct⟩,
   ⟨"lstfltr".toList, keepSignature, keep⟩,
   ⟨"lstrm".toList, removeSignature, remove⟩,
   ⟨"listfilter".toList, listFilterSignature, listFilter⟩,
   ⟨"lstsrt".toList, sortSignature, sort⟩,
   ⟨"listsort".toList, listSortSignature, listSort⟩,
   ⟨"lstmap".toList, mapPatternSignature, mapPattern⟩,
   ⟨"lstmaptemp".toList, mapTemplateSignature, mapTemplate⟩,
   ⟨"listmap".toList, listMapSignature, listMap⟩,
   ⟨"listmerge".toList, listMergeSignature, listMerge⟩]

end FunctionTable

end ListMarkup
