import ListMarkup.Builtin.ShortForm
import ListMarkup.Output
import ListMarkup.PairOperator

/-!
# List functions of the long form

These functions take named arguments.  They work on the values themselves, or
through a template or a pattern with fields, and present their result with an
introduction, a closing text and a default.
-/

set_option autoImplicit false

namespace ListMarkup.Builtin

/-- A signature of the named style with the parameters that all these functions
share. -/
def named (parameters : List Parameter) : Signature where
  style := .named
  parameters :=
    [listParameter, plainParameter "default",
      { separatorParameter with otherName := some "sep".toList }, resultSeparatorParameter,
      plainParameter "outconj", plainParameter "counttoken", plainParameter "intro",
      plainParameter "outro"] ++ parameters

/-- A parameter that is taken as it is. -/
def verbatimParameter (name : String) : Parameter :=
  { name := name.toList, reading := .verbatim }

/-- The parameters of an operator on values. -/
def operatorParameters : List Parameter :=
  [plainParameter "template", plainParameter "fieldsep", plainParameter "indextoken",
    plainParameter "token", plainParameter "tokensep" ",", verbatimParameter "pattern"]

/-- Works on the list of a call and presents the result, or gives the default when
the list has no values. -/
def presented (arguments : Arguments) (work : ValueList → Expansion ValueList) :
    Expansion Text := do
  let output ← Output.ofArguments arguments
  let values ← givenList arguments
  if values.isEmpty then pure output.default
  else
    let result ← work values
    pure (output.render result)

/-- The tokens in a text.  There are several only when values have fields. -/
def tokensOf (text tokenSeparator fieldSeparator : Text) : List Text :=
  if fieldSeparator.isEmpty || tokenSeparator.isEmpty then [text]
  else
    ((Text.split tokenSeparator text).map Text.trim).filter fun token => !token.isEmpty

/-- The operator of a call: its template, or else its pattern, if it has one. -/
def operator? (arguments : Arguments) : Expansion (Option Operator) := do
  let template ← arguments.get "template".toList
  if !template.isEmpty then pure (some (.calling template))
  else
    let pattern ← arguments.get "pattern".toList
    if pattern.isEmpty then pure none
    else
      let token ← arguments.get "token".toList
      let tokenSeparator ← arguments.get "tokensep".toList
      let fieldSeparator ← arguments.get "fieldsep".toList
      let indexToken ← arguments.get "indextoken".toList
      pure (some (.filling pattern indexToken (tokensOf token tokenSeparator fieldSeparator)))

/-! ## The functions -/

def listDistinctSignature : Signature :=
  named (plainParameter "uniquecs" :: operatorParameters)

/-- The list without repetitions, of the values or of their keys. -/
def listDistinct (arguments : Arguments) : Expansion Text :=
  presented arguments fun values => do
    match ← operator? arguments with
    | some operator =>
      let fieldSeparator ← arguments.get "fieldsep".toList
      values.distinctBy operator fieldSeparator
    | none =>
      let caseSensitive ← caseSensitivity arguments "uniquecs".toList
      pure (values.distinct caseSensitive)

def listFilterSignature : Signature :=
  named
    ([expandedParameter "keep", plainParameter "keepsep" ",", plainParameter "keepcs",
      expandedParameter "remove", plainParameter "removesep" ",", plainParameter "removecs"] ++
      operatorParameters)

/-- A set that a call gives under three parameters, and its attention to case.  An
empty text is no set. -/
def memberSet? (arguments : Arguments) (name separatorName caseName : Text) :
    Expansion (Option (ValueList × Bool)) := do
  let text ← arguments.get name
  if text.isEmpty then pure none
  else
    let separator ← arguments.get separatorName
    let caseSensitive ← caseSensitivity arguments caseName
    pure (some (memberSet separator text, caseSensitive))

/-- The operator that decides what a filter removes: the set to keep, or else the set
to remove, or else a template or pattern. -/
def filterOperator? (arguments : Arguments) : Expansion (Option Operator) := do
  match ← memberSet? arguments "keep".toList "keepsep".toList "keepcs".toList with
  | some (members, caseSensitive) => pure (some (keeping members caseSensitive))
  | none =>
    match ← memberSet? arguments "remove".toList "removesep".toList "removecs".toList with
    | some (members, caseSensitive) => pure (some (removing members caseSensitive))
    | none => operator? arguments

/-- The values that a filter does not remove. -/
def listFilter (arguments : Arguments) : Expansion Text :=
  presented arguments fun values => do
    match ← filterOperator? arguments with
    | some operator =>
      let fieldSeparator ← arguments.get "fieldsep".toList
      values.filterBy operator fieldSeparator
    | none => pure values

def listSortSignature : Signature :=
  named
    (operatorParameters ++
      [plainParameter "sortoptions", plainParameter "subsort", plainParameter "subsortoptions",
        plainParameter "duplicates"])

/-- The values in order, of themselves or of their keys. -/
def listSort (arguments : Arguments) : Expansion Text :=
  presented arguments fun values => do
    let repetitions := Repetitions.ofText (← arguments.get "duplicates".toList)
    let primary := SortOptions.ofText (← arguments.get "sortoptions".toList)
    let values := if repetitions.stripBefore then values.distinct true else values
    let sorted ←
      match ← operator? arguments with
      | some operator => do
        let secondary ←
          if ← arguments.flag "subsort".toList then do
            let words ← arguments.get "subsortoptions".toList
            pure (some (SortOptions.ofText words))
          else pure none
        let fieldSeparator ← arguments.get "fieldsep".toList
        values.sortBy operator fieldSeparator { primary, secondary }
      | none => pure (values.sort primary)
    pure (if repetitions.stripAfter then sorted.distinct true else sorted)

def listMapSignature : Signature :=
  named
    (operatorParameters ++
      [plainParameter "sortmode", plainParameter "sortoptions", plainParameter "duplicates"])

/-- A template or a pattern applied to every value.  Empty results of a pattern are
left out. -/
def listMap (arguments : Arguments) : Expansion Text :=
  presented arguments fun values => do
    let indexToken ← arguments.get "indextoken".toList
    let stages ← Stages.ofArguments arguments !indexToken.isEmpty
    match ← operator? arguments with
    | some operator =>
      let keepEmpty := operator matches .calling _
      let fieldSeparator ← arguments.get "fieldsep".toList
      stages.run values fun values => values.mapBy operator fieldSeparator keepEmpty
    | none => stages.run values pure

def listMergeSignature : Signature :=
  named
    [plainParameter "fieldsep", plainParameter "token1", plainParameter "token2",
      plainParameter "tokensep" ",", verbatimParameter "matchpattern",
      verbatimParameter "mergepattern", plainParameter "matchtemplate",
      plainParameter "mergetemplate", plainParameter "sortmode", plainParameter "sortoptions",
      plainParameter "duplicates"]

/-- The operator on pairs that a call gives: a template, or else a pattern, if there
is one. -/
def pairOperator? (arguments : Arguments) (templateName patternName : Text) :
    Expansion (Option PairOperator) := do
  let template ← arguments.get templateName
  if !template.isEmpty then pure (some (.calling template))
  else
    let pattern ← arguments.get patternName
    if pattern.isEmpty then pure none
    else
      let fieldSeparator ← arguments.get "fieldsep".toList
      let tokenSeparator ← arguments.get "tokensep".toList
      let firstToken ← arguments.get "token1".toList
      let secondToken ← arguments.get "token2".toList
      pure
        (some
          (.filling pattern (tokensOf firstToken tokenSeparator fieldSeparator)
            (tokensOf secondToken tokenSeparator fieldSeparator)))

/-- The values combined with each other as long as any two match.  Without an
operator to match and one to combine they are only sorted and freed of
repetitions. -/
def listMerge (arguments : Arguments) : Expansion Text :=
  presented arguments fun values => do
    let stages ← Stages.ofArguments arguments false
    let fieldSeparator ← arguments.get "fieldsep".toList
    let accepting ← pairOperator? arguments "matchtemplate".toList "matchpattern".toList
    let combining ← pairOperator? arguments "mergetemplate".toList "mergepattern".toList
    match accepting, combining with
    | some accepting, some combining =>
      stages.run values fun values => do
        let merged ← values.merge (MergeRule.ofOperators accepting combining fieldSeparator)
        pure merged.values
    | _, _ => stages.run values pure

end ListMarkup.Builtin
