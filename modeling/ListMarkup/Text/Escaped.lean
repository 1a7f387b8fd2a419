import ListMarkup.Text.Basic

/-!
# Escaped text

Characters that would be read as list separators or as markup are written as a
backslash and a code.

| character  | written     |
|------------|-------------|
| newline    | `\n`        |
| space      | `\_`        |
| `{` `}`    | `\{` `\}`   |
| `[` `]`    | `\(` `\)`   |
| `<` `>`    | `\l` `\g`   |
| `=`        | `\e`        |
| `\|`       | `\!`        |
| `\`        | `\\`        |

The code `0` stands for nothing at all, so that a value can be written that is
not blank and yet means the empty text.  Escaping leaves the sequences that are
already there, so escaped text stays as it is.
-/

set_option autoImplicit false

namespace ListMarkup.Text

/-- The code under which a character is written after a backslash.  The backslash
itself is not here, because it may start a sequence that is left as it is. -/
def code? : Char → Option Char
  | '\n' => some 'n'
  | ' ' => some '_'
  | '{' => some '{'
  | '}' => some '}'
  | '[' => some '('
  | ']' => some ')'
  | '<' => some 'l'
  | '>' => some 'g'
  | '=' => some 'e'
  | '|' => some '!'
  | _ => none

/-- What a backslash and a code stand for. -/
def meaning? : Char → Option Text
  | '\\' => some ['\\']
  | 'n' => some ['\n']
  | '_' => some [' ']
  | '{' => some ['{']
  | '}' => some ['}']
  | '(' => some ['[']
  | ')' => some [']']
  | 'l' => some ['<']
  | 'g' => some ['>']
  | 'e' => some ['=']
  | '!' => some ['|']
  | '0' => some []
  | _ => none

/-- Text in which every character with a code is written by it, and a backslash
that starts no sequence is doubled. -/
def escape : Text → Text
  | [] => []
  | ['\\'] => ['\\', '\\']
  | '\\' :: code :: rest =>
    if (meaning? code).isSome then '\\' :: code :: escape rest
    else '\\' :: '\\' :: escape (code :: rest)
  | c :: rest =>
    match code? c with
    | some code => '\\' :: code :: escape rest
    | none => c :: escape rest

/-- Text in which every sequence is replaced by what it stands for.  A backslash
that starts no sequence is kept. -/
def unescape : Text → Text
  | [] => []
  | ['\\'] => ['\\']
  | '\\' :: code :: rest =>
    match meaning? code with
    | some literal => literal ++ unescape rest
    | none => '\\' :: code :: unescape rest
  | c :: rest => c :: unescape rest

end ListMarkup.Text
