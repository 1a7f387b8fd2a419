import ListMarkup.Proofs.Markup.Writing
import Mathlib.Data.List.Chain

/-!
# Tokens that stay apart

Cutting a text into tokens and writing tokens one after the other undo each other as long
as no two neighbours would be read as one (`Token.Separated`).  The tokens of a text stay
apart (`Token.separated_ofText`), and tokens that stay apart are the tokens of what they
are written as (`Token.ofText_flatMap_source`).

Whether braces stay apart from their neighbours does not depend on how many they are, so
tokens may be cut out of a text in the middle of the runs of braces at both ends
(`Token.Separated.between`).
-/

set_option autoImplicit false

namespace ListMarkup.Markup

namespace Token

/-! ## Reading one more token or character in front -/

/-- Whether a token opens braces. -/
def opensBraces : Token → Bool
  | .openBraces _ => true
  | _ => false

/-- Whether a token closes braces. -/
def closesBraces : Token → Bool
  | .closeBraces _ => true
  | _ => false

/-- Whether a token is text. -/
def isText : Token → Bool
  | .text _ => true
  | _ => false

/-- An opening brace before tokens that do not begin with one is a token of its own. -/
theorem consOpenBrace_of_head {tokens : List Token}
    (apart : ∀ next ∈ tokens.head?, next.opensBraces = false) :
    consOpenBrace tokens = .openBraces 1 :: tokens := by
  unfold consOpenBrace
  split
  · exact absurd (apart _ rfl) (by simp [opensBraces])
  · rfl

/-- A closing brace before tokens that do not begin with one is a token of its own. -/
theorem consCloseBrace_of_head {tokens : List Token}
    (apart : ∀ next ∈ tokens.head?, next.closesBraces = false) :
    consCloseBrace tokens = .closeBraces 1 :: tokens := by
  unfold consCloseBrace
  split
  · exact absurd (apart _ rfl) (by simp [closesBraces])
  · rfl

/-- A character before tokens that do not begin with text is a token of its own. -/
theorem consPlain_of_head (c : Char) {tokens : List Token}
    (apart : ∀ next ∈ tokens.head?, next.isText = false) :
    consPlain c tokens = .text [c] :: tokens := by
  unfold consPlain
  split
  · exact absurd (apart _ rfl) (by simp [isText])
  · rfl

theorem ofText_openBrace (rest : Text) :
    ofText ('\x7b' :: rest) = consOpenBrace (ofText rest) := by
  rw [ofText, if_pos rfl] <;> simp

theorem ofText_closeBrace (rest : Text) :
    ofText ('\x7d' :: rest) = consCloseBrace (ofText rest) := by
  rw [ofText, if_neg (by decide), if_pos rfl] <;> simp

@[simp] theorem ofText_pipe (rest : Text) : ofText ('|' :: rest) = .pipe :: ofText rest := by
  rw [ofText, if_neg (by decide), if_neg (by decide), if_pos rfl] <;> simp

@[simp] theorem ofText_linkOpening (rest : Text) :
    ofText (linkOpening ++ rest) = .openLink :: ofText rest := rfl

@[simp] theorem ofText_linkClosing (rest : Text) :
    ofText (linkClosing ++ rest) = .closeLink :: ofText rest := rfl

/-- A run of opening braces before tokens that do not begin with one is one token. -/
theorem ofText_openingBraces {count : Nat} (some : 0 < count) {rest : Text}
    (apart : ∀ next ∈ (ofText rest).head?, next.opensBraces = false) :
    ofText (openingBraces count ++ rest) = .openBraces count :: ofText rest := by
  induction count, some using Nat.le_induction with
  | base => exact (ofText_openBrace rest).trans (consOpenBrace_of_head apart)
  | succ count _ ih =>
      rw [openingBraces, List.replicate_succ, List.cons_append, ofText_openBrace, ← openingBraces,
        ih]
      rfl

/-- A run of closing braces before tokens that do not begin with one is one token. -/
theorem ofText_closingBraces {count : Nat} (some : 0 < count) {rest : Text}
    (apart : ∀ next ∈ (ofText rest).head?, next.closesBraces = false) :
    ofText (closingBraces count ++ rest) = .closeBraces count :: ofText rest := by
  induction count, some using Nat.le_induction with
  | base => exact (ofText_closeBrace rest).trans (consCloseBrace_of_head apart)
  | succ count _ ih =>
      rw [closingBraces, List.replicate_succ, List.cons_append, ofText_closeBrace,
        ← closingBraces, ih]
      rfl

/-- Neighbours that are not the two brackets of a link. -/
def Loose (first second : Char) : Prop :=
  first = second → first ≠ '[' ∧ first ≠ ']'

/-- A character that has no meaning of its own and pairs with no bracket. -/
theorem ofText_of_loose {c : Char} (notOpen : c ≠ '\x7b') (notClose : c ≠ '\x7d')
    (notPipe : c ≠ '|') {rest : Text} (loose : ∀ next ∈ rest.head?, Loose c next) :
    ofText (c :: rest) = consPlain c (ofText rest) := by
  rw [ofText, if_neg notOpen, if_neg notClose, if_neg notPipe]
  · intro later opening same
    subst opening same
    exact (loose '[' rfl rfl).1 rfl
  · intro later closing same
    subst closing same
    exact (loose ']' rfl rfl).2 rfl

/-- The characters that braces and links are made of. -/
def delimiters : Text := ['\x7b', '\x7d', '[', ']']

/-- A character without any meaning joins the text that comes after it. -/
theorem ofText_plain {c : Char} (plain : c ∉ delimiters) (notPipe : c ≠ '|') (rest : Text) :
    ofText (c :: rest) = consPlain c (ofText rest) := by
  simp only [delimiters, List.mem_cons, List.not_mem_nil, or_false, not_or] at plain
  obtain ⟨notOpen, notClose, notOpening, notClosing⟩ := plain
  exact ofText_of_loose notOpen notClose notPipe fun _ _ _ => ⟨notOpening, notClosing⟩

/-- What a text begins with, seen from its first token. -/
theorem head_ofText (text : Text) :
    (text.head? ≠ some '\x7b' → ∀ next ∈ (ofText text).head?, next.opensBraces = false) ∧
      (text.head? ≠ some '\x7d' → ∀ next ∈ (ofText text).head?, next.closesBraces = false) := by
  fun_cases ofText text with
  | case1 => simp
  | case2 rest => simp [opensBraces, closesBraces]
  | case3 rest => simp [opensBraces, closesBraces]
  | case4 rest =>
      refine ⟨fun other => absurd rfl other, fun _ => ?_⟩
      unfold consOpenBrace
      split <;> simp [closesBraces]
  | case5 rest =>
      refine ⟨fun _ => ?_, fun other => absurd rfl other⟩
      unfold consCloseBrace
      split <;> simp [opensBraces]
  | case6 rest => simp [opensBraces, closesBraces]
  | case7 c rest =>
      unfold consPlain
      split <;> simp [opensBraces, closesBraces]

/-! ## Tokens apart -/

/-- What a token must be to be read as one token when it stands alone. -/
def Whole : Token → Prop
  | .openBraces count => 0 < count
  | .closeBraces count => 0 < count
  | .openLink => True
  | .closeLink => True
  | .pipe => True
  | .text run => run ≠ [] ∧ (∀ c ∈ run, c ≠ '\x7b' ∧ c ≠ '\x7d' ∧ c ≠ '|') ∧ run.IsChain Loose

/-- Neighbours that are not read as one token. -/
def Apart : Token → Token → Prop
  | .openBraces _, next => next.opensBraces = false
  | .closeBraces _, next => next.closesBraces = false
  | .text run, next =>
      next.isText = false ∧ ∀ last ∈ run.getLast?, ∀ c ∈ next.source.head?, Loose last c
  | _, _ => True

/-- Tokens of which each is whole and no two neighbours are read as one. -/
structure Separated (tokens : List Token) : Prop where
  whole : ∀ token ∈ tokens, token.Whole
  apart : tokens.IsChain Apart

namespace Separated

theorem nil : Separated [] := ⟨fun _ member => absurd member List.not_mem_nil, .nil⟩

theorem cons {token : Token} {tokens : List Token} (whole : token.Whole)
    (apart : ∀ next ∈ tokens.head?, token.Apart next) (separated : Separated tokens) :
    Separated (token :: tokens) :=
  ⟨List.forall_mem_cons.mpr ⟨whole, separated.whole⟩, separated.apart.cons apart⟩

/-- What a separated token and those after it are on their own. -/
theorem uncons {token : Token} {tokens : List Token} (separated : Separated (token :: tokens)) :
    token.Whole ∧ (∀ next ∈ tokens.head?, token.Apart next) ∧ Separated tokens := by
  obtain ⟨whole, apart⟩ := separated
  obtain ⟨here, later⟩ := List.forall_mem_cons.mp whole
  obtain ⟨next, rest⟩ := List.isChain_cons.mp apart
  exact ⟨here, next, later, rest⟩

/-- The first of some separated tokens are separated on their own. -/
theorem left {first later : List Token} (separated : Separated (first ++ later)) :
    Separated first :=
  ⟨(List.forall_mem_append.mp separated.whole).1, (List.isChain_append.mp separated.apart).1⟩

end Separated

/-- A token that is whole is written with at least one character. -/
theorem Whole.source_ne_nil {token : Token} (whole : token.Whole) : token.source ≠ [] := by
  cases token with
  | openBraces count => simpa [source, openingBraces] using Nat.ne_of_gt whole
  | closeBraces count => simpa [source, closingBraces] using Nat.ne_of_gt whole
  | openLink => exact List.cons_ne_nil _ _
  | closeLink => exact List.cons_ne_nil _ _
  | pipe => exact List.cons_ne_nil _ _
  | text run => exact whole.1

/-- Tokens begin with the first character of the first one. -/
theorem Whole.head_flatMap_source {token : Token} (whole : token.Whole) (tokens : List Token) :
    ((token :: tokens).flatMap source).head? = token.source.head? := by
  obtain ⟨c, rest, written⟩ := List.exists_cons_of_ne_nil whole.source_ne_nil
  rw [List.flatMap_cons, written]
  rfl

theorem separated_consOpenBrace {tokens : List Token} (separated : Separated tokens) :
    Separated (consOpenBrace tokens) := by
  unfold consOpenBrace
  split
  · obtain ⟨_, apart, rest⟩ := separated.uncons
    exact .cons (Nat.succ_pos _) apart rest
  · rename_i other
    refine .cons Nat.one_pos (fun next first => ?_) separated
    obtain ⟨rest, rfl⟩ := List.head?_eq_some_iff.mp first
    cases next with
    | openBraces count => exact absurd rfl (other count rest)
    | _ => rfl

theorem separated_consCloseBrace {tokens : List Token} (separated : Separated tokens) :
    Separated (consCloseBrace tokens) := by
  unfold consCloseBrace
  split
  · obtain ⟨_, apart, rest⟩ := separated.uncons
    exact .cons (Nat.succ_pos _) apart rest
  · rename_i other
    refine .cons Nat.one_pos (fun next first => ?_) separated
    obtain ⟨rest, rfl⟩ := List.head?_eq_some_iff.mp first
    cases next with
    | closeBraces count => exact absurd rfl (other count rest)
    | _ => rfl

theorem separated_consPlain {c : Char} (plain : c ≠ '\x7b' ∧ c ≠ '\x7d' ∧ c ≠ '|')
    {tokens : List Token} (loose : ∀ next ∈ (tokens.flatMap source).head?, Loose c next)
    (separated : Separated tokens) : Separated (consPlain c tokens) := by
  unfold consPlain
  split
  · rename_i run rest
    obtain ⟨whole, apart, later⟩ := separated.uncons
    rw [whole.head_flatMap_source] at loose
    obtain ⟨notEmpty, plainRun, looseRun⟩ := whole
    refine .cons ⟨List.cons_ne_nil _ _, List.forall_mem_cons.mpr ⟨plain, plainRun⟩,
      looseRun.cons loose⟩ (fun next first => ?_) later
    obtain ⟨notText, seam⟩ := apart next first
    rw [Apart, List.getLast?_cons_of_ne_nil notEmpty]
    exact ⟨notText, seam⟩
  · rename_i other
    refine .cons ⟨List.cons_ne_nil _ _, List.forall_mem_singleton.mpr plain, .singleton c⟩
      (fun next first => ?_) separated
    obtain ⟨rest, rfl⟩ := List.head?_eq_some_iff.mp first
    rw [separated.uncons.1.head_flatMap_source] at loose
    refine ⟨?_, fun last final => by cases final; exact loose⟩
    cases next with
    | text run => exact absurd rfl (other run rest)
    | _ => rfl

/-- The tokens of a text stay apart. -/
theorem separated_ofText (text : Text) : Separated (ofText text) := by
  fun_induction ofText text with
  | case1 => exact .nil
  | case2 rest ih => exact .cons trivial (fun _ _ => trivial) ih
  | case3 rest ih => exact .cons trivial (fun _ _ => trivial) ih
  | case4 rest _ _ ih => exact separated_consOpenBrace ih
  | case5 rest _ _ _ ih => exact separated_consCloseBrace ih
  | case6 rest _ _ _ _ ih => exact .cons trivial (fun _ _ => trivial) ih
  | case7 c rest notOpening notClosing notOpen notClose notPipe ih =>
      refine separated_consPlain ⟨notOpen, notClose, notPipe⟩ ?_ ih
      rw [flatMap_source_ofText]
      -- A second bracket after the first would have been read together with it.
      intro next first same
      subst same
      obtain ⟨later, rfl⟩ := List.head?_eq_some_iff.mp first
      exact ⟨fun opening => notOpening later opening (by rw [opening]),
        fun closing => notClosing later closing (by rw [closing])⟩

/-- Text that is whole is read as one token. -/
theorem ofText_text {run rest : Text} (whole : Whole (.text run))
    (loose : ∀ last ∈ run.getLast?, ∀ c ∈ rest.head?, Loose last c)
    (apart : ∀ next ∈ (ofText rest).head?, next.isText = false) :
    ofText (run ++ rest) = .text run :: ofText rest := by
  obtain ⟨notEmpty, plain, looseRun⟩ := whole
  induction run with
  | nil => exact absurd rfl notEmpty
  | cons c run ih =>
      obtain ⟨⟨notOpen, notClose, notPipe⟩, plainRun⟩ := List.forall_mem_cons.mp plain
      cases run with
      | nil =>
          rw [List.singleton_append,
            ofText_of_loose notOpen notClose notPipe (loose c rfl), consPlain_of_head c apart]
      | cons d run =>
          obtain ⟨next, looseRest⟩ := List.isChain_cons.mp looseRun
          have inner := ih (by rwa [List.getLast?_cons_cons] at loose) (List.cons_ne_nil _ _)
            plainRun looseRest
          have seam : ∀ e ∈ (d :: run ++ rest).head?, Loose c e := next
          rw [List.cons_append, ofText_of_loose notOpen notClose notPipe seam, inner]
          rfl

/-- **Tokens that stay apart are the tokens of what they are written as.** -/
theorem ofText_flatMap_source {tokens : List Token} (separated : Separated tokens) :
    ofText (tokens.flatMap source) = tokens := by
  induction tokens with
  | nil => rfl
  | cons token tokens ih =>
      obtain ⟨whole, apart, rest⟩ := separated.uncons
      have later := ih rest
      rw [List.flatMap_cons]
      cases token with
      | openBraces count => rw [source, ofText_openingBraces whole (by rwa [later]), later]
      | closeBraces count => rw [source, ofText_closingBraces whole (by rwa [later]), later]
      | openLink => rw [source, ofText_linkOpening, later]
      | closeLink => rw [source, ofText_linkClosing, later]
      | pipe => rw [source, List.singleton_append, ofText_pipe, later]
      | text run =>
          rw [source, ofText_text whole ?_ ?_, later]
          · intro last final c first
            cases tokens with
            | nil => cases first
            | cons next tokens =>
                rw [rest.uncons.1.head_flatMap_source] at first
                exact (apart next rfl).2 last final c first
          · rw [later]
            exact fun next first => (apart next first).1

/-! ## Tokens cut out of others -/

theorem apart_text_closeBraces (run : Text) (count : Nat) :
    Apart (.text run) (.closeBraces count) := by
  refine ⟨rfl, fun last _ c first same => ?_⟩
  rw [same, List.eq_of_mem_replicate (List.mem_of_mem_head? first)]
  exact ⟨by decide, by decide⟩

/-- Closing braces after a text that does not end in one are a token of their own. -/
theorem ofText_append_closingBraces {text : Text} (ends : text.getLast? ≠ some '\x7d')
    {count : Nat} (some : 0 < count) :
    ofText (text ++ closingBraces count) = ofText text ++ [.closeBraces count] := by
  obtain ⟨whole, apart⟩ := separated_ofText text
  have separated : Separated (ofText text ++ [.closeBraces count]) := by
    refine ⟨List.forall_mem_append.mpr ⟨whole, List.forall_mem_singleton.mpr some⟩,
      List.isChain_append.mpr ⟨apart, .singleton _, fun token last close same => ?_⟩⟩
    cases same
    cases token with
    | closeBraces run =>
        obtain ⟨before, shape⟩ := List.getLast?_eq_some_iff.mp last
        have written := flatMap_source_ofText text
        have positive : 0 < run := whole (.closeBraces run) (by simp [shape])
        rw [shape, List.flatMap_append, List.flatMap_singleton, source] at written
        refine absurd ?_ ends
        rw [← written, closingBraces, ← Nat.sub_add_cancel positive, List.replicate_succ',
          ← List.append_assoc, List.getLast?_concat]
    | text run => exact apart_text_closeBraces run count
    | openBraces run => exact rfl
    | _ => exact trivial
  have back := ofText_flatMap_source separated
  rwa [List.flatMap_append, flatMap_source_ofText, List.flatMap_singleton, source] at back

/-- Tokens between two runs of braces stay apart from what is left of the runs. -/
theorem Separated.between {before later after : List Token} {opened closed : Nat}
    (separated :
      Separated (before ++ .openBraces opened :: (later ++ .closeBraces closed :: after)))
    {opening closing : Nat} (someOpening : 0 < opening) (someClosing : 0 < closing) :
    Separated (.openBraces opening :: (later ++ [.closeBraces closing])) := by
  obtain ⟨whole, apart⟩ := separated
  obtain ⟨wholeLater, _⟩ := List.forall_mem_append.mp
    (List.forall_mem_cons.mp (List.forall_mem_append.mp whole).2).2
  obtain ⟨first, chain⟩ := List.isChain_cons.mp (List.isChain_append.mp apart).2.1
  obtain ⟨chainLater, _, last⟩ := List.isChain_append.mp chain
  refine ⟨List.forall_mem_cons.mpr ⟨someOpening, List.forall_mem_append.mpr
    ⟨wholeLater, List.forall_mem_singleton.mpr someClosing⟩⟩, ?_⟩
  refine List.isChain_cons.mpr ⟨fun next head => ?_, List.isChain_append.mpr
    ⟨chainLater, .singleton _, fun token final close same => ?_⟩⟩
  · cases later with
    | nil =>
        cases head
        rfl
    | cons token later => exact first next head
  · cases same
    have apartLast := last token final _ rfl
    cases token with
    | closeBraces count => exact absurd apartLast (by simp [Apart, closesBraces])
    | text run => exact apart_text_closeBraces run closing
    | _ => trivial

end Token

end ListMarkup.Markup
