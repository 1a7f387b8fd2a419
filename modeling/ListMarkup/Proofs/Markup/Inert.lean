import ListMarkup.Proofs.Markup.Lossless
import ListMarkup.Proofs.Markup.Tokens

/-!
# Text without markup

A single brace between other characters opens and closes nothing.  Text in which every
brace comes after a backslash, and that holds neither brackets nor pipes, is therefore
text however it is read (`parse_of_inert`).

The backslash keeps a brace apart from what comes before it only.  Before more braces such a
text reads as text only if it does not end in one.
-/

set_option autoImplicit false

namespace ListMarkup.Markup

/-- Text in which every brace comes after a backslash, without brackets and pipes. -/
inductive Inert : Text → Prop where
  | nil : Inert []
  | plain {c : Char} {text : Text} (noDelimiter : c ∉ Token.delimiters) (notPipe : c ≠ '|')
      (rest : Inert text) : Inert (c :: text)
  | brace {c : Char} {text : Text} (isBrace : c = '\x7b' ∨ c = '\x7d') (rest : Inert text) :
      Inert ('\\' :: c :: text)

namespace Token

/-- A token that is read as text wherever it stands. -/
def Idle : Token → Prop
  | .text _ => True
  | .openBraces count => count = 1
  | .closeBraces count => count = 1
  | _ => False

theorem idle_consPlain {tokens : List Token} (idle : ∀ token ∈ tokens, token.Idle) (c : Char) :
    ∀ token ∈ consPlain c tokens, token.Idle := by
  unfold consPlain
  split
  · exact List.forall_mem_cons.mpr ⟨trivial, (List.forall_mem_cons.mp idle).2⟩
  · exact List.forall_mem_cons.mpr ⟨trivial, idle⟩

end Token

namespace Inert

/-- Inert text does not begin with a brace. -/
theorem head_ne {text : Text} (inert : Inert text) {c : Char} (delimiter : c ∈ Token.delimiters) :
    text.head? ≠ some c := by
  cases inert with
  | nil => exact fun first => nomatch first
  | plain noDelimiter _ _ =>
      rintro ⟨⟩
      exact noDelimiter delimiter
  | brace _ _ =>
      rintro ⟨⟩
      exact absurd delimiter (by decide)

/-- Inert text stays inert with text before it that means nothing. -/
theorem plainText {run text : Text} (plain : ∀ c ∈ run, c ∉ Token.delimiters ∧ c ≠ '|')
    (inert : Inert text) : Inert (run ++ text) := by
  induction run with
  | nil => exact inert
  | cons c run ih =>
      obtain ⟨⟨noDelimiter, notPipe⟩, later⟩ := List.forall_mem_cons.mp plain
      exact .plain noDelimiter notPipe (ih later)

/-- The tokens of inert text do nothing. -/
theorem idle {text : Text} (inert : Inert text) : ∀ token ∈ Token.ofText text, token.Idle := by
  induction inert with
  | nil => exact fun _ member => absurd member List.not_mem_nil
  | plain noDelimiter notPipe _ ih =>
      rw [Token.ofText_plain noDelimiter notPipe]
      exact Token.idle_consPlain ih _
  | @brace c text isBrace rest ih =>
      rw [Token.ofText_plain (by decide) (by decide)]
      refine Token.idle_consPlain ?_ _
      rcases isBrace with rfl | rfl
      · rw [Token.ofText_openBrace, Token.consOpenBrace_of_head
          ((Token.head_ofText text).1 (rest.head_ne (by decide)))]
        exact List.forall_mem_cons.mpr ⟨rfl, ih⟩
      · rw [Token.ofText_closeBrace, Token.consCloseBrace_of_head
          ((Token.head_ofText text).2 (rest.head_ne (by decide)))]
        exact List.forall_mem_cons.mpr ⟨rfl, ih⟩

end Inert

/-! ## Runs of text -/

/-- Tokens as items of text. -/
def Item.texts (tokens : List Token) : List Item :=
  tokens.map fun token => .text token.source

namespace Item

theorem source_texts (tokens : List Token) :
    source (texts tokens) = tokens.flatMap Token.source := by
  induction tokens with
  | nil => rfl
  | cons token tokens ih =>
      rw [texts, List.map_cons, source_cons, source_text, ← texts, ih, List.flatMap_cons]

/-- Text has one part. -/
theorem parts_texts (tokens : List Token) :
    parts (texts tokens) = (tokens.flatMap Token.source, []) := by
  induction tokens with
  | nil => rfl
  | cons token tokens ih =>
      rw [texts, List.map_cons, parts_cons Item.noConfusion, ← texts, ih, source_text,
        List.flatMap_cons]

/-- Text is one run before the nodes after it. -/
theorem allNodesBefore_texts (tokens : List Token) (nodes : List Node) :
    allNodesBefore (texts tokens) nodes = Node.textBefore (tokens.flatMap Token.source) nodes := by
  induction tokens with
  | nil => exact (Node.textBefore_nil nodes).symm
  | cons token tokens ih =>
      rw [texts, List.map_cons, allNodesBefore, nodesBefore, ← texts, ih,
        ← Node.textBefore_append, List.flatMap_cons]

end Item

namespace Matching

/-- Reading a token that does nothing adds it as text. -/
theorem read_of_idle {token : Token} (idle : token.Idle) (state : Matching) :
    state.read token = state.push (.text token.source) := by
  cases token with
  | text run => rfl
  | openBraces count =>
      cases idle
      rfl
  | closeBraces count =>
      cases idle
      exact closeBraces_of_lt (Nat.lt_succ_self 1) state
  | _ => exact absurd idle id

/-- Reading tokens that do nothing adds them as text. -/
theorem foldl_read_of_idle {tokens : List Token} (idle : ∀ token ∈ tokens, token.Idle) :
    ∀ state : Matching,
      tokens.foldl read state = pushAll (Item.texts tokens) state := by
  induction tokens with
  | nil => exact fun _ => rfl
  | cons token tokens ih =>
      intro state
      obtain ⟨here, later⟩ := List.forall_mem_cons.mp idle
      rw [List.foldl_cons, read_of_idle here, ih later]
      rfl

end Matching

/-- Inert text is text. -/
theorem parse_of_inert {text : Text} (inert : Inert text) :
    parse text = Node.textBefore text [] := by
  have tree : Item.ofText text = Item.texts (Token.ofText text) := by
    rw [Item.ofText, Matching.foldl_read_of_idle inert.idle, Matching.empty,
      Matching.pushAll_ground, Matching.finish, Level.spill, List.nil_append, List.append_nil,
      List.reverse_reverse]
  rw [parse_eq, tree, Item.allNodesBefore_texts, Token.flatMap_source_ofText]

end ListMarkup.Markup
