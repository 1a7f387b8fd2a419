import ListMarkup.Proofs.Markup.Tree

/-!
# Writing items and tokens

Items that follow each other are written one after the other (`Item.source_append`),
and what is enclosed stands between the two sides of its fence
(`Item.source_enclosed`).  Cutting a text into tokens keeps all of it
(`Token.flatMap_source_ofText`).
-/

set_option autoImplicit false

namespace ListMarkup.Markup

namespace Item

mutual

theorem writeBefore_append : ∀ (item : Item) (rest more : Text),
    item.writeBefore (rest ++ more) = item.writeBefore rest ++ more
  | .text run, rest, more => by simp only [writeBefore, List.append_assoc]
  | .pipe, rest, more => by simp only [writeBefore, List.cons_append]
  | .enclosed fence body, rest, more => by
      rw [writeBefore, writeBefore, ← List.append_assoc fence.closing,
        writeAllBefore_append body (fence.closing ++ rest) more, List.append_assoc]

theorem writeAllBefore_append : ∀ (items : List Item) (rest more : Text),
    writeAllBefore items (rest ++ more) = writeAllBefore items rest ++ more
  | [], _, _ => rfl
  | item :: items, rest, more => by
      rw [writeAllBefore, writeAllBefore, writeAllBefore_append items rest more,
        writeBefore_append item _ more]

end

@[simp] theorem source_nil : source [] = [] := rfl

/-- An item is written before a rest as it is written alone. -/
theorem writeBefore_eq (item : Item) (rest : Text) :
    item.writeBefore rest = source [item] ++ rest := by
  rw [source, writeAllBefore, writeAllBefore, ← writeBefore_append, List.nil_append]

/-- Items are written before a rest as they are written alone. -/
theorem writeAllBefore_eq (items : List Item) (rest : Text) :
    writeAllBefore items rest = source items ++ rest := by
  rw [source, ← writeAllBefore_append, List.nil_append]

theorem source_cons (item : Item) (items : List Item) :
    source (item :: items) = source [item] ++ source items := by
  rw [source, writeAllBefore, writeBefore_eq]
  rfl

@[simp] theorem source_append (first later : List Item) :
    source (first ++ later) = source first ++ source later := by
  induction first with
  | nil => rfl
  | cons item first ih =>
      rw [List.cons_append, source_cons, ih, source_cons item first, List.append_assoc]

@[simp] theorem source_text (run : Text) : source [.text run] = run := by
  rw [source, writeAllBefore, writeAllBefore, writeBefore, List.append_nil]

@[simp] theorem source_pipe : source [.pipe] = ['|'] := rfl

/-- What is enclosed stands between the two sides of its fence. -/
@[simp] theorem source_enclosed (fence : Fence) (body : List Item) :
    source [.enclosed fence body] = fence.opening ++ (source body ++ fence.closing) := by
  rw [source, writeAllBefore, writeAllBefore, writeBefore, writeAllBefore_eq, List.append_nil]

end Item

/-! ## Tokens -/

theorem openingBraces_add (first later : Nat) :
    openingBraces (first + later) = openingBraces first ++ openingBraces later :=
  List.replicate_append_replicate.symm

theorem closingBraces_add (first later : Nat) :
    closingBraces (first + later) = closingBraces first ++ closingBraces later :=
  List.replicate_append_replicate.symm

namespace Token

theorem flatMap_source_consOpenBrace (tokens : List Token) :
    (consOpenBrace tokens).flatMap source = '\x7b' :: tokens.flatMap source := by
  unfold consOpenBrace
  split
  · simp only [List.flatMap_cons, source, openingBraces, List.replicate_succ, List.cons_append]
  · rfl

theorem flatMap_source_consCloseBrace (tokens : List Token) :
    (consCloseBrace tokens).flatMap source = '\x7d' :: tokens.flatMap source := by
  unfold consCloseBrace
  split
  · simp only [List.flatMap_cons, source, closingBraces, List.replicate_succ, List.cons_append]
  · rfl

theorem flatMap_source_consPlain (c : Char) (tokens : List Token) :
    (consPlain c tokens).flatMap source = c :: tokens.flatMap source := by
  unfold consPlain
  split
  · simp only [List.flatMap_cons, source, List.cons_append]
  · rfl

/-- The tokens of a text, written one after the other, are the text. -/
theorem flatMap_source_ofText (text : Text) : (ofText text).flatMap source = text := by
  fun_induction ofText text with
  | case1 => rfl
  | case2 rest ih => rw [List.flatMap_cons, ih]; rfl
  | case3 rest ih => rw [List.flatMap_cons, ih]; rfl
  | case4 rest _ _ ih => rw [flatMap_source_consOpenBrace, ih]
  | case5 rest _ _ _ ih => rw [flatMap_source_consCloseBrace, ih]
  | case6 rest _ _ _ _ ih => rw [List.flatMap_cons, ih]; rfl
  | case7 c rest _ _ _ _ _ ih => rw [flatMap_source_consPlain, ih]

end Token

end ListMarkup.Markup
