import ListMarkup.Proofs.Text.Trimming
import ListMarkup.Proofs.Text.UpperCase
import ListMarkup.Site

/-!
# Names of templates

Templates are kept and looked up under their names in kept form (`templateName`).  White space
around a name, underscores for spaces and the case of the first character are not meant to tell
names apart, so the names that are alike have one canonical form (`canonicalName`).

The kept form trims first and puts spaces for underscores afterwards, so an underscore at an end
of a name becomes a space that is not trimmed any more.  One at the start also keeps the first
letter from being put into upper case.  The kept form is the canonical one just for names
without such underscores (`Tidy`), and only of these the kept form is kept as it is.  Names that
are alike are kept under one name if neither has an underscore at an end, and under two names if
one of them has (`template_names_meet`).  Keeping twice leads to the canonical form always: the
first time leaves no underscores, and upper case stays upper case, also where it is several
characters.
-/

set_option autoImplicit false

namespace ListMarkup

open Text (capitalize trim)
open Unicode (isWhiteSpace upperChar_eq_cons)

/-- Text with spaces for underscores. -/
def Text.spaced (text : Text) : Text :=
  text.map fun c => if c = '_' then ' ' else c

namespace Text

theorem spaced_append (first later : Text) :
    spaced (first ++ later) = spaced first ++ spaced later :=
  List.map_append

theorem spaced_eq_self {text : Text} (none : '_' ∉ text) : spaced text = text := by
  refine (List.map_congr_left fun c member => if_neg fun same => ?_).trans (List.map_id' text)
  exact none (same ▸ member)

theorem underscore_not_mem_spaced (text : Text) : '_' ∉ spaced text := by
  intro member
  obtain ⟨c, -, same⟩ := List.mem_map.mp member
  split at same
  · exact absurd same (by decide)
  · contradiction

/-- White space holds no underscores. -/
theorem spaced_blank {text : Text} (blank : Blank text) : spaced text = text :=
  spaced_eq_self fun member => absurd (blank '_' member) (by decide)

/-- White space around a text may be trimmed before there are spaces for underscores, if it is
trimmed afterwards as well. -/
theorem trim_spaced_trim (text : Text) : trim (spaced (trim text)) = trim (spaced text) := by
  obtain ⟨before, after, blankBefore, blankAfter, whole⟩ := exists_padding text
  conv_rhs => rw [whole, spaced_append, spaced_append, spaced_blank blankBefore,
    spaced_blank blankAfter, trim_padded blankBefore blankAfter]

theorem underscore_not_mem_capitalize {text : Text} (none : '_' ∉ text) :
    '_' ∉ capitalize text := by
  cases text with
  | nil => exact none
  | cons c rest =>
      obtain ⟨first, more, upper, -, others⟩ := upperChar_eq_cons c
      rw [capitalize, upper, List.mem_append, not_or]
      refine ⟨fun member => ?_, fun member => none (List.mem_cons_of_mem c member)⟩
      rcases others '_' member with same | ⟨-, other⟩
      · exact none (same ▸ List.mem_cons_self)
      · exact other rfl

/-- Upper case stays upper case. -/
theorem capitalize_capitalize (text : Text) : capitalize (capitalize text) = capitalize text := by
  cases text with
  | nil => rfl
  | cons c rest =>
      obtain ⟨first, more, upper, same, -⟩ := upperChar_eq_cons c
      rw [capitalize, upper, List.cons_append, capitalize, same, List.singleton_append]

/-- A first character that is not white space may be put into upper case before trimming or
after. -/
theorem trim_capitalize_cons {c : Char} (stays : isWhiteSpace c = false) (rest : Text) :
    trim (capitalize (c :: rest)) = capitalize (trim (c :: rest)) := by
  -- What is put for a character that stays, stays, and only the rest is trimmed.
  have trimmed : ∀ first more, (∀ d ∈ first :: more, isWhiteSpace d = false) →
      trim (first :: more ++ rest) = first :: more ++ trimEnd rest := by
    intro first more all
    have start : trimStart (first :: more ++ rest) = first :: more ++ rest :=
      List.dropWhile_cons_of_neg (by simp [all first List.mem_cons_self])
    rw [trim, start]
    exact trimEnd_append (List.cons_ne_nil first more)
      (fun d last => all d (List.mem_of_getLast? last)) rest
  obtain ⟨first, more, upper, -, others⟩ := upperChar_eq_cons c
  have single := trimmed c [] (List.forall_mem_singleton.mpr stays)
  rw [List.singleton_append, List.singleton_append] at single
  rw [single, capitalize, capitalize, upper]
  refine trimmed first more fun d member => ?_
  rcases others d member with rfl | ⟨stays, -⟩
  · exact stays
  · exact stays

/-- Trimmed text is still trimmed with its first character in upper case. -/
theorem trim_capitalize {text : Text} (trimmed : trim text = text) :
    trim (capitalize text) = capitalize text := by
  cases text with
  | nil => rfl
  | cons c rest =>
      have stays : isWhiteSpace c = false := head?_trim (c :: rest) c (by rw [trimmed]; rfl)
      rw [trim_capitalize_cons stays, trimmed]

end Text

/-! ## Two forms of a name -/

/-- The form that names have in common when they differ in white space around them, in spaces
for underscores and in the case of the first character. -/
def canonicalName (name : Text) : Text :=
  capitalize (trim (Text.spaced name))

/-- A name that has no underscore at either end, white space around it aside. -/
structure Tidy (name : Text) : Prop where
  begins : (trim name).head? ≠ some '_'
  ends : (trim name).getLast? ≠ some '_'

instance (name : Text) : Decidable (Tidy name) :=
  decidable_of_iff ((trim name).head? ≠ some '_' ∧ (trim name).getLast? ≠ some '_')
    ⟨fun ⟨begins, ends⟩ => ⟨begins, ends⟩, fun ⟨begins, ends⟩ => ⟨begins, ends⟩⟩

theorem templateName_eq (name : Text) : templateName name = capitalize (Text.spaced (trim name)) :=
  rfl

theorem canonicalName_eq (name : Text) :
    canonicalName name = capitalize (trim (Text.spaced (trim name))) := by
  rw [canonicalName, Text.trim_spaced_trim]

theorem trim_canonicalName (name : Text) : trim (canonicalName name) = canonicalName name :=
  Text.trim_capitalize (Text.trim_trim _)

theorem underscore_not_mem_templateName (name : Text) : '_' ∉ templateName name :=
  Text.underscore_not_mem_capitalize (Text.underscore_not_mem_spaced _)

/-- A name without underscores is kept in its canonical form. -/
theorem templateName_of_not_mem {name : Text} (none : '_' ∉ name) :
    templateName name = canonicalName name := by
  have noneTrimmed : '_' ∉ trim name := fun member => none ((Text.trim_inside name).subset member)
  rw [templateName_eq, canonicalName, Text.spaced_eq_self noneTrimmed, Text.spaced_eq_self none]

/-- The canonical form of a kept name is that of the name. -/
theorem canonicalName_templateName (name : Text) :
    canonicalName (templateName name) = canonicalName name := by
  rw [canonicalName, Text.spaced_eq_self (underscore_not_mem_templateName name),
    canonicalName_eq, templateName_eq]
  have begins : ∀ c ∈ (Text.spaced (trim name)).head?, c = ' ' ∨ isWhiteSpace c = false := by
    intro c first
    rw [Text.spaced, List.head?_map] at first
    obtain ⟨d, isFirst, rfl⟩ := Option.map_eq_some_iff.mp first
    split
    · exact .inl rfl
    · exact .inr (Text.head?_trim name d isFirst)
  cases spaced : Text.spaced (trim name) with
  | nil => rfl
  | cons c rest =>
      rcases begins c (by rw [spaced]; rfl) with rfl | stays
      · rfl
      · rw [Text.trim_capitalize_cons stays, Text.capitalize_capitalize]

/-- **Keeping a kept name leads to the canonical form.** -/
theorem templateName_templateName (name : Text) :
    templateName (templateName name) = canonicalName name := by
  rw [templateName_of_not_mem (underscore_not_mem_templateName name), canonicalName_templateName]

/-- Text of a tidy name is still trimmed with spaces for underscores. -/
theorem Tidy.trim_spaced {name : Text} (tidy : Tidy name) :
    trim (Text.spaced (trim name)) = Text.spaced (trim name) := by
  have kept : ∀ c, c ≠ '_' → isWhiteSpace c = false →
      isWhiteSpace (if c = '_' then ' ' else c) = false := by
    intro c other stays
    rwa [if_neg other]
  refine Text.trim_eq_self (fun c first => ?_) (fun c last => ?_)
  · rw [Text.spaced, List.head?_map] at first
    obtain ⟨d, isFirst, rfl⟩ := Option.map_eq_some_iff.mp first
    exact kept d (fun same => tidy.begins (same ▸ isFirst)) (Text.head?_trim name d isFirst)
  · rw [Text.spaced, List.getLast?_map] at last
    obtain ⟨d, isLast, rfl⟩ := Option.map_eq_some_iff.mp last
    exact kept d (fun same => tidy.ends (same ▸ isLast)) (Text.getLast?_trim name d isLast)

/-- A kept name that is trimmed has come from a tidy one. -/
theorem Tidy.of_trim {name : Text} (trimmed : trim (templateName name) = templateName name) :
    Tidy name where
  begins first := by
    obtain ⟨rest, whole⟩ := List.head?_eq_some_iff.mp first
    have space : (templateName name).head? = some ' ' := by
      rw [templateName_eq, whole]
      rfl
    have stays := Text.head?_trim (templateName name) ' ' (by rw [trimmed]; exact space)
    exact absurd stays (by decide)
  ends last := by
    obtain ⟨before, whole⟩ := List.getLast?_eq_some_iff.mp last
    have space : (templateName name).getLast? = some ' ' := by
      rw [templateName_eq, whole, Text.spaced_append]
      cases Text.spaced before with
      | nil => rfl
      | cons c rest =>
          rw [List.cons_append, capitalize, ← List.append_assoc, List.getLast?_append]
          rfl
    have stays := Text.getLast?_trim (templateName name) ' ' (by rw [trimmed]; exact space)
    exact absurd stays (by decide)

/-- A name is kept in its canonical form just if it is tidy. -/
theorem templateName_eq_canonicalName_iff (name : Text) :
    templateName name = canonicalName name ↔ Tidy name := by
  constructor
  · intro same
    exact .of_trim (same.symm ▸ trim_canonicalName name)
  · intro tidy
    rw [canonicalName_eq, tidy.trim_spaced, templateName_eq]

/-! ## Templates under their names -/

namespace Site

variable {m : Type → Type} [Monad m] (inner : Frame → Text → m Text) (frame : Frame)
  (bindings : Bindings)

/-- A site gets the same template under two names that are kept alike. -/
theorem withTemplate_eq {name other : Text} (alike : templateName name = templateName other)
    (site : Site) (body : Text) : site.withTemplate name body = site.withTemplate other body := by
  rw [withTemplate, withTemplate, alike]

/-- Two names that are kept alike call the same template. -/
theorem invoke_eq {name other : Text} (alike : templateName name = templateName other)
    (site : Site) : site.invoke inner frame name bindings =
      site.invoke inner frame other bindings := by
  unfold invoke
  rw [alike]

/-- A template is found under the name with which it was added. -/
theorem invoke_withTemplate (site : Site) (name body : Text) :
    (site.withTemplate name body).invoke inner frame name bindings =
      if site.maxDepth ≤ frame.depth then pure depthError
      else inner ⟨some bindings, frame.depth + 1⟩ body := by
  have found : (site.withTemplate name body).templates.lookup (templateName name) = some body :=
    List.lookup_cons_self
  rw [invoke, found]
  rfl

end Site

/-- **Names of templates that are alike meet, if no underscore is at an end.**  Keeping a name
twice gives its canonical form, so a kept name is kept as it is just if the name is tidy.  A tidy
name and another with the same canonical form are kept alike just if the other is tidy too.  Then
a template added under one of them is found under the other, in every site. -/
theorem template_names_meet (name : Text) :
    (templateName (templateName name) = canonicalName name ∧
      (templateName (templateName name) = templateName name ↔ Tidy name)) ∧
    ∀ other, canonicalName name = canonicalName other → Tidy name →
      (templateName name = templateName other ↔ Tidy other) ∧
      (Tidy other → ∀ (site : Site) (body : Text),
        site.withTemplate name body = site.withTemplate other body ∧
        ∀ (m : Type → Type) [Monad m] (inner : Frame → Text → m Text) (frame : Frame)
          (bindings : Bindings),
          site.invoke inner frame name bindings = site.invoke inner frame other bindings ∧
          (site.withTemplate name body).invoke inner frame other bindings =
            if site.maxDepth ≤ frame.depth then pure depthError
            else inner ⟨some bindings, frame.depth + 1⟩ body) := by
  refine ⟨⟨templateName_templateName name, ?_⟩, fun other same tidy => ?_⟩
  · rw [templateName_templateName, eq_comm, templateName_eq_canonicalName_iff]
  · have kept : templateName name = canonicalName other :=
      ((templateName_eq_canonicalName_iff name).mpr tidy).trans same
    have meet : templateName name = templateName other ↔ Tidy other := by
      rw [kept, eq_comm, templateName_eq_canonicalName_iff]
    refine ⟨meet, fun tidyOther site body => ?_⟩
    have alike := meet.mpr tidyOther
    refine ⟨Site.withTemplate_eq alike site body, fun m _ inner frame bindings =>
      ⟨Site.invoke_eq inner frame bindings alike site, ?_⟩⟩
    rw [Site.withTemplate_eq alike, Site.invoke_withTemplate]

/-- The small ligature of f and i becomes two letters in upper case, and a template added under
a name that starts with it is found under the name with both letters. -/
theorem template_names_meet_ligature :
    let name := " \ufb01_x ".toList
    let other := "FI x".toList
    (canonicalName name = canonicalName other ∧ Tidy name ∧ Tidy other) ∧
      templateName (templateName name) = templateName name ∧
      templateName name = templateName other ∧
      ∀ (site : Site) (body : Text) (frame : Frame) (bindings : Bindings),
        (site.withTemplate name body).invoke (fun _ text => (pure text : Id Text)) frame other
          bindings =
          if site.maxDepth ≤ frame.depth then pure depthError else pure body := by
  have same : canonicalName " \ufb01_x ".toList = canonicalName "FI x".toList := by decide +kernel
  have tidy : Tidy " \ufb01_x ".toList := by decide +kernel
  have tidyOther : Tidy "FI x".toList := by decide +kernel
  obtain ⟨⟨-, kept⟩, meet⟩ := template_names_meet " \ufb01_x ".toList
  obtain ⟨alike, found⟩ := meet "FI x".toList same tidy
  exact ⟨⟨same, tidy, tidyOther⟩, kept.mpr tidy, alike.mpr tidyOther,
    fun site body frame bindings => ((found tidyOther site body).2 Id _ frame bindings).2⟩

/-- An underscore at the start becomes a space that stays, and the letter after it is not put
into upper case, so the template is not found without the underscore. -/
theorem template_names_differ_underscore :
    let name := "_a".toList
    let other := "a".toList
    templateName (templateName name) ≠ templateName name ∧
      canonicalName name = canonicalName other ∧ templateName name ≠ templateName other ∧
      (({} : Site).withTemplate name "x".toList).render "\x7b\x7ba\x7d\x7d".toList =
        "[[:Template:A]]".toList := by
  decide +kernel

end ListMarkup
