set_option autoImplicit false

/-!
# Searching a text

## Main definitions

* `AslBuild.Text.occurs`, `AslBuild.Text.occursIn` — whether one text is a contiguous part of
  another.

## Main results

* `AslBuild.Text.occurs_iff` — a pattern occurs exactly in the texts it can be cut out of.
-/

namespace AslBuild.Text

/-- Whether `pattern` is a contiguous part of the given characters. -/
def occurs (pattern : List Char) : List Char → Bool
  | [] => pattern.isEmpty
  | c :: cs => pattern.isPrefixOf (c :: cs) || occurs pattern cs

/-- Whether `pattern` is a contiguous part of `text`. The empty pattern is part of every text. -/
def occursIn (pattern text : String) : Bool := occurs pattern.toList text.toList

/-- A pattern occurs exactly in the texts that have a part before it and a part after it. -/
theorem occurs_iff {pattern cs : List Char} :
    occurs pattern cs = true ↔ ∃ before after, cs = before ++ pattern ++ after := by
  induction cs with
  | nil =>
    constructor
    · intro h
      exact ⟨[], [], by simpa [occurs] using h⟩
    · rintro ⟨before, after, h⟩
      have h := List.append_eq_nil_iff.1 h.symm
      simp [occurs, (List.append_eq_nil_iff.1 h.1).2]
  | cons c cs ih =>
    simp only [occurs, Bool.or_eq_true, List.isPrefixOf_iff_prefix, ih]
    constructor
    · rintro (⟨rest, h⟩ | ⟨before, rest, h⟩)
      · exact ⟨[], rest, by simpa using h.symm⟩
      · exact ⟨c :: before, rest, by simp [h]⟩
    · rintro ⟨before, rest, h⟩
      cases before with
      | nil => exact Or.inl ⟨rest, by simpa using h.symm⟩
      | cons b before =>
        simp only [List.cons_append, List.cons.injEq] at h
        exact Or.inr ⟨before, rest, by simpa using h.2⟩

end AslBuild.Text
