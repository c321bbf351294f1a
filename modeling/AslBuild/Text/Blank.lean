set_option autoImplicit false

/-!
# Blank characters, trimming and words

Directive scripts, compiler overrides and flag queries are all read word by word, and a word ends at
a *blank*: a character with the Unicode property `White_Space`.

## Main definitions

* `AslBuild.Text.isBlank` — the property, as a table of ranges.
* `AslBuild.Text.trim`, `AslBuild.Text.trimEnd` — a text without the blanks at its ends.
* `AslBuild.Text.pieces` — a list of characters cut at every separator.
* `AslBuild.Text.words` — the maximal runs of characters that are not blank.

## Main results

* `AslBuild.Text.isBlank_of_isWhitespace` — the ASCII class of the core library is part of the
  table.
* `AslBuild.Text.intercalate_pieces` — joining the pieces with the separator gives the text back.
* `AslBuild.Text.mem_words` — no word is empty and no word holds a blank.
-/

namespace AslBuild.Text

/-! ## The property -/

/-- Whether a character has the Unicode property `White_Space`. Zero-width characters, the
Mongolian vowel separator and the information separators do not have it. -/
def isBlank (c : Char) : Bool :=
  let n := c.toNat
  (0x09 ≤ n && n ≤ 0x0D) || n == 0x20 || n == 0x85 || n == 0xA0 || n == 0x1680 ||
    (0x2000 ≤ n && n ≤ 0x200A) || n == 0x2028 || n == 0x2029 || n == 0x202F || n == 0x205F ||
    n == 0x3000

/-- Every character that the core library calls whitespace is blank. -/
theorem isBlank_of_isWhitespace {c : Char} (h : c.isWhitespace = true) : isBlank c = true := by
  simp only [Char.isWhitespace, Bool.or_eq_true, decide_eq_true_eq] at h
  rcases h with ((rfl | rfl) | rfl) | rfl <;> decide

/-- Whether a text holds a blank anywhere. -/
def hasBlank (s : String) : Bool := s.toList.any isBlank

/-! ## Trimming -/

/-- The characters up to the last one that is not blank. -/
def trimEndChars (cs : List Char) : List Char := (cs.reverse.dropWhile isBlank).reverse

/-- The characters from the first to the last one that is not blank. -/
def trimChars (cs : List Char) : List Char := trimEndChars (cs.dropWhile isBlank)

/-- A text without the blanks at its end. -/
def trimEnd (s : String) : String := String.ofList (trimEndChars s.toList)

/-- A text without the blanks at either end. -/
def trim (s : String) : String := String.ofList (trimChars s.toList)

/-! ## Cutting at separators -/

/-- Put a character in front of the first piece. -/
def consPiece (c : Char) : List (List Char) → List (List Char)
  | [] => [[c]]
  | p :: ps => (c :: p) :: ps

/-- The parts between the characters that `sep` accepts. There is one part more than there are
separators, so two separators in a row enclose an empty part. -/
def pieces (sep : Char → Bool) : List Char → List (List Char)
  | [] => [[]]
  | c :: cs => if sep c then [] :: pieces sep cs else consPiece c (pieces sep cs)

/-- The maximal runs of characters that are not blank. -/
def wordChars (cs : List Char) : List (List Char) :=
  (pieces isBlank cs).filter fun p => !p.isEmpty

/-- The maximal runs of characters that are not blank. -/
def words (s : String) : List String := (wordChars s.toList).map String.ofList

theorem pieces_ne_nil (sep : Char → Bool) (cs : List Char) : pieces sep cs ≠ [] := by
  cases cs with
  | nil => simp [pieces]
  | cons c cs =>
    simp only [pieces]
    split
    · simp
    · cases pieces sep cs <;> simp [consPiece]

/-- No piece holds a separator. -/
theorem mem_pieces {sep : Char → Bool} {cs p : List Char} (hp : p ∈ pieces sep cs) :
    ∀ c ∈ p, sep c = false := by
  induction cs generalizing p with
  | nil => simp_all [pieces]
  | cons c cs ih =>
    simp only [pieces] at hp
    split at hp
    · rcases List.mem_cons.1 hp with rfl | hp
      · simp
      · exact ih hp
    · next h =>
      cases hq : pieces sep cs with
      | nil => exact absurd hq (pieces_ne_nil sep cs)
      | cons q qs =>
        rw [hq] at hp ih
        rcases List.mem_cons.1 hp with rfl | hp
        · intro d hd
          rcases List.mem_cons.1 hd with rfl | hd
          · simpa using h
          · exact ih List.mem_cons_self d hd
        · exact ih (List.mem_cons_of_mem _ hp)

/-- Joining the pieces with the separator gives the text back, where `sep` accepts one character. -/
theorem intercalate_pieces (s : Char) (cs : List Char) :
    [s].intercalate (pieces (· == s) cs) = cs := by
  induction cs with
  | nil => rfl
  | cons c cs ih =>
    simp only [pieces]
    cases hq : pieces (· == s) cs with
    | nil => exact absurd hq (pieces_ne_nil _ cs)
    | cons q qs =>
      rw [hq] at ih
      split
      · next h =>
        obtain rfl : c = s := by simpa using h
        rw [← ih]; simp [List.intercalate]
      · rw [← ih]
        cases qs <;> simp [consPiece, List.intercalate]

/-- No word is empty and no word holds a blank. -/
theorem mem_words {cs w : List Char} (hw : w ∈ wordChars cs) :
    w ≠ [] ∧ ∀ c ∈ w, isBlank c = false := by
  simp only [wordChars, List.mem_filter, Bool.not_eq_true', List.isEmpty_eq_false_iff] at hw
  exact ⟨hw.2, mem_pieces hw.1⟩

end AslBuild.Text
