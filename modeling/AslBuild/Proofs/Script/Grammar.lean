import AslBuild.Act
import AslBuild.Proofs.Script.RoundTrip
import Mathlib.Data.List.Forall2
import Mathlib.Data.List.ReduceOption
set_option autoImplicit false

/-!
# The grammar of scripts

Which texts are scripts is said here by rules for single lines: what may stand on a line, where the
blanks are, and what the line says. A text is a script if each of its lines is right, and it is read
as what its lines say. Otherwise the first line that is wrong is named, and what is wrong with it.
So scripts can be put below each other, and only the numbers of the lines below change.

## Main definitions

* `AslBuild.Text.Spaced` — a text that consists of some words, with blanks around them.
* `AslBuild.Script.Says` — what a line says: nothing, or a stage.
* `AslBuild.Script.Refused` — what is wrong with a line.
* `AslBuild.Failure.below` — a failure with the number of its line counted from further up.

## Main results

* `AslBuild.Text.wordChars_eq_iff` — the words of a text are those that it consists of.
* `AslBuild.Script.readLine_eq_ok_iff`, `AslBuild.Script.readLine_eq_error_iff` — a line is read by
  the rules.
* `AslBuild.Script.parse_grammar` — a text is read by the rules for its lines.
-/

namespace AslBuild

namespace Text

/-! ## Words with blanks around them -/

/-- A text that consists of blanks. -/
def AllBlank (cs : List Char) : Prop := ∀ c ∈ cs, isBlank c = true

/-- A text that consists of some words, in their order. Every word but the last has a blank behind
it, and there may be blanks everywhere around the words. -/
inductive Spaced : List (List Char) → List Char → Prop
  /-- There is no word among blanks. -/
  | nil {blanks : List Char} (h : AllBlank blanks) : Spaced [] blanks
  /-- A word stands behind blanks, and what follows it starts with a blank if there is more. -/
  | cons {gap w rest : List Char} {ws : List (List Char)} (hgap : AllBlank gap) (h0 : w ≠ [])
    (hw : ∀ c ∈ w, isBlank c = false) (hend : ∀ c ∈ rest.head?, isBlank c = true)
    (h : Spaced ws rest) : Spaced (w :: ws) (gap ++ w ++ rest)

/-- Blanks in front of a text do not count for its words. -/
lemma wordChars_blanks_append {gap : List Char} (hgap : AllBlank gap) (cs : List Char) :
    wordChars (gap ++ cs) = wordChars cs := by
  induction gap with
  | nil => rfl
  | cons b gap ih =>
    rw [AllBlank, List.forall_mem_cons] at hgap
    calc wordChars (b :: gap ++ cs)
        = wordChars [] ++ wordChars (gap ++ cs) := wordChars_append_blank hgap.1 [] _
      _ = wordChars (gap ++ cs) := rfl
      _ = wordChars cs := ih hgap.2

/-- The words that a text consists of are read from it.

**Proof sketch.** Induction on the words. The blank behind a word cuts it off. -/
lemma Spaced.wordChars_eq {ws : List (List Char)} {cs : List Char} (h : Spaced ws cs) :
    wordChars cs = ws := by
  induction h with
  | nil h => exact wordChars_append_blanks [] h
  | @cons gap w rest ws hgap h0 hw hend _ ih =>
    rw [List.append_assoc, wordChars_blanks_append hgap]
    cases rest with
    | nil =>
      rw [List.append_nil, wordChars_of_word h0 hw, ← ih]
      rfl
    | cons b rest =>
      have hb : isBlank b = true := hend b rfl
      have hblank : AllBlank [b] := List.forall_mem_singleton.2 hb
      have hrest : wordChars (b :: rest) = wordChars rest := wordChars_blanks_append hblank rest
      rw [wordChars_append_blank hb, wordChars_of_word h0 hw, ← ih, hrest]
      rfl

/-- A blank in front of a text belongs to what stands around its words. -/
lemma Spaced.blank_cons {ws : List (List Char)} {cs : List Char} (h : Spaced ws cs) {b : Char}
    (hb : isBlank b = true) : Spaced ws (b :: cs) := by
  cases h with
  | nil h => exact .nil (List.forall_mem_cons.2 ⟨hb, h⟩)
  | @cons gap w rest ws hgap h0 hw hend h =>
    have hgap' : AllBlank (b :: gap) := List.forall_mem_cons.2 ⟨hb, hgap⟩
    have hspaced := Spaced.cons hgap' h0 hw hend h
    exact hspaced

/-- Every text consists of words.

**Proof sketch.** Induction on the text. A character that is not blank is a word of its own if a
blank or nothing follows it, and otherwise it belongs to the first word of what follows. -/
lemma exists_spaced (cs : List Char) : ∃ ws, Spaced ws cs := by
  induction cs with
  | nil => exact ⟨[], .nil (by simp [AllBlank])⟩
  | cons c cs ih =>
    obtain ⟨ws, h⟩ := ih
    cases hc : isBlank c with
    | true => exact ⟨ws, h.blank_cons hc⟩
    | false =>
      have hword : ∀ d ∈ [c], isBlank d = false := List.forall_mem_singleton.2 hc
      have hgap : AllBlank [] := by simp [AllBlank]
      by_cases hend : ∀ d ∈ cs.head?, isBlank d = true
      · have hspaced := Spaced.cons hgap (List.cons_ne_nil c []) hword hend h
        exact ⟨[c] :: ws, hspaced⟩
      · -- what follows starts with a word
        cases h with
        | nil h => exact absurd (fun d hd => h d (List.mem_of_mem_head? hd)) hend
        | @cons gap w rest ws hgap' h0 hw hend' h =>
          cases gap with
          | cons b gap => simp [hgap' b List.mem_cons_self] at hend
          | nil =>
            have hword' : ∀ d ∈ c :: w, isBlank d = false := List.forall_mem_cons.2 ⟨hc, hw⟩
            have hspaced := Spaced.cons hgap (List.cons_ne_nil c w) hword' hend' h
            exact ⟨(c :: w) :: ws, hspaced⟩

/-- **The words of a text** are those that it consists of. -/
theorem wordChars_eq_iff {ws : List (List Char)} {cs : List Char} :
    wordChars cs = ws ↔ Spaced ws cs := by
  refine ⟨?_, Spaced.wordChars_eq⟩
  rintro rfl
  obtain ⟨ws, h⟩ := exists_spaced cs
  rwa [h.wordChars_eq]

/-! ## Pieces -/

/-- A text has one piece more than it has separators. -/
lemma length_pieces (sep : Char → Bool) (cs : List Char) :
    (pieces sep cs).length = cs.countP sep + 1 := by
  induction cs with
  | nil => rfl
  | cons c cs ih =>
    rw [pieces, List.countP_cons]
    split
    · rw [List.length_cons, ih]
    · rw [Nat.add_zero, ← ih]
      obtain ⟨piece, rest, hcs⟩ := List.exists_cons_of_ne_nil (pieces_ne_nil sep cs)
      rw [hcs]
      rfl

/-! ## Trimming -/

/-- Blanks in front of a text are trimmed away. -/
lemma trimChars_blanks_append {gap : List Char} (hgap : AllBlank gap) (cs : List Char) :
    trimChars (gap ++ cs) = trimChars cs := by
  rw [trimChars, trimChars, List.dropWhile_append_of_pos hgap]

/-- Nothing is left of blanks. -/
lemma trimChars_eq_nil_iff {cs : List Char} : trimChars cs = [] ↔ AllBlank cs := by
  constructor
  · intro h c hc
    by_contra hblank
    have hc' : c ∈ cs.dropWhile isBlank := by
      rw [← List.takeWhile_append_dropWhile (p := isBlank) (l := cs)] at hc
      refine (List.mem_append.1 hc).resolve_left fun hfront => hblank ?_
      exact List.all_eq_true.1 List.all_takeWhile c hfront
    obtain ⟨blanks, hcs, hblanks⟩ := exists_trimEndChars_append (cs.dropWhile isBlank)
    rw [show trimEndChars (cs.dropWhile isBlank) = [] from h, List.nil_append] at hcs
    exact hblank (hblanks c (hcs ▸ hc'))
  · intro h
    have := trimChars_blanks_append h []
    rwa [List.append_nil] at this

/-- What trimming takes away are blanks on both sides. -/
lemma exists_trimChars (cs : List Char) :
    ∃ gap tail, cs = gap ++ (trimChars cs ++ tail) ∧ AllBlank gap ∧ AllBlank tail := by
  obtain ⟨tail, hcs, htail⟩ := exists_trimEndChars_append (cs.dropWhile isBlank)
  refine ⟨cs.takeWhile isBlank, tail, ?_, List.all_eq_true.1 List.all_takeWhile, htail⟩
  rw [trimChars, ← hcs, List.takeWhile_append_dropWhile]

/-- A text that neither starts nor ends with a blank. -/
def IsTrimmed (cs : List Char) : Prop :=
  (∀ c ∈ cs.head?, isBlank c = false) ∧ ∀ c ∈ cs.getLast?, isBlank c = false

/-- A text that does not start with a blank has none to drop in front. -/
lemma dropWhile_isBlank_eq_self {cs : List Char} (h : ∀ c ∈ cs.head?, isBlank c = false) :
    cs.dropWhile isBlank = cs := by
  cases cs with
  | nil => rfl
  | cons c cs => rw [List.dropWhile_cons_of_neg (by simp [h c rfl])]

/-- Once the blanks in front of a text are dropped, it does not start with one. -/
lemma isBlank_of_dropWhile_eq_cons {cs rest : List Char} {c : Char}
    (h : cs.dropWhile isBlank = c :: rest) : isBlank c = false := by
  have := List.head?_dropWhile_not isBlank cs
  rwa [h] at this

/-- Blanks behind a trimmed text are trimmed away, and nothing else. -/
lemma IsTrimmed.trimChars_append {cs tail : List Char} (h : IsTrimmed cs) (h0 : cs ≠ [])
    (htail : AllBlank tail) : trimChars (cs ++ tail) = cs := by
  have hfront : ∀ c ∈ (cs ++ tail).head?, isBlank c = false := by
    rw [List.head?_append_of_ne_nil cs h0]
    exact h.1
  have hback : ∀ c ∈ cs.reverse.head?, isBlank c = false := by
    rw [List.head?_reverse]
    exact h.2
  have hblanks : ∀ c ∈ tail.reverse, isBlank c = true := fun c hc => htail c (List.mem_reverse.1 hc)
  rw [trimChars, dropWhile_isBlank_eq_self hfront, trimEndChars, List.reverse_append,
    List.dropWhile_append_of_pos hblanks, dropWhile_isBlank_eq_self hback, List.reverse_reverse]

/-- What is left by trimming is trimmed. -/
lemma isTrimmed_trimChars (cs : List Char) : IsTrimmed (trimChars cs) := by
  refine ⟨fun c hc => ?_, fun c hc => ?_⟩
  · obtain ⟨rest, hrest⟩ := List.head?_eq_some_iff.1 hc
    obtain ⟨blanks, hcs, -⟩ := exists_trimEndChars_append (cs.dropWhile isBlank)
    rw [show trimEndChars (cs.dropWhile isBlank) = c :: rest from hrest] at hcs
    exact isBlank_of_dropWhile_eq_cons hcs
  · obtain ⟨front, hfront⟩ := List.getLast?_eq_some_iff.1 hc
    have hlast : (cs.dropWhile isBlank).reverse.dropWhile isBlank = c :: front.reverse := by
      refine List.reverse_injective ?_
      rw [List.reverse_cons, List.reverse_reverse]
      exact hfront
    exact isBlank_of_dropWhile_eq_cons hlast

end Text

/-- A failure with the number of its line counted from so many lines further up. -/
def Failure.below (n : Nat) : Failure → Failure
  | .malformed line flaw => .malformed (line + n) flaw
  | e => e

namespace Script

/-! ## Single lines -/

/-- What a line says: nothing, or a stage. Blanks in front do not count. -/
inductive Says : List Char → Option Stage → Prop
  /-- A blank line says nothing. -/
  | blank {line : List Char} (h : Text.AllBlank line) : Says line none
  /-- A comment says nothing. -/
  | comment {gap rest : List Char} (hgap : Text.AllBlank gap) :
    Says (gap ++ '/' :: '/' :: rest) none
  /-- A mark, the name of a directive and further words say the stage that has these words as its
  arguments. -/
  | directive {gap rest : List Char} {d : Directive} {arguments : List (List Char)}
    (hgap : Text.AllBlank gap) (h : Text.Spaced (d.name.toList :: arguments) rest) :
    Says (gap ++ ':' :: rest) (some ⟨d, arguments.map String.ofList⟩)

/-- What is wrong with a line. -/
inductive Refused : List Char → ScriptFlaw → Prop
  /-- It starts neither with a mark nor as a comment. What stands on it is told without the blanks
  around it. -/
  | notDirective {gap body tail : List Char} (hgap : Text.AllBlank gap)
    (htail : Text.AllBlank tail) (h0 : body ≠ []) (hbody : Text.IsTrimmed body)
    (hmark : ¬ [':'] <+: body) (hcomment : ¬ ['/', '/'] <+: body) :
    Refused (gap ++ body ++ tail) (.notDirective (String.ofList body))
  /-- There is nothing but blanks behind its mark. -/
  | missingName {gap rest : List Char} (hgap : Text.AllBlank gap) (hrest : Text.AllBlank rest) :
    Refused (gap ++ ':' :: rest) .missingName
  /-- The first word behind its mark is not the name of a directive. -/
  | unknownName {gap rest w : List Char} {ws : List (List Char)} (hgap : Text.AllBlank gap)
    (h : Text.Spaced (w :: ws) rest) (hname : ∀ d : Directive, d.name.toList ≠ w) :
    Refused (gap ++ ':' :: rest) (.unknownName (String.ofList w))

/-- Blanks in front of a line do not count. -/
lemma readLine_blanks_append {gap : List Char} (hgap : Text.AllBlank gap) (line : List Char) :
    readLine (gap ++ line) = readLine line := by
  unfold readLine
  rw [Text.trimChars_blanks_append hgap]

/-- Nothing is read behind a mark without words. -/
lemma readLine_mark_nil {cs : List Char} (h : Text.wordChars cs = []) :
    readLine (':' :: cs) = .error .missingName := by
  unfold readLine
  rw [Text.trimChars_cons (by decide)]
  simp only [Text.wordChars_trimEndChars, h, List.map_nil]

/-- No stage is read behind a mark if the first word is not the name of a directive. -/
lemma readLine_mark_unknown {cs w : List Char} {ws : List (List Char)}
    (h : Text.wordChars cs = w :: ws) (hname : ∀ d : Directive, d.name.toList ≠ w) :
    readLine (':' :: cs) = .error (.unknownName (String.ofList w)) := by
  have hnone : Directive.ofName? (String.ofList w) = none := by
    rw [Option.eq_none_iff_forall_not_mem]
    intro d hd
    exact hname d (by rw [Directive.ofName?_eq_some.1 hd, String.toList_ofList])
  unfold readLine
  rw [Text.trimChars_cons (by decide)]
  simp only [Text.wordChars_trimEndChars, h, List.map_cons, hnone]

/-- **What a line says is read on it.** -/
lemma readLine_of_said {line : List Char} {said : Option Stage} (h : Says line said) :
    readLine line = .ok said := by
  cases h with
  | blank h => exact readLine_eq_ok_none_iff.2 (Or.inl (Text.trimChars_eq_nil_iff.2 h))
  | @comment gap rest hgap =>
    rw [readLine_blanks_append hgap]
    exact readLine_eq_ok_none_iff.2 (isIgnored_of_comment rest)
  | @directive gap rest d arguments hgap h =>
    rw [readLine_blanks_append hgap]
    exact readLine_mark h.wordChars_eq

/-- **What is wrong with a line is found out.** -/
lemma readLine_of_refused {line : List Char} {flaw : ScriptFlaw} (h : Refused line flaw) :
    readLine line = .error flaw := by
  cases h with
  | @notDirective gap body tail hgap htail h0 hbody hmark hcomment =>
    have htrim : Text.trimChars (body ++ tail) = body := hbody.trimChars_append h0 htail
    rw [List.append_assoc, readLine_blanks_append hgap]
    unfold readLine
    rw [htrim]
    split
    · exact absurd rfl h0
    · exact absurd ⟨_, rfl⟩ hcomment
    · exact absurd ⟨_, rfl⟩ hmark
    · rfl
  | @missingName gap rest hgap hrest =>
    rw [readLine_blanks_append hgap]
    exact readLine_mark_nil (Text.Spaced.nil hrest).wordChars_eq
  | @unknownName gap rest w ws hgap h hname =>
    rw [readLine_blanks_append hgap]
    exact readLine_mark_unknown h.wordChars_eq hname

/-- **Every line says something, or something is wrong with it.**

**Proof sketch.** By what is left of the line when it is trimmed: nothing, the mark of a comment,
that of a directive, or something else. -/
lemma says_or_refused (line : List Char) :
    (∃ said, Says line said) ∨ ∃ flaw, Refused line flaw := by
  obtain ⟨gap, tail, hline, hgap, htail⟩ := Text.exists_trimChars line
  by_cases h0 : Text.trimChars line = []
  · exact Or.inl ⟨none, .blank (Text.trimChars_eq_nil_iff.1 h0)⟩
  by_cases hcomment : ['/', '/'] <+: Text.trimChars line
  · obtain ⟨rest, hrest⟩ := hcomment
    rw [hline, ← hrest]
    exact Or.inl ⟨none, .comment hgap⟩
  by_cases hmark : [':'] <+: Text.trimChars line
  · obtain ⟨rest, hrest⟩ := hmark
    have hline : line = gap ++ ':' :: (rest ++ tail) := by
      rw [hline, ← hrest]
      rfl
    rw [hline]
    generalize rest ++ tail = behind
    obtain ⟨ws, hws⟩ := Text.exists_spaced behind
    cases ws with
    | nil =>
      cases hws with
      | nil hblank => exact Or.inr ⟨_, .missingName hgap hblank⟩
    | cons w ws =>
      by_cases hname : ∃ d : Directive, d.name.toList = w
      · obtain ⟨d, rfl⟩ := hname
        exact Or.inl ⟨_, .directive hgap hws⟩
      · exact Or.inr ⟨_, .unknownName hgap hws (not_exists.1 hname)⟩
  · rw [hline, ← List.append_assoc]
    exact Or.inr ⟨_, .notDirective hgap htail h0 (Text.isTrimmed_trimChars line) hmark hcomment⟩

/-- **What is read on a line** is what it says. -/
theorem readLine_eq_ok_iff {line : List Char} {said : Option Stage} :
    readLine line = .ok said ↔ Says line said := by
  refine ⟨fun h => ?_, readLine_of_said⟩
  rcases says_or_refused line with ⟨said', hsaid⟩ | ⟨flaw, hrefused⟩
  · have hread := readLine_of_said hsaid
    rw [h] at hread
    rwa [Except.ok.inj hread]
  · have hread := readLine_of_refused hrefused
    rw [h] at hread
    cases hread

/-- **Why nothing is read on a line** is what is wrong with it. -/
theorem readLine_eq_error_iff {line : List Char} {flaw : ScriptFlaw} :
    readLine line = .error flaw ↔ Refused line flaw := by
  refine ⟨fun h => ?_, readLine_of_refused⟩
  rcases says_or_refused line with ⟨said, hsaid⟩ | ⟨flaw', hrefused⟩
  · have hread := readLine_of_said hsaid
    rw [h] at hread
    cases hread
  · have hread := readLine_of_refused hrefused
    rw [h] at hread
    rwa [Except.error.inj hread]

/-! ## Several lines -/

/-- A line that can be read does not end the reading of those below it. -/
lemma readLines_cons_eq_error_iff {n : Nat} {l : List Char} {ls : List (List Char)}
    {said : Option Stage} {e : Failure} (h : readLine l = .ok said) :
    readLines n (l :: ls) = .error e ↔ readLines (n + 1) ls = .error e := by
  rw [readLines, h]
  cases said with
  | none => rfl
  | some s =>
    show ((readLines (n + 1) ls).bind fun stages => .ok (s :: stages)) = .error e ↔ _
    cases readLines (n + 1) ls <;> simp [Except.bind]

/-- **The stages on some lines** are those that the lines say.

**Proof sketch.** Induction on the lines, by what is read on the first one. -/
theorem readLines_eq_ok_iff {n : Nat} {ls : List (List Char)} {stages : List Stage} :
    readLines n ls = .ok stages ↔
      ∃ said : List (Option Stage), List.Forall₂ Says ls said ∧ stages = said.reduceOption := by
  induction ls generalizing n stages with
  | nil => simp [readLines, eq_comm]
  | cons l ls ih =>
    simp only [List.forall₂_cons_left_iff, ← readLine_eq_ok_iff]
    rw [readLines]
    cases hl : readLine l with
    | error flaw => simp
    | ok read =>
      cases read with
      | none =>
        simp only [ih]
        constructor
        · rintro ⟨said, hsaid, rfl⟩
          exact ⟨none :: said, ⟨none, said, rfl, hsaid, rfl⟩, rfl⟩
        · rintro ⟨_, ⟨_, said, ⟨⟩, hsaid, rfl⟩, rfl⟩
          exact ⟨said, hsaid, rfl⟩
      | some s =>
        show ((readLines (n + 1) ls) >>= fun below => .ok (s :: below)) = .ok stages ↔ _
        simp only [bind_eq_ok_iff, ih, Except.ok.injEq]
        constructor
        · rintro ⟨_, ⟨said, hsaid, rfl⟩, rfl⟩
          exact ⟨some s :: said, ⟨some s, said, rfl, hsaid, rfl⟩, rfl⟩
        · rintro ⟨_, ⟨_, said, ⟨⟩, hsaid, rfl⟩, rfl⟩
          exact ⟨_, ⟨said, hsaid, rfl⟩, rfl⟩

/-- **Why some lines cannot be read**: something is wrong with one of them, while those above it
say something. It is told with its number.

**Proof sketch.** Induction on the lines. If the first one says something, the lines above the wrong
one are this line and those that the induction hypothesis gives. -/
theorem readLines_eq_error_iff {n : Nat} {ls : List (List Char)} {e : Failure} :
    readLines n ls = .error e ↔
      ∃ before line after flaw, ls = before ++ line :: after ∧
        (∀ l ∈ before, ∃ said, Says l said) ∧ Refused line flaw ∧
          e = .malformed (before.length + n) flaw := by
  induction ls generalizing n with
  | nil => simp [readLines]
  | cons l ls ih =>
    cases hl : readLine l with
    | error flaw =>
      have hread : readLines n (l :: ls) = .error (.malformed n flaw) := by rw [readLines, hl]
      rw [hread, Except.error.injEq]
      constructor
      · rintro rfl
        exact ⟨[], l, ls, flaw, rfl, by simp, readLine_eq_error_iff.1 hl, by simp⟩
      · rintro ⟨before, line, after, flaw', heq, hbefore, hrefused, rfl⟩
        cases before with
        | nil =>
          obtain ⟨rfl, -⟩ := List.cons_eq_cons.1 heq
          rw [readLine_eq_error_iff.2 hrefused] at hl
          obtain rfl := Except.error.inj hl
          simp
        | cons b before =>
          -- the first line is wrong, so nothing that says something stands there
          obtain ⟨rfl, -⟩ := List.cons_eq_cons.1 heq
          obtain ⟨said, hsaid⟩ := hbefore l List.mem_cons_self
          rw [readLine_eq_ok_iff.2 hsaid] at hl
          cases hl
    | ok said =>
      rw [readLines_cons_eq_error_iff hl, ih]
      constructor
      · rintro ⟨before, line, after, flaw, rfl, hbefore, hrefused, rfl⟩
        refine ⟨l :: before, line, after, flaw, rfl, ?_, hrefused, ?_⟩
        · exact List.forall_mem_cons.2 ⟨⟨said, readLine_eq_ok_iff.1 hl⟩, hbefore⟩
        · rw [List.length_cons, Nat.add_right_comm, Nat.add_assoc]
      · rintro ⟨before, line, after, flaw, heq, hbefore, hrefused, rfl⟩
        cases before with
        | nil =>
          obtain ⟨rfl, -⟩ := List.cons_eq_cons.1 heq
          rw [readLine_eq_error_iff.2 hrefused] at hl
          cases hl
        | cons b before =>
          obtain ⟨rfl, rfl⟩ := List.cons_eq_cons.1 heq
          refine ⟨before, line, after, flaw, rfl, (List.forall_mem_cons.1 hbefore).2, hrefused, ?_⟩
          rw [List.length_cons, Nat.add_right_comm, Nat.add_assoc]

/-- Lines with larger numbers are read in the same way, and the number of a line that cannot be read
is larger by as much. -/
lemma readLines_add (n k : Nat) (ls : List (List Char)) :
    readLines (n + k) ls = (readLines n ls).mapError (Failure.below k) := by
  induction ls generalizing n with
  | nil => rfl
  | cons l ls ih =>
    have ih := ih (n + 1)
    rw [Nat.add_right_comm] at ih
    rw [readLines, readLines]
    cases readLine l with
    | error flaw => rfl
    | ok read =>
      cases read with
      | none => exact ih
      | some s =>
        simp only [ih]
        cases readLines (n + 1) ls <;> rfl

/-! ## Whole texts -/

/-- A text has one line more than it has line ends. -/
lemma length_lines (text : String) : (lines text).length = text.toList.count '\n' + 1 :=
  Text.length_pieces _ _

/-- **Two texts below each other** are read one after the other. -/
lemma parse_append_newline (a b : String) :
    parse (a ++ "\n" ++ b) = (parse a).bind fun above =>
      ((parse b).mapError (Failure.below (1 + a.toList.count '\n'))).map (above ++ ·) := by
  have htext : (a ++ "\n" ++ b).toList = a.toList ++ '\n' :: b.toList := by simp
  have hlines : Text.pieces (· == '\n') (a ++ "\n" ++ b).toList = lines a ++ lines b := by
    rw [htext, lines_append_newline]
    rfl
  rw [parse, hlines, readLines_append, length_lines, Nat.add_comm (a.toList.count '\n'),
    readLines_add]
  rfl

/-- **Which texts are scripts, and what they are read as.** A text is read if every line of it says
something, and the stages are those that the lines say. If there is a line that says nothing and is
not read over, the first one is told with its number, counted from 1, and what is wrong with it. So
of two texts below each other, the stages of the upper one come first, and its failure too. A line
of the lower one is told with its number in the whole text.

**Proof sketch.** The lines are read one by one (`readLines_eq_ok_iff`, `readLines_eq_error_iff`), a
line that is wrong says nothing, and for two texts `parse_append_newline` goes through the lines of
the upper one first. -/
theorem parse_grammar :
    (∀ (text : String) (stages : List Stage), parse text = .ok stages ↔
      ∃ said : List (Option Stage),
        List.Forall₂ Says (text.toList.splitOn '\n') said ∧ stages = said.reduceOption) ∧
    (∀ (text : String) (e : Failure), parse text = .error e ↔
      ∃ before line after flaw, text.toList.splitOn '\n' = before ++ line :: after ∧
        (∀ l ∈ before, ∃ said, Says l said) ∧ (∀ said, ¬ Says line said) ∧ Refused line flaw ∧
          e = .malformed (before.length + 1) flaw) ∧
    ∀ a b : String, parse (a ++ "\n" ++ b) =
      match parse a, parse b with
      | .ok above, .ok below => .ok (above ++ below)
      | .error e, _ => .error e
      | .ok _, .error e => .error (e.below (1 + a.toList.count '\n')) := by
  have hlines (text : String) : text.toList.splitOn '\n' = lines text :=
    (Text.pieces_eq_splitOnP _ _).symm
  refine ⟨fun text stages => ?_, fun text e => ?_, fun a b => ?_⟩
  · rw [hlines]
    exact readLines_eq_ok_iff
  · rw [hlines]
    refine readLines_eq_error_iff.trans ⟨?_, ?_⟩
    · rintro ⟨before, line, after, flaw, htext, hbefore, hrefused, he⟩
      refine ⟨before, line, after, flaw, htext, hbefore, fun said hsaid => ?_, hrefused, he⟩
      have hread := readLine_of_refused hrefused
      rw [readLine_of_said hsaid] at hread
      cases hread
    · rintro ⟨before, line, after, flaw, htext, hbefore, -, hrefused, he⟩
      exact ⟨before, line, after, flaw, htext, hbefore, hrefused, he⟩
  · rw [parse_append_newline]
    cases parse a with
    | error e => rfl
    | ok above => cases parse b <;> rfl

/-- Line ends after a carriage return, a gap behind the mark, and the number of a line behind some
that are read over. -/
example : parse " \t: quit now \r\n// done\r\n\n:nope" =
    .error (.malformed 4 (.unknownName "nope")) := rfl

end Script

end AslBuild
