import AslBuild.Proofs.Text.Words
import AslBuild.Script
set_option autoImplicit false

/-!
# Reading back a script

A script is written as a header and a few lines for each stage, and read line by line. Reading it
gives back the stages that were written exactly if their arguments are words and nothing but blank
lines and comments comes into the header with the recorded command.

## Main definitions

* `AslBuild.Stage.IsWritable` — a stage whose arguments are words.
* `AslBuild.Script.lines` — the lines of a text.
* `AslBuild.Script.IsIgnored` — a line that is blank or a comment.
* `AslBuild.Script.continuation` — the lines of a recorded command after its first.

## Main results

* `AslBuild.Stage.words_text_iff` — the line of a stage splits into its own words.
* `AslBuild.Script.readLines_append` — a script in two parts is read part by part.
* `AslBuild.Script.parse_render` — what a script is read as if its stages are writable.
* `AslBuild.Script.parse_render_exact` — for which stages and commands a script is read back.
-/

namespace AslBuild

/-! ## Stages that can be written -/

/-- The name of a directive is a word. -/
lemma Directive.isWord_name (d : Directive) : Text.IsWord d.name := by
  cases d <;> exact Text.isWord_ofList (by decide)

/-- What a script says about a directive fits on a line. -/
lemma Directive.newline_not_mem_summary (d : Directive) : '\n' ∉ d.summary.toList := by
  cases d <;> exact Text.not_mem_toList_ofList (by decide)

namespace Stage

/-- Whether the arguments of a stage are words, so that its line does not run them together. -/
def IsWritable (s : Stage) : Prop := ∀ a ∈ s.arguments, Text.IsWord a

instance (s : Stage) : Decidable s.IsWritable := inferInstanceAs (Decidable (∀ a ∈ _, _))

/-- The words on the line of a stage. -/
def lineWords (s : Stage) : List (List Char) :=
  s.directive.name.toList :: s.arguments.map String.toList

/-- The line of a stage is the mark and its words, with spaces between them. -/
lemma toList_text (s : Stage) : s.text.toList = mark :: [' '].intercalate s.lineWords := by
  rw [text, String.toList_intercalate, List.map_cons, String.toList_append, lineWords]
  exact List.intercalate_cons_cons_left

/-- The words on the line of a writable stage are words. -/
lemma IsWritable.lineWords {s : Stage} (h : s.IsWritable) :
    ∀ w ∈ s.lineWords, w ≠ [] ∧ ∀ c ∈ w, Text.isBlank c = false := by
  intro w hw
  rcases List.mem_cons.1 hw with rfl | hw
  · exact Text.isWord_iff.1 s.directive.isWord_name
  · obtain ⟨a, ha, rfl⟩ := List.mem_map.1 hw
    exact Text.isWord_iff.1 (h a ha)

/-- The line of a writable stage is a single line. -/
lemma IsWritable.newline_not_mem_text {s : Stage} (h : s.IsWritable) : '\n' ∉ s.text.toList := by
  rw [toList_text]
  have hwords : ∀ c ∈ [' '].intercalate s.lineWords, c ≠ '\n' := by
    refine Text.forall_mem_intercalate (by decide) fun w hw c hc => ?_
    rintro rfl
    exact absurd ((h.lineWords w hw).2 '\n' hc) (by decide)
  intro hmem
  rcases List.mem_cons.1 hmem with hmark | hmem
  · exact absurd hmark (by decide)
  · exact hwords '\n' hmem rfl

/-- **The line of a stage splits into its own words**, the name with the mark and the arguments,
exactly if the stage is writable. -/
theorem words_text_iff {s : Stage} :
    Text.words s.text = (mark.toString ++ s.directive.name) :: s.arguments ↔ s.IsWritable := by
  constructor
  · intro h a ha
    obtain ⟨w, hw, rfl⟩ := List.mem_map.1 (h ▸ List.mem_cons_of_mem _ ha : a ∈ Text.words s.text)
    exact Text.isWord_of_mem hw
  · intro h
    have hname : Text.IsWord (mark.toString ++ s.directive.name) :=
      (Text.isWord_ofList (w := [mark]) (by decide)).append s.directive.isWord_name.2
    have hwords : ∀ w ∈ ((mark.toString ++ s.directive.name) :: s.arguments).map String.toList,
        w ≠ [] ∧ ∀ c ∈ w, Text.isBlank c = false := by
      rw [List.forall_mem_map, List.forall_mem_cons]
      exact ⟨Text.isWord_iff.1 hname, fun a ha => Text.isWord_iff.1 (h a ha)⟩
    have hspace : " ".toList = [' '] := rfl
    rw [Text.words, text, String.toList_intercalate, hspace, Text.wordChars_intercalate hwords,
      List.map_map]
    exact List.map_id'' (fun _ => String.ofList_toList) _

end Stage

namespace Script

/-! ## Single lines -/

/-- The lines of a text. -/
def lines (text : String) : List (List Char) := Text.pieces (· == '\n') text.toList

/-- Whether a line is read over: it is blank, or a comment. -/
def IsIgnored (line : List Char) : Prop :=
  Text.trimChars line = [] ∨ commentMark.toList <+: Text.trimChars line

instance (line : List Char) : Decidable (IsIgnored line) := inferInstanceAs (Decidable (_ ∨ _))

/-- There is no stage on a line exactly if it is read over. -/
theorem readLine_eq_ok_none_iff {line : List Char} : readLine line = .ok none ↔ IsIgnored line := by
  unfold readLine IsIgnored
  split
  · next h => simp [h]
  · next h => simp [h, commentMark]
  · next rest h =>
    have hc : ¬ commentMark.toList <+: ':' :: rest := by simp [commentMark]
    simp only [h, hc, List.cons_ne_nil, or_self, iff_false]
    split
    · simp
    · split <;> simp
  · next other h0 h1 _ =>
    simp only [reduceCtorEq, false_iff, not_or]
    refine ⟨h0, ?_⟩
    rintro ⟨rest, hrest⟩
    exact h1 rest hrest.symm

/-- A comment is read over. -/
lemma isIgnored_of_comment (cs : List Char) : IsIgnored ('/' :: '/' :: cs) := by
  refine Or.inr ⟨Text.trimEndChars cs, ?_⟩
  rw [Text.trimChars_cons (by decide), Text.trimEndChars_cons (by decide)]
  rfl

/-- A directive with the words that follow it is read as a stage. -/
lemma readLine_mark {cs : List Char} {d : Directive} {args : List (List Char)}
    (h : Text.wordChars cs = d.name.toList :: args) :
    readLine (Stage.mark :: cs) = .ok (some ⟨d, args.map String.ofList⟩) := by
  have htrim : Text.trimChars (Stage.mark :: cs) = ':' :: Text.trimEndChars cs :=
    Text.trimChars_cons (by decide) cs
  unfold readLine
  rw [htrim]
  simp only [Text.wordChars_trimEndChars, h, List.map_cons, String.ofList_toList,
    Directive.ofName?_name]

/-- The line of a writable stage is read as that stage. -/
theorem readLine_text {s : Stage} (h : s.IsWritable) : readLine s.text.toList = .ok (some s) := by
  have hwords : Text.wordChars ([' '].intercalate s.lineWords) =
      s.directive.name.toList :: s.arguments.map String.toList :=
    Text.wordChars_intercalate h.lineWords
  rw [Stage.toList_text, readLine_mark hwords]
  simp [Function.comp_def]

/-- What is read on a line is writable. -/
lemma isWritable_of_readLine {line : List Char} {s : Stage} (h : readLine line = .ok (some s)) :
    s.IsWritable := by
  unfold readLine at h
  split at h
  · simp at h
  · simp at h
  · next rest _ =>
    cases hw : Text.wordChars rest with
    | nil => simp [hw] at h
    | cons w ws =>
      simp only [hw, List.map_cons] at h
      split at h
      · obtain rfl := Option.some.inj (Except.ok.inj h)
        intro a ha
        obtain ⟨v, hv, rfl⟩ := List.mem_map.1 ha
        exact Text.isWord_of_mem (hw ▸ List.mem_cons_of_mem w hv)
      · simp at h
  · simp at h

/-! ## Several lines -/

/-- A script in two parts is read part by part.

**Proof sketch.** Induction on the lines of the first part, by what is read on its first line. -/
theorem readLines_append (n : Nat) (as bs : List (List Char)) :
    readLines n (as ++ bs) = (readLines n as).bind fun ss =>
      (readLines (n + as.length) bs).map (ss ++ ·) := by
  induction as generalizing n with
  | nil =>
    show readLines n bs = (readLines n bs).map ([] ++ ·)
    cases readLines n bs <;> rfl
  | cons a as ih =>
    have ih := ih (n + 1)
    rw [show n + 1 + as.length = n + (a :: as).length by simp; omega] at ih
    rw [List.cons_append, readLines, readLines]
    cases readLine a with
    | error flaw => rfl
    | ok read =>
      cases read with
      | none => exact ih
      | some s =>
        simp only [ih]
        cases readLines (n + 1) as with
        | error f => rfl
        | ok ss => cases readLines (n + (a :: as).length) bs <;> rfl

/-- Lines that are read over come to nothing. -/
lemma readLines_eq_ok_nil_iff {n : Nat} {ls : List (List Char)} :
    readLines n ls = .ok [] ↔ ∀ l ∈ ls, IsIgnored l := by
  induction ls generalizing n with
  | nil => simp [readLines]
  | cons l ls ih =>
    rw [List.forall_mem_cons, ← readLine_eq_ok_none_iff, ← ih (n := n + 1), readLines]
    cases readLine l with
    | error flaw => simp
    | ok read =>
      cases read with
      | none => simp
      | some s => cases readLines (n + 1) ls <;> simp [bind, Except.bind]

/-- What is read on some lines is writable. -/
lemma isWritable_of_readLines {n : Nat} {ls : List (List Char)} {ss : List Stage}
    (h : readLines n ls = .ok ss) : ∀ s ∈ ss, s.IsWritable := by
  induction ls generalizing n ss with
  | nil =>
    obtain rfl := Except.ok.inj h
    simp
  | cons l ls ih =>
    rw [readLines] at h
    cases hl : readLine l with
    | error flaw => simp [hl] at h
    | ok read =>
      cases read with
      | none => exact ih (by simpa only [hl] using h)
      | some s =>
        cases hls : readLines (n + 1) ls with
        | error f => simp [hl, hls, bind, Except.bind] at h
        | ok ss' =>
          obtain rfl : s :: ss' = ss := by simpa [hl, hls, bind, Except.bind] using h
          exact List.forall_mem_cons.2 ⟨isWritable_of_readLine hl, ih hls⟩

/-! ## Whole scripts -/

/-- A text that goes on after the end of its first line. -/
lemma lines_append_newline (cs ds : List Char) :
    Text.pieces (· == '\n') (cs ++ '\n' :: ds) =
      Text.pieces (· == '\n') cs ++ Text.pieces (· == '\n') ds :=
  Text.pieces_append_sep (by decide) cs ds

/-- A text without a line end has no character that ends a line. -/
lemma beq_newline_eq_false {cs : List Char} (h : '\n' ∉ cs) : ∀ c ∈ cs, (c == '\n') = false := by
  intro c hc
  rw [beq_eq_false_iff_ne]
  rintro rfl
  exact h hc

/-- A text without a line end is one line. -/
lemma lines_of_not_mem {text : String} (h : '\n' ∉ text.toList) : lines text = [text.toList] :=
  Text.pieces_of_forall (beq_newline_eq_false h)

/-- Texts that are written one below the other keep their lines, and an empty one follows. -/
lemma lines_ofLines (texts : List String) :
    lines (ofLines texts) = texts.flatMap lines ++ [[]] := by
  induction texts with
  | nil => rfl
  | cons text texts ih =>
    have hcons : (ofLines (text :: texts)).toList =
        text.toList ++ '\n' :: (ofLines texts).toList := by
      simp [ofLines]
    rw [lines, hcons, lines_append_newline, List.flatMap_cons, List.append_assoc, ← ih]
    rfl

/-- The lines of a stage that can be written are read as that stage, wherever they stand.

**Proof sketch.** A snapshot has only its own line. Every other stage has two lines above it that
are read over, an empty one and a comment. -/
lemma readLines_stageLines {s : Stage} (h : s.IsWritable) (n : Nat) :
    readLines n ((stageLines s).flatMap lines) = .ok [s] := by
  have htext : lines s.text = [s.text.toList] := lines_of_not_mem h.newline_not_mem_text
  unfold stageLines
  split
  · simp [htext, readLines, readLine_text h, bind, Except.bind]
  · have hcomment : (commentMark ++ " " ++ s.directive.summary).toList =
        '/' :: '/' :: ' ' :: s.directive.summary.toList := by
      simp [commentMark]
    have hline : lines (commentMark ++ " " ++ s.directive.summary) =
        [(commentMark ++ " " ++ s.directive.summary).toList] := by
      refine lines_of_not_mem ?_
      simp [hcomment, s.directive.newline_not_mem_summary]
    have hempty : readLine [] = .ok none := rfl
    have hignored : readLine ('/' :: '/' :: ' ' :: s.directive.summary.toList) = .ok none :=
      readLine_eq_ok_none_iff.2 (isIgnored_of_comment _)
    have hblank : lines "" = [[]] := rfl
    simp [htext, hline, hcomment, hblank, hempty, hignored, readLines, readLine_text h, bind,
      Except.bind]

/-- The lines of stages that can be written are read as those stages, wherever they stand. -/
lemma readLines_stages {stages : List Stage} (h : ∀ s ∈ stages, s.IsWritable) (n : Nat) :
    readLines n ((stages.flatMap stageLines).flatMap lines ++ [[]]) = .ok stages := by
  induction stages generalizing n with
  | nil => rfl
  | cons s stages ih =>
    have hs := readLines_stageLines (h s List.mem_cons_self) n
    have ih := ih (fun t ht => h t (List.mem_cons_of_mem _ ht))
      (n + ((stageLines s).flatMap lines).length)
    rw [List.flatMap_cons, List.flatMap_append, List.append_assoc, readLines_append, hs]
    show (readLines _ _).map ([s] ++ ·) = _
    rw [ih]
    rfl

/-- Lines that are read over only move on the lines below them. -/
lemma readLines_ignored_append {ls : List (List Char)} (h : ∀ l ∈ ls, IsIgnored l) (n : Nat)
    (rest : List (List Char)) : readLines n (ls ++ rest) = readLines (n + ls.length) rest := by
  rw [readLines_append, readLines_eq_ok_nil_iff.2 h]
  show (readLines _ _).map ([] ++ ·) = _
  cases readLines (n + ls.length) rest <;> rfl

/-- The lines of a recorded command after its first. They stand in the header below the comment that
the first line ends. -/
def continuation : Option String → List (List Char)
  | none => []
  | some command => (lines command).tail

/-- A recorded command of one line does not go on below its comment. -/
lemma continuation_eq_nil {command : String} (h : '\n' ∉ command.toList) :
    continuation (some command) = [] := by
  rw [continuation, lines_of_not_mem h, List.tail_cons]

/-- What is recorded of a command is a comment with its first line in it, and its other lines. -/
lemma lines_recorded (command : String) :
    ∃ first, lines ("// Generated by command: " ++ command) =
      first :: continuation (some command) ∧ IsIgnored first := by
  have hnote : '\n' ∉ "// Generated by command: ".toList :=
    Text.not_mem_toList_ofList (by decide)
  obtain ⟨first, rest, hlines⟩ : ∃ first rest, lines command = first :: rest :=
    List.exists_cons_of_ne_nil (Text.pieces_ne_nil _ _)
  refine ⟨"// Generated by command: ".toList ++ first, ?_,
    isIgnored_of_comment (" Generated by command: ".toList ++ first)⟩
  rw [lines, String.toList_append, Text.pieces_append_of_forall (beq_newline_eq_false hnote),
    ← lines, continuation, hlines]
  rfl

/-- The lines of a header are comments, and below them the further lines of a recorded command.

**Proof sketch.** The title and the mark between it and the command are comments of one line, and
`lines_recorded` says what comes below them. -/
lemma lines_header (command : Option String) :
    ∃ above, (header command).flatMap lines = above ++ continuation command ∧
      (∀ l ∈ above, IsIgnored l) ∧ ∀ c ∈ command, above.length = 3 := by
  have htitle : lines "// Autogenerated script to generate C code from ASL" =
      ["// Autogenerated script to generate C code from ASL".toList] :=
    lines_of_not_mem (Text.not_mem_toList_ofList (by decide))
  have hignored : IsIgnored "// Autogenerated script to generate C code from ASL".toList :=
    isIgnored_of_comment " Autogenerated script to generate C code from ASL".toList
  cases command with
  | none =>
    refine ⟨_, ?_, List.forall_mem_singleton.2 hignored, by simp⟩
    rw [header, List.flatMap_cons, htitle]
    rfl
  | some command =>
    obtain ⟨first, hlines, hfirst⟩ := lines_recorded command
    have hmark : lines "//" = [['/', '/']] := rfl
    refine ⟨["// Autogenerated script to generate C code from ASL".toList, ['/', '/'], first],
      ?_, ?_, fun _ _ => rfl⟩
    · simp only [header, List.flatMap_cons, List.flatMap_nil, htitle, hmark, hlines,
        List.append_nil]
      rfl
    · exact List.forall_mem_cons.2 ⟨hignored, List.forall_mem_cons.2
        ⟨isIgnored_of_comment [], List.forall_mem_singleton.2 hfirst⟩⟩

/-- **What a script is read as.** If the stages can be written, a script is read as the stages that
a recorded command puts into the header, if they can be read at all, and then its own.

**Proof sketch.** The comments of the header are read over (`lines_header`), and below the rest of
the command every stage is read from its own lines (`readLines_stages`). -/
theorem parse_render {stages : List Stage} (h : ∀ s ∈ stages, s.IsWritable)
    (command : Option String) :
    parse (render ⟨stages⟩ command) = (readLines 4 (continuation command)).map (· ++ stages) := by
  obtain ⟨above, hheader, hignored, hlength⟩ := lines_header command
  have hparse : parse (render ⟨stages⟩ command) = readLines 1 (lines (render ⟨stages⟩ command)) :=
    rfl
  have hstages := readLines_stages h
  rw [hparse, render, lines_ofLines, List.flatMap_append, hheader, List.append_assoc,
    List.append_assoc, readLines_ignored_append hignored, readLines_append]
  simp only [hstages]
  cases command with
  | none => rfl
  | some command => rw [hlength command rfl]; rfl

/-- What is read from a script can be written. -/
lemma isWritable_of_parse {text : String} {stages : List Stage} (h : parse text = .ok stages) :
    ∀ s ∈ stages, s.IsWritable := isWritable_of_readLines h

/-- A script without a recorded command is read back if its stages can be written. -/
lemma parse_render_none {stages : List Stage} (h : ∀ s ∈ stages, s.IsWritable) :
    parse (render ⟨stages⟩ none) = .ok stages := parse_render h none

/-- A script of stages that can be written is read back exactly if nothing of a recorded command
but blank lines and comments comes below its first line. -/
lemma parse_render_eq_ok_iff {stages : List Stage} (h : ∀ s ∈ stages, s.IsWritable)
    (command : Option String) :
    parse (render ⟨stages⟩ command) = .ok stages ↔ ∀ l ∈ continuation command, IsIgnored l := by
  rw [parse_render h, ← readLines_eq_ok_nil_iff (n := 4)]
  cases readLines 4 (continuation command) with
  | error f => simp [Except.map]
  | ok ss => simp [Except.map]

/-- **Which scripts are read back.** The script of some stages is read as those stages exactly if
every argument of theirs is a word, and every line of the recorded command but its first is blank or
a comment. What is read from any text can be written and read again.

**Proof sketch.** What is read can be written (`isWritable_of_parse`), so the first condition is
necessary. Where it holds, `parse_render_eq_ok_iff` says what the second one does. -/
theorem parse_render_exact :
    (∀ (stages : List Stage) (command : Option String),
      parse (render ⟨stages⟩ command) = .ok stages ↔
        (∀ s ∈ stages, ∀ a ∈ s.arguments, a ≠ "" ∧ Text.hasBlank a = false) ∧
          ∀ c ∈ command, ∀ l ∈ (lines c).tail,
            Text.trimChars l = [] ∨ commentMark.toList <+: Text.trimChars l) ∧
    ∀ (text : String) (stages : List Stage), parse text = .ok stages →
      (∀ s ∈ stages, ∀ a ∈ s.arguments, a ≠ "" ∧ Text.hasBlank a = false) ∧
        parse (render ⟨stages⟩ none) = .ok stages := by
  refine ⟨fun stages command => ?_, fun text stages h => ?_⟩
  · have hcontinuation : (∀ l ∈ continuation command, IsIgnored l) ↔
        ∀ c ∈ command, ∀ l ∈ (lines c).tail, IsIgnored l := by
      cases command <;> simp [continuation]
    constructor
    · intro h
      have hw := isWritable_of_parse h
      exact ⟨hw, hcontinuation.1 ((parse_render_eq_ok_iff hw command).1 h)⟩
    · rintro ⟨hw, hc⟩
      exact (parse_render_eq_ok_iff hw command).2 (hcontinuation.2 hc)
  · have hw := isWritable_of_parse h
    exact ⟨hw, parse_render_none hw⟩

/-- A script with its own layout is read and written again, with its words as they were. -/
theorem parse_render_exact_layout :
    parse " :show\t--output log\n\n  // note\n" = .ok [⟨.dump, ["--output", "log"]⟩] ∧
      parse (render ⟨[⟨.dump, ["--output", "log"]⟩]⟩ none) =
        .ok [⟨.dump, ["--output", "log"]⟩] := by
  have h : parse " :show\t--output log\n\n  // note\n" = .ok [⟨.dump, ["--output", "log"]⟩] := rfl
  exact ⟨h, (parse_render_exact.2 _ _ h).2⟩

end Script

end AslBuild
