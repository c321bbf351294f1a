import AslBuild.CommandLine.Arguments
import Mathlib.Data.List.Basic
set_option autoImplicit false

/-!
# How a command line is spelled

What may be written on a command line, and what it says. A switch is a word with two dashes. An
option has its value in the same word, behind an equals sign, or in the next word. Switches with a
letter may share one dash, and the optimisation level may be the last of such letters. A word that
starts with no dash is an input file, and so is every word behind two dashes alone.

This is what is read, no more and no less: the words of a command line say in one way what they say,
or they cannot be read.

## Main definitions

* `AslBuild.CommandLine.WordSays` — what a word says, and the option that waits for its value.
* `AslBuild.CommandLine.Spells` — the words of one argument.
* `AslBuild.CommandLine.Spelled` — the words of arguments, one after the other.
* `AslBuild.CommandLine.Written` — the words of a command line.

## Main results

* `AslBuild.CommandLine.readWord_eq_iff` — words are read as they are spelled.
* `AslBuild.CommandLine.Spelled.readWords_append` — arguments are read whatever comes after them.
* `AslBuild.CommandLine.written_iff` — command lines are read as they are written.
-/

namespace AslBuild.CommandLine

/-! ## The language of command lines -/

/-- What the letters behind one dash say, and the option that waits for its value. -/
inductive LettersSay : List Char → List Occurrence → Option Valued → Prop
  | nil : LettersSay [] [] none
  /-- A letter is a switch, and more letters may follow. -/
  | switch {c : Char} {s : Switch} {cs : List Char} {os : List Occurrence} {waiting : Option Valued}
    (hs : Switch.ofShort? c = some s) (h : LettersSay cs os waiting) :
    LettersSay (c :: cs) (.switched s :: os) waiting
  /-- The value of the level is the next word. -/
  | waiting : LettersSay [Valued.levelLetter] [] (some .level)
  /-- The value of the level follows at once. -/
  | value {value : List Char} (hne : value ≠ []) (heq : value.head? ≠ some '=') :
    LettersSay (Valued.levelLetter :: value) [.given .level (String.ofList value)] none
  /-- The value of the level follows an equals sign. -/
  | equals (value : List Char) :
    LettersSay (Valued.levelLetter :: '=' :: value) [.given .level (String.ofList value)] none

/-- What a word says, and the option that waits for its value. -/
inductive WordSays : String → List Occurrence → Option Valued → Prop
  | switch (s : Switch) : WordSays ("--" ++ s.longName) [.switched s] none
  /-- The value is in the same word. -/
  | equals {o : Valued} {name : String} (h : o.longName? = some name) (value : String) :
    WordSays ("--" ++ name ++ "=" ++ value) [.given o value] none
  /-- The value is the next word. -/
  | waiting {o : Valued} {name : String} (h : o.longName? = some name) :
    WordSays ("--" ++ name) [] (some o)
  | letters {cs : List Char} {os : List Occurrence} {waiting : Option Valued} (hne : cs ≠ [])
    (h : LettersSay cs os waiting) : WordSays (String.ofList ('-' :: cs)) os waiting
  | input {word : String} (h : isValue word = true) : WordSays word [.input word] none

/-- The words of one argument, and what they say: one word, or a word whose option waits for a value
and this value. -/
inductive Spells : List String → List Occurrence → Prop
  | word {word : String} {os : List Occurrence} (h : WordSays word os none) : Spells [word] os
  | withValue {word value : String} {os : List Occurrence} {o : Valued}
    (h : WordSays word os (some o)) (hvalue : isValue value = true) :
    Spells [word, value] (os ++ [.given o value])

/-- The words of arguments, one after the other. -/
inductive Spelled : List String → List Occurrence → Prop
  | nil : Spelled [] []
  | cons {first rest : List String} {os os' : List Occurrence} (hfirst : Spells first os)
    (hrest : Spelled rest os') : Spelled (first ++ rest) (os ++ os')

/-- The words of a command line: those of its arguments, and perhaps two dashes alone with input
files behind them. -/
inductive Written : List String → List Occurrence → Prop
  | arguments {words : List String} {os : List Occurrence} (h : Spelled words os) : Written words os
  | dashes {words : List String} {os : List Occurrence} (h : Spelled words os)
    (paths : List String) : Written (words ++ "--" :: paths) (os ++ paths.map .input)

variable {word : String} {words first rest : List String} {os os' : List Occurrence}
  {waiting : Option Valued}

/-! ## Names -/

/-- The lists of switches and options are complete, so what is to be said of every name is decided
by going through them. -/
lemma Switch.mem_all (s : Switch) : s ∈ all := by
  cases s with
  | autoCaseSplit on | constraintChecks on | lineInfo on | runtimeChecks on => cases on <;> decide
  | _ => decide

lemma Valued.mem_all (o : Valued) : o ∈ all := by
  cases o <;> decide

/-- The two tables of long names: no name has an equals sign in it, each is found in its own table
and not in the other one, and nothing is found by the empty name. -/
lemma longNames_apart :
    (∀ s ∈ Switch.all, '=' ∉ s.longName.toList ∧ Switch.ofLong? s.longName = some s) ∧
      (∀ o ∈ Valued.all, ∀ name ∈ o.longName?, '=' ∉ name.toList ∧
        Valued.ofLong? name = some o ∧ Switch.ofLong? name = none) ∧
      Switch.ofLong? "" = none ∧ Valued.ofLong? "" = none := by
  decide +kernel

/-- A long name has no equals sign in it. -/
lemma equals_notMem_longName (s : Switch) : '=' ∉ s.longName.toList :=
  (longNames_apart.1 s s.mem_all).1

lemma equals_notMem_longName? {o : Valued} {name : String} (h : o.longName? = some name) :
    '=' ∉ name.toList :=
  (longNames_apart.2.1 o o.mem_all name h).1

/-- A switch is found by its long name. -/
lemma Switch.ofLong?_eq_some_iff {name : String} {s : Switch} :
    ofLong? name = some s ↔ s.longName = name := by
  constructor
  · intro h
    simpa using List.find?_some h
  · rintro rfl
    exact (longNames_apart.1 s s.mem_all).2

/-- An option is found by its long name. -/
lemma Valued.ofLong?_eq_some_iff {name : String} {o : Valued} :
    ofLong? name = some o ↔ o.longName? = some name := by
  constructor
  · intro h
    simpa using List.find?_some h
  · intro h
    exact (longNames_apart.2.1 o o.mem_all name h).2.1

/-- No switch has the long name of an option. -/
lemma Switch.ofLong?_longName? {o : Valued} {name : String} (h : o.longName? = some name) :
    ofLong? name = none :=
  (longNames_apart.2.1 o o.mem_all name h).2.2

/-- No long name is empty. -/
lemma longName_ne_empty (s : Switch) : s.longName ≠ "" := by
  intro h
  obtain ⟨-, -, hnone, -⟩ := longNames_apart
  exact absurd (hnone.symm.trans (Switch.ofLong?_eq_some_iff.2 h)) (by simp)

lemma longName?_ne_empty {o : Valued} {name : String} (h : o.longName? = some name) :
    name ≠ "" := by
  rintro rfl
  obtain ⟨-, -, -, hnone⟩ := longNames_apart
  exact absurd (hnone.symm.trans (Valued.ofLong?_eq_some_iff.2 h)) (by simp)

/-- Two dashes with a text behind them are not two dashes alone. -/
lemma dashes_ne {s : String} (h : s ≠ "") : "--" ++ s ≠ "--" := by
  simpa [String.append_eq_left_iff] using h

/-! ## Reading a word -/

/-- Without an equals sign all is the name. -/
lemma splitValue_of_notMem {name : List Char} (h : '=' ∉ name) :
    splitValue name = (name, none) := by
  induction name with
  | nil => rfl
  | cons c cs ih =>
    obtain ⟨hc, hcs⟩ := not_or.1 (List.mem_cons.not.1 h)
    rw [splitValue, ih hcs]
    exact fun heq => hc heq.symm

/-- The value is what stands behind the first equals sign. -/
lemma splitValue_append {name : List Char} (h : '=' ∉ name) (value : List Char) :
    splitValue (name ++ '=' :: value) = (name, some value) := by
  induction name with
  | nil => rfl
  | cons c cs ih =>
    obtain ⟨hc, hcs⟩ := not_or.1 (List.mem_cons.not.1 h)
    rw [List.cons_append, splitValue, ih hcs]
    exact fun heq => hc heq.symm

/-- What was cut at an equals sign, put together again. -/
lemma splitValue_joined (cs : List Char) :
    (splitValue cs).1 ++ ((splitValue cs).2.map ('=' :: ·)).getD [] = cs := by
  fun_induction splitValue cs with
  | case1 => rfl
  | case2 value => rfl
  | case3 c cs _ name value hsplit ih =>
    rw [hsplit] at ih
    rw [← ih]
    rfl

/-- A word with two dashes that names a switch. -/
lemma readLong_switch (s : Switch) : readLong s.longName.toList = ([.switched s], none) := by
  unfold readLong
  rw [splitValue_of_notMem (equals_notMem_longName s)]
  simp [Switch.ofLong?_eq_some_iff.2 rfl]

/-- A word with two dashes that names an option. -/
lemma readLong_waiting {o : Valued} {name : String} (h : o.longName? = some name) :
    readLong name.toList = ([], some o) := by
  unfold readLong
  rw [splitValue_of_notMem (equals_notMem_longName? h)]
  simp [Switch.ofLong?_longName? h, Valued.ofLong?_eq_some_iff.2 h]

/-- A word with two dashes that gives a value to an option. -/
lemma readLong_equals {o : Valued} {name : String} (h : o.longName? = some name)
    (value : String) :
    readLong (name.toList ++ '=' :: value.toList) = ([.given o value], none) := by
  unfold readLong
  rw [splitValue_append (equals_notMem_longName? h)]
  simp [Switch.ofLong?_longName? h, Valued.ofLong?_eq_some_iff.2 h]

/-- Two dashes in front of a text. -/
lemma ofList_dashes (body : List Char) :
    String.ofList ('-' :: '-' :: body) = "--" ++ String.ofList body := by
  rw [← String.toList_inj]
  simp

/-- What is read behind two dashes is spelled that way. -/
lemma wordSays_of_readLong {body : List Char} (h : readLong body = (os, waiting))
    (hok : .wrong ∉ os) : WordSays (String.ofList ('-' :: '-' :: body)) os waiting := by
  have hjoined := splitValue_joined body
  rw [ofList_dashes]
  unfold readLong at h
  generalize splitValue body = parts at h hjoined
  obtain ⟨name, value⟩ := parts
  dsimp only at h hjoined
  split at h
  · next s hs =>
    obtain ⟨rfl, rfl⟩ := Prod.mk.inj h
    rw [← hjoined, Option.map_none, Option.getD_none, List.append_nil,
      ← Switch.ofLong?_eq_some_iff.1 hs]
    exact .switch s
  · next o _ ho =>
    obtain ⟨rfl, rfl⟩ := Prod.mk.inj h
    rw [← hjoined, Option.map_none, Option.getD_none, List.append_nil]
    exact .waiting (Valued.ofLong?_eq_some_iff.1 ho)
  · next o value _ ho =>
    obtain ⟨rfl, rfl⟩ := Prod.mk.inj h
    have htext : "--" ++ String.ofList body =
        "--" ++ String.ofList name ++ "=" ++ String.ofList value := by
      rw [← hjoined, ← String.toList_inj]
      simp
    rw [htext]
    exact .equals (Valued.ofLong?_eq_some_iff.1 ho) _
  · obtain ⟨rfl, rfl⟩ := Prod.mk.inj h
    exact absurd hok (by simp)

/-- No letter of a switch is that of the level, or a dash. -/
lemma ne_of_ofShort? {c : Char} {s : Switch} (h : Switch.ofShort? c = some s) :
    c ≠ Valued.levelLetter ∧ c ≠ '-' := by
  constructor <;> rintro rfl <;> exact absurd h (by simp [Switch.ofShort?, Valued.levelLetter])

/-- What is read from letters is spelled that way, by induction on the letters. -/
lemma lettersSay_of_readLetters {cs : List Char} (h : readLetters cs = (os, waiting))
    (hok : .wrong ∉ os) : LettersSay cs os waiting := by
  induction cs generalizing os with
  | nil =>
    obtain ⟨rfl, rfl⟩ := Prod.mk.inj h
    exact .nil
  | cons c cs ih =>
    rw [readLetters] at h
    split at h
    · next hlevel =>
      subst hlevel
      split at h
      · next hnone =>
        obtain rfl := List.isEmpty_iff.1 hnone
        obtain ⟨rfl, rfl⟩ := Prod.mk.inj h
        exact .waiting
      · next hsome =>
        obtain ⟨rfl, rfl⟩ := Prod.mk.inj h
        unfold attached
        split
        · exact .equals _
        · next hplain =>
          exact .value (by simpa using hsome) fun heq =>
            (List.head?_eq_some_iff.1 heq).elim hplain
    · cases hs : Switch.ofShort? c with
      | none =>
        rw [hs] at h
        obtain ⟨rfl, rfl⟩ := Prod.mk.inj h
        exact absurd hok (by simp)
      | some s =>
        rw [hs] at h
        obtain ⟨rfl, rfl⟩ := Prod.mk.inj h
        exact .switch hs (ih rfl fun hmem => hok (List.mem_cons_of_mem _ hmem))

/-- Letters are read as they are spelled, by induction on the spelling. -/
lemma LettersSay.readLetters_eq {cs : List Char} (h : LettersSay cs os waiting) :
    readLetters cs = (os, waiting) ∧ .wrong ∉ os := by
  induction h with
  | nil | waiting => exact ⟨rfl, List.not_mem_nil⟩
  | @switch c s cs os waiting hs _ ih =>
    obtain ⟨hread, hok⟩ := ih
    refine ⟨?_, by simpa using hok⟩
    rw [readLetters, if_neg (ne_of_ofShort? hs).1, hs, hread]
  | @value value hne heq =>
    have hplain : attached value = value := by
      unfold attached
      split
      · exact absurd rfl heq
      · rfl
    refine ⟨?_, by simp⟩
    rw [readLetters, if_pos rfl, if_neg (by simpa using hne), hplain]
  | equals value => exact ⟨rfl, by simp⟩

/-- Letters that say something do not start with a dash. -/
lemma LettersSay.head_ne {c : Char} {cs : List Char} (h : LettersSay (c :: cs) os waiting) :
    c ≠ '-' := by
  cases h with
  | switch hs => exact (ne_of_ofShort? hs).2
  | waiting | value | equals => decide

/-- A word that starts with two dashes. -/
lemma readWord_dashes (s : String) : readWord ("--" ++ s) = readLong s.toList := by
  have htext : ("--" ++ s).toList = '-' :: '-' :: s.toList := String.toList_append
  rw [readWord, htext]
  rfl

/-- A word that starts with one dash, and is longer. -/
lemma readWord_dash {c : Char} (hc : c ≠ '-') (cs : List Char) :
    readWord (String.ofList ('-' :: c :: cs)) = readLetters (c :: cs) := by
  unfold readWord
  rw [String.toList_ofList]
  split
  · next heq => exact absurd (List.cons.inj (List.cons.inj heq).2).1 hc
  · next heq => rw [(List.cons.inj heq).2]
  · next hother => exact absurd rfl (hother c cs)

/-- A word that can be the value of an option is an input file by itself. -/
lemma readWord_of_isValue (h : isValue word = true) : readWord word = ([.input word], none) := by
  unfold isValue at h
  unfold readWord
  split
  · next hdashes => simp [hdashes] at h
  · next hdash => simp [hdash] at h
  · rfl

/-- What is read from a word is spelled that way. -/
lemma wordSays_of_readWord (h : readWord word = (os, waiting)) (hok : .wrong ∉ os) :
    WordSays word os waiting := by
  unfold readWord at h
  split at h
  · next body hbody =>
    rw [← String.ofList_toList (s := word), hbody]
    exact wordSays_of_readLong h hok
  · next c cs _ hletters =>
    rw [← String.ofList_toList (s := word), hletters]
    exact .letters (List.cons_ne_nil _ _) (lettersSay_of_readLetters h hok)
  · next hdashes hdash =>
    obtain ⟨rfl, rfl⟩ := Prod.mk.inj h
    refine .input ?_
    unfold isValue
    split
    · next c cs hbegins =>
      by_cases hc : c = '-'
      · subst hc
        exact absurd hbegins (hdashes cs)
      · exact absurd hbegins (hdash c cs)
    · rfl

/-- **Words are read as they are spelled.** Two dashes alone are no word of an argument. -/
theorem readWord_eq_iff :
    word ≠ "--" ∧ readWord word = (os, waiting) ∧ .wrong ∉ os ↔ WordSays word os waiting := by
  constructor
  · rintro ⟨-, hread, hok⟩
    exact wordSays_of_readWord hread hok
  · intro h
    cases h with
    | switch s =>
      refine ⟨dashes_ne (longName_ne_empty s), ?_, by simp⟩
      rw [readWord_dashes, readLong_switch]
    | @equals o name h value =>
      rw [String.append_assoc, String.append_assoc]
      refine ⟨dashes_ne (by simp), ?_, by simp⟩
      rw [readWord_dashes, ← readLong_equals h value]
      simp
    | waiting h =>
      refine ⟨dashes_ne (longName?_ne_empty h), ?_, by simp⟩
      rw [readWord_dashes, readLong_waiting h]
    | letters hne h =>
      obtain ⟨c, cs, rfl⟩ := List.exists_cons_of_ne_nil hne
      obtain ⟨hread, hok⟩ := h.readLetters_eq
      refine ⟨fun hdashes => ?_, (readWord_dash h.head_ne cs).trans hread, hok⟩
      rw [← String.toList_inj, String.toList_ofList] at hdashes
      exact h.head_ne (List.cons.inj (List.cons.inj hdashes).2).1
    | input h =>
      refine ⟨?_, readWord_of_isValue h, by simp⟩
      rintro rfl
      exact absurd h (by decide)

/-! ## Reading a command line -/

/-- The words of an argument are read first. -/
lemma Spells.readWords_append (h : Spells first os) (words : List String) :
    readWords none (first ++ words) = os ++ readWords none words ∧ .wrong ∉ os := by
  cases h with
  | word h =>
    obtain ⟨hword, hread, hok⟩ := readWord_eq_iff.2 h
    refine ⟨?_, hok⟩
    rw [List.singleton_append, readWords, if_neg hword, hread]
  | @withValue word value os o h hvalue =>
    obtain ⟨hword, hread, hok⟩ := readWord_eq_iff.2 h
    refine ⟨?_, by simpa using hok⟩
    rw [List.cons_append, List.singleton_append, readWords, if_neg hword, hread]
    simp [readWords, hvalue]

/-- **Arguments are read one after the other**, whatever comes after them. -/
theorem Spelled.readWords_append (h : Spelled first os) (words : List String) :
    readWords none (first ++ words) = os ++ readWords none words ∧ .wrong ∉ os := by
  induction h with
  | nil => exact ⟨rfl, List.not_mem_nil⟩
  | @cons first rest os os' hfirst _ ih =>
    obtain ⟨hread, hok⟩ := hfirst.readWords_append (rest ++ words)
    refine ⟨?_, by simpa using ⟨hok, ih.2⟩⟩
    rw [List.append_assoc, hread, ih.1, List.append_assoc]

/-- An argument may stand in front of a command line. -/
lemma Written.cons (hfirst : Spells first os) (h : Written rest os') :
    Written (first ++ rest) (os ++ os') := by
  cases h with
  | arguments h => exact .arguments (.cons hfirst h)
  | dashes h paths =>
    rw [← List.append_assoc, ← List.append_assoc]
    exact .dashes (.cons hfirst h) paths

/-- An argument that has begun: no word yet, or a word whose option waits for its value. -/
inductive Begun : List String → List Occurrence → Option Valued → Prop
  | nothing : Begun [] [] none
  | waiting {word : String} {os : List Occurrence} {o : Valued} (h : WordSays word os (some o)) :
    Begun [word] os (some o)

/-- What is read behind an argument that has begun is written there, by induction on the words. -/
lemma Begun.written (h : Begun first os waiting) (hok : .wrong ∉ readWords waiting words) :
    Written (first ++ words) (os ++ readWords waiting words) := by
  fun_induction readWords waiting words generalizing first os with
  | case1 =>
    cases h
    exact .arguments .nil
  | case2 => exact absurd hok (by simp)
  | case3 o value words hvalue ih =>
    cases h with
    | waiting h =>
      have hrest := ih .nothing fun hmem => hok (List.mem_cons_of_mem _ hmem)
      simpa using Written.cons (.withValue h hvalue) hrest
  | case4 => exact absurd hok (by simp)
  | case5 words =>
    cases h
    exact .dashes .nil words
  | case6 word words hword said next hread ih =>
    cases h
    rw [List.mem_append, not_or] at hok
    have hsays := readWord_eq_iff.1 ⟨hword, hread, hok.1⟩
    cases next with
    | none =>
      have hall := Written.cons (.word hsays) (ih .nothing hok.2)
      exact hall
    | some o => exact ih (.waiting hsays) hok.2

/-- **Command lines are read as they are written.** -/
theorem written_iff : Written words os ↔ readWords none words = os ∧ .wrong ∉ os := by
  constructor
  · intro h
    cases h with
    | arguments h =>
      obtain ⟨hread, hok⟩ := h.readWords_append []
      exact ⟨by simpa [readWords] using hread, hok⟩
    | @dashes words os h paths =>
      obtain ⟨hread, hok⟩ := h.readWords_append ("--" :: paths)
      exact ⟨by rw [hread, readWords, if_pos rfl], by simpa using hok⟩
  · rintro ⟨rfl, hok⟩
    exact Begun.nothing.written hok

end AslBuild.CommandLine
