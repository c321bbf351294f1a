import AslBuild.Proofs.Session.Linking
import Mathlib.Data.List.Infix
set_option autoImplicit false

/-!
# The native compiler of a session

The words that start the commands of the native compiler are chosen once in a session, right after
the code is generated: those of a variable if it holds any, else the name of the first preferred
compiler that is found, else the usual name for the language. However they are chosen, there is at
least one, and each of them is a word. So the commands of the native compiler are made of these
words and of nothing that would stand in for them.

## Main definitions

* `AslBuild.Command.words` — the program of a command and its arguments.
* `AslBuild.Toolchain.Chosen` — what the words of the native compiler are.
* `AslBuild.Session.nativeCommands` — the commands of the native compiler among the calls of a
  session.
* `AslBuild.Session.chooseNative` — what a session does up to the choice of a native compiler.

## Main results

* `AslBuild.Toolchain.exists_chosen` — the words are chosen without doing anything.
* `AslBuild.Session.exists_native_calls` — a session that gets to its native commands makes them
  with the words that it has chosen.
* `AslBuild.Session.execute_native` — every compile and link command starts with these words.
-/

namespace AslBuild

/-! ## Words of commands -/

namespace Command

/-- The words of a command: its program, then its arguments. -/
def words (c : Command) : List String := c.program :: c.arguments

@[simp] lemma words_plus (c : Command) (arguments : List String) :
    (c.plus arguments).words = c.words ++ arguments := rfl

/-- A command that is made of words needs no other to stand in for it, and has these words. -/
lemma getD_ofWords? {words : List String} (h : words ≠ []) (other other' : Command) :
    (ofWords? words).getD other = (ofWords? words).getD other' ∧
      ((ofWords? words).getD other).words = words := by
  cases words with
  | nil => exact absurd rfl h
  | cons word words => exact ⟨rfl, rfl⟩

end Command

/-! ## The choice of a compiler -/

namespace Toolchain

/-- The variable for the native compiler names none: it is not set, or there are only blanks in
it. -/
def NamesNone (env : Environment) : Prop :=
  ∀ value, env.get? Environment.compiler = some value → ∀ c ∈ value.toList, Text.isBlank c = true

/-- What the words of the native compiler are, by what the variable says and by which programs are
found. -/
inductive Chosen (env : Environment) (found : String → Bool) (cxx : Bool) : List String → Prop
  /-- The variable says it. -/
  | named {value : String} (h : env.get? Environment.compiler = some value)
    (hword : ∃ c ∈ value.toList, Text.isBlank c = false) : Chosen env found cxx (Text.words value)
  /-- It is the first preferred one that is found. -/
  | first {name : String} {before after : List String} (h : NamesNone env)
    (hsplit : preferred = before ++ name :: after) (hbefore : ∀ n ∈ before, found n = false)
    (hname : found name = true) : Chosen env found cxx [name]
  /-- None is found, so it is the usual one for the language. -/
  | usual (h : NamesNone env) (hnone : ∀ n ∈ preferred, found n = false) :
    Chosen env found cxx [if cxx then "g++" else "gcc"]

variable {env : Environment} {found : String → Bool} {cxx : Bool} {words : List String} {σ : Type}

/-- The variable gives no words exactly if it names no compiler. -/
lemma override_eq_nil_iff : override env = [] ↔ NamesNone env := by
  unfold override NamesNone
  cases env.get? Environment.compiler with
  | none => simp
  | some value => simp [Text.words_eq_nil_iff]

/-- If the variable names no compiler, the first one that is found is taken. -/
lemma chosen_firstFound (h : NamesNone env) : Chosen env found cxx [firstFound found cxx] := by
  unfold firstFound
  cases hfound : preferred.find? found with
  | none => exact .usual h fun n hn => by simpa using List.find?_eq_none.1 hfound n hn
  | some name =>
    obtain ⟨hname, before, after, hsplit, hbefore⟩ := List.find?_eq_some_iff_append.1 hfound
    exact .first h hsplit (fun n hn => by simpa using hbefore n hn) hname

/-- **The words of the native compiler are chosen** without doing anything. -/
theorem exists_chosen (env : Environment) (r : Runner σ) (cxx : Bool) (w : World σ) :
    ∃ words, (choose env r cxx).run w = (.ok words, w) ∧
      Chosen env (fun name => (r.find name w.disk w.tools).isSome) cxx words := by
  unfold choose
  cases hwords : override env with
  | nil => exact ⟨_, rfl, chosen_firstFound (override_eq_nil_iff.1 hwords)⟩
  | cons word words =>
    refine ⟨word :: words, rfl, ?_⟩
    rw [← hwords]
    unfold override at hwords ⊢
    cases hvalue : env.get? Environment.compiler with
    | none => simp [hvalue] at hwords
    | some value =>
      rw [hvalue] at hwords
      refine .named hvalue ?_
      -- without such a character there would be no words
      by_contra hblank
      have hnone : Text.words value = [] := Text.words_eq_nil_iff.2 fun c hc => by
        by_contra hc'
        exact hblank ⟨c, hc, by simpa using hc'⟩
      exact absurd (hnone.symm.trans hwords) (by simp)

/-- There is at least one word, and each of them is a word. -/
lemma Chosen.isWord (h : Chosen env found cxx words) :
    words ≠ [] ∧ ∀ word ∈ words, Text.IsWord word := by
  cases h with
  | @named value _ hword =>
    constructor
    · intro hnone
      obtain ⟨c, hc, hblank⟩ := hword
      exact absurd (Text.words_eq_nil_iff.1 hnone c hc) (by simp [hblank])
    · intro word hmem
      obtain ⟨chars, hchars, rfl⟩ := List.mem_map.1 hmem
      exact Text.isWord_of_mem hchars
  | @first name before after _ hsplit =>
    have hpreferred : ∀ n ∈ preferred, Text.IsWord n := by decide
    exact ⟨by simp, List.forall_mem_singleton.2 (hpreferred name (by simp [hsplit]))⟩
  | usual =>
    refine ⟨by simp, List.forall_mem_singleton.2 ?_⟩
    cases cxx <;> decide

end Toolchain

/-! ## Native commands of a session -/

namespace Session

open Work

variable {σ : Type} {s : Session} {r : Runner σ} {inputs : List Path} {w : World σ}

/-- The commands of the native compiler among the calls of a session that generates code and links
it: they come behind the compiler's run and the questions for flags, one for each further source and
one for the link. -/
def nativeCommands (s : Session) (calls : List (CallMode × Command × Option Failure)) :
    List Command :=
  if s.task? = some .follow ∧ s.linksCode = true then
    ((calls.drop (1 + (s.question "--print-c-flags" ++ s.question "--print-ld-flags").length)).take
      (s.settings.extraC.length + 1)).map fun call => call.2.1
  else []

/-- The commands that a native compiler is planned to be given: compile each further source, and
link. -/
def plannedNative (s : Session) (ws : Workspace) (t : Toolchain) : List Command :=
  s.settings.extraC.map (fun source => t.compile source (ws.objectFile source)) ++
    [s.linkCommand ws t]

@[simp] lemma length_plannedNative (s : Session) (ws : Workspace) (t : Toolchain) :
    (s.plannedNative ws t).length = s.settings.extraC.length + 1 := by
  simp [plannedNative]

/-- Planned commands start with the words of the native compiler. -/
lemma words_of_mem_plannedNative {ws : Workspace} {t : Toolchain} {c : Command}
    (ht : t.compiler ≠ []) (hc : c ∈ s.plannedNative ws t) :
    ∃ arguments, c.words = t.compiler ++ arguments := by
  have hbase : t.base.words = t.compiler := (Command.getD_ofWords? ht _ ⟨"cc", []⟩).2
  rcases List.mem_append.1 hc with hc | hc
  · obtain ⟨source, -, rfl⟩ := List.mem_map.1 hc
    exact ⟨_, by rw [Toolchain.compile, Command.words_plus, hbase]⟩
  · obtain rfl := List.mem_singleton.1 hc
    exact ⟨_, by rw [linkCommand, Toolchain.link, Command.words_plus, hbase]⟩

/-- Generate code in a working directory, and choose a native compiler: what a session does before
its native commands, but for the questions for flags. -/
def chooseNative (s : Session) (r : Runner σ) (inputs : List Path) :
    Work σ (Workspace × List String) := do
  let ws ← Workspace.acquire s.settings.workingDir s.settings.keepFiles s.settings.verbose
  let p ← Act.ofExcept (s.settings.pipelineInto ws.path.text)
  let _ ← s.generate r inputs ws p
  let words ← Toolchain.choose s.environment r s.settings.cxx
  pure (ws, words)

/-- **A session that gets to its native commands** has chosen a native compiler right after it
generated code. It makes these commands one after the other, and perhaps runs the program then. -/
theorem exists_native_calls (htask : s.task? = some .follow) (hlinks : s.linksCode = true)
    (h : CallsMore (1 + (s.question "--print-c-flags" ++ s.question "--print-ld-flags").length)
      (s.execute r inputs) w) :
    ∃ (ws : Workspace) (t : Toolchain) (v : World σ)
      (made : List (CallMode × Command × Option Failure)),
      ws.path = Workspace.acquiredPath s.settings.workingDir w.disk ∧
        (s.chooseNative r inputs).run w = (.ok (ws, t.compiler), v) ∧
        (Toolchain.choose s.environment r s.settings.cxx).run v = (.ok t.compiler, v) ∧
        Event.calls v.journal =
          Event.calls w.journal ++ [(.run, s.generateCommand ws inputs, none)] ∧
        Event.calls ((s.execute r inputs).run w).2.journal = Event.calls v.journal ++
          (s.question "--print-c-flags" ++ s.question "--print-ld-flags").map Plan.succeeded ++
            made ∧
        made.map Plan.bare <+:
          (s.plannedNative ws t).map (fun c => (.run, c)) ++ s.programCalls ws := by
  obtain ⟨-, ws, w₁, hacquire, hbuild, hcalls₁, hcalls⟩ := calls_execute_of_follow htask h
  obtain ⟨-, -, hpath, -, -⟩ := Workspace.acquire_eq_ok hacquire
  obtain ⟨p, g, tool, w₂, hp, hgenerate, hrun₂, hcalls₂, hnative⟩ := build_passes hlinks hbuild
  obtain ⟨t, w₃, htoolchain, hrun₃, hcalls₃, -⟩ := linkProgram_passes (n := 0) hnative
  obtain ⟨words, compileFlags, linkFlags, extra, _, hchoose, -, -, -, rfl⟩ :=
    toolchain_eq_ok htoolchain
  set t : Toolchain := .ofFlags words (compileFlags ++ extra.compile) (linkFlags ++ extra.link)
    ws.path s.settings.cxx
  obtain ⟨events, hjournal, hends, -⟩ := (keepsTo_linkWith r ws t w₃).bind fun builders w' _ =>
    (keepsTo_runProgram (s := s) (w := w') r ws).map (g builders)
  refine ⟨ws, t, w₂, Event.calls events, hpath, ?_, hchoose, by rw [hcalls₂, hcalls₁], ?_, ?_⟩
  · rw [chooseNative, Act.bind_ok hacquire, Act.bind_ok (by rw [Act.run_ofExcept, hp]),
      Act.bind_ok hgenerate, Act.bind_ok hchoose]
    rfl
  · rw [hcalls, hrun₂, linkAndRun, hrun₃, hjournal, Event.calls_append, hcalls₃]
  · have hmade := hends.bare_made
    rw [compileCalls] at hmade
    simpa [plannedNative, Function.comp_def] using hmade

/-- What is called beside the native compiler: the compiler, the program that is linked, and the
tool that runs MLIR. -/
def CalledBeside (s : Session) (ws : Workspace) (c : Command) : Prop :=
  c.program = s.installation.program.text ∨
    c = ⟨(ws.executable s.settings.basename).text, []⟩ ∨ c = mlirProgram ws

/-- The questions for flags are put to the compiler. -/
lemma calledBeside_question {ws : Workspace} {flag : String} {call : CallMode × Command}
    (h : call ∈ s.question flag) : s.CalledBeside ws call.2 := by
  unfold question at h
  split at h
  · obtain rfl := List.mem_singleton.1 h
    exact Or.inl rfl
  · exact absurd h List.not_mem_nil

/-- The run of the program. -/
lemma calledBeside_programCalls {ws : Workspace} {call : CallMode × Command}
    (h : call ∈ s.programCalls ws) : s.CalledBeside ws call.2 := by
  unfold programCalls at h
  split at h
  · obtain rfl := List.mem_singleton.1 h
    exact Or.inr (Or.inl rfl)
  · exact absurd h List.not_mem_nil

/-- A session that does not get to native commands calls nothing of the kind. -/
lemma calledBeside_of_isPrefix {ws : Workspace} {t : Toolchain} {calls : List (CallMode × Command)}
    (hcalls : calls <+: s.allCalls inputs ws t)
    (h : s.task? = some .follow → s.linksCode = true →
      calls.length ≤ 1 + (s.question "--print-c-flags" ++ s.question "--print-ld-flags").length) :
    ∀ call ∈ calls, s.CalledBeside ws call.2 := by
  have hcompiler (task : CompilerTask) : s.CalledBeside ws (s.compilerRun inputs ws task) := by
    rw [compilerRun_eq]
    exact Or.inl rfl
  intro call hcall
  unfold allCalls at hcalls
  cases htask : s.task? with
  | none =>
    simp only [htask] at hcalls
    have hmem := hcalls.subset hcall
    unfold shownQuestion at hmem
    split at hmem
    · exact calledBeside_question hmem
    · exact calledBeside_question hmem
    · exact absurd hmem List.not_mem_nil
  | some task =>
    simp only [htask] at hcalls
    have hlater : call ∈ s.laterCalls ws t task → s.linksCode = false ∨ task ≠ .follow →
        s.CalledBeside ws call.2 := by
      intro hmem hnot
      cases task with
      | follow =>
        rw [laterCalls, if_neg (by simpa using hnot)] at hmem
        exact absurd hmem List.not_mem_nil
      | interpret => exact absurd hmem List.not_mem_nil
      | mlir =>
        obtain rfl := List.mem_singleton.1 hmem
        exact Or.inr (Or.inr rfl)
    by_cases hnative : s.linksCode = false ∨ task ≠ .follow
    · rcases List.mem_cons.1 (hcalls.subset hcall) with rfl | hmem
      · exact hcompiler task
      · exact hlater hmem hnative
    · obtain ⟨hlinks, rfl⟩ : s.linksCode = true ∧ task = .follow := by simpa using hnative
      -- there are no more calls than the compiler's run and the questions
      have hfirst : calls <+: (.run, s.compilerRun inputs ws .follow) ::
          (s.question "--print-c-flags" ++ s.question "--print-ld-flags") := by
        refine List.prefix_of_prefix_length_le hcalls ?_ ?_
        · rw [laterCalls, if_pos hlinks, nativeCalls, List.append_assoc, List.append_assoc]
          exact (List.prefix_cons_inj _).2 (List.prefix_append _ _)
        · rw [List.length_cons, Nat.add_comm]
          exact h htask hlinks
      rcases List.mem_cons.1 (hfirst.subset hcall) with rfl | hmem
      · exact hcompiler .follow
      · exact (List.mem_append.1 hmem).elim calledBeside_question calledBeside_question

/-! ## Calls of a session that gets to native commands

The calls are the compiler's run, the questions for flags, and then the first ones of the native
commands and the program's run. -/

section

variable {ws : Workspace} {t : Toolchain} {calls made : List (CallMode × Command × Option Failure)}

/-- The native commands come right behind the questions. -/
lemma nativeCommands_eq (htask : s.task? = some .follow) (hlinks : s.linksCode = true)
    (hcalls : calls = (.run, s.generateCommand ws inputs, none) ::
      (s.question "--print-c-flags" ++ s.question "--print-ld-flags").map Plan.succeeded ++ made) :
    s.nativeCommands calls =
      (made.take (s.settings.extraC.length + 1)).map fun call => call.2.1 := by
  rw [nativeCommands, if_pos ⟨htask, hlinks⟩, hcalls, List.drop_left' (by simp [Nat.add_comm])]

/-- There are none if there is no call behind the questions. -/
lemma nativeCommands_eq_nil
    (h : s.task? = some .follow → s.linksCode = true → calls.length ≤
      1 + (s.question "--print-c-flags" ++ s.question "--print-ld-flags").length) :
    s.nativeCommands calls = [] := by
  unfold nativeCommands
  split
  · next hnative =>
    rw [List.drop_eq_nil_of_le (h hnative.1 hnative.2), List.take_nil, List.map_nil]
  · rfl

/-- The native commands that are made are the first of the planned ones. -/
lemma native_isPrefix
    (hmade : made.map Plan.bare <+:
      (s.plannedNative ws t).map (fun c => (.run, c)) ++ s.programCalls ws) :
    (made.take (s.settings.extraC.length + 1)).map (fun call => call.2.1) <+:
      s.plannedNative ws t := by
  have hfirst := (hmade.take (s.settings.extraC.length + 1)).map Prod.snd
  rw [List.take_left' (by simp), ← List.map_take] at hfirst
  simpa [Function.comp_def, Plan.bare] using hfirst

/-- What is called behind native commands is the program. -/
lemma native_or_calledBeside
    (hmade : made.map Plan.bare <+:
      (s.plannedNative ws t).map (fun c => (.run, c)) ++ s.programCalls ws) :
    ∀ call ∈ made,
      call.2.1 ∈ (made.take (s.settings.extraC.length + 1)).map (fun call => call.2.1) ∨
        s.CalledBeside ws call.2.1 := by
  intro call hcall
  rw [← List.take_append_drop (s.settings.extraC.length + 1) made] at hcall
  rcases List.mem_append.1 hcall with hcall | hcall
  · exact Or.inl (List.mem_map_of_mem hcall)
  · have hrest := hmade.drop (s.settings.extraC.length + 1)
    rw [List.drop_left' (by simp), ← List.map_drop] at hrest
    exact Or.inr (calledBeside_programCalls (hrest.subset (List.mem_map_of_mem hcall)))

/-- What is called in front of them is the compiler. -/
lemma calledBeside_first {call : CallMode × Command × Option Failure}
    (h : call ∈ (.run, s.generateCommand ws inputs, none) ::
      (s.question "--print-c-flags" ++ s.question "--print-ld-flags").map Plan.succeeded) :
    s.CalledBeside ws call.2.1 := by
  rcases List.mem_cons.1 h with rfl | hquestion
  · exact Or.inl rfl
  · obtain ⟨question, hmem, rfl⟩ := List.mem_map.1 hquestion
    exact (List.mem_append.1 hmem).elim calledBeside_question calledBeside_question

end

/-! ## Main result -/

/-- **The choice of a native compiler reaches every native command.** In every world the words of
the native compiler are chosen without doing anything: the words of the variable if there is more
than blanks in it, whatever the runner finds; else the first preferred compiler that is found; else
the usual one for the language. There is at least one, and none is empty or has a blank.

The native commands of a session are compiles and a link, in this order, and all start with exactly
the words that the session chooses right after it generates code; another command never stands in
for them. Whatever else a session calls is the compiler, the program that was linked, or the tool
that runs MLIR. -/
theorem execute_native {σ : Type} (s : Session) (r : Runner σ) (inputs : List Path) (w : World σ) :
    (∀ (env : Environment) (cxx : Bool) (v : World σ), ∃ words,
      (Toolchain.choose env r cxx).run v = (.ok words, v) ∧
        Toolchain.Chosen env (fun name => (r.find name v.disk v.tools).isSome) cxx words ∧
        words ≠ [] ∧ ∀ word ∈ words, Text.IsWord word) ∧
      ∃ (events : List Event) (ws : Workspace) (t : Toolchain),
        ((s.execute r inputs).run w).2.journal = w.journal ++ events ∧
          ws.path = Workspace.acquiredPath s.settings.workingDir w.disk ∧
          (s.nativeCommands (Event.calls events) ≠ [] → ∃ v,
            (s.chooseNative r inputs).run w = (.ok (ws, t.compiler), v) ∧
              (Toolchain.choose s.environment r s.settings.cxx).run v = (.ok t.compiler, v) ∧
              Event.calls v.journal =
                Event.calls w.journal ++ [(.run, s.generateCommand ws inputs, none)]) ∧
          (∀ other, (Command.ofWords? t.compiler).getD other = t.base) ∧
          s.nativeCommands (Event.calls events) <+: s.plannedNative ws t ∧
          (∀ c ∈ s.nativeCommands (Event.calls events),
            ∃ arguments, c.words = t.compiler ++ arguments) ∧
          ∀ call ∈ Event.calls events,
            call.2.1 ∈ s.nativeCommands (Event.calls events) ∨ s.CalledBeside ws call.2.1 := by
  have hchoice (env : Environment) (cxx : Bool) (v : World σ) : ∃ words,
      (Toolchain.choose env r cxx).run v = (.ok words, v) ∧
        Toolchain.Chosen env (fun name => (r.find name v.disk v.tools).isSome) cxx words ∧
        words ≠ [] ∧ ∀ word ∈ words, Text.IsWord word := by
    obtain ⟨words, hrun, hchosen⟩ := Toolchain.exists_chosen env r cxx v
    exact ⟨words, hrun, hchosen, hchosen.isWord⟩
  refine ⟨hchoice, ?_⟩
  obtain ⟨ws, t, events, hpath, hjournal, hcalls, -, -⟩ := execute_calls s r inputs w
  by_cases hnative : s.task? = some .follow ∧ s.linksCode = true ∧
      CallsMore (1 + (s.question "--print-c-flags" ++ s.question "--print-ld-flags").length)
        (s.execute r inputs) w
  · obtain ⟨htask, hlinks, hmore⟩ := hnative
    obtain ⟨ws, t, v, made, hpath, hprepared, hchoose, hv, hall, hmade⟩ :=
      exists_native_calls htask hlinks hmore
    -- the choice at this point, so there is a word to start a command with
    obtain ⟨words, hwords, -, hne, -⟩ := hchoice s.environment s.settings.cxx v
    obtain rfl : t.compiler = words :=
      Except.ok.inj (congrArg Prod.fst (hchoose.symm.trans hwords))
    have hevents : Event.calls events = (.run, s.generateCommand ws inputs, none) ::
        (s.question "--print-c-flags" ++ s.question "--print-ld-flags").map Plan.succeeded ++
          made := by
      rw [hjournal, Event.calls_append, hv, List.append_assoc, List.append_assoc] at hall
      simpa using List.append_cancel_left hall
    refine ⟨events, ws, t, hjournal, hpath, fun _ => ⟨v, hprepared, hchoose, hv⟩,
      fun other => (Command.getD_ofWords? hne other _).1, ?_⟩
    rw [nativeCommands_eq htask hlinks hevents]
    refine ⟨native_isPrefix hmade,
      fun c hc => words_of_mem_plannedNative hne ((native_isPrefix hmade).subset hc), ?_⟩
    intro call hcall
    rw [hevents] at hcall
    exact (List.mem_append.1 hcall).elim (fun hfirst => Or.inr (calledBeside_first hfirst))
      (native_or_calledBeside hmade call)
  · -- too few calls for a native command, or of another kind
    have hfew (htask : s.task? = some .follow) (hlinks : s.linksCode = true) :
        (Event.calls events).length ≤
          1 + (s.question "--print-c-flags" ++ s.question "--print-ld-flags").length := by
      by_contra hmore
      refine hnative ⟨htask, hlinks, ?_⟩
      have hlength := @List.length_append _ (Event.calls w.journal) (Event.calls events)
      rw [CallsMore, hjournal, Event.calls_append, hlength]
      omega
    have hnone := nativeCommands_eq_nil hfew
    obtain ⟨words, -, -, hne, -⟩ := hchoice s.environment s.settings.cxx w
    refine ⟨events, ws, .ofFlags words [] [] ws.path s.settings.cxx, hjournal, hpath,
      fun h => absurd hnone h, fun other => (Command.getD_ofWords? hne other _).1, ?_⟩
    rw [hnone]
    refine ⟨List.nil_prefix, fun c hc => absurd hc List.not_mem_nil, fun call hcall => Or.inr ?_⟩
    refine calledBeside_of_isPrefix hcalls (fun htask hlinks => ?_) (Plan.bare call)
      (List.mem_map_of_mem hcall)
    rw [List.length_map]
    exact hfew htask hlinks

end Session

end AslBuild
