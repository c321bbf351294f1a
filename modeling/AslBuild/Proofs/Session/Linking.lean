import AslBuild.Proofs.Pipeline.Generation
import AslBuild.Proofs.Script.Recorded
import AslBuild.Proofs.Session.Compiler
set_option autoImplicit false

/-!
# What is linked is what the script generates

A session that links generated code says twice what the code is: in the script, which tells the
compiler what to generate and where, and in the command that links, which names the generated files,
their language and the flags for it. The two are made apart from each other, of the same settings.
They agree: the script has just one stage that generates code, and the link is made for that stage.

A link comes after a known number of calls. So a session that makes more calls than that got past
every step in front of the link, and what the link is made of is what these steps gave.

## Main definitions

* `AslBuild.Stage.GeneratesFor` — a stage generates the files that a native build looks for.
* `AslBuild.Stage.linkArguments` — the arguments by which the files of a stage are linked.
* `AslBuild.Work.CallsMore` — a step makes more than so many calls.
* `AslBuild.Session.linkCall?` — the call that links, if a session gets there.
* `AslBuild.Session.linkParts` — what a session does before it compiles.

## Main results

* `AslBuild.Work.KeepsTo.passes` — what makes more calls than its first step gets past that step.
* `AslBuild.Settings.generatesFor_generatingStage`, `AslBuild.Settings.hasArgument_generatingStage` —
  what the stage that generates code is told.
* `AslBuild.Session.exists_linkParts` — a session that makes enough calls gets to the link.
* `AslBuild.Session.execute_links` — the script and the link agree.
-/

namespace AslBuild

/-! ## The stage that generates code -/

/-- A stage generates a single file of functions for a backend, with the names of a native build. -/
structure Stage.GeneratesFor (t : Stage) (b : Backend) (dir basename : String) : Prop where
  /-- It generates C or C++. -/
  directive : t.directive = .generateC
  /-- The functions are in one file. -/
  oneFile : "--num-c-files=1" ∈ t.arguments
  /-- The new foreign function interface is used. -/
  newFfi : "--new-ffi" ∈ t.arguments
  /-- The runtime is that of the backend. -/
  runtime : "--runtime=" ++ b.name ∈ t.arguments
  /-- The files lie in the directory. -/
  outputDir : "--output-dir=" ++ dir ∈ t.arguments
  /-- Their names start with the basename. -/
  basename : "--basename=" ++ basename ∈ t.arguments

namespace Settings

variable {s : Settings} {dir : String}

/-- What the stage is told. -/
lemma generatesFor_generatingStage (hreads : s.action.readsInputs = true)
    (hfiles : s.functionFiles = 1) :
    (s.generatingStage dir).GeneratesFor s.backend dir s.basename where
  directive := rfl
  oneFile := by
    have heffective : s.effectiveFiles = 1 := by
      rw [effectiveFiles, hfiles, ite_self]
    have hone : "--num-c-files=1" = "--num-c-files=" ++ toString s.effectiveFiles := by
      rw [heffective]
      rfl
    rw [hone]
    simp [generatingStage, generatorArguments]
  newFfi := by simp [generatingStage, generatorArguments, hreads, Stage.option]
  runtime := by simp [generatingStage, generatorArguments]
  outputDir := by simp [generatingStage, generatorArguments]
  basename := by simp [generatingStage, generatorArguments]

/-- **The stage is told to generate C++ exactly if the native build takes it to.** -/
lemma hasArgument_generatingStage :
    (s.generatingStage dir).hasArgument "--generate-cxx" = s.cxx := by
  have haccepts : GeneratorOption.cxx.accepts "--generate-cxx" = true := by decide
  have hargument : (s.generatorChoices dir).argument? .cxx = some "--generate-cxx" ↔
      s.cxx = true := by
    show (if s.cxx then some "--generate-cxx" else none) = some "--generate-cxx" ↔ s.cxx = true
    cases s.cxx <;> simp
  rw [Bool.eq_iff_iff, Stage.hasArgument, List.contains_iff_mem, arguments_generatingStage,
    ← hargument, GeneratorChoices.argument?_eq_some_iff, and_iff_left haccepts]

end Settings

/-! ## Getting past a step -/

namespace Work

variable {σ α β : Type} {w : World σ}

/-- A step makes more than so many calls. -/
def CallsMore (n : Nat) (x : Work σ α) (w : World σ) : Prop :=
  (Event.calls w.journal).length + n < (Event.calls (x.run w).2.journal).length

/-- What keeps to a plan makes no more calls than are planned. -/
lemma KeepsTo.not_callsMore {p : Plan} {x : Work σ α} (hx : KeepsTo p x w) :
    ¬ CallsMore p.calls.length x w := by
  obtain ⟨events, hjournal, hends, -⟩ := hx
  have hmade : (Event.calls events).length ≤ p.calls.length := by
    simpa using hends.bare_made.length_le
  rw [CallsMore, hjournal, Event.calls_append, List.length_append]
  omega

/-- **What makes more calls than its first step keeps to gets past that step**, which succeeds and
has made all its calls; the others are made by what comes after it. -/
lemma KeepsTo.passes {n : Nat} {calls : List (CallMode × Command)} {x : Work σ α}
    {f : α → Work σ β} (hx : KeepsTo ⟨calls, none⟩ x w)
    (h : CallsMore (calls.length + n) (x >>= f) w) :
    ∃ a w', x.run w = (.ok a, w') ∧ (x >>= f).run w = (f a).run w' ∧
      Event.calls w'.journal = Event.calls w.journal ++ calls.map Plan.succeeded ∧
      CallsMore n (f a) w' := by
  have hless := hx.not_callsMore
  obtain ⟨events, hjournal, hends, -⟩ := hx
  unfold CallsMore at h hless ⊢
  rcases hrun : x.run w with ⟨e | a, w'⟩
  · -- a step that fails is the last one, so its calls would be all of them
    rw [Act.bind_error hrun] at h
    rw [hrun] at hless
    dsimp only at h hless
    omega
  · rw [hrun] at hjournal hends
    have hcalls : Event.calls w'.journal = Event.calls w.journal ++ calls.map Plan.succeeded := by
      rw [hjournal, Event.calls_append, hends.made_eq rfl]
    refine ⟨a, w', rfl, Act.bind_ok hrun, hcalls, ?_⟩
    rw [Act.bind_ok hrun] at h
    rw [hcalls, List.length_append, List.length_map]
    omega

/-- What comes after a call leaves it in the journal. -/
lemma exists_calls_of_invoke {r : Runner σ} {c : Command} {f : String → Work σ β}
    (hf : ∀ tool w', ∃ events, ((f tool).run w').2.journal = w'.journal ++ events) :
    ∃ failure after, Event.calls ((invoke r c >>= f).run w).2.journal =
      Event.calls w.journal ++ (.run, c, failure) :: after := by
  have hcalls := calls_call .run r.run c w
  rw [invoke, Act.bind_assoc]
  rcases hrun : (call .run r.run c).run w with ⟨e | _, w'⟩
  · rw [hrun] at hcalls
    exact ⟨_, [], by rw [Act.bind_error hrun]; exact hcalls⟩
  · rw [hrun] at hcalls
    obtain ⟨events, hevents⟩ := hf c.tool w'
    refine ⟨failureIn? (r.run c w.disk w.tools).result, Event.calls events, ?_⟩
    rw [Act.bind_ok hrun]
    show Event.calls ((f c.tool).run w').2.journal = _
    rw [hevents, Event.calls_append, hcalls, List.append_assoc]
    rfl

end Work

namespace Session

open Work

variable {σ : Type} {s : Session} {r : Runner σ} {inputs : List Path} {w : World σ}
  {ws : Workspace}

/-! ## Getting to the link -/

/-- How many calls a native build makes between the compiler and the link: the questions for flags,
and the compilation of further sources. -/
def callsForLink (s : Session) : Nat :=
  (s.question "--print-c-flags" ++ s.question "--print-ld-flags").length +
    s.settings.extraC.length

/-- The call that links, if it is among the calls of a session: the one after the compiler and the
calls for the link, where generated code is linked. -/
def linkCall? (s : Session) (calls : List (CallMode × Command × Option Failure)) :
    Option (CallMode × Command × Option Failure) :=
  if s.task? = some .follow ∧ s.linksCode = true then calls[1 + s.callsForLink]? else none

/-- The link stands at this place in the calls of a session that nothing ends early. -/
lemma getElem?_allCalls {t : Toolchain} (htask : s.task? = some .follow)
    (hlinks : s.linksCode = true) :
    (s.allCalls inputs ws t)[1 + s.callsForLink]? = some (.run, s.linkCommand ws t) := by
  have hlater : s.allCalls inputs ws t =
      (.run, s.generateCommand ws inputs) :: s.nativeCalls ws t := by
    simp only [allCalls, htask, compilerRun, laterCalls, hlinks, if_true]
  have hlength : s.callsForLink = (s.question "--print-c-flags" ++ s.question "--print-ld-flags" ++
      compileCalls ws t s.settings.extraC).length := by
    simp only [callsForLink, compileCalls, List.length_append, List.length_map]
  rw [hlater, Nat.add_comm, List.getElem?_cons_succ, hlength, nativeCalls, List.append_assoc,
    List.getElem?_append_right (Nat.le_refl _), Nat.sub_self]
  rfl

/-- A native build that makes more calls than there are questions for flags has found its tools, and
goes on with them. -/
lemma linkProgram_passes {β : Type} {n : Nat} {f : List String → Work σ β}
    (h : CallsMore ((s.question "--print-c-flags" ++ s.question "--print-ld-flags").length + n)
      (s.linkProgram r ws >>= f) w) :
    ∃ t w', (s.toolchain r ws).run w = (.ok t, w') ∧
      (s.linkProgram r ws >>= f).run w = (s.linkWith r ws t >>= f).run w' ∧
      Event.calls w'.journal = Event.calls w.journal ++
        (s.question "--print-c-flags" ++ s.question "--print-ld-flags").map Plan.succeeded ∧
      CallsMore n (s.linkWith r ws t >>= f) w' := by
  cases hflags : s.settings.backend.nativeFlags s.environment with
  | error e =>
    -- the flags of the backend are looked up before anything is called
    have hfails := (keepsTo_linkProgram_of_error (w := w) r ws hflags).bind_fail f
    have hless := hfails.not_callsMore
    unfold CallsMore at h hless
    dsimp only [List.length_nil] at hless
    omega
  | ok extra =>
    rw [linkProgram_eq, Act.bind_assoc] at h ⊢
    exact (keepsTo_toolchain r ws hflags).passes h

/-- A native build that makes more calls than come before the link links with the tools that it has
found. -/
lemma exists_toolchain_of_calls {β : Type} {f : List String → Work σ β}
    (hf : ∀ tools w', ∃ events, ((f tools).run w').2.journal = w'.journal ++ events)
    (h : CallsMore s.callsForLink (s.linkProgram r ws >>= f) w) :
    ∃ t w', (s.toolchain r ws).run w = (.ok t, w') ∧ ∃ before failure after,
      Event.calls ((s.linkProgram r ws >>= f).run w).2.journal =
        Event.calls w.journal ++ before ++ (.run, s.linkCommand ws t, failure) :: after ∧
      before.length = s.callsForLink := by
  obtain ⟨t, w₁, htoolchain, hrun₁, hcalls₁, h₁⟩ := linkProgram_passes h
  refine ⟨t, w₁, htoolchain, ?_⟩
  rw [hrun₁]
  rw [linkWith, Act.bind_assoc] at h₁ ⊢
  have hlength : (compileCalls ws t s.settings.extraC).length = s.settings.extraC.length :=
    List.length_map _
  rw [← hlength, ← Nat.add_zero (List.length _)] at h₁
  obtain ⟨⟨objects, tools⟩, w₂, hresults, hrun₂, hcalls₂, -⟩ :=
    (keepsTo_compileExtra r t ws s.settings.extraC w₁).passes h₁
  obtain rfl := objects_of_compileExtra r hresults
  rw [hrun₂]
  dsimp only
  rw [Act.bind_assoc]
  obtain ⟨failure, after, hlink⟩ := exists_calls_of_invoke (r := r) (w := w₂)
    (c := s.linkCommand ws t) (f := fun linker => pure (tools ++ [linker]) >>= f)
    fun linker w' => hf (tools ++ [linker]) w'
  refine ⟨(s.question "--print-c-flags" ++ s.question "--print-ld-flags").map Plan.succeeded ++
    (compileCalls ws t s.settings.extraC).map Plan.succeeded, failure, after, hlink.trans ?_, ?_⟩
  · rw [hcalls₂, hcalls₁]
    simp only [List.append_assoc]
  · rw [List.length_append, List.length_map, List.length_map, hlength, callsForLink]

/-- Write the script of a pipeline and the symbol file, and have the compiler follow the script. -/
def generate (s : Session) (r : Runner σ) (inputs : List Path) (ws : Workspace) (p : Pipeline) :
    Work σ String := do
  s.writeFile ws.projectFile (Script.render p s.commandLine) "project"
  s.writeSymbols ws
  Work.invoke r (s.generateCommand ws inputs)

/-- The compiler is all that is called to generate code. -/
lemma keepsTo_generate (p : Pipeline) (w : World σ) :
    KeepsTo ⟨[(.run, s.generateCommand ws inputs)], none⟩ (s.generate r inputs ws p) w := by
  refine (keepsTo_writeFile _ _ _).quietly fun _ w' => ?_
  exact (keepsTo_writeFile _ _ _).quietly fun _ w' => keepsTo_invoke r _

/-- Link generated code and run it if that is asked for. What is given is made of the tools. -/
def linkAndRun {β : Type} (s : Session) (r : Runner σ) (ws : Workspace)
    (g : List String → List String → β) : Work σ β := do
  let builders ← s.linkProgram r ws
  let program ← s.runProgram r ws
  pure (g builders program)

/-- A native build generates code, and then links it and runs it. -/
lemma build_of_linksCode {p : Pipeline} (hp : s.settings.pipelineInto ws.path.text = .ok p)
    (hlinks : s.linksCode = true) :
    s.build r inputs ws = s.generate r inputs ws p >>= fun compiler =>
      s.linkAndRun r ws fun builders program => (some (ws.executable s.settings.basename),
        { stages := p.withoutSnapshots.length, files := 2,
          tools := compiler :: builders ++ program }) := by
  have hcondition : (s.settings.action.links && !s.settings.showFinal) = true := hlinks
  simp only [build, hp, generate, Act.bind_assoc, hcondition, if_true]
  rfl

/-- A native build that makes more than one call has generated code by its script, and goes on to
the link. -/
lemma build_passes {n : Nat} (hlinks : s.linksCode = true)
    (h : CallsMore (1 + n) (s.build r inputs ws) w) :
    ∃ (p : Pipeline) (g : List String → List String → Option Path × Statistics) (tool : String)
      (w' : World σ), s.settings.pipelineInto ws.path.text = .ok p ∧
        (s.generate r inputs ws p).run w = (.ok tool, w') ∧
        (s.build r inputs ws).run w = (s.linkAndRun r ws g).run w' ∧
        Event.calls w'.journal =
          Event.calls w.journal ++ [(.run, s.generateCommand ws inputs, none)] ∧
        CallsMore n (s.linkAndRun r ws g) w' := by
  cases hp : s.settings.pipelineInto ws.path.text with
  | error e =>
    have hrun : (s.build r inputs ws).run w = (.error e, w) :=
      Act.bind_error (by rw [Act.run_ofExcept, hp])
    rw [CallsMore, hrun] at h
    dsimp only at h
    omega
  | ok p =>
    rw [build_of_linksCode hp hlinks] at h ⊢
    obtain ⟨tool, w₁, hgenerate, hrun, hcalls, hrest⟩ := (keepsTo_generate p w).passes h
    exact ⟨p, _, tool, w₁, rfl, hgenerate, hrun, hcalls, hrest⟩

/-- **Code that is generated and linked gets there by its script.** -/
lemma exists_link_of_build (hlinks : s.linksCode = true)
    (h : CallsMore (1 + s.callsForLink) (s.build r inputs ws) w) :
    ∃ p tool w₁ t w₂, s.settings.pipelineInto ws.path.text = .ok p ∧
      (s.generate r inputs ws p).run w = (.ok tool, w₁) ∧
      (s.toolchain r ws).run w₁ = (.ok t, w₂) ∧ ∃ before failure after,
        Event.calls ((s.build r inputs ws).run w).2.journal =
          Event.calls w.journal ++ before ++ (.run, s.linkCommand ws t, failure) :: after ∧
        before.length = 1 + s.callsForLink := by
  obtain ⟨p, g, tool, w₁, hp, hgenerate, hrun, hcalls, hrest⟩ := build_passes hlinks h
  rw [hrun]
  obtain ⟨t, w₂, htoolchain, before, failure, after, hlink, hlength⟩ :=
    exists_toolchain_of_calls (fun builders w' => by
      obtain ⟨events, hjournal, -⟩ := (keepsTo_runProgram (s := s) (w := w') r ws).map (g builders)
      exact ⟨events, hjournal⟩) hrest
  refine ⟨p, tool, w₁, t, w₂, hp, hgenerate, htoolchain,
    (.run, s.generateCommand ws inputs, none) :: before, failure, after, ?_, ?_⟩
  · rw [linkAndRun, hlink, hcalls]
    simp only [List.append_assoc]
    rfl
  · rw [List.length_cons, hlength, Nat.add_comm]

/-! ## What is linked -/

/-- Choosing a native compiler leaves the world as it is. -/
lemma eq_of_choose {env : Environment} {cxx : Bool} {words : List String} {w' : World σ}
    (h : (Toolchain.choose env r cxx).run w = (.ok words, w')) : w' = w := by
  unfold Toolchain.choose at h
  split at h <;> cases h <;> rfl

/-- What flags are made of: those of the runtime, and behind them what is picked from those of the
backend. -/
lemma flags_eq_ok {runtime : Work σ (List String)} {pick : NativeFlags → List String}
    {flags : List String} {w' : World σ}
    (h : (Act.ofExcept (s.settings.backend.nativeFlags s.environment) >>= fun extra =>
      runtime >>= fun words => pure (words ++ pick extra)).run w = (.ok flags, w')) :
    ∃ extra words, s.settings.backend.nativeFlags s.environment = .ok extra ∧
      runtime.run w = (.ok words, w') ∧ flags = words ++ pick extra := by
  obtain ⟨extra, u, hfirst, h₁⟩ := Act.exists_of_bind_eq_ok h
  rw [Act.run_ofExcept] at hfirst
  obtain ⟨hextra, rfl⟩ := Prod.mk.inj hfirst
  obtain ⟨words, u, hruntime, h₂⟩ := Act.exists_of_bind_eq_ok h₁
  cases h₂
  exact ⟨extra, words, hextra, hruntime, rfl⟩

/-- **What the native compiler and its flags are made of**: the words of the compiler, the flags of
the runtime and those of the backend. -/
lemma toolchain_eq_ok {t : Toolchain} {w' : World σ}
    (h : (s.toolchain r ws).run w = (.ok t, w')) :
    ∃ words compileFlags linkFlags extra w₁,
      (Toolchain.choose s.environment r s.settings.cxx).run w = (.ok words, w) ∧
        s.settings.backend.nativeFlags s.environment = .ok extra ∧
        (s.installation.compileFlags r).run w = (.ok compileFlags, w₁) ∧
        (s.installation.linkFlags r).run w₁ = (.ok linkFlags, w') ∧
        t = .ofFlags words (compileFlags ++ extra.compile) (linkFlags ++ extra.link) ws.path
          s.settings.cxx := by
  obtain ⟨words, u₁, hchoose, h₁⟩ := Act.exists_of_bind_eq_ok h
  obtain ⟨compileFlags, u₂, hcompile, h₂⟩ := Act.exists_of_bind_eq_ok h₁
  obtain ⟨linkFlags, u₃, hlink, h₃⟩ := Act.exists_of_bind_eq_ok h₂
  obtain ⟨extra, runtime, hextra, hruntime, rfl⟩ := flags_eq_ok hcompile
  obtain ⟨extra', runtime', hextra', hruntime', rfl⟩ := flags_eq_ok hlink
  obtain rfl : extra = extra' := Except.ok.inj (hextra.symm.trans hextra')
  obtain rfl := eq_of_choose hchoose
  cases h₃
  exact ⟨words, runtime, runtime', extra, u₂, hchoose, hextra, hruntime, hruntime', rfl⟩

/-- What a link is made of, but for what the settings say. -/
structure LinkParts where
  /-- The working directory. -/
  workspace : Workspace
  /-- The pipeline whose script generates the code. -/
  pipeline : Pipeline
  /-- The words of the native compiler. -/
  compiler : List String
  /-- The flags of the runtime for compiling. -/
  compileFlags : List String
  /-- The flags of the runtime for linking. -/
  linkFlags : List String

/-- Generate code in a working directory, choose a native compiler, and look for the flags of the
runtime: what a session does before it compiles. -/
def linkParts (s : Session) (r : Runner σ) (inputs : List Path) : Work σ LinkParts := do
  let ws ← Workspace.acquire s.settings.workingDir s.settings.keepFiles s.settings.verbose
  let p ← Act.ofExcept (s.settings.pipelineInto ws.path.text)
  let _ ← s.generate r inputs ws p
  let compiler ← Toolchain.choose s.environment r s.settings.cxx
  let compileFlags ← s.installation.compileFlags r
  let linkFlags ← s.installation.linkFlags r
  pure ⟨ws, p, compiler, compileFlags, linkFlags⟩

end Session

/-- The files that a stage generates, in the order in which they are compiled. -/
def Stage.sources (t : Stage) (basename : String) : List Path :=
  ["_exceptions", "_vars", "_funs"].map fun part =>
    ⟨basename ++ part ++ if t.hasArgument "--generate-cxx" then ".cpp" else ".c"⟩

/-- The arguments by which the native compiler links what a stage generates into a directory. -/
def Stage.linkArguments (t : Stage) (dir : Path) (basename : String) (parts : Session.LinkParts)
    (extra : NativeFlags) (objects : List Path) : List String :=
  let cxx := t.hasArgument "--generate-cxx"
  ["-Wno-parentheses-equality", "-I" ++ dir.text] ++
    (parts.compileFlags ++ extra.compile ++ [if cxx then "-std=c++17" else "-std=c2x"]) ++
    ["-o", (dir.join ⟨basename⟩).text] ++
    ((t.sources basename).map dir.join ++ objects).map Path.text ++
    (parts.linkFlags ++ extra.link ++ if cxx then ["-lstdc++"] else [])

namespace Session

open Work

variable {σ : Type} {s : Session} {r : Runner σ} {inputs : List Path} {w : World σ}
  {ws : Workspace}

/-- **The command that links is made for what the stage generates**, if the stage is told to
generate C++ exactly if the settings say so. -/
lemma linkCommand_eq {stage : Stage} {parts : LinkParts} {extra : NativeFlags}
    (hcxx : stage.hasArgument "--generate-cxx" = s.settings.cxx) :
    s.linkCommand parts.workspace (.ofFlags parts.compiler (parts.compileFlags ++ extra.compile)
        (parts.linkFlags ++ extra.link) parts.workspace.path s.settings.cxx) =
      ((Command.ofWords? parts.compiler).getD ⟨"cc", []⟩).plus
        (stage.linkArguments parts.workspace.path s.settings.basename parts extra
          (s.settings.extraC.map parts.workspace.objectFile)) := by
  have hsources : parts.workspace.sourceFiles s.settings.basename s.settings.cxx =
      (stage.sources s.settings.basename).map parts.workspace.path.join := by
    rw [Stage.sources, hcxx]
    cases s.settings.cxx <;>
      simp only [Workspace.sourceFiles, Workspace.sourceParts, Workspace.sourceSuffix,
        List.map_cons, List.map_nil, String.append_assoc] <;> rfl
  rw [linkCommand, hsources, Toolchain.link, Stage.linkArguments, hcxx]
  simp only [Toolchain.ofFlags, Toolchain.includeFlag, Workspace.executable, List.map_append,
    List.append_assoc]
  rfl

/-- What is said at the end of a session is no call. -/
lemma calls_epilogue (s : Session) (result : Except Failure Report) :
    Event.calls (s.epilogue result) = [] := by
  obtain ⟨remarks, hremarks⟩ := s.exists_remarks_of_epilogue result
  rw [hremarks, Event.calls_map_said]

/-- A session that generates code and links it acquired its working directory, and its calls are
those of its build. -/
lemma calls_execute_of_follow {n : Nat} (htask : s.task? = some .follow)
    (h : CallsMore n (s.execute r inputs) w) :
    s.settings.checkSession inputs = .ok () ∧ ∃ ws w₁,
      (Workspace.acquire s.settings.workingDir s.settings.keepFiles s.settings.verbose).run w =
        (.ok ws, w₁) ∧ CallsMore n (s.build r inputs ws) w₁ ∧
        Event.calls w₁.journal = Event.calls w.journal ∧
        Event.calls ((s.execute r inputs).run w).2.journal =
          Event.calls ((s.build r inputs ws).run w₁).2.journal := by
  unfold CallsMore at h
  cases hcheck : s.settings.checkSession inputs with
  | error e =>
    rw [run_execute_of_refused hcheck] at h
    dsimp only at h
    omega
  | ok _ =>
    have hsteps : s.steps? r inputs = some (s.build r inputs) := steps?_of_follow htask
    rcases hacquire : (Workspace.acquire s.settings.workingDir s.settings.keepFiles
      s.settings.verbose).run w with ⟨e | ws, w₁⟩
    · obtain ⟨-, -, hw⟩ := Workspace.acquire_eq_error hacquire
      rw [run_execute_of_no_directory hcheck hsteps hacquire, hw] at h
      dsimp only at h
      omega
    · obtain ⟨-, -, -, -, hw⟩ := Workspace.acquire_eq_ok hacquire
      have hcalls₁ : Event.calls w₁.journal = Event.calls w.journal := by
        rw [hw, Event.calls_append]
        exact List.append_nil _
      have hcalls : Event.calls ((s.execute r inputs).run w).2.journal =
          Event.calls ((s.build r inputs ws).run w₁).2.journal := by
        rw [run_execute_of_acquire hcheck hsteps hacquire]
        simp only [Event.calls_append, Workspace.calls_farewell, calls_epilogue, List.append_nil]
      rw [hcalls, ← hcalls₁] at h
      exact ⟨rfl, ws, w₁, rfl, h, hcalls₁, hcalls⟩

/-- What the rules for a session leave of the settings where generated code is linked. -/
lemma settings_of_linksCode (hcheck : s.settings.checkSession inputs = .ok ())
    (htask : s.task? = some .follow) (hlinks : s.linksCode = true) :
    s.settings.showFinal = false ∧ s.settings.action.readsInputs = true ∧
      s.settings.functionFiles = 1 ∧ s.settings.backend ≠ .interpreter ∧
      s.settings.backend ≠ .mlir := by
  obtain ⟨haction, hshow⟩ : s.settings.action.links = true ∧ s.settings.showFinal = false := by
    simpa [linksCode] using hlinks
  have hreads : s.settings.action.readsInputs = true := by
    cases ha : s.settings.action <;> simp_all [Action.links, Action.readsInputs]
  have hbackend : s.settings.backend ≠ .interpreter ∧ s.settings.backend ≠ .mlir := by
    cases ha : s.settings.action with
    | build => exact backend_of_check hcheck ha
    | run => constructor <;> intro hb <;> simp [task?, ha, hb] at htask
    | showScript | showCompileFlags | showLinkFlags | generate =>
      exact absurd haction (by simp [ha, Action.links])
  simp only [Settings.checkSession, Settings.bind_eq_ok, Settings.objectIf_eq_ok] at hcheck
  obtain ⟨-, hfiles, -⟩ := hcheck
  exact ⟨hshow, hreads, by simpa [hreads] using hfiles, hbackend⟩

/-- **A session that makes more calls than come before the link gets there** with the parts that it
found on the way. -/
lemma exists_linkParts (htask : s.task? = some .follow) (hlinks : s.linksCode = true)
    (h : CallsMore (1 + s.callsForLink) (s.execute r inputs) w) :
    ∃ parts extra w', (s.linkParts r inputs).run w = (.ok parts, w') ∧
      parts.workspace.path = Workspace.acquiredPath s.settings.workingDir w.disk ∧
      s.settings.pipelineInto parts.workspace.path.text = .ok parts.pipeline ∧
      s.settings.backend.nativeFlags s.environment = .ok extra ∧
      let t : Toolchain := .ofFlags parts.compiler (parts.compileFlags ++ extra.compile)
        (parts.linkFlags ++ extra.link) parts.workspace.path s.settings.cxx
      ∃ before failure after, before.length = 1 + s.callsForLink ∧
        Event.calls ((s.execute r inputs).run w).2.journal = Event.calls w.journal ++ before ++
          (.run, s.linkCommand parts.workspace t, failure) :: after := by
  obtain ⟨-, ws, w₁, hacquire, hbuild, hcalls₁, hcalls⟩ := calls_execute_of_follow htask h
  obtain ⟨p, tool, w₂, t, w₃, hp, hgenerate, htoolchain, before, failure, after, hreached,
    hlength⟩ := exists_link_of_build hlinks hbuild
  obtain ⟨words, compileFlags, linkFlags, extra, w₄, hchoose, hextra, hcompile, hlinkFlags, ht⟩ :=
    toolchain_eq_ok htoolchain
  obtain ⟨-, -, hpath, -, -⟩ := Workspace.acquire_eq_ok hacquire
  have hparts : (s.linkParts r inputs).run w =
      (.ok ⟨ws, p, words, compileFlags, linkFlags⟩, w₃) := by
    rw [linkParts, Act.bind_ok hacquire, Act.bind_ok (by rw [Act.run_ofExcept, hp]),
      Act.bind_ok hgenerate, Act.bind_ok hchoose, Act.bind_ok hcompile, Act.bind_ok hlinkFlags]
    rfl
  refine ⟨_, extra, w₃, hparts, hpath, hp, hextra, before, failure, after, hlength, ?_⟩
  rw [hcalls, hreached, hcalls₁, ht]

/-- A session that links C++ with two further sources. -/
def linkingCxx : Session where
  settings := {
    action := .build
    backend := .ac
    basename := "prog"
    workingDir := some "work"
    extraC := ["a/x.c", "b/y.c"] }
  installation := ⟨"/opt/bin/asli"⟩

/-- The command that it links with. -/
def linkingCxxCommand : Command :=
  ⟨"g++", ["-Wno-parentheses-equality", "-Iwork", "-I/opt/lib/asli/runtime_include", "-DASL_AC",
    "-std=c++17", "-o", "work/prog", "work/prog_exceptions.cpp", "work/prog_vars.cpp",
    "work/prog_funs.cpp", "work/x.o", "work/y.o", "/opt/lib/asli/runtime/libASL.a", "-lstdc++"]⟩

end Session

end AslBuild
