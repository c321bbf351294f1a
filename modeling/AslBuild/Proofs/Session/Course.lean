import AslBuild.Proofs.Session.Records
set_option autoImplicit false

/-!
# The course of a session

Which tools a session calls, and in which order, is known before it starts, but for the words that
start native commands and for flags that tools are asked for. So a session has a plan: a list of
calls, and perhaps a failure that stands at its end whatever the tools do. A session keeps to its
plan: it makes the calls one after the other, and may end early because a call fails or because of
the files.

## Main definitions

* `AslBuild.Plan` — calls, and the failure after them, if there is one.
* `AslBuild.Plan.Ends` — what may come of a plan: how things ended, and the calls that were made.
* `AslBuild.Work.KeepsTo` — a step does what is planned.
* `AslBuild.Session.plan` — the plan of a session.

## Main results

* `AslBuild.Session.keepsTo_execute` — every session keeps to its plan.
-/

namespace AslBuild

open FileSystem

/-! ## Plans -/

/-- Calls that are to be made one after the other, and the failure that stands at the end, if there
is one. -/
structure Plan where
  /-- The calls, each with its mode. -/
  calls : List (CallMode × Command)
  /-- The failure after the calls. -/
  failure : Option Failure := none

namespace Plan

/-- A call that was made and did not fail. -/
def succeeded (call : CallMode × Command) : CallMode × Command × Option Failure :=
  (call.1, call.2, none)

/-- What may come of a plan: why things ended, if they ended early, and the calls that were made. -/
inductive Ends (p : Plan) : Option Failure → List (CallMode × Command × Option Failure) → Prop
  /-- All calls were made, and the end is the planned one. -/
  | finished : p.Ends p.failure (p.calls.map succeeded)
  /-- A call failed, and its failure is passed on. -/
  | refused (before after : List (CallMode × Command)) (mode : CallMode) (c : Command)
      (e : Failure) : p.calls = before ++ (mode, c) :: after →
      p.Ends (some e) (before.map succeeded ++ [(mode, c, some e)])
  /-- The files failed. -/
  | broken (before after : List (CallMode × Command)) (path : Path) (cause : IoError) :
      p.calls = before ++ after → p.Ends (some (.workspace path cause)) (before.map succeeded)

/-- A plan with a call in front. -/
def cons (call : CallMode × Command) (p : Plan) : Plan := { p with calls := call :: p.calls }

/-- A plan for the case that something is there, else the failure that stands in its place. -/
def provided {α : Type} (x : Except Failure α) (p : Plan) : Plan :=
  match x with
  | .ok _ => p
  | .error e => ⟨[], some e⟩

@[simp] lemma provided_ok {α : Type} (a : α) (p : Plan) : provided (.ok a) p = p := rfl

@[simp] lemma provided_error {α : Type} (e : Failure) (p : Plan) :
    provided (.error e : Except Failure α) p = ⟨[], some e⟩ := rfl

variable {p q : Plan} {f : Option Failure}
  {made : List (CallMode × Command × Option Failure)} {calls : List (CallMode × Command)}

/-- If nothing ended early, all calls were made. -/
lemma Ends.made_eq (h : Ends ⟨calls, none⟩ f made) (hf : f = none) :
    made = calls.map succeeded := by
  cases h with
  | finished => rfl
  | refused | broken => exact absurd hf (by simp)

/-- A plan with a failure at its end does not end without one. -/
lemma Ends.ne_none {e : Failure} (h : Ends ⟨calls, some e⟩ f made) : f ≠ none := by
  cases h <;> simp

/-- What ended early stays so with further calls in the plan. -/
lemma Ends.extend (h : Ends ⟨calls, none⟩ f made) (hf : f ≠ none)
    (further : List (CallMode × Command)) (f' : Option Failure) :
    Ends ⟨calls ++ further, f'⟩ f made := by
  cases h with
  | finished => exact absurd rfl hf
  | refused before after mode c e hsplit =>
    have hsplit : calls = before ++ (mode, c) :: after := hsplit
    exact .refused before (after ++ further) mode c e (by rw [hsplit, List.append_assoc]; rfl)
  | broken before after path cause hsplit =>
    have hsplit : calls = before ++ after := hsplit
    exact .broken before (after ++ further) path cause (by rw [hsplit, List.append_assoc])

/-- What comes of a plan, with other calls in front that were made before. -/
lemma Ends.after (h : q.Ends f made) (calls : List (CallMode × Command)) :
    Ends ⟨calls ++ q.calls, q.failure⟩ f (calls.map succeeded ++ made) := by
  cases h with
  | finished =>
    rw [← List.map_append]
    exact .finished
  | refused before after mode c e hsplit =>
    rw [← List.append_assoc, ← List.map_append]
    exact .refused (calls ++ before) after mode c e (by rw [hsplit, List.append_assoc])
  | broken before after path cause hsplit =>
    rw [← List.map_append]
    exact .broken (calls ++ before) after path cause (by rw [hsplit, List.append_assoc])

/-- If a plan comes to its end, but the files fail then, that is the end. -/
lemma Ends.broken_after (h : p.Ends f made) (hf : f = none) (path : Path) (cause : IoError) :
    p.Ends (some (.workspace path cause)) made := by
  cases h with
  | finished => exact .broken p.calls [] path cause (List.append_nil _).symm
  | refused | broken => exact absurd hf (by simp)

/-- A call, without what came of it. -/
def bare (call : CallMode × Command × Option Failure) : CallMode × Command := (call.1, call.2.1)

/-- Without what came of them, calls that succeeded are the planned ones. -/
@[simp] lemma map_bare_succeeded (calls : List (CallMode × Command)) :
    (calls.map succeeded).map bare = calls := by
  rw [List.map_map]
  exact List.map_id calls

/-- The calls that were made are the first ones of the plan. -/
lemma Ends.bare_made (h : p.Ends f made) : made.map bare <+: p.calls := by
  cases h with
  | finished => simp only [map_bare_succeeded, List.prefix_rfl]
  | refused before after mode c e hsplit =>
    rw [List.map_append, map_bare_succeeded, hsplit]
    exact (List.prefix_append_right_inj before).2 (List.prefix_append [(mode, c)] after)
  | broken before after path cause hsplit =>
    rw [map_bare_succeeded, hsplit]
    exact List.prefix_append _ _

/-- All calls but the last one succeeded. -/
lemma Ends.dropLast_succeeded (h : p.Ends f made) : ∀ call ∈ made.dropLast, call.2.2 = none := by
  have hall (calls : List (CallMode × Command)) :
      ∀ call ∈ calls.map succeeded, call.2.2 = none := by
    intro call hmem
    obtain ⟨planned, -, rfl⟩ := List.mem_map.1 hmem
    rfl
  cases h with
  | finished => exact fun call hmem => hall _ call (List.dropLast_subset _ hmem)
  | refused before after mode c e hsplit =>
    rw [List.dropLast_concat]
    exact hall _
  | broken => exact fun call hmem => hall _ call (List.dropLast_subset _ hmem)

end Plan

/-! ## Keeping to a plan -/

namespace Work

open Plan

variable {σ α β : Type}

/-- A step does what is planned: the calls that it adds to the journal and its failure are what may
come of the plan, and the runner is told of nothing else. -/
def KeepsTo (p : Plan) (x : Work σ α) (w : World σ) : Prop :=
  ∃ events, (x.run w).2.journal = w.journal ++ events ∧
    p.Ends (failureIn? (x.run w).1) (Event.calls events) ∧
      (Event.calls events = [] → (x.run w).2.tools = w.tools)

variable {p q : Plan} {w : World σ} {calls : List (CallMode × Command)}

/-- A step that succeeds without calling a tool keeps to an empty plan. -/
lemma keepsTo_of_quiet {x : Work σ α} (events : List Event)
    (hjournal : (x.run w).2.journal = w.journal ++ events) (hcalls : Event.calls events = [])
    (htools : (x.run w).2.tools = w.tools)
    (hfailure : ∀ e, (x.run w).1 = .error e → ∃ path cause, e = .workspace path cause) :
    KeepsTo ⟨[], none⟩ x w := by
  refine ⟨events, hjournal, ?_, fun _ => htools⟩
  rw [hcalls]
  cases hresult : (x.run w).1 with
  | ok a => exact .finished
  | error e =>
    obtain ⟨path, cause, rfl⟩ := hfailure e hresult
    exact .broken [] [] path cause rfl

/-- A value keeps to an empty plan. -/
lemma keepsTo_pure (a : α) : KeepsTo ⟨[], none⟩ (pure a : Work σ α) w :=
  ⟨[], (List.append_nil _).symm, .finished, fun _ => rfl⟩

/-- A failure keeps to the plan that says just that. -/
lemma keepsTo_fail (e : Failure) : KeepsTo ⟨[], some e⟩ (Act.fail e : Work σ α) w :=
  ⟨[], (List.append_nil _).symm, .finished, fun _ => rfl⟩

/-- What is said is not planned. -/
lemma keepsTo_said (m : Remark) : KeepsTo ⟨[], none⟩ (note (.said m) : Work σ Unit) w :=
  ⟨[.said m], rfl, .finished, fun _ => rfl⟩

/-- **A sequence keeps to the plan of its parts**, where the plan of the second part may depend on
what came of the first one. -/
lemma KeepsTo.bind {x : Work σ α} {f : α → Work σ β} (hx : KeepsTo ⟨calls, none⟩ x w)
    (hf : ∀ a w', x.run w = (.ok a, w') → KeepsTo q (f a) w') :
    KeepsTo ⟨calls ++ q.calls, q.failure⟩ (x >>= f) w := by
  obtain ⟨events, hjournal, hends, htools⟩ := hx
  rcases hrun : x.run w with ⟨e | a, w'⟩
  · rw [hrun] at hjournal hends htools
    rw [KeepsTo, Act.bind_error hrun]
    exact ⟨events, hjournal, hends.extend (by simp [failureIn?]) _ _, htools⟩
  · rw [hrun] at hjournal hends htools
    obtain ⟨events', hjournal', hends', htools'⟩ := hf a w' hrun
    rw [KeepsTo, Act.bind_ok hrun]
    refine ⟨events ++ events', ?_, ?_, ?_⟩
    · rw [hjournal', hjournal, List.append_assoc]
    · rw [Event.calls_append, hends.made_eq rfl]
      exact hends'.after calls
    · rw [Event.calls_append]
      intro hnone
      obtain ⟨hfirst, hsecond⟩ := List.append_eq_nil_iff.1 hnone
      rw [htools' hsecond, htools hfirst]

/-- A first part that calls no tool leaves the plan to the second one. -/
lemma KeepsTo.quietly {x : Work σ α} {f : α → Work σ β} (hx : KeepsTo ⟨[], none⟩ x w)
    (hf : ∀ a w', KeepsTo q (f a) w') : KeepsTo q (x >>= f) w :=
  hx.bind fun a w' _ => hf a w'

/-- A sequence whose first part is planned to fail keeps to the plan of that part. -/
lemma KeepsTo.bind_fail {x : Work σ α} {e : Failure} (hx : KeepsTo ⟨calls, some e⟩ x w)
    (f : α → Work σ β) : KeepsTo ⟨calls, some e⟩ (x >>= f) w := by
  obtain ⟨events, hjournal, hends, htools⟩ := hx
  rcases hrun : x.run w with ⟨e | a, w'⟩
  · rw [hrun] at hjournal hends htools
    rw [KeepsTo, Act.bind_error hrun]
    exact ⟨events, hjournal, hends, htools⟩
  · rw [hrun] at hends
    exact absurd rfl hends.ne_none

/-- A second part that calls no tool leaves the plan to the first one. -/
lemma KeepsTo.bind_quiet {x : Work σ α} {f : α → Work σ β} (hx : KeepsTo p x w)
    (hf : ∀ a w', KeepsTo ⟨[], none⟩ (f a) w') : KeepsTo p (x >>= f) w := by
  obtain ⟨calls, failure⟩ := p
  cases failure with
  | some e => exact hx.bind_fail f
  | none =>
    have hboth := hx.bind fun a w' _ => hf a w'
    rwa [List.append_nil] at hboth

/-- What is made of a value that comes of a step is not planned. -/
lemma KeepsTo.map {x : Work σ α} (hx : KeepsTo p x w) (g : α → β) :
    KeepsTo p (x >>= fun a => pure (g a)) w :=
  hx.bind_quiet fun a _ => keepsTo_pure (g a)

/-- The same where the plan of the second part is only known to be one of several. -/
lemma KeepsTo.bind_exists {τ : Type} [Inhabited τ] {q : τ → Plan} {x : Work σ α}
    {f : α → Work σ β}
    (hx : KeepsTo ⟨calls, none⟩ x w)
    (hf : ∀ a w', x.run w = (.ok a, w') → ∃ i, KeepsTo (q i) (f a) w') :
    ∃ i, KeepsTo ⟨calls ++ (q i).calls, (q i).failure⟩ (x >>= f) w := by
  rcases hrun : x.run w with ⟨e | a, w'⟩
  · refine ⟨default, hx.bind fun a w' h => ?_⟩
    rw [hrun] at h
    exact absurd (congrArg Prod.fst h) (by simp)
  · obtain ⟨i, hi⟩ := hf a w' hrun
    refine ⟨i, hx.bind fun a' w'' h => ?_⟩
    rw [hrun] at h
    obtain ⟨ha, rfl⟩ := Prod.mk.inj h
    obtain rfl : a = a' := Except.ok.inj ha
    exact hi

/-- What needs a value to go on keeps to the plan for the case that there is one. -/
lemma keepsTo_provided {x : Except Failure α} {f : α → Work σ β}
    (hf : ∀ a, x = .ok a → KeepsTo p (f a) w) :
    KeepsTo (.provided x p) (Act.ofExcept x >>= f) w := by
  cases x with
  | error e => exact (keepsTo_fail e).bind_fail f
  | ok a => exact hf a rfl

/-- A call keeps to the plan that consists of it. -/
lemma keepsTo_call (mode : CallMode) (request : Command → Disk → σ → Reply σ α) (c : Command) :
    KeepsTo ⟨[(mode, c)], none⟩ (call mode request c) w := by
  refine ⟨_, rfl, ?_, fun hnone => absurd hnone (by simp [Event.calls, Event.call?])⟩
  show Plan.Ends _ (failureIn? (request c w.disk w.tools).result) _
  rw [Event.calls_called]
  cases (request c w.disk w.tools).result with
  | ok a => exact .finished
  | error e => exact .refused [] [] mode c e rfl

/-- A tool that is run for what it does. -/
lemma keepsTo_invoke (r : Runner σ) (c : Command) :
    KeepsTo ⟨[(.run, c)], none⟩ (invoke r c) w :=
  (keepsTo_call .run r.run c).map fun _ => c.tool

/-- A tool that is run stands in front of the plan of what comes after it. -/
lemma keepsTo_invoke_bind (r : Runner σ) (c : Command) {f : String → Work σ β}
    (hf : ∀ tool w', KeepsTo q (f tool) w') : KeepsTo (.cons (.run, c) q) (invoke r c >>= f) w :=
  (keepsTo_invoke r c).bind fun tool w' _ => hf tool w'

/-- A file that is written is not planned, and it is the files that fail if it cannot be. -/
lemma keepsTo_write (path : Path) (contents : String) :
    KeepsTo ⟨[], none⟩ (Workspace.write path contents : Work σ Unit) w := by
  rcases Workspace.run_write path contents w with ⟨cause, hrun⟩ | hrun
  · refine keepsTo_of_quiet [] ?_ rfl ?_ ?_ <;> rw [hrun]
    · rw [List.append_nil]
    · exact fun e he => ⟨path, cause, (Except.error.inj he).symm⟩
  · refine keepsTo_of_quiet [.wrote path] ?_ rfl ?_ ?_ <;> rw [hrun]
    exact fun e he => absurd he (by simp)

end Work

/-! ## The plan of a session -/

namespace Session

open Plan Work

variable (s : Session)

/-- The question for flags that is put to the compiler, if it was installed. -/
def question (flag : String) : List (CallMode × Command) :=
  if s.installation.isInstalled then [(.capture, ⟨s.installation.program.text, [flag]⟩)] else []

/-- The plan of a session that shows flags. -/
def flagsPlan (flag : String) : Plan :=
  .provided (s.settings.backend.nativeFlags s.environment) ⟨s.question flag, none⟩

/-- The compilation of further sources, each to its own object file. -/
def compileCalls (ws : Workspace) (t : Toolchain) (sources : List Path) :
    List (CallMode × Command) :=
  sources.map fun source => (.run, t.compile source (ws.objectFile source))

/-- The command that links the generated sources with the object files. -/
def linkCommand (ws : Workspace) (t : Toolchain) : Command :=
  t.link (ws.sourceFiles s.settings.basename s.settings.cxx)
    (s.settings.extraC.map ws.objectFile) (ws.executable s.settings.basename)

/-- The run of the linked program, if that is asked for. -/
def programCalls (ws : Workspace) : List (CallMode × Command) :=
  if s.settings.action = .run then [(.run, ⟨(ws.executable s.settings.basename).text, []⟩)] else []

/-- The calls of a native build: both questions for flags, the compilation of further sources, the
link, and the run of the program. -/
def nativeCalls (ws : Workspace) (t : Toolchain) : List (CallMode × Command) :=
  s.question "--print-c-flags" ++ s.question "--print-ld-flags" ++
    compileCalls ws t s.settings.extraC ++ [(.run, s.linkCommand ws t)] ++ s.programCalls ws

/-- Whether generated code is compiled and linked. -/
def linksCode : Bool := s.settings.action.links && !s.settings.showFinal

/-- The plan of what generates code: the compiler, and then a native build unless code is all that
is asked for. -/
def buildPlan (inputs : List Path) (ws : Workspace) (t : Toolchain) : Plan :=
  .provided (s.settings.pipelineInto ws.path.text) <| .cons (.run, s.generateCommand ws inputs) <|
    if s.linksCode then
      .provided (s.settings.backend.nativeFlags s.environment) ⟨s.nativeCalls ws t, none⟩
    else ⟨[], none⟩

/-- The plan of what generates MLIR and runs it. -/
def mlirPlan (inputs : List Path) (ws : Workspace) : Plan :=
  .cons (.run, s.mlirCommand ws inputs) <| .cons (.run, mlirProgram ws) ⟨[], none⟩

/-- The plan of what the settings ask for. -/
def dispatchPlan (inputs : List Path) (ws : Workspace) (t : Toolchain) : Plan :=
  match s.settings.action, s.settings.backend with
  | .showScript, _ => .provided s.script ⟨[], none⟩
  | .showCompileFlags, _ => s.flagsPlan "--print-c-flags"
  | .showLinkFlags, _ => s.flagsPlan "--print-ld-flags"
  | .run, .interpreter => ⟨[(.run, s.interpretCommand inputs)], none⟩
  | .run, .mlir => s.mlirPlan inputs ws
  | _, _ => s.buildPlan inputs ws t

/-- **The plan of a session**, for its working directory and its native tools. -/
def plan (inputs : List Path) (ws : Workspace) (t : Toolchain) : Plan :=
  .provided (s.settings.checkSession inputs) (s.dispatchPlan inputs ws t)

/-- The rules for a session let neither the interpreter nor MLIR be linked. -/
lemma backend_of_check {s : Session} {inputs : List Path}
    (h : s.settings.checkSession inputs = .ok ()) (haction : s.settings.action = .build) :
    s.settings.backend ≠ .interpreter ∧ s.settings.backend ≠ .mlir := by
  simp only [Settings.checkSession, Settings.bind_eq_ok, Settings.objectIf_eq_ok] at h
  obtain ⟨-, -, -, -, hinterpreter, hmlir, -⟩ := h
  exact ⟨by simpa [haction] using hinterpreter, by simpa [haction] using hmlir⟩

/-! ## Sessions keep to their plan -/

variable {s} {σ : Type} {w : World σ} (r : Runner σ)

/-- The compiler is asked for flags. -/
lemma keepsTo_query (i : Installation) (flag : String) :
    KeepsTo ⟨[(.capture, ⟨i.program.text, [flag]⟩)], none⟩ (i.query r flag) w :=
  (keepsTo_call .capture r.capture _).map Text.words

/-- The flags for compiling are asked for, if the backend has native flags. -/
lemma keepsTo_compileFlags (w : World σ) :
    KeepsTo (s.flagsPlan "--print-c-flags") (s.compileFlags r) w := by
  refine keepsTo_provided fun extra _ => KeepsTo.map ?_ fun runtime => runtime ++ extra.compile
  unfold question Installation.compileFlags
  split
  · exact keepsTo_query r s.installation _
  · exact keepsTo_pure _

/-- The flags for linking are asked for, if the backend has native flags. -/
lemma keepsTo_linkFlags (w : World σ) :
    KeepsTo (s.flagsPlan "--print-ld-flags") (s.linkFlags r) w := by
  refine keepsTo_provided fun extra _ => KeepsTo.map ?_ fun runtime => runtime ++ extra.link
  unfold question Installation.linkFlags
  split
  · exact keepsTo_query r s.installation _
  · exact keepsTo_pure _

/-- No tool is called to choose the native compiler. -/
lemma keepsTo_choose (env : Environment) (cxx : Bool) :
    KeepsTo ⟨[], none⟩ (Toolchain.choose env r cxx) w := by
  unfold Toolchain.choose
  split
  · exact keepsTo_pure (w := w) [Toolchain.firstFound (fun name =>
      (r.find name w.disk w.tools).isSome) cxx]
  · exact keepsTo_pure _

/-- The flags are asked for one after the other. -/
lemma keepsTo_toolchain {extra : NativeFlags} (ws : Workspace)
    (h : s.settings.backend.nativeFlags s.environment = .ok extra) :
    KeepsTo ⟨s.question "--print-c-flags" ++ s.question "--print-ld-flags", none⟩
      (s.toolchain r ws) w := by
  have hcompile := keepsTo_compileFlags (s := s) r
  have hlink := keepsTo_linkFlags (s := s) r
  simp only [flagsPlan, h, provided_ok] at hcompile hlink
  refine (keepsTo_choose r s.environment s.settings.cxx).quietly fun compiler w' => ?_
  exact (hcompile w').bind fun compileFlags w'' _ => (hlink w'').map fun linkFlags =>
    Toolchain.ofFlags compiler compileFlags linkFlags ws.path s.settings.cxx

/-- Further sources are compiled one after the other. -/
lemma keepsTo_compileExtra (t : Toolchain) (ws : Workspace) (sources : List Path) (w : World σ) :
    KeepsTo ⟨compileCalls ws t sources, none⟩ (compileExtra r t ws sources) w := by
  induction sources generalizing w with
  | nil => exact keepsTo_pure _
  | cons source sources ih =>
    exact keepsTo_invoke_bind r (t.compile source (ws.objectFile source)) fun tool w' =>
      (ih w').map fun results => (ws.objectFile source :: results.1, tool :: results.2)

/-- The object files that are linked are those of the sources that were compiled. -/
lemma objects_of_compileExtra {t : Toolchain} {ws : Workspace} {sources objects : List Path}
    {tools : List String} {w' : World σ}
    (h : (compileExtra r t ws sources).run w = (.ok (objects, tools), w')) :
    objects = sources.map ws.objectFile := by
  induction sources generalizing objects tools w w' with
  | nil => exact (Prod.mk.inj (Except.ok.inj (congrArg Prod.fst h))).1.symm
  | cons source sources ih =>
    obtain ⟨tool, w₁, -, hrest⟩ := Act.exists_of_bind_eq_ok h
    obtain ⟨⟨objects', tools'⟩, w₂, hresults, hpair⟩ := Act.exists_of_bind_eq_ok hrest
    cases hpair
    rw [List.map_cons, ← ih hresults]

instance : Inhabited Toolchain := ⟨⟨[], [], [], ⟨""⟩⟩⟩

/-- Compile further sources and link generated code with a native compiler. -/
def linkWith (s : Session) (r : Runner σ) (ws : Workspace) (t : Toolchain) :
    Work σ (List String) := do
  let (objects, tools) ← compileExtra r t ws s.settings.extraC
  let sources := ws.sourceFiles s.settings.basename s.settings.cxx
  let linker ← Work.invoke r (t.link sources objects (ws.executable s.settings.basename))
  pure (tools ++ [linker])

/-- Generated code is linked with the native compiler that is found first. -/
lemma linkProgram_eq (ws : Workspace) :
    s.linkProgram r ws = s.toolchain r ws >>= s.linkWith r ws := rfl

/-- The further sources are compiled, and then the object files are linked. -/
lemma keepsTo_linkWith (ws : Workspace) (t : Toolchain) (w : World σ) :
    KeepsTo ⟨compileCalls ws t s.settings.extraC ++ [(.run, s.linkCommand ws t)], none⟩
      (s.linkWith r ws t) w := by
  refine (keepsTo_compileExtra r t ws s.settings.extraC w).bind
    (q := ⟨[(.run, s.linkCommand ws t)], none⟩) fun results w' hresults => ?_
  rw [linkCommand, ← objects_of_compileExtra r hresults]
  exact (keepsTo_invoke r _).map fun linker => results.2 ++ [linker]

/-- Generated code is compiled and linked, with tools that are found on the way. -/
lemma keepsTo_linkProgram {extra : NativeFlags} (ws : Workspace)
    (h : s.settings.backend.nativeFlags s.environment = .ok extra) :
    ∃ t, KeepsTo ⟨s.question "--print-c-flags" ++ s.question "--print-ld-flags" ++
      (compileCalls ws t s.settings.extraC ++ [(.run, s.linkCommand ws t)]), none⟩
      (s.linkProgram r ws) w :=
  (keepsTo_toolchain r ws h).bind_exists
    (q := fun t => ⟨compileCalls ws t s.settings.extraC ++ [(.run, s.linkCommand ws t)], none⟩)
    fun t w' _ => ⟨t, keepsTo_linkWith r ws t w'⟩

/-- The linked program is run if that is asked for. -/
lemma keepsTo_runProgram (ws : Workspace) :
    KeepsTo ⟨s.programCalls ws, none⟩ (s.runProgram r ws) w := by
  unfold programCalls runProgram
  split
  · exact (keepsTo_invoke r _).map fun tool => [tool]
  · exact keepsTo_pure _

/-- A file of the working directory is not planned. -/
lemma keepsTo_writeFile (path : Path) (contents what : String) :
    KeepsTo ⟨[], none⟩ (s.writeFile path contents what : Work σ Unit) w :=
  (keepsTo_write path contents).quietly fun _ _ => keepsTo_said _

/-- Without native flags nothing is linked. -/
lemma keepsTo_linkProgram_of_error {e : Failure} (ws : Workspace)
    (h : s.settings.backend.nativeFlags s.environment = .error e) :
    KeepsTo ⟨[], some e⟩ (s.linkProgram r ws) w := by
  have hcompile := keepsTo_compileFlags (s := s) r
  simp only [flagsPlan, h, provided_error] at hcompile
  have htoolchain : KeepsTo ⟨[], some e⟩ (s.toolchain r ws) w :=
    (keepsTo_choose r _ _).quietly fun _ w' => (hcompile w').bind_fail _
  exact htoolchain.bind_fail _

/-- A native build keeps to its plan, if the backend has native flags, and fails if not. -/
lemma keepsTo_native (ws : Workspace) (g : List String → List String → Option Path × Statistics) :
    ∃ t, KeepsTo (.provided (s.settings.backend.nativeFlags s.environment)
      ⟨s.nativeCalls ws t, none⟩) (do
        let builders ← s.linkProgram r ws
        let program ← s.runProgram r ws
        pure (g builders program)) w := by
  cases h : s.settings.backend.nativeFlags s.environment with
  | error e => exact ⟨default, (keepsTo_linkProgram_of_error r ws h).bind_fail _⟩
  | ok extra =>
    obtain ⟨t, ht⟩ := keepsTo_linkProgram (w := w) r ws h
    refine ⟨t, ?_⟩
    have hrest := ht.bind fun builders w' _ =>
      (keepsTo_runProgram (s := s) (w := w') r ws).map (g builders)
    rw [provided_ok, nativeCalls, List.append_assoc (_ ++ _) (compileCalls ws t _)]
    exact hrest

/-- **Generating code and what comes after that keeps to its plan**, with tools that are found on
the way. -/
theorem keepsTo_build (inputs : List Path) (ws : Workspace) :
    ∃ t, KeepsTo (s.buildPlan inputs ws t) (s.build r inputs ws) w := by
  unfold buildPlan build linksCode
  cases s.settings.pipelineInto ws.path.text with
  | error e => exact ⟨default, (keepsTo_fail e).bind_fail _⟩
  | ok p =>
    -- what comes after the compiler, for any plan that it keeps to
    have hgenerate {q : Toolchain → Plan} {rest : String → Work σ (Option Path × Statistics)}
        (hrest : ∀ compiler w', ∃ t, KeepsTo (q t) (rest compiler) w') :
        ∃ t, KeepsTo (.cons (.run, s.generateCommand ws inputs) (q t)) (do
          s.writeFile ws.projectFile (Script.render p s.commandLine) "project"
          s.writeSymbols ws
          let compiler ← Work.invoke r (s.generateCommand ws inputs)
          rest compiler) w := by
      refine (keepsTo_writeFile _ _ _).bind_exists
        (q := fun t => .cons (.run, s.generateCommand ws inputs) (q t)) fun _ w' _ => ?_
      refine (keepsTo_writeFile _ _ _).bind_exists
        (q := fun t => .cons (.run, s.generateCommand ws inputs) (q t)) fun _ w' _ => ?_
      exact (keepsTo_invoke r _).bind_exists fun compiler w' _ => hrest compiler w'
    simp only [provided_ok]
    split
    · exact hgenerate fun compiler w' => keepsTo_native r ws _
    · exact hgenerate fun compiler w' => ⟨default, keepsTo_pure _⟩

/-- Generating MLIR and running it keeps to its plan. -/
lemma keepsTo_runMlir (inputs : List Path) (ws : Workspace) :
    KeepsTo (s.mlirPlan inputs ws) (s.runMlir r inputs ws) w := by
  refine (keepsTo_writeFile _ _ _).quietly fun _ w' => ?_
  refine keepsTo_invoke_bind r _ fun compiler w' => ?_
  refine (keepsTo_said _).quietly fun _ w' => ?_
  refine keepsTo_invoke_bind r _ fun program w' => ?_
  exact (keepsTo_said _).quietly fun _ w' => keepsTo_pure _

/-- Steps in a working directory keep to their plan with its acquisition in front and its release
behind them: neither calls a tool. -/
lemma keepsTo_inWorkspace {q : Workspace → Toolchain → Plan}
    {steps : Workspace → Work σ (Option Path × Statistics)}
    (hsteps : ∀ ws w', ∃ t, KeepsTo (q ws t) (steps ws) w') :
    ∃ ws t, ws.path = Workspace.acquiredPath s.settings.workingDir w.disk ∧
      KeepsTo (q ws t) (s.inWorkspace steps) w := by
  rcases hacquire : (Workspace.acquire s.settings.workingDir s.settings.keepFiles
    s.settings.verbose).run w with ⟨e | ws, w₁⟩
  · obtain ⟨⟨path, cause, rfl⟩, -, hw⟩ := Workspace.acquire_eq_error hacquire
    let dir := Workspace.acquiredPath s.settings.workingDir w.disk
    refine ⟨⟨dir, .given dir, false, false⟩, default, rfl, [], ?_⟩
    rw [inWorkspace, Act.bind_error hacquire, hw]
    exact ⟨(List.append_nil _).symm, .broken [] _ path cause rfl, fun _ => rfl⟩
  · obtain ⟨hopen, -, hpath, -, hw⟩ := Workspace.acquire_eq_ok hacquire
    obtain ⟨t, events, hjournal, hends, htools⟩ := hsteps ws w₁
    refine ⟨ws, t, hpath, .said (Workspace.greeting s.settings.verbose ws) ::
      (events ++ ws.farewell), ?_⟩
    have hcalls : Event.calls (.said (Workspace.greeting s.settings.verbose ws) ::
        (events ++ ws.farewell)) = Event.calls events := by
      show Event.calls (events ++ ws.farewell) = _
      rw [Event.calls_append, Workspace.calls_farewell, List.append_nil]
    rw [run_inWorkspace hacquire, Workspace.run_release hopen, hcalls]
    refine ⟨?_, ?_, fun hnone => ?_⟩
    · show ((steps ws).run w₁).2.journal ++ ws.farewell = _
      rw [hjournal, hw]
      simp
    · generalize (steps ws).run w₁ = ended at hends ⊢
      rcases ended with ⟨e | value, w₂⟩
      · exact hends
      · cases hremoval : (ws.removal w₂.disk).1 with
        | ok _ => exact hends
        | error e =>
          obtain ⟨path, cause, rfl⟩ := Workspace.removal_eq_error hremoval
          exact hends.broken_after rfl path cause
    · show ((steps ws).run w₁).2.tools = _
      rw [htools hnone, hw]

/-- What the settings ask for keeps to its plan. -/
lemma keepsTo_dispatch (inputs : List Path) :
    ∃ ws t, ws.path = Workspace.acquiredPath s.settings.workingDir w.disk ∧
      KeepsTo (s.dispatchPlan inputs ws t) (s.dispatch r inputs) w := by
  let dir := Workspace.acquiredPath s.settings.workingDir w.disk
  -- most plans are the same for every working directory
  have hany {p : Plan} {x : Work σ Report} (h : KeepsTo p x w) :
      ∃ (ws : Workspace) (_ : Toolchain), ws.path = dir ∧ KeepsTo p x w :=
    ⟨⟨dir, .given dir, false, false⟩, default, rfl, h⟩
  have hbuild := keepsTo_inWorkspace (s := s) (w := w) fun ws w' =>
    keepsTo_build (s := s) r inputs ws
  unfold dispatchPlan dispatch
  cases s.settings.action with
  | showScript =>
    refine hany (KeepsTo.bind_quiet ?_ fun _ _ => keepsTo_pure _)
    cases s.script with
    | error e => exact keepsTo_fail e
    | ok text => exact keepsTo_pure text
  | showCompileFlags =>
    exact hany (((keepsTo_compileFlags r w).map _).bind_quiet fun _ _ => keepsTo_pure _)
  | showLinkFlags =>
    exact hany (((keepsTo_linkFlags r w).map _).bind_quiet fun _ _ => keepsTo_pure _)
  | generate | build => exact hbuild
  | run =>
    cases s.settings.backend with
    | interpreter => exact hany ((keepsTo_invoke r _).map _)
    | mlir =>
      exact keepsTo_inWorkspace (q := fun ws _ => s.mlirPlan inputs ws) fun ws w' =>
        ⟨default, keepsTo_runMlir r inputs ws⟩
    | ac | c23 | fallback | sc => exact hbuild

/-- **Every session keeps to its plan**, for some native tools, with a working directory at the path
that it asks for.

**Proof sketch.** Every single step keeps to a plan of at most one call, and a sequence keeps to the
plans of its parts one after the other. What the native tools are comes out only on the way, so the
plan of what comes after that is one of several. A working directory is acquired and released
without a call, and a failure of the files can end a session at any point of its plan. -/
theorem keepsTo_execute (s : Session) (inputs : List Path) (w : World σ) :
    ∃ ws t, ws.path = Workspace.acquiredPath s.settings.workingDir w.disk ∧
      KeepsTo (s.plan inputs ws t) (s.execute r inputs) w := by
  unfold plan execute
  obtain ⟨ws, t, hpath, hdispatch⟩ := keepsTo_dispatch (s := s) (w := w) r inputs
  refine ⟨ws, t, hpath, keepsTo_provided fun _ _ => hdispatch.bind_quiet fun report w' => ?_⟩
  dsimp only
  split
  · exact (keepsTo_said _).quietly fun _ _ => keepsTo_pure _
  · exact keepsTo_pure _

end Session

end AslBuild
