import AslBuild.Host.Runner
import AslBuild.Proofs.Session.Course
import AslBuild.Proofs.Session.Queries
import AslBuild.Proofs.Session.Resolution
set_option autoImplicit false

/-!
# What a session can fail of

Once its settings are accepted, there is little that a session can fail of on its own. No table that
it looks up lacks its backend, but that of native builds for MLIR, and only where the flags for one
are to be shown. A variable may not be set, the working directory may have a blank in its path, and
its files may fail. Whatever else a session fails of is what the runner says of a call.

## Main definitions

* `AslBuild.Runner.Gives` — the runner may say that a call fails in a way.
* `AslBuild.Runner.FailsByTools` — a runner whose failures are those of tools.
* `AslBuild.World.FailedAsGiven` — every call that failed did so as the runner says.
* `AslBuild.Session.UsesWorkspace` — the session needs a working directory.
* `AslBuild.Session.MayEnd` — what a session can fail of on its own.

## Main results

* `AslBuild.Session.failedAsGiven_execute` — sessions call tools as the runner has it.
* `AslBuild.Session.passedOn_or_mayEnd` — what a session fails of.
* `AslBuild.Session.execute_failures` — which failures a session can end in.
-/

namespace AslBuild

open FileSystem

variable {σ : Type}

/-! ## Failures of a runner -/

/-- The runner may say that a call fails with `e`. -/
def Runner.Gives (r : Runner σ) (e : Failure) : Prop :=
  ∃ c d state, (r.run c d state).result = .error e ∨ (r.capture c d state).result = .error e

/-- A runner that says of a call that fails that the tool failed or cannot be started. -/
def Runner.FailsByTools (r : Runner σ) : Prop := ∀ e, r.Gives e → ∃ t, e = .tool t

/-- In a rehearsal only tools fail. -/
lemma Rehearsal.failsByTools (r : Rehearsal) : r.runner.FailsByTools := by
  rintro e ⟨c, d, noted, h⟩
  have hnote {α : Type} {value : α} (h : (r.note c d noted value).result = .error e) :
      ∃ t, e = .tool t := by
    unfold note at h
    dsimp only at h
    split at h
    · exact ⟨_, (Except.error.inj h).symm⟩
    · cases h
  exact h.elim hnote hnote

/-- Of processes that are started only tools fail. -/
lemma Host.failsByTools (launch : Host.Launch) (environment : Environment)
    (place : Host.SearchPlace) (verbose : Bool) :
    (Host.runner launch environment place verbose).FailsByTools := by
  rintro e ⟨c, d, state, h⟩
  have hcall {α : Type} {shown : List (Stream × List UInt8) → List (Stream × List UInt8)}
      {value : List (Stream × List UInt8) → α}
      (h : (Host.call launch environment verbose shown value c d).result = .error e) :
      ∃ t, e = .tool t := by
    unfold Host.call at h
    dsimp only at h
    split at h
    · exact ⟨_, (Except.error.inj h).symm⟩
    · dsimp only at h
      split at h
      · exact ⟨_, (Except.error.inj h).symm⟩
      · cases h
  exact h.elim hcall hcall

/-- Between two worlds every call that failed did so as the runner says. -/
def World.FailedAsGiven (r : Runner σ) (w w' : World σ) : Prop :=
  ∃ events, w'.journal = w.journal ++ events ∧
    ∀ mode c e, (mode, c, some e) ∈ Event.calls events → r.Gives e

namespace World

variable {r : Runner σ} {w w' w'' : World σ}

/-- Without calls none failed. -/
lemma failedAsGiven_of_no_call (events : List Event) (hjournal : w'.journal = w.journal ++ events)
    (h : Event.calls events = []) : w.FailedAsGiven r w' :=
  ⟨events, hjournal, fun _ _ _ hmem => absurd hmem (by simp [h])⟩

lemma FailedAsGiven.trans (h : w.FailedAsGiven r w') (h' : w'.FailedAsGiven r w'') :
    w.FailedAsGiven r w'' := by
  obtain ⟨events, hjournal, hgives⟩ := h
  obtain ⟨events', hjournal', hgives'⟩ := h'
  refine ⟨events ++ events', by rw [hjournal', hjournal, List.append_assoc], ?_⟩
  intro mode c e hmem
  rw [Event.calls_append, List.mem_append] at hmem
  exact hmem.elim (hgives mode c e) (hgives' mode c e)

/-- A call fails as it says. -/
lemma failedAsGiven_call {α : Type} (mode : CallMode)
    {request : Command → Disk → σ → Reply σ α} (c : Command)
    (h : ∀ e, (request c w.disk w.tools).result = .error e → r.Gives e) :
    w.FailedAsGiven r ((Work.call mode request c).run w).2 := by
  refine ⟨_, rfl, fun mode' c' e hmem => h e ?_⟩
  rw [Event.calls_called, List.mem_singleton] at hmem
  exact Work.eq_error_of_failureIn? (congrArg (·.2.2) hmem).symm

end World

namespace Session

/-- Every step of a session calls tools as the runner has it. -/
lemma fullSimulation_failedAsGiven (r : Runner σ) :
    FullSimulation (fun _ (x : Work σ _) (_ : Work σ _) =>
      ∀ w : World σ, w.FailedAsGiven r (x.run w).2)
      r r where
  pure _ w := World.failedAsGiven_of_no_call [] (by simp) rfl
  bind {_ _ x _ f _} hx hf w := by
    have hfirst := hx w
    rcases hrun : x.run w with ⟨e | a, w'⟩
    · rw [hrun] at hfirst
      rw [Act.bind_error hrun]
      exact hfirst
    · rw [hrun] at hfirst
      rw [Act.bind_ok hrun]
      exact hfirst.trans (hf a w')
  log level message w := World.failedAsGiven_of_no_call [.said (.logged level message)] rfl rfl
  lacking _ w := World.failedAsGiven_of_no_call [] (by simp) rfl
  choose env cxx w := by
    unfold Toolchain.choose
    split
    · exact World.failedAsGiven_of_no_call [] (List.append_nil _).symm rfl
    · exact World.failedAsGiven_of_no_call [] (List.append_nil _).symm rfl
  run c w := World.failedAsGiven_call .run c fun e he => ⟨c, w.disk, w.tools, Or.inl he⟩
  capture c w := World.failedAsGiven_call .capture c fun e he => ⟨c, w.disk, w.tools, Or.inr he⟩
  write path contents w := by
    rcases Workspace.run_write path contents w with ⟨cause, hrun⟩ | hrun
    · exact World.failedAsGiven_of_no_call [] (by rw [hrun]; simp) rfl
    · exact World.failedAsGiven_of_no_call [.wrote path] (by rw [hrun]) rfl
  fail _ w := World.failedAsGiven_of_no_call [] (by simp) rfl
  inWorkspace s {steps _} hsteps w := by
    rcases hacquire : (Workspace.acquire s.settings.workingDir s.settings.keepFiles
      s.settings.verbose).run w with ⟨e | ws, w₁⟩
    · obtain ⟨-, -, hw⟩ := Workspace.acquire_eq_error hacquire
      rw [Session.inWorkspace, Act.bind_error hacquire, hw]
      exact World.failedAsGiven_of_no_call [] (List.append_nil _).symm rfl
    · obtain ⟨hopen, -, -, -, hw⟩ := Workspace.acquire_eq_ok hacquire
      rw [run_inWorkspace hacquire, Workspace.run_release hopen]
      have hacquired : w.FailedAsGiven r w₁ :=
        World.failedAsGiven_of_no_call [.said (Workspace.greeting s.settings.verbose ws)]
          (by rw [hw]) rfl
      refine (hacquired.trans (hsteps ws w₁)).trans ?_
      exact World.failedAsGiven_of_no_call ws.farewell rfl (Workspace.calls_farewell ws)

/-- **Sessions call tools as the runner has it**: a call that fails does so as the runner says. -/
theorem failedAsGiven_execute (s : Session) (r : Runner σ) (inputs : List Path) (w : World σ) :
    w.FailedAsGiven r ((s.execute r inputs).run w).2 :=
  (fullSimulation_failedAsGiven r).execute s inputs w

/-! ## What a session can fail of on its own -/

/-- The session needs a working directory: it reads input files, and does not interpret them. -/
def UsesWorkspace (s : Session) : Prop :=
  s.settings.action.readsInputs = true ∧ s.settings.backend ≠ .interpreter

/-- What a session can fail of on its own, once its settings are accepted, with a working directory
at some path. -/
inductive MayEnd (s : Session) (dir : Path) : Failure → Prop
  /-- The flags of a native build for MLIR are to be shown. -/
  | lacksTable (hflag : s.settings.action.flagOption?.isSome = true)
    (hbackend : s.settings.backend = .mlir) : s.MayEnd dir (.unknownBackend "mlir" "native")
  /-- The flags of a native build are needed, and the variable for the SystemC library is not
  set. -/
  | lacksVariable (hneeded : s.settings.action.flagOption?.isSome = true ∨ s.linksCode = true)
    (hbackend : s.settings.backend = .sc)
    (hvariable : s.environment.get? Environment.scTypes = none) :
    s.MayEnd dir (.missingVariable Environment.scTypes "SystemC")
  /-- The path of the working directory holds a blank. -/
  | blank (huses : s.UsesWorkspace) (hblank : Text.hasBlank dir.text = true) :
    s.MayEnd dir (.invalid (.blankInDirectory dir.text))
  /-- The files of the working directory fail. -/
  | files (huses : s.UsesWorkspace) (path : Path) (cause : IoError) :
    s.MayEnd dir (.workspace path cause)

variable {s : Session} {r : Runner σ} {inputs : List Path} {w : World σ} {dir : Path} {e : Failure}

/-- The rules for a session leave the interpreter nothing but to run. -/
lemma interpreter_only_runs (hcheck : s.settings.checkSession inputs = .ok ())
    (h : s.settings.backend = .interpreter) : s.settings.action = .run := by
  simp only [Settings.checkSession, Settings.bind_eq_ok, Settings.objectIf_eq_ok] at hcheck
  obtain ⟨-, -, -, -, hinterpreter, -⟩ := hcheck
  simpa [h] using hinterpreter

/-- Where flags are to be shown and the backend has none, that is what the session may end in. -/
lemma mayEnd_of_nativeFlags (hflag : s.settings.action.flagOption?.isSome = true)
    (h : s.settings.backend.nativeFlags s.environment = .error e) : s.MayEnd dir e := by
  rcases Backend.nativeFlags_eq_error h with ⟨hbackend, rfl⟩ | ⟨hbackend, hvariable, rfl⟩
  · exact .lacksTable hflag hbackend
  · exact .lacksVariable (Or.inl hflag) hbackend hvariable

/-- **A script can always be shown**: the rules see to it that there is a generator, and that the
directory for generated code holds no blank. -/
lemma exists_script (hcheck : s.settings.checkSession inputs = .ok ())
    (haction : s.settings.action = .showScript) : ∃ text, s.script = .ok text := by
  have hpipeline := Settings.checkPipeline_of_checkSession hcheck
  obtain ⟨-, -, -, -, hblank, -⟩ := Settings.checkPipeline_eq_ok_iff.1 hpipeline
  cases hp : s.settings.pipeline with
  | ok p => exact ⟨Script.render p s.commandLine, by rw [script, hp]; rfl⟩
  | error e =>
    rcases (Settings.pipelineInto_eq_error_iff hpipeline).1 hp with ⟨h, -⟩ | ⟨-, -, h, -⟩
    · exact absurd (hblank.symm.trans h) (by simp)
    · exact absurd ((interpreter_only_runs hcheck h).symm.trans haction) (by simp)

/-- If the plan of a session that needs a working directory fails, it is for what the session may
end in. -/
lemma mayEnd_of_buildPlan {t : Toolchain} (inputs : List Path) (ws : Workspace)
    (huses : s.UsesWorkspace) (hcheck : s.settings.checkPipeline = .ok ())
    (hmlir : s.linksCode = true → s.settings.backend ≠ .mlir)
    (h : (s.buildPlan inputs ws t).failure = some e) : s.MayEnd ws.path e := by
  unfold buildPlan at h
  cases hp : s.settings.pipelineInto ws.path.text with
  | error e' =>
    rw [hp] at h
    obtain rfl : e' = e := Option.some.inj h
    rcases (Settings.pipelineInto_eq_error_iff hcheck).1 hp with ⟨hblank, rfl⟩ | ⟨-, -, hb, -⟩
    · exact .blank huses hblank
    · exact absurd hb huses.2
  | ok p =>
    rw [hp, Plan.provided_ok] at h
    by_cases hlinks : s.linksCode = true
    · rw [if_pos hlinks] at h
      cases hflags : s.settings.backend.nativeFlags s.environment with
      | ok extra =>
        rw [hflags] at h
        exact absurd h (by simp [Plan.cons])
      | error e' =>
        rw [hflags] at h
        obtain rfl : e' = e := Option.some.inj h
        rcases Backend.nativeFlags_eq_error hflags with ⟨hbackend, -⟩ | ⟨hbackend, hvar, rfl⟩
        · exact absurd hbackend (hmlir hlinks)
        · exact .lacksVariable (Or.inr hlinks) hbackend hvar
    · rw [if_neg hlinks] at h
      exact absurd h (by simp [Plan.cons])

/-- The same for whatever such a session does. -/
lemma mayEnd_of_plan {ws : Workspace} {t : Toolchain} (huses : s.UsesWorkspace)
    (hcheck : s.settings.checkSession inputs = .ok ())
    (h : (s.plan inputs ws t).failure = some e) : s.MayEnd ws.path e := by
  rw [plan, hcheck, Plan.provided_ok] at h
  have hbuild (hmlir : s.linksCode = true → s.settings.backend ≠ .mlir) :=
    mayEnd_of_buildPlan (t := t) (e := e) inputs ws huses
      (Settings.checkPipeline_of_checkSession hcheck) hmlir
  unfold dispatchPlan at h
  cases ha : s.settings.action with
  | showScript | showCompileFlags | showLinkFlags =>
    exact absurd huses.1 (by simp [ha, Action.readsInputs])
  | generate =>
    rw [ha] at h
    exact hbuild (fun hlinks => absurd hlinks (by simp [linksCode, ha, Action.links])) h
  | build =>
    rw [ha] at h
    exact hbuild (fun _ => (backend_of_check hcheck ha).2) h
  | run =>
    cases hb : s.settings.backend with
    | interpreter => exact absurd hb huses.2
    | mlir =>
      rw [ha, hb] at h
      exact absurd h (by simp [mlirPlan, Plan.cons])
    | ac | c23 | fallback | sc =>
      rw [ha, hb] at h
      exact hbuild (fun _ => by rw [hb]; simp) h

/-- A call that fails passes its failure on. -/
lemma passedOn_call {α : Type} (mode : CallMode) {request : Command → Disk → σ → Reply σ α}
    (c : Command) (h : (request c w.disk w.tools).result = .error e) :
    w.PassedOn e ((Work.call mode request c).run w).2 := by
  refine ⟨_, rfl, mode, c, ?_⟩
  rw [h]
  exact List.mem_cons_self

/-- What a session fails of that shows flags. -/
lemma passedOn_or_mayEnd_of_flags {flag : String}
    (hcheck : s.settings.checkSession inputs = .ok ())
    (hflag : s.settings.action.flagOption? = some flag)
    (h : ((s.execute r inputs).run w).1 = .error e) :
    w.PassedOn e ((s.execute r inputs).run w).2 ∨ s.MayEnd dir e := by
  have hends := queryEnds_execute (r := r) (w := w) hcheck hflag
  rw [h] at hends
  generalize hf : Work.failureIn? (.error e : Except Failure Report) = f at hends
  generalize ((s.execute r inputs).run w).2 = w' at hends
  cases hends with
  | lacking hlacking =>
    obtain rfl := Option.some.inj hf
    exact Or.inr (mayEnd_of_nativeFlags (by rw [hflag]; rfl) hlacking)
  | known => cases hf
  | asked => exact Or.inl (passedOn_call .capture _ (Work.eq_error_of_failureIn? hf.symm))

/-- What a session fails of that interprets a program. -/
lemma passedOn_of_interpreter (hcheck : s.settings.checkSession inputs = .ok ())
    (hbackend : s.settings.backend = .interpreter)
    (h : ((s.execute r inputs).run w).1 = .error e) :
    w.PassedOn e ((s.execute r inputs).run w).2 := by
  let call : Work σ Unit := Work.call .run r.run (s.interpretCommand inputs)
  have hdispatch : s.dispatch r inputs = s.interpret r inputs := by
    unfold dispatch
    rw [interpreter_only_runs hcheck hbackend, hbackend]
  have hrun : (s.interpret r inputs).run w =
      (((call.run w).1.map fun _ => (s.interpretCommand inputs).tool).map fun tool =>
        { statistics := { tools := [tool] } }, (call.run w).2) := by
    rw [interpret, Act.run_bind_pure, Work.invoke, Act.run_bind_pure]
  have hexecute : Work.failureIn? ((s.execute r inputs).run w).1 =
      Work.failureIn? (call.run w).1 := by
    rw [run_execute hcheck, failureIn?_map, hdispatch, hrun, failureIn?_map, failureIn?_map]
  rw [h] at hexecute
  have hcall := Work.eq_error_of_failureIn? hexecute.symm
  have hdone : ((s.execute r inputs).run w).2 = (call.run w).2 := by
    rw [run_execute hcheck, hdispatch, hrun, hcall]
    simp [Except.map, epilogue]
  rw [hdone]
  exact passedOn_call .run _ hcall

/-- What a session without a working directory fails of. -/
lemma passedOn_or_mayEnd_of_not_usesWorkspace (huses : ¬ s.UsesWorkspace)
    (hcheck : s.settings.checkSession inputs = .ok ())
    (h : ((s.execute r inputs).run w).1 = .error e) :
    w.PassedOn e ((s.execute r inputs).run w).2 ∨ s.MayEnd dir e := by
  cases hreads : s.settings.action.readsInputs with
  | false =>
    cases hflag : s.settings.action.flagOption? with
    | none =>
      have haction := action_eq_showScript hreads hflag
      obtain ⟨text, htext⟩ := exists_script hcheck haction
      rw [run_execute_showScript hcheck haction, htext] at h
      cases h
    | some flag => exact passedOn_or_mayEnd_of_flags hcheck hflag h
  | true =>
    have hbackend : s.settings.backend = .interpreter :=
      Decidable.byContradiction fun hbackend => huses ⟨hreads, hbackend⟩
    exact Or.inl (passedOn_of_interpreter hcheck hbackend h)

/-- **What a session fails of**: a tool failed with that, or the session may end so on its own. -/
theorem passedOn_or_mayEnd (hcheck : s.settings.checkSession inputs = .ok ())
    (h : ((s.execute r inputs).run w).1 = .error e) :
    w.PassedOn e ((s.execute r inputs).run w).2 ∨
      s.MayEnd (Workspace.acquiredPath s.settings.workingDir w.disk) e := by
  by_cases huses : s.UsesWorkspace
  · obtain ⟨ws, t, hpath, events, hjournal, hends, -⟩ := keepsTo_execute r s inputs w
    rw [← hpath]
    rw [h] at hends
    generalize hf : Work.failureIn? (.error e : Except Failure Report) = f at hends
    generalize hmade : Event.calls events = made at hends
    cases hends with
    | finished => exact Or.inr (mayEnd_of_plan huses hcheck hf.symm)
    | refused before after mode c e' hsplit =>
      obtain rfl : e = e' := Option.some.inj hf
      refine Or.inl ⟨events, hjournal, mode, c, ?_⟩
      rw [hmade]
      exact List.mem_append_right _ List.mem_cons_self
    | broken before after path cause hsplit =>
      obtain rfl : e = .workspace path cause := Option.some.inj hf
      exact Or.inr (.files huses path cause)
  · exact passedOn_or_mayEnd_of_not_usesWorkspace huses hcheck h

/-- What a session passes on is what the runner says. -/
lemma gives_of_passedOn (h : w.PassedOn e ((s.execute r inputs).run w).2) : r.Gives e := by
  obtain ⟨events, hjournal, mode, c, hmem⟩ := h
  obtain ⟨events', hjournal', hgives⟩ := failedAsGiven_execute s r inputs w
  obtain rfl : events = events' := List.append_cancel_left (hjournal.symm.trans hjournal')
  exact hgives mode c e hmem

/-- Where flags are to be shown and the backend has none, that is how the session ends. -/
lemma execute_of_lacking {flag : String} (hcheck : s.settings.checkSession inputs = .ok ())
    (hflag : s.settings.action.flagOption? = some flag)
    (h : s.settings.backend.nativeFlags s.environment = .error e) :
    ((s.execute r inputs).run w).1 = .error e := by
  refine Work.eq_error_of_failureIn? ?_
  have hends := queryEnds_execute (r := r) (w := w) hcheck hflag
  generalize Work.failureIn? ((s.execute r inputs).run w).1 = f at hends ⊢
  generalize ((s.execute r inputs).run w).2 = w' at hends
  cases hends with
  | lacking h' => rw [h] at h'; rw [Except.error.inj h']
  | known h' | asked h' => exact absurd (h.symm.trans h') (by simp)

/-- **Which failures a session can end in**, once its settings are accepted. A script is always
shown. Flags for MLIR cannot be shown, nor those for SystemC without the variable. Whatever else a
session fails of is what the runner says of a call, or what `MayEnd` allows. So with a runner that
fails by tools, a backend is missing from a table just where flags for MLIR are to be shown, no
variable is missing but that of SystemC, there is no objection but to a blank in the path of a
working directory that is used, and no script is malformed.

**Proof sketch.** A session without a working directory does one thing, of which it is known how it
ends. Any other session keeps to its plan: it ends early because a call fails, because of the files,
or because of what stands at the end of the plan, and there the rules for the settings leave only a
blank in the path and the variable of SystemC. -/
theorem execute_failures (s : Session) (r : Runner σ) (inputs : List Path) (w : World σ)
    (hcheck : s.settings.checkSession inputs = .ok ()) :
    let done := (s.execute r inputs).run w
    let dir := Workspace.acquiredPath s.settings.workingDir w.disk
    let showsFlags := s.settings.action = .showCompileFlags ∨ s.settings.action = .showLinkFlags
    (s.settings.action = .showScript → ∃ report, done.1 = .ok report) ∧
    (showsFlags → s.settings.backend = .mlir →
      done.1 = .error (.unknownBackend "mlir" "native")) ∧
    (showsFlags → s.settings.backend = .sc → s.environment.get? "SC_TYPES_DIR" = none →
      done.1 = .error (.missingVariable "SC_TYPES_DIR" "SystemC")) ∧
    (∀ e, done.1 = .error e → w.PassedOn e done.2 ∧ r.Gives e ∨ s.MayEnd dir e) ∧
    (r.FailsByTools →
      ((∃ name table, done.1 = .error (.unknownBackend name table)) ↔
        showsFlags ∧ s.settings.backend = .mlir) ∧
      (∀ name backend, done.1 = .error (.missingVariable name backend) →
        s.settings.backend = .sc ∧ s.environment.get? "SC_TYPES_DIR" = none) ∧
      (∀ o, done.1 = .error (.invalid o) →
        s.UsesWorkspace ∧ Text.hasBlank dir.text = true) ∧
      ∀ line flaw, done.1 ≠ .error (.malformed line flaw)) := by
  intro done dir showsFlags
  have hflags (h : showsFlags) : ∃ flag, s.settings.action.flagOption? = some flag := by
    rcases h with h | h <;> exact ⟨_, by rw [h]; rfl⟩
  have hshows (h : s.settings.action.flagOption?.isSome = true) : showsFlags := by
    show _ ∨ _
    cases haction : s.settings.action <;> simp_all [Action.flagOption?]
  have hmlir (h : showsFlags) (hbackend : s.settings.backend = .mlir) :
      done.1 = .error (.unknownBackend "mlir" "native") := by
    obtain ⟨flag, hflag⟩ := hflags h
    exact execute_of_lacking hcheck hflag (by rw [hbackend]; rfl)
  have hends (e : Failure) (h : done.1 = .error e) :
      w.PassedOn e done.2 ∧ r.Gives e ∨ s.MayEnd dir e :=
    (passedOn_or_mayEnd hcheck h).imp_left fun hpassed => ⟨hpassed, gives_of_passedOn hpassed⟩
  refine ⟨fun haction => ?_, hmlir, fun h hbackend hvariable => ?_, hends, fun hr => ?_⟩
  · obtain ⟨text, htext⟩ := exists_script hcheck haction
    have hdone : done = _ := run_execute_showScript hcheck haction
    rw [hdone, htext]
    exact ⟨_, rfl⟩
  · obtain ⟨flag, hflag⟩ := hflags h
    refine execute_of_lacking hcheck hflag ?_
    rw [hbackend, Backend.nativeFlags, show Environment.scTypes = "SC_TYPES_DIR" from rfl,
      hvariable]
  · -- what a tool says is none of these
    have hown (e : Failure) (htool : ∀ t, e ≠ .tool t) (h : done.1 = .error e) :
        s.MayEnd dir e := by
      rcases hends e h with ⟨-, hgives⟩ | hmay
      · obtain ⟨t, ht⟩ := hr e hgives
        exact absurd ht (htool t)
      · exact hmay
    refine ⟨⟨?_, fun h => ⟨_, _, hmlir h.1 h.2⟩⟩, ?_, ?_, ?_⟩
    · rintro ⟨name, table, h⟩
      cases hown _ (by simp) h with
      | lacksTable hflag hbackend => exact ⟨hshows hflag, hbackend⟩
    · intro name backend h
      cases hown _ (by simp) h with
      | lacksVariable _ hbackend hvariable => exact ⟨hbackend, hvariable⟩
    · intro o h
      cases hown _ (by simp) h with
      | blank huses hblank => exact ⟨huses, hblank⟩
    · intro line flaw h
      cases hown _ (by simp) h

/-- A session that shows the flags for linking MLIR. -/
def linkingMlir : Session where
  settings := { action := .showLinkFlags, backend := .mlir }
  installation := ⟨"/home/.opam/bin/asli"⟩

/-- The settings are accepted, and the session fails because MLIR is in no table. -/
theorem execute_failures_linkingMlir :
    linkingMlir.settings.checkSession [] = .ok () ∧ (Rehearsal.runner {}).FailsByTools ∧
      ∃ name table, ((linkingMlir.execute (Rehearsal.runner {}) []).run atHome).1 =
        .error (.unknownBackend name table) := by
  have hcheck : linkingMlir.settings.checkSession [] = .ok () := rfl
  obtain ⟨-, -, -, -, hfailures⟩ :=
    execute_failures linkingMlir (Rehearsal.runner {}) [] atHome hcheck
  obtain ⟨hbackend, -⟩ := hfailures (Rehearsal.failsByTools {})
  exact ⟨hcheck, Rehearsal.failsByTools {}, hbackend.2 ⟨Or.inr rfl, rfl⟩⟩

end Session

end AslBuild
