import AslBuild.Proofs.Session.Cleanup
import AslBuild.Proofs.Session.Course
set_option autoImplicit false

/-!
# Backends that lack something

A backend may be missing from a table, or need a variable that is not set. A session fails because
of that before it calls any tool, with one exception: what a native build needs is looked up only
after the compiler has generated the code for it. With the SystemC backend that may fail.

## Main definitions

* `AslBuild.Failure.isUnresolved` — the failures of a backend that lacks something.
* `AslBuild.World.PassedOn` — a tool was called that failed in a way.
* `AslBuild.Session.ResolvesLate` — settings whose lack is found only after code was generated.

## Main results

* `AslBuild.Session.execute_unresolved` — which tools were called if a backend lacks something.
* `AslBuild.Session.exists_unresolved_after_call` — a session that calls the compiler before it
  fails because of the backend.
-/

namespace AslBuild

/-- Whether a failure is that of a backend that lacks something: it is missing from a table, or its
variable is not set. -/
def Failure.isUnresolved : Failure → Bool
  | .unknownBackend _ _ | .missingVariable _ _ => true
  | _ => false

/-- Between two worlds a tool was called that failed with `e`. -/
def World.PassedOn {σ : Type} (e : Failure) (w w' : World σ) : Prop :=
  ∃ events, w'.journal = w.journal ++ events ∧ ∃ mode c, (mode, c, some e) ∈ Event.calls events

namespace Session

variable {s : Session} {inputs : List Path} {ws : Workspace} {t : Toolchain} {e : Failure}

/-- What the session lacks is found only after code was generated: the code is to be linked for the
SystemC backend, and the variable for that is not set. -/
def ResolvesLate (s : Session) : Prop :=
  s.linksCode = true ∧ s.settings.backend = .sc ∧ s.environment.get? Environment.scTypes = none

/-- The calls that are planned before a lack of the backend is found: none, or the compiler that
generates code if the session resolves late. -/
def LackFoundAfter (s : Session) (generate : Command) (e : Failure)
    (calls : List (CallMode × Command)) : Prop :=
  ¬ s.ResolvesLate ∧ calls = [] ∨
    s.ResolvesLate ∧ e = .missingVariable Environment.scTypes "SystemC" ∧ calls = [(.run, generate)]

/-! ## Plans that fail -/

/-- If nothing is linked, the session does not resolve late. -/
lemma not_resolvesLate_of_links (h : s.settings.action.links = false) : ¬ s.ResolvesLate := by
  rintro ⟨hlinks, -, -⟩
  simp [linksCode, h] at hlinks

/-- Nothing is planned before the failure of something that has to be there first. -/
lemma lackFoundAfter_of_provided {α : Type} {x : Except Failure α}
    {calls : List (CallMode × Command)} {c : Command} (hlate : ¬ s.ResolvesLate)
    (h : (Plan.provided x ⟨calls, none⟩).failure = some e) :
    s.LackFoundAfter c e (Plan.provided x ⟨calls, none⟩).calls := by
  cases x with
  | ok a => exact absurd h (by simp)
  | error e' => exact Or.inl ⟨hlate, rfl⟩

/-- If the plan of what generates code fails for lack of something, nothing is planned before that,
or the session resolves late. -/
lemma lackFoundAfter_buildPlan (inputs : List Path) (ws : Workspace)
    (hcheck : s.settings.checkPipeline = .ok ())
    (hmlir : s.linksCode = true → s.settings.backend ≠ .mlir) (he : e.isUnresolved = true)
    (h : (s.buildPlan inputs ws t).failure = some e) :
    s.LackFoundAfter (s.generateCommand ws inputs) e (s.buildPlan inputs ws t).calls := by
  unfold buildPlan at h ⊢
  cases hp : s.settings.pipelineInto ws.path.text with
  | error e' =>
    rw [hp] at h
    obtain rfl : e' = e := Option.some.inj h
    refine Or.inl ⟨fun hlate => ?_, rfl⟩
    rcases (Settings.pipelineInto_eq_error_iff hcheck).1 hp with ⟨-, rfl⟩ | ⟨-, -, hbackend, -⟩
    · exact absurd he (by simp [Failure.isUnresolved])
    · exact absurd (hlate.2.1.symm.trans hbackend) (by simp)
  | ok p =>
    rw [hp, Plan.provided_ok] at h
    by_cases hlinks : s.linksCode = true
    · rw [if_pos hlinks] at h ⊢
      cases hflags : s.settings.backend.nativeFlags s.environment with
      | ok extra =>
        rw [hflags] at h
        exact absurd h (by simp [Plan.cons])
      | error e' =>
        rw [hflags] at h
        obtain rfl : e' = e := Option.some.inj h
        rcases Backend.nativeFlags_eq_error hflags with ⟨hbackend, -⟩ | ⟨hbackend, hvar, rfl⟩
        · exact absurd hbackend (hmlir hlinks)
        · exact Or.inr ⟨⟨hlinks, hbackend, hvar⟩, rfl, rfl⟩
    · rw [if_neg hlinks] at h
      exact absurd h (by simp [Plan.cons])

/-- **If the plan of a session fails for lack of something**, nothing is planned before that, or the
session resolves late. -/
lemma lackFoundAfter_plan (he : e.isUnresolved = true)
    (h : (s.plan inputs ws t).failure = some e) :
    s.LackFoundAfter (s.generateCommand ws inputs) e (s.plan inputs ws t).calls := by
  unfold plan at h ⊢
  cases hcheck : s.settings.checkSession inputs with
  | error e' =>
    rw [hcheck] at h
    obtain rfl : e' = e := Option.some.inj h
    obtain ⟨o, rfl⟩ := Settings.exists_objection_of_checkSession hcheck
    exact absurd he (by simp [Failure.isUnresolved])
  | ok _ =>
    rw [hcheck, Plan.provided_ok] at h
    rw [Plan.provided_ok]
    have hbuild (hmlir : s.linksCode = true → s.settings.backend ≠ .mlir) :=
      lackFoundAfter_buildPlan (s := s) (t := t) (e := e) inputs ws
        (Settings.checkPipeline_of_checkSession hcheck) hmlir
    unfold dispatchPlan at h ⊢
    cases ha : s.settings.action with
    | showScript | showCompileFlags | showLinkFlags =>
      rw [ha] at h
      exact lackFoundAfter_of_provided (not_resolvesLate_of_links (by rw [ha]; rfl)) h
    | generate =>
      rw [ha] at h
      refine hbuild (fun hlinks => absurd hlinks ?_) he h
      simp [linksCode, ha, Action.links]
    | build =>
      rw [ha] at h
      exact hbuild (fun _ => (backend_of_check hcheck ha).2) he h
    | run =>
      cases hb : s.settings.backend with
      | interpreter | mlir =>
        rw [ha, hb] at h
        exact absurd h (by simp [mlirPlan, Plan.cons])
      | ac | c23 | fallback | sc =>
        rw [ha, hb] at h
        exact hbuild (fun _ => by rw [hb]; simp) he h

/-! ## Main results -/

/-- **Which tools were called if a backend lacks something.** Unless it is a tool that fails with
that, no tool was called before the lack was found, and the runner is as it was. The one exception
are settings that resolve late: then the compiler was called to generate code, and succeeded, and
nothing else was called.

**Proof sketch.** The session keeps to its plan. A call that fails passes its failure on, and the
files fail with a failure of their own. So the failure is the one at the end of the plan, and all
calls in front of it were made: a plan that fails for lack of something has none, or just that of
the compiler. -/
theorem execute_unresolved (s : Session) {σ : Type} (r : Runner σ) (inputs : List Path)
    (w : World σ) (e : Failure) (he : e.isUnresolved = true)
    (h : ((s.execute r inputs).run w).1 = .error e) :
    let done := ((s.execute r inputs).run w).2
    w.PassedOn e done ∨
      ¬ s.ResolvesLate ∧ Event.calls done.journal = Event.calls w.journal ∧
        done.tools = w.tools ∨
      s.ResolvesLate ∧ e = .missingVariable Environment.scTypes "SystemC" ∧
        ∃ ws : Workspace, ws.path = Workspace.acquiredPath s.settings.workingDir w.disk ∧
          Event.calls done.journal =
            Event.calls w.journal ++ [(.run, s.generateCommand ws inputs, none)] := by
  intro done
  obtain ⟨ws, t, hpath, events, hjournal, hends, htools⟩ := keepsTo_execute r s inputs w
  have hcalls : Event.calls done.journal = Event.calls w.journal ++ Event.calls events := by
    rw [hjournal, Event.calls_append]
  rw [h] at hends
  generalize hf : Work.failureIn? (.error e : Except Failure Report) = f at hends
  generalize hmade : Event.calls events = made at hends
  cases hends with
  | finished =>
    rw [hmade] at hcalls
    rcases lackFoundAfter_plan he hf.symm with ⟨hlate, hnone⟩ | ⟨hlate, he, hsome⟩
    · rw [hnone] at hcalls hmade
      exact Or.inr (Or.inl ⟨hlate, hcalls.trans (List.append_nil _), htools hmade⟩)
    · rw [hsome] at hcalls
      exact Or.inr (Or.inr ⟨hlate, he, ws, hpath, hcalls⟩)
  | refused before after mode c e' hsplit =>
    obtain rfl : e = e' := Option.some.inj hf
    refine Or.inl ⟨events, hjournal, mode, c, ?_⟩
    rw [hmade]
    exact List.mem_append_right _ List.mem_cons_self
  | broken before after path cause hsplit =>
    obtain rfl : e = .workspace path cause := Option.some.inj hf
    exact absurd he (by simp [Failure.isUnresolved])

/-- A session that builds for the SystemC backend, with no variable set. -/
def forSystemC : Session where
  settings := { action := .build, backend := .sc, workingDir := some "work" }
  installation := ⟨"/opt/asli"⟩

/-- The session fails because of the variable. -/
lemma execute_forSystemC :
    ((forSystemC.execute (Rehearsal.runner {}) ["spec.asl"]).run atHome).1 =
      .error (.missingVariable Environment.scTypes "SystemC") := by
  have hfailure : Work.failureIn?
      ((forSystemC.execute (Rehearsal.runner {}) ["spec.asl"]).run atHome).1 =
      some (.missingVariable Environment.scTypes "SystemC") := by decide +kernel
  exact Work.eq_error_of_failureIn? hfailure

/-- The compiler is called once before the session fails for lack of the variable. -/
theorem execute_unresolved_forSystemC :
    let done := (forSystemC.execute (Rehearsal.runner {}) ["spec.asl"]).run atHome
    done.1 = .error (.missingVariable Environment.scTypes "SystemC") ∧
      ∃ ws : Workspace, ws.path = "work" ∧
        Event.calls done.2.journal =
          [(.run, forSystemC.generateCommand ws ["spec.asl"], none)] := by
  intro done
  refine ⟨execute_forSystemC, ?_⟩
  have hlate : forSystemC.ResolvesLate := ⟨rfl, rfl, rfl⟩
  rcases execute_unresolved forSystemC (Rehearsal.runner {}) ["spec.asl"] atHome _ rfl
    execute_forSystemC with
    ⟨events, hjournal, mode, c, hmem⟩ | ⟨hnot, -⟩ | ⟨-, -, ws, hpath, hcalls⟩
  · have hnone : (Event.calls done.2.journal).all (fun call => call.2.2 = none) = true := by
      decide +kernel
    rw [hjournal, Event.calls_append, List.all_append] at hnone
    have hcall := List.all_eq_true.1 (Bool.and_eq_true_iff.1 hnone).2 _ hmem
    exact absurd hcall (by simp)
  · exact absurd hlate hnot
  · exact ⟨ws, hpath, hcalls⟩

/-- **A session may call the compiler before it fails because of the backend**: the rules accept a
build for the SystemC backend, and it is found only after code was generated that the variable is
not set. -/
theorem exists_unresolved_after_call :
    ∃ (s : Session) (r : Runner (List String)) (inputs : List Path) (w : World (List String))
      (e : Failure) (c : Command),
      s.settings.checkSession inputs = .ok () ∧ ((s.execute r inputs).run w).1 = .error e ∧
        e.isUnresolved = true ∧ Event.calls w.journal = [] ∧
        (.run, c, none) ∈ Event.calls ((s.execute r inputs).run w).2.journal :=
  ⟨forSystemC, Rehearsal.runner {}, ["spec.asl"], atHome, _,
    ⟨"/opt/asli", ["--batchmode", "--nobanner", "--check-call-markers", "--check-exception-markers",
      "--no-check-constraints", "--no-runtime-checks", "--project=work/asl2c.prj",
      "--configuration=work/config.json", "spec.asl"]⟩,
    rfl, execute_forSystemC, rfl, rfl, by decide +kernel⟩

end Session

end AslBuild
