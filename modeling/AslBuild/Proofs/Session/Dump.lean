import AslBuild.Proofs.Session.Compiler
set_option autoImplicit false

/-!
# Dumping the definitions in place of code

A session may ask for the final definitions in place of code. Then there is nothing to compile, to
link or to run: the only tool that the session runs is the compiler, once at most. There is one
exception: what runs MLIR does not look at the setting, so MLIR is generated and run all the same.
But no session that dumps gives a program.

## Main definitions

* `AslBuild.Work.Gives` — a step gives only values with a property.

## Main results

* `AslBuild.Session.execute_showFinal` — what a session calls if it dumps the definitions.
* `AslBuild.Session.exists_dump_running` — a session that dumps and runs MLIR.
-/

namespace AslBuild

/-! ## What steps give -/

namespace Work

variable {σ α β : Type}

/-- A step gives only values with a property. -/
def Gives (P : α → Prop) (x : Work σ α) : Prop := ∀ w a, (x.run w).1 = .ok a → P a

variable {P : α → Prop} {Q : β → Prop}

/-- A value with the property. -/
lemma gives_pure {a : α} (h : P a) : Gives P (pure a : Work σ α) := by
  intro w b hb
  obtain rfl : a = b := Except.ok.inj hb
  exact h

/-- A result whose value, if it is one, has the property. -/
lemma gives_ofExcept {x : Except Failure α} (h : ∀ a, x = .ok a → P a) :
    Gives P (Act.ofExcept x : Work σ α) := fun _ a ha => h a ha

/-- A sequence gives what its second part gives, for what the first part gives. -/
lemma Gives.bind {x : Work σ α} {f : α → Work σ β} (hx : Gives P x)
    (hf : ∀ a, P a → Gives Q (f a)) : Gives Q (x >>= f) := by
  intro w b hb
  rcases hrun : x.run w with ⟨e | a, w'⟩
  · rw [Act.bind_error hrun] at hb
    exact absurd hb (by simp)
  · rw [Act.bind_ok hrun] at hb
    exact hf a (hx w a (by rw [hrun])) w' b hb

/-- A sequence gives what its second part gives. -/
lemma gives_bind {x : Work σ α} {f : α → Work σ β} (hf : ∀ a, Gives Q (f a)) :
    Gives Q (x >>= f) :=
  Gives.bind (P := fun _ => True) (fun _ _ _ => trivial) fun a _ => hf a

/-- A step whose outcome is looked at gives a result whose value has the property. -/
lemma Gives.attempt {x : Work σ α} (hx : Gives P x) :
    Gives (fun outcome => ∀ a, outcome = .ok a → P a) x.attempt := by
  intro w outcome houtcome a ha
  obtain rfl : (x.run w).1 = outcome := Except.ok.inj houtcome
  exact hx w a ha

end Work

namespace Session

open Work

variable {σ : Type} {s : Session} {r : Runner σ} {inputs : List Path}

/-! ## Sessions that give no program -/

/-- Following a script gives no program if code is not linked. -/
lemma gives_build (hlinks : s.linksCode = false) (ws : Workspace) :
    Gives (fun result => result.1 = none) (s.build r inputs ws) := by
  refine gives_bind fun p => gives_bind fun _ => gives_bind fun _ => gives_bind fun compiler => ?_
  rw [linksCode] at hlinks
  rw [hlinks]
  exact gives_pure rfl

/-- Running MLIR gives no program. -/
lemma gives_runMlir (ws : Workspace) :
    Gives (fun result => result.1 = none) (s.runMlir r inputs ws) :=
  gives_bind fun _ => gives_bind fun _ => gives_bind fun _ => gives_bind fun _ =>
    gives_bind fun _ => gives_pure rfl

/-- Steps in a working directory give a program only if they do so themselves. -/
lemma gives_inWorkspace {steps : Workspace → Work σ (Option Path × Statistics)}
    (hsteps : ∀ ws, Gives (fun result => result.1 = none) (steps ws)) :
    Gives (fun report => report.executable = none) (s.inWorkspace steps) := by
  refine gives_bind fun ws => (hsteps ws).attempt.bind fun outcome houtcome => ?_
  refine gives_bind fun released => (gives_ofExcept houtcome).bind ?_
  rintro ⟨executable, statistics⟩ hnone
  exact gives_bind fun _ => gives_pure hnone

/-- **A session that links no code gives no program.** -/
theorem gives_execute (hlinks : s.linksCode = false) :
    Gives (fun report => report.executable = none) (s.execute r inputs) := by
  have hdispatch : Gives (fun report => report.executable = none) (s.dispatch r inputs) := by
    unfold dispatch
    split
    · exact gives_bind fun _ => gives_pure rfl
    · exact gives_bind fun _ => gives_pure rfl
    · exact gives_bind fun _ => gives_pure rfl
    · exact gives_bind fun _ => gives_pure rfl
    · exact gives_inWorkspace gives_runMlir
    · exact gives_inWorkspace (gives_build hlinks)
  refine gives_bind fun _ => hdispatch.bind fun report hnone => ?_
  dsimp only
  split
  · exact gives_bind fun _ => gives_pure hnone
  · exact gives_pure hnone

/-! ## Sessions that dump -/

/-- A session that dumps links no code. -/
lemma linksCode_of_showFinal (h : s.settings.showFinal = true) : s.linksCode = false := by
  rw [linksCode, h, Bool.not_true, Bool.and_false]

/-- A question for flags is put to the compiler, and runs nothing. -/
lemma question_of_mem {flag : String} {call : CallMode × Command} (h : call ∈ s.question flag) :
    call.1 = .capture ∧ call.2.program = s.installation.program.text := by
  unfold question at h
  split at h
  · obtain rfl := List.mem_singleton.1 h
    exact ⟨rfl, rfl⟩
  · exact absurd h List.not_mem_nil

/-- The question of a session that shows flags is put to the compiler, and runs nothing. -/
lemma shownQuestion_of_mem {call : CallMode × Command} (h : call ∈ s.shownQuestion) :
    call.1 = .capture ∧ call.2.program = s.installation.program.text := by
  unfold shownQuestion at h
  split at h
  · exact question_of_mem h
  · exact question_of_mem h
  · exact absurd h List.not_mem_nil

/-- The calls are all of the compiler, and no more than one of them runs it. -/
structure OnlyCompiler (s : Session) (calls : List (CallMode × Command)) : Prop where
  /-- The compiler is all that is called. -/
  compiler : ∀ call ∈ calls, call.2.program = s.installation.program.text
  /-- It is run once at most. -/
  once : (calls.filter (·.1 = .run)).length ≤ 1

/-- The first ones of such calls are such calls. -/
lemma OnlyCompiler.of_isPrefix {calls made : List (CallMode × Command)} (h : s.OnlyCompiler calls)
    (hfirst : made <+: calls) : s.OnlyCompiler made where
  compiler call hmem := h.compiler call (hfirst.subset hmem)
  once := Nat.le_trans (hfirst.sublist.filter _).length_le h.once

/-- **If definitions are dumped, only the compiler is called**, and run once at most, but for what
runs MLIR. -/
lemma onlyCompiler_allCalls (h : s.settings.showFinal = true) (hmlir : s.task? ≠ some .mlir)
    (ws : Workspace) (t : Toolchain) : s.OnlyCompiler (s.allCalls inputs ws t) := by
  have hrun (task : CompilerTask) : s.OnlyCompiler [(.run, s.compilerRun inputs ws task)] := by
    refine ⟨fun call hmem => ?_, Nat.le_refl 1⟩
    rw [List.mem_singleton.1 hmem, compilerRun_eq]
  unfold allCalls
  cases htask : s.task? with
  | none =>
    refine ⟨fun call hmem => (shownQuestion_of_mem hmem).2, ?_⟩
    rw [List.filter_eq_nil_iff.2 fun call hmem => by simp [(shownQuestion_of_mem hmem).1]]
    exact Nat.zero_le 1
  | some task =>
    cases task with
    | follow =>
      have hlater : s.laterCalls ws t .follow = [] :=
        if_neg (by rw [linksCode_of_showFinal h]; simp)
      simp only [hlater]
      exact hrun .follow
    | mlir => exact absurd htask hmlir
    | interpret => exact hrun .interpret

/-- **What a session calls if it dumps the definitions.** If it succeeds, it gives no program.
Unless it runs MLIR, all that it calls is the compiler, and it runs it once at most: nothing is
compiled, linked or run. If it runs MLIR, the setting makes no difference: it runs the compiler and
then what runs MLIR.

**Proof sketch.** A session makes the first ones of its calls (`execute_calls`). After the compiler
followed a script there are none left, since no code is linked. The other sessions ask the compiler
for flags at most, or have it interpret the program. -/
theorem execute_showFinal (s : Session) (r : Runner σ) (inputs : List Path) (w : World σ)
    (h : s.settings.showFinal = true) :
    let done := (s.execute r inputs).run w
    (∀ report, done.1 = .ok report → report.executable = none) ∧
      ∃ (ws : Workspace) (events : List Event),
        ws.path = Workspace.acquiredPath s.settings.workingDir w.disk ∧
          done.2.journal = w.journal ++ events ∧
          (s.task? ≠ some .mlir → s.OnlyCompiler ((Event.calls events).map Plan.bare)) ∧
          (s.task? = some .mlir → (Event.calls events).map Plan.bare <+:
            [(.run, s.mlirCommand ws inputs), (.run, mlirProgram ws)]) := by
  intro done
  obtain ⟨ws, t, events, hpath, hjournal, hfirst, -, -⟩ := execute_calls s r inputs w
  refine ⟨gives_execute (linksCode_of_showFinal h) w, ws, events, hpath, hjournal, ?_, ?_⟩
  · intro hmlir
    exact (onlyCompiler_allCalls h hmlir ws t).of_isPrefix hfirst
  · intro hmlir
    rw [allCalls, hmlir] at hfirst
    exact hfirst

/-- A session that is to build a program, but dumps the definitions. -/
def dumping : Session where
  settings := { action := .build, showFinal := true, workingDir := some "w", extraC := ["x.c"] }
  installation := ⟨"/opt/asli"⟩

/-- The compiler is run, and nothing else is done. -/
theorem execute_showFinal_dumping :
    let done := (dumping.execute (Rehearsal.runner {}) ["spec.asl"]).run atHome
    (∃ report, done.1 = .ok report ∧ report.executable = none) ∧
      ∃ call, (Event.calls done.2.journal).map Plan.bare = [call] ∧
        call.2.program = "/opt/asli" := by
  intro done
  obtain ⟨hnone, ws, events, -, hjournal, honly, -⟩ :=
    execute_showFinal dumping (Rehearsal.runner {}) ["spec.asl"] atHome rfl
  have hcompiler := (honly (by decide)).compiler
  have hcalls : Event.calls done.2.journal = Event.calls events := by
    rw [hjournal, Event.calls_append]
    rfl
  rw [← hcalls] at hcompiler
  have hlength : ((Event.calls done.2.journal).map Plan.bare).length = 1 := by decide +kernel
  obtain ⟨call, hcall⟩ := List.length_eq_one_iff.1 hlength
  refine ⟨?_, call, hcall, hcompiler call (by rw [hcall]; exact List.mem_singleton_self call)⟩
  have hsuccess : Work.failureIn? done.1 = none := by decide +kernel
  rcases hresult : done.1 with e | report
  · rw [hresult] at hsuccess
    exact absurd hsuccess (by simp [Work.failureIn?])
  · exact ⟨report, rfl, hnone report hresult⟩

/-- A session that dumps the definitions and runs MLIR. -/
def dumpingMlir : Session where
  settings := { action := .run, backend := .mlir, showFinal := true, workingDir := some "w" }
  installation := ⟨"/opt/asli"⟩

/-- **A session that dumps the definitions may run something**: MLIR is run as without the dump. -/
theorem exists_dump_running :
    ∃ (s : Session) (r : Runner (List String)) (inputs : List Path) (w : World (List String))
      (c : Command),
      s.settings.checkSession inputs = .ok () ∧ s.settings.showFinal = true ∧
        (.run, c, none) ∈ Event.calls ((s.execute r inputs).run w).2.journal ∧
        c.program = "asl-opt" ∧ c.program ≠ s.installation.program.text :=
  ⟨dumpingMlir, Rehearsal.runner {}, ["spec.asl"], atHome,
    ⟨"asl-opt", ["--target=exec", "w/asl.mlir"]⟩, rfl, rfl, by decide +kernel, rfl, by decide⟩

end Session

end AslBuild
