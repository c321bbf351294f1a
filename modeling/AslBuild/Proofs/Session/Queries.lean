import AslBuild.Proofs.Session.Residue
set_option autoImplicit false

/-!
# Sessions that only show something

A session that shows a script or some flags reads no input files, and it has nothing to do with a
working directory, whatever the settings say of one. All that it may do is to ask the compiler for
flags, once, and only if the settings are accepted, the backend lacks nothing and the compiler was
installed by its package manager. What the compiler does when it is asked is its own affair;
everything else stays as it was, whether the session succeeds or fails.

## Main definitions

* `AslBuild.Action.flagOption?` — how the compiler is asked for the flags that an action shows.
* `AslBuild.Session.flagQuery` — the command that asks it.
* `AslBuild.Session.Asks` — the session gets to the point where the compiler is asked.
* `AslBuild.Session.QueryEnds` — how a session that shows flags ends.

## Main results

* `AslBuild.Session.run_execute_of_showing` — what comes of a session that only shows something.
* `AslBuild.Session.queryEnds_execute` — what comes of a session that shows flags.
* `AslBuild.Session.execute_query` — a session that only shows something asks at most one question
  and does nothing else.
-/

namespace AslBuild

open FileSystem

/-- The option by which the compiler is asked for the flags that an action shows. -/
def Action.flagOption? : Action → Option String
  | .showCompileFlags => some "--print-c-flags"
  | .showLinkFlags => some "--print-ld-flags"
  | _ => none

namespace Session

/-- The command by which the compiler is asked for flags. -/
def flagQuery (s : Session) (flag : String) : Command := ⟨s.installation.program.text, [flag]⟩

/-- The session asks the compiler for flags. -/
structure Asks (s : Session) (inputs : List Path) (flag : String) : Prop where
  /-- Flags are to be shown. -/
  action : s.settings.action.flagOption? = some flag
  /-- The settings are accepted. -/
  checked : s.settings.checkSession inputs = .ok ()
  /-- The backend has native flags. -/
  resolves : ∃ extra, s.settings.backend.nativeFlags s.environment = .ok extra
  /-- The path of the compiler bears the name of the package manager. -/
  installed : ∃ before after, s.installation.program.text = before ++ "opam" ++ after

variable {σ : Type} {s : Session} {r : Runner σ} {inputs : List Path} {w : World σ} {flag : String}

/-- A compiler that was installed by its package manager has the name of that in its path. -/
lemma isInstalled_iff {i : Installation} :
    i.isInstalled = true ↔ ∃ before after, i.program.text = before ++ "opam" ++ after := by
  rw [Installation.isInstalled, Text.occursIn, Text.occurs_iff]
  constructor
  · rintro ⟨before, after, h⟩
    refine ⟨String.ofList before, String.ofList after, String.toList_inj.1 ?_⟩
    simpa using h
  · rintro ⟨before, after, h⟩
    exact ⟨before.toList, after.toList, by rw [h]; simp⟩

/-! ## Showing something -/

/-- **What comes of a session that only shows something**: what comes of the text it shows. -/
theorem run_execute_of_showing {x : Work σ String}
    (hcheck : s.settings.checkSession inputs = .ok ()) (hx : s.dispatch r inputs = showing x) :
    (s.execute r inputs).run w =
      ((x.run w).1.map fun text => { output := some (Text.trimEnd text) }, (x.run w).2) := by
  rw [run_execute hcheck, hx, showing, Act.run_bind_pure]
  rcases x.run w with ⟨e | text, w'⟩ <;> simp [epilogue, Except.map, trimmed]

/-- What comes of asking the compiler for flags, as words. -/
lemma run_query (i : Installation) (flag : String) :
    (i.query r flag).run w =
      (((Work.ask r ⟨i.program.text, [flag]⟩).run w).1.map Text.words,
        ((Work.ask r ⟨i.program.text, [flag]⟩).run w).2) :=
  Act.run_bind_pure _ _ _

/-- How a session that shows flags ends: why it fails, if it does, and in which world. -/
inductive QueryEnds (s : Session) (r : Runner σ) (flag : String) (w : World σ) :
    Option Failure → World σ → Prop
  /-- The backend lacks something, and nothing is done. -/
  | lacking {e : Failure} (h : s.settings.backend.nativeFlags s.environment = .error e) :
    QueryEnds s r flag w (some e) w
  /-- The runtime is in a build tree, and nothing is done. -/
  | known {extra : NativeFlags} (h : s.settings.backend.nativeFlags s.environment = .ok extra)
    (hplace : s.installation.isInstalled = false) : QueryEnds s r flag w none w
  /-- The compiler is asked, and may fail. -/
  | asked {extra : NativeFlags} (h : s.settings.backend.nativeFlags s.environment = .ok extra)
    (hplace : s.installation.isInstalled = true) :
    QueryEnds s r flag w (Work.failureIn? ((Work.ask r (s.flagQuery flag)).run w).1)
      ((Work.ask r (s.flagQuery flag)).run w).2

/-- A value that is changed is no failure. -/
lemma failureIn?_map {α β : Type} (x : Except Failure α) (f : α → β) :
    Work.failureIn? (x.map f) = Work.failureIn? x := by
  cases x <;> rfl

/-- What comes of flags that are looked up or asked for, and then put in front of those of the
backend. -/
lemma queryEnds_flags (w : World σ) (runtime : Work σ (List String)) {fixed : List String}
    (pick : NativeFlags → List String)
    (hruntime : runtime = if s.installation.isInstalled then s.installation.query r flag
      else pure fixed) :
    let flags : Work σ (List String) := do
      let extra ← Act.ofExcept (s.settings.backend.nativeFlags s.environment)
      let runtime ← runtime
      pure (runtime ++ pick extra)
    QueryEnds s r flag w (Work.failureIn? (flags.run w).1) (flags.run w).2 := by
  intro flags
  cases h : s.settings.backend.nativeFlags s.environment with
  | error e =>
    have hrun : flags.run w = (.error e, w) := Act.bind_error (by rw [Act.run_ofExcept, h])
    rw [hrun]
    exact .lacking h
  | ok extra =>
    have hrun : flags.run w = ((runtime.run w).1.map (· ++ pick extra), (runtime.run w).2) := by
      rw [← Act.run_bind_pure]
      exact Act.bind_ok (by rw [Act.run_ofExcept, h])
    rw [hrun, failureIn?_map, hruntime]
    cases hplace : s.installation.isInstalled with
    | false => exact .known h hplace
    | true =>
      rw [if_pos rfl, run_query, failureIn?_map]
      exact .asked h hplace

/-- **What comes of a session that shows flags**: what comes of the flags. -/
theorem queryEnds_execute (hcheck : s.settings.checkSession inputs = .ok ())
    (hflag : s.settings.action.flagOption? = some flag) :
    QueryEnds s r flag w (Work.failureIn? ((s.execute r inputs).run w).1)
      ((s.execute r inputs).run w).2 := by
  have hshown {flags : Work σ (List String)}
      (hdispatch : s.dispatch r inputs = showing do pure (" ".intercalate (← flags)))
      (h : QueryEnds s r flag w (Work.failureIn? (flags.run w).1) (flags.run w).2) :
      QueryEnds s r flag w (Work.failureIn? ((s.execute r inputs).run w).1)
        ((s.execute r inputs).run w).2 := by
    rw [run_execute_of_showing hcheck hdispatch, failureIn?_map, Act.run_bind_pure, failureIn?_map]
    exact h
  cases haction : s.settings.action <;> rw [haction] at hflag <;> cases hflag
  · have hflags := queryEnds_flags (s := s) w (s.installation.compileFlags r)
      NativeFlags.compile rfl
    refine hshown ?_ hflags
    unfold dispatch
    rw [haction]
    rfl
  · have hflags := queryEnds_flags (s := s) w (s.installation.linkFlags r)
      NativeFlags.link rfl
    refine hshown ?_ hflags
    unfold dispatch
    rw [haction]
    rfl

/-! ## Main results -/

/-- A session that reads no input files only shows something. -/
lemma exists_showing (h : s.settings.action.readsInputs = false) (r : Runner σ)
    (inputs : List Path) : ∃ x, s.dispatch r inputs = showing x := by
  unfold dispatch
  cases haction : s.settings.action with
  | showScript => exact ⟨_, rfl⟩
  | showCompileFlags => exact ⟨_, rfl⟩
  | showLinkFlags => exact ⟨_, rfl⟩
  | generate | build | run => simp [haction, Action.readsInputs] at h

/-- A session that shows something and not flags shows a script. -/
lemma action_eq_showScript (hquery : s.settings.action.readsInputs = false)
    (h : s.settings.action.flagOption? = none) : s.settings.action = .showScript := by
  cases haction : s.settings.action <;> simp_all [Action.readsInputs, Action.flagOption?]

/-- What comes of a session that shows a script. Nothing is done. -/
lemma run_execute_showScript (hcheck : s.settings.checkSession inputs = .ok ())
    (haction : s.settings.action = .showScript) :
    (s.execute r inputs).run w =
      (s.script.map fun text => { output := some (Text.trimEnd text) }, w) := by
  refine run_execute_of_showing (x := Act.ofExcept s.script) hcheck ?_
  unfold dispatch
  rw [haction]

/-- A session that asks the compiler leaves what the question leaves. -/
lemma execute_of_asks (h : s.Asks inputs flag) :
    ((s.execute r inputs).run w).2 = ((Work.ask r (s.flagQuery flag)).run w).2 := by
  obtain ⟨extra, hextra⟩ := h.resolves
  generalize hf : Work.failureIn? ((s.execute r inputs).run w).1 = f
  have hends := queryEnds_execute (r := r) (w := w) h.checked h.action
  rw [hf] at hends
  generalize ((s.execute r inputs).run w).2 = w' at hends
  cases hends with
  | lacking hlacking => exact absurd (hlacking.symm.trans hextra) (by simp)
  | known _ hplace => exact absurd (hplace.symm.trans (isInstalled_iff.2 h.installed)) (by simp)
  | asked => rfl

/-- A session that only shows something and does not ask the compiler does nothing at all. -/
lemma execute_of_not_asks (hquery : s.settings.action.readsInputs = false)
    (h : ∀ flag, ¬ s.Asks inputs flag) : ((s.execute r inputs).run w).2 = w := by
  cases hcheck : s.settings.checkSession inputs with
  | error e => rw [run_execute_of_refused hcheck]
  | ok _ =>
    cases hflag : s.settings.action.flagOption? with
    | none => rw [run_execute_showScript hcheck (action_eq_showScript hquery hflag)]
    | some flag =>
      generalize hf : Work.failureIn? ((s.execute r inputs).run w).1 = f
      have hends := queryEnds_execute (r := r) (w := w) hcheck hflag
      rw [hf] at hends
      generalize ((s.execute r inputs).run w).2 = w' at hends
      cases hends with
      | lacking => rfl
      | known => rfl
      | asked hextra hplace =>
        exact absurd ⟨hflag, hcheck, ⟨_, hextra⟩, isInstalled_iff.1 hplace⟩ (h flag)

/-- A session asks no two questions. -/
lemma Asks.unique {flag' : String} (h : s.Asks inputs flag) (h' : s.Asks inputs flag') :
    flag = flag' :=
  Option.some.inj (h.action.symm.trans h'.action)

/-- **A session that only shows something asks at most one question and does nothing else.** It
calls the compiler for what it prints, exactly if flags are to be shown, the settings are accepted,
the backend has native flags and the compiler was installed by its package manager. Nothing but that
call stands in the journal, and the files are as the call leaves them. The session reports no
working directory, no program and no statistics.

**Proof sketch.** The settings are checked first, then the flags of the backend are looked up, and
then the compiler is asked; what comes before the question does nothing, and nothing comes after
it. -/
theorem execute_query (s : Session) {σ : Type} (r : Runner σ) (inputs : List Path) (w : World σ)
    (hquery : s.settings.action.readsInputs = false) :
    let done := (s.execute r inputs).run w
    (∃ calls, Event.calls done.2.journal = Event.calls w.journal ++ calls ∧ calls.length ≤ 1 ∧
      ∀ mode c, (∃ f, (mode, c, f) ∈ calls) ↔
        mode = .capture ∧ ∃ flag, s.Asks inputs flag ∧ c = s.flagQuery flag) ∧
    (∀ flag, s.Asks inputs flag →
      let reply := r.capture (s.flagQuery flag) w.disk w.tools
      done.2 = {
        disk := { w.disk with tree := reply.tree }
        journal := w.journal ++
          .called .capture (s.flagQuery flag) (Work.failureIn? reply.result) ::
            reply.remarks.map .said
        tools := reply.state }) ∧
    ((∀ flag, ¬ s.Asks inputs flag) → done.2 = w) ∧
    (r.LeavesFiles → done.2.disk = w.disk) ∧
    ∀ report, done.1 = .ok report →
      report.workspace = none ∧ report.executable = none ∧ report.statistics = {} := by
  intro done
  have hasked (flag : String) (h : s.Asks inputs flag) :
      done.2 = ((Work.ask r (s.flagQuery flag)).run w).2 := execute_of_asks h
  have hidle (h : ∀ flag, ¬ s.Asks inputs flag) : done.2 = w := execute_of_not_asks hquery h
  refine ⟨?_, fun flag h => hasked flag h, hidle, fun hr => ?_, fun report hreport => ?_⟩
  · by_cases h : ∃ flag, s.Asks inputs flag
    · obtain ⟨flag, h⟩ := h
      refine ⟨[(.capture, s.flagQuery flag,
        Work.failureIn? (r.capture (s.flagQuery flag) w.disk w.tools).result)], ?_, by simp, ?_⟩
      · exact (congrArg (Event.calls ·.journal) (hasked flag h)).trans (Work.calls_call _ _ _ w)
      · intro mode c
        constructor
        · rintro ⟨f, hmem⟩
          cases List.mem_singleton.1 hmem
          exact ⟨rfl, flag, h, rfl⟩
        · rintro ⟨rfl, flag', h', rfl⟩
          rw [h'.unique h]
          exact ⟨_, List.mem_singleton_self _⟩
    · have h := not_exists.1 h
      refine ⟨[], by rw [hidle h, List.append_nil], by simp, fun mode c => ?_⟩
      simp [h]
  · have hsteps : s.steps? r inputs = none := by
      unfold steps?
      cases haction : s.settings.action <;> simp_all [Action.readsInputs]
    exact (untouched_execute hr w fun _ => hsteps).1
  · cases hcheck : s.settings.checkSession inputs with
    | error e =>
      have hrefused : done = (.error e, w) := run_execute_of_refused hcheck w
      rw [hrefused] at hreport
      cases hreport
    | ok _ =>
      obtain ⟨x, hx⟩ := exists_showing hquery r inputs
      have hshown : done = _ := run_execute_of_showing hcheck hx
      rw [hshown] at hreport
      obtain ⟨text, -, rfl⟩ := map_eq_ok_iff.1 hreport
      exact ⟨rfl, rfl, rfl⟩

/-- A session that shows the flags for compiling, with a compiler that was installed by its package
manager. -/
def showingFlags : Session where
  settings := { action := .showCompileFlags, workingDir := some "work", keepFiles := true }
  installation := ⟨"/home/.opam/bin/asli"⟩

/-- A rehearsal in which the compiler tells its flags. -/
def tellingFlags : Rehearsal := { outputs := [("--print-c-flags", "-I/home/.opam/lib/asli")] }

/-- The compiler is asked for its flags, and there is no working directory. -/
theorem execute_query_showingFlags :
    let done := (showingFlags.execute tellingFlags.runner []).run atHome
    showingFlags.Asks [] "--print-c-flags" ∧
      Event.calls done.2.journal =
        [(.capture, ⟨"/home/.opam/bin/asli", ["--print-c-flags"]⟩, none)] ∧
      done.2.disk = atHome.disk ∧ done.1.toOption.bind Report.output =
        some "-I/home/.opam/lib/asli -DASL_C23" := by
  intro done
  have hasks : showingFlags.Asks [] "--print-c-flags" :=
    ⟨rfl, rfl, ⟨_, rfl⟩, "/home/.", "/bin/asli", by decide⟩
  obtain ⟨-, hasked, -, hfiles, -⟩ :=
    execute_query showingFlags tellingFlags.runner [] atHome rfl
  refine ⟨hasks, ?_, hfiles (Rehearsal.leavesFiles _), by decide +kernel⟩
  have hdone : done.2 = _ := hasked _ hasks
  rw [hdone]
  decide +kernel

end Session

end AslBuild
