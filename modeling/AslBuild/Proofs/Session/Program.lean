import AslBuild.Host.Runner
import AslBuild.Proofs.Session.Linking
set_option autoImplicit false

/-!
# The program that is run is the one that was linked

A session that links generated code and runs it names the program twice: to the native compiler,
behind `-o`, and when it is started. Both times it is the same text. Where that has a slash, the
process that is started is that of this file. A bare name, however, is looked up in the directories
of the search path, so another program may be started. The path has no slash exactly if the working
directory is given by the empty path and the basename has none.

## Main definitions

* `AslBuild.Session.programCall?` — the call that runs the linked program, if a session gets there.
* `AslBuild.Session.RunsByName` — the program is run by a bare name.

## Main results

* `AslBuild.Host.startByName_of_slash`, `AslBuild.Host.startByName_of_bare` — what is started for a
  path, and for a bare name.
* `AslBuild.Session.execute_runs_linked` — which program is run.
* `AslBuild.Session.exists_bare_program` — a session that runs whatever program it finds.
-/

namespace AslBuild

open FileSystem

/-! ## What is started -/

namespace Host

variable {launch : Launch} {shell : Option String} {environment : Environment} {c : Command}
  {d : Disk}

/-- **A program with a slash is started by its path**, wherever programs are looked for. -/
lemma startByName_of_slash (h : '/' ∈ c.program.toList) :
    startByName launch shell (startOf environment c d) =
      startAt launch shell (startOf environment c d) := by
  have hslash : '/' ∈ (startOf environment c d).path.toList := Text.Raw.slash_mem_ofText.2 h
  have hname : (startOf environment c d).path.isEmpty = false := by
    rw [← Bool.not_eq_true, String.isEmpty_iff]
    intro hempty
    rw [hempty] at hslash
    exact absurd hslash (by decide)
  unfold startByName
  dsimp only
  rw [hname, if_neg Bool.false_ne_true, if_pos (List.contains_iff_mem.2 hslash)]

/-- The first program of a bare name that can be started is started, in the directories that the
search path lists. -/
def startListed (launch : Launch) (shell : Option String) (start : Start) :
    Run (Except IoError Status) :=
  if maxName < start.path.length then pure (.error (.os .nameTooLong))
  else
    let dirs := (start.process.value? searchVariable).getD defaultSearchPath
    startFirst launch shell start false ((dirs.splitOn ":").map (nameIn start.path))

/-- **A bare name is looked up**, and what is started is what is found. -/
lemma startByName_of_bare (h : '/' ∉ c.program.toList) (hname : c.program ≠ "") :
    startByName launch shell (startOf environment c d) =
      startListed launch shell (startOf environment c d) := by
  have hslash : (startOf environment c d).path.toList.contains '/' = false := by
    rw [← Bool.not_eq_true, List.contains_iff_mem]
    exact fun hmem => h (Text.Raw.slash_mem_ofText.1 hmem)
  have hempty : (startOf environment c d).path.isEmpty = false := by
    rw [← Bool.not_eq_true, String.isEmpty_iff]
    exact fun hnil => hname (Text.Raw.ofText_eq_empty_iff.1 hnil)
  unfold startByName
  dsimp only
  rw [hempty, if_neg Bool.false_ne_true, hslash, if_neg Bool.false_ne_true]
  rfl

end Host

namespace Session

open Work

variable {σ : Type} {s : Session} {r : Runner σ} {inputs : List Path} {w : World σ}
  {ws : Workspace}

/-! ## The program -/

/-- The call that runs the linked program, if it is among the calls of a session: the one after the
link, where the program is run. It is the last one. -/
def programCall? (s : Session) (calls : List (CallMode × Command × Option Failure)) :
    Option (CallMode × Command × Option Failure) :=
  if s.task? = some .follow ∧ s.linksCode = true ∧ s.settings.action = .run then
    calls[1 + s.callsForLink + 1]?
  else none

/-- The program is run by a bare name: the working directory is given by the empty path, and the
basename has no slash. -/
def RunsByName (s : Session) : Prop :=
  s.settings.workingDir = some ⟨""⟩ ∧ '/' ∉ s.settings.basename.toList

instance (s : Session) : Decidable s.RunsByName := inferInstanceAs (Decidable (_ ∧ _))

/-- The program comes right after the link, and is the last call. -/
lemma allCalls_eq_of_run (inputs : List Path) (ws : Workspace) (t : Toolchain)
    (htask : s.task? = some .follow) (hlinks : s.linksCode = true)
    (hrun : s.settings.action = .run) :
    ∃ before, before.length = 1 + s.callsForLink ∧ s.allCalls inputs ws t =
      before ++ [(.run, s.linkCommand ws t),
        (.run, ⟨(ws.executable s.settings.basename).text, []⟩)] := by
  refine ⟨(.run, s.generateCommand ws inputs) :: (s.question "--print-c-flags" ++
    s.question "--print-ld-flags" ++ compileCalls ws t s.settings.extraC), ?_, ?_⟩
  · simp only [callsForLink, compileCalls, List.length_cons, List.length_append, List.length_map]
    omega
  · simp only [allCalls, htask, compilerRun, laterCalls, hlinks, if_true, nativeCalls, programCalls,
      hrun, List.append_assoc, List.cons_append, List.nil_append]

/-- **The last two calls of a session that runs what it linked** are the link, which succeeded, and
the program. -/
lemma exists_lastCalls {t : Toolchain} {calls : List (CallMode × Command × Option Failure)}
    {call : CallMode × Command × Option Failure}
    (hfirst : calls.map Plan.bare <+: s.allCalls inputs ws t)
    (hsucceeded : ∀ call ∈ calls.dropLast, call.2.2 = none)
    (hprogram : s.programCall? calls = some call) :
    s.task? = some .follow ∧ s.linksCode = true ∧
      ∃ front f, front.length = 1 + s.callsForLink ∧
        call = (.run, ⟨(ws.executable s.settings.basename).text, []⟩, f) ∧
        calls = front ++ [(.run, s.linkCommand ws t, none), call] := by
  unfold programCall? at hprogram
  split at hprogram
  case isFalse => cases hprogram
  case isTrue hruns =>
    obtain ⟨htask, hlinks, hrun⟩ := hruns
    obtain ⟨hlength, hget⟩ := List.getElem?_eq_some_iff.1 hprogram
    obtain ⟨before, hbefore, hall⟩ := allCalls_eq_of_run inputs ws t htask hlinks hrun
    -- nothing is missing of what was planned
    have hmade := (hall ▸ hfirst).eq_of_length_le (by
      rw [List.length_append, List.length_map, hbefore]
      exact hlength)
    obtain ⟨front, rest, rfl, hfront, hrest⟩ := List.map_eq_append_iff.1 hmade
    obtain ⟨⟨mode₁, link, f₁⟩, rest, rfl, hlink, hrest⟩ := List.map_eq_cons_iff.1 hrest
    obtain ⟨⟨mode₂, program, f₂⟩, rest, rfl, hlast, hrest⟩ := List.map_eq_cons_iff.1 hrest
    obtain rfl := List.map_eq_nil_iff.1 hrest
    obtain ⟨rfl, rfl⟩ := Prod.mk.inj hlink
    obtain ⟨rfl, rfl⟩ := Prod.mk.inj hlast
    have hlen : front.length = 1 + s.callsForLink := by
      rw [← hbefore, ← hfront, List.length_map]
    obtain rfl : f₁ = none := hsucceeded (.run, s.linkCommand ws t, f₁) (by
      rw [List.dropLast_append_of_ne_nil (List.cons_ne_nil _ _)]
      exact List.mem_append_right _ List.mem_cons_self)
    have hcall : call = (.run, ⟨(ws.executable s.settings.basename).text, []⟩, f₂) := by
      rw [← hget, List.getElem_append_right (by omega)]
      simp [hlen]
    exact ⟨htask, hlinks, front, f₂, hlen, hcall, by rw [hcall]⟩

/-- The command that links names the program behind `-o`. -/
lemma arguments_linkCommand (ws : Workspace) (t : Toolchain) :
    ∃ before after, (s.linkCommand ws t).arguments =
      before ++ "-o" :: (ws.executable s.settings.basename).text :: after := by
  refine ⟨t.base.arguments ++ "-Wno-parentheses-equality" :: t.includeFlag :: t.compileFlags,
    (ws.sourceFiles s.settings.basename s.settings.cxx).map Path.text ++
      (s.settings.extraC.map ws.objectFile).map Path.text ++ t.linkFlags, ?_⟩
  simp only [linkCommand, Toolchain.link, Command.plus, List.append_assoc, List.cons_append,
    List.nil_append]

/-- A fresh path among the temporary files has a name. -/
lemma text_freshPath_ne_empty {d : Disk} {stem : String} (h : stem ≠ "") :
    (d.freshPath stem).text ≠ "" := by
  unfold Disk.freshPath
  refine Path.text_join_ne_empty fun hempty => h ?_
  exact (String.append_eq_empty_iff.1 hempty).1

/-- **The path of the program has a slash** unless it is run by a bare name. -/
lemma slash_mem_program (s : Session) (d : Disk) :
    '/' ∈ ((Workspace.acquiredPath s.settings.workingDir d).join
        ⟨s.settings.basename⟩).text.toList ↔ ¬ s.RunsByName := by
  have hdir : (Workspace.acquiredPath s.settings.workingDir d).text = "" ↔
      s.settings.workingDir = some ⟨""⟩ := by
    cases s.settings.workingDir with
    | none =>
      rw [Workspace.acquiredPath, Option.getD_none]
      exact iff_of_false (text_freshPath_ne_empty (by decide)) (by simp)
    | some dir =>
      cases dir
      simp [Workspace.acquiredPath]
  rw [Path.slash_mem_join, RunsByName, ← hdir, not_and_or, not_not]

/-- **The program that is run is the one that was linked.** Let a session that links generated code
and runs it reach its last call. The call before it links, and succeeded; it names the path of the
program behind `-o`. The last call runs that path, without arguments. The path has a slash, so that
just the linked file is started wherever programs are looked for, unless the working directory is
given by the empty path and the basename has no slash: then the program that is started is the first
one of its name that the search path leads to.

**Proof sketch.** The calls of a session are the first ones of those planned, and all but the last
one succeeded (`execute_calls`); the link and the program are the last two of them. A path below
another one has no slash only if the latter is empty (`Path.slash_mem_join`), and a fresh path is
not. -/
theorem execute_runs_linked (s : Session) (r : Runner σ) (inputs : List Path) (w : World σ)
    (events : List Event) (mode : CallMode) (c : Command) (f : Option Failure)
    (hjournal : ((s.execute r inputs).run w).2.journal = w.journal ++ events)
    (hprogram : s.programCall? (Event.calls events) = some (mode, c, f)) :
    (∃ link before after,
      s.linkCall? (Event.calls events) = some (.run, link, none) ∧
        link.arguments = before ++ "-o" :: c.program :: after) ∧
      (Event.calls events).getLast? = some (mode, c, f) ∧
      mode = .run ∧ c.arguments = [] ∧
      c.program = ((Workspace.acquiredPath s.settings.workingDir w.disk).join
        ⟨s.settings.basename⟩).text ∧
      ('/' ∈ c.program.toList ↔ ¬ s.RunsByName) ∧
      ∀ (launch : Host.Launch) (shell : Option String) (environment : Environment) (d : Disk),
        let start := Host.startOf environment c d
        Host.startByName launch shell start =
          if s.RunsByName then Host.startListed launch shell start
          else Host.startAt launch shell start := by
  obtain ⟨ws, t, events', hws, hjournal', hfirst, hsucceeded, -⟩ := execute_calls s r inputs w
  obtain rfl : events' = events := List.append_cancel_left (hjournal'.symm.trans hjournal)
  obtain ⟨htask, hlinks, front, f', hfront, hcall, hcalls⟩ :=
    exists_lastCalls hfirst hsucceeded hprogram
  cases hcall
  have hname : s.settings.basename ≠ "" := by
    have hmore : CallsMore (1 + s.callsForLink) (s.execute r inputs) w := by
      rw [CallsMore, hjournal, Event.calls_append, hcalls]
      simp only [List.length_append, List.length_cons, List.length_nil]
      omega
    obtain ⟨parts, -, -, -, -, hp, -⟩ := exists_linkParts htask hlinks hmore
    obtain ⟨hcheck, -⟩ := Settings.pipelineInto_eq_ok_iff.1 hp
    exact (Settings.checkPipeline_eq_ok_iff.1 hcheck).2.2.1
  have hslash := slash_mem_program s w.disk
  rw [← hws] at hslash ⊢
  obtain ⟨before, after, harguments⟩ := arguments_linkCommand (s := s) ws t
  refine ⟨⟨_, before, after, ?_, harguments⟩, ?_, rfl, rfl, rfl, hslash, ?_⟩
  · rw [linkCall?, if_pos ⟨htask, hlinks⟩, hcalls, ← hfront,
      List.getElem?_append_right (Nat.le_refl _), Nat.sub_self]
    rfl
  · rw [hcalls, List.getLast?_append]
    rfl
  · intro launch shell environment d start
    split
    case isTrue hbare =>
      exact Host.startByName_of_bare (fun h => hslash.1 h hbare) (Path.text_join_ne_empty hname)
    case isFalse hbare => exact Host.startByName_of_slash (hslash.2 hbare)

/-- A session that runs generated code in a directory that is given by a relative path. -/
def runningHere : Session where
  settings := {
    action := .run
    workingDir := some "work"
    basename := "prog" }
  installation := ⟨"/opt/bin/asli"⟩

/-- It starts the linked file. -/
theorem execute_runs_linked_here :
    let done := ((runningHere.execute (Rehearsal.runner {}) ["spec.asl"]).run atHome).2
    runningHere.programCall? (Event.calls done.journal) = some (.run, ⟨"work/prog", []⟩, none) ∧
      ∃ link before after,
        runningHere.linkCall? (Event.calls done.journal) = some (.run, link, none) ∧
          link.arguments = before ++ "-o" :: "work/prog" :: after ∧
          ∀ (launch : Host.Launch) (shell : Option String) (environment : Environment) (d : Disk),
            let start := Host.startOf environment ⟨"work/prog", []⟩ d
            Host.startByName launch shell start = Host.startAt launch shell start := by
  intro done
  have hprogram : runningHere.programCall? (Event.calls done.journal) =
      some (.run, ⟨"work/prog", []⟩, none) := by
    decide +kernel
  obtain ⟨⟨link, before, after, hlink, harguments⟩, -, -, -, -, -, hstart⟩ :=
    execute_runs_linked runningHere (Rehearsal.runner {}) ["spec.asl"] atHome done.journal .run _
      none (List.nil_append _).symm hprogram
  refine ⟨hprogram, link, before, after, hlink, harguments, ?_⟩
  intro launch shell environment d
  exact (hstart launch shell environment d).trans (if_neg (by decide))

/-- A session that runs generated code in the current directory, which is given by the empty path.
-/
def runningByName : Session where
  settings := {
    action := .run
    workingDir := some "" }
  installation := ⟨"/opt/bin/asli"⟩

/-- **A session that runs whatever program it finds.** It links the program `asl` in the current
directory, but then has a program of that name looked up, so that one in the directories of the
search path is run in its place. -/
theorem exists_bare_program :
    let done := (runningByName.execute (Rehearsal.runner {}) ["spec.asl"]).run atHome
    done.1.toOption.isSome = true ∧
      runningByName.programCall? (Event.calls done.2.journal) = some (.run, ⟨"asl", []⟩, none) ∧
      '/' ∉ "asl".toList ∧
      ∀ (launch : Host.Launch) (shell : Option String) (environment : Environment) (d : Disk),
        let start := Host.startOf environment ⟨"asl", []⟩ d
        Host.startByName launch shell start = Host.startListed launch shell start := by
  refine ⟨by decide +kernel, by decide +kernel, by decide, fun launch shell environment d => ?_⟩
  exact Host.startByName_of_bare (by decide) (by decide)

end Session

end AslBuild
