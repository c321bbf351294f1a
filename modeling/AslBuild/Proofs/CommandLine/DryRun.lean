import Mathlib
import AslBuild.CommandLine.Invocation
import AslBuild.Proofs.CommandLine.Settings
import AslBuild.Proofs.Session.Foretold
set_option autoImplicit false

/-!
# Dry runs of the program

With the switch `--dry-run` in front of its words the program rehearses the session that it would
hold otherwise, and prints the commands. These are the commands that it starts without the switch,
if the tools do nothing and it does not matter which compilers there are. Where it does matter they
may be others: a dry run does not look for compilers. And if the session fails nothing is printed.

## Main definitions

* `AslBuild.CommandLine.Arguments.rehearsed` — arguments with the switch in front.
* `AslBuild.CommandLine.processes` — the runner that starts the processes of a session.
* `AslBuild.CommandLine.started`, `AslBuild.CommandLine.sightings` — the command lines that it
  starts, and what an onlooker sees of them.

## Main results

* `AslBuild.CommandLine.Arguments.ofWords_dryRun` — the switch changes nothing else.
* `AslBuild.CommandLine.invoke_dryRun` — what a dry run prints.
* `AslBuild.CommandLine.exists_other_compiler` — a dry run that prints another command.
-/

namespace AslBuild.CommandLine

open FileSystem

/-! ## The switch -/

namespace Arguments

variable {a b : Arguments} {o : Occurrence} {os : List Occurrence} {words : List String}

/-- Arguments with the switch for a dry run in front. -/
def rehearsed (a : Arguments) : Arguments := ⟨.switched .dryRun :: a.seen⟩

/-- The other switches are the same. -/
lemma has_rehearsed {s : Switch} (h : s ≠ .dryRun) : a.rehearsed.has s = a.has s := by
  simp [has, rehearsed, h]

/-- So are the values of the options, and the input files. -/
@[simp] lemma values_rehearsed (o : Valued) : a.rehearsed.values o = a.values o := rfl

@[simp] lemma value?_rehearsed (o : Valued) : a.rehearsed.value? o = a.value? o := rfl

@[simp] lemma inputs_rehearsed : a.rehearsed.inputs = a.inputs := rfl

/-- **The settings of a dry run** are those of the session that it rehearses. -/
lemma settings_rehearsed : a.rehearsed.settings = a.settings := by
  have hhas (s : Switch) (h : s ≠ .dryRun) : a.rehearsed.has s = a.has s := has_rehearsed h
  simp [settings, action, numberOf, pathsOf, backend, hhas]

/-- The switch for a dry run is not undone. -/
lemma isUndoneBy_dryRun (s : Switch) : isUndoneBy s (.switched .dryRun) = false := by
  cases s <;> rfl

/-- Anything else is taken into account alike. -/
lemma add_rehearsed (h : o ≠ .switched .dryRun) : a.rehearsed.add o = (a.add o).map rehearsed := by
  cases o with
  | wrong => rfl
  | given v value =>
    unfold add
    dsimp only
    rw [value?_rehearsed]
    split <;> rfl
  | input path =>
    unfold add
    dsimp only
    split <;> rfl
  | switched s =>
    have hs : s ≠ .dryRun := fun hs => h (congrArg Occurrence.switched hs)
    unfold add
    split
    · rfl
    · rfl
    · rfl
    · next hswitched =>
      obtain rfl := Occurrence.switched.inj hswitched
      rw [has_rehearsed hs]
      split
      · rfl
      · simp [rehearsed, Except.map, isUndoneBy_dryRun]
    · next hgiven => exact absurd hgiven (by simp)
    · next hinput => exact absurd hinput (by simp)

/-- All that comes after the switch is taken into account as without it, by induction on what the
words say. -/
lemma addAll_rehearsed (h : .switched .dryRun ∉ os) :
    a.rehearsed.addAll os = (a.addAll os).map rehearsed := by
  induction os generalizing a with
  | nil => rfl
  | cons o os ih =>
    have ho : o ≠ .switched .dryRun := fun ho => h (ho ▸ List.mem_cons_self)
    have hos : .switched .dryRun ∉ os := fun hos => h (List.mem_cons_of_mem _ hos)
    rw [addAll, addAll, add_rehearsed ho]
    cases a.add o with
    | error e => rfl
    | ok b => exact ih hos

/-- The words of a dry run say that it is one, and then the same as without the switch. -/
lemma readWords_dryRun (words : List String) :
    readWords none ("--dry-run" :: words) = .switched .dryRun :: readWords none words := by
  have hword : readWord "--dry-run" = ([.switched .dryRun], none) := by decide +kernel
  rw [readWords, if_neg (by decide), hword]
  rfl

/-- **The switch changes nothing else** of what a command line says, if it was not there before. -/
theorem ofWords_dryRun (h : ofWords words = .ok a) (hreal : a.has .dryRun = false) :
    ofWords ("--dry-run" :: words) = .ok a.rehearsed := by
  have hnone : .switched .dryRun ∉ readWords none words := fun hmem => by
    rw [((reflects_of_ofWords h).has _).2 ((holds_iff_mem rfl).2 hmem)] at hreal
    exact absurd hreal (by simp)
  have hrest : (mk []).rehearsed.addAll (readWords none words) = .ok a.rehearsed := by
    rw [addAll_rehearsed hnone]
    exact congrArg (Except.map rehearsed) h
  rw [ofWords, readWords_dryRun]
  exact hrest

end Arguments

/-! ## What is started -/

variable (launch : Host.Launch) (s : Surroundings) (session : Session) (inputs : List Path)

/-- Where a session looks for programs. -/
def searchPlace : Host.SearchPlace where
  dirs := session.environment.get? Environment.searchPath
  home := (s.environment.get? homeVariable).getD ""

/-- The runner that starts the processes of a session. -/
def processes : Runner Unit :=
  Host.runner launch s.environment (searchPlace s session) session.settings.verbose

/-- A session that is held with processes. -/
def performed : Except Failure Report × World Unit :=
  (session.execute (processes launch s session) inputs).run { disk := s.disk, tools := () }

/-- The command lines of the tools that a session calls, in their order. -/
def started : List String :=
  (Event.calls (performed launch s session inputs).2.journal).map fun call => call.2.1.line

/-- A session that is held with processes, with an onlooker. -/
def watched : Except Failure Report × World (Unit × List Runner.Sighting) :=
  (session.execute (processes launch s session).observed inputs).run
    (World.watching { disk := s.disk, tools := () })

/-- What an onlooker sees of the calls of a session, each with the files as they are then. -/
def sightings : List Runner.Sighting := (watched launch s session inputs).2.tools.2

/-- What the program leaves behind is what comes of the session. -/
lemma perform_eq (t : Threshold) :
    perform launch s t session inputs = outcomeOf t (performed launch s session inputs).1
      (performed launch s session inputs).2 [] := rfl

/-- A session does the same with an onlooker. -/
lemma performed_eq :
    performed launch s session inputs =
      ((watched launch s session inputs).1, (watched launch s session inputs).2.unseen) :=
  (session.execute_observed (processes launch s session) inputs
    (World.watching { disk := s.disk, tools := () })).1

/-- The calls that are seen are those that are made. -/
lemma started_eq :
    started launch s session inputs =
      (sightings launch s session inputs).map fun x => x.command.line := by
  obtain ⟨-, events, noted, hjournal, hnoted, hcalls⟩ :=
    session.execute_observed (processes launch s session) inputs
      (World.watching { disk := s.disk, tools := () })
  have hmade : (performed launch s session inputs).2.journal = events := by
    rw [performed_eq]
    exact hjournal
  have hseen : sightings launch s session inputs = noted := hnoted
  have hlines := congrArg (List.map fun call => call.2.line) hcalls
  rw [List.map_map, List.map_map] at hlines
  rw [started, hmade, hseen]
  exact hlines.symm

/-! ## What is printed -/

/-- Where no tool prints anything, nothing is printed before the end. -/
lemma shownAll_of_silent {journal : List Event} (h : Event.Silent journal) (t : Threshold) :
    shownAll t .out journal = [] := by
  refine List.flatMap_eq_nil_iff.2 fun remark hremark => ?_
  obtain ⟨e, he, hsaid⟩ := List.mem_filterMap.1 hremark
  cases remark with
  | logged level message => rfl
  | printed stream bytes =>
    cases e with
    | said remark =>
      obtain rfl := Option.some.inj hsaid
      exact absurd (h _ he) (by simp [Event.isPrinted])
    | called | wrote | removing => exact absurd hsaid (by simp [Event.remark?])

/-- What the program ends with depends only on how the session ends. -/
lemma status_outcomeOf_congr {σ τ : Type} {t t' : Threshold} {result result' : Except Failure Report}
    {w : World σ} {w' : World τ} {notes notes' : List String}
    (h : (result.map fun _ => ()) = result'.map fun _ => ()) :
    (outcomeOf t result w notes).status = (outcomeOf t' result' w' notes').status := by
  cases result with
  | error e =>
    cases result' with
    | error e' => exact congrArg Failure.exitCode (Except.error.inj h)
    | ok report => exact absurd h (by simp [Except.map])
  | ok report =>
    cases result' with
    | error e => exact absurd h (by simp [Except.map])
    | ok report' => rfl

/-- What the program prints is what is printed at its end, where no tool prints anything: nothing if
the session fails. -/
lemma out_outcomeOf {σ : Type} {w : World σ} (h : Event.Silent w.journal) (t : Threshold)
    (result : Except Failure Report) (notes : List String) :
    (outcomeOf t result w notes).out = match result with
      | .error _ => []
      | .ok report => notes.flatMap lineBytes ++ report.output.toList.flatMap lineBytes := by
  cases result with
  | error e => exact shownAll_of_silent h t
  | ok report =>
    show shownAll t .out w.journal ++ _ = _
    rw [shownAll_of_silent h t, List.nil_append, List.flatMap_append]

/-- A session that is rehearsed. -/
def rehearsal : Except Failure Report × World (List String) :=
  (session.execute (Rehearsal.runner {}) inputs).run { disk := s.disk, tools := [] }

/-- Without the switch a session is held. -/
lemma invoke_of_real {s : Surroundings} {words : List String} {a : Arguments}
    (hwords : Arguments.ofWords words = .ok a) (hreal : a.has .dryRun = false) :
    let done := watched launch s (sessionOf s words a) a.inputs
    ∃ t, invoke launch s words = outcomeOf t done.1 done.2.unseen [] := by
  intro done
  refine ⟨Threshold.choose (s.environment.bindings.lookup Threshold.variableName)
    (a.has .verbose), ?_⟩
  unfold invoke
  rw [hwords]
  dsimp only
  rw [hreal, if_neg Bool.false_ne_true, perform_eq, performed_eq]

/-- With the switch in front it is rehearsed. -/
lemma invoke_of_dryRun {s : Surroundings} {words : List String} {a : Arguments}
    (hwords : Arguments.ofWords words = .ok a) (hreal : a.has .dryRun = false) :
    let done := rehearsal s (sessionOf s ("--dry-run" :: words) a) a.inputs
    ∃ t, invoke launch s ("--dry-run" :: words) = outcomeOf t done.1 done.2 done.2.tools := by
  intro done
  refine ⟨Threshold.choose (s.environment.bindings.lookup Threshold.variableName)
    (a.has .verbose), ?_⟩
  have hsession : sessionOf s ("--dry-run" :: words) a.rehearsed =
      sessionOf s ("--dry-run" :: words) a := by
    rw [sessionOf, Arguments.settings_rehearsed]
    rfl
  have hdry : a.rehearsed.has .dryRun = true := by simp [Arguments.has, Arguments.rehearsed]
  unfold invoke
  rw [Arguments.ofWords_dryRun hwords hreal]
  dsimp only
  rw [hdry, if_pos rfl, hsession, Arguments.has_rehearsed (by decide)]
  rfl

/-- **A dry run prints the commands that are started.** Let the words of a command line, without the
switch for a dry run, ask for a session in a directory that is given. Let each process that this
session starts end with success, print nothing and leave the files alone. If the session links code,
let a variable choose the compiler, or none of the preferred ones be there. Then, with the switch in
front of the words, the commands that the session calls are noted in their order, the program ends
with the same status, and if this is 0 it prints the noted commands, one to a line, and then what it
prints without the switch. Only a script that is shown may be another one, because the words are
recorded in it. If the status is not 0, nothing is printed.

**Proof sketch.** The switch changes no setting (`Arguments.ofWords_dryRun`), so the session that is
rehearsed differs only in the command that it records, and sessions are foretold by their rehearsals
(`Session.execute_foretold`). -/
theorem invoke_dryRun (launch : Host.Launch) (s : Surroundings) (words : List String)
    (a : Arguments) (dir : Path) (hwords : Arguments.ofWords words = .ok a)
    (hreal : a.has .dryRun = false) (hdir : a.settings.workingDir = some dir)
    (hidle : ∀ x ∈ sightings launch s (sessionOf s words a) a.inputs,
      Host.Idle launch s.environment x.command { s.disk with tree := x.tree })
    (hcompiler : (sessionOf s words a).task? = some .follow →
      (sessionOf s words a).linksCode = true →
        Toolchain.override (sessionOf s words a).environment ≠ [] ∨
          ∀ x ∈ sightings launch s (sessionOf s words a) a.inputs, ∀ name ∈ Toolchain.preferred,
            Host.findProgram (searchPlace s (sessionOf s words a)) { s.disk with tree := x.tree }
              name = none) :
    let lines := started launch s (sessionOf s words a) a.inputs
    let rehearsed := invoke launch s ("--dry-run" :: words)
    let real := invoke launch s words
    (rehearsal s (sessionOf s ("--dry-run" :: words) a) a.inputs).2.tools = lines ∧
      rehearsed.status = real.status ∧
      (real.status ≠ 0 → rehearsed.out = []) ∧
      (real.status = 0 → ∃ shown, rehearsed.out = lines.flatMap lineBytes ++ shown ∧
        (a.action ≠ .showScript → real.out = shown)) := by
  intro lines rehearsed real
  let session := sessionOf s words a
  have hgood : ∀ x ∈ sightings launch s session a.inputs,
      session.Foreseen launch s.environment (searchPlace s session) s.disk x := fun x hx =>
    ⟨hidle x hx, fun htask hlinks => (hcompiler htask hlinks).imp_right fun h => h x hx⟩
  obtain ⟨hending, hreport, hmirrors⟩ : session.Foretold
      (rehearsal s (sessionOf s ("--dry-run" :: words) a) a.inputs)
      (watched launch s session a.inputs) :=
    Session.execute_foretold (some (commandLine ("--dry-run" :: words))) hdir
      ⟨rfl, rfl, Event.silent_nil, Event.silent_nil⟩ rfl rfl hgood
  obtain ⟨t, ht⟩ : ∃ t, real = _ := invoke_of_real launch hwords hreal
  obtain ⟨t', ht'⟩ : ∃ t, rehearsed = _ := invoke_of_dryRun launch hwords hreal
  have hlines : (rehearsal s (sessionOf s ("--dry-run" :: words) a) a.inputs).2.tools = lines :=
    hmirrors.lines.trans (started_eq launch s session a.inputs).symm
  have hout := out_outcomeOf hmirrors.rehearsed t'
    (rehearsal s (sessionOf s ("--dry-run" :: words) a) a.inputs).1 lines
  have hout' := out_outcomeOf (w := (watched launch s session a.inputs).2.unseen) hmirrors.silent t
    (watched launch s session a.inputs).1 []
  rw [hlines] at ht'
  rw [ht, ht', hout, hout']
  refine ⟨hlines, status_outcomeOf_congr hending, ?_⟩
  generalize (watched launch s session a.inputs).1 = done at hending hreport ⊢
  generalize (rehearsal s (sessionOf s ("--dry-run" :: words) a) a.inputs).1 = foretold
    at hending hreport ⊢
  cases done with
  | error e =>
    cases foretold with
    | ok report => exact absurd hending (by simp [Except.map])
    | error e' => exact ⟨fun _ => rfl, fun h => absurd h (Nat.ne_of_gt e.exitCode_pos)⟩
  | ok report =>
    cases foretold with
    | error e' => exact absurd hending (by simp [Except.map])
    | ok report' =>
      refine ⟨fun h => absurd rfl h, fun _ => ⟨_, rfl, fun hscript => ?_⟩⟩
      obtain rfl := Except.ok.inj (hreport hscript)
      rfl

/-! ## Programs that end at once -/

/-- Every program ends at once, with success. -/
def endsAtOnce : Host.Launch := fun _ => pure (.ok (.exited 0))

/-- Programs are looked for in the directory `bin`. -/
def inBin : Environment := ⟨[("PATH", "bin")]⟩

/-- Why a command is not started, if every program that can be started ends at once. -/
def refusal? (c : Command) : Option IoError :=
  let name := Text.Raw.ofText c.program
  if !(c.program :: c.arguments).all Host.isPassable then some .zeroInCommand
  else if name.isEmpty then some (.os .noEntry)
  else if !name.toList.contains '/' && maxName < name.length then some (.os .nameTooLong)
  else none

/-- Every other command is started, and ends. -/
lemma startByName_endsAtOnce {c : Command} (d : Disk) (m : Host.Machine)
    (h : (c.program :: c.arguments).all Host.isPassable = true) :
    Host.startByName endsAtOnce none (Host.startOf inBin c d) m =
      (match refusal? c with
        | some e => .error e
        | none => .ok (.exited 0), m) := by
  have hdirs : (((Host.startOf inBin c d).process.value? Host.searchVariable).getD
      Host.defaultSearchPath) = "bin" := by
    show (((Host.rawVariables inBin).lookup Host.searchVariable).getD _) = _
    decide +kernel
  have hsplit : "bin".splitOn ":" = ["bin"] := by cbv
  have hpath : (Host.startOf inBin c d).path = Text.Raw.ofText c.program := rfl
  simp only [Host.startByName, refusal?, h, hdirs, hsplit, hpath, Bool.not_true,
    Bool.false_eq_true, if_false]
  by_cases hempty : (Text.Raw.ofText c.program).isEmpty = true
  · simp only [hempty, if_true]
    rfl
  · by_cases hslash : (Text.Raw.ofText c.program).toList.contains '/' = true
    · simp only [hempty, hslash, if_true, Bool.not_true, Bool.false_and, Bool.false_eq_true,
        if_false]
      rfl
    · by_cases hlong : maxName < (Text.Raw.ofText c.program).length
      · simp only [hempty, hslash, hlong, if_true, decide_true, Bool.not_false, Bool.true_and,
          Bool.false_eq_true, if_false]
        rfl
      · simp only [hempty, hslash, hlong, decide_false, Bool.and_false, Bool.false_eq_true,
          if_false]
        rfl

lemma refusal?_of_not_passable {c : Command}
    (h : (c.program :: c.arguments).all Host.isPassable = false) :
    refusal? c = some .zeroInCommand := by
  rw [refusal?, h]
  rfl

/-- Such a program does nothing. -/
lemma idle_endsAtOnce {c : Command} (h : refusal? c = none) (d : Disk) :
    Host.Idle endsAtOnce inBin c d := by
  have hpassable : (c.program :: c.arguments).all Host.isPassable = true := by
    rw [← Bool.not_eq_false]
    intro hnot
    exact absurd ((refusal?_of_not_passable hnot).symm.trans h) (by simp)
  refine ⟨hpassable, Host.machineOn d, ?_, rfl, rfl⟩
  rw [startByName_endsAtOnce d _ hpassable, h]

/-- What comes of a command then. -/
def endingReply {α : Type} (verbose : Bool) (value : α) (c : Command) (d : Disk) :
    Reply Unit α where
  result := match refusal? c with
    | some e => .error (.tool (c.unavailable e))
    | none => .ok value
  state := ()
  tree := d.tree
  remarks := [.logged (Level.progress verbose) c.line]

lemma call_endsAtOnce {α : Type} (verbose : Bool)
    (shown : List (Stream × List UInt8) → List (Stream × List UInt8)) (hshown : shown [] = [])
    (value : List (Stream × List UInt8) → α) (c : Command) (d : Disk) :
    Host.call endsAtOnce inBin verbose shown value c d = endingReply verbose (value []) c d := by
  cases h : refusal? c with
  | none => rw [Host.call_of_idle (idle_endsAtOnce h d) shown hshown, endingReply, h]
  | some e =>
    unfold Host.call endingReply
    cases hpassable : (c.program :: c.arguments).all Host.isPassable with
    | true => rw [if_pos rfl, startByName_endsAtOnce d _ hpassable, h]
    | false => rw [if_neg Bool.false_ne_true, refusal?_of_not_passable hpassable]

/-- The runner of such processes. -/
def endingRunner (place : Host.SearchPlace) (verbose : Bool) : Runner Unit where
  run c d _ := endingReply verbose () c d
  capture c d _ := endingReply verbose "" c d
  find name d _ := Host.findProgram place d name

lemma runner_endsAtOnce (place : Host.SearchPlace) (verbose : Bool) :
    Host.runner endsAtOnce inBin place verbose = endingRunner place verbose := by
  unfold Host.runner endingRunner
  congr 1
  · funext c d _
    exact call_endsAtOnce verbose id rfl _ c d
  · funext c d _
    exact call_endsAtOnce verbose (fun printed => printed.filter fun p => p.1 == .err) rfl _ c d

/-! ## Builds amid some compilers -/

/-- A directory with the compiler in it, and with the given programs where programs are looked for.
-/
def amid (programs : List String) : Surroundings where
  disk := {
    tree := { entries := (["work"], .dir 0o755) :: (["work", "asli"], .file [] 0o755) ::
      (["work", "bin"], .dir 0o755) ::
      programs.map fun name => (["work", "bin", name], .file [] 0o755) }
    cwd := ["work"]
    temp := "/tmp" }
  environment := inBin
  programDir := "/work"

/-- The words of a command line that asks for a build in the directory `w`. -/
def buildWords : List String := ["--build", "--working-dir", "w", "--asli", "./asli", "spec.asl"]

/-- What they say. -/
def buildArguments : Arguments where
  seen := [.switched .build, .given .workingDir "w", .given .asli "./asli", .input "spec.asl"]

/-- The session that is held amid some compilers. -/
def buildAmid (programs : List String) : Session :=
  sessionOf (amid programs) buildWords buildArguments

/-- The line that runs the compiler. -/
def compilerLine : String :=
  "./asli --batchmode --nobanner --check-call-markers --check-exception-markers " ++
    "--no-check-constraints --no-runtime-checks --project=w/asl2c.prj " ++
    "--configuration=w/config.json spec.asl"

/-- The line that links with a native compiler. -/
def linkLine (native : String) : String :=
  native ++ " -Wno-parentheses-equality -Iw -Ilib/asli/runtime_include -DASL_C23 -std=c2x " ++
    "-o w/asl w/asl_exceptions.c w/asl_vars.c w/asl_funs.c lib/asli/runtime/libASL.a"

lemma processes_buildAmid (programs : List String) :
    processes endsAtOnce (amid programs) (buildAmid programs) =
      endingRunner (searchPlace (amid programs) (buildAmid programs)) false :=
  runner_endsAtOnce _ _

/-- All processes of a build do nothing, if their commands can be started. -/
lemma idle_buildAmid {programs : List String}
    (h : ∀ x ∈ sightings endsAtOnce (amid programs) (buildAmid programs) buildArguments.inputs,
      refusal? x.command = none) :
    ∀ x ∈ sightings endsAtOnce (amid programs) (buildAmid programs) buildArguments.inputs,
      Host.Idle endsAtOnce (amid programs).environment x.command
        { (amid programs).disk with tree := x.tree } :=
  fun x hx => idle_endsAtOnce (h x hx) _

/-- Without any of the preferred compilers, a dry run prints the commands of the build. -/
theorem invoke_dryRun_build :
    let lines := started endsAtOnce (amid []) (buildAmid []) buildArguments.inputs
    lines = [compilerLine, linkLine "gcc"] ∧ ∃ shown,
      (invoke endsAtOnce (amid []) ("--dry-run" :: buildWords)).out =
          lines.flatMap lineBytes ++ shown ∧
        (invoke endsAtOnce (amid []) buildWords).out = shown := by
  intro lines
  obtain ⟨hlines, hrefused, hnone⟩ :
      ((sightings endsAtOnce (amid []) (buildAmid []) buildArguments.inputs).map
          fun x => x.command.line) = [compilerLine, linkLine "gcc"] ∧
        (∀ x ∈ sightings endsAtOnce (amid []) (buildAmid []) buildArguments.inputs,
          refusal? x.command = none) ∧
        ∀ x ∈ sightings endsAtOnce (amid []) (buildAmid []) buildArguments.inputs,
          ∀ name ∈ Toolchain.preferred,
            Host.findProgram (searchPlace (amid []) (buildAmid []))
              { (amid []).disk with tree := x.tree } name = none := by
    rw [sightings, watched, processes_buildAmid]
    decide +kernel
  have hrehearsed : (invoke endsAtOnce (amid []) ("--dry-run" :: buildWords)).status = 0 := by
    decide +kernel
  obtain ⟨-, hstatus, -, hout⟩ := invoke_dryRun endsAtOnce (amid []) buildWords buildArguments "w"
    (by decide +kernel) (by decide) rfl (idle_buildAmid hrefused) fun _ _ => Or.inr hnone
  obtain ⟨shown, hprinted, hshown⟩ := hout (hstatus.symm.trans hrehearsed)
  exact ⟨(started_eq _ _ _ _).trans hlines, shown, hprinted, hshown (by decide)⟩

/-- **A dry run that prints another command.** With a preferred compiler where programs are looked
for, a build links with this, but the dry run prints the command of the default compiler. -/
theorem exists_other_compiler :
    let s := amid ["clang-18"]
    let session := buildAmid ["clang-18"]
    let lines := started endsAtOnce s session buildArguments.inputs
    Arguments.ofWords buildWords = .ok buildArguments ∧
      buildArguments.has .dryRun = false ∧ buildArguments.settings.workingDir = some "w" ∧
      (∀ x ∈ sightings endsAtOnce s session buildArguments.inputs,
        Host.Idle endsAtOnce s.environment x.command { s.disk with tree := x.tree }) ∧
      lines = [compilerLine, linkLine "clang-18"] ∧
      (invoke endsAtOnce s ("--dry-run" :: buildWords)).out =
        [compilerLine, linkLine "gcc"].flatMap lineBytes ∧
      (invoke endsAtOnce s ("--dry-run" :: buildWords)).out ≠ lines.flatMap lineBytes := by
  intro s session lines
  obtain ⟨hlines, hrefused⟩ :
      ((sightings endsAtOnce s session buildArguments.inputs).map fun x => x.command.line) =
          [compilerLine, linkLine "clang-18"] ∧
        ∀ x ∈ sightings endsAtOnce s session buildArguments.inputs, refusal? x.command = none := by
    rw [sightings, watched, processes_buildAmid]
    decide +kernel
  have hwords : Arguments.ofWords buildWords = .ok buildArguments := by decide +kernel
  obtain ⟨t, hinvoke⟩ := invoke_of_dryRun endsAtOnce (s := s) hwords (by decide)
  obtain ⟨hnoted, hended, hsilent⟩ :
      let done := rehearsal s (sessionOf s ("--dry-run" :: buildWords) buildArguments)
        buildArguments.inputs
      done.2.tools = [compilerLine, linkLine "gcc"] ∧
        (done.1.toOption.map Report.output) = some none ∧ Event.Silent done.2.journal := by
    decide +kernel
  have hstarted : lines = [compilerLine, linkLine "clang-18"] :=
    (started_eq _ _ _ _).trans hlines
  have hout : (invoke endsAtOnce s ("--dry-run" :: buildWords)).out =
      [compilerLine, linkLine "gcc"].flatMap lineBytes := by
    rw [hinvoke, out_outcomeOf hsilent, hnoted]
    generalize (rehearsal s _ buildArguments.inputs).1 = result at hended ⊢
    cases result with
    | error e => exact absurd hended (by simp [Except.toOption])
    | ok report =>
      have houtput : report.output = none := Option.some.inj hended
      simp only [houtput, Option.toList_none, List.flatMap_nil, List.append_nil]
  refine ⟨hwords, by decide, rfl, idle_buildAmid hrefused, hstarted, hout, ?_⟩
  rw [hout, hstarted]
  decide +kernel

end AslBuild.CommandLine
