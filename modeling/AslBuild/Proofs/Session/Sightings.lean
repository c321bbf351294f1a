import AslBuild.Proofs.Session.Compiler
set_option autoImplicit false

/-!
# Sessions with an onlooker

A runner may keep something beside its own state, as long as it answers as it would without. Nothing
comes of that for the session: it ends in the same way, with the same files, the same journal and
the same state of the runner.

In particular, a runner can be made to show every call to an onlooker, who notes what the files are
at that moment and leaves them alone. The onlooker notes the calls that the journal tells of, one by
one. So what is noted first is the run of the compiler, with the files as the session wrote them for
it.

## Main definitions

* `AslBuild.Runner.Keeps` — a runner that does what another one does and keeps something beside it.
* `AslBuild.Runner.observed` — a runner with an onlooker who leaves the files alone.
* `AslBuild.World.watching`, `AslBuild.World.unseen` — a world in which nothing is noted yet, and
  one without what is noted.
* `AslBuild.World.Saw` — what an onlooker noted between two worlds.
* `AslBuild.Work.Unnoticed` — a step with an onlooker, and the same step without.

## Main results

* `AslBuild.Runner.Keeps.execute` — a session does the same without what is kept.
* `AslBuild.Session.execute_observed` — an onlooker changes nothing, and notes the calls.
* `AslBuild.Session.noted_build`, `AslBuild.Session.noted_runMlir` — what is written before the
  compiler is run, and what is noted then.
-/

namespace AslBuild

open FileSystem Runner

variable {σ α β : Type}

/-! ## Runners that keep something -/

/-- A world without what is kept beside the runner's own state. -/
def World.bare {τ : Type} (w : World (σ × τ)) : World σ := ⟨w.disk, w.journal, w.tools.1⟩

section

variable {τ : Type}

/-- A step beside which something is kept does what the same step does without, and what is kept
changes as `R` says. -/
def Work.Beside (R : World (σ × τ) → World (σ × τ) → Prop) (α : Type) (x : Work (σ × τ) α)
    (x' : Work σ α) : Prop :=
  ∀ w, x'.run w.bare = ((x.run w).1, (x.run w).2.bare) ∧ R w (x.run w).2

/-- What is kept beside a step changes as it says. -/
lemma Work.Beside.changes {R : World (σ × τ) → World (σ × τ) → Prop} {x : Work (σ × τ) α}
    {x' : Work σ α} {w w' : World (σ × τ)} {result : Except Failure α} (hx : Beside R α x x')
    (h : x.run w = (result, w')) : R w w' := by
  have hkept := (hx w).2
  rwa [h] at hkept

/-- A runner does what another one does and keeps something beside it. Calls change what is kept as
`R` says, and nothing else changes it. -/
structure Runner.Keeps (R : World (σ × τ) → World (σ × τ) → Prop) (r' : Runner (σ × τ))
    (r : Runner σ) : Prop where
  /-- Where nothing is called, what is kept stays. -/
  quiet {w w' : World (σ × τ)} {events : List Event} : w'.journal = w.journal ++ events →
    w'.tools = w.tools → Event.calls events = [] → R w w'
  /-- What two steps change, they change together. -/
  trans {w w' w'' : World (σ × τ)} : R w w' → R w' w'' → R w w''
  /-- Commands are run as by the other one. -/
  run (c : Command) : Work.Beside R Unit (Work.call .run r'.run c) (Work.call .run r.run c)
  /-- Commands are asked as by the other one. -/
  capture (c : Command) :
    Work.Beside R String (Work.call .capture r'.capture c) (Work.call .capture r.capture c)
  /-- Programs are found as by the other one. -/
  find (name : String) (d : Disk) (t : σ × τ) : r'.find name d t = r.find name d t.1

namespace Runner.Keeps

open Work

variable {R : World (σ × τ) → World (σ × τ) → Prop} {r' : Runner (σ × τ)} {r : Runner σ}

/-- What is kept stays as it is where nothing is done. -/
lemma refl (h : Keeps R r' r) (w : World (σ × τ)) : R w w :=
  h.quiet (List.append_nil _).symm rfl rfl

/-- Sequences do the same without what is kept if their steps do. -/
lemma bind (h : Keeps R r' r) {x : Work (σ × τ) α} {x' : Work σ α} {f : α → Work (σ × τ) β}
    {f' : α → Work σ β} (hx : Beside R α x x') (hf : ∀ a, Beside R β (f a) (f' a)) :
    Beside R β (x >>= f) (x' >>= f') := by
  intro w
  obtain ⟨hsame, hkept⟩ := hx w
  rcases hrun : x.run w with ⟨e | a, w'⟩
  · rw [hrun] at hsame hkept
    rw [Act.bind_error hrun, Act.bind_error hsame]
    exact ⟨rfl, hkept⟩
  · rw [hrun] at hsame hkept
    rw [Act.bind_ok hrun, Act.bind_ok hsame]
    exact ⟨(hf a w').1, h.trans hkept (hf a w').2⟩

/-- What sessions are built from is done without what is kept as with it. -/
theorem simulation (h : Keeps R r' r) : Session.Simulation (Beside R) r' r where
  pure _ w := ⟨rfl, h.refl w⟩
  bind := h.bind
  log _ _ w := ⟨rfl, h.quiet rfl rfl rfl⟩
  write path contents := by
    refine h.bind (fun w => ?_) fun _ w => ⟨rfl, h.quiet rfl rfl rfl⟩
    exact ⟨rfl, h.quiet (List.append_nil _).symm rfl rfl⟩
  lacking _ w := ⟨rfl, h.refl w⟩
  choose env cxx w := by
    unfold Toolchain.choose
    split
    · refine ⟨?_, h.refl w⟩
      show (Except.ok [Toolchain.firstFound
        (fun name => (r.find name w.disk w.tools.1).isSome) cxx], w.bare) =
          (Except.ok [Toolchain.firstFound
            (fun name => (r'.find name w.disk w.tools).isSome) cxx], w.bare)
      simp only [h.find]
    · exact ⟨rfl, h.refl w⟩
  run := h.run
  capture := h.capture

/-- A working directory is acquired without what is kept as with it. -/
lemma acquire_bare (requested : Option Path) (keep verbose : Bool) (w : World (σ × τ)) :
    (Workspace.acquire requested keep verbose).run w.bare =
      (((Workspace.acquire requested keep verbose).run w).1,
        ((Workspace.acquire requested keep verbose).run w).2.bare) := by
  have henter : (Workspace.enter requested keep).run w.bare =
      (((Workspace.enter requested keep).run w).1,
        ((Workspace.enter requested keep).run w).2.bare) := by
    have hdisk : w.bare.disk = w.disk := rfl
    cases requested with
    | some dir =>
      rw [Workspace.run_enter_given, Workspace.run_enter_given, hdisk]
      generalize (Disk.makeDirs dir).run w.disk = made
      rfl
    | none =>
      rw [Workspace.run_enter_fresh, Workspace.run_enter_fresh, hdisk]
      generalize (Disk.makeTemp Workspace.temporaryStem).run w.disk = made
      rfl
  unfold Workspace.acquire
  rcases hrun : (Workspace.enter requested keep).run w with ⟨e | ws, w'⟩
  · rw [hrun] at henter
    rw [Act.bind_error hrun, Act.bind_error henter]
  · rw [hrun] at henter
    rw [Act.bind_ok hrun, Act.bind_ok henter]
    rfl

/-- Steps in a working directory are done there without what is kept as with it, if they are so
outside of one. -/
lemma inWorkspace (h : Keeps R r' r) (s : Session)
    {steps : Workspace → Work (σ × τ) (Option Path × Statistics)}
    {steps' : Workspace → Work σ (Option Path × Statistics)}
    (hsteps : ∀ ws, Beside R _ (steps ws) (steps' ws)) :
    Beside R Report (s.inWorkspace steps) (s.inWorkspace steps') := by
  intro w
  have hbare := acquire_bare s.settings.workingDir s.settings.keepFiles s.settings.verbose w
  rcases hacquire : (Workspace.acquire s.settings.workingDir s.settings.keepFiles
    s.settings.verbose).run w with ⟨e | ws, w₁⟩
  · obtain ⟨-, -, hw⟩ := Workspace.acquire_eq_error hacquire
    rw [hacquire] at hbare
    rw [Session.inWorkspace, Act.bind_error hbare, Session.inWorkspace, Act.bind_error hacquire]
    exact ⟨rfl, h.quiet (by rw [hw, List.append_nil]) (by rw [hw]) rfl⟩
  · obtain ⟨hopen, -, -, -, hw⟩ := Workspace.acquire_eq_ok hacquire
    rw [hacquire] at hbare
    obtain ⟨hsame, hkept⟩ := hsteps ws w₁
    have hgreeted : R w w₁ := h.quiet (by rw [hw]) (by rw [hw]) rfl
    rw [Session.run_inWorkspace hacquire, Session.run_inWorkspace hbare,
      Workspace.run_release hopen, Workspace.run_release hopen, hsame]
    exact ⟨rfl, h.trans (h.trans hgreeted hkept)
      (h.quiet rfl rfl (Workspace.calls_farewell ws))⟩

/-- **Sessions do the same without what is kept**, and what is kept changes as calls change it. -/
theorem execute (h : Keeps R r' r) (s : Session) (inputs : List Path) :
    Beside R Report (s.execute r' inputs) (s.execute r inputs) := by
  have hfull : Session.FullSimulation (Beside R) r' r :=
    { h.simulation with
      fail := fun _ w => ⟨rfl, h.refl w⟩
      inWorkspace := h.inWorkspace }
  exact hfull.execute s inputs

end Runner.Keeps

end

/-! ## Onlookers -/

namespace Runner

/-- A runner that shows every call to an onlooker who leaves the files alone. -/
def observed (r : Runner σ) : Runner (σ × List Sighting) := r.watched fun _ d => d.tree

/-- The call that an onlooker sees. -/
def Sighting.call (x : Sighting) : CallMode × Command := (x.mode, x.command)

end Runner

namespace World

/-- A world with an onlooker who has not noted anything yet. -/
def watching (w : World σ) : World (σ × List Sighting) := ⟨w.disk, w.journal, (w.tools, [])⟩

/-- A world without what an onlooker noted. -/
def unseen (w : World (σ × List Sighting)) : World σ := ⟨w.disk, w.journal, w.tools.1⟩

/-- Between two worlds the onlooker noted the calls that the journal tells of. -/
def Saw (w w' : World (σ × List Sighting)) : Prop :=
  ∃ events seen, w'.journal = w.journal ++ events ∧ w'.tools.2 = w.tools.2 ++ seen ∧
    seen.map Sighting.call = (Event.calls events).map Plan.bare

variable {w w' w'' : World (σ × List Sighting)}

/-- Where nothing is called nothing is noted. -/
lemma saw_nothing {events : List Event} (hjournal : w'.journal = w.journal ++ events)
    (htools : w'.tools = w.tools) (h : Event.calls events = []) : w.Saw w' :=
  ⟨events, [], hjournal, by rw [htools, List.append_nil], by rw [h]; rfl⟩

lemma Saw.trans (h : w.Saw w') (h' : w'.Saw w'') : w.Saw w'' := by
  obtain ⟨events, seen, hjournal, htools, hcalls⟩ := h
  obtain ⟨events', seen', hjournal', htools', hcalls'⟩ := h'
  refine ⟨events ++ events', seen ++ seen', ?_, ?_, ?_⟩
  · rw [hjournal', hjournal, List.append_assoc]
  · rw [htools', htools, List.append_assoc]
  · rw [List.map_append, hcalls, hcalls', Event.calls_append, List.map_append]

/-- What was noted stays. -/
lemma Saw.isPrefix (h : w.Saw w') : w.tools.2 <+: w'.tools.2 := by
  obtain ⟨-, seen, -, htools, -⟩ := h
  exact ⟨seen, htools.symm⟩

end World

/-! ## Steps with an onlooker -/

namespace Work

/-- A step with an onlooker does what the same step does without, and the onlooker notes the calls.
-/
def Unnoticed (α : Type) (x : Work (σ × List Sighting) α) (x' : Work σ α) : Prop :=
  ∀ w, x'.run w.unseen = ((x.run w).1, (x.run w).2.unseen) ∧ w.Saw (x.run w).2

/-- A call is made as without the onlooker, who notes it. -/
lemma unnoticed_call (mode : CallMode) (request : Command → Disk → σ → Reply σ α) (c : Command) :
    Unnoticed α (call mode (watchedCall (fun _ d => d.tree) mode request) c)
      (call mode request c) := by
  refine fun w => ⟨rfl, _, _, rfl, rfl, ?_⟩
  simp [Sighting.call, Event.calls, Event.call?, Plan.bare, List.filterMap_map, Function.comp_def]

end Work

namespace Session

open Work

variable {s : Session} {r : Runner σ} {inputs : List Path} {ws : Workspace}

/-- What the onlooker noted is kept beside the runner's own state. -/
lemma keeps_observed (r : Runner σ) : Runner.Keeps World.Saw r.observed r where
  quiet := World.saw_nothing
  trans := World.Saw.trans
  run := unnoticed_call .run r.run
  capture := unnoticed_call .capture r.capture
  find _ _ _ := rfl

/-- What sessions are built from goes unnoticed. -/
lemma unnoticed_parts (r : Runner σ) : Simulation Unnoticed r.observed r :=
  (keeps_observed r).simulation

/-- **An onlooker changes nothing, and notes the calls.** -/
theorem execute_observed (s : Session) (r : Runner σ) (inputs : List Path) :
    Unnoticed Report (s.execute r.observed inputs) (s.execute r inputs) :=
  (keeps_observed r).execute s inputs

/-! ## What is noted first -/

/-- What is said of a file that was written. -/
def announcement (s : Session) (path : Path) (what : String) : Remark :=
  .logged (Level.progress s.settings.verbose) ("# Generated " ++ what ++ " " ++ path.text)

/-- What comes of writing a file of the working directory. -/
lemma run_writeFile (s : Session) (path : Path) (contents what : String) (w : World σ) :
    (s.writeFile path contents what).run w =
      match (Disk.write path (bytesOf contents)).run w.disk with
      | (.error cause, d) => (.error (.workspace path cause), { w with disk := d })
      | (.ok _, d) => (.ok (), { w with
          disk := d
          journal := w.journal ++ [.wrote path] ++ [.said (s.announcement path what)] }) := by
  have hwritten := run_onDisk (.workspace path) (Disk.write path (bytesOf contents)) w
  rcases hwrite : (Disk.write path (bytesOf contents)).run w.disk with ⟨cause | ⟨⟩, d⟩
  · rw [hwrite] at hwritten
    exact Act.bind_error (Act.bind_error hwritten)
  · rw [hwrite] at hwritten
    have hfile : (Workspace.write path contents).run w =
        (.ok (), { w with disk := d, journal := w.journal ++ [.wrote path] }) :=
      Act.bind_ok hwritten
    exact Act.bind_ok hfile

section

variable {w : World (σ × List Sighting)} {done : Except Failure α × World (σ × List Sighting)}

/-- **A run is noted first**, with the files as they are, if nothing was noted before. -/
lemma noted_invoke {c : Command} {f : String → Work (σ × List Sighting) α} (hnone : w.tools.2 = [])
    (hdone : (invoke r.observed c >>= f).run w = done)
    (hf : ∀ tool w', World.Saw w' ((f tool).run w').2) :
    ∃ rest, done.2.tools.2 = ⟨.run, c, w.disk.tree⟩ :: rest := by
  have hnoted : ((call .run r.observed.run c).run w).2.tools.2 =
      w.tools.2 ++ [⟨.run, c, w.disk.tree⟩] := rfl
  rw [hnone] at hnoted
  rcases hcall : (call .run r.observed.run c).run w with ⟨e | ⟨⟩, w'⟩
  · have hinvoke : (invoke r.observed c).run w = (.error e, w') := Act.bind_error hcall
    rw [hcall] at hnoted
    rw [Act.bind_error hinvoke] at hdone
    subst hdone
    exact ⟨[], hnoted⟩
  · have hinvoke : (invoke r.observed c).run w = (.ok c.tool, w') := Act.bind_ok hcall
    rw [hcall] at hnoted
    rw [Act.bind_ok hinvoke] at hdone
    obtain ⟨rest, hrest⟩ := (hf c.tool w').isPrefix
    exact ⟨rest, by rw [← hdone, ← hrest, hnoted]; rfl⟩

/-- Nothing is noted while a file is written. What comes after it starts with the file there. -/
lemma noted_writeFile {path : Path} {contents what : String}
    {f : Unit → Work (σ × List Sighting) α} (hnone : w.tools.2 = [])
    (hdone : (s.writeFile path contents what >>= f).run w = done) :
    done.2.tools.2 = [] ∨ ∃ w',
      (Disk.write path (bytesOf contents)).run w.disk = (.ok (), w'.disk) ∧ w'.tools.2 = [] ∧
        (f ()).run w' = done := by
  have hfile := run_writeFile s path contents what w
  rcases hwrite : (Disk.write path (bytesOf contents)).run w.disk with ⟨cause | ⟨⟩, d⟩
  · rw [hwrite] at hfile
    rw [Act.bind_error hfile] at hdone
    subst hdone
    exact Or.inl hnone
  · rw [hwrite] at hfile
    rw [Act.bind_ok hfile] at hdone
    exact Or.inr ⟨⟨d, _, w.tools⟩, rfl, hnone, hdone⟩

end

section

variable {w : World (σ × List Sighting)}
  {done : Except Failure (Option Path × Statistics) × World (σ × List Sighting)}

/-- What is noted first once the script and the symbol file are there: the run of the compiler. -/
lemma noted_follow {p : Pipeline} (hnone : w.tools.2 = [])
    (hdone : (s.follow r.observed inputs ws p).run w = done) :
    ∃ rest, done.2.tools.2 = ⟨.run, s.generateCommand ws inputs, w.disk.tree⟩ :: rest := by
  have hparts := (unnoticed_parts r).toCalling
  refine noted_invoke hnone hdone fun compiler w' => ?_
  dsimp only
  split
  · exact (hparts.bind (hparts.linkProgram s ws (hparts.choose _ _)) (fun _ =>
      hparts.bind (hparts.runProgram s ws) fun _ => hparts.pure _) w').2
  · exact (hparts.pure _ w').2

/-- **What is noted first if a script is followed**: the run of the compiler, after the script and
the symbol file were written one after the other. -/
lemma noted_build (hnone : w.tools.2 = []) (hdone : (s.build r.observed inputs ws).run w = done) :
    done.2.tools.2 = [] ∨ ∃ p d₁ d₂,
      s.settings.pipelineInto ws.path.text = .ok p ∧
      (Disk.write ws.projectFile (bytesOf (Script.render p s.commandLine))).run w.disk =
        (.ok (), d₁) ∧
      (Disk.write ws.symbolFile (bytesOf (Symbols.ofSettings s.settings).encode)).run d₁ =
        (.ok (), d₂) ∧
      ∃ rest, done.2.tools.2 = ⟨.run, s.generateCommand ws inputs, d₂.tree⟩ :: rest := by
  have hpipeline : (Act.ofExcept (s.settings.pipelineInto ws.path.text) :
      Work (σ × List Sighting) Pipeline).run w = (s.settings.pipelineInto ws.path.text, w) := rfl
  unfold build at hdone
  cases hp : s.settings.pipelineInto ws.path.text with
  | error e =>
    rw [hp] at hpipeline hdone
    rw [Act.bind_error hpipeline] at hdone
    subst hdone
    exact Or.inl hnone
  | ok p =>
    rw [hp] at hpipeline hdone
    rw [Act.bind_ok hpipeline] at hdone
    rcases noted_writeFile hnone hdone with hnoted | ⟨w₁, hproject, hnone₁, hdone₁⟩
    · exact Or.inl hnoted
    rcases noted_writeFile hnone₁ hdone₁ with hnoted | ⟨w₂, hsymbols, hnone₂, hdone₂⟩
    · exact Or.inl hnoted
    exact Or.inr ⟨p, w₁.disk, w₂.disk, rfl, hproject, hsymbols, noted_follow hnone₂ hdone₂⟩

/-- **What is noted first if MLIR is run**: the run of the compiler, after the symbol file was
written. -/
lemma noted_runMlir (hnone : w.tools.2 = [])
    (hdone : (s.runMlir r.observed inputs ws).run w = done) :
    done.2.tools.2 = [] ∨ ∃ d₁,
      (Disk.write ws.symbolFile (bytesOf (Symbols.ofSettings s.settings).encode)).run w.disk =
        (.ok (), d₁) ∧
      ∃ rest, done.2.tools.2 = ⟨.run, s.mlirCommand ws inputs, d₁.tree⟩ :: rest := by
  have hparts := (unnoticed_parts r).toCalling
  rcases noted_writeFile hnone hdone with hnoted | ⟨w₁, hsymbols, hnone₁, hdone₁⟩
  · exact Or.inl hnoted
  refine Or.inr ⟨w₁.disk, hsymbols, noted_invoke hnone₁ hdone₁ fun compiler w' => ?_⟩
  exact (hparts.bind (hparts.progress s _) (fun _ => hparts.bind (hparts.invoke _) fun _ =>
    hparts.bind (hparts.progress s _) fun _ => hparts.pure _) w').2

end

/-- **What a session notes** is what its steps note in the working directory, once it is acquired.
-/
lemma noted_execute {steps : Workspace → Work (σ × List Sighting) (Option Path × Statistics)}
    (hsteps : s.steps? r.observed inputs = some steps) (w : World (σ × List Sighting)) :
    let done := (s.execute r.observed inputs).run w
    done.2.tools = w.tools ∨ ∃ ws w₁,
      (Workspace.acquire s.settings.workingDir s.settings.keepFiles s.settings.verbose).run w =
        (.ok ws, w₁) ∧ w₁.tools = w.tools ∧ done.2.tools = ((steps ws).run w₁).2.tools := by
  intro done
  cases hcheck : s.settings.checkSession inputs with
  | error e =>
    have hdone : done = _ := run_execute_of_refused hcheck w
    rw [hdone]
    exact Or.inl rfl
  | ok _ =>
    rcases hacquire : (Workspace.acquire s.settings.workingDir s.settings.keepFiles
      s.settings.verbose).run w with ⟨e | ws, w₁⟩
    · obtain ⟨-, -, hw⟩ := Workspace.acquire_eq_error hacquire
      have hdone : done = _ := run_execute_of_no_directory hcheck hsteps hacquire
      rw [hdone, hw]
      exact Or.inl rfl
    · obtain ⟨-, -, -, -, hw⟩ := Workspace.acquire_eq_ok hacquire
      have hdone : done = _ := run_execute_of_acquire hcheck hsteps hacquire
      exact Or.inr ⟨ws, w₁, rfl, by rw [hw], by rw [hdone]⟩

end Session

end AslBuild
