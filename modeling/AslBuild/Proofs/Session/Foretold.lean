import AslBuild.Host.Runner
import AslBuild.Proofs.FileSystem.Outline
import AslBuild.Proofs.Session.Sightings
set_option autoImplicit false

/-!
# Rehearsals foretell what is done

A rehearsal notes commands and starts none. It shows what a session would do if the tools just ended
with success: then the session that is really held calls the same commands in the same order, and
ends in the same way. There is one thing that a rehearsal does not know, and that is which compilers
there are. So a session that links code is foretold if a variable chooses the compiler, or none of
the preferred ones is there.

The two sessions may record different commands in their scripts. So what they write differs, but
only in what the script holds, and nothing that they do depends on that.

## Main definitions

* `AslBuild.Host.Idle` — a process that ends with success, prints nothing and changes no file.
* `AslBuild.World.Mirrors` — a world in which a session was rehearsed, and one in which it was held.
* `AslBuild.Work.Foretells` — a rehearsed step and the step itself, while the files stay.
* `AslBuild.Session.Foreseen` — a call of which a rehearsal knows what comes of it.

## Main results

* `AslBuild.Session.asking_foretells` — calls are foretold.
* `AslBuild.Session.execute_foretold` — whole sessions are foretold.
-/

namespace AslBuild

open FileSystem Runner

/-! ## Processes that do nothing -/

namespace Host

/-- The process that is started for a command ends with success, prints nothing and leaves the files
alone. -/
def Idle (launch : Launch) (environment : Environment) (c : Command) (d : Disk) : Prop :=
  (c.program :: c.arguments).all isPassable = true ∧
    ∃ m, startByName launch none (startOf environment c d) (machineOn d) = (.ok (.exited 0), m) ∧
      m.printed = [] ∧ m.tree = d.tree

variable {launch : Launch} {environment : Environment} {c : Command} {d : Disk} {verbose : Bool}
  {place : SearchPlace}

/-- Of a process that does nothing only its command is shown. -/
lemma call_of_idle {α : Type} (h : Idle launch environment c d)
    (shown : List (Stream × List UInt8) → List (Stream × List UInt8)) (hshown : shown [] = [])
    (value : List (Stream × List UInt8) → α) :
    call launch environment verbose shown value c d =
      { result := .ok (value []), state := (), tree := d.tree,
        remarks := [.logged (Level.progress verbose) c.line] } := by
  obtain ⟨hpassable, m, hstart, hprinted, htree⟩ := h
  unfold call
  rw [if_pos hpassable, hstart]
  simp only [hprinted, List.reverse_nil, hshown, htree, failureOf?]
  rfl

lemma run_of_idle (h : Idle launch environment c d) :
    (runner launch environment place verbose).run c d () =
      { result := .ok (), state := (), tree := d.tree,
        remarks := [.logged (Level.progress verbose) c.line] } :=
  call_of_idle h id rfl fun _ => ()

lemma capture_of_idle (h : Idle launch environment c d) :
    (runner launch environment place verbose).capture c d () =
      { result := .ok "", state := (), tree := d.tree,
        remarks := [.logged (Level.progress verbose) c.line] } :=
  call_of_idle h (fun printed => printed.filter fun p => p.1 == .err) rfl
    fun printed => Text.Utf8.decode (bytesTo .out printed)

end Host

/-! ## Journals in which nothing is printed -/

namespace Event

/-- Whether an event is output of a tool that is passed on. -/
def isPrinted : Event → Bool
  | .said (.printed _ _) => true
  | _ => false

/-- Nothing in a journal is printed by a tool. -/
def Silent (journal : List Event) : Prop := ∀ e ∈ journal, e.isPrinted = false

instance (journal : List Event) : Decidable (Silent journal) :=
  inferInstanceAs (Decidable (∀ e ∈ journal, e.isPrinted = false))

lemma silent_nil : Silent [] := fun _ h => absurd h List.not_mem_nil

lemma Silent.append {es es' : List Event} (h : Silent es) (h' : Silent es') : Silent (es ++ es') :=
  fun e he => (List.mem_append.1 he).elim (h e) (h' e)

lemma silent_logged (level : Level) (message : String) : Silent [.said (.logged level message)] :=
  List.forall_mem_singleton.2 rfl

lemma silent_called (mode : CallMode) (c : Command) (f : Option Failure) (level : Level)
    (message : String) : Silent [.called mode c f, .said (.logged level message)] :=
  List.forall_mem_cons.2 ⟨rfl, silent_logged level message⟩

end Event

/-! ## Rehearsed and real worlds -/

/-- What happened in a world in which a session is rehearsed, and in one in which it is held: the
commands that were noted are those that were called, and nothing was printed. The files are the same
but for what they hold. -/
structure World.Mirrors (w : World (List String)) (w' : World (Unit × List Sighting)) : Prop where
  /-- The files differ only in what they hold. -/
  outline : w.disk.outline = w'.disk.outline
  /-- The commands are the same. -/
  lines : w.tools = w'.tools.2.map fun x => x.command.line
  /-- Nothing is printed in the rehearsal. -/
  rehearsed : Event.Silent w.journal
  /-- Nor is it really. -/
  silent : Event.Silent w'.journal

/-- Something is added to both journals. -/
lemma World.Mirrors.said {w : World (List String)} {w' : World (Unit × List Sighting)}
    (h : w.Mirrors w') {es es' : List Event} (hes : Event.Silent es) (hes' : Event.Silent es') :
    World.Mirrors { w with journal := w.journal ++ es } { w' with journal := w'.journal ++ es' } :=
  ⟨h.outline, h.lines, h.rehearsed.append hes, h.silent.append hes'⟩

namespace Work

variable {α β : Type} {idle : Sighting → Prop} {d : Disk}

/-- A rehearsed step foretells the step itself as long as the files are `d` and the tools do
nothing: both end in the same way, and what was noted is what was called. -/
structure Foretells (idle : Sighting → Prop) (d : Disk) (α : Type) (x : Work (List String) α)
    (x' : Work (Unit × List Sighting) α) : Prop where
  /-- What an onlooker has seen stays. -/
  noted (w' : World (Unit × List Sighting)) : w'.tools.2 <+: (x'.run w').2.tools.2
  /-- The steps end in the same way. -/
  same {w : World (List String)} {w' : World (Unit × List Sighting)} :
    w.Mirrors w' → w'.disk = d → (∀ seen ∈ (x'.run w').2.tools.2, idle seen) →
      (x.run w).1 = (x'.run w').1 ∧ (x.run w).2.Mirrors (x'.run w').2 ∧ (x'.run w').2.disk = d

lemma foretells_pure (a : α) : Foretells idle d α (pure a) (pure a) :=
  ⟨fun _ => List.prefix_rfl, fun h hd _ => ⟨rfl, h, hd⟩⟩

lemma foretells_fail (e : Failure) : Foretells idle d α (Act.fail e) (Act.fail e) :=
  ⟨fun _ => List.prefix_rfl, fun h hd _ => ⟨rfl, h, hd⟩⟩

/-- Sequences are foretold if their steps are. -/
lemma Foretells.bind {x : Work (List String) α} {x' : Work (Unit × List Sighting) α}
    {f : α → Work (List String) β} {f' : α → Work (Unit × List Sighting) β}
    (hx : Foretells idle d α x x') (hf : ∀ a, Foretells idle d β (f a) (f' a)) :
    Foretells idle d β (x >>= f) (x' >>= f') := by
  -- what was seen of the first step is also seen at the end
  have hseen (w') : (x'.run w').2.tools.2 <+: ((x' >>= f').run w').2.tools.2 := by
    rcases hrun : x'.run w' with ⟨e | a, u'⟩
    · exact ⟨[], by rw [Act.bind_error hrun, List.append_nil]⟩
    · rw [Act.bind_ok hrun]
      exact (hf a).noted u'
  constructor
  · exact fun w' => (hx.noted w').trans (hseen w')
  · intro w w' hmirrors hd hidle
    obtain ⟨hresult, hmirrors₁, hd₁⟩ :=
      hx.same hmirrors hd fun seen hmem => hidle seen ((hseen w').subset hmem)
    obtain ⟨e, hstops, hstops'⟩ | ⟨a, hgoes, hgoes'⟩ := Act.bind_of_same f f' hresult
    · rw [hstops, hstops']
      exact ⟨rfl, hmirrors₁, hd₁⟩
    · rw [hgoes'] at hidle ⊢
      rw [hgoes]
      exact (hf a).same hmirrors₁ hd₁ hidle

/-- Messages are foretold. -/
lemma foretells_log (level : Level) (message : String) :
    Foretells idle d Unit (log level message) (log level message) :=
  ⟨fun _ => List.prefix_rfl, fun h hd _ =>
    ⟨rfl, h.said (Event.silent_logged _ _) (Event.silent_logged _ _), hd⟩⟩

/-- What comes of a call of which only a message is logged, and which leaves the files alone. -/
lemma run_call_of_reply {σ : Type} {mode : CallMode} {c : Command} {a : α} {state : σ}
    {request : Command → Disk → σ → Reply σ α} {level : Level} {message : String} {w : World σ}
    (h : request c w.disk w.tools = ⟨.ok a, state, w.disk.tree, [.logged level message]⟩) :
    (call mode request c).run w = (.ok a, { w with
      journal := w.journal ++ [.called mode c none, .said (.logged level message)]
      tools := state }) := by
  show (call mode request c) w = _
  unfold call
  rw [h]
  rfl

/-- A call is foretold if the same comes of it that the rehearsal gives. -/
lemma foretells_call {mode : CallMode} {c : Command} {a : α}
    {request : Command → Disk → List String → Reply (List String) α}
    {request' : Command → Disk → Unit → Reply Unit α} {level level' : Level}
    {message message' : String}
    (h : ∀ u noted, request c u noted =
      ⟨.ok a, noted ++ [c.line], u.tree, [.logged level message]⟩)
    (h' : idle ⟨mode, c, d.tree⟩ →
      request' c d () = ⟨.ok a, (), d.tree, [.logged level' message']⟩) :
    Foretells idle d α (call mode request c)
      (call mode (watchedCall (fun _ d => d.tree) mode request') c) := by
  constructor
  · intro w'
    exact ⟨[⟨mode, c, w'.disk.tree⟩], rfl⟩
  · rintro w w' hmirrors rfl hidle
    have hreply := h' (hidle _ (List.mem_append_right _ List.mem_cons_self))
    have hwatched : watchedCall (fun _ d => d.tree) mode request' c w'.disk w'.tools =
        ⟨.ok a, ((), w'.tools.2 ++ [⟨mode, c, w'.disk.tree⟩]), w'.disk.tree,
          [.logged level' message']⟩ := by
      show (⟨(request' c w'.disk ()).result, ((request' c w'.disk ()).state, _),
        (request' c w'.disk ()).tree, (request' c w'.disk ()).remarks⟩ : Reply _ α) = _
      rw [hreply]
    rw [run_call_of_reply (h w.disk w.tools), run_call_of_reply hwatched]
    refine ⟨rfl, ⟨hmirrors.outline, ?_, ?_, ?_⟩, rfl⟩
    · rw [hmirrors.lines, List.map_append]
      rfl
    · exact hmirrors.rehearsed.append (Event.silent_called _ _ _ _ _)
    · exact hmirrors.silent.append (Event.silent_called _ _ _ _ _)

end Work

/-- A script is not empty. -/
lemma Script.isEmpty_bytes_render (p : Pipeline) (command : Option String) :
    (bytesOf (render p command)).isEmpty = false := by
  have hrender : render p command ≠ "" := by
    unfold render header ofLines
    rw [List.cons_append, List.map_cons, String.join_cons]
    exact fun h => absurd (String.append_eq_empty_iff.1 h).1 (by decide)
  rw [← Bool.not_eq_true, List.isEmpty_iff]
  exact fun h => hrender (Text.toList_toUTF8_eq_nil_iff.1 h)

/-- A working directory is removed alike if the files differ only in what they hold. -/
lemma Workspace.removal_of_outline {d d' : Disk} (h : d.outline = d'.outline) (ws : Workspace) :
    (ws.removal d).1 = (ws.removal d').1 ∧
      (ws.removal d).2.outline = (ws.removal d').2.outline := by
  unfold removal
  split
  · exact ⟨rfl, h⟩
  · obtain ⟨hresult, houtline⟩ := Disk.alike_removeAll ws.path d d' h
    dsimp only
    split
    · exact ⟨by rw [hresult], houtline⟩
    · exact ⟨by rw [hresult], houtline⟩

/-- Nothing is printed when a working directory is released. -/
lemma Workspace.silent_farewell (ws : Workspace) : Event.Silent ws.farewell := by
  unfold farewell
  split
  · exact Event.silent_nil
  · exact List.forall_mem_singleton.2 rfl

namespace Toolchain

/-- Without any of the preferred compilers the default of the language is taken. -/
lemma firstFound_of_none {found : String → Bool} (h : ∀ name ∈ preferred, found name = false)
    (cxx : Bool) : firstFound found cxx = fallback cxx := by
  have hnone : preferred.find? found = none :=
    List.find?_eq_none.2 fun name hname => by simp [h name hname]
  rw [firstFound, hnone, Option.getD_none]

end Toolchain

namespace Session

open Work

variable {s : Session} {inputs : List Path} {ws : Workspace} {launch : Host.Launch}
  {environment : Environment} {place : Host.SearchPlace} {verbose : Bool} {v : Disk} {α : Type}
  {line : Option String}

/-! ## Calls -/

/-- What a rehearsal takes for granted of a call, where the process sees the files as in `v` but for
what the tree is at the call: the process does nothing, and a session that links code uses the
compiler that a variable chooses, or finds none of the preferred ones. -/
structure Foreseen (s : Session) (launch : Host.Launch) (environment : Environment)
    (place : Host.SearchPlace) (v : Disk) (x : Sighting) : Prop where
  /-- The process does nothing. -/
  idle : Host.Idle launch environment x.command { v with tree := x.tree }
  /-- The compiler is known without looking for it. -/
  compiler : s.task? = some .follow → s.linksCode = true →
    Toolchain.override s.environment ≠ [] ∨
      ∀ name ∈ Toolchain.preferred, Host.findProgram place { v with tree := x.tree } name = none

/-- **Calls are foretold** if the processes do nothing. -/
lemma asking_foretells (d : Disk) :
    Asking (Foretells (fun x => Host.Idle launch environment x.command { d with tree := x.tree }) d)
      (Rehearsal.runner {}) (Host.runner launch environment place verbose).observed where
  pure := foretells_pure
  bind := Foretells.bind
  log := foretells_log
  lacking _ := foretells_fail _
  run _ := foretells_call (fun _ _ => rfl) Host.run_of_idle
  capture _ := foretells_call (fun _ _ => rfl) Host.capture_of_idle

/-- The choice of the compiler is foretold if it is known without looking for one. -/
lemma foretells_choose {idle : Sighting → Prop} {d : Disk} {env : Environment} (cxx : Bool)
    (h : Toolchain.override env ≠ [] ∨
      ∀ name ∈ Toolchain.preferred, Host.findProgram place d name = none) :
    Foretells idle d (List String) (Toolchain.choose env (Rehearsal.runner {}) cxx)
      (Toolchain.choose env (Host.runner launch environment place verbose).observed cxx) := by
  unfold Toolchain.choose
  split
  case h_1 hoverride =>
    have hnone := h.resolve_left (not_not_intro hoverride)
    refine ⟨fun _ => List.prefix_rfl, ?_⟩
    rintro w w' hmirrors rfl -
    have hfound (name : String) (hname : name ∈ Toolchain.preferred) :
        (Host.findProgram place w'.disk name).isSome = false := by
      rw [hnone name hname, Option.isSome_none]
    have hsame := (Toolchain.firstFound_of_none (fun _ _ => rfl) cxx).trans
      (Toolchain.firstFound_of_none hfound cxx).symm
    exact ⟨congrArg (fun name => Except.ok [name]) hsame, hmirrors, rfl⟩
  case h_2 => exact foretells_pure _

/-! ## Steps in a working directory -/

/-- Steps of a session that called nothing so far are foretold. -/
def Foreshadows (good : Sighting → Prop) (v : Disk) (x : Work (List String) α)
    (x' : Work (Unit × List Sighting) α) : Prop :=
  ∀ w w', w.Mirrors w' → w'.tools.2 = [] → w'.disk = { v with tree := w'.disk.tree } →
    (∀ seen ∈ (x'.run w').2.tools.2, good seen) →
      (x.run w).1 = (x'.run w').1 ∧ (x.run w).2.Mirrors (x'.run w').2

/-- What is foretold as long as the files stay is foretold from the start. -/
lemma mirrors_of_foretells {x : Work (List String) α} {x' : Work (Unit × List Sighting) α}
    {w : World (List String)} {w' : World (Unit × List Sighting)} (hmirrors : w.Mirrors w')
    (hview : w'.disk = { v with tree := w'.disk.tree })
    (hgood : ∀ seen ∈ (x'.run w').2.tools.2, s.Foreseen launch environment place v seen)
    (h : Foretells (fun x => Host.Idle launch environment x.command { w'.disk with tree := x.tree })
      w'.disk α x x') :
    (x.run w).1 = (x'.run w').1 ∧ (x.run w).2.Mirrors (x'.run w').2 := by
  obtain ⟨hresult, hends, -⟩ := h.same hmirrors rfl fun seen hmem => by
    have hidle := (hgood seen hmem).idle
    rw [hview]
    exact hidle
  exact ⟨hresult, hends⟩

/-- **Following a script is foretold.** -/
lemma foreshadows_follow (htask : s.task? = some .follow) (p : Pipeline) :
    Foreshadows (s.Foreseen launch environment place v) v
      (s.follow (Rehearsal.runner {}) inputs ws p)
      (s.follow (Host.runner launch environment place verbose).observed inputs ws p) := by
  intro w w' hmirrors hnone hview hgood
  obtain ⟨rest, hfirst⟩ : ∃ rest,
      ((s.follow (Host.runner launch environment place verbose).observed inputs ws p).run
        w').2.tools.2 = ⟨.run, s.generateCommand ws inputs, w'.disk.tree⟩ :: rest :=
    noted_follow hnone rfl
  -- the files stay as they are when the compiler is run
  have hcompiler := (hgood _ (hfirst ▸ List.mem_cons_self)).compiler htask
  rw [← hview] at hcompiler
  exact mirrors_of_foretells hmirrors hview hgood ((asking_foretells w'.disk).follow s inputs ws p
    fun hlinks => foretells_choose _ (hcompiler hlinks))

/-- What comes after a file was written is foretold if it is so from there, whatever the file holds.
-/
lemma Foreshadows.after_write {good : Sighting → Prop} {path : Path}
    {contents contents' what : String} {f : Unit → Work (List String) α}
    {f' : Unit → Work (Unit × List Sighting) α}
    (hempty : (bytesOf contents).isEmpty = (bytesOf contents').isEmpty)
    (hf : Foreshadows good v (f ()) (f' ())) :
    Foreshadows good v (s.writeFile path contents what >>= f)
      (s.writeFile path contents' what >>= f') := by
  intro w w' hmirrors hnone hview hgood
  obtain ⟨hresult, houtline⟩ := Disk.alike_write path hempty w.disk w'.disk hmirrors.outline
  have htree := Disk.treeOnly_write path (bytesOf contents') w'.disk
  have hfile := run_writeFile s path contents what w
  have hfile' := run_writeFile s path contents' what w'
  rcases hwrite : (Disk.write path (bytesOf contents)).run w.disk with ⟨r, d⟩
  rcases hwrite' : (Disk.write path (bytesOf contents')).run w'.disk with ⟨r', d'⟩
  rw [hwrite, hwrite'] at hresult houtline
  rw [hwrite'] at htree
  rw [hwrite] at hfile
  rw [hwrite'] at hfile'
  obtain rfl : r = r' := hresult
  rcases r with cause | _
  · rw [Act.bind_error hfile, Act.bind_error hfile']
    exact ⟨rfl, houtline, hmirrors.lines, hmirrors.rehearsed, hmirrors.silent⟩
  · rw [Act.bind_ok hfile'] at hgood ⊢
    rw [Act.bind_ok hfile]
    have hsilent : Event.Silent [.wrote path] := List.forall_mem_singleton.2 rfl
    refine hf _ _ ⟨houtline, hmirrors.lines, ?_, ?_⟩ hnone ?_ hgood
    · exact (hmirrors.rehearsed.append hsilent).append (Event.silent_logged _ _)
    · exact (hmirrors.silent.append hsilent).append (Event.silent_logged _ _)
    · dsimp only at htree ⊢
      rw [htree, hview]

/-- **Generating code and what comes after that is foretold**, whatever command is recorded. -/
lemma foreshadows_build (htask : s.task? = some .follow) :
    Foreshadows (s.Foreseen launch environment place v) v
      ({ s with commandLine := line }.build (Rehearsal.runner {}) inputs ws)
      (s.build (Host.runner launch environment place verbose).observed inputs ws) := by
  rw [build_eq_follow, build_eq_follow]
  dsimp only
  cases hp : s.settings.pipelineInto ws.path.text with
  | error e => exact fun w w' hmirrors _ _ _ => ⟨rfl, hmirrors⟩
  | ok p =>
    have hfollow : Foreshadows (s.Foreseen launch environment place v) v
        (s.follow (Rehearsal.runner {}) inputs ws p)
        (s.follow (Host.runner launch environment place verbose).observed inputs ws p) :=
      foreshadows_follow htask p
    exact Foreshadows.after_write
      ((Script.isEmpty_bytes_render p _).trans (Script.isEmpty_bytes_render p _).symm)
      (Foreshadows.after_write rfl hfollow)

/-- Generating MLIR and running it is foretold. -/
lemma foreshadows_runMlir :
    Foreshadows (s.Foreseen launch environment place v) v
      (s.runMlir (Rehearsal.runner {}) inputs ws)
      (s.runMlir (Host.runner launch environment place verbose).observed inputs ws) := by
  rw [runMlir_eq_runGenerated, runMlir_eq_runGenerated]
  refine Foreshadows.after_write rfl fun w w' hmirrors _ hview hgood => ?_
  exact mirrors_of_foretells hmirrors hview hgood
    ((asking_foretells w'.disk).runGenerated s inputs ws)

/-- A session that needs a working directory is rehearsed in the same steps. -/
lemma foreshadows_steps (line : Option String)
    {steps : Workspace → Work (Unit × List Sighting) (Option Path × Statistics)}
    (hsteps : s.steps? (Host.runner launch environment place verbose).observed inputs =
      some steps) :
    ∃ rehearsed, { s with commandLine := line }.steps? (Rehearsal.runner {}) inputs =
        some rehearsed ∧
      ∀ ws, Foreshadows (s.Foreseen launch environment place v) v (rehearsed ws) (steps ws) := by
  rcases task?_of_steps? hsteps with ⟨htask, rfl⟩ | ⟨htask, rfl⟩
  · exact ⟨_, steps?_of_follow htask, fun ws => foreshadows_build htask⟩
  · exact ⟨_, steps?_of_mlir htask, fun ws => foreshadows_runMlir⟩

/-- What is done in a working directory that was acquired is foretold if the steps are. -/
lemma mirrors_of_acquired {good : Sighting → Prop}
    {steps : Workspace → Work (List String) (Option Path × Statistics)}
    {steps' : Workspace → Work (Unit × List Sighting) (Option Path × Statistics)}
    {w w₁ : World (List String)} {w' w₁' : World (Unit × List Sighting)} (hopen : ws.IsOpen)
    (hacquire : (Workspace.acquire s.settings.workingDir s.settings.keepFiles
      s.settings.verbose).run w = (.ok ws, w₁))
    (hacquire' : (Workspace.acquire s.settings.workingDir s.settings.keepFiles
      s.settings.verbose).run w' = (.ok ws, w₁'))
    (hsteps : Foreshadows good v (steps ws) (steps' ws)) (hmirrors : w₁.Mirrors w₁')
    (hnone : w₁'.tools.2 = []) (hview : w₁'.disk = { v with tree := w₁'.disk.tree })
    (hgood : ∀ seen ∈ ((s.inWorkspace steps').run w').2.tools.2, good seen) :
    ((s.inWorkspace steps).run w).1 = ((s.inWorkspace steps').run w').1 ∧
      ((s.inWorkspace steps).run w).2.Mirrors ((s.inWorkspace steps').run w').2 := by
  rw [run_inWorkspace hacquire', Workspace.run_release hopen] at hgood
  rw [run_inWorkspace hacquire, run_inWorkspace hacquire', Workspace.run_release hopen,
    Workspace.run_release hopen]
  obtain ⟨hresult, hends⟩ := hsteps w₁ w₁' hmirrors hnone hview hgood
  obtain ⟨hremoval, houtline⟩ := Workspace.removal_of_outline hends.outline ws
  refine ⟨?_, houtline, hends.lines, ?_, ?_⟩
  · dsimp only
    rw [hresult, hremoval]
  · exact hends.rehearsed.append (Workspace.silent_farewell _)
  · exact hends.silent.append (Workspace.silent_farewell _)

/-- What is done in the working directory that is given is foretold if the steps are. -/
lemma mirrors_inWorkspace {good : Sighting → Prop} {dir : Path}
    {steps : Workspace → Work (List String) (Option Path × Statistics)}
    {steps' : Workspace → Work (Unit × List Sighting) (Option Path × Statistics)}
    {w : World (List String)} {w' : World (Unit × List Sighting)}
    (hdir : s.settings.workingDir = some dir)
    (hsteps : ∀ ws, Foreshadows good w'.disk (steps ws) (steps' ws))
    (hmirrors : w.Mirrors w') (hdisk : w.disk = w'.disk) (hnone : w'.tools.2 = [])
    (hgood : ∀ seen ∈ ((s.inWorkspace steps').run w').2.tools.2, good seen) :
    ((s.inWorkspace steps).run w).1 = ((s.inWorkspace steps').run w').1 ∧
      ((s.inWorkspace steps).run w).2.Mirrors ((s.inWorkspace steps').run w').2 := by
  have hacquire := Workspace.run_acquire_given dir s.settings.keepFiles s.settings.verbose w
  have hacquire' := Workspace.run_acquire_given dir s.settings.keepFiles s.settings.verbose w'
  have hgrows := Disk.grows_makeDirs dir w'.disk
  rw [hdisk] at hacquire
  rw [← hdir] at hacquire hacquire'
  rcases hmade : (Disk.makeDirs dir).run w'.disk with ⟨cause | _, d⟩
  · rw [hmade] at hacquire hacquire'
    rw [inWorkspace, Act.bind_error hacquire, inWorkspace, Act.bind_error hacquire']
    exact ⟨rfl, rfl, hmirrors.lines, hmirrors.rehearsed, hmirrors.silent⟩
  · rw [hmade] at hacquire hacquire' hgrows
    refine mirrors_of_acquired ⟨rfl, Or.inl rfl⟩ hacquire hacquire' (hsteps _)
      ⟨rfl, hmirrors.lines, ?_, ?_⟩ hnone hgrows.view hgood
    · exact hmirrors.rehearsed.append (Event.silent_logged _ _)
    · exact hmirrors.silent.append (Event.silent_logged _ _)

/-! ## Whole sessions -/

/-- A session came to an end as its rehearsal had. Only a session that shows its script may show
something else, because the script holds the recorded command. -/
structure Foretold (s : Session) (rehearsed : Except Failure Report × World (List String))
    (done : Except Failure Report × World (Unit × List Sighting)) : Prop where
  /-- Both succeed, or both fail with the same failure. -/
  ending : (rehearsed.1.map fun _ => ()) = done.1.map fun _ => ()
  /-- They report the same. -/
  report : s.settings.action ≠ .showScript → rehearsed.1 = done.1
  /-- What was noted is what was called. -/
  mirrors : rehearsed.2.Mirrors done.2

/-- Where the same is reported the ending is the same. -/
lemma foretold_of_same {rehearsed : Except Failure Report × World (List String)}
    {done : Except Failure Report × World (Unit × List Sighting)}
    (h : rehearsed.1 = done.1 ∧ rehearsed.2.Mirrors done.2) : s.Foretold rehearsed done :=
  ⟨by rw [h.1], fun _ => h.1, h.2⟩

/-- What comes of showing a text. -/
lemma run_showing {σ : Type} (text : Except Failure String) (w : World σ) :
    (showing (Act.ofExcept text)).run w = (text.map fun text => { output := some text }, w) := by
  rw [showing, Act.run_bind_pure, Act.run_ofExcept]

/-- A session has a script whatever command is recorded in it. -/
lemma script_of_line (s : Session) (line : Option String) :
    ({ s with commandLine := line }.script.map fun _ => ()) = s.script.map fun _ => () := by
  unfold script
  dsimp only
  cases s.settings.pipeline <;> rfl

/-- A session without a script does the same whatever command is recorded. -/
lemma dispatch_of_line {σ : Type} {r : Runner σ} (hsteps : s.steps? r inputs = none)
    (hscript : s.settings.action ≠ .showScript) :
    { s with commandLine := line }.dispatch r inputs = s.dispatch r inputs := by
  unfold steps? at hsteps
  unfold dispatch
  dsimp only
  split
  · next haction => exact absurd haction hscript
  · rfl
  · rfl
  · rfl
  · rfl
  · cases haction : s.settings.action <;> cases hbackend : s.settings.backend <;> simp_all

/-- **What a session is dispatched to is foretold.** -/
lemma foretold_dispatch (line : Option String) {dir : Path} {w : World (List String)}
    {w' : World (Unit × List Sighting)} (hdir : s.settings.workingDir = some dir)
    (hmirrors : w.Mirrors w') (hdisk : w.disk = w'.disk) (hnone : w'.tools.2 = [])
    (hgood : ∀ seen ∈ ((s.dispatch (Host.runner launch environment place verbose).observed
      inputs).run w').2.tools.2, s.Foreseen launch environment place w'.disk seen) :
    s.Foretold (({ s with commandLine := line }.dispatch (Rehearsal.runner {}) inputs).run w)
      ((s.dispatch (Host.runner launch environment place verbose).observed inputs).run w') := by
  cases hsteps : s.steps? (Host.runner launch environment place verbose).observed inputs with
  | some steps =>
    obtain ⟨rehearsed, hrehearsed, hforeshadows⟩ := foreshadows_steps line hsteps
    rw [dispatch_of_steps? hsteps] at hgood ⊢
    rw [dispatch_of_steps? hrehearsed]
    exact foretold_of_same (mirrors_inWorkspace hdir hforeshadows hmirrors hdisk hnone hgood)
  | none =>
    by_cases hscript : s.settings.action = .showScript
    · have hshown {σ : Type} (r : Runner σ) (s' : Session) (h : s'.settings.action = .showScript) :
          s'.dispatch r inputs = showing (Act.ofExcept s'.script) := by
        rw [dispatch, h]
      rw [hshown _ s hscript, hshown _ { s with commandLine := line } hscript, run_showing,
        run_showing]
      refine ⟨?_, fun h => absurd hscript h, hmirrors⟩
      have hsame := script_of_line s line
      cases hrehearsed : { s with commandLine := line }.script <;> cases hdone : s.script <;>
        simp_all [Except.map]
    · have hrehearsed : s.steps? (Rehearsal.runner {}) inputs = none :=
        steps?_eq_none_iff.2 (steps?_eq_none_iff.1 hsteps)
      rw [dispatch_of_line hrehearsed hscript]
      exact foretold_of_same (mirrors_of_foretells hmirrors rfl hgood
        ((asking_foretells w'.disk).dispatch_of_no_steps hrehearsed fun _ _ => foretells_fail _))

/-- Nothing that is said at the end of a session is printed by a tool. -/
lemma silent_epilogue (s : Session) (result : Except Failure Report) :
    Event.Silent (s.epilogue result) := by
  unfold epilogue
  split
  · exact Event.silent_nil
  · split
    · exact Event.silent_logged _ _
    · exact Event.silent_nil

/-- **Whole sessions are foretold.** Let a session be held in a directory that is given, and let the
tools that it calls just end with success. If it links code, let that not depend on which compilers
there are. Then a rehearsal of the session from the same files ends in the same way, and the
commands that it notes are those that are called, in the same order; it does not matter which command
is recorded in the script. The files are in the end the same but for what they hold.

**Proof sketch.** The script and the symbol file are written alike whatever they hold
(`Disk.alike_write`). From there on the files stay as they are, so that each call gives what the
rehearsal makes up (`asking_foretells`), and the compiler is chosen as if none was there. The
directory is removed alike (`Disk.alike_removeAll`). -/
theorem execute_foretold (line : Option String) {dir : Path} {w : World (List String)}
    {w' : World (Unit × List Sighting)} (hdir : s.settings.workingDir = some dir)
    (hmirrors : w.Mirrors w') (hdisk : w.disk = w'.disk) (hnone : w'.tools.2 = [])
    (hgood : ∀ seen ∈ ((s.execute (Host.runner launch environment place verbose).observed
      inputs).run w').2.tools.2, s.Foreseen launch environment place w'.disk seen) :
    s.Foretold (({ s with commandLine := line }.execute (Rehearsal.runner {}) inputs).run w)
      ((s.execute (Host.runner launch environment place verbose).observed inputs).run w') := by
  cases hcheck : s.settings.checkSession inputs with
  | error e =>
    rw [run_execute_of_refused hcheck, run_execute_of_refused (by exact hcheck)]
    exact foretold_of_same ⟨rfl, hmirrors⟩
  | ok _ =>
    rw [run_execute hcheck] at hgood ⊢
    rw [run_execute (by exact hcheck)]
    obtain ⟨hending, hreport, hends⟩ := foretold_dispatch line hdir hmirrors hdisk hnone hgood
    refine ⟨?_, fun hscript => ?_, hends.said (silent_epilogue _ _) (silent_epilogue _ _)⟩
    · have htrimmed (result : Except Failure Report) :
          ((result.map trimmed).map fun _ => ()) = result.map fun _ => () := by
        cases result <;> rfl
      rw [htrimmed, htrimmed, hending]
    · rw [hreport hscript]

end Session

end AslBuild
