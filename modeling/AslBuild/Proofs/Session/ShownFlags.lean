import AslBuild.Proofs.Session.Directives
import AslBuild.Proofs.Session.Linking
import AslBuild.Proofs.Session.Queries
import AslBuild.Proofs.Session.Sightings
set_option autoImplicit false

/-!
# The flags that are shown are the flags that are used

A session that shows flags writes them on one line, with spaces between them. A session that builds
passes the same flags to the native compiler, each as an argument of its own. Both get them from the
same places: the compiler is asked for those of the runtime, or they are known from where it lies,
and those of the backend come from the variables. So what is shown has the words of the flags that
are used, in their order, if the compiler answers alike. These words are the flags themselves as
long as no directory that a flag names has a blank in it.

## Main definitions

* `AslBuild.FlagKind` — flags for compiling, or for linking.
* `AslBuild.Runner.minuted` — a runner that keeps the answers to what is asked.
* `AslBuild.Session.answers` — the answers that a session is given.
* `AslBuild.Session.FlagsFrom` — what flags are made of, with the answers that were given.
* `AslBuild.Session.PlainDirs` — whether the directories that flags name are free of blanks.
* `AslBuild.Session.linkArguments` — the arguments of the command that links, around its flags.

## Main results

* `AslBuild.Session.isWord_flags_iff` — where flags are words.
* `AslBuild.Session.execute_shows_flags` — the flags that are shown against those that are used.
-/

namespace AslBuild

open FileSystem

/-! ## Kinds of flags -/

/-- What flags are for. -/
inductive FlagKind
  /-- Compiling generated code. -/
  | compile
  /-- Linking it. -/
  | link
deriving DecidableEq

namespace FlagKind

/-- The action that shows the flags. -/
def action : FlagKind → Action
  | compile => .showCompileFlags
  | link => .showLinkFlags

/-- The option by which the compiler is asked for the flags of its runtime. -/
def question : FlagKind → String
  | compile => "--print-c-flags"
  | link => "--print-ld-flags"

/-- The flags of the runtime in a build tree. -/
def known (i : Installation) : FlagKind → List String
  | compile => ["-I" ++ i.includeDir.text]
  | link => [i.library.text]

/-- The flags of a backend. -/
def pick (extra : NativeFlags) : FlagKind → List String
  | compile => extra.compile
  | link => extra.link

/-- The directory of the types of a backend, if there is a flag that names it. -/
def typesDir? (env : Environment) : FlagKind → Backend → Option String
  | compile, .ac => env.get? Environment.acTypes
  | compile, .sc => env.get? Environment.scTypes
  | link, .sc => env.get? Environment.scTypes
  | _, _ => none

end FlagKind

/-! ## Answers -/

namespace Runner

variable {σ : Type}

/-- A runner that keeps the answers to what is asked, with the commands that ask for them. -/
def minuted (r : Runner σ) : Runner (σ × List (Command × String)) where
  run c d t :=
    let reply := r.run c d t.1
    { result := reply.result, state := (reply.state, t.2), tree := reply.tree,
      remarks := reply.remarks }
  capture c d t :=
    let reply := r.capture c d t.1
    { result := reply.result
      state := (reply.state, t.2 ++ (reply.result.toOption.map fun text => (c, text)).toList)
      tree := reply.tree
      remarks := reply.remarks }
  find name d t := r.find name d t.1

/-- The answers are kept beside the runner's own state, and those that were given stay. -/
lemma keeps_minuted (r : Runner σ) : Keeps (fun w w' => w.tools.2 <+: w'.tools.2) r.minuted r where
  quiet _ htools _ := htools ▸ List.prefix_rfl
  trans := List.IsPrefix.trans
  run _ _ := ⟨rfl, List.prefix_rfl⟩
  capture _ _ := ⟨rfl, List.prefix_append _ _⟩
  find _ _ _ := rfl

end Runner

/-- A world in which no answer was given yet. -/
def World.unanswered {σ : Type} (w : World σ) : World (σ × List (Command × String)) :=
  ⟨w.disk, w.journal, (w.tools, [])⟩

namespace Session

open Work

variable {σ : Type} {s : Session} {r : Runner σ} {inputs : List Path} {w : World σ}

/-- The answers that a session is given, with the commands that asked for them. -/
def answers (s : Session) (r : Runner σ) (inputs : List Path) (w : World σ) :
    List (Command × String) :=
  ((s.execute r.minuted inputs).run w.unanswered).2.tools.2

/-- A session with another action. -/
def doing (s : Session) (a : Action) : Session :=
  { s with settings := { s.settings with action := a } }

/-- **A session does the same if its answers are kept.** -/
lemma run_minuted (s : Session) (r : Runner σ) (inputs : List Path) (w : World σ) :
    (s.execute r inputs).run w =
      (((s.execute r.minuted inputs).run w.unanswered).1,
        ((s.execute r.minuted inputs).run w.unanswered).2.bare) :=
  (r.keeps_minuted.execute s inputs w.unanswered).1

/-! ## Flags -/

/-- The flags of the runtime. -/
def runtimeFlags (s : Session) (r : Runner σ) (k : FlagKind) : Work σ (List String) :=
  if s.installation.isInstalled then s.installation.query r k.question
  else pure (k.known s.installation)

/-- The flags that are shown and used: those of the runtime, then those of the backend. -/
def flags (s : Session) (r : Runner σ) (k : FlagKind) : Work σ (List String) := do
  let extra ← Act.ofExcept (s.settings.backend.nativeFlags s.environment)
  let runtime ← s.runtimeFlags r k
  pure (runtime ++ k.pick extra)

/-- The flags for compiling are those of their kind. -/
lemma compileFlags_eq (s : Session) (r : Runner σ) : s.compileFlags r = s.flags r .compile := rfl

/-- The flags for linking are those of their kind. -/
lemma linkFlags_eq (s : Session) (r : Runner σ) : s.linkFlags r = s.flags r .link := rfl

/-- How the flags of a runtime come about: they are what the compiler answers, or they are known
from where it lies. -/
inductive RuntimeFlags (i : Installation) (k : FlagKind) (given : List (Command × String)) :
    List String → Prop
  /-- The compiler was asked. -/
  | asked {text : String} (hplace : i.isInstalled = true)
    (h : (⟨i.program.text, [k.question]⟩, text) ∈ given) : RuntimeFlags i k given (Text.words text)
  /-- The compiler is in its build tree. -/
  | known (hplace : i.isInstalled = false) : RuntimeFlags i k given (k.known i)

/-- What flags are made of, with the answers that were given. -/
def FlagsFrom (s : Session) (k : FlagKind) (given : List (Command × String))
    (flags : List String) : Prop :=
  ∃ extra runtime, s.settings.backend.nativeFlags s.environment = .ok extra ∧
    RuntimeFlags s.installation k given runtime ∧ flags = runtime ++ k.pick extra

variable {k : FlagKind} {given given' : List (Command × String)} {flags flags' : List String}

/-- Further answers do not change what flags are made of. -/
lemma FlagsFrom.mono (h : s.FlagsFrom k given flags) (hle : given <+: given') :
    s.FlagsFrom k given' flags := by
  obtain ⟨extra, runtime, hextra, hruntime, rfl⟩ := h
  refine ⟨extra, runtime, hextra, ?_, rfl⟩
  cases hruntime with
  | asked hplace hmem => exact .asked hplace (hle.subset hmem)
  | known hplace => exact .known hplace

/-- **Flags that are made of the same answers are the same.** -/
lemma FlagsFrom.unique (h : s.FlagsFrom k given flags) (h' : s.FlagsFrom k given' flags')
    (halike : ∀ c text text', (c, text) ∈ given → (c, text') ∈ given' → text = text') :
    flags = flags' := by
  obtain ⟨extra, runtime, hextra, hruntime, rfl⟩ := h
  obtain ⟨extra', runtime', hextra', hruntime', rfl⟩ := h'
  obtain rfl : extra = extra' := Except.ok.inj (hextra.symm.trans hextra')
  cases hruntime with
  | asked hplace hmem =>
    cases hruntime' with
    | asked _ hmem' => rw [halike _ _ _ hmem hmem']
    | known hplace' => exact absurd (hplace.symm.trans hplace') (by simp)
  | known hplace =>
    cases hruntime' with
    | asked hplace' _ => exact absurd (hplace'.symm.trans hplace) (by simp)
    | known _ => rfl

/-! ## Where flags are words -/

/-- Whether the directories that flags of a kind name are free of blanks: the root of the compiler
if it is not asked for flags, and the directory of the types of the backend. -/
structure PlainDirs (s : Session) (k : FlagKind) : Prop where
  /-- The root of the compiler. -/
  root : s.installation.isInstalled = false → Text.hasBlank s.installation.root.text = false
  /-- The directory of the types. -/
  types : ∀ dir ∈ k.typesDir? s.environment s.settings.backend, Text.hasBlank dir = false

/-- A text with others around it is a word exactly if it has no blank, if the others have none and
the first one is not empty. -/
lemma isWord_around {front back : String} (hfront : Text.IsWord front)
    (hback : Text.hasBlank back = false) (text : String) :
    Text.IsWord (front ++ text ++ back) ↔ Text.hasBlank text = false := by
  constructor
  · intro h
    have hnone := h.2
    rw [Text.hasBlank_append, Text.hasBlank_append, Bool.or_eq_false_iff,
      Bool.or_eq_false_iff] at hnone
    exact hnone.1.2
  · intro h
    exact (hfront.append h).append hback

/-- The known flags of a runtime are words exactly if the root of the compiler has no blank. -/
lemma isWord_known_iff {i : Installation} :
    (∀ f ∈ k.known i, Text.IsWord f) ↔ Text.hasBlank i.root.text = false := by
  have hdash : Text.IsWord "-I" := Text.isWord_ofList (w := ['-', 'I']) (by decide)
  have hinclude : Text.hasBlank i.includeDir.text = Text.hasBlank i.root.text := by
    have hnone : Text.hasBlank "lib/asli/runtime_include" = false := by decide
    rw [Installation.includeDir, Path.hasBlank_join (by decide), hnone, Bool.or_false]
  have hlibrary : Text.hasBlank i.library.text = Text.hasBlank i.root.text := by
    have hnone : Text.hasBlank "lib/asli/runtime/libASL.a" = false := by decide
    rw [Installation.library, Path.hasBlank_join (by decide), hnone, Bool.or_false]
  cases k with
  | compile =>
    have hword := isWord_around hdash (by decide : Text.hasBlank "" = false) i.includeDir.text
    rw [String.append_empty, hinclude] at hword
    rw [FlagKind.known, List.forall_mem_singleton, hword]
  | link =>
    have hne : i.library.text ≠ "" := Path.text_join_ne_empty (by decide)
    rw [FlagKind.known, List.forall_mem_singleton, ← hlibrary]
    exact ⟨fun h => h.2, fun h => ⟨hne, h⟩⟩

/-- The flags of a backend are words exactly if the directory of its types has no blank. -/
lemma isWord_pick_iff {env : Environment} {b : Backend} {extra : NativeFlags}
    (h : b.nativeFlags env = .ok extra) :
    (∀ f ∈ k.pick extra, Text.IsWord f) ↔
      ∀ dir ∈ k.typesDir? env b, Text.hasBlank dir = false := by
  have hinclude (dir : String) : Text.IsWord (includeBelow dir) ↔ Text.hasBlank dir = false :=
    isWord_around (Text.isWord_ofList (w := ['-', 'I']) (by decide)) (by decide) dir
  have hlibrary (dir : String) : Text.IsWord ("-L" ++ dir ++ "/lib") ↔ Text.hasBlank dir = false :=
    isWord_around (Text.isWord_ofList (w := ['-', 'L']) (by decide)) (by decide) dir
  have hac : Text.IsWord "-DASL_AC" := by decide
  have hsc : Text.IsWord "-DASL_SC" := by decide
  have hc23 : Text.IsWord "-DASL_C23" := by decide
  have hfallback : Text.IsWord "-DASL_FALLBACK" := by decide
  have hsystemc : Text.IsWord "-lsystemc" := by decide
  cases b with
  | ac =>
    obtain rfl := Except.ok.inj h
    cases k <;> cases hdir : env.get? Environment.acTypes <;>
      simp [FlagKind.pick, FlagKind.typesDir?, hac, hinclude, hdir]
  | sc =>
    rw [Backend.nativeFlags] at h
    split at h
    · next dir hdir =>
      obtain rfl := Except.ok.inj h
      cases k <;> simp [FlagKind.pick, FlagKind.typesDir?, hsc, hsystemc, hinclude, hlibrary, hdir]
    · cases h
  | c23 | interpreter | fallback =>
    obtain rfl := Except.ok.inj h
    cases k <;> simp [FlagKind.pick, FlagKind.typesDir?, hc23, hfallback]
  | mlir => cases h

/-- **Where flags are words**: no directory that they name has a blank. -/
lemma isWord_flags_iff (h : s.FlagsFrom k given flags) :
    (∀ f ∈ flags, Text.IsWord f) ↔ s.PlainDirs k := by
  obtain ⟨extra, runtime, hextra, hruntime, rfl⟩ := h
  have hroot : (∀ f ∈ runtime, Text.IsWord f) ↔
      (s.installation.isInstalled = false → Text.hasBlank s.installation.root.text = false) := by
    cases hruntime with
    | asked hplace hmem =>
      refine iff_of_true (fun f hf => ?_) fun hplace' => ?_
      · obtain ⟨word, hword, rfl⟩ := List.mem_map.1 hf
        exact Text.isWord_of_mem hword
      · exact absurd (hplace.symm.trans hplace') (by simp)
    | known hplace => rw [isWord_known_iff, forall_prop_of_true hplace]
  rw [List.forall_mem_append, hroot, isWord_pick_iff hextra]
  exact ⟨fun h => ⟨h.1, h.2⟩, fun h => ⟨h.root, h.types⟩⟩

/-! ## What is shown -/

/-- The flags that a session finds are made of the answers that it is given. -/
lemma flagsFrom_of_run {w w' : World (σ × List (Command × String))}
    (h : (s.flags r.minuted k).run w = (.ok flags, w')) : s.FlagsFrom k w'.tools.2 flags := by
  obtain ⟨extra, runtime, hextra, hruntime, rfl⟩ := flags_eq_ok h
  refine ⟨extra, runtime, hextra, ?_, rfl⟩
  unfold runtimeFlags at hruntime
  split at hruntime
  · next hplace =>
    obtain ⟨text, u, hask, hwords⟩ := Act.exists_of_bind_eq_ok hruntime
    cases hwords
    refine .asked hplace ?_
    set c : Command := ⟨s.installation.program.text, [k.question]⟩
    have hanswer : (r.capture c w.disk w.tools.1).result = .ok text := congrArg Prod.fst hask
    have hgiven : w.tools.2 ++ ((r.capture c w.disk w.tools.1).result.toOption.map
        fun text => (c, text)).toList = w'.tools.2 := congrArg (fun done => done.2.tools.2) hask
    rw [← hgiven, hanswer]
    exact List.mem_append_right _ (List.mem_singleton_self _)
  · next hplace =>
    cases hruntime
    exact .known (by simpa using hplace)

/-- **What is shown**: the flags, with spaces between them and without blanks at the end. -/
lemma output_of_execute {report : Report} {w w' : World (σ × List (Command × String))}
    (haction : s.settings.action = k.action)
    (h : (s.execute r.minuted inputs).run w = (.ok report, w')) :
    ∃ flags, s.FlagsFrom k w'.tools.2 flags ∧
      report.output = some (Text.trimEnd (" ".intercalate flags)) := by
  obtain ⟨shown, w₁, hdone, rfl, rfl⟩ := exists_dispatch_of_execute h
  have hdispatch : s.dispatch r.minuted inputs =
      showing (s.flags r.minuted k >>= fun flags => pure (" ".intercalate flags)) := by
    unfold dispatch
    rw [haction]
    cases k <;> rfl
  rw [hdispatch] at hdone
  obtain ⟨text, w₂, htext, hshown⟩ := Act.exists_of_bind_eq_ok hdone
  obtain ⟨flags, w₃, hflags, hline⟩ := Act.exists_of_bind_eq_ok htext
  have hgiven := flagsFrom_of_run hflags
  cases hshown
  cases hline
  exact ⟨flags, hgiven, rfl⟩

/-! ## What is used -/

/-- The arguments of the command that links, around the flags that it uses. -/
def linkArguments (s : Session) (ws : Workspace) (used : FlagKind → List String) : List String :=
  (Toolchain.override s.environment).tail ++
    ["-Wno-parentheses-equality", "-I" ++ ws.path.text] ++ used .compile ++
    [if s.settings.cxx then "-std=c++17" else "-std=c2x"] ++
    ["-o", (ws.executable s.settings.basename).text] ++
    (ws.sourceFiles s.settings.basename s.settings.cxx ++
      s.settings.extraC.map ws.objectFile).map Path.text ++
    used .link ++ if s.settings.cxx then ["-lstdc++"] else []

/-- The last call of a journal links generated code, with flags that are made of the answers that
were given. -/
structure Links (s : Session) (ws : Workspace) (used : FlagKind → List String)
    (w : World (σ × List (Command × String))) : Prop where
  /-- The call is the last one. -/
  last : ∃ calls c, Event.calls w.journal = calls ++ [(.run, c, none)] ∧
    c.arguments = s.linkArguments ws used
  /-- The flags are made of the answers. -/
  flags (k : FlagKind) : s.FlagsFrom k w.tools.2 (used k)

/-- The words of the native compiler behind the first one are those of the variable. -/
lemma tail_of_choose {env : Environment} {cxx : Bool} {words : List String} {w' : World σ}
    (h : (Toolchain.choose env r cxx).run w = (.ok words, w')) :
    words.tail = (Toolchain.override env).tail := by
  unfold Toolchain.choose at h
  split at h
  · next hnone =>
    cases h
    rw [hnone]
    rfl
  · cases h
    rfl

/-- The program of a command is its first word, and its arguments are the others. -/
lemma arguments_ofWords? (words : List String) :
    ((Command.ofWords? words).getD ⟨"cc", []⟩).arguments = words.tail := by
  cases words <;> rfl

/-- A tool that is run adds its call to those of the journal. -/
lemma calls_of_invoke {c : Command} {tool : String} {w' : World σ}
    (h : (invoke r c).run w = (.ok tool, w')) :
    Event.calls w'.journal = Event.calls w.journal ++ [(.run, c, none)] := by
  obtain ⟨_, w₁, hcall, htool⟩ := Act.exists_of_bind_eq_ok h
  cases htool
  have hresult : (r.run c w.disk w.tools).result = .ok () := congrArg Prod.fst hcall
  have hcalls := calls_call .run r.run c w
  rw [hcall, hresult] at hcalls
  exact hcalls

section

variable {ws : Workspace} {w w' : World (σ × List (Command × String))}

/-- **Generated code is linked last**, with the flags that are found. -/
lemma links_of_linkProgram {tools : List String}
    (h : (s.linkProgram r.minuted ws).run w = (.ok tools, w')) : ∃ used, s.Links ws used w' := by
  have hkeeps := r.keeps_minuted.simulation.toAsking
  obtain ⟨t, w₁, htoolchain, h₁⟩ := Act.exists_of_bind_eq_ok h
  obtain ⟨⟨objects, built⟩, w₂, hextra, h₂⟩ := Act.exists_of_bind_eq_ok h₁
  obtain ⟨linker, w₃, hlink, h₃⟩ := Act.exists_of_bind_eq_ok h₂
  cases h₃
  obtain rfl := objects_of_compileExtra r.minuted hextra
  obtain ⟨words, u₁, hchoose, h₄⟩ := Act.exists_of_bind_eq_ok htoolchain
  obtain ⟨compileFlags, u₂, hcompile, h₅⟩ := Act.exists_of_bind_eq_ok h₄
  obtain ⟨linkFlags, u₃, hlinkFlags, h₆⟩ := Act.exists_of_bind_eq_ok h₅
  cases h₆
  have hlater : w₁.tools.2 <+: w'.tools.2 :=
    ((hkeeps.compileExtra _ ws s.settings.extraC).changes hextra).trans
      ((hkeeps.invoke _).changes hlink)
  have hbetween : u₂.tools.2 <+: w₁.tools.2 := (hkeeps.linkFlags s).changes hlinkFlags
  rw [compileFlags_eq] at hcompile
  rw [linkFlags_eq] at hlinkFlags
  refine ⟨fun | .compile => compileFlags | .link => linkFlags,
    ⟨Event.calls w₂.journal, _, calls_of_invoke hlink, ?_⟩, fun k => ?_⟩
  · rw [linkArguments, ← tail_of_choose hchoose, ← arguments_ofWords?]
    simp only [Toolchain.link, Toolchain.base, Toolchain.ofFlags, Toolchain.includeFlag,
      Command.plus, List.map_append, List.append_assoc]
  · cases k with
    | compile => exact (flagsFrom_of_run hcompile).mono (hbetween.trans hlater)
    | link => exact (flagsFrom_of_run hlinkFlags).mono hlater

/-- A session that builds a program links it last. -/
lemma links_of_build {value : Option Path × Statistics} (haction : s.settings.action = .build)
    (hshow : s.settings.showFinal = false)
    (h : (s.build r.minuted inputs ws).run w = (.ok value, w')) : ∃ used, s.Links ws used w' := by
  rw [build_eq_follow] at h
  obtain ⟨p, w₁, -, h₁⟩ := Act.exists_of_bind_eq_ok h
  obtain ⟨_, w₂, -, h₂⟩ := Act.exists_of_bind_eq_ok h₁
  obtain ⟨_, w₃, -, h₃⟩ := Act.exists_of_bind_eq_ok h₂
  obtain ⟨compiler, w₄, -, h₄⟩ := Act.exists_of_bind_eq_ok h₃
  have hcondition : (s.settings.action.links && !s.settings.showFinal) = true := by
    rw [haction, hshow]
    rfl
  dsimp only at h₄
  rw [if_pos hcondition] at h₄
  obtain ⟨builders, w₅, hlink, h₅⟩ := Act.exists_of_bind_eq_ok h₄
  rw [runProgram, if_neg (by simp [haction])] at h₅
  cases h₅
  exact links_of_linkProgram hlink

/-- A build links last, in the working directory that it acquires. -/
lemma links_of_execute {report : Report} (haction : s.settings.action = .build)
    (hshow : s.settings.showFinal = false)
    (h : (s.execute r.minuted inputs).run w = (.ok report, w')) :
    ∃ ws used, ws.path = Workspace.acquiredPath s.settings.workingDir w.disk ∧
      s.Links ws used w' := by
  have hsteps : s.steps? r.minuted inputs = some (s.build r.minuted inputs) := by
    unfold steps?
    rw [haction]
  obtain ⟨ws, w₁, value, w₂, hacquire, hended, -, -, rfl⟩ := exists_steps_of_execute hsteps h
  obtain ⟨-, -, hpath, -, -⟩ := Workspace.acquire_eq_ok hacquire
  obtain ⟨used, ⟨calls, c, hcalls, harguments⟩, hflags⟩ := links_of_build haction hshow hended
  refine ⟨ws, used, hpath, ⟨calls, c, ?_, harguments⟩, hflags⟩
  simp only [Event.calls_append, Workspace.calls_farewell, calls_epilogue, List.append_nil]
  exact hcalls

end

/-! ## Main results -/

/-- **The flags that are shown are the flags that are used**, cut into words. Let a session build a
program. Its last call is the one that links, and the flags for compiling stand there between the
directory of the generated headers and the flag for the language, those for linking between the
last object file or source and the library of C++. Now let a session with the same options show the
flags of either kind, with whatever runner and files. If the compiler answers both sessions alike,
then what is shown has just the words of the flags that are used, in their order. These words are
the flags themselves exactly if no directory that a flag names has a blank in it.

**Proof sketch.** What the runners answer is kept (`Runner.minuted`), which changes nothing else
(`run_minuted`). The flags of both sessions are made of the answers in the same way
(`FlagsFrom.unique`), and spaces between texts keep their words apart (`Text.words_spaced`). -/
theorem execute_shows_flags (s : Session) {τ : Type} (r' : Runner τ) (inputs' : List Path)
    (w' done' : World τ) (report' : Report) (hshow : s.settings.showFinal = false)
    (hbuild : ((s.doing .build).execute r' inputs').run w' = (.ok report', done')) :
    ∃ ws used calls c, ws.path = Workspace.acquiredPath s.settings.workingDir w'.disk ∧
      Event.calls done'.journal = calls ++ [(.run, c, none)] ∧
      c.arguments = s.linkArguments ws used ∧
      ∀ (k : FlagKind) {σ : Type} (r : Runner σ) (inputs : List Path) (w done : World σ)
        (report : Report),
        ((s.doing k.action).execute r inputs).run w = (.ok report, done) →
        (∀ c text text', (c, text) ∈ (s.doing k.action).answers r inputs w →
          (c, text') ∈ (s.doing .build).answers r' inputs' w' → text = text') →
        ∃ output, report.output = some output ∧
          Text.words output = (used k).flatMap Text.words ∧
          (Text.words output = used k ↔ s.PlainDirs k) := by
  rw [run_minuted] at hbuild
  obtain ⟨hbuilt, rfl⟩ := Prod.mk.inj hbuild
  obtain ⟨ws, used, hpath, ⟨calls, c, hcalls, harguments⟩, hused⟩ :=
    links_of_execute (s := s.doing .build) rfl hshow (Prod.ext hbuilt rfl)
  refine ⟨ws, used, calls, c, hpath, hcalls, harguments, fun k σ r inputs w done report h halike =>
    ?_⟩
  rw [run_minuted] at h
  obtain ⟨hshown, rfl⟩ := Prod.mk.inj h
  obtain ⟨flags, hflags, houtput⟩ :=
    output_of_execute (s := s.doing k.action) rfl (Prod.ext hshown rfl)
  have hsame : flags = used k := hflags.unique (hused k) halike
  have hwords : Text.words (Text.trimEnd (" ".intercalate flags)) =
      (used k).flatMap Text.words := by
    rw [Text.words_trimEnd, Text.words_spaced, hsame]
  refine ⟨_, houtput, hwords, ?_⟩
  rw [hwords, Text.flatMap_words_eq_iff]
  exact isWord_flags_iff (hused k)

/-- A session for SystemC, with a compiler that is asked for the flags of its runtime. -/
def askingFlags : Session where
  settings := { backend := .sc, workingDir := some "work" }
  installation := ⟨"/home/.opam/bin/asli"⟩
  environment := ⟨[("CC", "ccache g++"), ("SC_TYPES_DIR", "/opt/sc")]⟩

/-- A rehearsal in which the compiler tells all its flags, with more blanks than are needed. -/
def tellingAllFlags : Rehearsal where
  outputs := [
    ("--print-c-flags", " -I/home/.opam/lib/asli  -O2\n"),
    ("--print-ld-flags", "-lASL\n")]

/-- The command that it links with. -/
def askingFlagsCommand : Command :=
  ⟨"ccache", ["g++", "-Wno-parentheses-equality", "-Iwork", "-I/home/.opam/lib/asli", "-O2",
    "-DASL_SC", "-I/opt/sc/include", "-std=c++17", "-o", "work/asl", "work/asl_exceptions.cpp",
    "work/asl_vars.cpp", "work/asl_funs.cpp", "-lASL", "-L/opt/sc/lib", "-lsystemc", "-lstdc++"]⟩

/-- What is shown has just the flags that are used. -/
theorem execute_shows_flags_askingFlags :
    let build := ((askingFlags.doing .build).execute tellingAllFlags.runner ["spec.asl"]).run atHome
    let shown (k : FlagKind) :=
      ((askingFlags.doing k.action).execute tellingAllFlags.runner []).run atHome
    failureIn? build.1 = none ∧
      (Event.calls build.2.journal).getLast? = some (.run, askingFlagsCommand, none) ∧
      ∃ ws used, askingFlagsCommand.arguments = askingFlags.linkArguments ws used ∧
        ∀ k, ∃ output, (shown k).1.toOption.bind Report.output = some output ∧
          Text.words output = used k := by
  intro build shown
  have hbuilds : failureIn? build.1 = none := by decide +kernel
  have hlinks : (Event.calls build.2.journal).getLast? =
      some (.run, askingFlagsCommand, none) := by decide +kernel
  obtain ⟨report', hbuild⟩ := exists_ok_of_failureIn? hbuilds
  obtain ⟨ws, used, calls, c, -, hcalls, harguments, hshown⟩ :=
    execute_shows_flags askingFlags tellingAllFlags.runner ["spec.asl"] atHome build.2 report' rfl
      (Prod.ext hbuild rfl)
  have hplain (k : FlagKind) : askingFlags.PlainDirs k := by
    refine ⟨fun hplace => absurd hplace (by decide), fun dir hdir => ?_⟩
    revert dir
    cases k <;> decide
  refine ⟨hbuilds, hlinks, ws, used, ?_, fun k => ?_⟩
  · rw [hcalls, List.getLast?_concat] at hlinks
    cases hlinks
    exact harguments
  · have hshows : failureIn? (shown k).1 = none := by cases k <;> decide +kernel
    obtain ⟨report, hreport⟩ := exists_ok_of_failureIn? hshows
    have halike : ∀ x ∈ (askingFlags.doing k.action).answers tellingAllFlags.runner [] atHome,
        ∀ y ∈ (askingFlags.doing .build).answers tellingAllFlags.runner ["spec.asl"] atHome,
          x.1 = y.1 → x.2 = y.2 := by cases k <;> decide +kernel
    obtain ⟨output, houtput, -, hwords⟩ :=
      hshown k tellingAllFlags.runner [] atHome (shown k).2 report (Prod.ext hreport rfl)
        fun c text text' h h' => halike (c, text) h (c, text') h' rfl
    rw [hreport]
    exact ⟨output, houtput, hwords.2 (hplain k)⟩

/-- A session with a compiler in a directory with a blank in its path. -/
def inMyAsl : Session where
  settings := { workingDir := some "work" }
  installation := ⟨"/my asl/bin/asli"⟩

/-- **What is shown need not have just the flags that are used**: a flag that names a directory with
a blank in its path is one argument of the command that links, and is shown as two words. -/
theorem exists_torn_flag :
    ∃ (s : Session) (r : Runner (List String)) (w : World (List String)) (output : String)
      (c : Command) (used : FlagKind → List String),
      let shown := ((s.doing .showCompileFlags).execute r []).run w
      let build := ((s.doing .build).execute r ["spec.asl"]).run w
      shown.1.toOption.bind Report.output = some output ∧ failureIn? build.1 = none ∧
        (s.doing .showCompileFlags).answers r [] w = [] ∧
        (Event.calls build.2.journal).getLast? = some (.run, c, none) ∧
        c.arguments = s.linkArguments ⟨"work", .given "work", false, false⟩ used ∧
        used .compile = ["-I/my asl/lib/asli/runtime_include", "-DASL_C23"] ∧
        Text.words output = ["-I/my", "asl/lib/asli/runtime_include", "-DASL_C23"] :=
  ⟨inMyAsl, Rehearsal.runner {}, atHome, "-I/my asl/lib/asli/runtime_include -DASL_C23",
    ⟨"gcc", ["-Wno-parentheses-equality", "-Iwork", "-I/my asl/lib/asli/runtime_include",
      "-DASL_C23", "-std=c2x", "-o", "work/asl", "work/asl_exceptions.c", "work/asl_vars.c",
      "work/asl_funs.c", "/my asl/lib/asli/runtime/libASL.a"]⟩,
    fun
      | .compile => ["-I/my asl/lib/asli/runtime_include", "-DASL_C23"]
      | .link => ["/my asl/lib/asli/runtime/libASL.a"],
    by decide +kernel, by decide +kernel, by decide +kernel, by decide +kernel, by decide +kernel,
    rfl, by decide⟩

end Session

end AslBuild
