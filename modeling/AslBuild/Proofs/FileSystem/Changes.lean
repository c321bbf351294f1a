import AslBuild.Proofs.FileSystem.Growth
import AslBuild.Proofs.FileSystem.Route
set_option autoImplicit false

/-!
# What making directories changes

Directories are made along a path, and files are written in a directory that a path leads to. Both
leave everything else as it is: after any number of such steps, what is new at a location is a
directory on the path, and what is different is a file that was written, by this or by another one
of its names.

## Main definitions

* `AslBuild.FileSystem.Tree.Shares` — two locations of one file.
* `AslBuild.FileSystem.Disk.Plain` — a view of files without symbolic links.
* `AslBuild.FileSystem.Disk.Changes` — directories were made and files written, at given locations.

## Main results

* `AslBuild.FileSystem.Disk.Changes.stat` — a path still leads to the same location after changes.
* `AslBuild.FileSystem.Disk.changes_makeDirs`, `AslBuild.FileSystem.Disk.run_makeTemp_plain` — what
  making directories changes.
* `AslBuild.FileSystem.Disk.holds_of_makeDirs` — a path leads to the directory that was made.
-/

namespace AslBuild.FileSystem

/-! ## Ordinary files -/

/-- Two locations of one file that has several. -/
def Tree.Shares (t : Tree) (loc other : Location) : Prop :=
  ∃ names ∈ t.twins, loc ∈ names ∧ other ∈ names

/-- A view of files without symbolic links. No directory lies at several locations, and the process
works in a directory; one that was removed while it was in use counts too. -/
structure Disk.Plain (d : Disk) : Prop where
  /-- There are no symbolic links. -/
  linkFree : d.tree.LinkFree
  /-- No directory lies at several locations. -/
  single : ∀ loc mode, d.tree.Shares loc loc → d.tree.get? loc ≠ some (.dir mode)
  /-- The process works in a directory, with others above it. -/
  cwd : ∀ base, base <+: d.cwd → ∃ mode, d.tree.get? base = some (.dir mode)

/-- From one view of files to another, directories were made at some of the locations `dirs`, and
files were written at some of the locations `files`. -/
structure Disk.Changes (dirs files : List Location) (d d' : Disk) : Prop where
  /-- Only the files are different. -/
  view : d' = { d with tree := d'.tree }
  /-- What lies at a location is as it was, or a directory that was made, or a file that was
  written, perhaps at another one of its locations. -/
  entries : ∀ loc, d'.tree.get? loc = d.tree.get? loc ∨
    (loc ∈ dirs ∧ d.tree.get? loc = none ∧ ∃ mode, d'.tree.get? loc = some (.dir mode)) ∨
    ((loc ∈ files ∨ (∃ file ∈ files, d.tree.Shares loc file) ∧ (d.tree.get? loc).isSome = true) ∧
      (∀ mode, d.tree.get? loc ≠ some (.dir mode)) ∧
      ∃ contents mode, d'.tree.get? loc = some (.file contents mode))
  /-- No file has a further location. -/
  shares : ∀ loc other, d'.tree.Shares loc other → d.tree.Shares loc other
  /-- A directory that was made has no other location. -/
  single : ∀ loc mode, d'.tree.Shares loc loc → d'.tree.get? loc = some (.dir mode) →
    d.tree.get? loc = some (.dir mode)

namespace Tree

variable {t t' : Tree} {loc : Location}

/-- Where nothing is there is no fixed directory. -/
lemma isFixed_of_none (h : t.get? loc = none) :
    isFixed loc = false := by
  cases hfixed : isFixed loc with
  | false => rfl
  | true =>
    rw [t.get?_of_fixed hfixed] at h
    exact absurd h (by simp)

/-- The locations of files that are kept are locations of the same files. -/
lemma shares_twinsWhere {keep : Location → Bool}
    (h : t'.twins = t.twinsWhere keep) {loc other : Location} (hshares : t'.Shares loc other) :
    t.Shares loc other ∧ keep loc = true := by
  obtain ⟨names, hnames, hloc, hother⟩ := hshares
  rw [h, twinsWhere, List.mem_filter, List.mem_map] at hnames
  obtain ⟨⟨names', hnames', rfl⟩, -⟩ := hnames
  rw [List.mem_filter] at hloc hother
  exact ⟨⟨names', hnames', hloc.1, hother.1⟩, hloc.2⟩

/-- Looking up a key in a list in which some keys got another value. -/
lemma lookup_rewrite (keys : List Location) (xs : List (Location × Entry)) (e : Entry)
    (loc : Location) :
    (xs.map fun x => if keys.contains x.1 then (x.1, e) else x).lookup loc =
      if keys.contains loc then (xs.lookup loc).map fun _ => e else xs.lookup loc := by
  induction xs with
  | nil => simp
  | cons x xs ih =>
    obtain ⟨key, value⟩ := x
    rw [List.map_cons]
    by_cases hkey : loc = key
    · subst hkey
      cases keys.contains loc <;>
        simp only [if_true, if_false, Bool.false_eq_true, List.lookup_cons_self, Option.map_some]
    · have hne : (loc == key) = false := by simpa using hkey
      cases keys.contains key <;>
        simp only [if_true, if_false, Bool.false_eq_true, List.lookup_cons, hne, ih]

/-- **What lies at a location after a file was rewritten**, there or elsewhere. -/
theorem get?_rewrite (t : Tree) (loc : Location) (e : Entry) {other : Location}
    (h : isFixed other = false) :
    (t.rewrite loc e).get? other =
      if (t.namesAt loc).contains other then (t.get? other).map fun _ => e else t.get? other := by
  rw [get?_of_not_fixed _ h, get?_of_not_fixed _ h]
  exact lookup_rewrite _ _ _ _

/-- A location is one of those of its file. -/
lemma mem_namesAt (t : Tree) (loc : Location) : loc ∈ t.namesAt loc := by
  unfold namesAt
  cases hfind : t.twins.find? (·.contains loc) with
  | none => exact List.mem_singleton_self loc
  | some names => simpa using List.find?_some hfind

/-- The locations of a file are the one that is given, and those that share it. -/
lemma shares_of_mem_namesAt {other : Location} (h : other ∈ t.namesAt loc) :
    other = loc ∨ t.Shares other loc := by
  unfold namesAt at h
  cases hfind : t.twins.find? (·.contains loc) with
  | none =>
    rw [hfind] at h
    exact Or.inl (List.mem_singleton.1 h)
  | some names =>
    rw [hfind] at h
    have hloc := List.find?_some hfind
    exact Or.inr ⟨names, List.mem_of_find?_eq_some hfind, h, by simpa using hloc⟩

/-- The last name is a name that is no dot. -/
lemma lastOf_eq_name {name text : String} {slash slash' : Bool}
    (h : lastOf name slash = .name text slash') : name ≠ "." ∧ name ≠ ".." ∧ name = text := by
  unfold lastOf at h
  split at h
  · exact absurd h (by simp)
  · next hhere =>
    split at h
    · exact absurd h (by simp)
    · next hup => exact ⟨hhere, hup, (Tree.Last.name.inj h).1⟩

end Tree

namespace Disk

variable {dirs files : List Location} {d d' d'' : Disk} {loc : Location}

namespace Changes

lemma refl (dirs files : List Location) (d : Disk) : d.Changes dirs files d :=
  ⟨rfl, fun _ => Or.inl rfl, fun _ _ h => h, fun _ _ _ h => h⟩

/-- More locations may have changed. -/
lemma mono {dirs' files' : List Location} (h : d.Changes dirs files d') (hdirs : dirs ⊆ dirs')
    (hfiles : files ⊆ files') : d.Changes dirs' files' d' := by
  refine ⟨h.view, fun loc => ?_, h.shares, h.single⟩
  rcases h.entries loc with heq | ⟨hmem, hmade⟩ | ⟨hwritten, hfile⟩
  · exact Or.inl heq
  · exact Or.inr (Or.inl ⟨hdirs hmem, hmade⟩)
  · refine Or.inr (Or.inr ⟨?_, hfile⟩)
    rcases hwritten with hmem | ⟨⟨file, hmem, hshares⟩, hsome⟩
    · exact Or.inl (hfiles hmem)
    · exact Or.inr ⟨⟨file, hfiles hmem, hshares⟩, hsome⟩

/-- Directories stay. -/
lemma dir_kept (h : d.Changes dirs files d') {mode : Nat}
    (hdir : d.tree.get? loc = some (.dir mode)) : d'.tree.get? loc = some (.dir mode) := by
  rcases h.entries loc with heq | ⟨-, hnone, -⟩ | ⟨-, hnot, -⟩
  · rw [heq, hdir]
  · rw [hdir] at hnone
    exact absurd hnone (by simp)
  · exact absurd hdir (hnot mode)

/-- Something stays wherever something was. -/
lemma keeps (h : d.Changes dirs files d') : d.tree.Keeps d'.tree := by
  refine ⟨fun loc mode hdir => h.dir_kept hdir, fun loc hsome => ?_⟩
  rcases h.entries loc with heq | ⟨-, -, mode, hdir⟩ | ⟨-, -, contents, mode, hfile⟩
  · rwa [heq]
  · rw [hdir]
    rfl
  · rw [hfile]
    rfl

/-- **Ordinary files stay ordinary.** -/
theorem plain (h : d.Changes dirs files d') (hd : d.Plain) : d'.Plain := by
  refine ⟨fun loc target hlink => ?_, fun loc mode hshares hdir => ?_, fun base hbase => ?_⟩
  · rcases h.entries loc with heq | ⟨-, -, mode, hdir⟩ | ⟨-, -, contents, mode, hfile⟩
    · exact hd.linkFree loc target (heq ▸ hlink)
    · rw [hdir] at hlink
      exact absurd hlink (by simp)
    · rw [hfile] at hlink
      exact absurd hlink (by simp)
  · exact hd.single loc mode (h.shares loc loc hshares) (h.single loc mode hshares hdir)
  · rw [h.view] at hbase
    obtain ⟨mode, hdir⟩ := hd.cwd base hbase
    exact ⟨mode, h.dir_kept hdir⟩

/-- **Changes one after the other.** -/
theorem trans (h : d.Changes dirs files d') (h' : d'.Changes dirs files d'') :
    d.Changes dirs files d'' := by
  refine ⟨?_, fun loc => ?_, fun loc other hshares => h.shares _ _ (h'.shares _ _ hshares),
    fun loc mode hshares hdir =>
      h.single loc mode (h'.shares _ _ hshares) (h'.single loc mode hshares hdir)⟩
  · rw [h'.view, h.view]
  · rcases h'.entries loc with heq' | ⟨hmem, hnone, hdir⟩ | ⟨hwritten, hnot, hfile⟩
    · rw [heq']
      exact h.entries loc
    · -- nothing was there before either
      rcases h.entries loc with heq | ⟨-, -, mode, hmade⟩ | ⟨-, -, contents, mode, hfile⟩
      · exact Or.inr (Or.inl ⟨hmem, heq ▸ hnone, hdir⟩)
      · rw [hmade] at hnone
        exact absurd hnone (by simp)
      · rw [hfile] at hnone
        exact absurd hnone (by simp)
    · refine Or.inr (Or.inr ⟨?_, fun mode hdir => hnot mode (h.dir_kept hdir), hfile⟩)
      rcases hwritten with hmem | ⟨⟨file, hmem, hshares⟩, hsome⟩
      · exact Or.inl hmem
      have hshares := h.shares _ _ hshares
      rcases h.entries loc with heq | ⟨-, -, mode, hmade⟩ | ⟨hearlier, -, -⟩
      · exact Or.inr ⟨⟨file, hmem, hshares⟩, heq ▸ hsome⟩
      · exact absurd hmade (hnot mode)
      · exact hearlier

/-- A path leads the same way. -/
lemma landing (h : d.Changes dirs files d') (p : Path) : d'.landing p = d.landing p := by
  rw [h.view]
  rfl

/-- A path that leads to a directory still does. -/
lemma holds (h : d.Changes dirs files d') {p : Path} (hp : d.Holds p) : d'.Holds p := by
  obtain ⟨mode, hdir⟩ := hp.dir
  rw [h.view]
  exact ⟨hp.check, h.keeps.passes hp.passes, mode, h.dir_kept hdir⟩

/-- What lies at a location stays, if no file that is written lies there. -/
lemma get?_of_apart (h : d.Changes dirs files d') {e : Entry} (hget : d.tree.get? loc = some e)
    (hapart : ∀ file ∈ files, loc ≠ file ∧ ¬ d.tree.Shares loc file) :
    d'.tree.get? loc = some e := by
  rcases h.entries loc with heq | ⟨-, hnone, -⟩ | ⟨hmem | ⟨⟨file, hfile, hshares⟩, -⟩, -, -⟩
  · rw [heq, hget]
  · rw [hget] at hnone
    exact absurd hnone (by simp)
  · exact absurd rfl (hapart loc hmem).1
  · exact absurd hshares (hapart file hfile).2

/-- A device was there before. -/
lemma device (h : d.Changes dirs files d') {kind : Device}
    (hdevice : d'.tree.get? loc = some (.device kind)) : d.tree.get? loc = some (.device kind) := by
  rcases h.entries loc with heq | ⟨-, -, mode, hdir⟩ | ⟨-, -, contents, mode, hfile⟩
  · rw [← heq, hdevice]
  · rw [hdir] at hdevice
    exact absurd hdevice (by simp)
  · rw [hfile] at hdevice
    exact absurd hdevice (by simp)

/-- A path still leads to the same location. -/
lemma stat (h : d.Changes dirs files d') (hd : d.Plain) {p : Path} {e e' : Entry}
    (hstat : d.stat p = .ok (loc, e)) (hget : d'.tree.get? loc = some e') :
    d'.stat p = .ok (loc, e') := by
  obtain ⟨hcheck, -⟩ := stat_eq_ok hd.linkFree hstat
  obtain ⟨hlocate, -⟩ := locate_of_stat hstat
  rw [locate_eq hd.linkFree hcheck, mapError_eq_ok_iff] at hlocate
  refine stat_of_locate ?_ hget
  rw [locate_eq (h.plain hd).linkFree hcheck, mapError_eq_ok_iff]
  have hpasses := h.keeps.passes hlocate
  rw [h.view]
  exact hpasses

end Changes

/-- A check that a view of files is plain. -/
def isPlain (d : Disk) : Bool :=
  let isDir (loc : Location) : Bool := (d.tree.get? loc).any fun e => e matches .dir _
  d.tree.entries.all (fun x => !(x.2 matches .link _)) && d.tree.twins.flatten.all (!isDir ·) &&
    (List.range (d.cwd.length + 1)).all fun n => isDir (d.cwd.take n)

/-- The check can be relied on. -/
theorem plain_of_isPlain (h : d.isPlain = true) : d.Plain := by
  simp only [isPlain, Bool.and_eq_true, List.all_eq_true] at h
  obtain ⟨⟨hlinks, htwins⟩, hcwd⟩ := h
  refine ⟨fun loc target hlink => ?_, fun loc mode hshares hdir => ?_, fun base hbase => ?_⟩
  · unfold Tree.get? at hlink
    split at hlink
    · exact absurd hlink (by simp)
    · obtain ⟨before, after, hentries, -⟩ := List.lookup_eq_some_iff.1 hlink
      have hmem : (loc, Entry.link target) ∈ d.tree.entries := by simp [hentries]
      exact absurd (hlinks _ hmem) (by simp)
  · obtain ⟨names, hnames, hmem, -⟩ := hshares
    have hnot := htwins loc (List.mem_flatten.2 ⟨names, hnames, hmem⟩)
    rw [hdir] at hnot
    exact absurd hnot (by simp)
  · have hlength : base.length < d.cwd.length + 1 := Nat.lt_succ_of_le hbase.length_le
    have hdir := hcwd base.length (List.mem_range.2 hlength)
    rw [← List.prefix_iff_eq_take.1 hbase] at hdir
    cases hget : d.tree.get? base with
    | none =>
      rw [hget] at hdir
      exact absurd hdir (by simp)
    | some e =>
      rw [hget] at hdir
      cases e with
      | dir mode => exact ⟨mode, rfl⟩
      | file _ _ | link _ | device _ => exact absurd hdir (by simp)

/-! ## Making directories -/

/-- An entry that is put where nothing was is a change, if it is a directory or a file. -/
lemma changes_insert {e : Entry} (hnone : d.tree.get? loc = none)
    (he : (loc ∈ dirs ∧ ∃ mode, e = .dir mode) ∨
      (loc ∈ files ∧ ∃ contents mode, e = .file contents mode))
    (dir : Location) (time : Int) :
    d.Changes dirs files { d with tree := (d.tree.insert loc e).stamp dir time } := by
  have hget (other : Location) : ((d.tree.insert loc e).stamp dir time).get? other =
      if other = loc then some e else d.tree.get? other :=
    d.tree.get?_insert e (Tree.isFixed_of_none hnone) other
  have hshares {a b : Location} (h : ((d.tree.insert loc e).stamp dir time).Shares a b) :
      d.tree.Shares a b ∧ (a != loc) = true :=
    Tree.shares_twinsWhere (t := d.tree) rfl h
  refine ⟨rfl, fun other => ?_, fun _ _ h => (hshares h).1, fun other mode h hdir => ?_⟩
  · dsimp only
    rw [hget]
    split
    · next heq =>
      subst heq
      rcases he with ⟨hmem, mode, rfl⟩ | ⟨hmem, contents, mode, rfl⟩
      · exact Or.inr (Or.inl ⟨hmem, hnone, mode, rfl⟩)
      · exact Or.inr (Or.inr ⟨Or.inl hmem, fun mode => by rw [hnone]; simp, contents, mode, rfl⟩)
    · exact Or.inl rfl
  · have hne : other ≠ loc := by simpa using (hshares h).2
    dsimp only at hdir
    rwa [hget, if_neg hne] at hdir

/-- **Making a directory** changes at most the location that the path leads to, and if it succeeds
the path leads to a directory. -/
theorem run_makeDirWith_plain (hd : d.Plain) (mode : Nat) (p : Path) :
    d.Changes (d.route p) [] ((makeDirWith mode p).run d).2 ∧
      (((makeDirWith mode p).run d).1 = .ok () → ((makeDirWith mode p).run d).2.Holds p) := by
  rcases run_makeDirWith mode p d with
    ⟨error, hrun⟩ | ⟨dir, text, slash, mode', time, hslot, hlong, hnone, hrun⟩
  · rw [hrun]
    exact ⟨Changes.refl _ _ d, fun h => absurd h (by simp)⟩
  · obtain ⟨hcheck, ⟨hlast, -⟩ | ⟨names, name, hnames, hpasses, henter, hlast⟩⟩ :=
      slot_eq_ok hd.linkFree hslot
    · exact absurd hlast (by simp)
    obtain ⟨hhere, hup, rfl⟩ := Tree.lastOf_eq_name hlast.symm
    have hlanding : d.landing p = dir ++ [name] := by
      rw [landing, hnames, follow_append, ← Tree.eq_follow_of_passes hpasses]
      exact stepFrom_of_name hhere hup dir
    have hmem : dir ++ [name] ∈ d.route p := hlanding ▸ follow_mem_route _ _
    have hchanges : d.Changes (d.route p) [] _ :=
      changes_insert hnone (Or.inl ⟨hmem, mode', rfl⟩) dir time
    have hsome : (((d.tree.insert (dir ++ [name]) (.dir mode')).stamp dir time).get?
        (dir ++ [name])) = some (.dir mode') := by
      rw [Tree.get?_stamp, d.tree.get?_insert _ (Tree.isFixed_of_none hnone), if_pos rfl]
    rw [hrun]
    refine ⟨hchanges, fun _ => ⟨hcheck, ?_, mode', ?_⟩⟩
    · show Tree.passes _ (d.start p) p.names = .ok (d.landing p)
      rw [hnames, Tree.passes_append, hchanges.keeps.passes hpasses, hlanding]
      refine Tree.passes_cons_eq_ok_iff.2 ⟨⟨_, Tree.pass_eq_ok_iff.2
        ⟨hchanges.keeps.enter henter, rfl, fun _ _ => ⟨hlong, ?_⟩⟩⟩, ?_⟩
      · rw [hsome]
        rfl
      · rw [stepFrom_of_name hhere hup]
        rfl
    · show Tree.get? _ (d.landing p) = _
      rw [hlanding]
      exact hsome

/-- **Making a directory with those above it** changes at most locations that the path leads
through. -/
theorem changes_makeDirs (hd : d.Plain) (p : Path) :
    d.Changes (d.route p) [] ((makeDirs p).run d).2 := by
  let R (e e' : Disk) : Prop := e.Plain → e.cwd = d.cwd → e.Changes (d.route p) [] e'
  let S (q : Path) : Prop := q.names <+: p.names ∧
    ∀ base, startOf base q.text.toList = startOf base p.text.toList
  have htrans : ∀ e e' e'', R e e' → R e' e'' → R e e'' := by
    intro e e' e'' h h' he hcwd
    have hfirst := h he hcwd
    exact hfirst.trans (h' (hfirst.plain he) (by rw [hfirst.view]; exact hcwd))
  have hparent : ∀ q q', S q → q.parent? = some q' → S q' := by
    intro q q' hq hq'
    obtain ⟨hnames, hstart⟩ := names_parent_isPrefix hq'
    exact ⟨hnames.trans hq.1, fun base => (hstart base).trans (hq.2 base)⟩
  have hmake : ∀ q, S q → Always R (makeDirWith dirMode q) := by
    intro q hq e he hcwd
    refine (run_makeDirWith_plain he dirMode q).1.mono ?_ (List.Subset.refl _)
    rw [route, start, hcwd, hq.2]
    exact route_subset hq.1 _
  exact always_makeDirsUpTo (S := S) (fun e _ _ => Changes.refl _ _ e) htrans hparent hmake _
    ⟨List.prefix_rfl, fun _ => rfl⟩ d hd rfl

/-- Ordinary files stay ordinary when a directory is made with those above it. -/
lemma plain_makeDirsUpTo (depth : Nat) (p : Path) :
    Always (fun e e' => e.Plain → e'.Plain) (makeDirsUpTo depth p) := by
  have hmake (q : Path) : Always (fun e e' => e.Plain → e'.Plain) (makeDirWith dirMode q) :=
    fun e he => (run_makeDirWith_plain he dirMode q).1.plain he
  exact always_makeDirsUpTo (S := fun _ => True) (fun _ h => h) (fun _ _ _ h h' hd => h' (h hd))
    (fun _ _ _ _ => trivial) (fun q _ => hmake q) depth trivial

/-- A path leads to a directory if it is one that need not be made. -/
lemma holds_of_kept (hd : d.Plain) {p : Path} {e : IoError}
    (h : (do if (← Act.read).isDir p then pure () else Act.fail e : Step Unit).run d =
      (.ok (), d')) : d'.Holds p := by
  rw [Act.bind_ok (Act.run_read d)] at h
  split at h
  · next hdir =>
    obtain rfl : d = d' := congrArg Prod.snd h
    exact holds_of_isDir hd.linkFree hdir
  · exact absurd (congrArg Prod.fst h) (by simp)

/-- What comes of an attempt to make a directory. -/
lemma attempt_makeDir (hd : d.Plain) (p : Path) :
    (∃ d'', ((makeDir p).attempt).run d = (.ok (.ok ()), d'') ∧ d''.Holds p) ∨
      ∃ e d'', ((makeDir p).attempt).run d = (.ok (.error e), d'') ∧ d''.Plain := by
  obtain ⟨hchanges, hholds⟩ := run_makeDirWith_plain hd dirMode p
  have hplain := hchanges.plain hd
  rw [Act.run_attempt, makeDir]
  rcases hrun : (makeDirWith dirMode p).run d with ⟨e | _, d''⟩
  · rw [hrun] at hplain
    exact Or.inr ⟨e, d'', rfl, hplain⟩
  · rw [hrun] at hholds
    exact Or.inl ⟨d'', rfl, hholds rfl⟩

/-- A path leads to a directory that is made unless it is there. -/
lemma holds_of_ensureDir (hd : d.Plain) {p : Path} (h : (ensureDir p).run d = (.ok (), d')) :
    d'.Holds p := by
  unfold ensureDir at h
  rcases attempt_makeDir hd p with ⟨d'', hrun, hholds⟩ | ⟨e, d'', hrun, hplain⟩
  · rw [Act.bind_ok hrun] at h
    obtain rfl : d'' = d' := congrArg Prod.snd h
    exact hholds
  · rw [Act.bind_ok hrun] at h
    exact holds_of_kept hplain h

/-- **A path leads to the directory that was made** with those above it, unless it is empty, which
asks for nothing. -/
theorem holds_of_makeDirs (hd : d.Plain) {p : Path} (hp : p.text ≠ "")
    (h : (makeDirs p).run d = (.ok (), d')) : d'.Holds p := by
  rw [makeDirs, makeDirsUpTo, if_neg (by simpa using hp)] at h
  rcases attempt_makeDir hd p with ⟨d'', hrun, hholds⟩ | ⟨e, d'', hrun, hplain⟩
  · rw [Act.bind_ok hrun] at h
    obtain rfl : d'' = d' := congrArg Prod.snd h
    exact hholds
  · rw [Act.bind_ok hrun] at h
    dsimp only at h
    split at h
    · cases hparent : p.parent? with
      | none =>
        rw [hparent] at h
        exact absurd (congrArg Prod.fst h) (by simp)
      | some parent =>
        rw [hparent] at h
        dsimp only at h
        have hstill := plain_makeDirsUpTo p.text.length parent d'' hplain
        obtain ⟨_, d''', habove, hmade⟩ := Act.exists_of_bind_eq_ok h
        rw [habove] at hstill
        exact holds_of_ensureDir hstill hmade
    · exact holds_of_kept hplain h

/-- **What making a temporary directory changes**, and where it is. -/
theorem run_makeTemp_plain (hd : d.Plain) (stem : String) :
    d.Changes (d.route (d.freshPath stem)) [] ((makeTemp stem).run d).2 ∧
      ∀ p, ((makeTemp stem).run d).1 = .ok p →
        p = d.freshPath stem ∧ ((makeTemp stem).run d).2.Holds p := by
  obtain ⟨hchanges, hholds⟩ := run_makeDirWith_plain hd ownMode (d.freshPath stem)
  rw [run_makeTemp]
  refine ⟨hchanges, fun p h => ?_⟩
  obtain ⟨⟨⟩, hmade, rfl⟩ := map_eq_ok_iff.1 h
  exact ⟨rfl, hholds (mapError_eq_ok_iff.1 hmade)⟩

end Disk

end AslBuild.FileSystem
