import AslBuild.Proofs.FileSystem.Changes
set_option autoImplicit false

/-!
# What writing a file changes

A file is written by a path that names an entry of a directory. At most this file changes, whatever
comes of it. If it succeeds, the path leads to a file with just what was written, unless a device
was there, which gives nothing back.

## Main definitions

* `AslBuild.FileSystem.Disk.Names`, `AslBuild.FileSystem.Disk.Admits` — a path names an entry of a
  directory, and this may be opened.
* `AslBuild.FileSystem.Disk.Opens` — what comes of opening a file.

## Main results

* `AslBuild.FileSystem.Disk.opens_openToWrite` — what opening a file to write to it changes.
* `AslBuild.FileSystem.Disk.run_write_plain` — what writing a file changes, and what it holds then.
* `AslBuild.FileSystem.Disk.stat_of_write` — a file that was written is there.
-/

namespace AslBuild.FileSystem

namespace Disk

variable {dirs files : List Location} {d d' : Disk} {loc : Location}

/-! ## Other contents -/

/-- A file that gets other contents is a change, and is a file. -/
lemma run_putContents (hd : d.Plain) {contents contents' : List UInt8} {mode mode' : Nat}
    (hfile : d.tree.get? loc = some (.file contents mode)) (hmem : loc ∈ files) :
    d.Changes dirs files ((putContents loc (.file contents' mode')).run d).2 ∧
      ((putContents loc (.file contents' mode')).run d).2.tree.get? loc =
        some (.file contents' mode') := by
  let t := d.tree.rewrite loc (.file contents' mode')
  have hnotDir {other : Location} (h : other = loc ∨ d.tree.Shares other loc) (mode : Nat) :
      d.tree.get? other ≠ some (.dir mode) := by
    rcases h with rfl | ⟨names, hnames, hother, -⟩
    · rw [hfile]
      simp
    · exact hd.single other mode ⟨names, hnames, hother, hother⟩
  have hentries (other : Location) : t.get? other = d.tree.get? other ∨
      ((other = loc ∨ d.tree.Shares other loc) ∧ (d.tree.get? other).isSome = true) ∧
        t.get? other = some (.file contents' mode') := by
    cases hfixed : isFixed other with
    | true => exact Or.inl (by rw [Tree.get?_of_fixed _ hfixed, Tree.get?_of_fixed _ hfixed])
    | false =>
      rw [Tree.get?_rewrite _ _ _ hfixed]
      split
      · next hnames =>
        cases d.tree.get? other with
        | none => exact Or.inl rfl
        | some e =>
          exact Or.inr ⟨⟨Tree.shares_of_mem_namesAt (by simpa using hnames), rfl⟩, rfl⟩
      · exact Or.inl rfl
  constructor
  · show d.Changes dirs files { d with tree := t.stamp loc t.clock }
    refine ⟨rfl, fun other => ?_, fun _ _ h => h, fun other mode hshares hdir => ?_⟩
    · rcases hentries other with heq | ⟨⟨hnames, hsome⟩, hput⟩
      · exact Or.inl heq
      · refine Or.inr (Or.inr ⟨?_, hnotDir hnames, _, _, hput⟩)
        rcases hnames with rfl | hshares
        · exact Or.inl hmem
        · exact Or.inr ⟨⟨loc, hmem, hshares⟩, hsome⟩
    · rcases hentries other with heq | ⟨-, hput⟩
      · exact heq.symm.trans hdir
      · exact absurd (hput.symm.trans hdir) (by simp)
  · show t.get? loc = _
    have hfixed : isFixed loc = false := by
      cases hfixed : isFixed loc with
      | false => rfl
      | true =>
        rw [Tree.get?_of_fixed _ hfixed] at hfile
        exact absurd hfile (by simp)
    rw [Tree.get?_rewrite _ _ _ hfixed, if_pos (by simpa using d.tree.mem_namesAt loc), hfile]
    rfl

/-! ## Entries of directories -/

/-- A path names an entry of the directory at a location: the names in front of the last one lead
there. -/
structure Names (d : Disk) (p : Path) (dir : Location) (n : String) : Prop where
  /-- The last name is that of a file. -/
  fileName : Path.IsFileName n
  /-- The others lead to the directory. -/
  entry : ∃ front, p.names = front ++ [n] ∧ d.tree.passes (d.start p) front = .ok dir

/-- A file below a directory that a path leads to is an entry of that directory. -/
lemma Holds.names {p : Path} {n : String} (h : d.Holds p) (hn : Path.IsFileName n) :
    d.Names (p.join ⟨n⟩) (d.landing p) n := by
  have hpasses : d.tree.passes (d.start (p.join ⟨n⟩)) p.names = .ok (d.landing p) := by
    rw [start, startOf_join h.text_ne hn]
    exact h.passes
  exact ⟨hn, p.names, names_join h.text_ne hn, hpasses⟩

/-- A file below the directory of the process is an entry of that directory. -/
lemma names_of_empty {p : Path} {n : String} (hp : p.text = "") (hn : Path.IsFileName n) :
    d.Names (p.join ⟨n⟩) (d.landing p) n := by
  have hstart : d.start ⟨n⟩ = d.cwd := by
    have hhead : (n.toList.head? == some '/') = false := by
      rw [beq_eq_false_iff_ne]
      exact fun hslash => hn.2.2.2 (List.mem_of_head? hslash)
    rw [start, startOf, hhead, if_neg Bool.false_ne_true]
  have hlanding : d.landing p = d.cwd := by
    rw [landing, start, Path.names, hp]
    rfl
  rw [Path.join_of_empty hp, hlanding]
  exact ⟨hn, [], namesOf_fileName hn, by rw [hstart]; rfl⟩

/-- A path names the same entry after changes. -/
lemma Changes.names {p : Path} {dir : Location} {n : String} (h : d.Changes dirs files d')
    (hp : d.Names p dir n) : d'.Names p dir n := by
  obtain ⟨front, hfront, hpasses⟩ := hp.entry
  rw [h.view]
  exact ⟨hp.fileName, front, hfront, h.keeps.passes hpasses⟩

/-- An entry that may be opened by a path: its directory lets the process through, the name is not
too long, and no slash stands behind it. -/
structure Admits (d : Disk) (p : Path) (dir : Location) (n : String) : Prop extends
    d.Names p dir n where
  /-- The directory may be entered. -/
  enter : d.tree.enter dir = .ok ()
  /-- The name is not too long. -/
  short : n.utf8ByteSize ≤ maxName
  /-- No slash stands behind the name. -/
  bare : endsInSlash p.text.toList = false

/-- An entry that may be opened may still be after changes. -/
lemma Changes.admits (h : d.Changes dirs files d') {p : Path} {dir : Location} {n : String}
    (hp : d.Admits p dir n) : d'.Admits p dir n :=
  ⟨h.names hp.toNames, h.keeps.enter hp.enter, hp.short, hp.bare⟩

/-- An entry of a directory is reached, or cannot be opened. -/
lemma reach_of_names (hd : d.Plain) {p : Path} {dir : Location} {n : String}
    (hp : d.Names p dir n) :
    (∃ errno, d.tree.reach maxLinks maxLinks d.cwd p.text.toList = .error errno) ∨
      d.Admits p dir n ∧ d.tree.reach maxLinks maxLinks d.cwd p.text.toList =
        .ok (dir ++ [n], d.tree.get? (dir ++ [n])) := by
  obtain ⟨hn, front, hfront, hpasses⟩ := hp
  have hslot : d.tree.slot maxLinks d.cwd p.text.toList = (d.tree.enter dir >>= fun _ =>
      .ok (dir, .name n (endsInSlash p.text.toList), maxLinks)) := by
    rw [Tree.slot_eq hd.linkFree maxLinks d.cwd hfront, ← start, hpasses, Tree.lastOf,
      if_neg hn.2.1, if_neg hn.2.2.1]
    rfl
  show (∃ errno, d.tree.reachVia (d.tree.reach 39) maxLinks d.cwd p.text.toList = _) ∨
    _ ∧ d.tree.reachVia (d.tree.reach 39) maxLinks d.cwd p.text.toList = _
  unfold Tree.reachVia
  rw [hslot]
  cases henter : d.tree.enter dir with
  | error errno => exact Or.inl ⟨errno, rfl⟩
  | ok _ =>
    show (∃ errno, (if endsInSlash p.text.toList = true then _ else _) = _) ∨
      _ ∧ (if endsInSlash p.text.toList = true then _ else _) = _
    split
    · exact Or.inl ⟨_, rfl⟩
    · next hslash =>
      split
      · exact Or.inl ⟨_, rfl⟩
      · next hlong =>
        have hadmits : d.Admits p dir n :=
          ⟨⟨hn, front, hfront, hpasses⟩, henter, Nat.not_lt.1 hlong, by simpa using hslash⟩
        cases hget : d.tree.get? (dir ++ [n]) with
        | none => exact Or.inr ⟨hadmits, rfl⟩
        | some e =>
          cases e with
          | link target => exact absurd hget (hd.linkFree _ target)
          | file _ _ | dir _ | device _ => exact Or.inr ⟨hadmits, rfl⟩

/-! ## Opening -/

/-- What comes of opening what is at a location: at most this file changes, and if something is
given, it is the file that lies there now, or a device that was there. -/
structure Opens (loc : Location) (d : Disk) (done : Except IoError (Location × Entry) × Disk) :
    Prop where
  /-- At most this file changes. -/
  changes : d.Changes [] [loc] done.2
  /-- What is given lies there. -/
  found : ∀ x e, done.1 = .ok (x, e) → x = loc ∧
    ((∃ contents mode, e = .file contents mode) ∧
        (∃ contents mode, done.2.tree.get? loc = some (.file contents mode)) ∨
      ∃ kind, e = .device kind ∧ d.tree.get? loc = some (.device kind))

/-- Nothing happens if a file cannot be opened. -/
lemma opens_error (loc : Location) (d : Disk) (e : IoError) : Opens loc d (.error e, d) :=
  ⟨Changes.refl _ _ d, fun _ _ h => absurd h (by simp)⟩

/-- A file that is not there is made. -/
lemma opens_create (hnone : d.tree.get? loc = none) (mode : Nat) :
    Opens loc d ((do
      create loc (.file [] mode)
      pure (loc, .file [] mode) : Step (Location × Entry)).run d) := by
  rcases run_create loc (.file [] mode) d with ⟨error, hrun⟩ | ⟨time, hrun⟩
  · rw [Act.bind_error hrun]
    exact opens_error loc d error
  · rw [Act.bind_ok hrun]
    have hput : d.Changes [] [loc] _ :=
      changes_insert hnone (Or.inr ⟨List.mem_singleton_self loc, [], mode, rfl⟩) loc.dropLast time
    refine ⟨hput, fun x e h => ?_⟩
    obtain ⟨rfl, rfl⟩ := Prod.mk.inj (Except.ok.inj h)
    refine ⟨rfl, Or.inl ⟨⟨[], mode, rfl⟩, [], mode, ?_⟩⟩
    show (d.tree.insert loc (.file [] mode)).get? loc = _
    rw [d.tree.get?_insert _ (Tree.isFixed_of_none hnone), if_pos rfl]

/-- A file that is there may be emptied. -/
lemma opens_file (hd : d.Plain) {contents : List UInt8} {mode : Nat}
    (hfile : d.tree.get? loc = some (.file contents mode)) (empty : Bool) :
    let e := Entry.file (if empty then [] else contents) mode
    Opens loc d ((do
      if empty then putContents loc e
      pure (loc, e) : Step (Location × Entry)).run d) := by
  cases empty with
  | false =>
    refine ⟨Changes.refl _ _ d, fun x e h => ?_⟩
    obtain ⟨rfl, rfl⟩ := Prod.mk.inj (Except.ok.inj h)
    exact ⟨rfl, Or.inl ⟨⟨_, _, rfl⟩, contents, mode, hfile⟩⟩
  | true =>
    have hput : d.Changes [] [loc] ((putContents loc (.file [] mode)).run d).2 ∧ _ :=
      run_putContents hd hfile (List.mem_singleton_self loc)
    refine ⟨hput.1, fun x e h => ?_⟩
    obtain ⟨rfl, rfl⟩ := Prod.mk.inj (Except.ok.inj h)
    exact ⟨rfl, Or.inl ⟨⟨_, _, rfl⟩, [], mode, hput.2⟩⟩

variable {p : Path} {dir : Location} {n : String}

/-- **What comes of opening an entry of a directory** to write to it. -/
theorem opens_openToWrite (hd : d.Plain) (hp : d.Names p dir n) (empty : Bool) :
    Opens (dir ++ [n]) d ((openToWrite empty p).run d) := by
  unfold openToWrite
  cases hcheck : check p with
  | error e =>
    rw [Act.bind_error (e := e) (t := d) (by rw [Act.run_ofExcept])]
    exact opens_error _ d e
  | ok _ =>
    rw [Act.bind_ok (a := ()) (t := d) (by rw [Act.run_ofExcept]), Act.bind_ok (Act.run_read d)]
    let reached : Step (Location × Option Entry) := Act.ofExcept
      ((d.tree.reach maxLinks maxLinks d.cwd p.text.toList).mapError .os)
    rcases reach_of_names hd hp with ⟨errno, hreach⟩ | ⟨-, hreach⟩
    · have hrun : reached.run d = (.error (.os errno), d) := by
        rw [Act.run_ofExcept, hreach]
        rfl
      rw [Act.bind_error hrun]
      exact opens_error _ d _
    · have hrun : reached.run d = (.ok (dir ++ [n], d.tree.get? (dir ++ [n])), d) := by
        rw [Act.run_ofExcept, hreach]
        rfl
      rw [Act.bind_ok hrun]
      generalize dir ++ [n] = loc
      dsimp only
      cases hfound : d.tree.get? loc with
      | none => exact opens_create hfound _
      | some e =>
        cases e with
        | dir _ | link _ => exact opens_error loc d _
        | file contents mode =>
          dsimp only
          split
          · exact opens_error loc d _
          · exact opens_file hd hfound empty
        | device kind =>
          cases kind with
          | terminal => exact opens_error loc d _
          | null | zero | full =>
            refine ⟨Changes.refl _ _ d, fun x e h => ?_⟩
            obtain ⟨rfl, rfl⟩ := Prod.mk.inj (Except.ok.inj h)
            exact ⟨rfl, Or.inr ⟨_, rfl, hfound⟩⟩

/-- What was opened may be opened. -/
lemma admits_of_openToWrite (hd : d.Plain) (hp : d.Names p dir n) {empty : Bool}
    {opened : Location × Entry} (h : (openToWrite empty p).run d = (.ok opened, d')) :
    check p = .ok () ∧ d.Admits p dir n := by
  unfold openToWrite at h
  cases hcheck : check p with
  | error e =>
    rw [Act.bind_error (e := e) (t := d) (by rw [Act.run_ofExcept, hcheck])] at h
    exact absurd (congrArg Prod.fst h) (by simp)
  | ok _ =>
    rw [Act.bind_ok (a := ()) (t := d) (by rw [Act.run_ofExcept, hcheck]),
      Act.bind_ok (Act.run_read d)] at h
    rcases reach_of_names hd hp with ⟨errno, hreach⟩ | ⟨hadmits, -⟩
    · have hrun : (Act.ofExcept ((d.tree.reach maxLinks maxLinks d.cwd
          p.text.toList).mapError .os) : Step (Location × Option Entry)).run d =
            (.error (.os errno), d) := by
        rw [Act.run_ofExcept, hreach]
        rfl
      rw [Act.bind_error hrun] at h
      exact absurd (congrArg Prod.fst h) (by simp)
    · exact ⟨rfl, hadmits⟩

/-! ## Writing -/

/-- **Writing an entry of a directory** changes at most that file, whatever comes of it. If it
succeeds, the file could be opened and holds just what was written, unless it is a device. -/
theorem run_write_plain (hd : d.Plain) (hp : d.Names p dir n) (contents : List UInt8) :
    let done := (write p contents).run d
    d.Changes [] [dir ++ [n]] done.2 ∧ (done.1 = .ok () → check p = .ok () ∧ d.Admits p dir n ∧
      ((∃ mode, done.2.tree.get? (dir ++ [n]) = some (.file contents mode)) ∨
        ∃ kind, d.tree.get? (dir ++ [n]) = some (.device kind))) := by
  intro done
  have hopens := opens_openToWrite hd hp true
  rcases hrun : (openToWrite true p).run d with ⟨e | ⟨loc, e⟩, d'⟩
  · have hdone : done = (.error e, d') := Act.bind_error hrun
    rw [hrun] at hopens
    rw [hdone]
    exact ⟨hopens.changes, fun h => absurd h (by simp)⟩
  · obtain ⟨hcheck, hadmits⟩ := admits_of_openToWrite hd hp hrun
    rw [hrun] at hopens
    obtain ⟨rfl, ⟨⟨held, mode, rfl⟩, held', mode', hheld⟩ | ⟨kind, rfl, hdevice⟩⟩ :=
      hopens.found loc e rfl
    · have hdone : done = (putContents (dir ++ [n]) (.file contents mode)).run d' :=
        Act.bind_ok hrun
      obtain ⟨hput, hget⟩ : d'.Changes [] [dir ++ [n]] done.2 ∧
          done.2.tree.get? (dir ++ [n]) = some (.file contents mode) := by
        rw [hdone]
        exact run_putContents (hopens.changes.plain hd) hheld (List.mem_singleton_self _)
      exact ⟨hopens.changes.trans hput, fun _ => ⟨hcheck, hadmits, Or.inl ⟨mode, hget⟩⟩⟩
    · have hsame : done.2 = d' := by
        show ((openToWrite true p >>= _).run d).2 = _
        rw [Act.bind_ok hrun]
        cases kind with
        | null | zero | terminal => rfl
        | full =>
          dsimp only
          split <;> rfl
      rw [hsame]
      exact ⟨hopens.changes, fun _ => ⟨hcheck, hadmits, Or.inr ⟨kind, hdevice⟩⟩⟩

/-- What an entry that may be opened is, as a path leads to it. -/
lemma stat_of_admits (hd : d.Plain) (hcheck : check p = .ok ()) (hp : d.Admits p dir n)
    {e : Entry} (hget : d.tree.get? (dir ++ [n]) = some e) : d.stat p = .ok (dir ++ [n], e) := by
  obtain ⟨front, hfront, hpasses⟩ := hp.entry
  have hsteps : stepsOf p.text.toList = front ++ [n] := by
    rw [stepsOf, hp.bare, if_neg Bool.false_ne_true]
    exact hfront
  have hpass : d.tree.pass dir n = .ok (dir ++ [n]) := by
    refine Tree.pass_eq_ok_iff.2 ⟨hp.enter, ?_, fun _ _ => ⟨hp.short, by rw [hget]; rfl⟩⟩
    exact (stepFrom_of_name hp.fileName.2.1 hp.fileName.2.2.1 dir).symm
  refine stat_of_locate ?_ hget
  rw [locate_eq hd.linkFree hcheck, hsteps, Tree.passes_append, hpasses]
  show ((d.tree.pass dir n >>= fun x => .ok x).mapError IoError.os) = _
  rw [hpass]
  rfl

/-- **A file that was written is there**, and holds what was written, unless it is a device. -/
theorem stat_of_write (hd : d.Plain) (hp : d.Names p dir n) {contents : List UInt8}
    (hwrite : (write p contents).run d = (.ok (), d'))
    (hdevice : ∀ kind, d.tree.get? (dir ++ [n]) ≠ some (.device kind)) :
    ∃ mode, d'.stat p = .ok (dir ++ [n], .file contents mode) := by
  obtain ⟨hchanges, hfile⟩ := run_write_plain hd hp contents
  rw [hwrite] at hchanges hfile
  obtain ⟨hcheck, hadmits, ⟨mode, hget⟩ | ⟨kind, hget⟩⟩ := hfile rfl
  · exact ⟨mode, stat_of_admits (hchanges.plain hd) hcheck (hchanges.admits hadmits) hget⟩
  · exact absurd hget (hdevice kind)

end Disk

end AslBuild.FileSystem
