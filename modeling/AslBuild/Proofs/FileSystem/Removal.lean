import AslBuild.Proofs.FileSystem.Changes
set_option autoImplicit false

/-!
# What removing a directory leaves

A directory is removed in two steps: first all that is in it, then the directory itself, by its
path. If the path leads through what was in it, it leads nowhere after the first step, and the
directory stays, empty. The working directory of the process may be among what was in it; then the
path starts in a place of the same depth from which only those above can be reached.

## Main definitions

* `AslBuild.FileSystem.Level` — two locations are the same, or lie equally deep below a third one.
* `AslBuild.FileSystem.Disk.Cleared` — what a removal leaves that succeeds.

## Main results

* `AslBuild.FileSystem.Disk.run_removeAll` — what comes of removing a directory that a path leads
  to.
* `AslBuild.FileSystem.Disk.Cleared.present_eq_false` — the path leads nowhere then.
-/

namespace AslBuild.FileSystem

/-! ## Locations below another one -/

/-- A location is strictly below another one if it has further names. -/
lemma isBelow_iff {loc root : Location} :
    Tree.isBelow loc root = true ↔ ∃ rest, rest ≠ [] ∧ loc = root ++ rest := by
  rw [Tree.isBelow, Bool.and_eq_true, List.isPrefixOf_iff_prefix, bne_iff_ne]
  constructor
  · rintro ⟨⟨rest, rfl⟩, hne⟩
    exact ⟨rest, fun hnil => hne (by rw [hnil, List.append_nil]), rfl⟩
  · rintro ⟨rest, hrest, rfl⟩
    refine ⟨List.prefix_append _ _, fun heq => hrest ?_⟩
    exact List.append_cancel_left (heq.trans (List.append_nil root).symm)

/-- No directory on the way to a location is strictly below it. -/
lemma isBelow_of_isPrefix {loc root : Location} (h : loc <+: root) :
    Tree.isBelow loc root = false := by
  cases hbelow : Tree.isBelow loc root with
  | false => rfl
  | true =>
    obtain ⟨rest, hrest, rfl⟩ := isBelow_iff.1 hbelow
    have hlength := h.length_le
    rw [List.length_append] at hlength
    exact absurd (List.eq_nil_of_length_eq_zero (by omega)) hrest

/-- Two locations are the same, or lie equally deep below a third one. -/
def Level (root a b : Location) : Prop :=
  a = b ∨ ∃ x y : Location, x ≠ [] ∧ y.length = x.length ∧ a = root ++ x ∧ b = root ++ y

/-- A step from both leads to two such locations again. -/
lemma Level.stepFrom {root a b : Location} (h : Level root a b) (name : String) :
    Level root (stepFrom a name) (stepFrom b name) := by
  rcases h with rfl | ⟨x, y, hx, hlength, rfl, rfl⟩
  · exact Or.inl rfl
  have hy : y ≠ [] := by
    rintro rfl
    exact hx (List.eq_nil_of_length_eq_zero hlength.symm)
  unfold FileSystem.stepFrom
  split
  · exact Or.inr ⟨x, y, hx, hlength, rfl, rfl⟩
  split
  · rw [List.dropLast_append_of_ne_nil hx, List.dropLast_append_of_ne_nil hy]
    by_cases hnil : x.dropLast = []
    · -- one level below the third location both lead up to it
      have hnil' : y.dropLast = [] := by
        apply List.eq_nil_of_length_eq_zero
        rw [List.length_dropLast, hlength, ← List.length_dropLast, hnil]
        rfl
      rw [hnil, hnil']
      exact Or.inl rfl
    · exact Or.inr ⟨_, _, hnil, by simp [hlength], rfl, rfl⟩
  · rw [List.append_assoc, List.append_assoc]
    exact Or.inr ⟨x ++ [name], y ++ [name], by simp, by simp [hlength], rfl, rfl⟩

/-- The same names from both lead to two such locations again. -/
lemma Level.follow {root a b : Location} (h : Level root a b) (names : List String) :
    Level root (follow a names) (follow b names) := by
  induction names generalizing a b with
  | nil => exact h
  | cons name names ih => exact ih (h.stepFrom name)

/-- Of two such locations, one that is not below the third is the same as the other. -/
lemma Level.eq_of_length {root a b : Location} (h : Level root a b)
    (hlength : a.length ≤ root.length) : a = b := by
  rcases h with rfl | ⟨x, y, hx, -, rfl, -⟩
  · rfl
  · rw [List.length_append] at hlength
    exact absurd (List.eq_nil_of_length_eq_zero (by omega)) hx

namespace Tree

variable {t : Tree} {loc root : Location}

/-- Clearing a directory keeps some of the entries, and all that are not in it. -/
lemma exists_entries_clear (t : Tree) (root : Location) :
    ∃ stays : Location → Bool, (∀ loc, isBelow loc root = false → stays loc = true) ∧
      (t.clear root).entries = t.entries.filter fun x => stays x.1 := by
  unfold clear
  dsimp only
  split
  · exact ⟨fun loc => !isBelow loc root, fun loc h => by simp [h], rfl⟩
  · refine ⟨fun loc => !isBelow loc root || (t.lockedFrom root).any fun kept =>
      kept == loc || isBelow loc kept || isBelow kept loc, fun loc h => by simp [h], rfl⟩

/-- Clearing a directory removes some entries and changes none. -/
lemma get?_clear_cases (t : Tree) (root loc : Location) :
    (t.clear root).get? loc = t.get? loc ∨
      isBelow loc root = true ∧ (t.clear root).get? loc = none := by
  obtain ⟨stays, hstays, hentries⟩ := t.exists_entries_clear root
  unfold get?
  rw [hentries, lookup_filter stays]
  cases isFixed loc with
  | true => exact Or.inl rfl
  | false =>
    cases hbelow : isBelow loc root with
    | false => exact Or.inl (by simp [hstays loc hbelow])
    | true =>
      cases stays loc with
      | false => exact Or.inr ⟨rfl, rfl⟩
      | true => exact Or.inl rfl

/-- Clearing a directory changes nothing but what is in it. -/
lemma get?_clear (h : isBelow loc root = false) : (t.clear root).get? loc = t.get? loc := by
  rcases t.get?_clear_cases root loc with heq | ⟨hbelow, -⟩
  · exact heq
  · exact absurd (h.symm.trans hbelow) Bool.false_ne_true

/-- A directory in which nothing is locked is cleared of all that is in it. -/
lemma clear_of_unlocked (h : t.lockedFrom root = []) : t.clear root = t.eraseBelow root := by
  unfold clear
  dsimp only
  rw [h]
  rfl

/-- Where a directory was in use is as deep as before. -/
lemma exists_remnant (t : Tree) (base : Location) (names : List String) :
    ∃ rest, rest.length = names.length ∧ t.remnant base names = base ++ rest := by
  induction names generalizing base with
  | nil => exact ⟨[], rfl, (List.append_nil base).symm⟩
  | cons name names ih =>
    unfold remnant
    split
    · obtain ⟨rest, hlength, heq⟩ := ih (base ++ [name])
      exact ⟨name :: rest, by simp [hlength], by rw [heq, List.append_assoc]; rfl⟩
    · exact ⟨_, by simp, rfl⟩

/-- Where a directory was in use is below the same directories as before, as far as these are
there. -/
lemma exists_remnant_append {names : List String} {base : Location}
    (h : ∀ front, front <+: names → ∃ mode, t.get? (base ++ front) = some (.dir mode))
    (names' : List String) :
    ∃ rest, rest.length = names'.length ∧
      t.remnant base (names ++ names') = base ++ names ++ rest := by
  induction names generalizing base with
  | nil =>
    rw [List.append_nil]
    exact t.exists_remnant base names'
  | cons name names ih =>
    obtain ⟨mode, hdir⟩ := h [name] (List.cons_prefix_cons.2 ⟨rfl, List.nil_prefix⟩)
    have habove (front : Location) (hfront : front <+: names) :
        ∃ mode, t.get? (base ++ [name] ++ front) = some (.dir mode) := by
      rw [List.append_assoc]
      exact h (name :: front) (List.cons_prefix_cons.2 ⟨rfl, hfront⟩)
    obtain ⟨rest, hlength, heq⟩ := ih habove
    refine ⟨rest, hlength, ?_⟩
    rw [List.cons_append, remnant, hdir]
    simpa using heq

end Tree

namespace Disk

variable {d d' : Disk} {p : Path} {loc : Location}

@[simp] lemma tree_settled (d : Disk) : d.settled.tree = d.tree := by
  unfold settled
  split <;> rfl

/-! ## Removing an empty directory -/

/-- An entry that is removed changes the directory it was in. -/
lemma run_erase (dir : Location) (text : String) (d : Disk) :
    (erase (dir ++ [text])).run d =
      (.ok (), { d with tree := (d.tree.erase (dir ++ [text])).stamp dir d.tree.clock }) := by
  unfold erase
  rw [List.dropLast_concat]
  rfl

/-- A step in a directory that has to be one that may be changed. -/
lemma run_ifChangeable (dir : Location) (x : Step Unit) (d : Disk) :
    let guarded : Step Unit := do
      Act.ofExcept (((← Act.read).tree.change dir).mapError .os)
      x
    (∃ errno, d.tree.change dir = .error errno ∧ guarded.run d = (.error (.os errno), d)) ∨
      d.tree.change dir = .ok () ∧ guarded.run d = x.run d := by
  intro guarded
  let asked : Step Unit := Act.ofExcept ((d.tree.change dir).mapError .os)
  have hguarded : guarded.run d = (asked >>= fun _ => x).run d := Act.bind_ok (Act.run_read d)
  rw [hguarded]
  cases hchange : d.tree.change dir with
  | error errno =>
    have hasked : asked.run d = (.error (.os errno), d) := by
      rw [Act.run_ofExcept, hchange]
      rfl
    exact Or.inl ⟨errno, rfl, Act.bind_error hasked⟩
  | ok _ =>
    have hasked : asked.run d = (.ok (), d) := by
      rw [Act.run_ofExcept, hchange]
      rfl
    exact Or.inr ⟨rfl, Act.bind_ok hasked⟩

/-- There is nothing to remove at a path: its last step cannot be taken, or leads nowhere. -/
def Misses (d : Disk) (p : Path) : Prop :=
  (∃ e, d.slot p = .error e) ∨ ∃ dir text slash, d.slot p = .ok (dir, .name text slash) ∧
    (d.tree.get? (dir ++ [text]) = none ∨ d.tree.change dir = .error .noEntry)

/-- **Removing an empty directory** fails and changes nothing, or removes the directory that a path
names. -/
theorem run_removeDir (p : Path) (d : Disk) :
    (∃ e, (removeDir p).run d = (.error e, d) ∧ (e.isNotFound = true → d.Misses p)) ∨
      ∃ dir text slash mode time, d.slot p = .ok (dir, .name text slash) ∧
        d.tree.get? (dir ++ [text]) = some (.dir mode) ∧
        (removeDir p).run d = (.ok (),
          settled { d with tree := (d.tree.erase (dir ++ [text])).stamp dir time }) := by
  have hother {errno : Errno} (h : errno ≠ .noEntry) :
      (IoError.os errno).isNotFound = true → d.Misses p :=
    fun hfound => absurd (eq_of_beq hfound) h
  unfold removeDir
  cases hslot : d.slot p with
  | error e =>
    refine Or.inl ⟨e, Act.bind_error ?_, fun _ => Or.inl ⟨e, hslot⟩⟩
    rw [slotOf, Act.bind_ok (Act.run_read d), Act.run_ofExcept, hslot]
  | ok r =>
    have hrun : (slotOf p).run d = (.ok r, d) := by
      rw [slotOf, Act.bind_ok (Act.run_read d), Act.run_ofExcept, hslot]
    rw [Act.bind_ok hrun]
    obtain ⟨dir, last⟩ := r
    cases last with
    | here | up | root => exact Or.inl ⟨_, rfl, hother (by decide)⟩
    | name text slash =>
      dsimp only
      split
      · exact Or.inl ⟨_, rfl, hother (by decide)⟩
      rw [Act.bind_ok (Act.run_read d)]
      have hmissed {errno : Errno} (h : d.tree.change dir = .error errno) :
          (IoError.os errno).isNotFound = true → d.Misses p := by
        intro hfound
        rw [eq_of_beq hfound] at h
        exact Or.inr ⟨dir, text, slash, hslot, Or.inr h⟩
      cases hget : d.tree.get? (dir ++ [text]) with
      | none => exact Or.inl ⟨_, rfl, fun _ => Or.inr ⟨dir, text, slash, hslot, Or.inl hget⟩⟩
      | some e =>
        cases e with
        | file _ _ | link _ | device _ =>
          dsimp only
          rcases run_ifChangeable dir (Act.fail (.os .notDirectory)) d with
            ⟨errno, hchange, hrun⟩ | ⟨-, hrun⟩
          · exact Or.inl ⟨_, hrun, hmissed hchange⟩
          · exact Or.inl ⟨_, hrun, hother (by decide)⟩
        | dir mode =>
          dsimp only
          let rest : Step Unit := do
            if ((← Act.read).tree.below (dir ++ [text])).isEmpty then
              erase (dir ++ [text])
              Act.update settled
            else Act.fail (.os .notEmpty)
          rcases run_ifChangeable dir rest d with ⟨errno, hchange, hrun⟩ | ⟨-, hrun⟩
          · exact Or.inl ⟨_, hrun, hmissed hchange⟩
          · rw [hrun, Act.bind_ok (Act.run_read d)]
            split
            · refine Or.inr ⟨dir, text, slash, mode, d.tree.clock, rfl, hget, ?_⟩
              rw [Act.bind_ok (run_erase dir text d)]
              rfl
            · exact Or.inl ⟨_, rfl, hother (by decide)⟩

/-- **Something is to be removed at a path that leads to a directory.** -/
theorem not_misses_of_holds (hlinks : d.tree.LinkFree) (hp : d.Holds p) : ¬ d.Misses p := by
  rcases List.eq_nil_or_concat p.names with hnil | ⟨names, name, hnames⟩
  · have hslot : d.slot p = .ok ([], .root) := slot_of_nil hp.check hnil
    rintro (⟨e, herror⟩ | ⟨dir, text, slash, hname, -⟩)
    · exact absurd (herror.symm.trans hslot) (by simp)
    · exact absurd (hname.symm.trans hslot) (by simp)
  · rw [List.concat_eq_append] at hnames
    obtain ⟨dir, henter, hlanding, -, hslot⟩ := slot_of_holds hlinks hp hnames
    rintro (⟨e, herror⟩ | ⟨dir', text, slash, hname, hnone⟩)
    · exact absurd (herror.symm.trans hslot) (by simp)
    · obtain ⟨rfl, hlast⟩ := Prod.mk.inj (Except.ok.inj (hname.symm.trans hslot))
      obtain ⟨hhere, hup, rfl⟩ := Tree.lastOf_eq_name hlast.symm
      rcases hnone with hnone | hchange
      · obtain ⟨mode, hdir⟩ := hp.dir
        rw [hlanding, stepFrom_of_name hhere hup, hnone] at hdir
        exact absurd hdir (by simp)
      · obtain ⟨mode, habove, -⟩ := Tree.enter_eq_ok_iff.1 henter
        rw [Tree.change, habove] at hchange
        dsimp only at hchange
        split at hchange
        · exact absurd hchange (by simp)
        · exact absurd (Except.error.inj hchange) (by decide)

/-! ## Removing a directory with all that is in it -/

/-- Nothing changes but that entries are removed, at and below a location. -/
def Removes (root : Location) (d d' : Disk) : Prop :=
  ∀ loc, d'.tree.get? loc = d.tree.get? loc ∨ root <+: loc ∧ d'.tree.get? loc = none

/-- Where entries are only removed there are no links if there were none. -/
lemma Removes.linkFree {root : Location} (h : Removes root d d') (hlinks : d.tree.LinkFree) :
    d'.tree.LinkFree := by
  intro loc target hlink
  rcases h loc with heq | ⟨-, hnone⟩
  · exact hlinks loc target (heq.symm.trans hlink)
  · exact absurd (hnone.symm.trans hlink) (by simp)

/-- What a removal leaves that succeeds: nothing in the directory, and not the directory either,
unless the path leads through something that was in it. -/
structure Cleared (d : Disk) (p : Path) (d' : Disk) : Prop where
  /-- Nothing is in the directory. -/
  below : ∀ loc, Tree.isBelow loc (d.landing p) = true → isFixed loc = false →
    d'.tree.get? loc = none
  /-- The directory is gone too, unless the path leads through something that was in it. -/
  root : d'.tree.get? (d.landing p) = none ∨
    d'.tree.get? (d.landing p) = d.tree.get? (d.landing p) ∧
      ∃ loc ∈ d.route p, Tree.isBelow loc (d.landing p) = true ∧ isFixed loc = false

/-- The view of files after what is in a directory was removed. -/
def emptied (d : Disk) (root : Location) : Disk :=
  settled { d with tree := d.tree.clear root }

@[simp] lemma tree_emptied (d : Disk) (root : Location) :
    (d.emptied root).tree = d.tree.clear root := tree_settled _

/-- Emptying a directory only removes what is in it. -/
lemma removes_emptied (d : Disk) (root : Location) : Removes root d (d.emptied root) := by
  intro loc
  rw [tree_emptied]
  rcases d.tree.get?_clear_cases root loc with heq | ⟨hbelow, hnone⟩
  · exact Or.inl heq
  · obtain ⟨rest, -, rfl⟩ := isBelow_iff.1 hbelow
    exact Or.inr ⟨List.prefix_append _ _, hnone⟩

/-- The working directory stays where it is, unless it was removed. -/
lemma cwd_emptied (hd : d.Plain) {root : Location}
    (h : Tree.isBelow d.cwd root = false ∨ isFixed d.cwd = true) :
    d.emptied root = { d with tree := d.tree.clear root } := by
  obtain ⟨mode, hdir⟩ := hd.cwd d.cwd List.prefix_rfl
  have hstays : ∃ mode, (d.tree.clear root).get? d.cwd = some (.dir mode) := by
    rcases h with h | h
    · exact ⟨mode, by rw [Tree.get?_clear h, hdir]⟩
    · exact ⟨_, Tree.get?_of_fixed _ h⟩
  obtain ⟨mode', hstays⟩ := hstays
  unfold emptied settled
  dsimp only
  rw [hstays]

/-- Wherever the working directory is then, a path starts at the same place, or equally deep in what
was removed. -/
lemma level_start_emptied (hd : d.Plain) (root : Location) (p : Path) :
    Level root (d.start p) ((d.emptied root).start p) := by
  have hcwd : Level root d.cwd (d.emptied root).cwd := by
    cases hbelow : Tree.isBelow d.cwd root with
    | false => exact Or.inl (by rw [cwd_emptied hd (Or.inl hbelow)])
    | true =>
      obtain ⟨x, hx, hsplit⟩ := isBelow_iff.1 hbelow
      unfold emptied settled
      dsimp only
      split
      · exact Or.inl rfl
      · have habove : ∀ front, front <+: root →
            ∃ mode, (d.tree.clear root).get? ([] ++ front) = some (.dir mode) := by
          intro front hfront
          obtain ⟨mode, hdir⟩ := hd.cwd front
            (hfront.trans (hsplit ▸ List.prefix_append root x))
          exact ⟨mode, by rw [List.nil_append, Tree.get?_clear (isBelow_of_isPrefix hfront), hdir]⟩
        obtain ⟨y, hlength, hremnant⟩ := Tree.exists_remnant_append habove x
        refine Or.inr ⟨x, y, hx, hlength, hsplit, ?_⟩
        rw [hsplit]
        exact hremnant
  unfold start startOf
  split
  · exact Or.inl rfl
  · exact hcwd

/-- **The path still names its directory** once that is emptied, if it names anything: wherever it
starts then, it leads to the same location. -/
lemma slot_emptied (hd : d.Plain) {dir : Location} {text : String} {slash : Bool}
    (h : (d.emptied (d.landing p)).slot p = .ok (dir, .name text slash)) :
    dir ++ [text] = d.landing p ∧ isFixed (d.landing p) = false := by
  have hlinks := (removes_emptied d (d.landing p)).linkFree hd.linkFree
  obtain ⟨-, ⟨hlast, -⟩ | ⟨names, name, hnames, hpasses, -, hlast⟩⟩ := slot_eq_ok hlinks h
  · exact absurd hlast (by simp)
  obtain ⟨hhere, hup, rfl⟩ := Tree.lastOf_eq_name hlast.symm
  have hlanding : d.landing p = follow (d.start p) names ++ [name] := by
    rw [landing, hnames, follow_append]
    exact stepFrom_of_name hhere hup _
  have hlevel := (level_start_emptied hd (d.landing p) p).follow names
  have heq : follow (d.start p) names = follow ((d.emptied (d.landing p)).start p) names :=
    hlevel.eq_of_length (by rw [hlanding]; simp)
  refine ⟨by rw [Tree.eq_follow_of_passes hpasses, ← heq, hlanding], ?_⟩
  have hne : name ≠ "" := ne_empty_of_mem_namesOf (hnames ▸ List.mem_append_right names
    (List.mem_singleton_self name) : name ∈ p.names)
  rw [hlanding]
  simp [isFixed, hne]

/-- **A path still leads to its directory** once that is emptied, unless it leads through something
that was in it. -/
theorem holds_emptied (hd : d.Plain) (hp : d.Holds p)
    (hlocked : d.tree.lockedFrom (d.landing p) = [])
    (h : ∀ loc ∈ d.route p, Tree.isBelow loc (d.landing p) = true → isFixed loc = true) :
    (d.emptied (d.landing p)).Holds p := by
  have htree : (d.emptied (d.landing p)).tree = d.tree.eraseBelow (d.landing p) := by
    rw [tree_emptied, Tree.clear_of_unlocked hlocked]
  have hstart : (d.emptied (d.landing p)).start p = d.start p := by
    have hmem : d.start p ∈ d.route p := mem_route_iff.2 ⟨[], List.nil_prefix, rfl⟩
    unfold start startOf at hmem ⊢
    split
    · rfl
    · next hrelative =>
      rw [if_neg hrelative] at hmem
      have hcwd : Tree.isBelow d.cwd (d.landing p) = false ∨ isFixed d.cwd = true := by
        cases hbelow : Tree.isBelow d.cwd (d.landing p) with
        | false => exact Or.inl rfl
        | true => exact Or.inr (h d.cwd hmem hbelow)
      rw [cwd_emptied hd hcwd]
  have hget : ∀ y ∈ d.route p, (d.tree.eraseBelow (d.landing p)).get? y = d.tree.get? y := by
    intro y hy
    rw [Tree.get?_eraseBelow]
    cases hbelow : Tree.isBelow y (d.landing p) with
    | false => rfl
    | true => rw [h y hy hbelow]; rfl
  have hlanding : (d.emptied (d.landing p)).landing p = d.landing p := by
    rw [landing, hstart, landing]
  obtain ⟨mode, hdir⟩ := hp.dir
  refine ⟨hp.check, ?_, mode, ?_⟩
  · rw [hlanding, hstart, htree, Tree.passes_congr hget]
    exact hp.passes
  · rw [hlanding, htree, hget (d.landing p) (follow_mem_route _ _), hdir]

/-- A directory in which nothing is locked is emptied of all that is in it. -/
lemma get?_emptied (hlocked : d.tree.lockedFrom (d.landing p) = [])
    (hbelow : Tree.isBelow loc (d.landing p) = true) (hfixed : isFixed loc = false) :
    (d.emptied (d.landing p)).tree.get? loc = none := by
  rw [tree_emptied, Tree.clear_of_unlocked hlocked, Tree.get?_eraseBelow, hbelow, hfixed]
  rfl

/-- What comes of removing a directory once it is emptied: it is removed too, or there is none that
its path leads to. -/
lemma run_removeDir_emptied (hd : d.Plain) (hp : d.Holds p)
    (hlocked : d.tree.lockedFrom (d.landing p) = []) :
    let done := (removeDir p).run (d.emptied (d.landing p))
    Removes (d.landing p) d done.2 ∧
      ((∀ e, done.1 = .error e → e.isNotFound = true) → d.Cleared p done.2) := by
  intro done
  have hremoves := removes_emptied d (d.landing p)
  rcases run_removeDir p (d.emptied (d.landing p)) with
    ⟨e, hrun, hmisses⟩ | ⟨dir, text, slash, mode, time, hslot, -, hrun⟩
  · have hdone : done = (.error e, d.emptied (d.landing p)) := hrun
    rw [hdone]
    refine ⟨hremoves, fun hmissed => ⟨fun loc => get?_emptied hlocked, Or.inr ⟨?_, ?_⟩⟩⟩
    · rw [tree_emptied]
      exact Tree.get?_clear (isBelow_of_isPrefix List.prefix_rfl)
    · -- else the path would still lead to the directory, and it would not be missed
      refine Classical.byContradiction fun hnone => ?_
      refine not_misses_of_holds (hremoves.linkFree hd.linkFree) (holds_emptied hd hp hlocked ?_)
        (hmisses (hmissed e rfl))
      intro loc hloc hbelow
      cases hfixed : isFixed loc with
      | true => rfl
      | false => exact absurd ⟨loc, hloc, hbelow, hfixed⟩ hnone
  · obtain ⟨htarget, hfixed⟩ := slot_emptied hd hslot
    rw [htarget] at hrun
    have hget (loc : Location) : done.2.tree.get? loc =
        if loc = d.landing p then none else (d.emptied (d.landing p)).tree.get? loc := by
      show ((removeDir p).run (d.emptied (d.landing p))).2.tree.get? loc = _
      rw [hrun, tree_settled]
      exact Tree.get?_erase _ hfixed loc
    refine ⟨fun loc => ?_, fun _ => ⟨fun loc hbelow hloc => ?_, Or.inl ?_⟩⟩
    · rw [hget]
      split
      · next heq => exact Or.inr ⟨heq ▸ List.prefix_rfl, rfl⟩
      · exact hremoves loc
    · rw [hget]
      split
      · rfl
      · exact get?_emptied hlocked hbelow hloc
    · rw [hget, if_pos rfl]

/-- The removal of a directory that is there: it is emptied, and then removed unless something in it
is locked. If it is not there by then, that is no failure. -/
lemma run_removeAll_of_lstat {mode : Nat} (h : d.lstat p = .ok (loc, .dir mode)) :
    (removeAll p).run d =
      if (d.tree.lockedFrom loc).isEmpty then
        match (removeDir p).run (d.emptied loc) with
        | (.ok (), d') => (.ok (), d')
        | (.error e, d') => (if e.isNotFound then .ok () else .error e, d')
      else (.error (.os .accessDenied), d.emptied loc) := by
  unfold removeAll
  rw [Act.bind_ok (Act.run_read d), h]
  dsimp only
  rw [Act.bind_ok (Act.run_read d), Act.bind_ok (Act.run_update _ d)]
  cases (d.tree.lockedFrom loc).isEmpty with
  | false => rfl
  | true =>
    show ((removeDir p).attempt >>= _).run (d.emptied loc) = _
    rw [Act.bind_ok (Act.run_attempt (removeDir p) (d.emptied loc))]
    rcases (removeDir p).run (d.emptied loc) with ⟨e | _, d'⟩
    · dsimp only
      cases e.isNotFound <;> rfl
    · rfl

/-- **What comes of removing a directory that a path leads to.** Nothing changes but that entries at
and below its location are removed. If the removal fails, that is not because there is no such
directory, and if it succeeds the directory is cleared.

**Proof sketch.** The path leads to the directory, so that is found, unless a slash at the end of
the path asks for one that may be entered and it may not. If nothing in it is locked it is emptied.
If the path still leads to it, it is removed or the removal fails for a reason of its own. If not,
the path leads through something that was in the directory, and the directory stays. -/
theorem run_removeAll (hd : d.Plain) (hp : d.Holds p) :
    let done := (removeAll p).run d
    Removes (d.landing p) d done.2 ∧ (∀ e, done.1 = .error e → e.isNotFound = false) ∧
      (done.1 = .ok () → d.Cleared p done.2) := by
  intro done
  have hrefused {d' : Disk} (hremoves : Removes (d.landing p) d d')
      (h : done = (.error (.os .accessDenied), d')) :
      Removes (d.landing p) d done.2 ∧ (∀ e, done.1 = .error e → e.isNotFound = false) ∧
        (done.1 = .ok () → d.Cleared p done.2) := by
    rw [h]
    refine ⟨hremoves, fun e h => ?_, fun h => absurd h (by simp)⟩
    obtain rfl := Except.error.inj h
    rfl
  rcases lstat_of_holds hd.linkFree hp with ⟨mode, hlstat⟩ | hlstat
  · have hdone : done = _ := run_removeAll_of_lstat hlstat
    cases hlocked : d.tree.lockedFrom (d.landing p) with
    | cons loc locs =>
      rw [hlocked] at hdone
      exact hrefused (removes_emptied d _) hdone
    | nil =>
      obtain ⟨hremoves, hcleared⟩ := run_removeDir_emptied hd hp hlocked
      rw [hlocked, List.isEmpty_nil, if_pos rfl] at hdone
      rcases hrun : (removeDir p).run (d.emptied (d.landing p)) with ⟨e | _, d'⟩
      · rw [hrun] at hremoves hcleared hdone
        have hdone : done = (if e.isNotFound then .ok () else .error e, d') := hdone
        cases hfound : e.isNotFound with
        | true =>
          rw [hdone, hfound]
          refine ⟨hremoves, fun e h => absurd h (by simp), fun _ => hcleared fun e' h => ?_⟩
          rwa [← Except.error.inj h]
        | false =>
          rw [hdone, hfound]
          refine ⟨hremoves, fun e' h => ?_, fun h => absurd h (by simp)⟩
          rwa [← Except.error.inj h]
      · rw [hrun] at hremoves hcleared hdone
        rw [hdone]
        exact ⟨hremoves, fun e h => absurd h (by simp), fun _ => hcleared fun e h =>
          absurd h (by simp)⟩
  · have hdone : (removeAll p).run d = (.error (.os .accessDenied), d) := by
      unfold removeAll
      rw [Act.bind_ok (Act.run_read d), hlstat]
      rfl
    exact hrefused (fun loc => Or.inl rfl) hdone

namespace Cleared

variable (h : d.Cleared p d') (hlinks : d'.tree.LinkFree)

include h hlinks

/-- **The path of a directory that was cleared** leads nowhere, seen from where it started. -/
theorem present_eq_false : ({ d with tree := d'.tree } : Disk).present p = false := by
  rcases h.root with hnone | ⟨-, loc, hloc, hbelow, hfixed⟩
  · exact Disk.present_eq_false hlinks (follow_mem_route _ _) hnone
  · exact Disk.present_eq_false hlinks hloc (h.below loc hbelow hfixed)

/-- Paths of files in it lead nowhere either. -/
theorem present_join_eq_false {n : String} (hp : p.text ≠ "") (hn : Path.IsFileName n) :
    ({ d with tree := d'.tree } : Disk).present (p.join ⟨n⟩) = false := by
  have hlanding : d.landing (p.join ⟨n⟩) = d.landing p ++ [n] := by
    rw [landing, landing, names_join hp hn, follow_append, start, startOf_join hp hn]
    exact stepFrom_of_name hn.2.1 hn.2.2.1 _
  have hbelow : Tree.isBelow (d.landing p ++ [n]) (d.landing p) = true :=
    isBelow_iff.2 ⟨[n], by simp, rfl⟩
  have hnone := h.below _ hbelow (by simp [isFixed, hn.1])
  rw [← hlanding] at hnone
  exact Disk.present_eq_false hlinks (follow_mem_route _ _) hnone

end Cleared

end Disk

end AslBuild.FileSystem
