import AslBuild.FileSystem.Operations
import Mathlib.Tactic.Lemma
set_option autoImplicit false

/-!
# The outline of files

What a file holds does not matter for where a path leads, for what may be written and for what can
be removed. So two views of files that differ only in what files hold are changed in the same way by
the same operations, and these end in the same way. The *outline* of a view is what such views have
in common.

## Main definitions

* `AslBuild.FileSystem.Disk.outline` — a view of files in which all files are empty.
* `AslBuild.FileSystem.Disk.Alike` — two steps that end in the same way, with the same outline.
* `AslBuild.FileSystem.Disk.TreeOnly` — a step that changes nothing but the tree.

## Main results

* `AslBuild.FileSystem.Tree.walk_outline`, `AslBuild.FileSystem.Tree.reach_outline` — paths lead to
  the same locations in the outline.
* `AslBuild.FileSystem.Disk.alike_write` — texts are written alike, if both are empty or none is.
* `AslBuild.FileSystem.Disk.treeOnly_write` — writing a file changes nothing but the tree.
* `AslBuild.FileSystem.Disk.alike_removeAll` — directories are removed alike.
-/

namespace AslBuild.FileSystem

/-! ## Outlines -/

/-- What lies at a location, without what a file holds. -/
def Entry.outline : Entry → Entry
  | .file _ mode => .file [] mode
  | e => e

/-- Entries with one outline are equal, or files that differ only in what they hold. -/
lemma Entry.eq_or_files {e e' : Option Entry} (h : e.map outline = e'.map outline) :
    e = e' ∨ ∃ held held' mode, e = some (.file held mode) ∧ e' = some (.file held' mode) := by
  rcases e with _ | _ | _ | _ | _ <;> rcases e' with _ | _ | _ | _ | _ <;>
    simp_all [outline]

/-- The files, without what they hold. -/
def Tree.outline (t : Tree) : Tree :=
  { t with entries := t.entries.map fun x => (x.1, x.2.outline) }

/-- A view of files, without what they hold. -/
def Disk.outline (d : Disk) : Disk := { d with tree := d.tree.outline }

namespace Tree

variable (t : Tree)

/-! ## Paths -/

@[simp] lemma get?_outline (loc : Location) :
    t.outline.get? loc = (t.get? loc).map Entry.outline := by
  have hlookup (xs : List (Location × Entry)) :
      (xs.map fun x => (x.1, x.2.outline)).lookup loc = (xs.lookup loc).map Entry.outline := by
    induction xs with
    | nil => rfl
    | cons x xs ih =>
      obtain ⟨key, e⟩ := x
      cases hkey : loc == key <;> simp [List.lookup_cons, hkey, ih]
  unfold get?
  split
  · rfl
  · exact hlookup t.entries

@[simp] lemma enter_outline (loc : Location) : t.outline.enter loc = t.enter loc := by
  rw [enter, enter, get?_outline]
  rcases t.get? loc with _ | _ | _ | _ | _ <;> rfl

@[simp] lemma change_outline (loc : Location) : t.outline.change loc = t.change loc := by
  rw [change, change, get?_outline]
  rcases t.get? loc with _ | _ | _ | _ | _ <;> rfl

lemma descend_outline (follow : Location → List String → Except Errno (Location × Nat))
    (links : Nat) (loc : Location) (steps : List String) :
    t.outline.descend follow links loc steps = t.descend follow links loc steps := by
  induction steps generalizing loc with
  | nil => rfl
  | cons step steps ih =>
    rw [descend, descend, get?_outline]
    rcases t.get? loc with _ | mode | _ | _ | _
    · rfl
    · simp only [Option.map_some, Entry.outline, get?_outline, ih]
      rcases t.get? (loc ++ [step]) with _ | _ | _ | _ | _ <;> rfl
    · rfl
    · rfl
    · rfl

/-- **A walk leads to the same location in the outline.** -/
lemma walk_outline (links : Nat) : t.outline.walk links = t.walk links := by
  induction links with
  | zero =>
    funext loc steps
    exact descend_outline t _ _ loc steps
  | succ links ih =>
    funext loc steps
    rw [walk, walk, ih]
    exact descend_outline t _ _ loc steps

@[simp] lemma slot_outline (links : Nat) (base : Location) (text : List Char) :
    t.outline.slot links base text = t.slot links base text := by
  unfold slot
  simp only [walk_outline, enter_outline]

/-- Where a path leads, without what a file holds. -/
def outlined (r : Location × Option Entry) : Location × Option Entry :=
  (r.1, r.2.map Entry.outline)

lemma reachVia_outline
    {follow follow' : Nat → Location → List Char → Except Errno (Location × Option Entry)}
    (h : ∀ links base text, follow' links base text = (follow links base text).map outlined)
    (links : Nat) (base : Location) (text : List Char) :
    t.outline.reachVia follow' links base text =
      (t.reachVia follow links base text).map outlined := by
  unfold reachVia
  rw [slot_outline]
  rcases t.slot links base text with errno | ⟨dir, ⟨name, slash⟩ | _ | _ | _, links'⟩
  · rfl
  · simp only [bind, Except.bind, get?_outline]
    split
    · rfl
    split
    · rfl
    rcases t.get? (dir ++ [name]) with _ | _ | _ | target | _
    · rfl
    · rfl
    · rfl
    · cases links' with
      | zero => rfl
      | succ links' => exact h links' dir target.toList
    · rfl
  all_goals rfl

/-- **A path that is opened leads to the same location in the outline.** -/
lemma reach_outline (hops links : Nat) (base : Location) (text : List Char) :
    t.outline.reach hops links base text = (t.reach hops links base text).map outlined := by
  induction hops generalizing links base text with
  | zero =>
    rw [reach, reach]
    exact @reachVia_outline t (fun _ _ _ => .error .tooManyLinks) _ (fun _ _ _ => rfl) links base
      text
  | succ hops ih =>
    rw [reach, reach]
    exact reachVia_outline t ih links base text

/-! ## Changes -/

lemma outline_rewrite (loc : Location) (e : Entry) :
    (t.rewrite loc e).outline = t.outline.rewrite loc e.outline := by
  have hentry (names : List Location) (x : Location × Entry) :
      ((fun x => (x.1, x.2.outline)) ∘ fun x => if names.contains x.1 then (x.1, e) else x) x =
        ((fun x => if names.contains x.1 then (x.1, e.outline) else x) ∘
          fun x : Location × Entry => (x.1, x.2.outline)) x := by
    dsimp only [Function.comp]
    split <;> rfl
  simp only [rewrite, outline, List.map_map, funext (hentry _)]
  rfl

/-- Entries that are chosen by their locations are the same ones in the outline. -/
lemma filter_outline (keep : Location → Bool) :
    t.outline.entries.filter (fun x => keep x.1) =
      (t.entries.filter fun x => keep x.1).map fun x => (x.1, x.2.outline) := by
  rw [outline, List.filter_map]
  rfl

lemma outline_insert (loc : Location) (e : Entry) :
    (t.insert loc e).outline = t.outline.insert loc e.outline := by
  simp only [insert, outline, List.map_cons, List.filter_map]
  rfl

lemma outline_erase (loc : Location) : (t.erase loc).outline = t.outline.erase loc := by
  simp only [erase, outline, List.filter_map]
  rfl

lemma below_outline (root : Location) :
    t.outline.below root = (t.below root).map fun x => (x.1, x.2.outline) :=
  t.filter_outline fun loc => isBelow loc root

lemma names_outline (dir : Location) : t.outline.names dir = t.names dir := by
  simp only [names, outline, List.filterMap_map]
  rfl

lemma isOpen_outline (loc : Location) : t.outline.isOpen loc = t.isOpen loc := by
  rw [isOpen, isOpen, get?_outline]
  rcases t.get? loc with _ | _ | _ | _ | _ <;> rfl

lemma lockedFrom_outline (root : Location) : t.outline.lockedFrom root = t.lockedFrom root := by
  simp only [lockedFrom, below_outline, List.map_map, isOpen_outline, names_outline]
  rfl

lemma outline_clear (root : Location) : (t.clear root).outline = t.outline.clear root := by
  unfold clear
  rw [lockedFrom_outline]
  dsimp only
  split
  · simp only [eraseBelow, outline, List.filter_map]
    rfl
  · simp only [outline, List.filter_map]
    rfl

lemma remnant_outline (base : Location) (names : List String) :
    t.outline.remnant base names = t.remnant base names := by
  induction names generalizing base with
  | nil => rfl
  | cons name names ih =>
    rw [remnant, remnant, get?_outline]
    rcases t.get? (base ++ [name]) with _ | _ | _ | _ | _
    · rfl
    · exact ih _
    all_goals rfl

end Tree

/-! ## Steps -/

namespace Disk

variable {d d' : Disk} {α β : Type}

/-- Views with one outline agree on what can be told from the outline. -/
lemma same_of_outline {γ : Type} (f : Disk → γ) (hf : ∀ d, f d.outline = f d)
    (h : d.outline = d'.outline) : f d = f d' := by
  rw [← hf d, h, hf]

lemma slot_outline (d : Disk) (p : Path) : d.outline.slot p = d.slot p := by
  unfold slot
  rw [← d.tree.slot_outline]
  rfl

lemma locate_outline (d : Disk) (p : Path) : d.outline.locate p = d.locate p := by
  unfold locate
  rw [← d.tree.walk_outline]
  rfl

/-- What a path leads to, without what a file holds. -/
def outlined (r : Location × Entry) : Location × Entry := (r.1, r.2.outline)

lemma stat_outline (d : Disk) (p : Path) : d.outline.stat p = (d.stat p).map outlined := by
  unfold stat
  rw [locate_outline]
  cases d.locate p with
  | error e => rfl
  | ok loc =>
    have hget : d.outline.tree.get? loc = (d.tree.get? loc).map Entry.outline :=
      d.tree.get?_outline loc
    simp only [bind, Except.bind, hget]
    cases d.tree.get? loc <;> rfl

lemma lstat_outline (d : Disk) (p : Path) : d.outline.lstat p = (d.lstat p).map outlined := by
  unfold lstat
  rw [slot_outline]
  rcases d.slot p with e | ⟨dir, ⟨name, _ | _⟩ | _ | _ | _⟩
  · rfl
  · have hget : d.outline.tree.get? (dir ++ [name]) =
        (d.tree.get? (dir ++ [name])).map Entry.outline := d.tree.get?_outline (dir ++ [name])
    simp only [bind, Except.bind, hget]
    split
    · rfl
    · cases d.tree.get? (dir ++ [name]) <;> rfl
  all_goals exact stat_outline d p

lemma settled_outline (d : Disk) : d.settled.outline = d.outline.settled := by
  have hget : d.outline.tree.get? d.outline.cwd = (d.tree.get? d.cwd).map Entry.outline :=
    d.tree.get?_outline d.cwd
  have hremnant : d.outline.tree.remnant [] d.outline.cwd = d.tree.remnant [] d.cwd :=
    d.tree.remnant_outline [] d.cwd
  unfold settled
  rw [hget, hremnant]
  rcases d.tree.get? d.cwd with _ | _ | _ | _ | _ <;> rfl

/-- Views with one outline have the same entries, but for what files hold. -/
lemma get?_of_outline (h : d.outline = d'.outline) (loc : Location) :
    d.tree.get? loc = d'.tree.get? loc ∨ ∃ held held' mode,
      d.tree.get? loc = some (.file held mode) ∧ d'.tree.get? loc = some (.file held' mode) := by
  have hget := congrArg (fun d => d.tree.get? loc) h
  simp only [Disk.outline, Tree.get?_outline] at hget
  exact Entry.eq_or_files hget

/-- In views with one outline a path leads to the same entry, but for what a file holds. -/
lemma lstat_of_outline (h : d.outline = d'.outline) (p : Path) :
    d.lstat p = d'.lstat p ∨ ∃ loc held held' mode,
      d.lstat p = .ok (loc, .file held mode) ∧ d'.lstat p = .ok (loc, .file held' mode) := by
  have hstat := congrArg (fun d => d.lstat p) h
  simp only [lstat_outline] at hstat
  generalize d.lstat p = r at hstat ⊢
  generalize d'.lstat p = r' at hstat ⊢
  rcases r with e | ⟨loc, e⟩ <;> rcases r' with e' | ⟨loc', e'⟩
  · exact Or.inl (by simpa [Except.map] using hstat)
  · exact absurd hstat (by simp [Except.map])
  · exact absurd hstat (by simp [Except.map])
  · obtain ⟨hloc, he⟩ := Prod.mk.inj (Except.ok.inj hstat)
    dsimp only at hloc he
    subst hloc
    have hentries : (some e).map Entry.outline = (some e').map Entry.outline := congrArg some he
    obtain heq | ⟨held, held', mode, hfile, hfile'⟩ := Entry.eq_or_files hentries
    · exact Or.inl (by rw [Option.some.inj heq])
    · exact Or.inr ⟨loc, held, held', mode, by rw [Option.some.inj hfile],
        by rw [Option.some.inj hfile']⟩

/-- Two steps end in the same way and with the same outline, if they start with the same one. -/
def Alike (x x' : Step α) : Prop :=
  ∀ d d' : Disk, d.outline = d'.outline →
    (x.run d).1 = (x'.run d').1 ∧ (x.run d).2.outline = (x'.run d').2.outline

lemma alike_pure (a : α) : Alike (pure a : Step α) (pure a) := fun _ _ h => ⟨rfl, h⟩

lemma alike_fail (e : IoError) : Alike (Act.fail e : Step α) (Act.fail e) := fun _ _ h => ⟨rfl, h⟩

lemma alike_ofExcept (r : Except IoError α) : Alike (Act.ofExcept r : Step α) (Act.ofExcept r) :=
  fun _ _ h => ⟨rfl, h⟩

/-- Sequences are alike if their steps are. -/
lemma Alike.bind {x x' : Step α} {f f' : α → Step β} (hx : Alike x x')
    (hf : ∀ a, Alike (f a) (f' a)) : Alike (x >>= f) (x' >>= f') := by
  intro d d' h
  obtain ⟨hresult, houtline⟩ := hx d d' h
  obtain ⟨e, hstops, hstops'⟩ | ⟨a, hgoes, hgoes'⟩ := Act.bind_of_same f f' hresult
  · rw [hstops, hstops']
    exact ⟨rfl, houtline⟩
  · rw [hgoes, hgoes']
    exact hf a _ _ houtline

/-- Steps from two values are alike after these were given. -/
lemma alike_given {γ : Type} {a a' : γ} {f f' : γ → Step α} (h : Alike (f a) (f' a')) :
    Alike (Act.ofExcept (.ok a) >>= f) (Act.ofExcept (.ok a') >>= f') := h

/-- A failure that does not end a sequence is the same. -/
lemma Alike.attempt {x x' : Step α} (hx : Alike x x') : Alike x.attempt x'.attempt := by
  intro d d' h
  obtain ⟨hresult, houtline⟩ := hx d d' h
  exact ⟨congrArg Except.ok hresult, houtline⟩

/-- Steps are alike that look at the files first, if they are so for files with one outline. -/
lemma alike_read {f f' : Disk → Step α}
    (h : ∀ d d', d.outline = d'.outline → Alike (f d) (f' d')) :
    Alike (Act.read >>= f) (Act.read >>= f') := by
  intro d d' houtline
  rw [Act.bind_ok (Act.run_read d), Act.bind_ok (Act.run_read d')]
  exact h d d' houtline d d' houtline

/-- Changes are alike if they are so in the outline. -/
lemma alike_update {f f' : Disk → Disk}
    (h : ∀ d d', d.outline = d'.outline → (f d).outline = (f' d').outline) :
    Alike (Act.update f) (Act.update f') := fun d d' houtline => ⟨rfl, h d d' houtline⟩

/-- A change of the tree is alike if it is so in the outline. -/
lemma alike_tree (f f' g : Tree → Tree) (hf : ∀ t, (f t).outline = g t.outline)
    (hf' : ∀ t, (f' t).outline = g t.outline) :
    Alike (Act.update fun d => { d with tree := f d.tree })
      (Act.update fun d => { d with tree := f' d.tree }) := by
  refine alike_update fun d d' h => ?_
  have htree (f : Tree → Tree) (hf : ∀ t, (f t).outline = g t.outline) (d : Disk) :
      ({ d with tree := f d.tree } : Disk).outline =
        { d.outline with tree := g d.outline.tree } := by
    show ({ d with tree := (f d.tree).outline } : Disk) = _
    rw [hf]
    rfl
  rw [htree f hf, htree f' hf', h]

lemma alike_settled : Alike (Act.update settled) (Act.update settled) :=
  alike_update fun d d' h => by rw [settled_outline, h, settled_outline]

lemma alike_slotOf (p : Path) : Alike (slotOf p) (slotOf p) :=
  alike_read fun d d' h => by
    rw [same_of_outline (fun d => d.slot p) (fun d => d.slot_outline p) h]
    exact alike_ofExcept _

lemma alike_touchDir (loc : Location) : Alike (touchDir loc) (touchDir loc) :=
  alike_tree (fun t => t.stamp loc t.clock) (fun t => t.stamp loc t.clock)
    (fun t => t.stamp loc t.clock) (fun _ => rfl) fun _ => rfl

/-- Files are given contents alike. -/
lemma alike_putContents (loc : Location) {e e' : Entry} (h : e.outline = e'.outline) :
    Alike (putContents loc e) (putContents loc e') := by
  have hput : Alike (put loc e) (put loc e') :=
    alike_tree (fun t => t.rewrite loc e) (fun t => t.rewrite loc e')
      (fun t => t.rewrite loc e.outline) (fun t => t.outline_rewrite loc e)
      fun t => by rw [h]; exact t.outline_rewrite loc e'
  exact hput.bind fun _ => alike_touchDir loc

lemma alike_create (loc : Location) (e : Entry) : Alike (create loc e) (create loc e) := by
  unfold create
  dsimp only
  split
  · exact alike_fail _
  · refine alike_read fun d d' h => ?_
    rw [same_of_outline (fun d => d.tree.change loc.dropLast)
      (fun d => d.tree.change_outline loc.dropLast) h]
    exact (alike_ofExcept _).bind fun _ =>
      (alike_tree (fun t => t.insert loc e) (fun t => t.insert loc e)
        (fun t => t.insert loc e.outline) (fun t => t.outline_insert loc e)
        fun t => t.outline_insert loc e).bind fun _ => alike_touchDir _

lemma alike_erase (loc : Location) : Alike (erase loc) (erase loc) :=
  (alike_tree (fun t => t.erase loc) (fun t => t.erase loc) (fun t => t.erase loc)
    (fun t => t.outline_erase loc) fun t => t.outline_erase loc).bind fun _ => alike_touchDir _

/-! ## Writing -/

/-- A file is opened to be emptied alike. -/
lemma alike_openToWrite (p : Path) : Alike (openToWrite true p) (openToWrite true p) := by
  unfold openToWrite
  refine (alike_ofExcept _).bind fun _ => alike_read fun d d' h => ?_
  have hmask := congrArg Disk.mask h
  have hreach := congrArg (fun d => d.tree.reach maxLinks maxLinks d.cwd p.text.toList) h
  simp only [Disk.outline, Tree.reach_outline] at hmask hreach
  rw [hmask]
  generalize d.tree.reach maxLinks maxLinks d.cwd p.text.toList = reached at hreach ⊢
  generalize d'.tree.reach maxLinks maxLinks d'.cwd p.text.toList = reached' at hreach ⊢
  rcases reached with errno | ⟨loc, found⟩ <;> rcases reached' with errno' | ⟨loc', found'⟩
  · obtain rfl : errno = errno' := Except.error.inj hreach
    exact alike_fail _
  · exact absurd hreach (by simp [Except.map])
  · exact absurd hreach (by simp [Except.map])
  obtain ⟨hloc, hfound⟩ := Prod.mk.inj (Except.ok.inj hreach)
  dsimp only at hloc
  subst hloc
  refine alike_given ?_
  dsimp only
  have hfile (mode : Nat) : Alike
      (if (!mayWrite mode) = true then Act.fail (.os .accessDenied) else do
        putContents loc (.file [] mode)
        pure (loc, Entry.file [] mode) : Step (Location × Entry))
      (if (!mayWrite mode) = true then Act.fail (.os .accessDenied) else do
        putContents loc (.file [] mode)
        pure (loc, .file [] mode)) := by
    split
    · exact alike_fail _
    · exact (alike_putContents loc rfl).bind fun _ => alike_pure _
  obtain rfl | ⟨held, held', mode, rfl, rfl⟩ := Entry.eq_or_files hfound
  · rcases found with _ | _ | ⟨held, mode⟩ | _ | kind
    · exact (alike_create _ _).bind fun _ => alike_pure _
    · exact alike_fail _
    · exact hfile mode
    · exact alike_fail _
    · cases kind with
      | terminal => exact alike_fail _
      | null | zero | full => exact alike_pure _
  · exact hfile mode

/-- **Texts are written alike**, if both are empty or none is. -/
theorem alike_write (p : Path) {contents contents' : List UInt8}
    (h : contents.isEmpty = contents'.isEmpty) :
    Alike (write p contents) (write p contents') := by
  refine (alike_openToWrite p).bind fun r => ?_
  rcases r with ⟨loc, _ | ⟨held, mode⟩ | _ | kind⟩
  · exact alike_pure _
  · exact alike_putContents loc rfl
  · exact alike_pure _
  · cases kind with
    | full =>
      dsimp only
      rw [h]
      split
      · exact alike_pure _
      · exact alike_fail _
    | null | zero | terminal => exact alike_pure _

/-! ## What is left alone -/

/-- A step changes nothing but the tree: the process stays where it is. -/
def TreeOnly (x : Step α) : Prop := ∀ d, (x.run d).2 = { d with tree := (x.run d).2.tree }

lemma treeOnly_ofExcept (r : Except IoError α) : TreeOnly (Act.ofExcept r) := fun _ => rfl

lemma treeOnly_tree (f : Tree → Tree) :
    TreeOnly (Act.update fun d => { d with tree := f d.tree }) := fun _ => rfl

/-- A sequence changes nothing but the tree if its steps do not. -/
lemma TreeOnly.bind {x : Step α} {f : α → Step β} (hx : TreeOnly x) (hf : ∀ a, TreeOnly (f a)) :
    TreeOnly (x >>= f) := by
  intro d
  have hview := hx d
  rcases hrun : x.run d with ⟨e | a, u⟩
  · rw [hrun] at hview
    rw [Act.bind_error hrun]
    exact hview
  · rw [hrun] at hview
    rw [Act.bind_ok hrun, hf a u]
    dsimp only at hview
    rw [hview]

/-- A step may look at the files first. -/
lemma treeOnly_read {f : Disk → Step α} (hf : ∀ d, TreeOnly (f d)) : TreeOnly (Act.read >>= f) :=
  TreeOnly.bind (fun _ => rfl) hf

lemma treeOnly_putContents (loc : Location) (e : Entry) : TreeOnly (putContents loc e) :=
  (treeOnly_tree fun t => t.rewrite loc e).bind fun _ => treeOnly_tree fun t => t.stamp loc t.clock

lemma treeOnly_create (loc : Location) (e : Entry) : TreeOnly (create loc e) := by
  unfold create
  dsimp only
  split
  · exact fun _ => rfl
  · exact treeOnly_read fun _ => (treeOnly_ofExcept _).bind fun _ =>
      (treeOnly_tree fun t => t.insert loc e).bind fun _ =>
        treeOnly_tree fun t => t.stamp loc.dropLast t.clock

lemma treeOnly_openToWrite (p : Path) : TreeOnly (openToWrite true p) := by
  unfold openToWrite
  refine (treeOnly_ofExcept _).bind fun _ => treeOnly_read fun d =>
    (treeOnly_ofExcept _).bind fun r => ?_
  rcases r with ⟨loc, _ | _ | ⟨held, mode⟩ | _ | kind⟩
  · exact (treeOnly_create _ _).bind fun _ _ => rfl
  · exact fun _ => rfl
  · dsimp only
    split
    · exact fun _ => rfl
    · exact (treeOnly_putContents _ _).bind fun _ _ => rfl
  · exact fun _ => rfl
  · cases kind <;> exact fun _ => rfl

/-- **Writing a file changes nothing but the tree.** -/
theorem treeOnly_write (p : Path) (contents : List UInt8) : TreeOnly (write p contents) := by
  refine (treeOnly_openToWrite p).bind fun r => ?_
  rcases r with ⟨loc, _ | ⟨held, mode⟩ | _ | kind⟩
  · exact fun _ => rfl
  · exact treeOnly_putContents _ _
  · exact fun _ => rfl
  · cases kind with
    | full =>
      dsimp only
      split <;> exact fun _ => rfl
    | null | zero | terminal => exact fun _ => rfl

/-! ## Removing -/

/-- A step in a directory that may be changed is alike if it is so itself. -/
lemma alike_ifChanging (dir : Location) {x : Step α} (hx : Alike x x) :
    Alike (do
      Act.ofExcept (((← Act.read).tree.change dir).mapError .os)
      x : Step α) (do
      Act.ofExcept (((← Act.read).tree.change dir).mapError .os)
      x) := by
  refine alike_read fun d d' h => ?_
  rw [same_of_outline (fun d => d.tree.change dir) (fun d => d.tree.change_outline dir) h]
  exact (alike_ofExcept _).bind fun _ => hx

lemma alike_unlink (p : Path) : Alike (unlink p) (unlink p) := by
  refine (alike_slotOf p).bind fun r => ?_
  rcases r with ⟨dir, ⟨name, slash⟩ | _ | _ | _⟩
  · dsimp only
    split
    · exact alike_fail _
    refine alike_read fun d d' h => ?_
    have hremove : Alike
        (if slash = true then Act.fail (.os .notDirectory) else do
          Act.ofExcept (((← Act.read).tree.change dir).mapError .os)
          erase (dir ++ [name]) : Step Unit)
        (if slash = true then Act.fail (.os .notDirectory) else do
          Act.ofExcept (((← Act.read).tree.change dir).mapError .os)
          erase (dir ++ [name])) := by
      split
      · exact alike_fail _
      · exact alike_ifChanging dir (alike_erase _)
    rcases get?_of_outline h (dir ++ [name]) with hget | ⟨held, held', mode, hget, hget'⟩
    · rw [hget]
      rcases d'.tree.get? (dir ++ [name]) with _ | mode | _ | _ | _
      · exact alike_fail _
      · dsimp only
        split
        · exact alike_ifChanging dir (alike_fail _)
        · exact alike_fail _
      all_goals exact hremove
    · rw [hget, hget']
      exact hremove
  all_goals exact alike_fail _

lemma alike_removeDir (p : Path) : Alike (removeDir p) (removeDir p) := by
  refine (alike_slotOf p).bind fun r => ?_
  rcases r with ⟨dir, ⟨name, slash⟩ | _ | _ | _⟩
  · dsimp only
    split
    · exact alike_fail _
    refine alike_read fun d d' h => ?_
    rcases get?_of_outline h (dir ++ [name]) with hget | ⟨held, held', mode, hget, hget'⟩
    · rw [hget]
      rcases d'.tree.get? (dir ++ [name]) with _ | mode | _ | _ | _
      · exact alike_fail _
      · refine alike_ifChanging dir (alike_read fun d d' h => ?_)
        rw [same_of_outline (fun d => (d.tree.below (dir ++ [name])).isEmpty)
          (fun d => by simp [Disk.outline, Tree.below_outline]) h]
        split
        · exact (alike_erase _).bind fun _ => alike_settled
        · exact alike_fail _
      all_goals exact alike_ifChanging dir (alike_fail _)
    · rw [hget, hget']
      exact alike_ifChanging dir (alike_fail _)
  all_goals exact alike_fail _

/-- A directory is removed alike, also if it is no failure that it is gone already. -/
lemma alike_removeLeft (p : Path) {f : Except IoError Unit → Step Unit}
    (hremoved : f (.ok ()) = pure ())
    (hleft : ∀ e, f (.error e) = if e.isNotFound then pure () else Act.fail e) :
    Alike ((removeDir p).attempt >>= f) ((removeDir p).attempt >>= f) := by
  refine (alike_removeDir p).attempt.bind fun r => ?_
  rcases r with e | _
  · rw [hleft]
    split
    · exact alike_pure _
    · exact alike_fail _
  · rw [hremoved]
    exact alike_pure _

/-- **Directories are removed alike.** -/
theorem alike_removeAll (p : Path) : Alike (removeAll p) (removeAll p) := by
  refine alike_read fun d d' h => ?_
  rcases lstat_of_outline h p with hstat | ⟨loc, held, held', mode, hstat, hstat'⟩
  · rw [hstat]
    rcases d'.lstat p with e | ⟨loc, mode | ⟨held, mode⟩ | target | kind⟩
    · exact alike_fail _
    · refine alike_read fun d d' h => ?_
      rw [same_of_outline (fun d => d.tree.lockedFrom loc)
        (fun d => d.tree.lockedFrom_outline loc) h]
      refine (alike_update fun d d' h => ?_).bind fun _ => ?_
      · have hclear (d : Disk) : ({ d with tree := d.tree.clear loc } : Disk).outline =
            { d.outline with tree := d.outline.tree.clear loc } := by
          show ({ d with tree := (d.tree.clear loc).outline } : Disk) = _
          rw [Tree.outline_clear]
          rfl
        rw [settled_outline, settled_outline, hclear, hclear, h]
      dsimp only
      split
      · exact (alike_fail _).bind fun _ => alike_removeLeft p rfl fun _ => rfl
      · exact alike_removeLeft p rfl fun _ => rfl
    · exact alike_fail _
    · exact alike_unlink p
    · exact alike_fail _
  · rw [hstat, hstat']
    exact alike_fail _

end Disk

end AslBuild.FileSystem
