import AslBuild.FileSystem.Operations
import Mathlib.Tactic.Lemma
set_option autoImplicit false

/-!
# Making directories only adds directories

A directory may be made together with those above it, and that may fail half way. Whatever comes of
it, nothing that was there is lost or changed, and all that is new is directories.

## Main definitions

* `AslBuild.FileSystem.Tree.Grows` — a tree becomes one with more directories.
* `AslBuild.FileSystem.Disk.Grows` — the same for the view of a process, which is otherwise as it
  was.
* `AslBuild.FileSystem.Disk.Always` — what holds of the files before and after a step.

## Main results

* `AslBuild.FileSystem.Disk.run_makeDirWith` — making one directory fails and changes nothing, or
  adds a directory at a free location.
* `AslBuild.FileSystem.Disk.always_makeDirsUpTo` — what holds before and after one directory is
  made holds when one is made with those above it.
* `AslBuild.FileSystem.Disk.grows_makeDirs`, `AslBuild.FileSystem.Disk.grows_makeTemp` — making
  directories only adds directories.
-/

namespace AslBuild.FileSystem

/-! ## Growth -/

/-- A tree becomes one with more directories, and is otherwise as it was. -/
structure Tree.Grows (t t' : Tree) : Prop where
  /-- What was there is there. -/
  kept : ∀ loc e, t.get? loc = some e → t'.get? loc = some e
  /-- What is new is a directory. -/
  made : ∀ loc, t.get? loc = none → t'.get? loc = none ∨ ∃ mode, t'.get? loc = some (.dir mode)

/-- The same view of a tree with more directories. -/
structure Disk.Grows (d d' : Disk) : Prop where
  /-- The tree has more directories. -/
  tree : d.tree.Grows d'.tree
  /-- All else is as it was. -/
  view : d' = { d with tree := d'.tree }

lemma Tree.Grows.refl (t : Tree) : t.Grows t := ⟨fun _ _ h => h, fun _ h => Or.inl h⟩

lemma Tree.Grows.trans {t t' t'' : Tree} (h : t.Grows t') (h' : t'.Grows t'') : t.Grows t'' := by
  refine ⟨fun loc e he => h'.kept loc e (h.kept loc e he), fun loc hnone => ?_⟩
  rcases h.made loc hnone with hnone' | ⟨mode, hdir⟩
  · exact h'.made loc hnone'
  · exact Or.inr ⟨mode, h'.kept loc _ hdir⟩

lemma Disk.Grows.refl (d : Disk) : d.Grows d := ⟨Tree.Grows.refl _, rfl⟩

lemma Disk.Grows.trans {d d' d'' : Disk} (h : d.Grows d') (h' : d'.Grows d'') : d.Grows d'' := by
  refine ⟨h.tree.trans h'.tree, ?_⟩
  rw [h'.view, h.view]

/-- A change of stamps changes no entry. -/
@[simp] lemma Tree.get?_stamp (t : Tree) (loc : Location) (time : Int) (other : Location) :
    (t.stamp loc time).get? other = t.get? other := rfl

/-- A directory at a location that is free makes the tree grow. -/
lemma Tree.grows_insert {t : Tree} {loc : Location} (h : t.get? loc = none) (mode : Nat) :
    t.Grows (t.insert loc (.dir mode)) := by
  have hfixed : isFixed loc = false := by
    cases hf : isFixed loc with
    | false => rfl
    | true => rw [t.get?_of_fixed hf] at h; exact absurd h (by simp)
  refine ⟨fun other e he => ?_, fun other hnone => ?_⟩
  · rw [t.get?_insert _ hfixed]
    split
    · next heq => rw [heq, h] at he; exact absurd he (by simp)
    · exact he
  · rw [t.get?_insert _ hfixed]
    split
    · exact Or.inr ⟨mode, rfl⟩
    · exact Or.inl hnone

namespace Disk

/-! ## Making directories -/

/-- Making an entry fails and changes nothing, or puts the entry where it is asked for. -/
lemma run_create (loc : Location) (e : Entry) (d : Disk) :
    (∃ error, (create loc e).run d = (.error error, d)) ∨
      ∃ time, (create loc e).run d =
        (.ok (), { d with tree := (d.tree.insert loc e).stamp loc.dropLast time }) := by
  unfold create
  dsimp only
  split
  · exact Or.inl ⟨_, rfl⟩
  · cases hchange : d.tree.change loc.dropLast with
    | error errno =>
      refine Or.inl ⟨.os errno, ?_⟩
      rw [Act.bind_ok (Act.run_read d), Act.bind_error (e := .os errno)]
      rw [Act.run_ofExcept, hchange]
      rfl
    | ok _ =>
      refine Or.inr ⟨d.tree.clock, ?_⟩
      rw [Act.bind_ok (Act.run_read d), Act.bind_ok (a := ()) (t := d)]
      · rfl
      · rw [Act.run_ofExcept, hchange]
        rfl

/-- **Making a directory** fails and changes nothing, or adds a directory at the location that the
path names, which was free. -/
theorem run_makeDirWith (mode : Nat) (p : Path) (d : Disk) :
    (∃ error, (makeDirWith mode p).run d = (.error error, d)) ∨
      ∃ dir text slash mode' time, d.slot p = .ok (dir, .name text slash) ∧
        text.utf8ByteSize ≤ maxName ∧ d.tree.get? (dir ++ [text]) = none ∧
        (makeDirWith mode p).run d = (.ok (),
          { d with tree := (d.tree.insert (dir ++ [text]) (.dir mode')).stamp dir time }) := by
  unfold makeDirWith
  cases hslot : d.slot p with
  | error error =>
    refine Or.inl ⟨error, Act.bind_error ?_⟩
    rw [slotOf, Act.bind_ok (Act.run_read d), Act.run_ofExcept, hslot]
  | ok r =>
    have hrun : (slotOf p).run d = (.ok r, d) := by
      rw [slotOf, Act.bind_ok (Act.run_read d), Act.run_ofExcept, hslot]
    rw [Act.bind_ok hrun]
    obtain ⟨dir, last⟩ := r
    cases last with
    | name text slash =>
      dsimp only
      split
      · exact Or.inl ⟨_, rfl⟩
      · next hlong =>
        rw [Act.bind_ok (Act.run_read d)]
        split
        · exact Or.inl ⟨_, rfl⟩
        · next hfree =>
          rw [Act.bind_ok (Act.run_read d)]
          have hnone : d.tree.get? (dir ++ [text]) = none := by simpa using hfree
          rcases run_create (dir ++ [text]) _ d with herror | ⟨time, hok⟩
          · exact Or.inl herror
          · rw [List.dropLast_concat] at hok
            exact Or.inr ⟨dir, text, slash, _, time, rfl, Nat.not_lt.1 hlong, hnone, hok⟩
    | here | up | root => exact Or.inl ⟨_, rfl⟩

/-- Making one directory makes the files grow. -/
lemma grows_makeDirWith (mode : Nat) (p : Path) (d : Disk) :
    d.Grows ((makeDirWith mode p).run d).2 := by
  rcases run_makeDirWith mode p d with ⟨error, h⟩ | ⟨dir, text, slash, mode', time, -, -, hnone, h⟩
  · rw [h]
    exact Grows.refl d
  · rw [h]
    have hinsert := Tree.grows_insert hnone mode'
    exact ⟨⟨hinsert.kept, hinsert.made⟩, rfl⟩

/-! ## What holds before and after steps -/

/-- A step after which the files are as `R` says, whatever came of it. -/
def Always {α : Type} (R : Disk → Disk → Prop) (x : Step α) : Prop := ∀ d : Disk, R d (x.run d).2

section

variable {α β : Type} {R : Disk → Disk → Prop} (hrefl : ∀ d, R d d)
  (htrans : ∀ d d' d'', R d d' → R d' d'' → R d d'')

include hrefl in
lemma always_pure (a : α) : Always R (pure a : Step α) := hrefl

include hrefl in
lemma always_fail (e : IoError) : Always R (Act.fail e : Step α) := hrefl

include hrefl in
lemma always_read : Always R (Act.read : Step Disk) := hrefl

include htrans in
/-- A sequence is as its parts are. -/
lemma Always.bind {x : Step α} {f : α → Step β} (hx : Always R x) (hf : ∀ a, Always R (f a)) :
    Always R (x >>= f) := by
  intro d
  have hfirst := hx d
  rcases h : x.run d with ⟨e | a, d'⟩
  · rw [Act.bind_error h]
    rwa [h] at hfirst
  · rw [Act.bind_ok h]
    rw [h] at hfirst
    exact htrans _ _ _ hfirst (hf a d')

lemma Always.attempt {x : Step α} (hx : Always R x) : Always R x.attempt := hx

include hrefl htrans

/-- A directory that is made unless it is there is as one that is made. -/
lemma always_ensureDir {p : Path} (hmake : Always R (makeDirWith dirMode p)) :
    Always R (ensureDir p) := by
  refine Always.bind htrans hmake.attempt fun outcome => ?_
  cases outcome with
  | ok _ => exact always_pure hrefl ()
  | error e =>
    refine Always.bind htrans (always_read hrefl) fun d => ?_
    split
    · exact always_pure hrefl ()
    · exact always_fail hrefl e

/-- **A directory and those above it** are as single directories that are made, if these are of a
kind that has the parents of its paths. By induction on how many there may be. -/
theorem always_makeDirsUpTo {S : Path → Prop} (hparent : ∀ p q, S p → p.parent? = some q → S q)
    (hmake : ∀ q, S q → Always R (makeDirWith dirMode q)) (depth : Nat) {p : Path} (hp : S p) :
    Always R (makeDirsUpTo depth p) := by
  induction depth generalizing p with
  | zero => exact always_ensureDir hrefl htrans (hmake p hp)
  | succ depth ih =>
    unfold makeDirsUpTo
    split
    · exact always_pure hrefl ()
    refine Always.bind htrans (hmake p hp).attempt fun outcome => ?_
    cases outcome with
    | ok _ => exact always_pure hrefl ()
    | error e =>
      dsimp only
      split
      · cases hq : p.parent? with
        | none => exact always_fail hrefl e
        | some parent =>
          exact Always.bind htrans (ih (hparent p parent hp hq)) fun _ =>
            always_ensureDir hrefl htrans (hmake p hp)
      · refine Always.bind htrans (always_read hrefl) fun d => ?_
        split
        · exact always_pure hrefl ()
        · exact always_fail hrefl e

end

/-- **A directory that is made with those above it only adds directories**, whether all of them can
be made or not. -/
theorem grows_makeDirs (p : Path) (d : Disk) : d.Grows ((makeDirs p).run d).2 :=
  always_makeDirsUpTo (S := fun _ => True) Grows.refl (fun _ _ _ => Grows.trans)
    (fun _ _ _ _ => trivial) (fun q _ => grows_makeDirWith dirMode q) _ trivial d

/-- A temporary directory is made at a fresh path. -/
theorem run_makeTemp (stem : String) (d : Disk) :
    let p := d.freshPath stem
    let made := (makeDirWith ownMode p).run d
    (makeTemp stem).run d = ((made.1.mapError (.atPath · p)).map fun _ => p, made.2) := by
  rw [makeTemp, Act.bind_ok (Act.run_read d)]
  dsimp only
  rw [Act.bind_ok (Act.run_attempt _ d)]
  rcases (makeDirWith ownMode (d.freshPath stem)).run d with ⟨e | _, d'⟩ <;> rfl

/-- **A temporary directory only adds a directory.** -/
theorem grows_makeTemp (stem : String) (d : Disk) : d.Grows ((makeTemp stem).run d).2 := by
  rw [run_makeTemp]
  exact grows_makeDirWith ownMode _ d

end Disk

end AslBuild.FileSystem
