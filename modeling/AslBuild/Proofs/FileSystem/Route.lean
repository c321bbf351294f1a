import AslBuild.Act
import AslBuild.FileSystem.Resolve
import AslBuild.Proofs.Path.Components
set_option autoImplicit false

/-!
# Where paths lead without links

The names in a path are taken one after the other, each from the location that the ones before it
lead to. If no name is that of a symbolic link, these locations can be told from the path alone:
a dot stays, two dots go up, and every other name goes down. The files only say whether the walk
gets through.

## Main definitions

* `AslBuild.Path.names` — the names in a path, dots included.
* `AslBuild.FileSystem.follow`, `AslBuild.FileSystem.route` — where names lead, and all locations
  on the way.
* `AslBuild.FileSystem.Disk.landing`, `AslBuild.FileSystem.Disk.route` — the same for a path.
* `AslBuild.FileSystem.Tree.LinkFree` — there are no symbolic links.
* `AslBuild.FileSystem.Tree.pass` — one step of a walk, in such a tree.
* `AslBuild.FileSystem.Disk.Holds` — a path leads to a directory.

## Main results

* `AslBuild.FileSystem.names_join`, `AslBuild.FileSystem.names_parent_isPrefix` — the names of an
  entry of a directory, and those of a parent.
* `AslBuild.FileSystem.Tree.walk_eq` — a walk takes its steps one after the other.
* `AslBuild.FileSystem.Tree.Keeps.passes`, `AslBuild.FileSystem.Tree.passes_congr` — what a walk
  depends on.
-/

namespace AslBuild

/-- The names in a path, dots included. -/
def Path.names (p : Path) : List String := FileSystem.namesOf p.text.toList

namespace FileSystem

/-! ## Names -/

/-- A slash between two texts keeps their names apart. -/
lemma namesOf_append_slash (cs ds : List Char) :
    namesOf (cs ++ '/' :: ds) = namesOf cs ++ namesOf ds := by
  simp only [namesOf, Path.pieces_append_slash, List.filter_append, List.map_append]

/-- A name alone is one name. -/
lemma namesOf_fileName {n : String} (h : Path.IsFileName n) : namesOf n.toList = [n] := by
  obtain ⟨hempty, -, -, hslash⟩ := h
  have hpieces : Text.pieces (· == '/') n.toList = [n.toList] :=
    Text.pieces_of_forall fun c hc => beq_false_of_ne fun heq => hslash (heq ▸ hc)
  have hne : n.toList.isEmpty = false := by simpa using hempty
  rw [namesOf, hpieces, List.filter_cons_of_pos (by simp [hne])]
  simp

/-- No name is empty. -/
lemma ne_empty_of_mem_namesOf {cs : List Char} {n : String} (h : n ∈ namesOf cs) : n ≠ "" := by
  obtain ⟨piece, hpiece, rfl⟩ := List.mem_map.1 h
  have hne : piece.isEmpty = false := by simpa using (List.mem_filter.1 hpiece).2
  intro hempty
  have hnil : piece = [] := by simpa using congrArg String.toList hempty
  rw [hnil] at hne
  exact absurd hne (by simp)

/-- The names that a lead adds to those behind it. -/
def leadNames : Path.Lead → List String
  | .here => ["."]
  | _ => []

/-- The names of a text are those of its lead, followed by those of its body. -/
lemma namesOf_splitLead (cs : List Char) :
    namesOf cs = leadNames (Path.splitLead cs).1 ++ namesOf (Path.splitLead cs).2 := by
  rcases Path.splitLead_cases cs with ⟨body, rfl⟩ | rfl | ⟨body, rfl⟩ | hplain
  · exact namesOf_append_slash [] body
  · rfl
  · have hbody : namesOf ('/' :: body) = namesOf body := namesOf_append_slash [] body
    show _ = ["."] ++ namesOf ('/' :: body)
    rw [hbody]
    exact namesOf_append_slash ['.'] body
  · rw [hplain]
    rfl

/-- A text starts at the root if that is its lead. -/
lemma startOf_eq (base : Location) (cs : List Char) :
    startOf base cs = if (Path.splitLead cs).1 = .root then [] else base := by
  rcases Path.splitLead_cases cs with ⟨body, rfl⟩ | rfl | ⟨body, rfl⟩ | hplain
  · rfl
  · rfl
  · rfl
  · have hhead : cs.head? ≠ some '/' := by
      intro hroot
      cases cs with
      | nil => exact absurd hroot (by simp)
      | cons c cs =>
        obtain rfl : c = '/' := Option.some.inj hroot
        exact absurd (congrArg Prod.fst hplain) (by simp [Path.splitLead])
    rw [hplain, startOf, if_neg (by simpa using hhead), if_neg (by simp)]

/-- **The names of an entry of a directory** are those of the directory and its own. -/
theorem names_join {p : Path} {n : String} (hp : p.text ≠ "") (h : Path.IsFileName n) :
    (p.join ⟨n⟩).names = p.names ++ [n] := by
  have hn := namesOf_fileName h
  have hnil : namesOf [] = [] := rfl
  unfold Path.names
  rcases Path.text_join (p := p) (Path.isAbsolute_fileName h) with
    ⟨htext, hempty | ⟨front, hfront⟩⟩ | htext
  · exact absurd hempty hp
  · rw [htext, String.toList_append, hfront, List.append_assoc, List.singleton_append,
      namesOf_append_slash, namesOf_append_slash, hnil, hn, List.append_nil]
  · rw [htext, String.toList_append, String.toList_append, List.append_assoc, ← hn]
    exact namesOf_append_slash _ _

/-- An entry of a directory starts where the directory does. -/
lemma startOf_join {p : Path} {n : String} (hp : p.text ≠ "") (h : Path.IsFileName n)
    (base : Location) :
    startOf base (p.join ⟨n⟩).text.toList = startOf base p.text.toList := by
  have hlead : (Path.splitLead (p.join ⟨n⟩).text.toList).1 = (Path.splitLead p.text.toList).1 :=
    Path.lead_join (Path.isAbsolute_fileName h) hp
  rw [startOf_eq, startOf_eq, hlead]

/-- **The names of a parent** are the first ones of the path, and it starts where the path does. -/
theorem names_parent_isPrefix {p q : Path} (h : p.parent? = some q) :
    q.names <+: p.names ∧
      ∀ base, startOf base q.text.toList = startOf base p.text.toList := by
  unfold Path.parent? at h
  split at h
  · next hnone =>
    split at h
    · next hhere =>
      obtain rfl : (⟨""⟩ : Path) = q := Option.some.inj h
      refine ⟨List.nil_prefix, fun base => ?_⟩
      rw [startOf_eq base p.text.toList, ← Path.lead, hhere]
      rfl
    · exact absurd h (by simp)
  · next hne =>
    obtain rfl := Option.some.inj h
    let qs := Path.dropFillers p.pieces.dropLast
    have hfirst : qs <+: Text.pieces (· == '/') (Path.splitLead p.text.toList).2 :=
      (Path.dropFillers_isPrefix _).trans <|
        (List.dropLast_prefix p.pieces).trans (Path.dropFillers_isPrefix _)
    have hsplit : Path.splitLead (p.lead.chars ++ Path.joinPieces qs) =
        (p.lead, Path.joinPieces qs) :=
      Path.splitLead_joinPieces hfirst fun _ h => Path.isFiller_getLast_dropFillers h
    have hnames : namesOf (Path.joinPieces qs) =
        (qs.filter fun q => !q.isEmpty).map String.ofList := by
      by_cases hqs : qs = []
      · rw [hqs]
        rfl
      · rw [namesOf, Path.pieces_joinPieces hqs hfirst]
    constructor
    · rw [Path.names, Path.names, String.toList_ofList, namesOf_splitLead, hsplit,
        namesOf_splitLead p.text.toList, hnames]
      exact (List.prefix_append_right_inj _).2 ((hfirst.filter _).map _)
    · intro base
      rw [startOf_eq, String.toList_ofList, hsplit, startOf_eq]
      rfl

/-! ## Where names lead -/

/-- One step from a location, where no name is that of a link. -/
def stepFrom (loc : Location) (name : String) : Location :=
  if name = "." then loc else if name = ".." then loc.dropLast else loc ++ [name]

/-- Where names lead from a location. -/
def follow (loc : Location) (names : List String) : Location := names.foldl stepFrom loc

/-- The locations that names lead through, from the first to the last one. -/
def route : Location → List String → List Location
  | loc, [] => [loc]
  | loc, name :: names => loc :: route (stepFrom loc name) names

@[simp] lemma follow_append (loc : Location) (names names' : List String) :
    follow loc (names ++ names') = follow (follow loc names) names' := List.foldl_append

@[simp] lemma stepFrom_dot (loc : Location) : stepFrom loc "." = loc := if_pos rfl

/-- A name other than dots leads down. -/
lemma stepFrom_of_name {name : String} (hhere : name ≠ ".") (hup : name ≠ "..") (loc : Location) :
    stepFrom loc name = loc ++ [name] := by
  rw [stepFrom, if_neg hhere, if_neg hup]

/-- **The locations on a route** are those that the first names lead to. -/
theorem mem_route_iff {loc x : Location} {names : List String} :
    x ∈ route loc names ↔ ∃ front, front <+: names ∧ x = follow loc front := by
  induction names generalizing loc with
  | nil =>
    constructor
    · intro h
      exact ⟨[], List.nil_prefix, List.mem_singleton.1 h⟩
    · rintro ⟨front, hfront, rfl⟩
      rw [List.prefix_nil.1 hfront]
      exact List.mem_singleton_self _
  | cons name names ih =>
    rw [route, List.mem_cons, ih]
    constructor
    · rintro (rfl | ⟨front, hfront, rfl⟩)
      · exact ⟨[], List.nil_prefix, rfl⟩
      · exact ⟨name :: front, List.cons_prefix_cons.2 ⟨rfl, hfront⟩, rfl⟩
    · rintro ⟨front, hfront, rfl⟩
      cases front with
      | nil => exact Or.inl rfl
      | cons name' front =>
        obtain ⟨rfl, hrest⟩ := List.cons_prefix_cons.1 hfront
        exact Or.inr ⟨front, hrest, rfl⟩

/-- The last location is on the route. -/
lemma follow_mem_route (loc : Location) (names : List String) :
    follow loc names ∈ route loc names :=
  mem_route_iff.2 ⟨names, List.prefix_rfl, rfl⟩

/-- The first names have a part of the route. -/
lemma route_subset {names names' : List String} (h : names' <+: names) (loc : Location) :
    route loc names' ⊆ route loc names := by
  intro x hx
  obtain ⟨front, hfront, rfl⟩ := mem_route_iff.1 hx
  exact mem_route_iff.2 ⟨front, hfront.trans h, rfl⟩

/-! ## Walking without links -/

namespace Tree

/-- There are no symbolic links. -/
def LinkFree (t : Tree) : Prop := ∀ loc target, t.get? loc ≠ some (.link target)

/-- One step of a walk in a tree without links. -/
def pass (t : Tree) (loc : Location) (name : String) : Except Errno Location := do
  t.enter loc
  if name = "." then .ok loc
  else if name = ".." then .ok loc.dropLast
  else if maxName < name.utf8ByteSize then .error .nameTooLong
  else if (t.get? (loc ++ [name])).isSome then .ok (loc ++ [name])
  else .error .noEntry

/-- A walk in a tree without links. -/
def passes (t : Tree) (loc : Location) (names : List String) : Except Errno Location :=
  names.foldlM t.pass loc

/-- In a tree without links a walk takes one step and goes on from there. -/
lemma descend_cons {t : Tree} (h : t.LinkFree)
    (f : Location → List String → Except Errno (Location × Nat)) (links : Nat) (loc : Location)
    (name : String) (names : List String) :
    t.descend f links loc (name :: names) =
      t.pass loc name >>= fun next => t.descend f links next names := by
  rw [descend, pass, enter]
  cases t.get? loc with
  | none => rfl
  | some e =>
    cases e with
    | file _ _ | link _ | device _ => rfl
    | dir mode =>
      cases henter : mayEnter mode with
      | false =>
        simp only [henter]
        rfl
      | true =>
        simp only [henter]
        by_cases hhere : name = "."
        · simp only [if_pos hhere]
          rfl
        by_cases hup : name = ".."
        · simp only [if_neg hhere, if_pos hup]
          rfl
        by_cases hlong : maxName < name.utf8ByteSize
        · simp only [if_neg hhere, if_neg hup, if_pos hlong]
          rfl
        simp only [if_neg hhere, if_neg hup, if_neg hlong]
        cases hnext : t.get? (loc ++ [name]) with
        | none => rfl
        | some e =>
          cases e with
          | link target => exact absurd hnext (h _ target)
          | file _ _ | dir _ | device _ => rfl

/-- **A walk in a tree without links** takes its steps one after the other, and no link is used
up. -/
theorem walk_eq {t : Tree} (h : t.LinkFree) (links : Nat) (loc : Location) (names : List String) :
    t.walk links loc names = (t.passes loc names).map (·, links) := by
  have hdescend (f : Location → List String → Except Errno (Location × Nat)) (links : Nat) :
      t.descend f links loc names = (t.passes loc names).map (·, links) := by
    induction names generalizing loc with
    | nil => rfl
    | cons name names ih =>
      rw [descend_cons h, passes, List.foldlM_cons]
      cases t.pass loc name with
      | error e => rfl
      | ok next => exact ih next
  cases links with
  | zero => exact hdescend _ 0
  | succ links => exact hdescend _ (links + 1)

variable {t t' : Tree} {loc x : Location} {name : String} {names names' : List String}

/-- What may be entered are directories that let everybody through. -/
lemma enter_eq_ok_iff :
    t.enter loc = .ok () ↔ ∃ mode, t.get? loc = some (.dir mode) ∧ mayEnter mode = true := by
  unfold enter
  cases t.get? loc with
  | none => simp
  | some e => cases e <;> simp

/-- A step gets through if it starts in a directory that may be entered, and its name is that of an
entry there. -/
lemma pass_eq_ok_iff :
    t.pass loc name = .ok x ↔ t.enter loc = .ok () ∧ x = stepFrom loc name ∧
      (name ≠ "." → name ≠ ".." →
        name.utf8ByteSize ≤ maxName ∧ (t.get? (loc ++ [name])).isSome = true) := by
  unfold pass stepFrom
  cases t.enter loc with
  | error e => simp [bind, Except.bind]
  | ok _ =>
    show (if name = "." then _ else _) = _ ↔ _
    by_cases hhere : name = "."
    · simp [hhere, eq_comm (a := x)]
    by_cases hup : name = ".."
    · simp [hup, eq_comm (a := x)]
    by_cases hlong : maxName < name.utf8ByteSize
    · simp [hhere, hup, hlong, Nat.not_le.2 hlong]
    cases hnext : t.get? (loc ++ [name]) with
    | none => simp [hhere, hup, hlong]
    | some e => simp [hhere, hup, hlong, Nat.not_lt.1 hlong, eq_comm (a := x)]

@[simp] lemma passes_nil : t.passes loc [] = .ok loc := rfl

lemma passes_cons : t.passes loc (name :: names) = t.pass loc name >>= (t.passes · names) := rfl

lemma passes_append :
    t.passes loc (names ++ names') = t.passes loc names >>= (t.passes · names') :=
  List.foldlM_append

/-- A walk that gets through a first step and more ends where the rest of it does. -/
lemma passes_cons_eq_ok_iff :
    t.passes loc (name :: names) = .ok x ↔
      (∃ y, t.pass loc name = .ok y) ∧ t.passes (stepFrom loc name) names = .ok x := by
  rw [passes_cons]
  cases hpass : t.pass loc name with
  | error e => simp [bind, Except.bind]
  | ok y =>
    obtain rfl := (pass_eq_ok_iff.1 hpass).2.1
    simp [bind, Except.bind]

/-- **A walk that gets through** ends where the names lead. -/
theorem eq_follow_of_passes (h : t.passes loc names = .ok x) : x = follow loc names := by
  induction names generalizing loc with
  | nil => exact (Except.ok.inj h).symm
  | cons name names ih => exact ih (passes_cons_eq_ok_iff.1 h).2

/-- Something is at every location on the way of a walk that gets through to something. -/
lemma isSome_of_passes (h : t.passes loc names = .ok x) (hx : (t.get? x).isSome = true) :
    ∀ y ∈ route loc names, (t.get? y).isSome = true := by
  induction names generalizing loc with
  | nil =>
    intro y hy
    rw [List.mem_singleton.1 hy, Except.ok.inj h]
    exact hx
  | cons name names ih =>
    intro y hy
    obtain ⟨⟨z, hpass⟩, hrest⟩ := passes_cons_eq_ok_iff.1 h
    rcases List.mem_cons.1 hy with rfl | hy
    · obtain ⟨mode, hdir, -⟩ := enter_eq_ok_iff.1 (pass_eq_ok_iff.1 hpass).1
      rw [hdir]
      rfl
    · exact ih hrest y hy

/-- A tree becomes one in which the same directories are, and something is wherever something
was. -/
structure Keeps (t t' : Tree) : Prop where
  /-- The directories are there. -/
  dirs : ∀ loc mode, t.get? loc = some (.dir mode) → t'.get? loc = some (.dir mode)
  /-- Something is wherever something was. -/
  entries : ∀ loc, (t.get? loc).isSome = true → (t'.get? loc).isSome = true

/-- What may be entered may still be entered. -/
lemma Keeps.enter (h : t.Keeps t') (henter : t.enter loc = .ok ()) : t'.enter loc = .ok () := by
  obtain ⟨mode, hdir, hmode⟩ := enter_eq_ok_iff.1 henter
  exact enter_eq_ok_iff.2 ⟨mode, h.dirs loc mode hdir, hmode⟩

/-- **A walk that gets through still does** if all that was there is there. -/
theorem Keeps.passes (h : t.Keeps t') (hpasses : t.passes loc names = .ok x) :
    t'.passes loc names = .ok x := by
  induction names generalizing loc with
  | nil => exact hpasses
  | cons name names ih =>
    obtain ⟨⟨y, hpass⟩, hrest⟩ := passes_cons_eq_ok_iff.1 hpasses
    obtain ⟨henter, hy, hname⟩ := pass_eq_ok_iff.1 hpass
    refine passes_cons_eq_ok_iff.2 ⟨⟨y, pass_eq_ok_iff.2 ⟨h.enter henter, hy, ?_⟩⟩, ih hrest⟩
    intro hhere hup
    obtain ⟨hlong, hsome⟩ := hname hhere hup
    exact ⟨hlong, h.entries _ hsome⟩

/-- **A walk depends only on what is at the locations on its way.** -/
theorem passes_congr (h : ∀ y ∈ route loc names, t.get? y = t'.get? y) :
    t.passes loc names = t'.passes loc names := by
  induction names generalizing loc with
  | nil => rfl
  | cons name names ih =>
    have hloc : t.get? loc = t'.get? loc := h loc List.mem_cons_self
    have hrest : t.passes (stepFrom loc name) names = t'.passes (stepFrom loc name) names :=
      ih fun y hy => h y (List.mem_cons_of_mem _ hy)
    have hnext : name ≠ "." → name ≠ ".." → t.get? (loc ++ [name]) = t'.get? (loc ++ [name]) := by
      intro hhere hup
      rw [← stepFrom_of_name hhere hup]
      exact h _ (List.mem_cons_of_mem _ (mem_route_iff.2 ⟨[], List.nil_prefix, rfl⟩))
    have hpass : t.pass loc name = t'.pass loc name := by
      unfold pass enter
      rw [hloc]
      by_cases hhere : name = "."
      · simp [hhere]
      by_cases hup : name = ".."
      · simp [hup]
      · rw [hnext hhere hup]
    rw [passes_cons, passes_cons, hpass]
    cases hp : t'.pass loc name with
    | error e => rfl
    | ok y =>
      obtain rfl := (pass_eq_ok_iff.1 hp).2.1
      exact hrest

/-- A dot asks for a directory that may be entered. -/
lemma passes_dot {mode : Nat} (h : t.get? loc = some (.dir mode)) :
    t.passes loc ["."] = .ok loc ∨ t.passes loc ["."] = .error .accessDenied := by
  have henter : t.passes loc ["."] = t.enter loc >>= fun _ => .ok loc := by
    show (t.pass loc "." >>= fun x => .ok x) = _
    unfold pass
    cases t.enter loc <;> rfl
  rw [henter, enter, h]
  cases hmode : mayEnter mode
  · exact Or.inr (by simp [hmode, bind, Except.bind])
  · exact Or.inl (by simp [hmode, bind, Except.bind])

/-! ## The last step -/

/-- What the last name of a path asks for. -/
def lastOf (name : String) (slash : Bool) : Last :=
  if name = "." then .here else if name = ".." then .up else .name name slash

/-- **The last step of a path with a name**, in a tree without links. -/
theorem slot_eq (h : t.LinkFree) (links : Nat) (base : Location) {text : List Char}
    (htext : namesOf text = names ++ [name]) :
    t.slot links base text = (do
      let dir ← t.passes (startOf base text) names
      t.enter dir
      .ok (dir, lastOf name (endsInSlash text), links)) := by
  have hlast : (namesOf text).getLast? = some name := by rw [htext, List.getLast?_concat]
  have hfront : (namesOf text).dropLast = names := by rw [htext, List.dropLast_concat]
  unfold slot
  simp only [hlast, hfront, walk_eq h]
  cases t.passes (startOf base text) names with
  | error e => rfl
  | ok dir =>
    show (t.enter dir >>= fun _ => _) = (t.enter dir >>= fun _ => _)
    refine congrArg (t.enter dir >>= ·) (funext fun _ => ?_)
    unfold lastOf
    split
    · rfl
    · split <;> rfl

/-- A path without a name ends at the root. -/
lemma slot_of_nil (links : Nat) (base : Location) {text : List Char} (htext : namesOf text = []) :
    t.slot links base text = .ok ([], .root, links) := by
  unfold slot
  simp only [htext]
  rfl

end Tree

/-! ## The view of a process -/

namespace Disk

/-- Where a path starts. -/
def start (d : Disk) (p : Path) : Location := startOf d.cwd p.text.toList

/-- Where a path leads if no name in it is that of a link. -/
def landing (d : Disk) (p : Path) : Location := follow (d.start p) p.names

/-- The locations that a path leads through, if no name in it is that of a link. -/
def route (d : Disk) (p : Path) : List Location := FileSystem.route (d.start p) p.names

/-- A path leads to a directory. -/
structure Holds (d : Disk) (p : Path) : Prop where
  /-- The path may be one. -/
  check : check p = .ok ()
  /-- The walk gets through. -/
  passes : d.tree.passes (d.start p) p.names = .ok (d.landing p)
  /-- A directory is where it ends. -/
  dir : ∃ mode, d.tree.get? (d.landing p) = some (.dir mode)

variable {d : Disk} {p : Path} {dir loc : Location} {e : Entry}

/-- The empty path leads nowhere. -/
lemma Holds.text_ne (hp : d.Holds p) : p.text ≠ "" := by
  intro hempty
  have hcheck := hp.check
  simp [Disk.check, hempty] at hcheck

/-- The steps of a path are its names, and perhaps a dot. -/
lemma steps_cases (p : Path) :
    stepsOf p.text.toList = p.names ∨ stepsOf p.text.toList = p.names ++ ["."] := by
  unfold stepsOf
  split
  · exact Or.inr rfl
  · exact Or.inl rfl

/-- The last step of a path with a name. -/
lemma slot_eq {names : List String} {name : String} (h : d.tree.LinkFree)
    (hcheck : check p = .ok ()) (hnames : p.names = names ++ [name]) :
    d.slot p = (do
      let dir ← d.tree.passes (d.start p) names
      d.tree.enter dir
      .ok (dir, Tree.lastOf name (endsInSlash p.text.toList))).mapError .os := by
  unfold slot
  rw [hcheck, Tree.slot_eq h _ _ hnames, start]
  cases d.tree.passes (startOf d.cwd p.text.toList) names with
  | error e => rfl
  | ok dir =>
    show ((d.tree.enter dir >>= fun _ => _).mapError IoError.os).map _ =
      (d.tree.enter dir >>= fun _ => _).mapError IoError.os
    cases d.tree.enter dir <;> rfl

/-- A path without a name ends at the root. -/
lemma slot_of_nil (hcheck : check p = .ok ()) (hnil : p.names = []) :
    d.slot p = .ok ([], .root) := by
  unfold slot
  rw [hcheck, Tree.slot_of_nil _ _ hnil]
  rfl

/-- **What is known of a path whose last step can be taken.** -/
theorem slot_eq_ok {last : Tree.Last} (h : d.tree.LinkFree) (hslot : d.slot p = .ok (dir, last)) :
    check p = .ok () ∧ (last = .root ∧ p.names = [] ∨ ∃ names name, p.names = names ++ [name] ∧
      d.tree.passes (d.start p) names = .ok dir ∧ d.tree.enter dir = .ok () ∧
      last = Tree.lastOf name (endsInSlash p.text.toList)) := by
  obtain ⟨⟨⟩, hcheck, htree⟩ := bind_eq_ok_iff.1 hslot
  refine ⟨hcheck, ?_⟩
  rcases List.eq_nil_or_concat p.names with hnil | ⟨names, name, hnames⟩
  · rw [Tree.slot_of_nil _ _ hnil] at htree
    exact Or.inl ⟨(congrArg Prod.snd (Except.ok.inj htree)).symm, hnil⟩
  · rw [List.concat_eq_append] at hnames
    rw [slot_eq h hcheck hnames, mapError_eq_ok_iff] at hslot
    obtain ⟨x, hpasses, hslot⟩ := bind_eq_ok_iff.1 hslot
    obtain ⟨⟨⟩, henter, hslot⟩ := bind_eq_ok_iff.1 hslot
    obtain ⟨rfl, rfl⟩ := Prod.mk.inj (Except.ok.inj hslot)
    exact Or.inr ⟨names, name, hnames, hpasses, henter, rfl⟩

/-- What a path leads to, with a walk through its steps. -/
lemma locate_eq (h : d.tree.LinkFree) (hcheck : check p = .ok ()) :
    d.locate p = (d.tree.passes (d.start p) (stepsOf p.text.toList)).mapError .os := by
  unfold locate
  rw [hcheck, Tree.walk_eq h, start]
  cases d.tree.passes (startOf d.cwd p.text.toList) (stepsOf p.text.toList) <;> rfl

/-- What a path leads to is the entry at its location. -/
lemma stat_of_locate (hlocate : d.locate p = .ok loc) (hget : d.tree.get? loc = some e) :
    d.stat p = .ok (loc, e) := by
  unfold stat
  rw [hlocate]
  simp only [bind, Except.bind, hget]

/-- What a path leads to has its location, and is the entry there. -/
lemma locate_of_stat (hstat : d.stat p = .ok (loc, e)) :
    d.locate p = .ok loc ∧ d.tree.get? loc = some e := by
  obtain ⟨x, hlocate, hfound⟩ := bind_eq_ok_iff.1 hstat
  cases hget : d.tree.get? x with
  | none => simp [hget] at hfound
  | some e' =>
    simp only [hget, Except.ok.injEq, Prod.mk.injEq] at hfound
    obtain ⟨rfl, rfl⟩ := hfound
    exact ⟨hlocate, hget⟩

/-- **What a path leads to** lies where its names lead. -/
theorem stat_eq_ok (h : d.tree.LinkFree) (hstat : d.stat p = .ok (loc, e)) :
    check p = .ok () ∧ loc = d.landing p ∧ d.tree.passes (d.start p) p.names = .ok loc ∧
      d.tree.get? loc = some e := by
  obtain ⟨hlocate, hget⟩ := locate_of_stat hstat
  obtain ⟨⟨⟩, hcheck, -⟩ := bind_eq_ok_iff.1 hlocate
  rw [locate_eq h hcheck, mapError_eq_ok_iff] at hlocate
  have hpasses : d.tree.passes (d.start p) p.names = .ok loc := by
    rcases steps_cases p with hsteps | hsteps
    · rwa [hsteps] at hlocate
    · -- a dot at the end stays where the names lead
      rw [hsteps, Tree.passes_append] at hlocate
      obtain ⟨y, hpasses, hdot⟩ := bind_eq_ok_iff.1 hlocate
      have hy := (Tree.passes_cons_eq_ok_iff.1 hdot).2
      rw [stepFrom_dot, Tree.passes_nil] at hy
      rwa [Except.ok.inj hy] at hpasses
  exact ⟨hcheck, Tree.eq_follow_of_passes hpasses, hpasses, hget⟩

/-- A path that leads to a directory holds. -/
lemma holds_of_isDir (h : d.tree.LinkFree) (hdir : d.isDir p = true) : d.Holds p := by
  unfold isDir at hdir
  split at hdir
  · next loc mode hstat =>
    obtain ⟨hcheck, rfl, hpasses, hget⟩ := stat_eq_ok h hstat
    exact ⟨hcheck, hpasses, mode, hget⟩
  · exact absurd hdir Bool.false_ne_true

/-- **A path leads nowhere** if there is nothing at a location that it leads through. -/
theorem present_eq_false (h : d.tree.LinkFree) (hloc : loc ∈ d.route p)
    (hnone : d.tree.get? loc = none) : d.present p = false := by
  unfold present
  cases hstat : d.stat p with
  | error e => rfl
  | ok r =>
    obtain ⟨x, e⟩ := r
    obtain ⟨-, rfl, hpasses, hget⟩ := stat_eq_ok h hstat
    have hsome := Tree.isSome_of_passes hpasses (by rw [hget]; rfl) loc hloc
    rw [hnone] at hsome
    exact absurd hsome (by simp)

/-- What a path leads to that holds: its directory, unless a slash at its end asks for one that may
be entered, and this may not. -/
lemma stat_of_holds (h : d.tree.LinkFree) (hp : d.Holds p) :
    (∃ mode, d.stat p = .ok (d.landing p, .dir mode)) ∨ d.stat p = .error (.os .accessDenied) := by
  obtain ⟨mode, hdir⟩ := hp.dir
  have hwalk : d.tree.passes (d.start p) (stepsOf p.text.toList) = .ok (d.landing p) ∨
      d.tree.passes (d.start p) (stepsOf p.text.toList) = .error .accessDenied := by
    rcases steps_cases p with hsteps | hsteps
    · rw [hsteps]
      exact Or.inl hp.passes
    · rw [hsteps, Tree.passes_append, hp.passes]
      exact Tree.passes_dot hdir
  rcases hwalk with hwalk | hwalk
  · have hlocate : d.locate p = .ok (d.landing p) := by
      rw [locate_eq h hp.check, hwalk]
      rfl
    exact Or.inl ⟨mode, stat_of_locate hlocate hdir⟩
  · refine Or.inr ?_
    rw [stat, locate_eq h hp.check, hwalk]
    rfl

/-- The last step of a path that holds is taken from a directory that may be entered. -/
lemma slot_of_holds {names : List String} {name : String} (h : d.tree.LinkFree) (hp : d.Holds p)
    (hnames : p.names = names ++ [name]) :
    ∃ dir, d.tree.enter dir = .ok () ∧ d.landing p = stepFrom dir name ∧
      (name ≠ "." → name ≠ ".." → name.utf8ByteSize ≤ maxName) ∧
      d.slot p = .ok (dir, Tree.lastOf name (endsInSlash p.text.toList)) := by
  have hpasses := hp.passes
  rw [hnames, Tree.passes_append] at hpasses
  obtain ⟨dir, hfront, hlast⟩ := bind_eq_ok_iff.1 hpasses
  obtain ⟨⟨y, hpass⟩, hy⟩ := Tree.passes_cons_eq_ok_iff.1 hlast
  obtain ⟨henter, -, hname⟩ := Tree.pass_eq_ok_iff.1 hpass
  refine ⟨dir, henter, (Except.ok.inj hy).symm, fun hhere hup => (hname hhere hup).1, ?_⟩
  rw [slot_eq h hp.check hnames, hfront]
  show (d.tree.enter dir >>= fun _ => _).mapError IoError.os = _
  rw [henter]
  rfl

/-- **What a path leads to that holds**, where a link at its end would not be followed. -/
theorem lstat_of_holds (h : d.tree.LinkFree) (hp : d.Holds p) :
    (∃ mode, d.lstat p = .ok (d.landing p, .dir mode)) ∨
      d.lstat p = .error (.os .accessDenied) := by
  have hstat := stat_of_holds h hp
  rcases List.eq_nil_or_concat p.names with hnil | ⟨names, name, hnames⟩
  · unfold lstat
    rw [slot_of_nil hp.check hnil]
    exact hstat
  · rw [List.concat_eq_append] at hnames
    obtain ⟨dir, -, hlanding, hlong, hslot⟩ := slot_of_holds h hp hnames
    unfold lstat
    rw [hslot]
    by_cases hhere : name = "."
    · rw [hhere]
      exact hstat
    by_cases hup : name = ".."
    · rw [hup]
      exact hstat
    rw [Tree.lastOf, if_neg hhere, if_neg hup]
    cases endsInSlash p.text.toList with
    | true => exact hstat
    | false =>
      obtain ⟨mode, hdir⟩ := hp.dir
      rw [hlanding, stepFrom_of_name hhere hup] at hdir ⊢
      refine Or.inl ⟨mode, ?_⟩
      show (if maxName < name.utf8ByteSize then _ else _) = _
      rw [if_neg (Nat.not_lt.2 (hlong hhere hup)), hdir]

end Disk

end FileSystem

end AslBuild
