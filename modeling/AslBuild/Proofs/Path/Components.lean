import AslBuild.Path
import AslBuild.Proofs.Text.Words
import Mathlib.Data.List.TakeWhile
set_option autoImplicit false

/-!
# Paths that are put together and taken apart

What a path means is its list of components, and here it is said what joining two paths and going to
the parent do to that list. A path below another one has the components of both, one after the
other; a parent has all components but the last. So a file with a plain name lies directly in the
directory it is joined to, and a name that is no plain one may lead elsewhere.

The file name of a path is its last component, if that is a name. The stem of a name is what stands
in front of its last dot. If nothing stands there, or if there is no dot, the whole name is its own
stem, so hidden files and files without an extension lose nothing.

## Main definitions

* `AslBuild.Path.Lead.components`, `AslBuild.Path.steps` — the components that a path owes to its
  lead, and all others.
* `AslBuild.Path.IsFileName` — a text that names one entry of a directory.
* `AslBuild.Path.IsStem` — what of a name is its stem.

## Main results

* `AslBuild.Path.components_append_slashes` — slashes at the end of a path count for nothing.
* `AslBuild.Path.components_join` — the components of a relative path below another one.
* `AslBuild.Path.components_join_fileName` — those of an entry of a directory.
* `AslBuild.Path.components_of_parent?` — those of a parent.
* `AslBuild.Path.isFileName_of_components` — plain names, told by what they lead through.
* `AslBuild.Path.fileName?_eq_some_iff` — the file name is the last component.
* `AslBuild.Path.fileStem?_eq_some_iff` — the stem of a path is that of its file name.
-/

namespace AslBuild.Path

/-! ## Lead and steps -/

/-- The components that a path owes to its lead. -/
def Lead.components : Lead → List Component
  | .plain => []
  | .root => [.root]
  | .here => [.here]

/-- The steps that a text leads through: its pieces that name something. -/
def stepsOf (text : List Char) : List Component :=
  ((Text.pieces (· == '/') text).filter fun q => !isFiller q).map componentOf

/-- The components of a path that it does not owe to its lead. -/
def steps (p : Path) : List Component := stepsOf p.text.toList

@[simp] lemma stepsOf_nil : stepsOf [] = [] := rfl

/-- A slash between two texts cuts them apart. -/
lemma pieces_append_slash (cs ds : List Char) :
    Text.pieces (· == '/') (cs ++ '/' :: ds) =
      Text.pieces (· == '/') cs ++ Text.pieces (· == '/') ds := by
  refine Text.pieces_append_sep ?_ cs ds
  rfl

/-- A slash between two texts keeps their steps apart. -/
@[simp] lemma stepsOf_append_slash (cs ds : List Char) :
    stepsOf (cs ++ '/' :: ds) = stepsOf cs ++ stepsOf ds := by
  simp only [stepsOf, pieces_append_slash, List.filter_append, List.map_append]

/-- A slash in front of a text adds no step. -/
@[simp] lemma stepsOf_slash_cons (cs : List Char) : stepsOf ('/' :: cs) = stepsOf cs :=
  stepsOf_append_slash [] cs

/-- Slashes alone lead nowhere. -/
lemma stepsOf_slashes (n : Nat) : stepsOf (List.replicate n '/') = [] := by
  induction n with
  | zero => rfl
  | succ n ih => rw [List.replicate_succ, stepsOf_slash_cons, ih]

/-- Fillers at the end count for nothing. -/
lemma filter_dropFillers (ps : List (List Char)) :
    (dropFillers ps).filter (fun q => !isFiller q) = ps.filter fun q => !isFiller q := by
  have hsplit : ps.reverse.takeWhile isFiller ++ ps.reverse.dropWhile isFiller = ps.reverse :=
    List.takeWhile_append_dropWhile
  have hnone : (ps.reverse.takeWhile isFiller).filter (fun q => !isFiller q) = [] := by
    rw [List.filter_eq_nil_iff]
    intro q hq
    simp [List.all_eq_true.1 List.all_takeWhile q hq]
  have hall := congrArg (fun l => (l.filter fun q => !isFiller q).reverse) hsplit
  simp only [List.filter_append, hnone, List.nil_append, ← List.filter_reverse,
    List.reverse_reverse] at hall
  exact hall

/-- What is left of a text behind its lead has the steps of the text. -/
lemma stepsOf_splitLead (cs : List Char) : stepsOf (splitLead cs).2 = stepsOf cs := by
  unfold splitLead
  split
  · rw [stepsOf_slash_cons]
  · rfl
  · next body => exact (stepsOf_append_slash ['.'] body).symm
  · rfl

/-- **The components of a path** are those of its lead, followed by its steps. -/
theorem components_eq (p : Path) : p.components = p.lead.components ++ p.steps := by
  have hsteps : (p.pieces.filter fun q => !isFiller q).map componentOf = p.steps := by
    rw [steps, ← stepsOf_splitLead, stepsOf, pieces, filter_dropFillers]
  rw [components, hsteps]
  cases p.lead <;> rfl

/-- A path without a lead has no components but its steps. -/
lemma components_of_plain {p : Path} (h : p.lead = .plain) : p.components = p.steps := by
  rw [components_eq, h]
  rfl

/-! ## Joining -/

/-- The text of a relative path below another one. -/
lemma text_join {p child : Path} (h : child.isAbsolute = false) :
    (p.join child).text = p.text ++ child.text ∧
        (p.text = "" ∨ ∃ front, p.text.toList = front ++ ['/']) ∨
      (p.join child).text = p.text ++ "/" ++ child.text := by
  unfold join
  rw [h, if_neg Bool.false_ne_true]
  split
  · next hsep =>
    refine Or.inl ⟨rfl, ?_⟩
    rcases Bool.or_eq_true_iff.1 hsep with hempty | hlast
    · exact Or.inl (by simpa using hempty)
    · exact Or.inr (List.getLast?_eq_some_iff.1 (by simpa using hlast))
  · exact Or.inr rfl

/-- The text of a relative path below another one, told by whether that one ends in a slash. -/
lemma toList_text_join {p child : Path} (h : child.isAbsolute = false) (hp : p.text ≠ "") :
    (p.join child).text.toList =
      if p.text.toList.getLast? = some '/' then p.text.toList ++ child.text.toList
      else p.text.toList ++ '/' :: child.text.toList := by
  have hempty : p.text.isEmpty = false := by simpa using hp
  rw [join, h, if_neg Bool.false_ne_true, hempty, Bool.false_or]
  by_cases hlast : p.text.toList.getLast? = some '/'
  · rw [if_pos (beq_iff_eq.2 hlast), if_pos hlast, String.toList_append]
  · rw [if_neg (by simpa using hlast), if_neg hlast]
    simp

/-- The steps of a relative path below another one are those of both. -/
theorem steps_join {p child : Path} (h : child.isAbsolute = false) :
    (p.join child).steps = p.steps ++ child.steps := by
  unfold steps
  rcases text_join (p := p) h with ⟨htext, hempty | ⟨front, hfront⟩⟩ | htext
  · rw [htext, hempty]
    simp
  · rw [htext, String.toList_append, hfront, List.append_assoc, List.singleton_append,
      stepsOf_append_slash, stepsOf_append_slash, stepsOf_nil, List.append_nil]
  · rw [htext, String.toList_append, String.toList_append, List.append_assoc]
    exact stepsOf_append_slash _ _

/-- Two characters that make no lead. -/
lemma splitLead_of_plain {c d : Char} (hroot : c ≠ '/') (hdot : ¬(c = '.' ∧ d = '/'))
    (cs : List Char) : splitLead (c :: d :: cs) = (.plain, c :: d :: cs) := by
  unfold splitLead
  split <;> simp_all

/-- A lead is told from the first two characters: more text behind a lead leaves it as it is, if it
starts with a slash or follows one. -/
lemma splitLead_append {cs : List Char} (hcs : cs ≠ []) (ds : List Char) :
    (splitLead (cs ++ '/' :: ds)).1 = (splitLead cs).1 := by
  match cs, hcs with
  | [c], _ =>
    by_cases hroot : c = '/'
    · rw [hroot]; rfl
    · by_cases hdot : c = '.'
      · rw [hdot]; rfl
      · simp [splitLead, hroot, hdot]
  | c :: d :: rest, _ =>
    by_cases hroot : c = '/'
    · rw [hroot]; rfl
    · by_cases hdot : c = '.' ∧ d = '/'
      · rw [hdot.1, hdot.2]; rfl
      · rw [splitLead_of_plain hroot hdot, List.cons_append, List.cons_append,
          splitLead_of_plain hroot hdot]

/-- **Slashes at the end of a path** add no component, if something stands in front of them. That
may be a slash, too. -/
theorem components_append_slashes {cs : List Char} (hcs : cs ≠ []) (n : Nat) :
    components ⟨String.ofList (cs ++ List.replicate n '/')⟩ = components ⟨String.ofList cs⟩ := by
  cases n with
  | zero => rw [List.replicate_zero, List.append_nil]
  | succ n =>
    simp only [components_eq, lead, steps, String.toList_ofList, List.replicate_succ]
    rw [splitLead_append hcs, stepsOf_append_slash, stepsOf_slashes, List.append_nil]

/-- A relative path below another one has the lead of that one, if it is not empty. -/
lemma lead_join {p child : Path} (h : child.isAbsolute = false) (hp : p.text ≠ "") :
    (p.join child).lead = p.lead := by
  have hne : p.text.toList ≠ [] := by simpa using hp
  unfold lead
  rcases text_join (p := p) h with ⟨htext, hempty | ⟨front, hfront⟩⟩ | htext
  · exact absurd hempty hp
  · rw [htext, String.toList_append, hfront, List.append_assoc, List.singleton_append]
    cases front with
    | nil => rfl
    | cons c front =>
      rw [splitLead_append (by simp) child.text.toList, splitLead_append (by simp) []]
  · rw [htext, String.toList_append, String.toList_append, List.append_assoc]
    exact congrArg id (splitLead_append hne _)

/-- **The components of a relative path below another one**: those of the other one, followed by its
own steps. -/
theorem components_join {p child : Path} (h : child.isAbsolute = false) (hp : p.text ≠ "") :
    (p.join child).components = p.components ++ child.steps := by
  rw [components_eq, components_eq p, lead_join h hp, steps_join h, List.append_assoc]

/-- A relative path below the empty one is that path. -/
lemma join_of_empty {p child : Path} (hp : p.text = "") : p.join child = child := by
  unfold join
  split
  · rfl
  · rw [hp, if_pos (by simp)]
    simp

/-- A path below another one is not empty if its own text is not. -/
lemma text_join_ne_empty {p child : Path} (h : child.text ≠ "") : (p.join child).text ≠ "" := by
  unfold join
  split
  · exact h
  split
  · exact fun hempty => h (String.append_eq_empty_iff.1 hempty).2
  · exact fun hempty => h (String.append_eq_empty_iff.1 hempty).2

/-- An absolute path has a slash. -/
lemma slash_mem_of_isAbsolute {p : Path} (h : p.isAbsolute = true) : '/' ∈ p.text.toList := by
  unfold isAbsolute lead splitLead at h
  split at h
  · next body hbody =>
    rw [hbody]
    exact List.mem_cons_self
  · exact absurd h Bool.false_ne_true
  · exact absurd h Bool.false_ne_true
  · exact absurd h Bool.false_ne_true

/-- **A path below another one has a slash**, unless the first one is empty and the second one has
none. -/
lemma slash_mem_join {p child : Path} :
    '/' ∈ (p.join child).text.toList ↔ p.text ≠ "" ∨ '/' ∈ child.text.toList := by
  cases habsolute : child.isAbsolute with
  | true =>
    have hslash := slash_mem_of_isAbsolute habsolute
    rw [join, if_pos habsolute]
    exact iff_of_true hslash (Or.inr hslash)
  | false =>
    by_cases hp : p.text = ""
    · rw [join_of_empty hp]
      simp [hp]
    refine iff_of_true ?_ (Or.inl hp)
    rcases text_join (p := p) habsolute with ⟨htext, hempty | ⟨front, hfront⟩⟩ | htext
    · exact absurd hempty hp
    · simp [htext, hfront]
    · simp [htext]

/-! ## Plain names -/

/-- A text that names one entry of a directory: it is not empty, it has no slash, and it is neither
`.` nor `..`. -/
def IsFileName (n : String) : Prop := n ≠ "" ∧ n ≠ "." ∧ n ≠ ".." ∧ '/' ∉ n.toList

instance (n : String) : Decidable (IsFileName n) := inferInstanceAs (Decidable (_ ∧ _))

/-- Two texts without a slash make a plain name, if the second one has a character other than a dot.
-/
lemma isFileName_append {n rest : String} (hn : '/' ∉ n.toList) (hrest : '/' ∉ rest.toList)
    (hdot : ∃ c ∈ rest.toList, c ≠ '.') : IsFileName (n ++ rest) := by
  obtain ⟨c, hc, hdot⟩ := hdot
  have hmem : c ∈ (n ++ rest).toList := by
    rw [String.toList_append]
    exact List.mem_append_right _ hc
  refine ⟨?_, ?_, ?_, ?_⟩
  · intro heq
    simp [heq] at hmem
  · intro heq
    simp [heq, hdot] at hmem
  · intro heq
    simp [heq, hdot] at hmem
  · rw [String.toList_append, List.mem_append]
    exact not_or.2 ⟨hn, hrest⟩

/-- A plain name is one step. -/
lemma stepsOf_fileName {n : String} (h : IsFileName n) : stepsOf n.toList = [.name n] := by
  obtain ⟨hempty, hhere, hup, hslash⟩ := h
  have hpieces : Text.pieces (· == '/') n.toList = [n.toList] :=
    Text.pieces_of_forall fun c hc => beq_false_of_ne fun heq => hslash (heq ▸ hc)
  have hne : n.toList ≠ [] := by simpa using hempty
  have hhere : n.toList ≠ ['.'] := fun heq => hhere (String.ext heq)
  have hup : n.toList ≠ ['.', '.'] := fun heq => hup (String.ext heq)
  rw [stepsOf, hpieces]
  simp [isFiller, componentOf, hne, hhere, hup]

/-- A plain name has no lead. -/
lemma lead_fileName {n : String} (h : IsFileName n) : lead ⟨n⟩ = .plain := by
  obtain ⟨-, hhere, -, hslash⟩ := h
  have hhere : n.toList ≠ ['.'] := fun heq => hhere (String.ext heq)
  unfold lead splitLead
  split <;> simp_all

/-- A plain name is a relative path. -/
lemma isAbsolute_fileName {n : String} (h : IsFileName n) : isAbsolute ⟨n⟩ = false := by
  rw [isAbsolute, lead_fileName h]
  rfl

/-- **A plain name below a directory** has the components of the directory and one more, its own. -/
theorem components_join_fileName (p : Path) {n : String} (h : IsFileName n) :
    (p.join ⟨n⟩).components = p.components ++ [.name n] := by
  have hsteps : steps ⟨n⟩ = [.name n] := stepsOf_fileName h
  by_cases hp : p.text = ""
  · obtain rfl : p = ⟨""⟩ := congrArg Path.mk hp
    rw [join_of_empty rfl, components_of_plain (lead_fileName h), hsteps]
    rfl
  · rw [components_join (isAbsolute_fileName h) hp, hsteps]

/-- The last step of a path that ends in a text without a slash, with a character other than a dot,
is a name that ends in this text. -/
lemma exists_steps_append (n : String) {rest : String} (hrest : '/' ∉ rest.toList)
    (hdot : ∃ c ∈ rest.toList, c ≠ '.') :
    ∃ front m, steps ⟨n ++ rest⟩ = front ++ [.name (m ++ rest)] := by
  by_cases hslash : '/' ∈ n.toList
  · -- what is behind the last slash is the beginning of the name
    obtain ⟨back, front, hn, hback⟩ := List.eq_append_cons_of_mem (List.mem_reverse.2 hslash)
    have hn : n.toList = front.reverse ++ '/' :: back.reverse := by
      rw [← List.reverse_reverse n.toList, hn]
      simp
    have hname := stepsOf_fileName (isFileName_append (n := String.ofList back.reverse)
      (by rw [String.toList_ofList]; simpa using hback) hrest hdot)
    refine ⟨stepsOf front.reverse, String.ofList back.reverse, ?_⟩
    rw [String.toList_append, String.toList_ofList] at hname
    rw [steps, String.toList_append, hn, List.append_assoc, List.cons_append,
      stepsOf_append_slash, hname]
  · exact ⟨[], n, stepsOf_fileName (isFileName_append hslash hrest hdot)⟩

/-- Joining puts something in front of the steps of the second path. -/
lemma exists_components_join (p child : Path) :
    ∃ front, (p.join child).components = front ++ child.steps := by
  cases habs : child.isAbsolute with
  | true =>
    refine ⟨child.lead.components, ?_⟩
    rw [join, habs, if_pos rfl, components_eq]
  | false =>
    by_cases hp : p.text = ""
    · exact ⟨child.lead.components, by rw [join_of_empty hp, components_eq]⟩
    · exact ⟨p.components, components_join habs hp⟩

/-! ## Parents -/

/-- A text without a lead starts with a piece that names something. -/
lemma exists_piece_of_plain {cs : List Char} (h : (splitLead cs).1 = .plain) (hcs : cs ≠ []) :
    ∃ q qs, Text.pieces (· == '/') cs = q :: qs ∧ isFiller q = false := by
  match cs, hcs with
  | c :: cs, _ =>
    have hroot : c ≠ '/' := by rintro rfl; exact absurd h (by simp [splitLead])
    cases hq : Text.pieces (· == '/') cs with
    | nil => exact absurd hq (Text.pieces_ne_nil _ cs)
    | cons q qs =>
      refine ⟨c :: q, qs, by simp [Text.pieces, hroot, hq, Text.consPiece], ?_⟩
      rw [isFiller, Bool.or_eq_false_iff]
      refine ⟨rfl, beq_false_of_ne fun hdot => ?_⟩
      -- the piece would be a dot that makes a lead
      obtain ⟨rfl, rfl⟩ := List.cons.inj hdot
      cases cs with
      | nil => exact absurd h (by simp [splitLead])
      | cons d cs =>
        by_cases hd : d = '/'
        · rw [hd] at h
          exact absurd h (by simp [splitLead])
        · rw [Text.pieces, if_neg (by simpa using hd)] at hq
          cases hr : Text.pieces (· == '/') cs <;> simp [hr, Text.consPiece] at hq

/-- Without the fillers at the end, pieces are the first ones of those that are given. -/
lemma dropFillers_isPrefix (ps : List (List Char)) : dropFillers ps <+: ps := by
  rw [← List.reverse_suffix, dropFillers, List.reverse_reverse]
  exact List.dropWhile_suffix _

/-- Without the fillers at the end, the last piece is not one. -/
lemma isFiller_getLast_dropFillers {ps : List (List Char)} {q : List Char}
    (h : (dropFillers ps).getLast? = some q) : isFiller q = false := by
  rw [dropFillers, List.getLast?_reverse] at h
  have hnot := List.head?_dropWhile_not isFiller ps.reverse
  rw [h] at hnot
  exact hnot

/-- A piece that names something makes no lead. -/
lemma splitLead_piece {q : List Char} (hq : isFiller q = false) (hslash : '/' ∉ q)
    (rest : List Char) : splitLead (q ++ rest) = (.plain, q ++ rest) := by
  obtain ⟨hempty, hdot⟩ : q ≠ [] ∧ q ≠ ['.'] := by simpa [isFiller] using hq
  match q, hempty with
  | [c], _ =>
    have hroot : c ≠ '/' := fun heq => hslash (by simp [heq])
    have hdot : c ≠ '.' := fun heq => hdot (by rw [heq])
    simp [splitLead, hroot, hdot]
  | c :: d :: q, _ =>
    exact splitLead_of_plain (fun heq => hslash (by simp [heq]))
      (fun heq => hslash (by simp [heq.2])) _

/-- Pieces the last of which is no filler stay as they are without the fillers at the end. -/
lemma dropFillers_of_last {ps : List (List Char)}
    (h : ∀ q, ps.getLast? = some q → isFiller q = false) : dropFillers ps = ps := by
  rw [dropFillers, ← List.reverse_reverse ps]
  refine congrArg List.reverse ?_
  rw [List.reverse_reverse]
  cases hps : ps.reverse with
  | nil => rfl
  | cons q qs =>
    have hq : isFiller q = false := h q (by rw [← List.head?_reverse, hps]; rfl)
    rw [List.dropWhile_cons_of_neg (by simp [hq])]

/-- A text starts with a lead, or is all body. -/
lemma splitLead_cases (cs : List Char) :
    (∃ body, cs = '/' :: body) ∨ cs = ['.'] ∨ (∃ body, cs = '.' :: '/' :: body) ∨
      splitLead cs = (.plain, cs) := by
  unfold splitLead
  split
  · next body => exact Or.inl ⟨body, rfl⟩
  · exact Or.inr (Or.inl rfl)
  · next body => exact Or.inr (Or.inr (Or.inl ⟨body, rfl⟩))
  · exact Or.inr (Or.inr (Or.inr rfl))

/-- Pieces that are joined again are read as the same pieces behind the same lead, if they are the
first ones of a text behind that lead and the last one is no filler. -/
lemma splitLead_joinPieces {cs : List Char} {qs : List (List Char)}
    (hqs : qs <+: Text.pieces (· == '/') (splitLead cs).2)
    (hlast : ∀ q, qs.getLast? = some q → isFiller q = false) :
    splitLead ((splitLead cs).1.chars ++ joinPieces qs) = ((splitLead cs).1, joinPieces qs) := by
  cases qs with
  | nil => cases (splitLead cs).1 <;> rfl
  | cons q qs =>
    -- the only piece of an empty text is a filler, so it cannot be the last one
    have hnot : ¬ q :: qs <+: [[]] := by
      rw [List.cons_prefix_cons, List.prefix_nil]
      rintro ⟨rfl, rfl⟩
      exact absurd (hlast [] rfl) (by simp [isFiller])
    rcases splitLead_cases cs with ⟨body, rfl⟩ | rfl | ⟨body, rfl⟩ | hplain
    · rfl
    · exact absurd hqs hnot
    · -- the piece in front of the slash is empty, so there are others behind it
      obtain ⟨rfl, -⟩ : q = [] ∧ qs <+: Text.pieces (· == '/') body := List.cons_prefix_cons.1 hqs
      cases qs with
      | nil => exact absurd (hlast [] rfl) (by simp [isFiller])
      | cons q qs => rfl
    · rw [hplain] at hqs ⊢
      have hcs : cs ≠ [] := by
        rintro rfl
        exact hnot hqs
      obtain ⟨q', qs', hpieces, hq'⟩ := exists_piece_of_plain (congrArg Prod.fst hplain) hcs
      have hslash := Text.mem_pieces (hpieces ▸ List.mem_cons_self : q' ∈ Text.pieces _ cs)
      rw [hpieces, List.cons_prefix_cons] at hqs
      obtain ⟨rfl, -⟩ := hqs
      have hpiece := splitLead_piece hq' fun hmem => absurd (hslash '/' hmem) (by simp)
      cases qs with
      | nil => simpa [joinPieces, Lead.chars] using hpiece []
      | cons q₂ qs =>
        simpa [joinPieces, Lead.chars, List.intercalate_cons_cons] using
          hpiece (['/'] ++ joinPieces (q₂ :: qs))

/-- Pieces of a text that are joined are read back. -/
lemma pieces_joinPieces {cs : List Char} {qs : List (List Char)} (hne : qs ≠ [])
    (hqs : qs <+: Text.pieces (· == '/') cs) : Text.pieces (· == '/') (joinPieces qs) = qs := by
  rw [Text.pieces_eq_splitOnP, joinPieces]
  exact List.splitOn_intercalate '/' (fun q hq hmem =>
    absurd (Text.mem_pieces (hqs.subset hq) '/' hmem) (by simp)) hne

/-- A path that is put together from the lead and the first pieces of another one has just these, if
the last piece is no filler. -/
lemma pieces_of_text {p q : Path} {qs : List (List Char)} (hqs : qs <+: p.pieces)
    (hlast : ∀ piece, qs.getLast? = some piece → isFiller piece = false)
    (h : q.text = String.ofList (p.lead.chars ++ joinPieces qs)) :
    q.lead = p.lead ∧ q.pieces = qs := by
  have hfirst : qs <+: Text.pieces (· == '/') (splitLead p.text.toList).2 :=
    hqs.trans (dropFillers_isPrefix _)
  have hsplit : splitLead q.text.toList = (p.lead, joinPieces qs) := by
    rw [h, String.toList_ofList]
    exact splitLead_joinPieces hfirst hlast
  refine ⟨by rw [lead, hsplit], ?_⟩
  rw [pieces, hsplit]
  by_cases hne : qs = []
  · rw [hne]
    rfl
  · rw [pieces_joinPieces hne hfirst, dropFillers_of_last hlast]

/-- The last piece of a path is no filler. -/
lemma isFiller_getLast_pieces {p : Path} {piece : List Char}
    (h : p.pieces.getLast? = some piece) : isFiller piece = false :=
  isFiller_getLast_dropFillers h

/-- Two paths with the same lead and the same pieces have the same components. -/
lemma components_of_pieces {p : Path} {l : Lead} {qs : List (List Char)} (hlead : p.lead = l)
    (hpieces : p.pieces = qs) :
    p.components = l.components ++ (qs.filter fun q => !isFiller q).map componentOf := by
  rw [components, hlead, hpieces]
  cases l <;> rfl

/-- **The components of a parent** are all but the last one. -/
theorem components_of_parent? {p q : Path} (h : p.parent? = some q) :
    q.components = p.components.dropLast := by
  rw [components_of_pieces (p := p) rfl rfl]
  unfold parent? at h
  split at h
  · next hnone =>
    split at h
    · next hhere =>
      obtain rfl : (⟨""⟩ : Path) = q := Option.some.inj h
      rw [hnone, hhere]
      rfl
    · exact absurd h (by simp)
  · next hne =>
    obtain rfl := Option.some.inj h
    have hfirst : dropFillers p.pieces.dropLast <+: p.pieces :=
      (dropFillers_isPrefix _).trans <| List.dropLast_prefix p.pieces
    obtain ⟨hlead, hpieces⟩ := pieces_of_text (q := ⟨String.ofList (p.lead.chars ++
      joinPieces (dropFillers p.pieces.dropLast))⟩) hfirst
      (fun _ h => isFiller_getLast_dropFillers h) rfl
    -- the last piece names something, so its component is the last one
    have hlast := isFiller_getLast_pieces (List.getLast?_eq_some_getLast hne)
    have hfilter : p.pieces.filter (fun q => !isFiller q) =
        p.pieces.dropLast.filter (fun q => !isFiller q) ++ [p.pieces.getLast hne] := by
      calc p.pieces.filter (fun q => !isFiller q)
          = (p.pieces.dropLast ++ [p.pieces.getLast hne]).filter (fun q => !isFiller q) := by
            rw [List.dropLast_concat_getLast hne]
        _ = _ := by
          rw [List.filter_append, List.filter_cons_of_pos (by simp [hlast]), List.filter_nil]
    rw [components_of_pieces hlead hpieces, filter_dropFillers, hfilter]
    simp

/-- A path that has components has a parent. -/
lemma exists_parent?_of_components {p : Path} {cs : List Component} {c : Component}
    (h : p.components = cs ++ [c]) (hroot : c ≠ .root) : ∃ q, p.parent? = some q := by
  unfold parent?
  split
  · next hnone =>
    rw [components_of_pieces rfl hnone] at h
    cases hlead : p.lead with
    | here => exact ⟨⟨""⟩, rfl⟩
    | plain =>
      rw [hlead] at h
      exact absurd h (by simp [Lead.components])
    | root =>
      rw [hlead] at h
      have h : [] ++ [Component.root] = cs ++ [c] := h
      obtain ⟨-, heq⟩ := List.append_inj' h rfl
      exact absurd (List.cons.inj heq).1.symm hroot
  · exact ⟨_, rfl⟩

/-! ## Names read off components -/

/-- A text in front of a slash that leads through nothing makes a lead. -/
lemma lead_ne_plain {cs : List Char} (h : stepsOf cs = []) (ds : List Char) :
    (splitLead (cs ++ '/' :: ds)).1 ≠ .plain := by
  intro hplain
  obtain ⟨q, qs, hpieces, hq⟩ := exists_piece_of_plain hplain (by simp)
  rw [pieces_append_slash] at hpieces
  have hmem : q ∈ Text.pieces (· == '/') cs := by
    cases hcs : Text.pieces (· == '/') cs with
    | nil => exact absurd hcs (Text.pieces_ne_nil _ cs)
    | cons q' qs' =>
      rw [hcs] at hpieces
      exact (List.cons.inj hpieces).1 ▸ List.mem_cons_self
  rw [stepsOf, List.map_eq_nil_iff, List.filter_eq_nil_iff] at h
  exact h q hmem (by simp [hq])

/-- A text that leads through nothing has no characters but slashes and dots. -/
lemma forall_mem_of_stepsOf {cs : List Char} (h : stepsOf cs = []) :
    ∀ c ∈ cs, c = '/' ∨ c = '.' := by
  rw [stepsOf, List.map_eq_nil_iff, List.filter_eq_nil_iff] at h
  have hpieces : ∀ q ∈ Text.pieces (· == '/') cs, ∀ c ∈ q, c = '/' ∨ c = '.' := by
    intro q hq c hc
    have hfiller : isFiller q = true := by simpa using h q hq
    rcases Bool.or_eq_true_iff.1 hfiller with hq | hq
    · rw [eq_of_beq hq] at hc
      exact absurd hc (by simp)
    · rw [eq_of_beq hq] at hc
      exact Or.inr (List.mem_singleton.1 hc)
  rw [← Text.intercalate_pieces '/' cs]
  exact Text.forall_mem_intercalate (Or.inl rfl) hpieces

/-- **A text is a plain name** if it is one step, and if with more text behind it, of other
characters than slashes and dots, it still is one step. The latter rules out slashes at its end. -/
theorem isFileName_of_components {n rest m m' : String} (h : components ⟨n⟩ = [.name m])
    (hrest : ∃ c ∈ rest.toList, c ≠ '/' ∧ c ≠ '.') (hlonger : components ⟨n ++ rest⟩ = [.name m']) :
    IsFileName n := by
  have hempty : components ⟨""⟩ = [] := rfl
  have hhere : components ⟨"."⟩ = [.here] := rfl
  have hup : components ⟨".."⟩ = [.up] := rfl
  refine ⟨?_, ?_, ?_, fun hslash => ?_⟩
  · rintro rfl
    exact absurd (hempty.symm.trans h) (by simp)
  · rintro rfl
    exact absurd (hhere.symm.trans h) (by simp)
  · rintro rfl
    exact absurd (hup.symm.trans h) (by simp)
  · obtain ⟨front, back, hn⟩ := List.append_of_mem hslash
    have htext : (n ++ rest).toList = front ++ '/' :: (back ++ rest.toList) := by
      rw [String.toList_append, hn, List.append_assoc, List.cons_append]
    have hback : stepsOf (back ++ rest.toList) ≠ [] := by
      obtain ⟨c, hc, hroot, hdot⟩ := hrest
      intro hnil
      rcases forall_mem_of_stepsOf hnil c (List.mem_append_right _ hc) with h | h
      · exact hroot h
      · exact hdot h
    -- the step is behind the slash, so there is neither a lead nor a step in front of it
    rw [components_eq, steps, lead, htext, stepsOf_append_slash, ← List.append_assoc,
      List.append_eq_singleton_iff] at hlonger
    rcases hlonger with ⟨hnone, -⟩ | ⟨-, hnone⟩
    · obtain ⟨hlead, hfront⟩ := List.append_eq_nil_iff.1 hnone
      refine lead_ne_plain hfront (back ++ rest.toList) ?_
      cases hl : (splitLead (front ++ '/' :: (back ++ rest.toList))).1 with
      | plain => rfl
      | root | here =>
        rw [hl] at hlead
        exact absurd hlead (by simp [Lead.components])
    · exact hback hnone

/-! ## File names -/

/-- **The file name of a path** is its last component, if that is a name. -/
theorem fileName?_eq_some_iff {p : Path} {n : String} :
    p.fileName? = some n ↔ p.components.getLast? = some (.name n) := by
  rw [components_of_pieces rfl rfl]
  unfold fileName?
  rcases List.eq_nil_or_concat' p.pieces with hnil | ⟨front, piece, hpieces⟩
  · rw [hnil]
    cases p.lead <;> simp [Lead.components]
  · -- the last piece is no filler, so its component is the last one
    have hlast : p.pieces.getLast? = some piece := by rw [hpieces, List.getLast?_concat]
    have hfiller : isFiller piece = false := isFiller_getLast_pieces hlast
    rw [hlast, hpieces, List.filter_append, List.filter_cons_of_pos (by simp [hfiller]),
      List.filter_nil, List.map_append, List.map_singleton, ← List.append_assoc,
      List.getLast?_concat]
    by_cases hup : piece = ['.', '.']
    · simp [componentOf, hup]
    · simp [componentOf, hup]

/-! ## Stems -/

/-- What of a name is its stem: the part in front of the last dot, unless that is empty; otherwise
the whole name. -/
inductive IsStem : String → String → Prop
  /-- Something stands in front of the last dot. -/
  | front {stem ext : String} (hstem : stem ≠ "") (hext : '.' ∉ ext.toList) :
    IsStem (stem ++ "." ++ ext) stem
  /-- Nothing does. -/
  | whole {n : String}
    (h : ∀ front ext : String, '.' ∉ ext.toList → n = front ++ "." ++ ext → front = "") :
    IsStem n n

/-- A name without a dot is all stem. -/
lemma stemChars_of_no_dot {n : List Char} (h : '.' ∉ n) : stemChars n = n := by
  have hnone : n.reverse.dropWhile (· != '.') = [] := by
    rw [List.dropWhile_eq_nil_iff]
    intro c hc
    simpa using fun heq : c = '.' => h (heq ▸ List.mem_reverse.1 hc)
  rw [stemChars, hnone]
  rfl

/-- The last dot of a name ends the stem, unless the name starts with it. -/
lemma stemChars_append_dot (front : List Char) {ext : List Char} (h : '.' ∉ ext) :
    stemChars (front ++ '.' :: ext) = if front = [] then '.' :: ext else front := by
  have hdrop : (front ++ '.' :: ext).reverse.dropWhile (· != '.') = '.' :: front.reverse := by
    rw [List.reverse_append, List.reverse_cons, List.append_assoc,
      List.dropWhile_append_of_pos fun c hc => by
        simpa using fun heq : c = '.' => h (heq ▸ List.mem_reverse.1 hc)]
    rfl
  rw [stemChars, hdrop, List.tail_cons, List.reverse_reverse]
  cases front <;> simp

/-- A text with a dot has a last one. -/
lemma exists_last_dot {n : List Char} (h : '.' ∈ n) :
    ∃ front ext, n = front ++ '.' :: ext ∧ '.' ∉ ext := by
  obtain ⟨back, front, hn, hback⟩ := List.eq_append_cons_of_mem (List.mem_reverse.2 h)
  refine ⟨front.reverse, back.reverse, ?_, by simpa using hback⟩
  rw [← List.reverse_reverse n, hn]
  simp

/-- The characters of a name that is put together around a dot. -/
lemma toList_around_dot (front ext : String) :
    (front ++ "." ++ ext).toList = front.toList ++ '.' :: ext.toList := by
  rw [String.toList_append, String.toList_append, List.append_assoc]
  rfl

/-- **The stem of a name** is made of the characters that are found by looking for the last dot. -/
theorem isStem_iff {n stem : String} :
    IsStem n stem ↔ stem = String.ofList (stemChars n.toList) := by
  constructor
  · intro h
    cases h with
    | @front _ ext hstem hext =>
      have hne : stem.toList ≠ [] := by simpa using hstem
      rw [toList_around_dot, stemChars_append_dot _ hext, if_neg hne, String.ofList_toList]
    | whole h =>
      refine String.toList_inj.1 ?_
      rw [String.toList_ofList]
      by_cases hdot : '.' ∈ n.toList
      · obtain ⟨front, ext, hn, hext⟩ := exists_last_dot hdot
        have hsplit : n = String.ofList front ++ "." ++ String.ofList ext :=
          String.toList_inj.1 (by
            rw [toList_around_dot, String.toList_ofList, String.toList_ofList, hn])
        have hempty := h _ _ (by rwa [String.toList_ofList]) hsplit
        obtain rfl : front = [] := by simpa using hempty
        rw [hn, stemChars_append_dot _ hext, if_pos rfl]
        rfl
      · rw [stemChars_of_no_dot hdot]
  · rintro rfl
    by_cases hdot : '.' ∈ n.toList
    · obtain ⟨front, ext, hn, hext⟩ := exists_last_dot hdot
      rw [hn, stemChars_append_dot _ hext]
      split
      · next hempty =>
        -- no other dot can be in front of the one at the start
        have hname : String.ofList ('.' :: ext) = n := by
          rw [← String.ofList_toList (s := n), hn, hempty]
          rfl
        rw [hname]
        refine .whole fun front' ext' hext' hn' => ?_
        have hchars := hn.symm.trans ((congrArg String.toList hn').trans
          (toList_around_dot front' ext'))
        rw [hempty, List.nil_append] at hchars
        cases hfront : front'.toList with
        | nil => simpa using hfront
        | cons c rest =>
          rw [hfront] at hchars
          exact absurd (by rw [(List.cons.inj hchars).2]; simp) hext
      · next hne =>
        have hsplit : String.ofList front ++ "." ++ String.ofList ext = n :=
          String.toList_inj.1 (by
            rw [toList_around_dot, String.toList_ofList, String.toList_ofList, hn])
        rw [← hsplit]
        exact .front (by simpa using hne) (by rwa [String.toList_ofList])
    · rw [stemChars_of_no_dot hdot, String.ofList_toList]
      refine .whole fun front ext _ hn => absurd ?_ hdot
      rw [hn, toList_around_dot]
      simp

/-- **The stem of a path** is that of its file name. -/
theorem fileStem?_eq_some_iff {p : Path} {stem : String} :
    p.fileStem? = some stem ↔ ∃ n, p.fileName? = some n ∧ IsStem n stem := by
  simp only [fileStem?, Option.map_eq_some_iff, isStem_iff, eq_comm (b := stem)]

/-- A path without a file name has no stem. -/
lemma fileStem?_eq_none_iff {p : Path} : p.fileStem? = none ↔ p.fileName? = none :=
  Option.map_eq_none_iff

end AslBuild.Path
