import AslBuild.Symbols
import Mathlib.Tactic.Lemma
set_option autoImplicit false

/-!
# Reading back a symbol file

A symbol file is written as a text and read in two passes: the text is cut into tokens, and the
lists are read off the tokens. The pieces that a text is put together from are cut one by one, so
the tokens of a symbol file are those of its pieces, and reading them gives back the lists that were
written, whatever names are in them.

## Main definitions

* `AslBuild.Json.Cuts` — a piece of text is cut into some tokens, whatever follows it.
* `AslBuild.Symbols.tokens` — the tokens of a symbol file.

## Main results

* `AslBuild.Json.tokens?_of_cuts` — what a whole text is cut into.
* `AslBuild.Symbols.decode?_encode` — a symbol file is read back as the lists that were written.
-/

namespace AslBuild

namespace Json

/-! ## Cutting pieces of a text -/

/-- A piece of text is cut into some tokens, whatever follows it, and has no fewer characters. -/
structure Cuts (cs : List Char) (ts : List Token) : Prop where
  /-- After the tokens of the piece come those of what follows it. -/
  reads (n : Nat) (rest : List Char) :
    tokensUpTo (n + ts.length) (cs ++ rest) = (tokensUpTo n rest).map (ts ++ ·)
  /-- There are no more tokens than characters. -/
  length_le : ts.length ≤ cs.length

variable {as bs cs : List Char} {ts us : List Token}

/-- Pieces are cut one after the other. -/
lemma Cuts.append (ha : Cuts as ts) (hb : Cuts bs us) : Cuts (as ++ bs) (ts ++ us) where
  reads n rest := by
    have hsum : n + (ts ++ us).length = n + us.length + ts.length := by
      rw [List.length_append]
      omega
    rw [hsum, List.append_assoc, ha.reads, hb.reads, Option.map_map]
    congr 1
    funext vs
    exact (List.append_assoc ts us vs).symm
  length_le := by
    have := ha.length_le
    have := hb.length_le
    simp only [List.length_append]
    omega

/-- Nothing is cut into nothing. -/
lemma cuts_nil : Cuts [] [] where
  reads n rest := by simp
  length_le := Nat.le_refl 0

/-- Space between tokens is cut into nothing. -/
lemma cuts_spaces (h : cs.all isSpace = true) : Cuts cs [] where
  reads n rest := by
    have hdrop : (cs ++ rest).dropWhile isSpace = rest.dropWhile isSpace :=
      List.dropWhile_append_of_pos fun c hc => List.all_eq_true.1 h c hc
    cases n with
    | zero => rfl
    | succ n => simp [tokensUpTo, hdrop]
  length_le := Nat.zero_le _

/-- A piece that is read as a token. -/
lemma cuts_token {c : Char} {t : Token} (hc : isSpace c = false)
    (h : ∀ rest, readToken (c :: cs ++ rest) = some (t, rest)) : Cuts (c :: cs) [t] where
  reads n rest := by
    have hdrop : (c :: cs ++ rest).dropWhile isSpace = c :: cs ++ rest :=
      List.dropWhile_cons_of_neg (by simp [hc])
    show tokensUpTo (n + 1) _ = _
    rw [tokensUpTo, hdrop]
    show (readToken (c :: cs ++ rest)).bind _ = _
    rw [h]
    show (tokensUpTo n rest).bind (fun ts => some (t :: ts)) = _
    cases tokensUpTo n rest <;> rfl
  length_le := Nat.le_add_left 1 _

/-- A single character that is read as a token, with space behind it. -/
lemma cuts_mark {c : Char} {t : Token} (hc : isSpace c = false)
    (h : ∀ rest, readToken (c :: rest) = some (t, rest)) (hcs : cs.all isSpace = true) :
    Cuts (c :: cs) [t] := by
  have htoken : Cuts [c] [t] := cuts_token hc h
  exact htoken.append (cuts_spaces hcs)

/-- A piece with space in front of it. -/
lemma Cuts.spaced (h : Cuts cs ts) (has : as.all isSpace = true) : Cuts (as ++ cs) ts :=
  (cuts_spaces has).append h

/-- The token of a text. -/
def textToken (s : String) : Token := .text (s.toList.map Char.toNat)

/-- A quoted text is cut into one token. -/
lemma cuts_quote (s : String) : Cuts (quote s).toList [textToken s] := by
  rw [quote, String.toList_ofList]
  refine cuts_token rfl fun rest => ?_
  have hunits := readUnits_quoted s.toList rest
  show (readUnits (s.toList.flatMap quoteChar ++ ['"'] ++ rest)).map _ = _
  rw [List.append_assoc, List.singleton_append, hunits]
  rfl

/-- Pieces with a separator between each two are cut one after the other.

**Proof sketch.** Induction on the pieces; a single one has no separator behind it. -/
lemma Cuts.intercalate {α : Type} (hsep : Cuts as ts) {piece : α → List Char}
    {tokens : α → List Token} (xs : List α) (h : ∀ x ∈ xs, Cuts (piece x) (tokens x)) :
    Cuts (as.intercalate (xs.map piece)) (ts.intercalate (xs.map tokens)) := by
  induction xs with
  | nil => exact cuts_nil
  | cons x xs ih =>
    obtain ⟨hx, hxs⟩ := List.forall_mem_cons.1 h
    cases xs with
    | nil =>
      rw [List.map_singleton, List.map_singleton, List.intercalate_singleton,
        List.intercalate_singleton]
      exact hx
    | cons y ys =>
      have hrest := (hx.append hsep).append (ih hxs)
      simp only [List.map_cons, List.intercalate_cons_cons] at hrest ⊢
      exact hrest

/-- **A whole text is cut into the tokens of its pieces.** -/
theorem tokens?_of_cuts {text : String} (h : Cuts text.toList ts) : tokens? text = some ts := by
  obtain ⟨n, hn⟩ : ∃ n, text.toList.length = n + ts.length :=
    ⟨_, (Nat.sub_add_cancel h.length_le).symm⟩
  have hreads := h.reads (n + 1) []
  rw [List.append_nil] at hreads
  rw [tokens?, hn, show n + ts.length + 1 = n + 1 + ts.length by omega, hreads]
  simp [tokensUpTo]

/-! ## Reading lists of texts -/

/-- The tokens of a list of texts. -/
def listTokens (texts : List String) : List Token :=
  .openList :: [Token.comma].intercalate (texts.map fun s => [textToken s]) ++ [.closeList]

/-- Texts are read up to the end of their list.

**Proof sketch.** Induction on the texts after the first one. -/
lemma readTextsTail_cons (s : String) (texts : List String) (rest : List Token) :
    readTextsTail ([Token.comma].intercalate ((s :: texts).map fun s => [textToken s]) ++
      .closeList :: rest) = some (s :: texts, rest) := by
  have htext (s : String) : textOf? (s.toList.map Char.toNat) = some s.toList := textOf?_units _
  induction texts generalizing s with
  | nil =>
    show (textOf? (s.toList.map Char.toNat)).map _ = _
    rw [htext]
    simp
  | cons u texts ih =>
    have ih := ih u
    rw [List.map_cons] at ih
    rw [List.map_cons, List.map_cons, List.intercalate_cons_cons]
    show (textOf? (s.toList.map Char.toNat)).bind (fun t => (readTextsTail
      ([Token.comma].intercalate ([textToken u] :: texts.map fun s => [textToken s]) ++
        .closeList :: rest)).bind fun r => some (consText t r)) = _
    rw [htext, ih]
    simp [consText]

/-- **A list of texts is read back**, and what follows it is left. -/
lemma readTexts_listTokens (texts : List String) (rest : List Token) :
    readTexts (listTokens texts ++ rest) = some (texts, rest) := by
  cases texts with
  | nil => rfl
  | cons s texts =>
    have htail := readTextsTail_cons s texts rest
    rw [listTokens, List.cons_append, List.cons_append, List.append_assoc, List.singleton_append]
    -- the first token after the bracket is a text, so the list is not empty
    cases texts with
    | nil => exact htail
    | cons u texts => exact htail

end Json

namespace Symbols

open Json

/-! ## The tokens of a symbol file -/

/-- The tokens of a list of names under a key. -/
def memberTokens (key : Key) (names : List String) : List Token :=
  textToken key.name :: .colon :: listTokens names

/-- The members of a symbol file: the lists, each with its key. Thread-local variables are left out
if there are none. -/
def members (s : Symbols) : List (Key × List String) :=
  [(.exports, s.exports), (.imports, s.imports)] ++
    if s.threadLocals.isEmpty then [] else [(.threadLocals, s.threadLocals)]

/-- The tokens of a symbol file. -/
def tokens (s : Symbols) : List Token :=
  .openObject :: [Token.comma].intercalate (s.members.map fun m => memberTokens m.1 m.2) ++
    [.closeObject]

/-- A list of names under a key is cut into its tokens. -/
lemma cuts_encodeList (key : Key) (names : List String) :
    Cuts (encodeList key names).toList (memberTokens key names) := by
  have hkey : Cuts ("  " ++ quote key.name ++ ": ").toList [textToken key.name, .colon] := by
    rw [String.toList_append, String.toList_append]
    exact ((cuts_quote key.name).spaced rfl).append (cuts_mark rfl (fun _ => rfl) rfl)
  rw [encodeList, String.toList_append]
  refine hkey.append ?_
  cases names with
  | nil =>
    have hopen : Cuts ['['] [.openList] := cuts_mark rfl (fun _ => rfl) rfl
    have hclose : Cuts [']'] [.closeList] := cuts_mark rfl (fun _ => rfl) rfl
    exact hopen.append hclose
  | cons s names =>
    have hname (s : String) : Cuts ("    " ++ quote s).toList [textToken s] := by
      rw [String.toList_append]
      exact (cuts_quote s).spaced rfl
    have hsep : Cuts ",\n".toList [.comma] := cuts_mark rfl (fun _ => rfl) rfl
    have hopen : Cuts "[\n".toList [.openList] := cuts_mark rfl (fun _ => rfl) rfl
    have hbracket : Cuts "]".toList [.closeList] := cuts_mark rfl (fun _ => rfl) rfl
    have hclose : Cuts ("\n  ".toList ++ "]".toList) [.closeList] := hbracket.spaced rfl
    have hnames := hsep.intercalate (s :: names) fun s _ => hname s
    rw [if_neg (by simp), String.toList_append, String.toList_append, String.toList_intercalate,
      List.map_map]
    exact (hopen.append hnames).append hclose

/-- **A symbol file is cut into its tokens.** -/
lemma cuts_encode (s : Symbols) : Cuts s.encode.toList s.tokens := by
  have hlists : [encodeList .exports s.exports, encodeList .imports s.imports] ++
      (if s.threadLocals.isEmpty then [] else [encodeList .threadLocals s.threadLocals]) =
        s.members.map fun m => encodeList m.1 m.2 := by
    unfold members
    cases s.threadLocals <;> rfl
  have hsep : Cuts ",\n".toList [.comma] := cuts_mark rfl (fun _ => rfl) rfl
  have hopen : Cuts "\x7b\n".toList [.openObject] := cuts_mark rfl (fun _ => rfl) rfl
  have hbrace : Cuts "\x7d\n".toList [.closeObject] := cuts_mark rfl (fun _ => rfl) rfl
  have hclose : Cuts ("\n".toList ++ "\x7d\n".toList) [.closeObject] := hbrace.spaced rfl
  have hmembers := hsep.intercalate s.members fun m _ => cuts_encodeList m.1 m.2
  rw [encode, hlists, String.toList_append, String.toList_append, String.toList_intercalate,
    List.map_map]
  exact (hopen.append hmembers).append hclose

/-! ## Reading the lists -/

/-- The names of keys are told apart. -/
lemma ofName?_name (key : Key) : Key.ofName? key.name = some key := by
  cases key <;> decide

/-- A list of names under a key that was not found so far is read. -/
lemma readMember_memberTokens {f : Found} {key : Key} (h : f.get key = none) (names : List String)
    (rest : List Token) :
    readMember f (memberTokens key names ++ rest) = some (f.put names key, rest) := by
  have htext : textOf? (key.name.toList.map Char.toNat) = some key.name.toList := textOf?_units _
  show (textOf? (key.name.toList.map Char.toNat)).bind _ = _
  rw [htext]
  simp only [Option.bind_some, String.ofList_toList, ofName?_name, h, Option.isSome_none,
    Bool.false_eq_true, if_false]
  show (readTexts (listTokens names ++ rest)).bind _ = _
  rw [readTexts_listTokens]
  rfl

section

variable {f : Found} {key : Key} {n : Nat}

/-- The last member is read, and then the end of the object. -/
lemma readMembers_last (h : f.get key = none) (names : List String) :
    readMembers (n + 1) f (memberTokens key names ++ [.closeObject]) = some (f.put names key) := by
  rw [readMembers, readMember_memberTokens h]
  rfl

/-- Any other member is read, and then those after the comma. -/
lemma readMembers_comma (h : f.get key = none) (names : List String) (rest : List Token) :
    readMembers (n + 1) f (memberTokens key names ++ .comma :: rest) =
      readMembers n (f.put names key) rest := by
  rw [readMembers, readMember_memberTokens h]
  rfl

end

/-- An object whose first member is a list of names under a key is read member by member. There are
always tokens enough for three of them. -/
lemma ofTokens?_object (key : Key) (names : List String) (rest : List Token) :
    ∃ n, ofTokens? (.openObject :: (memberTokens key names ++ rest)) =
      (readMembers (n + 3) {} (memberTokens key names ++ rest)).bind Found.symbols? := by
  obtain ⟨n, hn⟩ : ∃ n, (memberTokens key names ++ rest).length = n + 3 :=
    ⟨_, (Nat.sub_add_cancel (by simp [memberTokens, listTokens])).symm⟩
  refine ⟨n, ?_⟩
  rw [← hn]
  rfl

/-- The members of a symbol file are read as the lists that were written.

**Proof sketch.** The three keys are different, so none is found twice. -/
lemma ofTokens?_tokens (s : Symbols) : ofTokens? s.tokens = some s := by
  obtain ⟨exports, imports, threadLocals⟩ := s
  cases threadLocals with
  | nil =>
    have htokens : tokens ⟨exports, imports, []⟩ = .openObject ::
        (memberTokens .exports exports ++ .comma ::
          (memberTokens .imports imports ++ [.closeObject])) := by
      simp [tokens, members, List.intercalate]
    obtain ⟨n, hn⟩ := ofTokens?_object .exports exports
      (.comma :: (memberTokens .imports imports ++ [.closeObject]))
    rw [htokens, hn, readMembers_comma rfl, readMembers_last rfl]
    rfl
  | cons name names =>
    have htokens : tokens ⟨exports, imports, name :: names⟩ = .openObject ::
        (memberTokens .exports exports ++ .comma :: (memberTokens .imports imports ++ .comma ::
          (memberTokens .threadLocals (name :: names) ++ [.closeObject]))) := by
      simp [tokens, members, List.intercalate]
    obtain ⟨n, hn⟩ := ofTokens?_object .exports exports
      (.comma :: (memberTokens .imports imports ++ .comma ::
        (memberTokens .threadLocals (name :: names) ++ [.closeObject])))
    rw [htokens, hn, readMembers_comma rfl, readMembers_comma rfl, readMembers_last rfl]
    rfl

/-- **A symbol file is read back** as the lists that were written.

**Proof sketch.** The text is cut into the tokens of its pieces (`cuts_encode`), and the lists are
read off the tokens one by one. -/
theorem decode?_encode (s : Symbols) : decode? s.encode = some s := by
  have htokens : tokens? s.encode = some s.tokens := tokens?_of_cuts s.cuts_encode
  rw [decode?, htokens]
  exact s.ofTokens?_tokens

end Symbols

end AslBuild
