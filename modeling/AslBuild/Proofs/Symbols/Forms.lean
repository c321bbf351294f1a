import AslBuild.Proofs.Json.Value
import AslBuild.Proofs.Symbols.RoundTrip
set_option autoImplicit false

/-!
# The forms of a symbol file

A symbol file need not have been written by a session. Its names may stand in an object, under keys
in any order and among members that mean nothing here, or in a list without keys. Which names a
value tells is said here without following the reader: under each key there is a list of names, at
most once, and names that are not there are none, save that `exports` cannot be left out. The reader
accepts exactly the texts of such values. What a session writes is one of them, and tells the names
it was written for.

## Main definitions

* `AslBuild.Symbols.TellsUnder` — what the values under a key tell of the names.
* `AslBuild.Symbols.ToldBy` — a value tells the names.
* `AslBuild.Symbols.value` — the value of the file that a session writes.

## Main results

* `AslBuild.Symbols.toldBy_perm`, `AslBuild.Symbols.toldBy_unknown` — neither the order of the
  members nor a member with another key matters.
* `AslBuild.Symbols.decode?_eq_some_iff` — which texts are read, and as which names.
* `AslBuild.Symbols.encode_faithful` — what is written is read back, whatever the names are and
  whatever they were read from.
-/

namespace AslBuild

open Json

namespace Json.Value

/-- The value of a text. -/
def ofText (s : String) : Value := .text (s.toList.map Char.toNat)

/-- The value of a list of texts. -/
def ofTexts (texts : List String) : Value := .list (texts.map ofText)

end Json.Value

namespace Symbols

/-! ## What a value tells -/

/-- The names under a key. -/
def get (s : Symbols) : Key → List String
  | .exports => s.exports
  | .imports => s.imports
  | .threadLocals => s.threadLocals

/-- The place of a key, where the lists stand without keys. -/
def Key.place : Key → Nat
  | .exports => 0
  | .imports => 1
  | .threadLocals => 2

/-- The text of the key of a member. Units that spell no text are no key. -/
def keyText? (m : List Nat × Value) : Option String := (textOf? m.1).map String.ofList

/-- The values under a key, in the order in which they stand. -/
def valuesUnder (key : Key) (members : List (List Nat × Value)) : List Value :=
  (members.filter fun m => keyText? m = some key.name).map Prod.snd

/-- The values under a key tell the names of a file: there is one at most, it is a list of texts,
and they are these names. Only under `exports` there has to be one. -/
def TellsUnder (s : Symbols) (key : Key) : List Value → Prop
  | [] => key ≠ .exports ∧ s.get key = []
  | [v] => v.texts? = some (s.get key)
  | _ => False

/-- A value tells the names of a file: in an object the names are told under their keys, and in a
list of three lists at most each in its place. -/
def ToldBy (s : Symbols) : Value → Prop
  | .object members =>
    (∀ m ∈ members, keyText? m ≠ none) ∧ ∀ key, s.TellsUnder key (valuesUnder key members)
  | .list items => items.length ≤ 3 ∧ ∀ key : Key, s.TellsUnder key items[key.place]?.toList
  | _ => False

section

variable {s : Symbols} {key : Key} {members others : List (List Nat × Value)}

@[simp] lemma valuesUnder_append : valuesUnder key (members ++ others) =
    valuesUnder key members ++ valuesUnder key others := by
  simp [valuesUnder]

/-- Exactly its name makes a text a key. -/
lemma ofName?_eq_some_iff {name : String} : Key.ofName? name = some key ↔ name = key.name := by
  constructor
  · intro h
    have hname := List.find?_some (p := fun k : Key => k.name == name) h
    exact (beq_iff_eq.1 hname).symm
  · rintro rfl
    exact ofName?_name key

/-- A member stands under the key that its text names, and under no other. -/
lemma valuesUnder_singleton {m : List Nat × Value} {name : String} (h : keyText? m = some name) :
    valuesUnder key [m] = if Key.ofName? name = some key then [m.2] else [] := by
  simp only [ofName?_eq_some_iff]
  by_cases hname : name = key.name
  · simp [valuesUnder, h, hname]
  · simp [valuesUnder, h, hname]

/-- **The order of the members does not matter.** -/
theorem toldBy_perm (h : members.Perm others) :
    s.ToldBy (.object members) ↔ s.ToldBy (.object others) := by
  have hmem : (∀ m ∈ members, keyText? m ≠ none) ↔ ∀ m ∈ others, keyText? m ≠ none :=
    forall_congr' fun m => imp_congr_left h.mem_iff
  have hkey (key : Key) : s.TellsUnder key (valuesUnder key members) ↔
      s.TellsUnder key (valuesUnder key others) := by
    have hperm : (valuesUnder key members).Perm (valuesUnder key others) :=
      (h.filter _).map Prod.snd
    generalize valuesUnder key members = vs at hperm
    match vs with
    | [] => rw [hperm.nil_eq]
    | [v] => rw [List.singleton_perm.1 hperm]
    | v :: w :: vs =>
      obtain ⟨a, b, ws, hws⟩ : ∃ a b ws, valuesUnder key others = a :: b :: ws := by
        have := hperm.length_eq
        match valuesUnder key others, this with
        | a :: b :: ws, _ => exact ⟨a, b, ws, rfl⟩
      rw [hws]
      exact Iff.rfl
  exact and_congr hmem (forall_congr' hkey)

/-- **A member with another key does not matter**, whatever its value. -/
theorem toldBy_unknown {m : List Nat × Value} {name : String} (h : keyText? m = some name)
    (hname : Key.ofName? name = none) :
    s.ToldBy (.object (members ++ m :: others)) ↔ s.ToldBy (.object (members ++ others)) := by
  have hunder (key : Key) : valuesUnder key (members ++ m :: others) =
      valuesUnder key (members ++ others) := by
    rw [← List.singleton_append, valuesUnder_append, valuesUnder_append, valuesUnder_append,
      valuesUnder_singleton h, hname]
    rfl
  have hmem : (∀ a ∈ members ++ m :: others, keyText? a ≠ none) ↔
      ∀ a ∈ members ++ others, keyText? a ≠ none := by
    simp only [List.forall_mem_append, List.forall_mem_cons, h, ne_eq, reduceCtorEq,
      not_false_eq_true, true_and]
  simp only [ToldBy, hunder, hmem]

/-! ## Reading members -/

end

/-- What was found so far under a key, from the values under it. -/
def FoundUnder (found : Option (List String)) : List Value → Prop
  | [] => found = none
  | [v] => ∃ names, found = some names ∧ v.texts? = some names
  | _ => False

/-- What was found so far are the lists under the keys of some members. -/
structure Found.Holds (f : Found) (members : List (List Nat × Value)) : Prop where
  /-- Every key is a text. -/
  keys : ∀ m ∈ members, keyText? m ≠ none
  /-- Each list is the only value under its key. -/
  under : ∀ key, FoundUnder (f.get key) (valuesUnder key members)

section

variable {f g : Found} {members : List (List Nat × Value)}

lemma get_put_self (f : Found) (names : List String) (key : Key) :
    (f.put names key).get key = some names := by
  cases key <;> rfl

lemma get_put_of_ne (f : Found) (names : List String) {key other : Key} (h : other ≠ key) :
    (f.put names key).get other = f.get other := by
  cases key <;> cases other <;> first | rfl | exact absurd rfl h

lemma found_ext (h : ∀ key, f.get key = g.get key) : f = g := by
  obtain ⟨exports, imports, threadLocals⟩ := f
  have hexports : exports = g.exports := h .exports
  have himports : imports = g.imports := h .imports
  have hthreadLocals : threadLocals = g.threadLocals := h .threadLocals
  rw [hexports, himports, hthreadLocals]

/-- The values under a key determine what was found. -/
lemma FoundUnder.unique {a b : Option (List String)} {vs : List Value} (ha : FoundUnder a vs)
    (hb : FoundUnder b vs) : a = b := by
  match vs with
  | [] => exact ha.trans hb.symm
  | [v] =>
    obtain ⟨names, rfl, h⟩ := ha
    obtain ⟨others, rfl, h'⟩ := hb
    exact h.symm.trans h'

/-- Under a key where nothing was found there is no value. -/
lemma FoundUnder.eq_nil {vs : List Value} (h : FoundUnder none vs) : vs = [] := by
  match vs with
  | [] => rfl
  | [v] =>
    obtain ⟨_, hnames, _⟩ := h
    cases hnames

/-- A value after others can be told only if there are no others, and it is a list of texts. -/
lemma FoundUnder.concat {found : Option (List String)} {vs : List Value} {v : Value}
    (h : FoundUnder found (vs ++ [v])) : vs = [] ∧ ∃ names, v.texts? = some names := by
  match vs with
  | [] =>
    obtain ⟨names, -, htexts⟩ := h
    exact ⟨rfl, names, htexts⟩
  | [_] | _ :: _ :: _ => exact h.elim

/-- The members determine what was found. -/
lemma Found.Holds.unique (hf : f.Holds members) (hg : g.Holds members) : f = g :=
  found_ext fun key => (hf.under key).unique (hg.under key)

/-- Nothing was found before the first member. -/
lemma holds_nil : Found.Holds {} [] where
  keys m hm := absurd hm List.not_mem_nil
  under key := by cases key <;> rfl

/-- The key of one more member is a text too. -/
lemma keys_concat {m : List Nat × Value} {name : String}
    (h : ∀ a ∈ members, keyText? a ≠ none) (hm : keyText? m = some name) :
    ∀ a ∈ members ++ [m], keyText? a ≠ none := by
  simpa [List.forall_mem_append, or_imp, forall_and, hm] using h

/-- A member with another key changes nothing. -/
lemma Found.Holds.other {m : List Nat × Value} {name : String} (h : f.Holds members)
    (hm : keyText? m = some name) (hname : Key.ofName? name = none) : f.Holds (members ++ [m]) where
  keys := keys_concat h.keys hm
  under key := by
    rw [valuesUnder_append, valuesUnder_singleton hm, hname, if_neg (by simp), List.append_nil]
    exact h.under key

/-- A member with a key that was not found so far adds its names. -/
lemma Found.Holds.put {m : List Nat × Value} {name : String} {key : Key} {names : List String}
    (h : f.Holds members) (hm : keyText? m = some name) (hname : Key.ofName? name = some key)
    (hkey : f.get key = none) (htexts : m.2.texts? = some names) :
    (f.put names key).Holds (members ++ [m]) where
  keys := keys_concat h.keys hm
  under other := by
    have hother := h.under other
    rw [valuesUnder_append, valuesUnder_singleton hm, hname]
    by_cases hne : other = key
    · subst hne
      rw [hkey] at hother
      rw [hother.eq_nil, if_pos rfl, get_put_self]
      exact ⟨names, rfl, htexts⟩
    · rw [if_neg (by simpa using Ne.symm hne), List.append_nil, get_put_of_ne f names hne]
      exact hother

/-- A member whose tokens come next is read, unless it is one that a symbol file cannot have.

**Proof sketch.** A member with another key is skipped. Under one of the three keys a list of texts
is read, and there was none so far: with two values under it the key would not be found. -/
lemma readMember_tokens {seen : List (List Nat × Value)} (hf : f.Holds seen) {units : List Nat}
    {v : Value} (hg : g.Holds (seen ++ [(units, v)])) (rest : List Token) :
    readMember f (.text units :: .colon :: (v.tokens ++ rest)) = some (g, rest) := by
  obtain ⟨name, hm⟩ : ∃ name, keyText? (units, v) = some name :=
    Option.ne_none_iff_exists'.1 (hg.keys _ (by simp))
  obtain ⟨chars, hchars, hchars_name⟩ := Option.map_eq_some_iff.1 hm
  simp only [readMember, show textOf? units = some chars from hchars, Option.bind_eq_bind,
    Option.bind_some, hchars_name]
  cases hname : Key.ofName? name with
  | none =>
    have hskip : skip .value [] (v.tokens ++ rest) = some rest := skip_eq_some_iff.2 ⟨v, rfl⟩
    simp only [hskip, Option.bind_some, (hf.other hm hname).unique hg]
  | some key =>
    have hunder := hg.under key
    rw [valuesUnder_append, valuesUnder_singleton hm, hname, if_pos rfl] at hunder
    obtain ⟨hseen, names, htexts⟩ := hunder.concat
    have hkey : f.get key = none := by
      have hfound := hf.under key
      rw [hseen] at hfound
      exact hfound
    have hread : readTexts (v.tokens ++ rest) = some (names, rest) :=
      readTexts_eq_some_iff.2 ⟨v, rfl, htexts⟩
    simp [hkey, hread, (hf.put hm hname hkey htexts).unique hg]

/-- What is read as a member are the tokens of one, and it is noted. -/
lemma exists_member_of_readMember {seen : List (List Nat × Value)} (hf : f.Holds seen)
    {ts rest : List Token} (h : readMember f ts = some (g, rest)) :
    ∃ units v, ts = .text units :: .colon :: (v.tokens ++ rest) ∧
      g.Holds (seen ++ [(units, v)]) := by
  unfold readMember at h
  split at h
  · next units more =>
    obtain ⟨chars, hchars, h⟩ := Option.bind_eq_some_iff.1 h
    have hm (v : Value) : keyText? (units, v) = some (String.ofList chars) := by
      rw [keyText?, hchars]
      rfl
    split at h
    · next hname =>
      obtain ⟨_, hskip, hpair⟩ := Option.bind_eq_some_iff.1 h
      obtain ⟨rfl, rfl⟩ := Prod.mk.inj (Option.some.inj hpair)
      obtain ⟨v, rfl⟩ := skip_eq_some_iff.1 hskip
      exact ⟨units, v, rfl, hf.other (hm v) hname⟩
    · next key hname =>
      split at h
      · cases h
      · next hkey =>
        obtain ⟨⟨names, _⟩, hread, hpair⟩ := Option.bind_eq_some_iff.1 h
        obtain ⟨rfl, rfl⟩ := Prod.mk.inj (Option.some.inj hpair)
        obtain ⟨v, rfl, htexts⟩ := readTexts_eq_some_iff.1 hread
        exact ⟨units, v, rfl, hf.put (hm v) hname (by simpa using hkey) htexts⟩
  · cases h

/-- Members can be found if they can be under each key. -/
lemma exists_holds (hkeys : ∀ m ∈ members, keyText? m ≠ none)
    (hunder : ∀ key, ∃ found, FoundUnder found (valuesUnder key members)) :
    ∃ f : Found, f.Holds members := by
  obtain ⟨exports, hexports⟩ := hunder .exports
  obtain ⟨imports, himports⟩ := hunder .imports
  obtain ⟨threadLocals, hthreadLocals⟩ := hunder .threadLocals
  refine ⟨⟨exports, imports, threadLocals⟩, hkeys, ?_⟩
  rintro (_ | _ | _)
  · exact hexports
  · exact himports
  · exact hthreadLocals

/-- What is told by some members can be found in the first of them. -/
lemma Found.Holds.exists_of_append {seen more : List (List Nat × Value)}
    (h : g.Holds (seen ++ more)) : ∃ f : Found, f.Holds seen := by
  have hunder (key : Key) : ∃ found, FoundUnder found (valuesUnder key seen) := by
    have hkey := h.under key
    rw [valuesUnder_append] at hkey
    match valuesUnder key seen, valuesUnder key more, hkey with
    | [], _, _ => exact ⟨none, rfl⟩
    | [v], [], ⟨names, _, htexts⟩ => exact ⟨some names, names, rfl, htexts⟩
  exact exists_holds (fun m hm => h.keys m (List.mem_append_left more hm)) hunder

/-- Members whose tokens come next are read up to the end of their object, unless they are some that
a symbol file cannot have.

**Proof sketch.** Induction on the members after the first one, with what was found in those before
it. -/
lemma readMembers_tokens {n : Nat} {seen : List (List Nat × Value)} {m : List Nat × Value}
    (hf : f.Holds seen) (hg : g.Holds (seen ++ m :: members)) (hn : members.length < n) :
    readMembers n f ((Value.memberTokens (m :: members)).tail ++ [.closeObject]) = some g := by
  induction members generalizing n f seen m with
  | nil =>
    obtain ⟨n, rfl⟩ := Nat.exists_eq_succ_of_ne_zero (Nat.ne_zero_of_lt hn)
    have hread := readMember_tokens hf hg [.closeObject]
    simp [Value.memberTokens, readMembers, hread]
  | cons m' members ih =>
    obtain ⟨n, rfl⟩ := Nat.exists_eq_succ_of_ne_zero (Nat.ne_zero_of_lt hn)
    rw [← List.singleton_append, ← List.append_assoc] at hg
    obtain ⟨f', hf'⟩ := hg.exists_of_append
    have hread := readMember_tokens hf hf'
      (.comma :: ((Value.memberTokens (m' :: members)).tail ++ [.closeObject]))
    have hrest := ih hf' hg (Nat.lt_of_succ_lt_succ hn)
    simp only [Value.memberTokens, List.cons_append, List.tail_cons, List.append_assoc]
      at hread hrest ⊢
    simp [readMembers, hread, hrest]

/-- What is read as members up to the end of their object are the tokens of some.

**Proof sketch.** Induction on how many members are read at most. -/
lemma exists_members_of_readMembers {n : Nat} {seen : List (List Nat × Value)} {ts : List Token}
    (hf : f.Holds seen) (h : readMembers n f ts = some g) :
    ∃ m members, ts = (Value.memberTokens (m :: members)).tail ++ [.closeObject] ∧
      g.Holds (seen ++ m :: members) := by
  induction n generalizing f seen ts with
  | zero => cases h
  | succ n ih =>
    obtain ⟨⟨f', rest⟩, hread, hrest⟩ := Option.bind_eq_some_iff.1 h
    obtain ⟨units, v, rfl, hf'⟩ := exists_member_of_readMember hf hread
    dsimp only at hrest
    split at hrest
    · obtain rfl := Option.some.inj hrest
      exact ⟨(units, v), [], by simp [Value.memberTokens], hf'⟩
    · next more =>
      obtain ⟨m, members, rfl, hg⟩ := ih hf' hrest
      rw [List.append_assoc, List.singleton_append] at hg
      exact ⟨(units, v), m :: members, by simp [Value.memberTokens], hg⟩
    · cases hrest

/-! ## What is read off a value -/

/-- The values under a key tell what was found there, or nothing if nothing was. -/
lemma FoundUnder.tellsUnder_iff {s : Symbols} {key : Key} {found : Option (List String)}
    {vs : List Value} (h : FoundUnder found vs) :
    s.TellsUnder key vs ↔ found.getD [] = s.get key ∧ (key = .exports → found ≠ none) := by
  match vs with
  | [] =>
    obtain rfl : found = none := h
    show key ≠ .exports ∧ s.get key = [] ↔ [] = s.get key ∧ (key = .exports → none ≠ none)
    constructor
    · rintro ⟨hne, hget⟩
      exact ⟨hget.symm, fun hkey => absurd hkey hne⟩
    · rintro ⟨hget, hne⟩
      exact ⟨fun hkey => hne hkey rfl, hget.symm⟩
  | [v] =>
    obtain ⟨names, rfl, htexts⟩ := h
    show v.texts? = some (s.get key) ↔ names = s.get key ∧ (key = .exports → some names ≠ none)
    rw [htexts]
    simp

/-- The names of what was found are those under each key. -/
lemma symbols?_eq_some_iff {s : Symbols} : f.symbols? = some s ↔
    ∀ key, (f.get key).getD [] = s.get key ∧ (key = .exports → f.get key ≠ none) := by
  obtain ⟨exports, imports, threadLocals⟩ := s
  obtain ⟨found, imports', threadLocals'⟩ := f
  constructor
  · intro h
    obtain ⟨names, rfl, hs⟩ := Option.map_eq_some_iff.1 h
    cases hs
    rintro (_ | _ | _)
    · exact ⟨rfl, fun _ => Option.some_ne_none _⟩
    · exact ⟨rfl, nofun⟩
    · exact ⟨rfl, nofun⟩
  · intro h
    obtain ⟨hexports, hfound⟩ := h .exports
    obtain ⟨names, rfl⟩ := Option.ne_none_iff_exists'.1 (hfound rfl)
    obtain rfl : names = exports := hexports
    obtain rfl : imports'.getD [] = imports := (h .imports).1
    obtain rfl : threadLocals'.getD [] = threadLocals := (h .threadLocals).1
    rfl

/-- The names of what was found are those that the members tell. -/
lemma Found.Holds.symbols?_iff {s : Symbols} (h : f.Holds members) :
    f.symbols? = some s ↔ s.ToldBy (.object members) := by
  have hkey (key : Key) : s.TellsUnder key (valuesUnder key members) ↔
      (f.get key).getD [] = s.get key ∧ (key = .exports → f.get key ≠ none) :=
    (h.under key).tellsUnder_iff
  simp only [symbols?_eq_some_iff, ToldBy, hkey, and_iff_right h.keys]

/-- Without a member no names are told. -/
lemma not_toldBy_empty {s : Symbols} : ¬ s.ToldBy (.object []) :=
  fun h => (h.2 .exports).1 rfl

/-- What the members tell can be found. -/
lemma ToldBy.exists_holds {s : Symbols} (h : s.ToldBy (.object members)) :
    ∃ f : Found, f.Holds members := by
  refine Symbols.exists_holds h.1 fun key => ?_
  have hkey := h.2 key
  match valuesUnder key members, hkey with
  | [], _ => exact ⟨none, rfl⟩
  | [v], htexts => exact ⟨some (s.get key), s.get key, rfl, htexts⟩

/-- There are no fewer tokens than members. -/
lemma length_le_memberTokens (members : List (List Nat × Value)) :
    members.length ≤ (Value.memberTokens members).length := by
  induction members with
  | nil => exact Nat.zero_le _
  | cons m members ih =>
    simp only [Value.memberTokens, List.length_cons, List.length_append]
    omega

/-- Names are read off the tokens of members exactly if these tell them. -/
lemma ofTokens?_object_iff {s : Symbols} {ts : List Token} :
    ofTokens? (.openObject :: ts) = some s ↔
      ∃ members, ts = (Value.memberTokens members).tail ++ [.closeObject] ∧
        s.ToldBy (.object members) := by
  have hread (hts : ts ≠ [.closeObject]) : ofTokens? (.openObject :: ts) =
      (readMembers ts.length {} ts).bind Found.symbols? := by
    unfold ofTokens?
    split <;> simp_all
  constructor
  · intro h
    have hts : ts ≠ [.closeObject] := by
      rintro rfl
      cases h
    rw [hread hts] at h
    obtain ⟨f, hf, hs⟩ := Option.bind_eq_some_iff.1 h
    obtain ⟨m, members, rfl, hmembers⟩ := exists_members_of_readMembers holds_nil hf
    exact ⟨m :: members, rfl, hmembers.symbols?_iff.1 hs⟩
  · rintro ⟨members, rfl, hs⟩
    cases members with
    | nil => exact absurd hs not_toldBy_empty
    | cons m members =>
      obtain ⟨f, hf⟩ := hs.exists_holds
      have hlength := length_le_memberTokens members
      have hts : (Value.memberTokens (m :: members)).tail ++ [.closeObject] ≠ [.closeObject] := by
        simp [Value.memberTokens]
      rw [hread hts, readMembers_tokens holds_nil hf]
      · exact hf.symbols?_iff.2 hs
      · simp only [Value.memberTokens, List.tail_cons, List.cons_append, List.length_cons,
          List.length_append]
        omega

end

/-- What is read as up to three lists are the tokens of some. -/
lemma exists_items_of_readRow {s : Symbols} {ts : List Token} (h : readRow ts = some s) :
    ∃ items, ts = (Value.itemTokens items).tail ++ [.closeList] ∧ s.ToldBy (.list items) := by
  obtain ⟨⟨exports, rest⟩, hread, h₁⟩ := Option.bind_eq_some_iff.1 h
  obtain ⟨a, rfl, ha⟩ := readTexts_eq_some_iff.1 hread
  dsimp only at h₁
  split at h₁
  · obtain rfl := Option.some.inj h₁
    refine ⟨[a], by simp [Value.itemTokens], by simp, ?_⟩
    rintro (_ | _ | _)
    · exact ha
    · exact ⟨nofun, rfl⟩
    · exact ⟨nofun, rfl⟩
  · obtain ⟨⟨imports, rest⟩, hread, h₂⟩ := Option.bind_eq_some_iff.1 h₁
    obtain ⟨b, rfl, hb⟩ := readTexts_eq_some_iff.1 hread
    dsimp only at h₂
    split at h₂
    · obtain rfl := Option.some.inj h₂
      refine ⟨[a, b], by simp [Value.itemTokens], by simp, ?_⟩
      rintro (_ | _ | _)
      · exact ha
      · exact hb
      · exact ⟨nofun, rfl⟩
    · obtain ⟨⟨threadLocals, rest⟩, hread, h₃⟩ := Option.bind_eq_some_iff.1 h₂
      obtain ⟨c, rfl, hc⟩ := readTexts_eq_some_iff.1 hread
      dsimp only at h₃
      split at h₃
      · obtain rfl := Option.some.inj h₃
        refine ⟨[a, b, c], by simp [Value.itemTokens], by simp, ?_⟩
        rintro (_ | _ | _)
        · exact ha
        · exact hb
        · exact hc
      · cases h₃
    · cases h₂
  · cases h₁

/-- Names are read off the tokens of up to three lists that tell them. -/
lemma readRow_itemTokens {s : Symbols} {items : List Value} (h : s.ToldBy (.list items)) :
    readRow ((Value.itemTokens items).tail ++ [.closeList]) = some s := by
  obtain ⟨exports, imports, threadLocals⟩ := s
  obtain ⟨hlength, hunder⟩ := h
  have hexports := hunder .exports
  have himports := hunder .imports
  have hthreadLocals := hunder .threadLocals
  match items with
  | [] => exact absurd rfl hexports.1
  | [a] =>
    obtain rfl : imports = [] := himports.2
    obtain rfl : threadLocals = [] := hthreadLocals.2
    have ha : a.texts? = some exports := hexports
    simp [readRow, Value.itemTokens, readTexts_tokens, ha]
  | [a, b] =>
    obtain rfl : threadLocals = [] := hthreadLocals.2
    have ha : a.texts? = some exports := hexports
    have hb : b.texts? = some imports := himports
    simp [readRow, Value.itemTokens, readTexts_tokens, ha, hb]
  | [a, b, c] =>
    have ha : a.texts? = some exports := hexports
    have hb : b.texts? = some imports := himports
    have hc : c.texts? = some threadLocals := hthreadLocals
    simp [readRow, Value.itemTokens, readTexts_tokens, ha, hb, hc]
  | _ :: _ :: _ :: _ :: _ =>
    simp only [List.length_cons] at hlength
    omega

/-- Names are read off the tokens of a value exactly if it tells them. -/
lemma ofTokens?_eq_some_iff {s : Symbols} {ts : List Token} :
    ofTokens? ts = some s ↔ ∃ v : Value, ts = v.tokens ∧ s.ToldBy v := by
  constructor
  · intro h
    match ts with
    | .openObject :: ts =>
      obtain ⟨members, rfl, hs⟩ := ofTokens?_object_iff.1 h
      exact ⟨.object members, by simp [Value.tokens], hs⟩
    | .openList :: ts =>
      obtain ⟨items, rfl, hs⟩ := exists_items_of_readRow h
      exact ⟨.list items, by simp [Value.tokens], hs⟩
  · rintro ⟨v, rfl, hs⟩
    match v, hs with
    | .object members, hs =>
      rw [Value.tokens, List.cons_append]
      exact ofTokens?_object_iff.2 ⟨members, rfl, hs⟩
    | .list items, hs =>
      rw [Value.tokens, List.cons_append]
      exact readRow_itemTokens hs

/-- **Which texts are read, and as which names.**

**Proof sketch.** Both passes are exact: the tokens that are read are those of a value. -/
theorem decode?_eq_some_iff {text : String} {s : Symbols} :
    decode? text = some s ↔ ∃ v : Value, tokens? text = some v.tokens ∧ s.ToldBy v := by
  rw [decode?, Option.bind_eq_bind, Option.bind_eq_some_iff]
  simp only [ofTokens?_eq_some_iff]
  constructor
  · rintro ⟨_, htokens, v, rfl, hs⟩
    exact ⟨v, htokens, hs⟩
  · rintro ⟨v, htokens, hs⟩
    exact ⟨v.tokens, htokens, v, rfl, hs⟩

/-! ## The file that a session writes -/

/-- The value of the file that a session writes. -/
def value (s : Symbols) : Value :=
  .object (s.members.map fun m => (m.1.name.toList.map Char.toNat, .ofTexts m.2))

/-- With a comma between each two, and with one in front of each but the first. -/
lemma intercalate_comma {α : Type} (f : α → List Token) (xs : List α) :
    [Token.comma].intercalate (xs.map f) = (xs.flatMap fun x => .comma :: f x).tail := by
  induction xs with
  | nil => rfl
  | cons x xs ih =>
    cases xs with
    | nil => simp
    | cons y ys =>
      simp only [List.map_cons, List.intercalate_cons_cons, List.flatMap_cons, List.cons_append,
        List.tail_cons] at ih ⊢
      rw [ih, List.append_assoc]
      rfl

/-- The tokens of a list of texts as those of its value. -/
lemma tokens_ofTexts (texts : List String) : (Value.ofTexts texts).tokens = listTokens texts := by
  have hitems : Value.itemTokens (texts.map Value.ofText) =
      texts.flatMap fun s => [.comma, textToken s] := by
    induction texts with
    | nil => rfl
    | cons s texts ih =>
      rw [List.map_cons, Value.itemTokens, ih]
      rfl
  rw [listTokens, intercalate_comma, Value.ofTexts, Value.tokens, hitems]

/-- The tokens of the file that a session writes are those of its value. -/
lemma tokens_value (s : Symbols) : s.value.tokens = s.tokens := by
  have hmembers (ms : List (Key × List String)) :
      Value.memberTokens (ms.map fun m => (m.1.name.toList.map Char.toNat, .ofTexts m.2)) =
        ms.flatMap fun m => .comma :: memberTokens m.1 m.2 := by
    induction ms with
    | nil => rfl
    | cons m ms ih =>
      rw [List.map_cons, Value.memberTokens, ih, tokens_ofTexts]
      rfl
  rw [tokens, intercalate_comma, value, Value.tokens, hmembers]

/-- A session writes every key, but no thread-local variables if there are none. -/
lemma mem_members_iff {s : Symbols} {key : Key} :
    key ∈ s.members.map Prod.fst ↔ (key = .threadLocals → s.threadLocals ≠ []) := by
  unfold members
  cases key <;> cases s.threadLocals <;> simp

/-- **What is written is read back**, whatever the names are and whatever they were read from: the
file of a session is an object with the names under each key, thread-local variables only if there
are any, and it is read as the names it was written for; and whichever text some names were read
from, which are those of `ToldBy`, the file that is written for them is read as the same names. -/
theorem encode_faithful (s : Symbols) (text : String) :
    tokens? s.encode = some s.value.tokens ∧
      (∀ key, key ∈ s.members.map Prod.fst ↔ (key = .threadLocals → s.threadLocals ≠ [])) ∧
      decode? s.encode = some s ∧
      (decode? text = some s ↔ ∃ v : Value, tokens? text = some v.tokens ∧ s.ToldBy v) ∧
      ((decode? text).bind fun t => decode? t.encode) = decode? text := by
  have htokens : tokens? s.encode = some s.value.tokens := by
    rw [tokens_value]
    exact tokens?_of_cuts s.cuts_encode
  have hagain : ((decode? text).bind fun t => decode? t.encode) = decode? text := by
    cases decode? text with
    | none => rfl
    | some t => exact decode?_encode t
  exact ⟨htokens, fun _ => mem_members_iff, decode?_encode s, decode?_eq_some_iff, hagain⟩

end Symbols

end AslBuild
