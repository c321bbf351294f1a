import AslBuild.Json.Token
import Mathlib.Tactic.Lemma
set_option autoImplicit false

/-!
# Values and their tokens

A reader of tokens never builds a value: it skips one, or reads a list of texts off the tokens. What
it accepts is told here by the values themselves. A value is a tree, its tokens are those of its
members between brackets, and a reader that is given the tokens of a value leaves what stands behind
them. Nothing else is skipped: whatever a reader gets over are the tokens of some value.

## Main definitions

* `AslBuild.Json.Value` — a value, without what is not looked at.
* `AslBuild.Json.Value.tokens` — the tokens of a value.
* `AslBuild.Json.Value.texts?` — the texts of a value that is a list of texts.
* `AslBuild.Json.Closes` — what has to follow a value inside some enclosures.

## Main results

* `AslBuild.Json.skip_eq_some_iff` — exactly the tokens of a value are skipped.
* `AslBuild.Json.readTexts_eq_some_iff` — exactly the tokens of a list of texts are read.
-/

namespace AslBuild.Json

/-- A value. A number or a word is not looked into, so it has no parts. -/
inductive Value
  /-- The units of a text. -/
  | text (units : List Nat)
  /-- A number, a truth value or null. -/
  | atom
  /-- A list. -/
  | list (items : List Value)
  /-- An object: the units of each key, and the value under it. -/
  | object (members : List (List Nat × Value))

namespace Value

mutual

/-- The tokens of a value. No comma stands in front of the first item or member. -/
def tokens : Value → List Token
  | text units => [.text units]
  | atom => [.atom]
  | list items => .openList :: (itemTokens items).tail ++ [.closeList]
  | object members => .openObject :: (memberTokens members).tail ++ [.closeObject]

/-- The tokens of some items, with a comma in front of each. -/
def itemTokens : List Value → List Token
  | [] => []
  | v :: items => .comma :: v.tokens ++ itemTokens items

/-- The tokens of some members, with a comma in front of each. -/
def memberTokens : List (List Nat × Value) → List Token
  | [] => []
  | (key, v) :: members => .comma :: .text key :: .colon :: v.tokens ++ memberTokens members

end

/-- The text of a value that is a text. -/
def text? : Value → Option String
  | text units => (textOf? units).map String.ofList
  | _ => none

/-- The texts of a value that is a list of texts. -/
def texts? : Value → Option (List String)
  | list items => items.mapM text?
  | _ => none

end Value

open Value

/-! ## Skipping the tokens of a value -/

/-- Outside all enclosures nothing more is needed. -/
lemma skip_more_nil (rest : List Token) : skip .more [] rest = some rest := by
  simp [skip]

/-- Whether or not a value is enclosed, what follows it is skipped next. -/
@[simp] lemma skip_enclosed (outer : List Enclosure) (rest : List Token) :
    (if outer = [] then some rest else skip .more outer rest) = skip .more outer rest := by
  split
  · next h => rw [h, skip_more_nil]
  · rfl

mutual

/-- The tokens of a value are skipped. -/
lemma skip_tokens (v : Value) (outer : List Enclosure) (rest : List Token) :
    skip .value outer (v.tokens ++ rest) = skip .more outer rest := by
  match v with
  | .text units => simp [tokens, skip]
  | .atom => simp [tokens, skip]
  | .list [] => simp [tokens, itemTokens, skip]
  | .list (v :: items) =>
    have hitems := skip_itemTokens items outer rest
    have hv := skip_tokens v (.list :: outer) (itemTokens items ++ .closeList :: rest)
    rw [hitems] at hv
    rw [← hv]
    cases v <;> simp [tokens, itemTokens, skip]
  | .object [] => simp [tokens, memberTokens, skip]
  | .object ((key, v) :: members) =>
    have hmembers := skip_memberTokens members outer rest
    have hv := skip_tokens v (.object :: outer) (memberTokens members ++ .closeObject :: rest)
    rw [hmembers] at hv
    simp [tokens, memberTokens, skip, hv]

/-- The tokens of further items are skipped up to the end of their list. -/
lemma skip_itemTokens (items : List Value) (outer : List Enclosure) (rest : List Token) :
    skip .more (.list :: outer) (itemTokens items ++ .closeList :: rest) =
      skip .more outer rest := by
  match items with
  | [] => simp [itemTokens, skip]
  | v :: items =>
    simp only [itemTokens, List.cons_append, List.append_assoc, skip]
    rw [skip_tokens v, skip_itemTokens items]

/-- The tokens of further members are skipped up to the end of their object. -/
lemma skip_memberTokens (members : List (List Nat × Value)) (outer : List Enclosure)
    (rest : List Token) :
    skip .more (.object :: outer) (memberTokens members ++ .closeObject :: rest) =
      skip .more outer rest := by
  match members with
  | [] => simp [memberTokens, skip]
  | (key, v) :: members =>
    simp only [memberTokens, List.cons_append, List.append_assoc, skip]
    rw [skip_tokens v, skip_memberTokens members]

end

/-! ## Nothing else is skipped -/

/-- Some tokens close the enclosures of a value, the innermost first, and leave the rest. -/
def Closes (rest : List Token) : List Enclosure → List Token → Prop
  | [], ts => ts = rest
  | .list :: outer, ts =>
    ∃ items more, ts = itemTokens items ++ .closeList :: more ∧ Closes rest outer more
  | .object :: outer, ts =>
    ∃ members more, ts = memberTokens members ++ .closeObject :: more ∧ Closes rest outer more

/-- Some tokens are what has to come next, close the enclosures around it, and leave the rest. -/
inductive Meets (rest : List Token) : Expected → List Enclosure → List Token → Prop
  /-- The end of what encloses the value. -/
  | more {outer ts} (h : Closes rest outer ts) : Meets rest .more outer ts
  /-- A value. -/
  | value {outer ts} (v : Value) (h : Closes rest outer ts) :
    Meets rest .value outer (v.tokens ++ ts)
  /-- The first value of a list. -/
  | firstValue {outer ts} (h : Meets rest .value outer ts) : Meets rest .firstValue outer ts
  /-- The end of an empty list. -/
  | noValue {outer ts} (h : Closes rest outer ts) :
    Meets rest .firstValue (.list :: outer) (.closeList :: ts)
  /-- A key, with its value. -/
  | key {outer ts} (units : List Nat) (v : Value) (h : Closes rest outer ts) :
    Meets rest .key outer (.text units :: .colon :: (v.tokens ++ ts))
  /-- The first key of an object. -/
  | firstKey {outer ts} (h : Meets rest .key outer ts) : Meets rest .firstKey outer ts
  /-- The end of an empty object. -/
  | noKey {outer ts} (h : Closes rest outer ts) :
    Meets rest .firstKey (.object :: outer) (.closeObject :: ts)
  /-- The value under a key. -/
  | colon {outer ts} (v : Value) (h : Closes rest outer ts) :
    Meets rest .colon outer (.colon :: (v.tokens ++ ts))

section

variable {outer : List Enclosure} {ts rest : List Token}

/-- The end of a list closes it. -/
lemma Closes.endList (h : Closes rest outer ts) :
    Closes rest (.list :: outer) (.closeList :: ts) :=
  ⟨[], ts, rfl, h⟩

/-- The end of an object closes it. -/
lemma Closes.endObject (h : Closes rest outer ts) :
    Closes rest (.object :: outer) (.closeObject :: ts) :=
  ⟨[], ts, rfl, h⟩

/-- A list is closed after one more item. -/
lemma Meets.furtherItem (h : Meets rest .value (.list :: outer) ts) :
    Closes rest (.list :: outer) (.comma :: ts) := by
  obtain _ | ⟨v, items, more, rfl, h⟩ := h
  exact ⟨v :: items, more, by simp [itemTokens], h⟩

/-- An object is closed after one more member. -/
lemma Meets.furtherMember (h : Meets rest .key (.object :: outer) ts) :
    Closes rest (.object :: outer) (.comma :: ts) := by
  obtain _ | _ | _ | _ | ⟨key, v, members, more, rfl, h⟩ := h
  exact ⟨(key, v) :: members, more, by simp [memberTokens], h⟩

/-- What starts a list up to its end is a value. -/
lemma Meets.list (h : Meets rest .firstValue (.list :: outer) ts) :
    Meets rest .value outer (.openList :: ts) := by
  cases h with
  | noValue h => exact .value (.list []) h
  | firstValue h =>
    obtain ⟨items, more, hts, hmore⟩ := h.furtherItem
    have htail : (itemTokens items).tail ++ .closeList :: more = ts := by
      cases items with
      | nil => simp [itemTokens] at hts
      | cons v items => simpa [itemTokens] using hts.symm
    subst htail
    simpa [tokens] using Meets.value (.list items) hmore

/-- What starts an object up to its end is a value. -/
lemma Meets.object (h : Meets rest .firstKey (.object :: outer) ts) :
    Meets rest .value outer (.openObject :: ts) := by
  cases h with
  | noKey h => exact .value (.object []) h
  | firstKey h =>
    obtain ⟨members, more, hts, hmore⟩ := h.furtherMember
    have htail : (memberTokens members).tail ++ .closeObject :: more = ts := by
      cases members with
      | nil => simp [memberTokens] at hts
      | cons m members => simpa [memberTokens] using hts.symm
    subst htail
    simpa [tokens] using Meets.value (.object members) hmore

end

/-- Where a value stands as a whole, the enclosures around it are closed by what follows. -/
lemma Meets.closes {outer : List Enclosure} {ts rest : List Token}
    (h : Meets rest .more outer ts) : Closes rest outer ts := by
  cases h
  assumption

/-- What is skipped is what has to come next, and closes the enclosures around it.

**Proof sketch.** Induction on the steps of the reader. A value that stands alone ends with its last
token (the cases without an induction hypothesis). -/
lemma meets_of_skip {e : Expected} {outer : List Enclosure} {ts rest : List Token}
    (h : skip e outer ts = some rest) : Meets rest e outer ts := by
  fun_induction skip e outer ts with
  | case1 => exact .more (Option.some.inj h)
  | case2 _ _ ih => exact .more (ih h).furtherItem
  | case3 _ _ ih => exact .more (ih h).furtherMember
  | case4 => exact .more (Closes.endList (Option.some.inj h))
  | case5 _ _ _ ih => exact .more (ih h).closes.endList
  | case6 => exact .noValue (Option.some.inj h)
  | case7 _ _ _ ih => exact .noValue (ih h).closes
  | case8 => exact .more (Closes.endObject (Option.some.inj h))
  | case9 _ _ _ ih => exact .more (ih h).closes.endObject
  | case10 => exact .noKey (Option.some.inj h)
  | case11 _ _ _ ih => exact .noKey (ih h).closes
  | case12 outer units ts ih =>
    obtain _ | _ | _ | _ | _ | _ | _ | ⟨v, hmore⟩ := ih h
    exact .key units v hmore
  | case13 outer units ts ih =>
    obtain _ | _ | _ | _ | _ | _ | _ | ⟨v, hmore⟩ := ih h
    exact .firstKey (.key units v hmore)
  | case14 outer ts ih =>
    obtain _ | ⟨v, hmore⟩ := ih h
    exact .colon v hmore
  | case15 units => exact .value (.text units) (Option.some.inj h)
  | case16 _ units _ _ ih => exact .value (.text units) (ih h).closes
  | case17 units => exact .firstValue (.value (.text units) (Option.some.inj h))
  | case18 _ units _ _ ih => exact .firstValue (.value (.text units) (ih h).closes)
  | case19 => exact .value .atom (Option.some.inj h)
  | case20 _ _ _ ih => exact .value .atom (ih h).closes
  | case21 => exact .firstValue (.value .atom (Option.some.inj h))
  | case22 _ _ _ ih => exact .firstValue (.value .atom (ih h).closes)
  | case23 _ _ ih => exact (ih h).list
  | case24 _ _ ih => exact .firstValue (ih h).list
  | case25 _ _ ih => exact (ih h).object
  | case26 _ _ ih => exact .firstValue (ih h).object
  | case27 => cases h

/-- **Exactly the tokens of a value are skipped.** -/
theorem skip_eq_some_iff {ts rest : List Token} :
    skip .value [] ts = some rest ↔ ∃ v : Value, ts = v.tokens ++ rest := by
  constructor
  · intro h
    obtain _ | ⟨v, rfl⟩ := meets_of_skip h
    exact ⟨v, rfl⟩
  · rintro ⟨v, rfl⟩
    rw [skip_tokens, skip_more_nil]

/-! ## Lists of texts -/

/-- One text or more are read off the tokens of their items. An item that is no text, or whose units
are none, is refused.

**Proof sketch.** Induction on the items after the first one. -/
lemma readTextsTail_itemTokens (v : Value) (items : List Value) (rest : List Token) :
    readTextsTail ((itemTokens (v :: items)).tail ++ .closeList :: rest) =
      ((v :: items).mapM text?).map (·, rest) := by
  induction items generalizing v with
  | nil =>
    cases v with
    | text units => cases h : textOf? units <;> simp [itemTokens, tokens, readTextsTail, text?, h]
    | _ => simp [itemTokens, tokens, readTextsTail, text?]
  | cons w items ih =>
    cases v with
    | text units =>
      have htexts : (Value.text units :: w :: items).mapM text? =
          ((textOf? units).map String.ofList).bind fun s =>
            ((w :: items).mapM text?).bind fun texts => some (s :: texts) := List.mapM_cons
      have ih := ih w
      rw [itemTokens, List.cons_append, List.tail_cons] at ih
      rw [htexts]
      simp only [itemTokens, tokens, List.cons_append, List.nil_append, List.tail_cons,
        readTextsTail, ih]
      cases textOf? units with
      | none => rfl
      | some s => cases (w :: items).mapM text? <;> rfl
    | _ => simp [itemTokens, tokens, readTextsTail, text?]

/-- A list of texts is read off the tokens of a value, if the value is one. -/
lemma readTexts_tokens (v : Value) (rest : List Token) :
    readTexts (v.tokens ++ rest) = v.texts?.map (·, rest) := by
  match v with
  | .text _ | .atom | .object _ => simp [tokens, readTexts, texts?]
  | .list [] => simp [tokens, itemTokens, readTexts, texts?]
  | .list (v :: items) =>
    have htail := readTextsTail_itemTokens v items rest
    rw [texts?, ← htail]
    -- no value starts with the end of a list, so the list is not read as an empty one
    cases v <;> simp [tokens, itemTokens, readTexts]

/-- Texts that are read up to the end of their list are the items of one. -/
lemma exists_items_of_readTextsTail {ts rest : List Token} {texts : List String}
    (h : readTextsTail ts = some (texts, rest)) :
    ∃ v items, ts = (itemTokens (v :: items)).tail ++ .closeList :: rest := by
  fun_induction readTextsTail ts generalizing texts with
  | case1 units more =>
    obtain ⟨s, -, hs⟩ := Option.map_eq_some_iff.1 h
    obtain ⟨-, rfl⟩ := Prod.mk.inj hs
    exact ⟨.text units, [], by simp [itemTokens, tokens]⟩
  | case2 units more ih =>
    obtain ⟨s, -, h⟩ := Option.bind_eq_some_iff.1 h
    obtain ⟨r, hr, hs⟩ := Option.bind_eq_some_iff.1 h
    obtain ⟨-, rfl⟩ := Prod.mk.inj (Option.some.inj hs)
    obtain ⟨v, items, rfl⟩ := ih hr
    exact ⟨.text units, v :: items, by simp [itemTokens, tokens]⟩
  | case3 => cases h

/-- What is read as a list of texts are the tokens of a value. -/
lemma exists_value_of_readTexts {ts rest : List Token} {texts : List String}
    (h : readTexts ts = some (texts, rest)) : ∃ v : Value, ts = v.tokens ++ rest := by
  unfold readTexts at h
  split at h
  · obtain ⟨-, rfl⟩ := Prod.mk.inj (Option.some.inj h)
    exact ⟨.list [], rfl⟩
  · obtain ⟨v, items, rfl⟩ := exists_items_of_readTextsTail h
    exact ⟨.list (v :: items), by simp [tokens]⟩
  · cases h

/-- **Exactly the tokens of a list of texts are read.** -/
theorem readTexts_eq_some_iff {ts rest : List Token} {texts : List String} :
    readTexts ts = some (texts, rest) ↔
      ∃ v : Value, ts = v.tokens ++ rest ∧ v.texts? = some texts := by
  constructor
  · intro h
    obtain ⟨v, rfl⟩ := exists_value_of_readTexts h
    rw [readTexts_tokens] at h
    obtain ⟨_, hv, hpair⟩ := Option.map_eq_some_iff.1 h
    obtain ⟨rfl, -⟩ := Prod.mk.inj hpair
    exact ⟨v, rfl, hv⟩
  · rintro ⟨v, rfl, hv⟩
    rw [readTexts_tokens, hv]
    rfl

end AslBuild.Json
