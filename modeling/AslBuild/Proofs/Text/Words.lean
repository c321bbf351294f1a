import AslBuild.Text.Blank
import AslBuild.Text.Utf8
import Mathlib.Data.List.Basic
set_option autoImplicit false

/-!
# Texts that are put together

How the pieces, the trimmed form and the words of a text follow from those of its parts. A script is
written line by line and word by word, so these laws carry over to scripts: a text is read back if
no part of it holds the character that the parts are joined with.

A text is written to a file, and handed to a process, as its bytes in UTF-8. Two things are needed
of them: a text without bytes is empty, and the byte of a slash stands for a slash and for nothing
else, so that a process sees a path with a slash exactly if it is given one.

## Main definitions

* `AslBuild.Text.IsWord` — a text that is one word: not empty, and without a blank.

## Main results

* `AslBuild.Text.pieces_append_sep` — a separator between two texts cuts them apart.
* `AslBuild.Text.wordChars_trimEndChars` — blanks at the end do not count for the words.
* `AslBuild.Text.wordChars_intercalate` — words with spaces between them are read back.
* `AslBuild.Text.flatMap_words_eq_iff` — which texts are found again among their words.
* `AslBuild.Text.toList_toUTF8` — the bytes of a text are those of its characters, one after the
  other.
* `AslBuild.Text.Raw.slash_mem_ofText` — a text and the bytes of it agree on slashes.
-/

namespace AslBuild.Text

variable {sep : Char → Bool}

/-! ## Pieces -/

/-- A text lacks a character if its characters lack it; for literals this is quick to decide. -/
lemma not_mem_toList_ofList {c : Char} {cs : List Char} (h : c ∉ cs) :
    c ∉ (String.ofList cs).toList := by
  rwa [String.toList_ofList]

/-- The pieces are those that the library cuts a list into. -/
theorem pieces_eq_splitOnP (sep : Char → Bool) (cs : List Char) :
    pieces sep cs = cs.splitOnP sep := by
  induction cs with
  | nil => rfl
  | cons c cs ih =>
    rw [List.splitOnP_cons_eq_if_modifyHead, ← ih, pieces]
    cases hq : pieces sep cs with
    | nil => exact absurd hq (pieces_ne_nil sep cs)
    | cons q qs => rfl

/-- A text without a separator is one piece. -/
lemma pieces_of_forall {p : List Char} (hp : ∀ c ∈ p, sep c = false) : pieces sep p = [p] := by
  rw [pieces_eq_splitOnP, List.splitOnP_eq_singleton hp]

/-- A separator between two texts cuts them apart. -/
theorem pieces_append_sep {s : Char} (hs : sep s = true) (cs ds : List Char) :
    pieces sep (cs ++ s :: ds) = pieces sep cs ++ pieces sep ds := by
  simp only [pieces_eq_splitOnP, List.splitOnP_append_cons cs ds hs]

/-- What stands in front of a text and holds no separator goes to its first piece. -/
lemma pieces_append_of_forall {p : List Char} (hp : ∀ c ∈ p, sep c = false) (cs : List Char) :
    pieces sep (p ++ cs) = (pieces sep cs).modifyHead (p ++ ·) := by
  induction p with
  | nil => rw [List.nil_append]; cases pieces sep cs <;> rfl
  | cons c p ih =>
    have hc : sep c = false := hp c List.mem_cons_self
    have ih := ih fun d hd => hp d (List.mem_cons_of_mem _ hd)
    rw [List.cons_append, pieces, if_neg (by simp [hc]), ih]
    cases h : pieces sep cs with
    | nil => exact absurd h (pieces_ne_nil sep cs)
    | cons q qs => rfl

/-- What holds of a character and of all the characters of some texts holds of all the characters
of the texts joined with it. -/
lemma forall_mem_intercalate {P : Char → Prop} {s : Char} (hs : P s) {ls : List (List Char)}
    (hl : ∀ l ∈ ls, ∀ c ∈ l, P c) : ∀ c ∈ [s].intercalate ls, P c := by
  induction ls with
  | nil => simp
  | cons l ls ih =>
    have hfirst := hl l List.mem_cons_self
    have ih := ih fun l' h => hl l' (List.mem_cons_of_mem _ h)
    cases ls with
    | nil => rwa [List.intercalate_singleton]
    | cons l' ls =>
      rw [List.intercalate_cons_cons]
      intro c hc
      rcases List.mem_append.1 hc with hc | hc
      · rcases List.mem_append.1 hc with hc | hc
        · exact hfirst c hc
        · rwa [List.mem_singleton.1 hc]
      · exact ih c hc

/-! ## Trimming -/

/-- Trimming the end never reaches beyond a character that is not blank. -/
lemma trimEndChars_cons {c : Char} (hc : isBlank c = false) (cs : List Char) :
    trimEndChars (c :: cs) = c :: trimEndChars cs := by
  simp only [trimEndChars, List.reverse_cons, List.dropWhile_append]
  split
  · next h => simp_all
  · simp

/-- Trimming leaves a character in front that is not blank. -/
lemma trimChars_cons {c : Char} (hc : isBlank c = false) (cs : List Char) :
    trimChars (c :: cs) = c :: trimEndChars cs := by
  rw [trimChars, List.dropWhile_cons_of_neg (by simp [hc]), trimEndChars_cons hc]

/-- Trimming the end takes away nothing but blanks. -/
lemma exists_trimEndChars_append (cs : List Char) :
    ∃ blanks, cs = trimEndChars cs ++ blanks ∧ ∀ c ∈ blanks, isBlank c = true := by
  refine ⟨(cs.reverse.takeWhile isBlank).reverse, ?_, fun c hc => ?_⟩
  · rw [trimEndChars, ← List.reverse_append, List.takeWhile_append_dropWhile, List.reverse_reverse]
  · exact List.all_eq_true.1 List.all_takeWhile c (List.mem_reverse.1 hc)

/-! ## Words -/

/-- A text that is one word: not empty, and without a blank. -/
def IsWord (w : String) : Prop := w ≠ "" ∧ hasBlank w = false

instance (w : String) : Decidable (IsWord w) := inferInstanceAs (Decidable (_ ∧ _))

/-- A word, by its characters. -/
lemma isWord_iff {w : String} :
    IsWord w ↔ w.toList ≠ [] ∧ ∀ c ∈ w.toList, isBlank c = false := by
  simp [IsWord, hasBlank]

/-- A text is a word if its characters are those of a word; for literals this is quick to decide. -/
lemma isWord_ofList {w : List Char} (hw : w ≠ [] ∧ (w.all fun c => !isBlank c) = true) :
    IsWord (String.ofList w) := by
  simpa [isWord_iff] using hw

/-- Blanks are in a text that is put together exactly if they are in one of its parts. -/
@[simp] lemma hasBlank_append (s t : String) : hasBlank (s ++ t) = (hasBlank s || hasBlank t) := by
  simp [hasBlank]

/-- A word with a text behind it that holds no blank is a word. -/
lemma IsWord.append {w t : String} (hw : IsWord w) (ht : hasBlank t = false) : IsWord (w ++ t) := by
  refine ⟨fun h => hw.1 (String.append_eq_empty_iff.1 h).1, ?_⟩
  rw [hasBlank_append, hw.2, ht]
  rfl

/-- A digit is not blank. -/
lemma isBlank_of_isDigit {c : Char} (h : c.isDigit = true) : isBlank c = false := by
  simp only [Char.isDigit, ge_iff_le, Bool.and_eq_true, decide_eq_true_eq,
    UInt32.le_iff_toNat_le] at h
  obtain ⟨hlow, hhigh⟩ : 48 ≤ c.toNat ∧ c.toNat ≤ 57 := h
  simp only [isBlank, Bool.or_eq_false_iff, Bool.and_eq_false_iff, decide_eq_false_iff_not,
    beq_eq_false_iff_ne]
  omega

/-- A number is written with digits. -/
lemma isDigit_of_mem_toString {n : Nat} {c : Char} (hc : c ∈ (toString n).toList) :
    c.isDigit = true := by
  rw [Nat.toString_eq_repr, Nat.toList_repr] at hc
  exact Nat.isDigit_of_mem_toDigits (by decide) (by decide) hc

/-- A number is written without blanks. -/
lemma hasBlank_toString (n : Nat) : hasBlank (toString n) = false :=
  List.any_eq_false.2 fun c hc => by
    simp [isBlank_of_isDigit (isDigit_of_mem_toString (n := n) hc)]

/-- What is cut out as a word is one. -/
lemma isWord_of_mem {cs w : List Char} (hw : w ∈ wordChars cs) : IsWord (String.ofList w) := by
  rw [isWord_iff, String.toList_ofList]
  exact mem_words hw

/-- A blank between two texts keeps their words apart. -/
theorem wordChars_append_blank {b : Char} (hb : isBlank b = true) (cs ds : List Char) :
    wordChars (cs ++ b :: ds) = wordChars cs ++ wordChars ds := by
  simp only [wordChars, pieces_append_sep hb, List.filter_append]

/-- A word is the only word in it. -/
lemma wordChars_of_word {w : List Char} (h0 : w ≠ []) (hw : ∀ c ∈ w, isBlank c = false) :
    wordChars w = [w] := by
  simp [wordChars, pieces_of_forall hw, h0]

/-- Blanks after a text do not count for its words. -/
lemma wordChars_append_blanks (cs : List Char) {bs : List Char}
    (hb : ∀ b ∈ bs, isBlank b = true) : wordChars (cs ++ bs) = wordChars cs := by
  induction bs generalizing cs with
  | nil => rw [List.append_nil]
  | cons b bs ih =>
    have hnil : wordChars bs = [] := ih [] fun c hc => hb c (List.mem_cons_of_mem _ hc)
    rw [wordChars_append_blank (hb b List.mem_cons_self), hnil, List.append_nil]

/-- Trimming the end keeps the words. -/
theorem wordChars_trimEndChars (cs : List Char) : wordChars (trimEndChars cs) = wordChars cs := by
  obtain ⟨blanks, hcs, hb⟩ := exists_trimEndChars_append cs
  calc wordChars (trimEndChars cs)
      = wordChars (trimEndChars cs ++ blanks) := (wordChars_append_blanks _ hb).symm
    _ = wordChars cs := by rw [← hcs]

/-- Texts with spaces between them have the words of each text, one text after the other.

**Proof sketch.** Induction on the texts. The space after the first text cuts off its words. -/
theorem wordChars_spaced (ts : List (List Char)) :
    wordChars ([' '].intercalate ts) = ts.flatMap wordChars := by
  induction ts with
  | nil => rfl
  | cons t ts ih =>
    cases ts with
    | nil => rw [List.intercalate_singleton, List.flatMap_singleton]
    | cons u us =>
      rw [List.intercalate_cons_cons, List.append_assoc, List.singleton_append,
        wordChars_append_blank (by decide), ih]
      rfl

/-- Words with spaces between them are read back. -/
theorem wordChars_intercalate {ws : List (List Char)}
    (hw : ∀ w ∈ ws, w ≠ [] ∧ ∀ c ∈ w, isBlank c = false) :
    wordChars ([' '].intercalate ws) = ws := by
  have hsingle : ∀ w ∈ ws, wordChars w = [w] := fun w h => wordChars_of_word (hw w h).1 (hw w h).2
  calc wordChars ([' '].intercalate ws)
      = ws.flatMap wordChars := wordChars_spaced ws
    _ = ws.flatMap fun w => [w] := List.flatMap_congr hsingle
    _ = ws := List.flatMap_singleton' ws

/-- Texts with spaces between them have the words of each text. -/
lemma words_spaced (ts : List String) : words (" ".intercalate ts) = ts.flatMap words := by
  have hspace : " ".toList = [' '] := rfl
  rw [words, String.toList_intercalate, hspace, wordChars_spaced, List.map_flatMap,
    List.flatMap_map]
  rfl

/-- Trimming the end of a text keeps its words. -/
lemma words_trimEnd (s : String) : words (trimEnd s) = words s := by
  rw [words, trimEnd, String.toList_ofList, wordChars_trimEndChars]
  rfl

/-- Characters without a word among them are all blank. -/
lemma isBlank_of_wordChars_eq_nil {cs : List Char} (h : wordChars cs = []) :
    ∀ c ∈ cs, isBlank c = true := by
  induction cs with
  | nil => simp
  | cons c cs ih =>
    rw [wordChars, pieces] at h
    split at h
    · next hblank =>
      rw [List.filter_cons_of_neg (by simp)] at h
      exact List.forall_mem_cons.2 ⟨hblank, ih h⟩
    · -- the character is in the first piece, which would be a word
      cases hpieces : pieces isBlank cs with
      | nil => exact absurd hpieces (pieces_ne_nil _ cs)
      | cons p ps => simp [hpieces, consPiece] at h

/-- A text has no words exactly if all of it is blank. -/
lemma words_eq_nil_iff {s : String} : words s = [] ↔ ∀ c ∈ s.toList, isBlank c = true := by
  rw [words, List.map_eq_nil_iff]
  exact ⟨isBlank_of_wordChars_eq_nil, fun h => wordChars_append_blanks [] h⟩

/-- A text is the only word in it exactly if it is a word. -/
lemma words_eq_singleton_iff {w : String} : words w = [w] ↔ IsWord w := by
  constructor
  · intro h
    obtain ⟨v, hv, hw⟩ := List.mem_map.1 (h ▸ List.mem_singleton_self w : w ∈ words w)
    rw [← hw]
    exact isWord_of_mem hv
  · intro h
    obtain ⟨h0, hblank⟩ := isWord_iff.1 h
    rw [words, wordChars_of_word h0 hblank, List.map_singleton, String.ofList_toList]

/-- **Texts are what is found by cutting them into words** exactly if each of them is a word. -/
theorem flatMap_words_eq_iff {ts : List String} :
    ts.flatMap words = ts ↔ ∀ t ∈ ts, IsWord t := by
  constructor
  · intro h t ht
    rw [← h] at ht
    obtain ⟨u, -, hu⟩ := List.mem_flatMap.1 ht
    obtain ⟨v, hv, rfl⟩ := List.mem_map.1 hu
    exact isWord_of_mem hv
  · intro h
    calc ts.flatMap words
        = ts.flatMap fun t => [t] :=
          List.flatMap_congr fun t ht => words_eq_singleton_iff.2 (h t ht)
      _ = ts := List.flatMap_singleton' ts

/-! ## Bytes -/

/-- The bytes from a place on, put behind those in front of it. -/
lemma toList_loop (bytes : ByteArray) (i : Nat) (front : List UInt8) :
    ByteArray.toList.loop bytes i front = front.reverse ++ bytes.data.toList.drop i := by
  induction i, front using ByteArray.toList.loop.induct bytes with
  | case1 i front hmore ih =>
    have hget : bytes.get! i = bytes.data.toList[i] := by
      show bytes.data[i]! = _
      rw [getElem!_pos bytes.data i hmore, Array.getElem_toList]
    rw [ByteArray.toList.loop, if_pos hmore, ih, hget, List.reverse_cons, List.append_assoc,
      List.singleton_append, ← List.drop_eq_getElem_cons]
  | case2 i front hend =>
    have hnone : bytes.data.toList.length ≤ i := Nat.not_lt.1 hend
    rw [ByteArray.toList.loop, if_neg hend, List.drop_of_length_le hnone, List.append_nil]

/-- **The bytes of a text** are those of its characters, one after the other. -/
lemma toList_toUTF8 (s : String) :
    s.toUTF8.toList = s.toList.flatMap String.utf8EncodeChar := by
  have hbytes : s.toUTF8.toList = s.toUTF8.data.toList := toList_loop s.toUTF8 0 []
  have hencoded : s.toUTF8 = (s.toList.flatMap String.utf8EncodeChar).toByteArray :=
    String.utf8Encode_toList.symm
  rw [hbytes, hencoded, List.toList_data_toByteArray]

/-- **Only the empty text has no bytes.** -/
lemma toList_toUTF8_eq_nil_iff {s : String} : s.toUTF8.toList = [] ↔ s = "" := by
  rw [toList_toUTF8, List.flatMap_eq_nil_iff, ← String.toList_eq_nil_iff]
  simp only [String.utf8EncodeChar_ne_nil]
  exact List.eq_nil_iff_forall_not_mem.symm

/-- The byte of a slash stands for a slash: all bytes of a character beyond ASCII are above 127. -/
lemma slash_mem_utf8EncodeChar {c : Char} :
    UInt8.ofNat 47 ∈ String.utf8EncodeChar c ↔ c = '/' := by
  have hbyte (n : Nat) (h : n < 256) : UInt8.ofNat 47 = UInt8.ofNat n ↔ n = 47 := by
    rw [← UInt8.toNat_inj, UInt8.toNat_ofNat', UInt8.toNat_ofNat', Nat.mod_eq_of_lt h]
    omega
  have hchar : c = '/' ↔ c.val.toNat = 47 := by
    rw [← Char.toNat_inj]
    rfl
  rw [String.utf8EncodeChar, hchar]
  -- one case for each length of an encoding
  split
  · rw [List.mem_singleton, hbyte _ (by omega)]
  split
  · simp only [List.mem_cons, List.not_mem_nil, or_false]
    rw [hbyte _ (by omega), hbyte _ (by omega)]
    omega
  split
  · simp only [List.mem_cons, List.not_mem_nil, or_false]
    rw [hbyte _ (by omega), hbyte _ (by omega), hbyte _ (by omega)]
    omega
  · simp only [List.mem_cons, List.not_mem_nil, or_false]
    rw [hbyte _ (by omega), hbyte _ (by omega), hbyte _ (by omega), hbyte _ (by omega)]
    omega

namespace Raw

/-- **A raw text has a slash exactly if the text has one.** -/
lemma slash_mem_ofText {s : String} : '/' ∈ (ofText s).toList ↔ '/' ∈ s.toList := by
  have hchar (b : UInt8) : charOf b = '/' ↔ b = UInt8.ofNat 47 := by
    refine ⟨fun h => ?_, fun h => by rw [h]; rfl⟩
    rw [← byteOf_charOf b, h]
    rfl
  simp only [ofText, ofBytes, String.toList_ofList, List.mem_map, hchar, exists_eq_right]
  rw [toList_toUTF8, List.mem_flatMap]
  simp only [slash_mem_utf8EncodeChar, exists_eq_right]

/-- **Only the empty text has an empty raw text.** -/
lemma ofText_eq_empty_iff {s : String} : ofText s = "" ↔ s = "" := by
  rw [← String.toList_eq_nil_iff, ofText, ofBytes, String.toList_ofList, List.map_eq_nil_iff,
    toList_toUTF8_eq_nil_iff]

end Raw

end AslBuild.Text
