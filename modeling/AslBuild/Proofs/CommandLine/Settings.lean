import AslBuild.CommandLine.Settings
import AslBuild.Proofs.CommandLine.Spelling
set_option autoImplicit false

/-!
# What a command line sets

Switches, options and input files are taken into account one after the other. After each of them a
switch holds if it is the last of the occurrences of itself and its opposite, and an option has the
values that were given, in their order. Whether the next one is refused depends on what was said
before for the same field alone, and so does what it changes. So nothing comes of an exchange of
arguments that are for different fields.

## Main definitions

* `AslBuild.CommandLine.Holds` — whether the last word about a switch is the switch itself.
* `AslBuild.CommandLine.requests` — what may be asked for, the most important first.
* `AslBuild.CommandLine.Arguments.Reflects` — the arguments are what occurrences come to.
* `AslBuild.CommandLine.Occurrence.field?` — what an occurrence is for.
* `AslBuild.CommandLine.Proper` — whether nothing in a list is refused.

## Main results

* `AslBuild.CommandLine.Arguments.Reflects.add`, `AslBuild.CommandLine.Arguments.Reflects.addAll` —
  what one more occurrence changes, and what a list of them comes to.
* `AslBuild.CommandLine.Arguments.exists_ofWords_iff` — which command lines are accepted.
* `AslBuild.CommandLine.proper_iff_forall_field` — each field is checked by itself.
* `AslBuild.CommandLine.Arguments.ofWords_settings` — the settings of a command line.
-/

namespace AslBuild.CommandLine

/-! ## What is said -/

/-- Whether an occurrence is of a switch or of its opposite. -/
def Occurrence.isAbout (s : Switch) (o : Occurrence) : Bool :=
  o == .switched s || Arguments.isUndoneBy s o

/-- Whether a switch holds: the last of the occurrences of the switch and its opposite is one of the
switch. -/
def Holds (s : Switch) (os : List Occurrence) : Prop :=
  (os.filter (Occurrence.isAbout s)).getLast? = some (.switched s)

instance (s : Switch) (os : List Occurrence) : Decidable (Holds s os) :=
  inferInstanceAs (Decidable (_ = _))

/-- The values that are given for an option. -/
def valuesIn (o : Valued) (os : List Occurrence) : List String :=
  os.filterMap (Arguments.valueIn? o)

/-- The input files that are there. -/
def inputsIn (os : List Occurrence) : List Path := os.filterMap Arguments.inputIn?

/-- What may be asked for, the most important first, and whether it is. A dump of the final
definitions needs something to generate code from. A script is shown if all else fails. -/
def requests (os : List Occurrence) : List (Action × Bool) :=
  let said (s : Switch) : Bool := os.contains (.switched s)
  [(.showCompileFlags, said .printCompileFlags), (.showLinkFlags, said .printLinkFlags),
    (.generate, said .showFinal && (said .run || said .build || !(inputsIn os).isEmpty)),
    (.run, said .run), (.build, said .build), (.showScript, true)]

variable {s t : Switch} {o : Occurrence} {os os' : List Occurrence}

/-- A value is among those of an option if it is given for it. -/
lemma mem_valuesIn {v : Valued} {value : String} :
    value ∈ valuesIn v os ↔ .given v value ∈ os := by
  have hvalue (o : Occurrence) : Arguments.valueIn? v o = some value ↔ o = .given v value := by
    cases o with
    | given u text => simp [Arguments.valueIn?]
    | switched | input | wrong => simp [Arguments.valueIn?]
  simp [valuesIn, hvalue]

/-- The opposite of the opposite is the switch itself. -/
lemma Switch.opposite?_opposite (h : s.opposite? = some t) : t.opposite? = some s := by
  cases s with
  | autoCaseSplit on | constraintChecks on | lineInfo on | runtimeChecks on =>
    obtain rfl := Option.some.inj h
    simp [opposite?]
  | _ => exact absurd h (by simp [opposite?])

/-- An occurrence is undone by a switch if it is of the opposite. -/
lemma Arguments.isUndoneBy_eq_true_iff :
    isUndoneBy s o = true ↔ ∃ t, s.opposite? = some t ∧ o = .switched t := by
  unfold isUndoneBy
  cases s.opposite? with
  | none => simp
  | some t => simp

/-- One more occurrence about a switch is the last one. -/
lemma holds_append_singleton :
    Holds s (os ++ [o]) ↔ o = .switched s ∨ Holds s os ∧ Arguments.isUndoneBy s o = false := by
  unfold Holds
  rw [List.filter_append, List.filter_singleton]
  by_cases hself : o = .switched s
  · simp [Occurrence.isAbout, hself]
  · have habout : o.isAbout s = Arguments.isUndoneBy s o := by
      simp [Occurrence.isAbout, beq_eq_false_iff_ne.2 hself]
    rw [habout]
    cases Arguments.isUndoneBy s o <;> simp [hself]

/-- A switch without an opposite holds if it is there. -/
lemma holds_iff_mem (h : s.opposite? = none) : Holds s os ↔ .switched s ∈ os := by
  have hkind (o : Occurrence) : o.isAbout s = true ↔ o = .switched s := by
    simp [Occurrence.isAbout, Arguments.isUndoneBy, h]
  constructor
  · intro hlast
    exact List.mem_of_mem_filter (List.mem_of_getLast? hlast)
  · intro hmem
    have hfiltered := List.mem_filter.2 ⟨hmem, (hkind _).2 rfl⟩
    have hlast := List.getLast?_eq_some_getLast (List.ne_nil_of_mem hfiltered)
    have hsame := (hkind _).1 (List.mem_filter.1 (List.mem_of_getLast? hlast)).2
    rw [Holds, hlast, hsame]

/-! ## What arguments come to -/

namespace Occurrence

/-- What an occurrence undoes: a switch undoes its opposite. -/
def undoes : Occurrence → Occurrence → Bool
  | .switched s, p => Arguments.isUndoneBy s p
  | _, _ => false

/-- Only switches are undone. -/
lemma exists_of_undoes {p : Occurrence} (h : o.undoes p = true) : ∃ s, p = .switched s := by
  cases o with
  | switched t =>
    obtain ⟨s, -, rfl⟩ := Arguments.isUndoneBy_eq_true_iff.1 h
    exact ⟨s, rfl⟩
  | given | input | wrong => exact absurd h (by simp [undoes])

/-- What undoes a switch is its opposite. -/
lemma undoes_switched : o.undoes (.switched s) = Arguments.isUndoneBy s o := by
  rw [Bool.eq_iff_iff, Arguments.isUndoneBy_eq_true_iff]
  cases o with
  | switched t =>
    constructor
    · intro h
      obtain ⟨u, hu, hsame⟩ := Arguments.isUndoneBy_eq_true_iff.1 h
      obtain rfl := Occurrence.switched.inj hsame
      exact ⟨t, Switch.opposite?_opposite hu, rfl⟩
    · rintro ⟨u, hu, hsame⟩
      obtain rfl := Occurrence.switched.inj hsame
      exact Arguments.isUndoneBy_eq_true_iff.2 ⟨s, Switch.opposite?_opposite hu, rfl⟩
  | given | input | wrong => simp [undoes]

end Occurrence

/-- Whether an occurrence may come behind others. It is refused if a switch that holds is repeated,
if an option that may not be is repeated or does not take the value, if an input file has no name,
and if it asks for help or for the version. -/
def MayFollow (os : List Occurrence) : Occurrence → Prop
  | .switched s => s ≠ .help ∧ s ≠ .version ∧ ¬ Holds s os
  | .given o value => o.accepts value = true ∧ (o.isRepeatable = true ∨ valuesIn o os = [])
  | .input path => path ≠ ""
  | .wrong => False

namespace Arguments

variable {a b : Arguments}

/-- The arguments are what occurrences come to: the switches that hold are there, and the values and
input files in their order. -/
structure Reflects (a : Arguments) (os : List Occurrence) : Prop where
  has : ∀ s, a.has s = true ↔ Holds s os
  values : ∀ o, a.values o = valuesIn o os
  inputs : a.inputs = inputsIn os

/-- No arguments are what no occurrence comes to. -/
lemma reflects_nil : Reflects ⟨[]⟩ [] where
  has s := by simp [has, Holds]
  values _ := rfl
  inputs := rfl

/-- Arguments with one more occurrence, which may undo another one. -/
def extended (a : Arguments) (o : Occurrence) : Arguments :=
  ⟨a.seen.filter (fun p => !o.undoes p) ++ [o]⟩

/-- What is read off anything but switches is read off the occurrences one after the other. -/
lemma filterMap_extended {α : Type} {f : Occurrence → Option α} (hf : ∀ s, f (.switched s) = none) :
    (a.extended o).seen.filterMap f = a.seen.filterMap f ++ [o].filterMap f := by
  rw [extended, List.filterMap_append, List.filterMap_filter]
  congr 1
  refine List.filterMap_congr fun p _ => ?_
  cases hundone : o.undoes p with
  | false => rfl
  | true =>
    obtain ⟨s, rfl⟩ := Occurrence.exists_of_undoes hundone
    exact (hf s).symm

/-- **What one more occurrence changes.** -/
theorem Reflects.extended (ha : a.Reflects os) (o : Occurrence) :
    (a.extended o).Reflects (os ++ [o]) where
  has s := by
    rw [holds_append_singleton, ← ha.has, ← Occurrence.undoes_switched, Arguments.has,
      Arguments.has, Arguments.extended, List.contains_iff_mem, List.contains_iff_mem,
      List.mem_append, List.mem_filter, List.mem_singleton, or_comm, @eq_comm _ o,
      Bool.not_eq_true']
  values v := by
    rw [valuesIn, List.filterMap_append, ← valuesIn, ← ha.values]
    exact filterMap_extended fun s => rfl
  inputs := by
    rw [inputsIn, List.filterMap_append, ← inputsIn, ← ha.inputs]
    exact filterMap_extended fun s => rfl

/-- What is no switch undoes nothing. -/
lemma extended_of_undoes (h : ∀ p, o.undoes p = false) : a.extended o = ⟨a.seen ++ [o]⟩ := by
  simp [extended, h]

/-- A switch that does not ask for help or the version is taken into account if it is new. -/
lemma add_switched (hhelp : s ≠ .help) (hversion : s ≠ .version) :
    a.add (.switched s) =
      if a.has s then .error .usage else .ok (a.extended (.switched s)) := by
  unfold add
  split
  · next h => exact absurd h (by simp)
  · next h => exact absurd (Occurrence.switched.inj h) hhelp
  · next h => exact absurd (Occurrence.switched.inj h) hversion
  · next h =>
    obtain rfl := Occurrence.switched.inj h
    rfl
  · next h => exact absurd h (by simp)
  · next h => exact absurd h (by simp)

/-- An occurrence is taken into account if it may follow those that the arguments come from. -/
lemma Reflects.add_eq_ok_iff (ha : a.Reflects os) :
    a.add o = .ok b ↔ MayFollow os o ∧ a.extended o = b := by
  cases o with
  | wrong => simp [add, MayFollow]
  | switched s =>
    show _ ↔ (s ≠ .help ∧ s ≠ .version ∧ ¬ Holds s os) ∧ _
    rw [← ha.has]
    by_cases hhelp : s = .help
    · subst hhelp
      simp [add]
    · by_cases hversion : s = .version
      · subst hversion
        simp [add]
      · rw [add_switched hhelp hversion]
        cases a.has s <;> simp [hhelp, hversion]
  | given o value =>
    show _ ↔ (o.accepts value = true ∧ (o.isRepeatable = true ∨ valuesIn o os = [])) ∧ _
    rw [← ha.values, extended_of_undoes fun p => rfl]
    unfold add value?
    cases haccepts : o.accepts value <;> cases hrepeat : o.isRepeatable <;>
      cases hvalues : a.values o <;> simp [haccepts, hrepeat, hvalues]
  | input path =>
    show _ ↔ path ≠ "" ∧ _
    rw [extended_of_undoes fun p => rfl]
    unfold add
    by_cases hpath : path = "" <;> simp [hpath]

end Arguments

/-! ## Which command lines are accepted -/

/-- Whether nothing in a list of occurrences is refused. -/
def Proper (os : List Occurrence) : Prop :=
  ∀ before o after, os = before ++ o :: after → MayFollow before o

/-- What cannot be read is refused. -/
lemma Proper.wrong_notMem (h : Proper os) : .wrong ∉ os := by
  intro hmem
  obtain ⟨before, after, hsplit⟩ := List.append_of_mem hmem
  exact h before .wrong after hsplit

namespace Arguments

variable {a b : Arguments} {words : List String}

/-- **What a list of occurrences comes to**, if none of them is refused. -/
theorem Reflects.addAll (ha : a.Reflects os) (h : a.addAll os' = .ok b) :
    b.Reflects (os ++ os') := by
  induction os' generalizing a os with
  | nil =>
    obtain rfl := Except.ok.inj h
    rwa [List.append_nil]
  | cons o os' ih =>
    obtain ⟨c, hadd, hrest⟩ := bind_eq_ok_iff.1 h
    obtain ⟨-, rfl⟩ := ha.add_eq_ok_iff.1 hadd
    have hb := ih (ha.extended o) hrest
    rwa [List.append_assoc] at hb

/-- Occurrences are all taken into account if each of them may follow those before it. -/
lemma Reflects.exists_addAll_iff (ha : a.Reflects os) :
    (∃ b, a.addAll os' = .ok b) ↔
      ∀ before o after, os' = before ++ o :: after → MayFollow (os ++ before) o := by
  induction os' generalizing a os with
  | nil => simp [Arguments.addAll]
  | cons p rest ih =>
    have hrest : (∃ b, a.addAll (p :: rest) = .ok b) ↔
        MayFollow os p ∧ ∃ b, (a.extended p).addAll rest = .ok b := by
      simp only [Arguments.addAll, bind_eq_ok_iff, ha.add_eq_ok_iff]
      constructor
      · rintro ⟨b, c, ⟨hfollow, rfl⟩, hb⟩
        exact ⟨hfollow, b, hb⟩
      · rintro ⟨hfollow, b, hb⟩
        exact ⟨b, _, ⟨hfollow, rfl⟩, hb⟩
    rw [hrest, ih (ha.extended p)]
    constructor
    · rintro ⟨hfirst, hlater⟩ before o after hsplit
      cases before with
      | nil =>
        obtain ⟨rfl, rfl⟩ := List.cons.inj hsplit
        rwa [List.append_nil]
      | cons q before =>
        obtain ⟨rfl, rfl⟩ := List.cons.inj hsplit
        simpa using hlater before o after rfl
    · intro h
      refine ⟨by simpa using h [] p rest rfl, fun before o after hsplit => ?_⟩
      simpa using h (p :: before) o after (by rw [hsplit]; rfl)

/-- **A command line is accepted** exactly if nothing that is read from it is refused. -/
theorem exists_ofWords_iff : (∃ a, ofWords words = .ok a) ↔ Proper (readWords none words) :=
  reflects_nil.exists_addAll_iff

/-- The arguments are then what is read from it. -/
lemma reflects_of_ofWords (h : ofWords words = .ok a) : a.Reflects (readWords none words) :=
  reflects_nil.addAll h

end Arguments

/-! ## Fields -/

/-- The switch of a pair that turns something on, which stands for the pair. -/
def Switch.positive : Switch → Switch
  | .autoCaseSplit _ => .autoCaseSplit true
  | .constraintChecks _ => .constraintChecks true
  | .lineInfo _ => .lineInfo true
  | .runtimeChecks _ => .runtimeChecks true
  | s => s

/-- What an occurrence may be for. -/
inductive Field
  /-- A switch, or a pair of them. -/
  | switch (s : Switch)
  /-- An option other than the optimisation level. -/
  | option (o : Valued)
  /-- One of the optimisation levels. -/
  | level (value : String)
  /-- The input files. -/
  | inputs
deriving DecidableEq

/-- What an occurrence is for. -/
def Occurrence.field? : Occurrence → Option Field
  | .switched s => some (.switch s.positive)
  | .given .level value => some (.level value)
  | .given o _ => some (.option o)
  | .input _ => some .inputs
  | .wrong => none

/-- The occurrences that are for a field. -/
def ofField (k : Option Field) (os : List Occurrence) : List Occurrence :=
  os.filter fun o => o.field? == k

variable {k : Option Field}

/-- A switch and its opposite are for the same field. -/
lemma Occurrence.field?_of_isAbout (h : o.isAbout s = true) :
    o.field? = (Occurrence.switched s).field? := by
  rw [isAbout, Bool.or_eq_true, beq_iff_eq, Arguments.isUndoneBy_eq_true_iff] at h
  obtain rfl | ⟨t, hopposite, rfl⟩ := h
  · rfl
  · cases s with
    | autoCaseSplit on | constraintChecks on | lineInfo on | runtimeChecks on =>
      obtain rfl := Option.some.inj hopposite
      rfl
    | _ => exact absurd hopposite (by simp [Switch.opposite?])

/-- Whether a switch holds is said by the occurrences for its field. -/
lemma holds_ofField : Holds s (ofField (Occurrence.switched s).field? os) ↔ Holds s os := by
  have hsame : (ofField (Occurrence.switched s).field? os).filter (Occurrence.isAbout s) =
      os.filter (Occurrence.isAbout s) := by
    rw [ofField, List.filter_filter]
    refine List.filter_congr fun o _ => ?_
    cases habout : o.isAbout s with
    | false => rfl
    | true => simp [Occurrence.field?_of_isAbout habout]
  rw [Holds, Holds, hsame]

/-- What is read off the occurrences for one field is read off these alone. -/
lemma filterMap_ofField {α : Type} {f : Occurrence → Option α}
    (hf : ∀ o, f o ≠ none → o.field? = k) : (ofField k os).filterMap f = os.filterMap f := by
  rw [ofField, List.filterMap_filter]
  refine List.filterMap_congr fun o _ => ?_
  split
  · rfl
  · next hother =>
    by_contra hsome
    exact hother (beq_iff_eq.2 (hf o (Ne.symm hsome)))

/-- The values of an option are given by the occurrences for it. -/
lemma valuesIn_ofField {v : Valued} (hv : v ≠ .level) :
    valuesIn v (ofField (some (.option v)) os) = valuesIn v os := by
  refine filterMap_ofField fun o hsome => ?_
  cases o with
  | given u value =>
    have hu : u = v := by
      by_contra hne
      exact hsome (by simp [Arguments.valueIn?, hne])
    subst hu
    cases u with
    | level => exact absurd rfl hv
    | _ => rfl
  | switched | input | wrong => exact absurd rfl hsome

/-- So are the input files. -/
lemma inputsIn_ofField : inputsIn (ofField (some .inputs) os) = inputsIn os := by
  refine filterMap_ofField fun o hsome => ?_
  cases o with
  | input path => rfl
  | switched | given | wrong => exact absurd rfl hsome

/-- Whether an occurrence is refused depends on those for the same field. -/
lemma mayFollow_ofField : MayFollow (ofField o.field? os) o ↔ MayFollow os o := by
  cases o with
  | switched s =>
    show (_ ∧ _ ∧ ¬ Holds s _) ↔ _ ∧ _ ∧ ¬ Holds s _
    rw [holds_ofField]
  | given v value =>
    by_cases hv : v = .level
    · subst hv
      simp [MayFollow, Valued.isRepeatable]
    · have hfield : (Occurrence.given v value).field? = some (.option v) := by
        cases v with
        | level => exact absurd rfl hv
        | _ => rfl
      show (_ ∧ (_ ∨ valuesIn v _ = [])) ↔ _ ∧ (_ ∨ valuesIn v _ = [])
      rw [hfield, valuesIn_ofField hv]
  | input | wrong => exact Iff.rfl

/-- **Each field is checked by itself.** -/
theorem proper_iff_forall_field : Proper os ↔ ∀ k, Proper (ofField k os) := by
  constructor
  · intro h k before o after hsplit
    obtain ⟨front, back, rfl, hfront, hback⟩ := List.filter_eq_append_iff.1 hsplit
    obtain ⟨middle, rest, rfl, hmiddle, ho, -⟩ := List.filter_eq_cons_iff.1 hback
    obtain rfl := beq_iff_eq.1 ho
    -- nothing between the two parts is for this field
    have hbefore : ofField o.field? (front ++ middle) = before := by
      rw [ofField, List.filter_append, hfront, List.filter_eq_nil_iff.2 hmiddle, List.append_nil]
    rw [← hbefore, mayFollow_ofField]
    exact h (front ++ middle) o rest (by rw [List.append_assoc])
  · rintro h before o after rfl
    rw [← mayFollow_ofField]
    refine h o.field? _ o (ofField o.field? after) ?_
    simp [ofField]

/-- Occurrences for different fields may be exchanged: those for each field stay in their order. -/
lemma ofField_exchange {front first second back : List Occurrence}
    (h : ∀ p ∈ first, ∀ q ∈ second, p.field? ≠ q.field?) (k : Option Field) :
    ofField k (front ++ (second ++ (first ++ back))) =
      ofField k (front ++ (first ++ (second ++ back))) := by
  simp only [ofField, List.filter_append]
  by_cases hfirst : ∃ p ∈ first, p.field? = k
  · obtain ⟨p, hp, rfl⟩ := hfirst
    have hnone : second.filter (fun q => q.field? == p.field?) = [] :=
      List.filter_eq_nil_iff.2 fun q hq heq => h p hp q hq (beq_iff_eq.1 heq).symm
    rw [hnone, List.nil_append, List.nil_append]
  · have hnone : first.filter (fun p => p.field? == k) = [] :=
      List.filter_eq_nil_iff.2 fun p hp heq => hfirst ⟨p, hp, beq_iff_eq.1 heq⟩
    rw [hnone, List.nil_append, List.nil_append]

/-! ## Settings -/

namespace Arguments

variable {a b : Arguments} {words : List String}

/-- Arguments come to the same if they agree on switches, values and input files; only the order of
the optimisation levels does not matter. -/
lemma settings_congr (hhas : ∀ s, a.has s = b.has s)
    (hvalues : ∀ v, v ≠ .level → a.values v = b.values v)
    (hlevels : ∀ value, value ∈ a.values .level ↔ value ∈ b.values .level)
    (hinputs : a.inputs = b.inputs) : a.settings = b.settings := by
  have hvalue (v : Valued) (hv : v ≠ .level) : a.value? v = b.value? v :=
    congrArg List.head? (hvalues v hv)
  simp [settings, action, numberOf, pathsOf, backend, hhas, hvalues, hvalue, hlevels, hinputs]

/-- **The settings depend on what is said for each field**, not on what stands between. -/
theorem Reflects.settings_eq (ha : a.Reflects os) (hb : b.Reflects os')
    (h : ∀ k, ofField k os' = ofField k os) : b.settings = a.settings ∧ b.inputs = a.inputs := by
  have hinputs : b.inputs = a.inputs := by
    rw [hb.inputs, ha.inputs, ← inputsIn_ofField, h, inputsIn_ofField]
  refine ⟨settings_congr (fun s => ?_) (fun v hv => ?_) (fun value => ?_) hinputs, hinputs⟩
  · rw [Bool.eq_iff_iff, hb.has, ha.has, ← holds_ofField, h, holds_ofField]
  · rw [hb.values, ha.values, ← valuesIn_ofField hv, h, valuesIn_ofField hv]
  · have hlevel (os : List Occurrence) : .given .level value ∈ os ↔
        .given .level value ∈ ofField (some (.level value)) os := by
      simp [ofField, Occurrence.field?]
    rw [hb.values, ha.values, mem_valuesIn, mem_valuesIn, hlevel, h, ← hlevel]

/-- A level is given if it is among the values. -/
lemma Reflects.mem_levels {value : String} (ha : a.Reflects os) :
    (a.values .level).contains value = true ↔ .given .level value ∈ os := by
  rw [List.contains_iff_mem, ha.values, mem_valuesIn]

/-- What the session does is the first thing that is asked for. -/
lemma Reflects.find?_requests (ha : a.Reflects os) :
    (requests os).find? Prod.snd = some (a.action, true) := by
  have hsaid (s : Switch) (hs : s.opposite? = none) : os.contains (.switched s) = a.has s := by
    rw [Bool.eq_iff_iff, List.contains_iff_mem, ha.has, holds_iff_mem hs]
  unfold requests action
  dsimp only
  rw [hsaid .printCompileFlags rfl, hsaid .printLinkFlags rfl, hsaid .showFinal rfl,
    hsaid .run rfl, hsaid .build rfl, ← ha.inputs]
  cases a.has .printCompileFlags <;> cases a.has .printLinkFlags <;> cases a.has .showFinal <;>
    cases a.has .run <;> cases a.has .build <;> cases a.inputs.isEmpty <;> rfl

/-- **What a command line sets.** Let the words of a command line be accepted. They say in just one
way what they say. Of each pair of switches the last one counts. The optimisation levels `0` and
`bounded` count if they are given at all. Exported and imported functions, thread-local variables,
configuration files, further sources and input files are the given ones in their order. The session
does the first of the things that are asked for. Two arguments next to each other that are for
different fields may be exchanged: the words are accepted again, with the same settings and input
files.

**Proof sketch.** After each argument the switches and values are those that the occurrences so far
come to (`Reflects.addAll`). Each field is checked by itself (`proper_iff_forall_field`), and an
exchange leaves the occurrences for each field as they are (`ofField_exchange`). -/
theorem ofWords_settings (h : ofWords words = .ok a) :
    ∃ os, Written words os ∧ (∀ os', Written words os' → os' = os) ∧
      (a.settings.autoCaseSplit = true ↔ Holds (.autoCaseSplit true) os) ∧
      (a.settings.checkConstraints = true ↔ Holds (.constraintChecks true) os) ∧
      (a.settings.lineInfo = true ↔ Holds (.lineInfo true) os) ∧
      (a.settings.checkRuntime = true ↔ Holds (.runtimeChecks true) os) ∧
      (a.settings.minimal = true ↔ .given .level "0" ∈ os) ∧
      (a.settings.boundedInts = true ↔ .given .level "bounded" ∈ os) ∧
      a.settings.exports = valuesIn .exported os ∧
      a.settings.imports = valuesIn .imported os ∧
      a.settings.threadLocals = valuesIn .threadLocal os ∧
      a.settings.configurations = (valuesIn .configuration os).map Path.mk ∧
      a.settings.extraC = (valuesIn .extraC os).map Path.mk ∧
      a.inputs = inputsIn os ∧
      (requests os).find? Prod.snd = some (a.settings.action, true) ∧
      ∀ front first second back osf os₁ os₂, words = front ++ (first ++ (second ++ back)) →
        Spelled front osf → Spells first os₁ → Spells second os₂ →
        (∀ p ∈ os₁, ∀ q ∈ os₂, p.field? ≠ q.field?) →
        ∃ b, ofWords (front ++ (second ++ (first ++ back))) = .ok b ∧
          b.settings = a.settings ∧ b.inputs = a.inputs := by
  have ha := reflects_of_ofWords h
  have hproper : Proper (readWords none words) := exists_ofWords_iff.1 ⟨a, h⟩
  refine ⟨readWords none words, written_iff.2 ⟨rfl, hproper.wrong_notMem⟩,
    fun os' hos' => (written_iff.1 hos').1.symm, ha.has _, ha.has _, ha.has _, ha.has _,
    ha.mem_levels, ha.mem_levels, ha.values _, ha.values _, ha.values _,
    congrArg (List.map Path.mk) (ha.values _), congrArg (List.map Path.mk) (ha.values _),
    ha.inputs, ha.find?_requests, ?_⟩
  rintro front first second back osf os₁ os₂ rfl hfront hfirst hsecond hapart
  have hread : readWords none (front ++ (first ++ (second ++ back))) =
      osf ++ (os₁ ++ (os₂ ++ readWords none back)) := by
    rw [(hfront.readWords_append _).1, (hfirst.readWords_append _).1,
      (hsecond.readWords_append _).1]
  have hread' : readWords none (front ++ (second ++ (first ++ back))) =
      osf ++ (os₂ ++ (os₁ ++ readWords none back)) := by
    rw [(hfront.readWords_append _).1, (hsecond.readWords_append _).1,
      (hfirst.readWords_append _).1]
  have hfields (k : Option Field) :
      ofField k (readWords none (front ++ (second ++ (first ++ back)))) =
        ofField k (readWords none (front ++ (first ++ (second ++ back)))) := by
    rw [hread, hread', ofField_exchange hapart]
  obtain ⟨b, hb⟩ := exists_ofWords_iff.2 (proper_iff_forall_field.2 fun k => by
    rw [hfields]
    exact proper_iff_forall_field.1 hproper k)
  exact ⟨b, hb, ha.settings_eq (reflects_of_ofWords hb) hfields⟩

/-- A command line that turns line information on and off again, gives a level behind a switch with
a letter, and exports two functions; and the same with an export and a switch exchanged. -/
theorem ofWords_settings_build : ∃ a b : Arguments,
    ofWords ["--line-info", "--export", "f", "--no-line-info", "-vO0", "--export=g", "--build",
      "a.asl"] = .ok a ∧
      a.settings.lineInfo = false ∧ a.settings.minimal = true ∧ a.settings.boundedInts = false ∧
      a.settings.exports = ["f", "g"] ∧ a.inputs = [⟨"a.asl"⟩] ∧ a.settings.action = .build ∧
      ofWords ["--line-info", "--no-line-info", "--export", "f", "-vO0", "--export=g", "--build",
        "a.asl"] = .ok b ∧
      b.settings = a.settings ∧ b.inputs = a.inputs := by
  have h : ofWords ["--line-info", "--export", "f", "--no-line-info", "-vO0", "--export=g",
      "--build", "a.asl"] = .ok ⟨[.given .exported "f", .switched (.lineInfo false),
        .switched .verbose, .given .level "0", .given .exported "g", .switched .build,
        .input "a.asl"]⟩ := by decide +kernel
  obtain ⟨os, -, hunique, -, -, hlines, -, hminimal, hbounded, hexports, -, -, -, -, hinputs,
    haction, hexchange⟩ := ofWords_settings h
  obtain rfl := hunique _ (written_iff.2 ⟨rfl, by decide +kernel⟩)
  have hrequest : (requests (readWords none ["--line-info", "--export", "f", "--no-line-info",
      "-vO0", "--export=g", "--build", "a.asl"])).find? Prod.snd = some (.build, true) := by
    decide +kernel
  have hfirst : Spells ["--line-info"] [.switched (.lineInfo true)] :=
    .word (readWord_eq_iff.1 (by decide +kernel))
  have hwaits : WordSays "--export" [] (some .exported) := readWord_eq_iff.1 (by decide +kernel)
  have hexport : Spells ["--export", "f"] [.given .exported "f"] := .withValue hwaits (by decide)
  have hswitch : Spells ["--no-line-info"] [.switched (.lineInfo false)] :=
    .word (readWord_eq_iff.1 (by decide +kernel))
  obtain ⟨b, hb, hsettings, hsame⟩ := hexchange ["--line-info"] _ _
    ["-vO0", "--export=g", "--build", "a.asl"] _ _ _ rfl (.cons hfirst .nil) hexport hswitch
    (by decide)
  exact ⟨_, b, h, Bool.eq_false_iff.2 (hlines.not.2 (by decide +kernel)),
    hminimal.2 (by decide +kernel), Bool.eq_false_iff.2 (hbounded.not.2 (by decide +kernel)),
    hexports.trans (by decide +kernel), hinputs.trans (by decide +kernel),
    (Prod.mk.inj (Option.some.inj (haction.symm.trans hrequest))).1, hb, hsettings, hsame⟩

end Arguments

end AslBuild.CommandLine
