import AslBuild.Proofs.Pipeline.Building
import Mathlib.Data.List.Chain
set_option autoImplicit false

/-!
# Snapshots

Snapshots show what the stages of a pipeline do and change nothing about them: without its snapshots
a pipeline is the one that is built if none are wanted. Their files have different names, and in a
pipeline the names sort in the order of the stages.

## Main definitions

* `AslBuild.Stage.writtenFile?` — the file that a snapshot writes.
* `AslBuild.Pipeline.snapshotFiles` — the files that the snapshots of a pipeline write.

## Main results

* `AslBuild.Stage.withSnapshotsFrom_append_quit` — how stages and their snapshots alternate.
* `AslBuild.Pipeline.withoutSnapshots_withSnapshots` — snapshots can be taken out again.
* `AslBuild.Stage.snapshotFile_number_inj`, `AslBuild.Stage.snapshotFile_lt` — files of snapshots
  with different numbers.
* `AslBuild.Settings.pipelineInto_snapshots` — a pipeline with snapshots against one without.
-/

namespace AslBuild

namespace Stage

/-! ## Numbers -/

/-- The number of a snapshot has only digits. -/
lemma isDigit_of_mem_twoDigits {n : Nat} {c : Char} (hc : c ∈ (twoDigits n).toList) :
    c.isDigit = true := by
  unfold twoDigits at hc
  split at hc
  · rw [String.toList_append] at hc
    rcases List.mem_append.1 hc with hc | hc
    · obtain rfl : c = '0' := by simpa using hc
      decide
    · exact Text.isDigit_of_mem_toString hc
  · exact Text.isDigit_of_mem_toString hc

/-- The number of a snapshot can be read off its digits. -/
lemma ofDigitChars_twoDigits (n : Nat) : Nat.ofDigitChars 10 (twoDigits n).toList 0 = n := by
  unfold twoDigits
  split
  · simp [Nat.ofDigitChars_cons]
  · simp

/-- Up to 99, the number of a snapshot has exactly two digits. -/
lemma toList_twoDigits {n : Nat} (hn : n < 100) :
    (twoDigits n).toList = [(n / 10).digitChar, (n % 10).digitChar] := by
  unfold twoDigits
  split
  · next h =>
    rw [Nat.div_eq_of_lt h, Nat.mod_eq_of_lt h]
    simp [Nat.toDigits_of_lt_base h]
  · next h =>
    have htens : n / 10 < 10 := by omega
    rw [Nat.toString_eq_repr, Nat.toList_repr, Nat.toDigits_of_base_le (by decide) (by omega),
      Nat.toDigits_of_lt_base htens]
    rfl

/-- A smaller digit comes first in the order of characters. -/
lemma digitChar_lt {m n : Nat} (h : m < n) (hn : n < 10) : m.digitChar < n.digitChar := by
  have hm : m.digitChar.toNat = 48 + m := Nat.toNat_digitChar_of_lt_ten (by omega)
  have hn : n.digitChar.toNat = 48 + n := Nat.toNat_digitChar_of_lt_ten hn
  rw [Char.lt_def, UInt32.lt_iff_toNat_lt]
  show m.digitChar.toNat < n.digitChar.toNat
  omega

/-! ## Files of snapshots -/

/-- The name of the file of a snapshot, by its characters. -/
lemma toList_snapshotFile (stem : String) (n : Nat) (s : Stage) :
    (s.snapshotFile stem n).toList = stem.toList ++ '.' ::
      ((twoDigits n).toList ++ '.' :: (s.directive.name.toList ++ ".asl".toList)) := by
  simp [snapshotFile]

/-- Snapshots with different numbers write different files.

**Proof sketch.** What the names start with is the same, and the number ends at the next dot, since
it has only digits. -/
lemma snapshotFile_number_inj {stem : String} {m n : Nat} {s t : Stage}
    (h : s.snapshotFile stem m = t.snapshotFile stem n) : m = n := by
  have hnumber : ∀ (k : Nat) (rest : List Char),
      (Text.pieces (· == '.') ((twoDigits k).toList ++ '.' :: rest)).head? =
        some (twoDigits k).toList := by
    intro k rest
    have hdot : ∀ c ∈ (twoDigits k).toList, (c == '.') = false := by
      intro c hc
      have hdigit := isDigit_of_mem_twoDigits hc
      rw [beq_eq_false_iff_ne]
      rintro rfl
      exact absurd hdigit (by decide)
    rw [Text.pieces_append_sep (by decide), Text.pieces_of_forall hdot]
    rfl
  have h := congrArg String.toList h
  rw [toList_snapshotFile, toList_snapshotFile] at h
  have h := congrArg (fun cs => (Text.pieces (· == '.') cs).head?)
    (List.cons.inj (List.append_cancel_left h)).2
  simp only [hnumber, Option.some.injEq] at h
  rw [← ofDigitChars_twoDigits m, h, ofDigitChars_twoDigits]

/-- Up to 99, the files of snapshots sort by their numbers.

**Proof sketch.** What the names start with is the same. The numbers have two digits each, and the
first one in which they differ decides. -/
lemma snapshotFile_lt {stem : String} {m n : Nat} (s t : Stage) (h : m < n) (hn : n < 100) :
    s.snapshotFile stem m < t.snapshotFile stem n := by
  rw [String.lt_iff, toList_snapshotFile, toList_snapshotFile, toList_twoDigits (by omega),
    toList_twoDigits hn]
  refine List.append_left_lt ?_
  simp only [List.cons_append, List.nil_append, List.cons_lt_cons_iff, true_and]
  refine Or.inr ?_
  rcases Nat.lt_or_ge (m / 10) (n / 10) with htens | htens
  · exact Or.inl (digitChar_lt htens (by omega))
  · refine Or.inr ⟨by rw [show m / 10 = n / 10 by omega], Or.inl ?_⟩
    exact digitChar_lt (by omega) (by omega)

/-- The file that a snapshot writes: the argument after `--output`. -/
def writtenFile? (s : Stage) : Option String :=
  if s.isSnapshot then (s.arguments.dropWhile (· != "--output"))[1]? else none

/-- A snapshot is one. -/
@[simp] lemma isSnapshot_snapshot (stem : String) (n : Nat) (s : Stage) :
    (s.snapshot stem n).isSnapshot = true := by
  simp [snapshot, isSnapshot, hasArgument]

/-- A snapshot writes the file that it was made for. -/
@[simp] lemma writtenFile?_snapshot (stem : String) (n : Nat) (s : Stage) :
    (s.snapshot stem n).writtenFile? = some (s.snapshotFile stem n) := by
  rw [writtenFile?, if_pos (isSnapshot_snapshot stem n s)]
  simp [snapshot]

/-- A stage that is no snapshot does not write a file for one. -/
lemma writtenFile?_eq_none {s : Stage} (h : s.isSnapshot = false) : s.writtenFile? = none := by
  simp [writtenFile?, h]

/-! ## Stages and snapshots -/

/-- **How stages and snapshots alternate.** Every stage in front of the last one has its snapshot
right below it, and the snapshots are counted. -/
theorem withSnapshotsFrom_append_quit {stem : String} {body : List Stage} {last : Stage}
    (hbody : ∀ s ∈ body, s.directive ≠ .quit) (hlast : last.directive = .quit) (n : Nat) :
    withSnapshotsFrom stem n (body ++ [last]) =
      (body.zipIdx n).flatMap (fun x => [x.1, x.1.snapshot stem x.2]) ++ [last] := by
  induction body generalizing n with
  | nil => simp [withSnapshotsFrom, hlast]
  | cons s body ih =>
    rw [List.forall_mem_cons] at hbody
    rw [List.cons_append, withSnapshotsFrom, if_neg hbody.1, ih hbody.2, List.zipIdx_cons,
      List.flatMap_cons]
    rfl

/-- Of two stages one after the other exactly one is a snapshot. -/
lemma isChain_withSnapshotsFrom {stem : String} {body : List Stage} {last : Stage}
    (hbody : ∀ s ∈ body, s.isSnapshot = false ∧ s.directive ≠ .quit)
    (hlast : last.directive = .quit) (n : Nat) :
    (withSnapshotsFrom stem n (body ++ [last])).IsChain
      fun a b => a.isSnapshot = !b.isSnapshot := by
  have hplain : last.isSnapshot = false := by simp [isSnapshot, hlast]
  induction body generalizing n with
  | nil => simp [withSnapshotsFrom, hlast]
  | cons s body ih =>
    obtain ⟨⟨hs, hquit⟩, hbody⟩ := List.forall_mem_cons.1 hbody
    have ih := ih hbody (n + 1)
    rw [List.cons_append, withSnapshotsFrom, if_neg hquit]
    refine List.isChain_cons_cons.2 ⟨by simp [hs], ?_⟩
    -- what comes below the snapshot is the next stage, which is none
    cases body with
    | nil => simp [withSnapshotsFrom, hlast, hplain]
    | cons t body =>
      obtain ⟨⟨ht, hquit⟩, -⟩ := List.forall_mem_cons.1 hbody
      rw [List.cons_append, withSnapshotsFrom, if_neg hquit] at ih ⊢
      exact List.isChain_cons_cons.2 ⟨by simp [ht], ih⟩

/-- Every file of a snapshot has a number from the range that the stages are counted with. -/
lemma exists_of_mem_writtenFiles {stem : String} {stages : List Stage}
    (h : ∀ s ∈ stages, s.isSnapshot = false) {n : Nat} {file : String}
    (hf : file ∈ (withSnapshotsFrom stem n stages).filterMap writtenFile?) :
    ∃ k s, n ≤ k ∧ k < n + stages.length ∧ file = snapshotFile stem k s := by
  induction stages generalizing n with
  | nil => simp [withSnapshotsFrom] at hf
  | cons s stages ih =>
    rw [List.forall_mem_cons] at h
    rw [withSnapshotsFrom] at hf
    split at hf
    · rw [List.filterMap_cons_none (writtenFile?_eq_none h.1)] at hf
      obtain ⟨k, t, hk, hlt, rfl⟩ := ih h.2 hf
      exact ⟨k, t, hk, by simp; omega, rfl⟩
    · rw [List.filterMap_cons_none (writtenFile?_eq_none h.1),
        List.filterMap_cons_some (writtenFile?_snapshot stem n s)] at hf
      rcases List.mem_cons.1 hf with rfl | hf
      · exact ⟨n, s, le_rfl, by simp, rfl⟩
      · obtain ⟨k, t, hk, hlt, rfl⟩ := ih h.2 hf
        exact ⟨k, t, by omega, by simp; omega, rfl⟩

/-- What holds of the files of snapshots with different numbers, the smaller one first, holds of the
files along the stages.

**Proof sketch.** Induction on the stages. The files below a snapshot have larger numbers than its
own (`exists_of_mem_writtenFiles`). -/
lemma pairwise_writtenFiles {R : String → String → Prop} {stem : String} {bound : Nat}
    (hR : ∀ j k s t, j < k → k < bound → R (snapshotFile stem j s) (snapshotFile stem k t))
    {stages : List Stage} (h : ∀ s ∈ stages, s.isSnapshot = false) {n : Nat}
    (hn : n + stages.length ≤ bound) :
    ((withSnapshotsFrom stem n stages).filterMap writtenFile?).Pairwise R := by
  induction stages generalizing n with
  | nil => simp [withSnapshotsFrom]
  | cons s stages ih =>
    rw [List.forall_mem_cons] at h
    rw [List.length_cons] at hn
    rw [withSnapshotsFrom]
    split
    · rw [List.filterMap_cons_none (writtenFile?_eq_none h.1)]
      exact ih h.2 (by omega)
    · rw [List.filterMap_cons_none (writtenFile?_eq_none h.1),
        List.filterMap_cons_some (writtenFile?_snapshot stem n s)]
      refine List.pairwise_cons.2 ⟨fun file hf => ?_, ih h.2 (by omega)⟩
      obtain ⟨k, t, hk, hlt, rfl⟩ := exists_of_mem_writtenFiles h.2 hf
      exact hR n k s t (by omega) (by omega)

end Stage

namespace Pipeline

/-- The files that the snapshots of a pipeline write, in the order of the snapshots. -/
def snapshotFiles (p : Pipeline) : List String := p.stages.filterMap Stage.writtenFile?

/-- Snapshots can be taken out of any stages again. -/
theorem withoutSnapshots_withSnapshots {stem : String} {stages : List Stage}
    (h : ∀ s ∈ stages, s.isSnapshot = false) :
    withoutSnapshots ⟨Stage.withSnapshots stem stages⟩ = stages := by
  rw [withoutSnapshots, Stage.withSnapshots, Stage.filter_withSnapshotsFrom (fun n s => by simp)]
  exact List.filter_eq_self.2 fun s hs => by simp [h s hs]

/-- The files of the snapshots of any stages are different. -/
theorem nodup_snapshotFiles {stem : String} {stages : List Stage}
    (h : ∀ s ∈ stages, s.isSnapshot = false) :
    (snapshotFiles ⟨Stage.withSnapshots stem stages⟩).Nodup := by
  have hne : ∀ j k s t, j < k → k < stages.length →
      Stage.snapshotFile stem j s ≠ Stage.snapshotFile stem k t := by
    intro j k s t hjk _ heq
    exact absurd (Stage.snapshotFile_number_inj heq) (by omega)
  exact Stage.pairwise_writtenFiles hne h (by omega)

/-- The files of the snapshots of less than a hundred stages sort in the order of the stages. -/
theorem pairwise_lt_snapshotFiles {stem : String} {stages : List Stage}
    (h : ∀ s ∈ stages, s.isSnapshot = false) (hlength : stages.length ≤ 100) :
    (snapshotFiles ⟨Stage.withSnapshots stem stages⟩).Pairwise (· < ·) :=
  Stage.pairwise_writtenFiles (fun _ _ s t hjk hk => Stage.snapshotFile_lt s t hjk hk) h
    (by omega)

end Pipeline

namespace Settings

/-! ## Snapshots of a pipeline -/

/-- None of the stages that the settings ask for is a snapshot, and none but the last is `quit`. -/
lemma plain_of_finalStage {s : Settings} {dir : String} {files : Nat} {final : Stage}
    (h : s.finalStage dir files = .ok final) :
    ∀ t ∈ s.leadingStages ++ [final], t.isSnapshot = false ∧ t.directive ≠ .quit := by
  obtain ⟨hplain, hdirective⟩ := directive_finalStage h
  refine List.forall_mem_append.2 ⟨fun t ht => ?_, List.forall_mem_singleton.2 ⟨hplain, ?_⟩⟩
  · obtain ⟨hdump, hquit, -⟩ := directive_of_mem_leadingStages ht
    exact ⟨by simp [Stage.isSnapshot, hdump], hquit⟩
  · rintro hquit
    rw [hquit] at hdirective
    exact absurd hdirective (by decide)

/-- None of the stages that the settings ask for is a snapshot, and neither is `quit`. -/
lemma isSnapshot_of_finalStage {s : Settings} {dir : String} {files : Nat} {final : Stage}
    (h : s.finalStage dir files = .ok final) :
    ∀ t ∈ s.leadingStages ++ [final] ++ [⟨.quit, []⟩], t.isSnapshot = false :=
  List.forall_mem_append.2
    ⟨fun t ht => (plain_of_finalStage h t ht).1, List.forall_mem_singleton.2 rfl⟩

/-- The stages that the settings ask for, with the snapshots and without them. -/
theorem stages_of_pipelineInto {s : Settings} {dir : String} {p : Pipeline}
    (h : s.pipelineInto dir = .ok p) :
    ∃ final, s.finalStage dir s.effectiveFiles = .ok final ∧
      p.stages = s.withSnapshots (s.leadingStages ++ [final] ++ [⟨.quit, []⟩]) ∧
      p.withoutSnapshots = s.leadingStages ++ [final] ++ [⟨.quit, []⟩] := by
  obtain ⟨-, -, final, hfinal, rfl⟩ := pipelineInto_eq_ok_iff.1 h
  rw [List.append_cons]
  refine ⟨final, hfinal, rfl, ?_⟩
  have hplain := isSnapshot_of_finalStage hfinal
  unfold withSnapshots
  cases s.snapshots with
  | none => exact List.filter_eq_self.2 fun t ht => by simp [hplain t ht]
  | some stem => exact Pipeline.withoutSnapshots_withSnapshots hplain

/-- The stages that the settings ask for do not depend on whether snapshots are wanted. -/
lemma stages_of_snapshots {s : Settings} {dir stem : String} {p : Pipeline}
    (h : { s with snapshots := some stem }.pipelineInto dir = .ok p) :
    ∃ final, s.finalStage dir s.effectiveFiles = .ok final ∧
      p.stages = Stage.withSnapshots stem (s.leadingStages ++ [final] ++ [⟨.quit, []⟩]) ∧
      p.withoutSnapshots = s.leadingStages ++ [final] ++ [⟨.quit, []⟩] :=
  stages_of_pipelineInto h

/-- Without its snapshots, a pipeline is the one that is built if none are wanted. -/
lemma pipelineInto_none {s : Settings} {dir stem : String} {p : Pipeline}
    (h : { s with snapshots := some stem }.pipelineInto dir = .ok p) :
    { s with snapshots := none }.pipelineInto dir = .ok ⟨p.withoutSnapshots⟩ := by
  obtain ⟨hcheck, hdir, -⟩ := pipelineInto_eq_ok_iff.1 h
  obtain ⟨hcxx, hfiles, hempty, hname, hout, -⟩ := checkPipeline_eq_ok_iff.1 hcheck
  obtain ⟨final, hfinal, -, hwithout⟩ := stages_of_snapshots h
  have hcheck : checkPipeline { s with snapshots := none } = .ok () :=
    checkPipeline_eq_ok_iff.2 ⟨hcxx, hfiles, hempty, hname, hout, by simp⟩
  refine pipelineInto_eq_ok_iff.2 ⟨hcheck, hdir, final, hfinal, ?_⟩
  rw [hwithout, List.append_assoc]
  rfl

/-- The files of the snapshots of a pipeline are different and sort in the order of the stages.

**Proof sketch.** At most 26 stages come before `quit` (`length_leadingStages_le`), so two digits
suffice for the order. -/
lemma snapshotFiles_of_pipelineInto {s : Settings} {dir stem : String} {p : Pipeline}
    (h : { s with snapshots := some stem }.pipelineInto dir = .ok p) :
    p.snapshotFiles.Nodup ∧ p.snapshotFiles.Pairwise (· < ·) := by
  obtain ⟨final, hfinal, hstages, -⟩ := stages_of_snapshots h
  have hplain : ∀ t ∈ s.leadingStages ++ [final] ++ [⟨.quit, []⟩], t.isSnapshot = false :=
    isSnapshot_of_finalStage hfinal
  have hlength : (s.leadingStages ++ [final] ++ [(⟨.quit, []⟩ : Stage)]).length ≤ 100 := by
    have := length_leadingStages_le s
    simp only [List.length_append, List.length_singleton]
    omega
  have hfiles : p.snapshotFiles = Pipeline.snapshotFiles
      ⟨Stage.withSnapshots stem (s.leadingStages ++ [final] ++ [⟨.quit, []⟩])⟩ := by
    rw [Pipeline.snapshotFiles, hstages]
    rfl
  rw [hfiles]
  exact ⟨Pipeline.nodup_snapshotFiles hplain, Pipeline.pairwise_lt_snapshotFiles hplain hlength⟩

/-- **Snapshots change nothing but the files that are written.** Without its snapshots, a pipeline
is the one that is built if none are wanted, a dump at the end included. Every stage but the last
has its snapshot right below it, with a number in front of its name, so stages and snapshots take
turns. The files of the snapshots are different and sort in the order of the stages. For any other
stages, too, snapshots can be taken out again, and their files are different.

**Proof sketch.** The stages that are asked for are the same (`stages_of_snapshots`), and what their
snapshots add follows from how both alternate (`withSnapshotsFrom_append_quit`). That the files are
different needs no bound on the number of stages (`nodup_snapshotFiles`); their order does, and a
pipeline keeps it (`snapshotFiles_of_pipelineInto`). -/
theorem pipelineInto_snapshots :
    (∀ (s : Settings) (dir stem : String) (p : Pipeline),
      { s with snapshots := some stem }.pipelineInto dir = .ok p →
        { s with snapshots := none }.pipelineInto dir = .ok ⟨p.withoutSnapshots⟩ ∧
        (s.showFinal = true →
          [⟨.dump, ["--format=raw"]⟩, ⟨.quit, []⟩] <:+ p.withoutSnapshots) ∧
        (∃ body, (∀ t ∈ body, t.isSnapshot = false ∧ t.directive ≠ .quit) ∧
          p.withoutSnapshots = body ++ [⟨.quit, []⟩] ∧
          p.stages = body.zipIdx.flatMap (fun x => [x.1, ⟨.dump, ["--format=raw", "--output",
            stem ++ "." ++ Stage.twoDigits x.2 ++ "." ++ x.1.directive.name ++ ".asl"]⟩]) ++
              [⟨.quit, []⟩]) ∧
        p.stages.IsChain (fun a b => a.isSnapshot = !b.isSnapshot) ∧
        p.snapshotFiles.Nodup ∧ p.snapshotFiles.Pairwise (· < ·)) ∧
    ∀ (stem : String) (stages : List Stage), (∀ t ∈ stages, t.isSnapshot = false) →
      Pipeline.withoutSnapshots ⟨Stage.withSnapshots stem stages⟩ = stages ∧
        (Pipeline.snapshotFiles ⟨Stage.withSnapshots stem stages⟩).Nodup := by
  refine ⟨fun s dir stem p h => ?_, fun stem stages h =>
    ⟨Pipeline.withoutSnapshots_withSnapshots h, Pipeline.nodup_snapshotFiles h⟩⟩
  obtain ⟨final, hfinal, hstages, hwithout⟩ := stages_of_snapshots h
  have hbody := plain_of_finalStage hfinal
  obtain ⟨hnodup, hsorted⟩ := snapshotFiles_of_pipelineInto h
  refine ⟨pipelineInto_none h, fun hshow => ?_, ⟨_, hbody, hwithout, ?_⟩, ?_, hnodup, hsorted⟩
  · obtain rfl := Except.ok.inj ((finalStage_of_showFinal hshow).symm.trans hfinal)
    rw [hwithout, List.append_assoc]
    exact List.suffix_append _ _
  · rw [hstages, Stage.withSnapshots,
      Stage.withSnapshotsFrom_append_quit (fun t ht => (hbody t ht).2) rfl]
    rfl
  · rw [hstages]
    exact Stage.isChain_withSnapshotsFrom hbody rfl 0

/-- A minimal pipeline with a dump at its end, which stays when the snapshots are taken out. -/
theorem pipelineInto_snapshots_dump :
    (∃ p, { minimal := true, showFinal := true, snapshots := some "log" : Settings }.pipelineInto
        "out" = .ok p ∧
      { minimal := true, showFinal := true : Settings }.pipelineInto "out" =
        .ok ⟨p.withoutSnapshots⟩ ∧
      [⟨.dump, ["--format=raw"]⟩, ⟨.quit, []⟩] <:+ p.withoutSnapshots ∧
      p.snapshotFiles.Pairwise (· < ·)) ∧
    Pipeline.withoutSnapshots ⟨Stage.withSnapshots "log" [⟨.dump, ["--format=raw"]⟩]⟩ =
      [⟨.dump, ["--format=raw"]⟩] := by
  obtain ⟨p, hp⟩ : ∃ p, { minimal := true, showFinal := true, snapshots := some "log" :
      Settings }.pipelineInto "out" = .ok p := ⟨_, rfl⟩
  obtain ⟨hnone, hdump, -, -, -, hsorted⟩ :=
    pipelineInto_snapshots.1 { minimal := true, showFinal := true } "out" "log" p hp
  exact ⟨⟨p, hp, hnone, hdump rfl, hsorted⟩,
    (pipelineInto_snapshots.2 "log" [⟨.dump, ["--format=raw"]⟩] (by decide)).1⟩

end Settings

end AslBuild
