import Acceptance.Project.Run
import Acceptance.Proofs.Files.Found
import Acceptance.Proofs.Plan.OutputPath

/-!
# Writing test modules

A test module and its plan go to places that no other output path gives, and writing them leaves
everything else as it was.  Where the output directory has a null character nothing is written.

    writeOutputs job t f = (u, e?) → Writes job t f u e?            (writes_of_writeOutputs)
    Keeps (outputPlaces job f t.here) t (writeOutputs job t f).1    (keeps_writeOutputs)
    writeOutputs job t f = (t', none) → Held job t' f               (held_writeOutputs)
    Held job t g → Held job (writeOutputs job t f).1 g              (held_of_other)
                                        where f and g have different output paths
    writeOutputs job t f = (t', some e) →
      (e.fault = .nullByte ↔ job.outputDir.hasNull = true)          (fault_eq_null_iff)
-/

namespace Acceptance

open Acceptance.Text

theorem getLast?_of_hasEnding {ending name : String} (ne : ending.toList ≠ [])
    (h : hasEnding ending name = true) : name.toList.getLast? = ending.toList.getLast? := by
  obtain ⟨start, hs⟩ := List.isSuffixOf_iff_suffix.1 h
  rw [← hs, List.getLast?_append, List.getLast?_eq_some_getLast ne]
  rfl

theorem Path.place_down {p : Path} {names : List String} (here : Location)
    (h : ∀ name ∈ names, Plan.ProperPart name) :
    (p.down names).place here = p.place here ++ names := by
  have hplace : (p.down names).place here = names.foldl Location.onward (p.place here) :=
    List.foldl_append
  rw [hplace]
  refine Location.foldl_onward_down ?_ _
  intro name hn
  obtain ⟨hempty, hdot, -⟩ := Path.isPart_iff.1 (h name hn).isPart
  exact ⟨hempty, hdot, (h name hn).down⟩

/-- A test module under the path that its plan gives, which leads down only. -/
structure GeneratedFile.Placed (f : GeneratedFile) : Prop where
  path : f.outputPath = Plan.outputPath f.plan
  parts : ∀ part ∈ Plan.outputParts f.plan, Plan.ProperPart part

/-- A test module under the path that its plan gives. -/
structure GeneratedFile.Proper (f : GeneratedFile) : Prop where
  path : f.outputPath = Plan.outputPath f.plan
  parts : ∀ part ∈ Plan.outputParts f.plan, Plan.ProperPart part
  name : Path.hasNullChar f.plan.fileName = false

theorem GeneratedFile.Proper.placed {f : GeneratedFile} (h : f.Proper) : f.Placed :=
  ⟨h.path, h.parts⟩

namespace Run

variable {job : Job} {f g : GeneratedFile} {t t' : FileTree}

/-! ## The ways of writing -/

/-- What writing a test module comes to: its directory cannot be made, the module is not written, or
its plan is not; or the module is written and its plan is not asked for, or both are written. -/
inductive Writes (job : Job) (t : FileTree) (f : GeneratedFile) :
    FileTree → Option FileError → Prop
  | unmade {u : FileTree} {e : FileError}
      (made : t.ensureAll (target job f).parent = (u, some e)) : Writes job t f u (some e)
  | noModule {u : FileTree} {e : FileError}
      (made : t.ensureAll (target job f).parent = (u, none))
      (written : u.writeText (target job f) f.code = .error e) : Writes job t f u (some e)
  | noPlan {u v : FileTree} {e : FileError}
      (made : t.ensureAll (target job f).parent = (u, none))
      (written : u.writeText (target job f) f.code = .ok v) (on : job.snapshots = true)
      (plan : v.writeText (snapshot job f) (snapshotText f) = .error e) : Writes job t f v (some e)
  | module {u v : FileTree} (made : t.ensureAll (target job f).parent = (u, none))
      (written : u.writeText (target job f) f.code = .ok v) (off : job.snapshots = false) :
      Writes job t f v none
  | both {u v w : FileTree} (made : t.ensureAll (target job f).parent = (u, none))
      (written : u.writeText (target job f) f.code = .ok v) (on : job.snapshots = true)
      (plan : v.writeText (snapshot job f) (snapshotText f) = .ok w) : Writes job t f w none

theorem writes_of_writeOutputs {e? : Option FileError} (h : writeOutputs job t f = (t', e?)) :
    Writes job t f t' e? := by
  unfold writeOutputs at h
  split at h
  · next made =>
    obtain ⟨rfl, rfl⟩ := Prod.mk.inj h
    exact .unmade made
  · next made =>
    split at h
    · next written =>
      obtain ⟨rfl, rfl⟩ := Prod.mk.inj h
      exact .noModule made written
    · next written =>
      split at h
      · next on =>
        split at h
        · next plan =>
          obtain ⟨rfl, rfl⟩ := Prod.mk.inj h
          exact .noPlan made written on plan
        · next plan =>
          obtain ⟨rfl, rfl⟩ := Prod.mk.inj h
          exact .both made written on plan
      · next off =>
        obtain ⟨rfl, rfl⟩ := Prod.mk.inj h
        exact .module made written (Bool.eq_false_iff.2 off)

/-- What holds behind the directory and is preserved by each write holds behind the outputs, whether
or not they are all written. -/
theorem writeOutputs_invariant {I : FileTree → Prop}
    (made : I (t.ensureAll (target job f).parent).1)
    (written : ∀ u v, I u → u.writeText (target job f) f.code = .ok v → I v)
    (plan : ∀ u v, I u → u.writeText (snapshot job f) (snapshotText f) = .ok v → I v) :
    I (writeOutputs job t f).1 := by
  cases hwrite : writeOutputs job t f with
  | mk v e? =>
    cases writes_of_writeOutputs hwrite with
    | unmade hmade =>
      rw [hmade] at made
      exact made
    | noModule hmade =>
      rw [hmade] at made
      exact made
    | noPlan hmade hwritten =>
      rw [hmade] at made
      exact written _ _ made hwritten
    | module hmade hwritten =>
      rw [hmade] at made
      exact written _ _ made hwritten
    | both hmade hwritten _ hplan =>
      rw [hmade] at made
      exact plan _ _ (written _ _ made hwritten) hplan

/-! ## Places of outputs -/

def snapshotName (f : GeneratedFile) : String := f.plan.fileName ++ ".crif.json"

theorem target_eq (job : Job) (h : f.Placed) :
    target job f = job.outputDir.down (Plan.outputParts f.plan) := by
  rw [target, h.path, Plan.ofText_outputPath h.parts]
  rfl

theorem snapshot_eq (job : Job) (h : f.Placed) :
    snapshot job f = job.outputDir.down (Plan.packageParts f.plan ++ [snapshotName f]) := by
  rw [snapshot, target_eq job h]
  simp [Path.down, Path.parent, Path.child, Plan.outputParts, snapshotName]

theorem proper_snapshotName (f : GeneratedFile) :
    snapshotName f ≠ "" ∧ snapshotName f ≠ "." ∧ snapshotName f ≠ ".." := by
  refine Plan.ne_dots_of_long ?_
  rw [snapshotName, String.toList_append, List.length_append]
  have hending : ".crif.json".toList.length = 10 := rfl
  omega

theorem target_place (job : Job) (h : f.Placed) (here : Location) :
    (target job f).place here = job.outputDir.place here ++ Plan.outputParts f.plan := by
  rw [target_eq job h, Path.place_down here h.parts]

theorem snapshot_place (job : Job) (h : f.Placed) (here : Location) :
    (snapshot job f).place here =
      job.outputDir.place here ++ Plan.packageParts f.plan ++ [snapshotName f] := by
  have hpackage : ∀ part ∈ Plan.packageParts f.plan, Plan.ProperPart part :=
    fun part hp => h.parts part (List.mem_append_left _ hp)
  obtain ⟨hempty, hdot, hup⟩ := proper_snapshotName f
  rw [snapshot_eq job h, ← Path.down_down]
  have hplace : ((job.outputDir.down (Plan.packageParts f.plan)).down [snapshotName f]).place here =
      ((job.outputDir.down (Plan.packageParts f.plan)).place here).onward (snapshotName f) :=
    List.foldl_append
  rw [hplace, Path.place_down here hpackage, Location.onward_down hempty hdot hup]

/-! ## Null characters -/

theorem parent_eq (job : Job) (h : f.Placed) :
    (target job f).parent = job.outputDir.down (Plan.packageParts f.plan) := by
  rw [target_eq job h]
  simp [Path.down, Path.parent, Plan.outputParts]

theorem target_eq_child (job : Job) (h : f.Placed) :
    target job f = (target job f).parent.child (Plan.outputName f.plan.fileName) := by
  rw [parent_eq job h, target_eq job h]
  simp [Path.down, Path.child, Plan.outputParts]

theorem hasNull_target (job : Job) (h : f.Proper) :
    (target job f).hasNull = job.outputDir.hasNull := by
  have hparts : (Plan.outputParts f.plan).any Path.hasNullChar = false := by
    rw [List.any_eq_false]
    intro part hp
    simp [(h.parts part hp).null]
  rw [target_eq job h.placed, Path.hasNull_down, hparts, Bool.or_false]

theorem hasNull_parent (job : Job) (h : f.Proper) :
    (target job f).parent.hasNull = job.outputDir.hasNull := by
  have hparts : (Plan.packageParts f.plan).any Path.hasNullChar = false := by
    rw [List.any_eq_false]
    intro part hp
    simp [(h.parts part (List.mem_append_left _ hp)).null]
  rw [parent_eq job h.placed, Path.hasNull_down, hparts, Bool.or_false]

theorem hasNull_snapshot (job : Job) (h : f.Proper) :
    (snapshot job f).hasNull = job.outputDir.hasNull := by
  have hname : Path.hasNullChar (snapshotName f) = false := by
    rw [Path.hasNullChar_eq_false_iff, snapshotName, String.toList_append, List.mem_append, not_or]
    exact ⟨Path.hasNullChar_eq_false_iff.1 h.name, by decide⟩
  have hdown : snapshot job f = (target job f).parent.down [snapshotName f] := rfl
  rw [hdown, Path.hasNull_down, hasNull_parent job h]
  simp [hname]

/-- Below an output directory with a null character nothing is written. -/
theorem writeOutputs_null (h : f.Proper) (null : job.outputDir.hasNull = true) :
    ∃ e : FileError, writeOutputs job t f = (t, some e) ∧ e.fault = .nullByte := by
  have hparent : (target job f).parent.hasNull = true := (hasNull_parent job h).trans null
  refine ⟨⟨.nullByte, (target job f).parent.text⟩, ?_, rfl⟩
  rw [writeOutputs, FileTree.ensureAll_null hparent]

/-- A write fails for a null character exactly where the output directory has one. -/
theorem fault_eq_null_iff {e : FileError} (h : f.Proper)
    (fault : writeOutputs job t f = (t', some e)) :
    e.fault = .nullByte ↔ job.outputDir.hasNull = true := by
  constructor
  · intro hnull
    cases writes_of_writeOutputs fault with
    | unmade made =>
      rw [← hasNull_parent job h]
      exact FileTree.hasNull_of_ensureAll made hnull
    | noModule _ written =>
      rw [← hasNull_target job h]
      exact FileTree.hasNull_of_writeBytes written hnull
    | noPlan _ _ _ plan =>
      rw [← hasNull_snapshot job h]
      exact FileTree.hasNull_of_writeBytes plan hnull
  · intro hnull
    obtain ⟨e', hw, he⟩ := writeOutputs_null (t := t) h hnull
    rw [hw] at fault
    obtain ⟨-, ⟨⟩⟩ := Prod.mk.inj fault
    exact he

/-! ## Outputs are apart -/

theorem target_place_inj (hf : f.Proper) (hg : g.Proper) {here : Location}
    (h : (target job f).place here = (target job g).place here) : f.outputPath = g.outputPath := by
  rw [target_place job hf.placed, target_place job hg.placed, List.append_cancel_left_eq] at h
  rw [hf.path, hg.path, Plan.outputPath, Plan.outputPath, h]

theorem snapshotName_inj (h : snapshotName f = snapshotName g) :
    f.plan.fileName = g.plan.fileName := by
  have hlist := congrArg String.toList h
  simp only [snapshotName, String.toList_append, List.append_cancel_right_eq] at hlist
  exact String.toList_inj.1 hlist

theorem snapshot_place_inj (hf : f.Proper) (hg : g.Proper) {here : Location}
    (h : (snapshot job f).place here = (snapshot job g).place here) :
    f.outputPath = g.outputPath := by
  rw [snapshot_place job hf.placed, snapshot_place job hg.placed] at h
  obtain ⟨hdirectory, hname⟩ := List.append_inj' h rfl
  rw [List.append_cancel_left_eq] at hdirectory
  have hstem := snapshotName_inj (List.singleton_inj.1 hname)
  rw [hf.path, hg.path, Plan.outputPath, Plan.outputPath, Plan.outputParts, Plan.outputParts,
    hdirectory, hstem]

theorem outputName_getLast? (fileName : String) :
    (Plan.outputName fileName).toList.getLast? = some 'y' := by
  rw [Plan.outputName_toList, List.getLast?_append]
  rfl

theorem snapshotName_getLast? (f : GeneratedFile) :
    (snapshotName f).toList.getLast? = some 'n' := by
  rw [snapshotName, String.toList_append, List.getLast?_append]
  rfl

theorem target_place_ne_snapshot_place (hf : f.Placed) (hg : g.Placed) (here : Location) :
    (target job f).place here ≠ (snapshot job g).place here := by
  intro h
  rw [target_place job hf, snapshot_place job hg, Plan.outputParts,
    ← List.append_assoc] at h
  have hname := List.singleton_inj.1 (List.append_inj' h rfl).2
  have hlast := outputName_getLast? f.plan.fileName
  rw [hname, snapshotName_getLast?] at hlast
  exact absurd hlast (by decide)

/-! ## Frames of writing -/

/-- The places that a test module and its plan go to. -/
def outputPlaces (job : Job) (f : GeneratedFile) (here : Location) (k : Location) : Prop :=
  k = (target job f).place here ∨ k = (snapshot job f).place here

theorem keeps_writeOutputs (job : Job) (t : FileTree) (f : GeneratedFile) :
    FileTree.Keeps (outputPlaces job f t.here) t (writeOutputs job t f).1 := by
  refine writeOutputs_invariant (I := FileTree.Keeps (outputPlaces job f t.here) t)
    (FileTree.keeps_ensureAll _ t _) ?_ ?_
  · intro u v hu written
    refine hu.trans ((FileTree.keeps_writeBytes written).mono ?_)
    intro k hk
    rw [hu.here] at hk
    exact .inl hk
  · intro u v hu plan
    refine hu.trans ((FileTree.keeps_writeBytes plan).mono ?_)
    intro k hk
    rw [hu.here] at hk
    exact .inr hk

/-! ## Outputs that hold -/

/-- The outputs of a test module stand in a tree. -/
structure Held (job : Job) (t : FileTree) (f : GeneratedFile) : Prop where
  target : t.readBytes (target job f) = .ok f.code.toUTF8
  snapshot : job.snapshots = true →
    t.readBytes (snapshot job f) = .ok (snapshotText f).toUTF8

theorem target_parts_ne (h : f.Proper) : (Run.target job f).parts ≠ [] := by
  rw [target_eq job h.placed]
  simp [Path.down, Plan.outputParts]

theorem held_writeOutputs (hf : f.Proper) (h : writeOutputs job t f = (t', none)) :
    Held job t' f := by
  cases writes_of_writeOutputs h with
  | module _ written off =>
    refine ⟨FileTree.readBytes_writeBytes (target_parts_ne hf) written, fun on => ?_⟩
    rw [off] at on
    cases on
  | both _ written _ plan =>
    have htarget := FileTree.readBytes_writeBytes (target_parts_ne hf) written
    constructor
    · exact (FileTree.keeps_writeBytes plan).readBytes
        (target_place_ne_snapshot_place hf.placed hf.placed _) htarget
    · intro _
      exact FileTree.readBytes_writeBytes (by simp [Run.snapshot, Path.child]) plan

theorem Held.of_keeps {W : Location → Prop} (h : Held job t f) (keeps : FileTree.Keeps W t t')
    (htarget : ¬ W ((Run.target job f).place t.here))
    (hsnapshot : ¬ W ((Run.snapshot job f).place t.here)) : Held job t' f :=
  ⟨keeps.readBytes htarget h.target, fun hon => keeps.readBytes hsnapshot (h.snapshot hon)⟩

/-- **Outputs hold while other output paths are written, also where that fails.** -/
theorem held_of_other (hf : f.Proper) (hg : g.Proper) (ne : f.outputPath ≠ g.outputPath)
    (h : Held job t g) : Held job (writeOutputs job t f).1 g := by
  refine h.of_keeps (keeps_writeOutputs job t f) ?_ ?_
  · rintro (he | he)
    · exact ne (target_place_inj hg hf he).symm
    · exact target_place_ne_snapshot_place hg.placed hf.placed _ he
  · rintro (he | he)
    · exact target_place_ne_snapshot_place hf.placed hg.placed _ he.symm
    · exact ne (snapshot_place_inj hg hf he).symm

/-! ## Features stay -/

/-- A place with the name of a feature file. -/
def IsFeaturePlace (l : Location) : Prop :=
  ∃ k name, l = k ++ [name] ∧ hasEnding featureEnding name = true

theorem not_isFeaturePlace {k : Location} {name : String} {c : Char} (hc : c ≠ 'e')
    (h : name.toList.getLast? = some c) : ¬ IsFeaturePlace (k ++ [name]) := by
  rintro ⟨j, other, he, hending⟩
  obtain rfl := List.singleton_inj.1 (List.append_inj' he rfl).2
  have hlast := getLast?_of_hasEnding (by decide) hending
  rw [h] at hlast
  exact hc (Option.some.inj (hlast.trans (by decide)))

theorem not_isFeaturePlace_of_outputPlaces {here k : Location} (hf : f.Proper)
    (h : outputPlaces job f here k) : ¬ IsFeaturePlace k := by
  rcases h with rfl | rfl
  · rw [target_place job hf.placed, Plan.outputParts, ← List.append_assoc]
    exact not_isFeaturePlace (by decide) (outputName_getLast? _)
  · rw [snapshot_place job hf.placed]
    exact not_isFeaturePlace (by decide) (snapshotName_getLast? f)

theorem keeps_features (job : Job) (t : FileTree) (hf : f.Proper) :
    FileTree.Keeps (fun l => ¬ IsFeaturePlace l) t (writeOutputs job t f).1 :=
  (keeps_writeOutputs job t f).mono fun _ hk => not_isFeaturePlace_of_outputPlaces hf hk

end Run

end Acceptance
