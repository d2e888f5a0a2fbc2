import Acceptance.Proofs.Plan.Needs
import Acceptance.Proofs.Project.FailedWrites

/-!
# Outputs stay below the output directory

The path of a test module comes from a tag and from the name of a feature file.  Neither brings a
separator, a dot or an empty part into it, so the module and the file beside it are written below
the output directory and nowhere else, by one feature and by a whole run.

    the path of a test module is its package, part by part, and a name        (Placed.goesTo)
    a file that writing outputs changes is one of two below the directory     (place_of_writeOutputs)
    a file that a run changes lies below the output directory                 (below_of_run)
-/

namespace Acceptance

open Acceptance.Text

/-- Whether a text leads one directory down: it is not empty, not `.` or `..`, and has no slash. -/
def LeadsDown (part : String) : Prop :=
  part ≠ "" ∧ part ≠ "." ∧ part ≠ ".." ∧ '/' ∉ part.toList

theorem leadsDown_iff {part : String} :
    LeadsDown part ↔ Path.isPart part = true ∧ part ≠ ".." := by
  rw [Path.isPart_iff, LeadsDown]
  constructor
  · rintro ⟨hempty, hdot, hup, hslash⟩
    exact ⟨⟨hempty, hdot, hslash⟩, hup⟩
  · rintro ⟨⟨hempty, hdot, hslash⟩, hup⟩
    exact ⟨hempty, hdot, hup, hslash⟩

/-! ## Paths of test modules -/

/-- A test module goes down the directories of its package, to a file of a name. -/
structure GeneratedFile.GoesTo (f : GeneratedFile) (dirs : List String) (name : String) : Prop where
  path : f.outputPath = join "/" (dirs ++ ["test_" ++ name ++ ".py"])
  relative : Path.ofText f.outputPath = ⟨0, dirs ++ ["test_" ++ name ++ ".py"]⟩
  down : ∀ part ∈ dirs ++ ["test_" ++ name ++ ".py"], LeadsDown part
  unpackaged : f.plan.package = "" → dirs = []
  packaged : join "." dirs = f.plan.package ∧ ∀ dir ∈ dirs, '.' ∉ dir.toList
  named : name ≠ "" ∧ '.' ∉ name.toList ∧ '/' ∉ name.toList ∧ '\\' ∉ name.toList

theorem GeneratedFile.Placed.goesTo {f : GeneratedFile} (h : f.Placed) :
    f.GoesTo (Plan.packageParts f.plan) (Plan.outputStem f.plan.fileName) := by
  constructor
  case path => exact h.path
  case relative =>
    rw [h.path]
    exact Plan.ofText_outputPath h.parts
  case down =>
    intro part hpart
    exact leadsDown_iff.2 ⟨(h.parts part hpart).isPart, (h.parts part hpart).down⟩
  case unpackaged =>
    intro hnone
    rw [Plan.packageParts, if_pos hnone]
  case packaged =>
    refine ⟨?_, fun dir hdir => Plan.dot_not_mem_packageParts hdir⟩
    unfold Plan.packageParts
    split
    · next hnone =>
      rw [hnone]
      rfl
    · exact Plan.join_dottedParts f.plan.package
  case named =>
    exact ⟨Plan.outputStem_ne_empty _, Plan.not_mem_outputStem (.inl rfl),
      Plan.not_mem_outputStem (.inr (.inl rfl)), Plan.not_mem_outputStem (.inr (.inr (.inl rfl)))⟩

/-! ## Places of outputs -/

namespace Run

variable {job : Job} {t : FileTree} {f : GeneratedFile} {here k : Location}

/-- The places of outputs are two names in the directory of the package. -/
theorem place_of_outputPlaces (hf : f.Placed) (hk : outputPlaces job f here k) :
    ∃ name, (name = Plan.outputName f.plan.fileName ∨ name = snapshotName f) ∧
      k = job.outputDir.place here ++ (Plan.packageParts f.plan ++ [name]) := by
  rcases hk with rfl | rfl
  · exact ⟨_, .inl rfl, target_place job hf here⟩
  · exact ⟨_, .inr rfl, by rw [snapshot_place job hf, List.append_assoc]⟩

/-- **A file that writing outputs changes is one of these.** -/
theorem place_of_writeOutputs (hf : f.Placed)
    (changed : (writeOutputs job t f).1.fileAt? k ≠ t.fileAt? k) :
    ∃ name, (name = Plan.outputName f.plan.fileName ∨ name = snapshotName f) ∧
      k = job.outputDir.place t.here ++ (Plan.packageParts f.plan ++ [name]) := by
  refine place_of_outputPlaces hf ?_
  by_contra hno
  exact changed ((leaves_writeOutputs job t hf).other hno)

/-- The name of the file beside a module leads down, where that of the feature has no slash. -/
theorem leadsDown_snapshotName (stem : '/' ∉ f.plan.fileName.toList) : LeadsDown (snapshotName f) := by
  obtain ⟨hempty, hdot, hup⟩ := proper_snapshotName f
  refine ⟨hempty, hdot, hup, ?_⟩
  rw [snapshotName, String.toList_append, List.mem_append, not_or]
  exact ⟨stem, by decide⟩

end Run

namespace Project

variable {p : Project} {c : Config} {write : Bool} {k : Location}

/-- **A file that a run changes lies below the output directory.** -/
theorem below_of_run (changed : (p.run c write).tree.fileAt? k ≠ p.tree.fileAt? k) :
    ∃ outputDir names, p.pathOf c.outputDir = .ok outputDir ∧ names ≠ [] ∧
      k = outputDir.place p.tree.here ++ names := by
  cases hresult : (p.run c write).result with
  | error e =>
    rw [tree_of_run_error hresult] at changed
    exact absurd rfl changed
  | ok report =>
    cases hprepare : p.prepare c write with
    | error ended =>
      rw [run, hprepare] at changed
      simp only at changed
      rw [(ended_of_prepare_error hprepare).1] at changed
      exact absurd rfl changed
    | ok ready =>
      obtain ⟨r, hr, -⟩ := (report_iff_of_prepare hprepare).1 hresult
      rw [run_of_after hprepare hr] at changed
      have howns := owns_after hprepare (List.prefix_refl ready.paths) hr
      obtain ⟨g, hg, -, hplace⟩ :=
        howns.proper_of_wrote ((traced_after hprepare hr).changed k changed).2
      obtain ⟨name, -, rfl⟩ := Run.place_of_outputPlaces hg.placed hplace
      exact ⟨_, _, (prepares_of_prepare hprepare).outputDir, by simp, rfl⟩

end Project

/-! ## Top theorem -/

/-- **Outputs stay below the output directory.**  Where a feature whose file name has no separator
gives a test module, the path of the module is relative and leads down: first through the parts of
the package, which is empty or the dotted name that the tags of the feature give, split at its dots,
then to a file whose name, between `test_` and `.py`, is not empty and has neither dots nor
separators.  Writing the outputs changes no file but the one of this path and the snapshot beside
it, below the output directory. -/
theorem outputs_stay_below {c : Catalog} {template content fileName source : String}
    {f : GeneratedFile}
    (h : (generateFeature c template content fileName source).file = some f)
    (stem : '/' ∉ fileName.toList) :
    ∃ dirs name, f.GoesTo dirs name ∧
      (∃ d, Gherkin.Document.read content = .ok d ∧
        (d = none ∧ f.plan.package = "" ∨
          ∃ feature, d = some feature ∧ f.plan.package = Plan.packageOf feature.tags)) ∧
      (f.plan.package = "" ∨ Plan.isDottedName f.plan.package = true) ∧
      ∀ job t k, (Run.writeOutputs job t f).1.fileAt? k ≠ t.fileAt? k →
        ∃ output, (output = "test_" ++ name ++ ".py" ∨ output = fileName ++ ".crif.json") ∧
          (∀ part ∈ dirs ++ [output], LeadsDown part) ∧
          k = job.outputDir.place t.here ++ (dirs ++ [output]) := by
  obtain ⟨d, hd, hplan⟩ := Run.document_of_generateFeature h
  have hplaced := Run.placed_of_generateFeature h
  have hname := Plan.fileName_of_convert hplan
  refine ⟨_, _, hplaced.goesTo, ⟨d, hd, ?_⟩, Plan.package_of_convert hplan, ?_⟩
  · cases d with
    | none =>
      refine .inl ⟨rfl, ?_⟩
      rw [← Except.ok.inj hplan]
      rfl
    | some feature => exact .inr ⟨feature, rfl, Plan.package_of_convert_some hplan⟩
  · intro job t k changed
    obtain ⟨output, houtput, hk⟩ := Run.place_of_writeOutputs hplaced changed
    have hsnapshot : Run.snapshotName f = fileName ++ ".crif.json" := by
      rw [Run.snapshotName, hname]
    refine ⟨output, houtput.imp id fun he => he.trans hsnapshot, ?_, hk⟩
    intro part hpart
    rcases houtput with rfl | rfl
    · exact hplaced.goesTo.down part hpart
    · rcases List.mem_append.1 hpart with hpart | hpart
      · exact hplaced.goesTo.down part (List.mem_append_left _ hpart)
      · rw [List.mem_singleton.1 hpart]
        exact Run.leadsDown_snapshotName (hname ▸ stem)

/-- The text of a feature in a package of two parts. -/
def loanText : String := "@namespace:bank.loans\nFeature: Loans\n"

/-- Its test module goes two directories down. -/
theorem loanText_stays_below : ∃ f,
    (generateFeature [] "# tests" loanText "TopUp" "features/TopUp.feature").file = some f ∧
      '/' ∉ "TopUp".toList ∧ f.outputPath = "bank/loans/test_top_up.py" ∧
      ∃ dirs name, f.GoesTo dirs name ∧ join "." dirs = "bank.loans" := by
  have hpath : (generateFeature [] "# tests" loanText "TopUp" "features/TopUp.feature").file.map
      (fun f => (f.outputPath, f.plan.package)) = some ("bank/loans/test_top_up.py", "bank.loans") := by
    decide +kernel
  obtain ⟨f, hf, hpair⟩ := Option.map_eq_some_iff.1 hpath
  obtain ⟨houtput, hpackage⟩ := Prod.mk.inj hpair
  have stem : '/' ∉ "TopUp".toList := by decide
  obtain ⟨dirs, name, hgoes, -⟩ := outputs_stay_below hf stem
  exact ⟨f, hf, stem, houtput, dirs, name, hgoes, hgoes.packaged.1.trans hpackage⟩

end Acceptance
