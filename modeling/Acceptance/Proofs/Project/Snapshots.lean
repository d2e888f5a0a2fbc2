import Acceptance.Proofs.Project.Outputs
import Mathlib.Data.List.Nodup

/-!
# Snapshots of a run

The plan of an entry stands beside its module under the stem of the feature file, and no two entries
of a run share that file.  Without regard to case they may: a run compares the paths of modules,
whose names have the stem in snake case, and stems that differ in case alone may have their
underscores at different places.

    fold (join "/" parts) = fold (join "/" others) ↔ parts.map fold = others.map fold
                                                                          (fold_join_inj)
    the snapshots of a run are apart without regard to case exactly where stems that agree
    without regard to case give module names that do                      (run_snapshots_apart)
-/

namespace Acceptance

open Acceptance.Text

/-! ## Paths without regard to case -/

namespace Text

theorem flatMap_intercalate {α β : Type} (f : α → List β) (sep : List α) (pieces : List (List α)) :
    (sep.intercalate pieces).flatMap f =
      (sep.flatMap f).intercalate (pieces.map fun piece => piece.flatMap f) := by
  cases pieces with
  | nil => rfl
  | cons piece pieces =>
    rw [List.map_cons, intercalate_cons, intercalate_cons, List.flatMap_append,
      List.flatMap_assoc, List.flatMap_map]
    simp only [List.flatMap_append]

/-- The folding of a path is the path of the foldings. -/
theorem fold_join (parts : List String) :
    (fold (join "/" parts)).toList =
      List.intercalate ['/'] (parts.map fun part => (fold part).toList) := by
  have hslash : ("/".toList).flatMap foldChar = ['/'] := by decide +kernel
  rw [fold, String.toList_ofList, join, String.toList_intercalate, flatMap_intercalate, hslash,
    List.map_map]
  simp [fold, Function.comp_def]

theorem splitAt_fold_join {parts : List String} (ne : parts ≠ [])
    (h : ∀ part ∈ parts, Path.isPart part = true) :
    splitAt '/' (fold (join "/" parts)).toList = parts.map fun part => (fold part).toList := by
  rw [fold_join]
  refine splitAt_intercalate (by simpa using ne) ?_
  intro piece hp
  obtain ⟨part, hm, rfl⟩ := List.mem_map.1 hp
  exact fun hslash => (Path.isPart_iff.1 (h part hm)).2.2 (mem_of_mem_fold (by decide) hslash)

/-- **Paths agree without regard to case where their parts do.** -/
theorem fold_join_inj {parts others : List String} (ne : parts ≠ []) (ne' : others ≠ [])
    (h : ∀ part ∈ parts, Path.isPart part = true)
    (h' : ∀ part ∈ others, Path.isPart part = true) :
    fold (join "/" parts) = fold (join "/" others) ↔ parts.map fold = others.map fold := by
  constructor
  · intro he
    have hsplit := splitAt_fold_join ne h
    rw [he, splitAt_fold_join ne' h'] at hsplit
    have hparts := congrArg (List.map String.ofList) hsplit
    simpa [Function.comp_def] using hparts.symm
  · intro he
    have hlists := congrArg (List.map String.toList) he
    rw [List.map_map, List.map_map] at hlists
    refine String.toList_inj.1 ?_
    rw [fold_join, fold_join]
    exact congrArg _ hlists

end Text

/-! ## Snapshots of entries -/

/-- The path of an entry's plan below the output directory. -/
def GeneratedFile.snapshotPath (f : GeneratedFile) : String :=
  join "/" (Plan.packageParts f.plan ++ [Run.snapshotName f])

/-- Entries whose packages and feature files are named alike without regard to case. -/
def GeneratedFile.CaseTwins (f g : GeneratedFile) : Prop :=
  (Plan.packageParts f.plan).map fold = (Plan.packageParts g.plan).map fold ∧
    fold f.plan.fileName = fold g.plan.fileName

namespace Run

variable {job : Job} {f g : GeneratedFile}

/-- An entry that is named after a feature file. -/
structure Named (f : GeneratedFile) : Prop extends f.Proper where
  slash : '/' ∉ f.plan.fileName.toList

theorem Named.isPart (h : Named f) :
    ∀ part ∈ Plan.packageParts f.plan ++ [snapshotName f], Path.isPart part = true := by
  intro part hp
  rcases List.mem_append.1 hp with hp | hp
  · exact (h.parts part (List.mem_append_left _ hp)).isPart
  · obtain ⟨hempty, hdot, -⟩ := proper_snapshotName f
    rw [List.mem_singleton.1 hp]
    refine Path.isPart_iff.2 ⟨hempty, hdot, ?_⟩
    rw [snapshotName, String.toList_append, List.mem_append, not_or]
    exact ⟨h.slash, by decide⟩

theorem snapshot_eq_to (job : Job) (h : Named f) :
    snapshot job f = job.outputDir.«to» (.ofText f.snapshotPath) := by
  rw [snapshot_eq job h.toProper.placed, GeneratedFile.snapshotPath, Path.ofText_join (by simp) h.isPart]
  rfl

theorem fold_snapshotPath_inj (hf : Named f) (hg : Named g) :
    fold f.snapshotPath = fold g.snapshotPath ↔ f.CaseTwins g := by
  have hname : fold (snapshotName f) = fold (snapshotName g) ↔
      fold f.plan.fileName = fold g.plan.fileName := by
    rw [snapshotName, snapshotName, fold_append, fold_append, ← String.toList_inj,
      String.toList_append, String.toList_append, List.append_cancel_right_eq, String.toList_inj]
  rw [GeneratedFile.snapshotPath, GeneratedFile.snapshotPath,
    fold_join_inj (by simp) (by simp) hf.isPart hg.isPart, GeneratedFile.CaseTwins, ← hname]
  simp

theorem fold_outputPath_inj (hf : f.Proper) (hg : g.Proper) :
    fold f.outputPath = fold g.outputPath ↔
      (Plan.packageParts f.plan).map fold = (Plan.packageParts g.plan).map fold ∧
        fold (Plan.outputName f.plan.fileName) = fold (Plan.outputName g.plan.fileName) := by
  rw [hf.path, hg.path, Plan.outputPath, Plan.outputPath,
    fold_join_inj (by simp [Plan.outputParts]) (by simp [Plan.outputParts])
      (fun part hp => (hf.parts part hp).isPart) (fun part hp => (hg.parts part hp).isPart),
    Plan.outputParts, Plan.outputParts]
  simp

section
variable {files : List GeneratedFile} (named : ∀ f ∈ files, Named f)
  (apart : (files.map fun f => fold f.outputPath).Nodup)

include named apart

/-- Modules that are apart have snapshots that are. -/
theorem snapshotPaths_nodup : (files.map (·.snapshotPath)).Nodup := by
  refine List.Nodup.map_on ?_ (apart.of_map _)
  intro f hf g hg he
  have hparts := congrArg Path.ofText he
  rw [GeneratedFile.snapshotPath, GeneratedFile.snapshotPath,
    Path.ofText_join (by simp) (named f hf).isPart,
    Path.ofText_join (by simp) (named g hg).isPart] at hparts
  obtain ⟨hpackage, hname⟩ := List.append_inj' (Path.mk.inj hparts).2 rfl
  have hstem := snapshotName_inj (List.singleton_inj.1 hname)
  refine List.inj_on_of_nodup_map apart hf hg ?_
  rw [fold_outputPath_inj (named f hf).toProper (named g hg).toProper, hpackage, hstem]
  exact ⟨rfl, rfl⟩

/-- Without regard to case they are where the names of the modules tell the same stems apart. -/
theorem fold_snapshotPaths_nodup_iff :
    (files.map fun f => fold f.snapshotPath).Nodup ↔
      ∀ f ∈ files, ∀ g ∈ files, f.CaseTwins g →
        fold (Plan.outputName f.plan.fileName) = fold (Plan.outputName g.plan.fileName) := by
  constructor
  · intro hnodup f hf g hg htwins
    have he := (fold_snapshotPath_inj (named f hf) (named g hg)).2 htwins
    rw [List.inj_on_of_nodup_map hnodup hf hg he]
  · intro hnames
    refine List.Nodup.map_on ?_ (apart.of_map _)
    intro f hf g hg he
    have htwins := (fold_snapshotPath_inj (named f hf) (named g hg)).1 he
    refine List.inj_on_of_nodup_map apart hf hg ?_
    exact (fold_outputPath_inj (named f hf).toProper (named g hg).toProper).2
      ⟨htwins.1, hnames f hf g hg htwins⟩

end

end Run

namespace Project

/-! ## Stems of features -/

/-- The stem of a feature file is a part of a name in the tree. -/
theorem slash_not_mem_stem {p : Project} {c : Config} {paths : List Path} {path : Path}
    (h : p.features c = .ok paths) (hp : path ∈ paths) : '/' ∉ path.stem.toList := by
  obtain ⟨setting, rfl⟩ := features_eq_find h
  obtain ⟨names, hfinds⟩ := FileTree.finds_of_mem hp
  have hname : Path.isPart path.name = true := by
    rw [hfinds.path, Path.name_down hfinds.ne]
    exact FileTree.isPart_of_isName (hfinds.legal _ (List.getLast_mem hfinds.ne))
  rw [Path.stem, String.toList_ofList]
  exact fun hm => (Path.isPart_iff.1 hname).2.2 (Path.splitName_subset _ hm)

theorem named_of_owns {p : Project} {c : Config} {job : Job} {r : Run} {paths : List Path}
    {f : GeneratedFile} (h : Run.Owns job paths r) (features : p.features c = .ok paths)
    (hf : f ∈ r.report.files) : Run.Named f := by
  obtain ⟨path, hp, -, hstem⟩ := h.origin f hf
  refine ⟨h.proper f hf, ?_⟩
  rw [hstem]
  exact slash_not_mem_stem features hp

/-! ## Top theorem -/

/-- **Snapshots of a run.**  In a run that writes plans beside its modules, the plan of every entry
stands at a path of its own when the run ends.  Without regard to case these paths are distinct
exactly where entries whose packages and stems agree have module names that agree. -/
theorem run_snapshots_apart {p : Project} {c : Config} {report : Report}
    (on : c.snapshots.truthy = true) (reported : (p.run c true).result = .ok report) :
    (∀ f ∈ report.files, ∃ outputDir, p.pathOf c.outputDir = .ok outputDir ∧
      (p.run c true).tree.readBytes (outputDir.«to» (.ofText f.snapshotPath)) =
        .ok (f.plan.exportText 2).toUTF8) ∧
      (report.files.map (·.snapshotPath)).Nodup ∧
      ((report.files.map fun f => fold f.snapshotPath).Nodup ↔
        ∀ f ∈ report.files, ∀ g ∈ report.files, f.CaseTwins g →
          fold (Plan.outputName f.plan.fileName) = fold (Plan.outputName g.plan.fileName)) := by
  cases hq : p.prepare c true with
  | error ended =>
    rw [run, hq] at reported
    rw [files_of_prepare_error hq reported]
    simp
  | ok q =>
    obtain ⟨last, hlast, rfl⟩ := (report_iff_of_prepare hq).1 reported
    have hprepares := prepares_of_prepare hq
    have howns := owns_after hq (List.prefix_refl q.paths) hlast
    have hnamed : ∀ f ∈ last.report.files, Run.Named f :=
      fun f hf => named_of_owns howns hprepares.features hf
    refine ⟨?_, Run.snapshotPaths_nodup hnamed howns.apart,
      Run.fold_snapshotPaths_nodup_iff hnamed howns.apart⟩
    intro f hf
    refine ⟨q.job.outputDir, hprepares.outputDir, ?_⟩
    rw [run_of_after hq hlast, ← Run.snapshot_eq_to q.job (hnamed f hf)]
    exact (howns.held hprepares.write f hf).snapshot (hprepares.snapshots.trans on)

/-! ## Stems that differ in case alone -/

/-- A project with two feature files whose names differ in case alone. -/
def cased : Project :=
  { tree := (((((((FileTree.empty ["home"]).putDirectory ["home"]).putFile ["home", "t.j2"]
      "# tests".toUTF8).putDirectory ["home", "features"]).putDirectory
      ["home", "features", "a"]).putFile ["home", "features", "a", "fooBar.feature"]
      "Feature: One\n".toUTF8).putDirectory ["home", "features", "b"]).putFile
      ["home", "features", "b", "foobar.feature"] "Feature: Other\n".toUTF8
    root := ⟨1, ["home"]⟩ }

def casedPaths : List Path :=
  [⟨1, ["home", "features", "a", "fooBar.feature"]⟩,
    ⟨1, ["home", "features", "b", "foobar.feature"]⟩]

def casedStart : Run := ⟨cased.tree, [], .empty, (cased.loadCatalog twinsConfig).log⟩

theorem cased_reports : ∃ report, (cased.run twinsConfig true).result = .ok report ∧
    report.files.map (·.outputPath) = ["test_foo_bar.py", "test_foobar.py"] ∧
    report.files.map (·.snapshotPath) = ["fooBar.crif.json", "foobar.crif.json"] := by
  have hfind : cased.tree.find ⟨1, ["home", "features"]⟩ (hasEnding featureEnding) = casedPaths :=
    FileTree.find_of_sorted (by decide +kernel) (by decide +kernel)
  have hprepare : cased.prepare twinsConfig true = .ok ⟨twinsJob, casedStart, casedPaths⟩ := by
    rw [← hfind]
    rfl
  have hfiles : (Run.features twinsJob casedStart casedPaths).toOption.map
      (fun r => (r.report.files.map (·.outputPath), r.report.files.map (·.snapshotPath))) =
      some (["test_foo_bar.py", "test_foobar.py"], ["fooBar.crif.json", "foobar.crif.json"]) := by
    decide +kernel
  cases hr : Run.features twinsJob casedStart casedPaths with
  | error ended =>
    rw [hr] at hfiles
    cases hfiles
  | ok r =>
    rw [hr] at hfiles
    refine ⟨r.report, ?_, Prod.mk.inj (Option.some.inj hfiles)⟩
    rw [run_of_after hprepare hr]
    rfl

/-- Their modules are apart and their snapshots are not. -/
theorem cased_snapshots_collide : ∃ report, twinsConfig.snapshots.truthy = true ∧
    (cased.run twinsConfig true).result = .ok report ∧
    report.files.map (·.outputPath) = ["test_foo_bar.py", "test_foobar.py"] ∧
    ¬ (report.files.map fun f => fold f.snapshotPath).Nodup := by
  obtain ⟨report, hreport, houtputs, hsnapshots⟩ := cased_reports
  have hfolded : (report.files.map fun f => fold f.snapshotPath) =
      ["fooBar.crif.json", "foobar.crif.json"].map fold := by
    rw [← hsnapshots, List.map_map]
    rfl
  refine ⟨report, rfl, hreport, houtputs, ?_⟩
  rw [hfolded]
  decide +kernel

theorem cased_snapshots_apart : ∃ report, twinsConfig.snapshots.truthy = true ∧
    (cased.run twinsConfig true).result = .ok report ∧ report.files.length = 2 ∧
    (report.files.map (·.snapshotPath)).Nodup := by
  obtain ⟨report, hreport, houtputs, -⟩ := cased_reports
  have hlength := congrArg List.length houtputs
  rw [List.length_map] at hlength
  exact ⟨report, rfl, hreport, hlength, (run_snapshots_apart rfl hreport).2.1⟩

end Project

end Acceptance
