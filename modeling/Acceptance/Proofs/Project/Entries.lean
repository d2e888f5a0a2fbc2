import Acceptance.Proofs.Files.Shown
import Acceptance.Proofs.Project.Configurations
import Acceptance.Proofs.Project.Outputs
import Acceptance.Proofs.Project.SecondRun
import Acceptance.Proofs.Project.SecondStart

/-!
# Entries and what they were made of

An entry of a report is what a feature of the project gives.  A run writes neither over that feature
nor over the configuration file, so both are read behind the run as they were before it.

    f ∈ report.files → p.MakesEntry c write f prepared r path       for some feature path
                                                                    (makesEntry_of_mem)
    p.loadConfig = .ok c → (p.withTree u).loadConfig = .ok c        where test modules were written
                                                                    (loadConfig_of_filled)
-/

namespace Acceptance

open Acceptance.Text

/-! ## The configuration file -/

namespace Run

variable {job : Job} {f : GeneratedFile} {here l : Location}

/-- No output has the name of the configuration file. -/
theorem outputPlaces_ne_config (hf : f.Proper) : ¬ outputPlaces job f here (l ++ ["config.json"]) := by
  rintro (he | he)
  · rw [target_place job hf.placed, Plan.outputParts, ← List.append_assoc] at he
    have hlast := outputName_getLast? f.plan.fileName
    rw [← List.singleton_inj.1 (List.append_inj' he rfl).2] at hlast
    exact absurd hlast (by decide)
  · rw [snapshot_place job hf.placed] at he
    have hending : hasEnding ".crif.json" (snapshotName f) = true := by
      rw [hasEnding, List.isSuffixOf_iff_suffix, snapshotName, String.toList_append]
      exact List.suffix_append _ _
    rw [← List.singleton_inj.1 (List.append_inj' he rfl).2] at hending
    exact absurd hending (by decide)

end Run

namespace Project

variable {p : Project} {c : Config} {u : FileTree} {job : Job}

/-- Test modules are not written over the configuration file. -/
theorem loadConfig_of_filled (h : Run.Filled job p.tree u) (loaded : p.loadConfig = .ok c) :
    (p.withTree u).loadConfig = .ok c := by
  obtain ⟨l, b, hlook⟩ := look_config loaded
  obtain ⟨hlocate, hfile⟩ := FileTree.look_eq_ok_iff.1 hlook
  have hbehind : u.look p.configPath = .ok (l ++ ["config.json"], .file b) :=
    FileTree.look_eq_ok_iff.2 ⟨h.keeps.locate hlocate,
      h.stays (fun f hf => Run.outputPlaces_ne_config hf) hfile⟩
  rw [← loaded]
  exact loadConfig_congr rfl (hbehind.trans hlook.symm)

/-! ## Entries -/

section
variable {prepared : Prepared} {r : Run} {write : Bool} {report : Report} {f : GeneratedFile}
  {path : Path}

/-- A run that ends with `r` has an entry from the feature at a path. -/
structure MakesEntry (p : Project) (c : Config) (write : Bool) (f : GeneratedFile)
    (prepared : Prepared) (r : Run) (path : Path) : Prop where
  prepares : p.prepare c write = .ok prepared
  ends : prepared.after prepared.paths = .ok r
  entry : f ∈ r.report.files
  feature : path ∈ prepared.paths
  gives : rendered prepared.job.catalog prepared.job.template p.root p.tree path = some f

/-- Every entry comes from a feature. -/
theorem makesEntry_of_mem (reported : (p.run c write).result = .ok report)
    (h : f ∈ report.files) : ∃ prepared r path, p.MakesEntry c write f prepared r path := by
  cases hq : p.prepare c write with
  | error ended =>
    rw [run, hq] at reported
    rw [files_of_prepare_error hq reported] at h
    contradiction
  | ok prepared =>
    obtain ⟨r, hr, rfl⟩ := (report_iff_of_prepare hq).1 reported
    have hprepares := prepares_of_prepare hq
    obtain ⟨shares, hpaths, hdue, hfiles, -⟩ := Run.features_shares hr hprepares.leads
    rw [hprepares.files, List.nil_append] at hfiles
    have hmem := h
    rw [hfiles] at hmem
    obtain ⟨s, hs, hf⟩ := List.mem_flatMap.1 hmem
    have hgives := (hdue s hs).given f hf
    rw [hprepares.root, hprepares.tree] at hgives
    exact ⟨prepared, r, s.path, hq, hr, h, hpaths ▸ List.mem_map_of_mem hs, hgives⟩

namespace MakesEntry

variable (h : p.MakesEntry c write f prepared r path)

include h

theorem tree : (p.run c write).tree = r.tree := by
  rw [run_of_after h.prepares h.ends]
  rfl

theorem filled : Run.Filled prepared.job p.tree r.tree := by
  rw [← (prepares_of_prepare h.prepares).tree]
  exact Run.features_filled h.ends

/-- The feature gives the entry behind the run as well. -/
theorem gives_again :
    rendered prepared.job.catalog prepared.job.template p.root r.tree path = some f := by
  have hprepares := prepares_of_prepare h.prepares
  have hkeeps := Run.features_keepsFeatures h.ends
  rw [hprepares.tree] at hkeeps
  rw [← h.gives]
  exact Run.rendered_of_keeps (features_lead hprepares.features path h.feature) hkeeps

theorem under : ∃ setting, Path.Under p.root setting path := by
  obtain ⟨setting, hpaths⟩ := features_eq_find (prepares_of_prepare h.prepares).features
  have hmem := h.feature
  rw [hpaths] at hmem
  exact ⟨setting, FileTree.under_of_mem_find hmem⟩

end MakesEntry

end

end Project

end Acceptance
