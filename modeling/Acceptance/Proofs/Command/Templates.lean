import Acceptance.Proofs.Command.SettingUp
import Acceptance.Proofs.Project.Templates

/-!
# Templates of projects that were set up

A project that is set up is given the bundled template, so that its tests can be generated.  They
can where its template directory holds a file that ends as templates do.  Where it holds a directory
of such a name and no such file, nothing is installed, and every run says that the template is
missing, with the advice to set the project up.

    p.installTemplate c = ⟨q, .ok installed⟩ →
      ((∃ path, q.UsesTemplate c path) ↔ p.HoldsTemplate c ∨ installed ≠ none)
                                                            (template_found_behind_set_up)
-/

namespace Acceptance.Command

open Project

/-! ## Top theorem -/

/-- **When a template that was installed is found.**  Where a configuration names no template,
installing one leaves a template that is found and read, and that no run misses, exactly where a
file in the template directory ended as templates do or the bundled one was written.  That is then
the only template, and has the bundled text.  Otherwise there is no template, and every run says so.
The same holds behind the command that sets up. -/
theorem template_found_behind_set_up {c : Config} (implicit : c.template.truthy = false) :
    (∀ (p q : Project) (installed : Option Path), p.installTemplate c = ⟨q, .ok installed⟩ →
      (∀ target, installed = some target →
        q.templates c = .ok [target] ∧ q.readText target = .ok Template.bundled) ∧
      ((∃ path, q.UsesTemplate c path) ↔ p.HoldsTemplate c ∨ installed ≠ none) ∧
      (q.LacksTemplate c ↔ ¬ p.HoldsTemplate c ∧ installed = none)) ∧
    ∀ (p : Project) (words : List String) (level : Level),
      CommandLine.ofWords? words = some ⟨level, .setUp⟩ → (run p words).1.ending.code = 0 →
      (run p words).1.project.loadConfig = .ok c →
        ((∃ path, (run p words).1.project.UsesTemplate c path) ↔
          (run p words).1.project.HoldsTemplate c) ∧
        ((run p words).1.project.LacksTemplate c ↔ ¬ (run p words).1.project.HoldsTemplate c) := by
  have hstands : ∀ {p q : Project} {installed : Option Path},
      p.installTemplate c = ⟨q, .ok installed⟩ →
        ((∃ path, q.UsesTemplate c path) ↔ q.HoldsTemplate c) ∧
          (q.LacksTemplate c ↔ ¬ q.HoldsTemplate c) := by
    intro p q installed h
    obtain ⟨directory, hv, hlook⟩ := look_of_installTemplate h
    exact ⟨usesTemplate_iff implicit hv hlook, lacksTemplate_iff implicit hv hlook⟩
  constructor
  · intro p q installed h
    obtain ⟨huses, hlacks⟩ := hstands h
    refine ⟨fun target hinstalled => templates_of_installed h implicit hinstalled, ?_, ?_⟩
    · rw [huses, holdsTemplate_of_installTemplate h]
    · rw [hlacks, holdsTemplate_of_installTemplate h, not_or, not_not]
  · intro p words level asked success hload
    have hrun : (run p words).1 = setUp p := by
      rw [run, asked]
      rfl
    rw [hrun] at success hload ⊢
    obtain ⟨c', hsets⟩ := setsUp_of_success success
    obtain rfl := Except.ok.inj (hload.symm.trans hsets.loads)
    obtain ⟨s, hs⟩ := hsets.made
    obtain ⟨before, h⟩ := setUp_installs hs
    exact hstands h

/-- The bundled template of `fresh`. -/
def freshTemplate : Path := ⟨1, ["home", ".feature-gen", "templates", "pytest.py.j2"]⟩

/-- A project with nothing but a feature is given the bundled template, also by the command. -/
theorem freshTemplate_found :
    (∃ q, fresh.installTemplate .standard = ⟨q, .ok (some freshTemplate)⟩ ∧
      q.templates .standard = .ok [freshTemplate] ∧ ∃ path, q.UsesTemplate .standard path) ∧
    (run fresh ["init"]).1.ending.code = 0 ∧
      (run fresh ["init"]).1.project.loadConfig = .ok .standard ∧
      ∃ path, (run fresh ["init"]).1.project.UsesTemplate .standard path := by
  have implicit : Config.standard.template.truthy = false := rfl
  obtain ⟨installs, setsUp⟩ := template_found_behind_set_up implicit
  have result : (fresh.installTemplate .standard).result = .ok (some freshTemplate) := by
    decide +kernel
  obtain ⟨only, uses, -⟩ := installs fresh (fresh.installTemplate .standard).project
    (some freshTemplate) (by rw [← result])
  have asked : CommandLine.ofWords? ["init"] = some ⟨.warning, .setUp⟩ := by decide
  have success : (run fresh ["init"]).1.ending.code = 0 := by decide +kernel
  have loads : (run fresh ["init"]).1.project.loadConfig = .ok .standard := by
    obtain ⟨c, hsets⟩ := setsUp_of_success (p := fresh) success
    have hinitialized : ¬ fresh.isInitialized = true := by decide +kernel
    have hconfig := hsets.config
    rw [if_neg hinitialized] at hconfig
    rw [← hconfig]
    exact hsets.loads
  have there : (run fresh ["init"]).1.project.root = ⟨1, ["home"]⟩ ∧
      (run fresh ["init"]).1.project.tree.here = ["home"] ∧
      (run fresh ["init"]).1.project.tree.isFile freshTemplate = true := by
    decide +kernel
  have holds : (run fresh ["init"]).1.project.HoldsTemplate .standard := by
    obtain ⟨hroot, hhere, hfile⟩ := there
    obtain ⟨l, b, hlook⟩ := FileTree.isFile_iff.1 hfile
    obtain ⟨hlocate, hn⟩ := FileTree.look_eq_ok_iff.1 hlook
    rw [FileTree.locate_place hlocate, hhere] at hn
    refine ⟨⟨1, ["home", ".feature-gen", "templates"]⟩, "pytest.py.j2", b, ?_, ?_, by decide⟩
    · rw [pathOf, hroot]
      rfl
    · rw [hhere]
      exact hn
  exact ⟨⟨_, by rw [← result], (only _ rfl).1, uses.2 (.inr (Option.some_ne_none _))⟩, success, loads,
    (setsUp fresh ["init"] .warning asked success loads).1.2 holds⟩

/-- A project whose template directory holds a directory with a template's name. -/
def shadowed : Project :=
  { tree := (((((FileTree.empty ["home"]).putDirectory ["home"]).putDirectory
      ["home", ".feature-gen"]).putDirectory ["home", ".feature-gen", "templates"]).putDirectory
        ["home", ".feature-gen", "templates", "x.j2"])
    root := ⟨1, ["home"]⟩ }

/-- That directory keeps the bundled template away, and every run says that none is there. -/
theorem shadowed_template_missing : shadowed.installTemplate .standard = ⟨shadowed, .ok none⟩ ∧
    shadowed.templates .standard = .ok [] ∧ ∀ write, (shadowed.run .standard write).result =
      .ok ⟨[], [missingTemplate (.noTemplate ".feature-gen/templates/*.j2")]⟩ := by
  have hv : shadowed.pathOf Config.standard.templatesDir =
      .ok ⟨1, ["home", ".feature-gen", "templates"]⟩ := rfl
  have hlook : shadowed.tree.look ⟨1, ["home", ".feature-gen", "templates"]⟩ =
      .ok (["home", ".feature-gen", "templates"], .directory) := rfl
  have there : shadowed.tree.node? (["home", ".feature-gen", "templates"] ++ ["x.j2"]) =
      some .directory := rfl
  have hnone : shadowed.templates .standard = .ok [] := by decide +kernel
  exact ⟨installTemplate_none hv hlook there (by decide), hnone,
    (lacksTemplate_of_templates hnone).told⟩

end Acceptance.Command
