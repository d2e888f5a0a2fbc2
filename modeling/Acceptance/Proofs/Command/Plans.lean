import Acceptance.Proofs.Command.SettingUp
import Acceptance.Proofs.Project.Entries

/-!
# The command that prints a plan

The command reads the feature file that it is given and plans it with the project's steps, as a run
does.  So it prints what a run writes beside the test module of the feature, before the run and
behind it, as long as the step sources are the same.

    t.Starts root → t.look path = .ok (l, .file b) →
      isFileText t (path.shown root) = true                         (isFileText_shown)
    rendered catalog template p.root p.tree path = some f →
      (plan p f.featureFile).output = f.plan.exportText 2           (plan_of_rendered)
-/

namespace Acceptance.Command

open Acceptance.Text

variable {p : Project} {c : Config} {t : FileTree} {path root : Path} {word : String}

/-! ## Words -/

/-- The word behind the command is the feature, unless it may be an option. -/
theorem ofWords_plan (h : word.toList.head? ≠ some '-') :
    CommandLine.ofWords? ["crif", word] = some ⟨.warning, .plan word⟩ := by
  have hne : word ≠ "--" := by
    rintro rfl
    exact h rfl
  have hoption : CommandLine.isOption word = false := by
    unfold CommandLine.isOption
    split
    · next cs hcs =>
      rw [hcs] at h
      exact absurd rfl h
    · rfl
  have hword : CommandLine.part? [] true [word] = some ⟨[], [word]⟩ := by
    simp only [CommandLine.part?, if_neg hne, hoption]
    rfl
  have hcommand : CommandLine.part? CommandLine.generalOptions false ["crif", word] =
      some ⟨[], ["crif", word]⟩ := rfl
  simp [CommandLine.ofWords?, hcommand, CommandLine.Words.holds, CommandLine.optionsOf, hword,
    CommandLine.requestOf, CommandLine.levelOf]

theorem isFileText_of_walk {l : Location} {b : ByteArray} (ne : word ≠ "")
    (way : t.walk (if word.toList.head? = some '/' then [] else t.here) (Path.pieces word) = .ok l)
    (file : t.node? l = some (.file b)) : isFileText t word = true := by
  unfold Path.pieces at way
  unfold isFileText
  simp only [way, file, bne_iff_ne]
  exact ne

/-- A feature that is a file is one by what is shown of it. -/
theorem isFileText_shown {setting : String} {l : Location} {b : ByteArray} (h : t.Starts root)
    (under : Path.Under root setting path) (found : t.look path = .ok (l, .file b)) :
    isFileText t (path.shown root) = true := by
  obtain ⟨hclean : (path.asShown root).Clean, -⟩ := Path.shown_clean under
  have hlook := FileTree.look_asShown h found
  have hne := FileTree.parts_ne_nil_of_file h hlook
  obtain ⟨hlocate, hfile⟩ := FileTree.look_eq_ok_iff.1 hlook
  rw [Path.shown_eq]
  refine isFileText_of_walk (Path.text_ne_empty hclean hne) ?_ hfile
  have hstart : (if (path.asShown root).text.toList.head? = some '/' then [] else t.here) =
      (path.asShown root).start t.here := by
    simp only [Path.head?_text hclean hne, Path.start]
  show t.walk (if (path.asShown root).text.toList.head? = some '/' then [] else t.here)
    (Path.pieces (path.asShown root).text) = .ok l
  rw [hstart, FileTree.walk_pieces hclean hne (h.start _)]
  exact (FileTree.locate_eq_ok_iff.1 hlocate).2

/-! ## Plans -/

/-- What the command does with a document that has a plan. -/
theorem plan_of_document {content : String} {d : Gherkin.Document} {catalog : Catalog}
    {made : Plan} (file : isFileText p.tree word = true) (loaded : p.loadConfig = .ok c)
    (steps : (p.loadCatalog c).result = .ok catalog)
    (text : p.readText (.ofText word) = .ok content)
    (document : Gherkin.Document.read content = .ok d)
    (converted : Plan.convert catalog (Path.ofText word).stem d = .ok made) :
    (plan p word).ending = .success ∧ (plan p word).output = made.exportText 2 := by
  have hload : (Outcome.start p).project.loadConfig = .ok c := loaded
  have hsteps : ((Outcome.start p).project.loadCatalog c).result = .ok catalog := steps
  simp only [plan, if_pos file, withProject, if_pos (isInitialized_of_loadConfig loaded),
    withConfig, hload, text, document, withCatalog, hsteps, converted]
  refine ⟨rfl, ?_⟩
  show "" ++ made.exportText 2 = made.exportText 2
  exact String.empty_append

/-- **The command prints the plan of the test module that a feature gives.** -/
theorem plan_of_rendered {setting template : String} {catalog : Catalog} {f : GeneratedFile}
    (starts : p.tree.Starts p.root) (loaded : p.loadConfig = .ok c)
    (steps : (p.loadCatalog c).result = .ok catalog) (under : Path.Under p.root setting path)
    (gives : rendered catalog template p.root p.tree path = some f) :
    (plan p f.featureFile).ending = .success ∧
      (plan p f.featureFile).output = f.plan.exportText 2 ∧
      (Path.ofText f.featureFile).stem = path.stem := by
  obtain ⟨content, d, hread, hdocument, hconvert⟩ := Run.document_of_rendered gives
  obtain ⟨hclean : (path.asShown p.root).Clean, -⟩ := Path.shown_clean under
  obtain ⟨l, b, hlook⟩ := FileTree.look_of_readText hread
  have hshown := FileTree.look_asShown starts hlook
  have hpath : Path.ofText (path.shown p.root) = path.asShown p.root := Path.ofText_text hclean
  have hstem : (Path.ofText (path.shown p.root)).stem = path.stem := by
    rw [hpath]
    exact Path.stem_asShown (FileTree.parts_ne_nil_of_file starts hshown)
  have htext : p.readText (.ofText (path.shown p.root)) = .ok content := by
    rw [hpath, Project.readText, FileTree.readText_of_look hlook hshown, hread]
  rw [Run.featureFile_of_rendered gives]
  rw [← hstem] at hconvert
  obtain ⟨hending, houtput⟩ := plan_of_document (isFileText_shown starts under hlook) loaded steps
    htext hdocument hconvert
  exact ⟨hending, houtput, hstem⟩

/-! ## Top theorem -/

/-- The file beside the test module of an entry that holds its plan. -/
def snapshotPath (outputDir : Path) (f : GeneratedFile) : Path :=
  (outputDir.«to» (.ofText f.outputPath)).parent.child
    ((Path.ofText f.featureFile).stem ++ ".crif.json")

/-- **The command prints what a run writes.**  In the root of a project with a configuration, the
command succeeds on the feature of every entry of a run that writes plans, as long as the feature
does not look like an option, and prints what the file of the entry's plan holds.  It does so before
the run and behind it, whenever the step sources give the steps that the run had. -/
theorem plan_prints_snapshot {p q : Project} {c c' : Config} {report : Report} {f : GeneratedFile}
    (starts : p.tree.Starts p.root) (loaded : p.loadConfig = .ok c)
    (snapshots : c'.snapshots.truthy = true) (reported : (p.run c' true).result = .ok report)
    (entry : f ∈ report.files) (word : f.featureFile.toList.head? ≠ some '-')
    (time : q = p ∨ q = p.withTree (p.run c' true).tree)
    (steps : (q.loadCatalog c).result = (p.loadCatalog c').result) :
    (run q ["crif", f.featureFile]).1.ending.code = 0 ∧
      ∃ outputDir, p.pathOf c'.outputDir = .ok outputDir ∧
        (p.run c' true).tree.readBytes (snapshotPath outputDir f) =
          .ok (run q ["crif", f.featureFile]).1.output.toUTF8 := by
  obtain ⟨prepared, r, path, h⟩ := Project.makesEntry_of_mem reported entry
  obtain ⟨setting, hunder⟩ := h.under
  have hprepares := Project.prepares_of_prepare h.prepares
  rw [h.tree] at time ⊢
  rw [hprepares.catalog] at steps
  have hplan : (plan q f.featureFile).ending = .success ∧
      (plan q f.featureFile).output = f.plan.exportText 2 ∧
      (Path.ofText f.featureFile).stem = path.stem := by
    rcases time with rfl | rfl
    · exact plan_of_rendered starts loaded steps hunder h.gives
    · exact plan_of_rendered (starts.of_keeps h.filled.keeps)
        (Project.loadConfig_of_filled h.filled loaded) steps hunder h.gives_again
  obtain ⟨hending, houtput, hstem⟩ := hplan
  have hrun : (run q ["crif", f.featureFile]).1 = plan q f.featureFile := by
    rw [run, ofWords_plan word]
    rfl
  rw [hrun, hending, houtput]
  refine ⟨rfl, prepared.job.outputDir, hprepares.outputDir, ?_⟩
  have hheld := (Project.owns_after h.prepares (List.prefix_refl _) h.ends).held hprepares.write f
    h.entry
  have hsnapshot := hheld.snapshot (hprepares.snapshots.trans snapshots)
  rw [Run.snapshot, Run.fileName_of_rendered h.gives, ← hstem] at hsnapshot
  exact hsnapshot

/-- A project with two features and a configuration that asks for plans. -/
def saved : Project := (Project.twins.saveConfig Project.twinsConfig).project

def savedStart : Run := ⟨saved.tree, [], .empty, (saved.loadCatalog Project.twinsConfig).log⟩

theorem saved_prepare : saved.prepare Project.twinsConfig true =
    .ok ⟨Project.twinsJob, savedStart, Project.twinPaths⟩ := by
  have hfind : saved.tree.find ⟨1, ["home", "features"]⟩ (hasEnding featureEnding) =
      Project.twinPaths := FileTree.find_of_sorted (by decide +kernel) (by decide +kernel)
  rw [← hfind]
  rfl

theorem saved_loadConfig : saved.loadConfig = .ok Project.twinsConfig := by
  have settled : Project.twinsConfig.Settled :=
    ⟨⟨_, rfl⟩, ⟨_, rfl⟩, trivial, trivial, ⟨trivial, trivial⟩, trivial, trivial, trivial, trivial,
      trivial, trivial⟩
  have hsaved : (Project.twins.saveConfig Project.twinsConfig).result =
      .ok Project.twins.configPath := by rfl
  exact Project.loadConfig_saveConfig settled hsaved

/-- The plan of the first of two features, before a run and behind it. -/
theorem saved_plan_prints : ∃ report f,
    (saved.run Project.twinsConfig true).result = .ok report ∧ f ∈ report.files ∧
    f.featureFile = "features/a.feature" ∧
    ∀ q, q = saved ∨ q = saved.withTree (saved.run Project.twinsConfig true).tree →
      (run q ["crif", "features/a.feature"]).1.ending.code = 0 ∧
        ∃ outputDir, saved.pathOf Project.twinsConfig.outputDir = .ok outputDir ∧
          (saved.run Project.twinsConfig true).tree.readBytes (snapshotPath outputDir f) =
            .ok (run q ["crif", "features/a.feature"]).1.output.toUTF8 := by
  have hview : (Run.features Project.twinsJob savedStart Project.twinPaths).toOption.map
      (fun r => (r.report.files.map (·.featureFile),
        ((saved.withTree r.tree).loadCatalog Project.twinsConfig).result.toOption)) =
      some (["features/a.feature"], some []) := by decide +kernel
  cases hr : Run.features Project.twinsJob savedStart Project.twinPaths with
  | error ended =>
    rw [hr] at hview
    cases hview
  | ok r =>
    rw [hr] at hview
    obtain ⟨hfiles, hsteps⟩ := Prod.mk.inj (Option.some.inj hview)
    have hrun := Project.run_of_after saved_prepare hr
    have reported : (saved.run Project.twinsConfig true).result = .ok r.report := by
      rw [hrun]
      rfl
    obtain ⟨f, hf⟩ : ∃ f, f ∈ r.report.files ∧ f.featureFile = "features/a.feature" := by
      refine List.mem_map.1 ?_
      rw [hfiles]
      exact List.mem_singleton_self _
    have hbehind : ((saved.withTree r.tree).loadCatalog Project.twinsConfig).result = .ok [] := by
      cases hc : ((saved.withTree r.tree).loadCatalog Project.twinsConfig).result with
      | error e =>
        rw [hc] at hsteps
        cases hsteps
      | ok catalog =>
        rw [hc] at hsteps
        exact congrArg Except.ok (Option.some.inj hsteps)
    have steps : ∀ q, q = saved ∨ q = saved.withTree (saved.run Project.twinsConfig true).tree →
        (q.loadCatalog Project.twinsConfig).result =
          (saved.loadCatalog Project.twinsConfig).result := by
      rintro q (rfl | rfl)
      · rfl
      · rw [hrun]
        exact hbehind
    refine ⟨r.report, f, reported, hf.1, hf.2, fun q time => ?_⟩
    rw [← hf.2]
    exact plan_prints_snapshot ⟨rfl, rfl⟩ saved_loadConfig rfl reported hf.1
      (by rw [hf.2]; decide) time (steps q time)

end Acceptance.Command
