import Acceptance.Proofs.Project.Stops

/-!
# How a run starts

A run starts with an empty list of claims on the tree of the project, once a template, a catalog
and the settings are there; its features are found in order and shown differently.

    p.prepare c write = .ok q → p.Prepares c write q                (prepares_of_prepare)
    p.features c = .ok paths → (paths.map (·.shown p.root)).Nodup   (features_shown_nodup)
    (p.run c write).result = .error e → (p.run c write).tree = p.tree   (tree_of_run_error)
-/

namespace Acceptance.Project

/-- What a prepared run of a project has. -/
structure Prepares (p : Project) (c : Config) (write : Bool) (q : Prepared) : Prop where
  template : ∃ used, p.findTemplate c = .ok used ∧ p.readText used = .ok q.job.template
  catalog : (p.loadCatalog c).result = .ok q.job.catalog
  outputDir : p.pathOf c.outputDir = .ok q.job.outputDir
  features : p.features c = .ok q.paths
  root : q.job.root = p.root
  snapshots : q.job.snapshots = c.snapshots.truthy
  write : q.job.write = write
  tree : q.start.tree = p.tree
  claims : q.start.claims = []
  files : q.start.report.files = []
  diagnostics : ∀ d ∈ q.start.report.diagnostics, d.severity = .warning ∧ d.sourceFile = none ∧
    d.code ≠ unimplementedCode

theorem extraTemplates_warn {ps : List Path} {d : Diagnostic} (h : d ∈ extraTemplates ps) :
    d.severity = .warning ∧ d.sourceFile = none ∧ d.code ≠ unimplementedCode := by
  unfold extraTemplates at h
  split at h
  · rw [List.mem_singleton.1 h]
    have hcode : extraTemplatesCode ≠ unimplementedCode := by decide
    exact ⟨rfl, rfl, hcode⟩
  · contradiction

theorem findTemplate_eq_ok_iff {p : Project} {c : Config} {used : Path} :
    p.findTemplate c = .ok used ↔ ∃ others, p.templates c = .ok (used :: others) := by
  unfold findTemplate
  split
  · next h => simp [h]
  · next h => simp [h]
  · next path others h => simp [h]

theorem prepares_of_prepare {p : Project} {c : Config} {write : Bool} {q : Prepared}
    (h : p.prepare c write = .ok q) : p.Prepares c write q := by
  unfold prepare at h
  simp only at h
  split at h
  · cases h
  · cases h
  · next used others ht =>
    split at h
    · cases h
    · next template hr =>
      split at h
      · cases h
      · cases h
      · cases h
      · next catalog outputDir paths hc ho hf =>
        obtain rfl := Except.ok.inj h
        exact
          { template := ⟨used, findTemplate_eq_ok_iff.2 ⟨others, ht⟩, hr⟩
            catalog := hc
            outputDir := ho
            features := hf
            root := rfl
            snapshots := rfl
            write := rfl
            tree := rfl
            claims := rfl
            files := rfl
            diagnostics := fun d hd => extraTemplates_warn hd }

theorem exists_prepare {p : Project} {c : Config} {used outputDir : Path} {template : String}
    {catalog : Catalog} {paths : List Path} (write : Bool) (found : p.findTemplate c = .ok used)
    (decoded : p.readText used = .ok template) (loaded : (p.loadCatalog c).result = .ok catalog)
    (directory : p.pathOf c.outputDir = .ok outputDir) (features : p.features c = .ok paths) :
    ∃ q, p.prepare c write = .ok q := by
  obtain ⟨others, ht⟩ := findTemplate_eq_ok_iff.1 found
  unfold prepare
  simp only [ht, decoded, loaded, directory, features]
  exact ⟨_, rfl⟩

theorem run_of_after {p : Project} {c : Config} {write : Bool} {q : Prepared} {r : Run}
    (h : p.prepare c write = .ok q) (hr : q.after q.paths = .ok r) : p.run c write = r.ended := by
  rw [run, h]
  simp only [hr]

/-- A prepared run comes to a report where its features do. -/
theorem report_iff_of_prepare {p : Project} {c : Config} {write : Bool} {q : Prepared}
    {report : Report} (h : p.prepare c write = .ok q) :
    (p.run c write).result = .ok report ↔ ∃ r, q.after q.paths = .ok r ∧ r.report = report := by
  rw [run, h]
  simp only
  cases hr : q.after q.paths with
  | error ended =>
    obtain ⟨e, he⟩ := Run.result_of_features_error hr
    simp [he]
  | ok r => simp [Run.ended]

/-- A run that ends before its first feature has changed nothing; it has a report, without
entries, only where there is no template. -/
theorem ended_of_prepare_error {p : Project} {c : Config} {write : Bool} {ended : RunResult}
    (h : p.prepare c write = .error ended) :
    ended.tree = p.tree ∧ ((∃ e, ended.result = .error e) ∨
      p.templates c = .ok [] ∧ ∃ report, ended.result = .ok report ∧ report.files = []) := by
  unfold prepare at h
  simp only at h
  split at h
  · obtain rfl := Except.error.inj h
    exact ⟨rfl, .inl ⟨_, rfl⟩⟩
  · next hnone =>
    obtain rfl := Except.error.inj h
    exact ⟨rfl, .inr ⟨hnone, _, rfl, rfl⟩⟩
  · split at h
    · obtain rfl := Except.error.inj h
      exact ⟨rfl, .inl ⟨_, rfl⟩⟩
    · split at h
      · obtain rfl := Except.error.inj h
        exact ⟨rfl, .inl ⟨_, rfl⟩⟩
      · obtain rfl := Except.error.inj h
        exact ⟨rfl, .inl ⟨_, rfl⟩⟩
      · obtain rfl := Except.error.inj h
        exact ⟨rfl, .inl ⟨_, rfl⟩⟩
      · cases h

/-- A run that ends early has no entries. -/
theorem files_of_prepare_error {p : Project} {c : Config} {write : Bool} {ended : RunResult}
    {report : Report} (h : p.prepare c write = .error ended) (hr : ended.result = .ok report) :
    report.files = [] := by
  rcases (ended_of_prepare_error h).2 with ⟨e, he⟩ | ⟨-, report', he, hfiles⟩
  · rw [he] at hr
    cases hr
  · obtain rfl := Except.ok.inj (he.symm.trans hr)
    exact hfiles

/-- A run that ends early although there is a template has no report. -/
theorem no_report_of_prepare_error {p : Project} {c : Config} {write : Bool} {ended : RunResult}
    {used : Path} (found : p.findTemplate c = .ok used) (h : p.prepare c write = .error ended)
    (report : Report) : ended.result ≠ .ok report := by
  intro hr
  rcases (ended_of_prepare_error h).2 with ⟨e, he⟩ | ⟨hnone, -⟩
  · rw [he] at hr
    cases hr
  · obtain ⟨others, hsome⟩ := findTemplate_eq_ok_iff.1 found
    rw [hnone] at hsome
    cases hsome

/-! ## The features of a project -/

section
variable {p : Project} {c : Config} {paths : List Path}

theorem features_eq_find (h : p.features c = .ok paths) :
    ∃ setting, paths = p.tree.find (p.root.«to» (.ofText setting)) (hasEnding featureEnding) := by
  unfold features pathOf Config.path at h
  cases hv : c.featuresDir with
  | str setting =>
    rw [hv] at h
    simp only [Except.map] at h
    split at h
    · cases h
    · exact ⟨setting, (Except.ok.inj h).symm⟩
  | _ =>
    rw [hv] at h
    cases h

theorem features_sorted (h : p.features c = .ok paths) :
    paths.Pairwise fun a b => Path.inOrder a.parts b.parts = true := by
  obtain ⟨setting, rfl⟩ := features_eq_find h
  exact FileTree.find_sorted _ _ _

theorem features_shown_nodup (h : p.features c = .ok paths) :
    (paths.map fun path => path.shown p.root).Nodup := by
  obtain ⟨setting, rfl⟩ := features_eq_find h
  exact FileTree.find_shown_nodup _ _ _ _

theorem features_lead (h : p.features c = .ok paths) :
    ∀ path ∈ paths, Run.LeadsToFeature p.tree path := by
  intro path hp
  obtain ⟨setting, rfl⟩ := features_eq_find h
  obtain ⟨names, hfinds⟩ := FileTree.finds_of_mem hp
  obtain ⟨n, hlook⟩ := hfinds.there
  refine ⟨_, n, hlook, (p.root.«to» (.ofText setting)).place p.tree.here ++ names.dropLast,
    names.getLast hfinds.ne, ?_, hfinds.accepted⟩
  rw [List.append_assoc, List.dropLast_concat_getLast hfinds.ne]

end

section
variable {p : Project} {c : Config} {write : Bool} {q : Prepared} (h : p.Prepares c write q)

include h

theorem Prepares.leads : ∀ path ∈ q.paths, Run.LeadsToFeature q.start.tree path := by
  rw [h.tree]
  exact features_lead h.features

end

/-! ## Runs without a report -/

/-- **A run that comes to no report leaves the tree as it was.** -/
theorem tree_of_run_error {p : Project} {c : Config} {write : Bool} {e : ProjectError}
    (h : (p.run c write).result = .error e) : (p.run c write).tree = p.tree := by
  cases hq : p.prepare c write with
  | error ended =>
    rw [run, hq]
    exact (ended_of_prepare_error hq).1
  | ok q =>
    have hprepares := prepares_of_prepare hq
    cases hr : q.after q.paths with
    | error ended =>
      rw [run, hq]
      simp only [hr]
      rw [Run.tree_of_features_error hr hprepares.claims hprepares.leads, hprepares.tree]
    | ok r =>
      rw [run_of_after hq hr] at h
      cases h

/-! ## A small project -/

/-- A project with two features that give one output path. -/
def twins : Project :=
  { tree := ((((((FileTree.empty ["home"]).putDirectory ["home"]).putFile ["home", "t.j2"]
      "# tests".toUTF8).putDirectory ["home", "features"]).putFile
      ["home", "features", "a.feature"] "Feature: One\n".toUTF8).putDirectory
      ["home", "features", "b"]).putFile ["home", "features", "b", "A.feature"]
      "Feature: Other\n".toUTF8
    root := ⟨1, ["home"]⟩ }

def twinsConfig : Config :=
  { Config.standard with template := .str "t.j2", snapshots := .bool true }

def twinPaths : List Path :=
  [⟨1, ["home", "features", "a.feature"]⟩, ⟨1, ["home", "features", "b", "A.feature"]⟩]

theorem twins_find :
    twins.tree.find ⟨1, ["home", "features"]⟩ (hasEnding featureEnding) = twinPaths :=
  FileTree.find_of_sorted (by decide +kernel) (by decide +kernel)

theorem twins_features : twins.features twinsConfig = .ok twinPaths := by
  rw [← twins_find]
  rfl

def twinsJob : Job :=
  { root := ⟨1, ["home"]⟩, catalog := [], template := "# tests"
    outputDir := ⟨1, ["home", "tests", "generated"]⟩, snapshots := true, write := true }

def twinsStart : Run := ⟨twins.tree, [], .empty, (twins.loadCatalog twinsConfig).log⟩

theorem twins_prepare :
    twins.prepare twinsConfig true = .ok ⟨twinsJob, twinsStart, twinPaths⟩ := by
  rw [← twins_find]
  rfl

end Acceptance.Project
