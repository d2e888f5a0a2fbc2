import Acceptance.Proofs.Project.Start

/-!
# A run accounts for every feature

Every feature of a run has one entry of the report or one error, and no more than that; whether
its steps lack definitions is told in one warning, also where its outputs are not written.

    the run's report accounts for the project's features       (run_accounts_for_features)
-/

namespace Acceptance

/-! ## The part of a report that belongs to a source -/

namespace Report

/-- The entries of a feature. -/
def filesFrom (r : Report) (source : String) : List GeneratedFile :=
  r.files.filter fun f => f.featureFile == source

/-- The errors that name a feature. -/
def errorsFrom (r : Report) (source : String) : List Diagnostic :=
  r.errors.filter fun d => d.sourceFile == some source

/-- The warnings about missing steps that name a feature. -/
def stubWarningsFrom (r : Report) (source : String) : List Diagnostic :=
  (r.diagnostics.filter fun d => d.code == unimplementedCode).filter fun d =>
    d.sourceFile == some source

end Report

/-- A report that accounts for features, shown from `root`, that give test modules. -/
structure Accounts (root : Path) (gives : Path → Option GeneratedFile) (paths : List Path)
    (report : Report) : Prop where
  /-- One entry and no error, or no entry and one error. -/
  once : ∀ path ∈ paths,
    ((report.filesFrom (path.shown root)).length = 1 ∧
      report.errorsFrom (path.shown root) = []) ∨
    (report.filesFrom (path.shown root) = [] ∧
      (report.errorsFrom (path.shown root)).length = 1)
  /-- Every entry is what a feature gives. -/
  given : ∀ f ∈ report.files, ∃ path ∈ paths, f.featureFile = path.shown root ∧
    gives path = some f
  order : (report.files.map (·.featureFile)).Sublist (paths.map fun path => path.shown root)
  /-- One warning where what is given has stubs, with their number. -/
  warned : ∀ path ∈ paths, report.stubWarningsFrom (path.shown root) =
    match gives path with
    | some f => stubWarning path.stem (path.shown root) f.plan.stubs.length
    | none => []
  success : report.isSuccess = true ↔
    ∀ path ∈ paths, ∃ f ∈ report.files, f.featureFile = path.shown root

/-! ## Shares of one source -/

/-- What comes from one source, of items that tell their source. -/
theorem filter_flatMap_of_source {α β : Type} {source : α → String} {items : α → List β}
    {key : β → Option String} {as : List α}
    (own : ∀ a ∈ as, ∀ b ∈ items a, key b = some (source a)) (nodup : (as.map source).Nodup)
    {a : α} (h : a ∈ as) :
    (as.flatMap items).filter (fun b => key b == some (source a)) = items a := by
  induction as with
  | nil => contradiction
  | cons first rest ih =>
    obtain ⟨hfirst, hrest⟩ := List.nodup_cons.1 nodup
    have hown : ∀ a' ∈ rest, ∀ b ∈ items a', key b = some (source a') :=
      fun a' ha' => own a' (List.mem_cons_of_mem _ ha')
    rw [List.flatMap_cons, List.filter_append]
    -- items of the source are all in the first part or all in the rest
    rcases List.mem_cons.1 h with rfl | h
    · have hall : (items a).filter (fun b => key b == some (source a)) = items a := by
        refine List.filter_eq_self.2 ?_
        intro b hb
        simp [own a (by simp) b hb]
      have hnone : (rest.flatMap items).filter (fun b => key b == some (source a)) = [] := by
        refine List.filter_eq_nil_iff.2 ?_
        intro b hb
        obtain ⟨a', ha', hb⟩ := List.mem_flatMap.1 hb
        have hne : source a' ≠ source a := fun he => hfirst (he ▸ List.mem_map_of_mem ha')
        simp [hown a' ha' b hb, hne]
      rw [hall, hnone, List.append_nil]
    · have hnone : (items first).filter (fun b => key b == some (source a)) = [] := by
        refine List.filter_eq_nil_iff.2 ?_
        intro b hb
        have hne : source first ≠ source a := fun he => hfirst (he ▸ List.mem_map_of_mem h)
        simp [own first (by simp) b hb, hne]
      rw [hnone, List.nil_append, ih hown hrest h]

namespace Run

section
variable {job : Job} {t : FileTree} {s : Share}

/-- The source of a share. -/
def Share.source (root : Path) (s : Share) : String := s.path.shown root

theorem stubWarning_spec {fileName source : String} {count : Nat} {d : Diagnostic}
    (h : d ∈ stubWarning fileName source count) :
    d.code = unimplementedCode ∧ d.severity = .warning ∧ d.sourceFile = some source := by
  unfold stubWarning at h
  split at h
  · contradiction
  · rw [List.mem_singleton.1 h]
    exact ⟨rfl, rfl, rfl⟩

theorem Share.Due.files_source (h : s.Due job t) :
    ∀ f ∈ s.files, some f.featureFile = some (s.source job.root) := by
  intro f hf
  cases h with
  | nothing => contradiction
  | withheld => contradiction
  | entered gives =>
    rw [List.mem_singleton.1 hf, featureFile_of_rendered gives]
    rfl

theorem Share.Due.diagnostics_source (h : s.Due job t) :
    ∀ d ∈ s.diagnostics, d.sourceFile = some (s.source job.root) := by
  intro d hd
  cases h with
  | nothing absent error =>
    rw [List.mem_singleton.1 hd]
    exact error.source
  | withheld gives error =>
    rcases List.mem_append.1 hd with hd | hd
    · rw [(stubWarning_spec hd).2.2, featureFile_of_rendered gives]
      rfl
    · rw [List.mem_singleton.1 hd]
      exact error.source
  | entered gives =>
    rw [(stubWarning_spec hd).2.2, featureFile_of_rendered gives]
    rfl

theorem errors_stubWarning (fileName source : String) (count : Nat) :
    (stubWarning fileName source count).filter (·.severity == .error) = [] := by
  refine List.filter_eq_nil_iff.2 ?_
  intro d hd
  rw [(stubWarning_spec hd).2.1]
  decide

theorem stubWarning_filter (fileName source : String) (count : Nat) :
    (stubWarning fileName source count).filter (·.code == unimplementedCode) =
      stubWarning fileName source count := by
  refine List.filter_eq_self.2 ?_
  intro d hd
  rw [(stubWarning_spec hd).1]
  exact beq_self_eq_true _

/-- A share has an entry and no error, or an error and no entry. -/
theorem Share.Due.once (h : s.Due job t) :
    (s.files.length = 1 ∧ s.diagnostics.filter (·.severity == .error) = []) ∨
      (s.files = [] ∧ (s.diagnostics.filter (·.severity == .error)).length = 1) := by
  cases h with
  | nothing absent error => exact .inr ⟨rfl, by simp [error.error]⟩
  | withheld gives error =>
    refine .inr ⟨rfl, ?_⟩
    rw [List.filter_append, stubWarningOf, errors_stubWarning]
    simp [error.error]
  | entered gives => exact .inl ⟨rfl, errors_stubWarning _ _ _⟩

theorem Share.Due.warned (h : s.Due job t) :
    s.diagnostics.filter (·.code == unimplementedCode) =
      match rendered job.catalog job.template job.root t s.path with
      | some f => stubWarning s.path.stem (s.source job.root) f.plan.stubs.length
      | none => [] := by
  cases h with
  | nothing absent error =>
    simp only [absent]
    simp [error.code]
  | withheld gives error =>
    simp only [gives]
    rw [List.filter_append, stubWarningOf, stubWarning_filter, featureFile_of_rendered gives]
    simp [error.code, Share.source]
  | entered gives =>
    simp only [gives]
    rw [stubWarningOf, stubWarning_filter, featureFile_of_rendered gives]
    rfl

theorem Share.Due.given (h : s.Due job t) :
    ∀ f ∈ s.files, rendered job.catalog job.template job.root t s.path = some f := by
  intro f hf
  cases h with
  | nothing => contradiction
  | withheld => contradiction
  | entered gives => rw [List.mem_singleton.1 hf, gives]

theorem Share.Due.files_sublist (h : s.Due job t) :
    (s.files.map (·.featureFile)).Sublist [s.source job.root] := by
  cases h with
  | nothing => exact List.nil_sublist _
  | withheld => exact List.nil_sublist _
  | entered gives =>
    rw [List.map_singleton, featureFile_of_rendered gives]
    exact List.Sublist.refl _

end

/-! ## The shares together -/

section
variable {job : Job} {t : FileTree} {shares : List Share} {report : Report}
  {opening : List Diagnostic} (due : ∀ s ∈ shares, s.Due job t)
  (nodup : (shares.map (·.source job.root)).Nodup)
  (files : report.files = shares.flatMap (·.files))
  (diagnostics : report.diagnostics = opening ++ shares.flatMap (·.diagnostics))
  (general : ∀ d ∈ opening, d.severity = .warning ∧ d.sourceFile = none ∧
    d.code ≠ unimplementedCode)

include due nodup files in
theorem filesFrom_of_shares {s : Share} (hs : s ∈ shares) :
    report.filesFrom (s.source job.root) = s.files := by
  have hfrom := filter_flatMap_of_source (fun s hs => (due s hs).files_source) nodup hs
  simp only [Option.some_beq_some] at hfrom
  rw [Report.filesFrom, files, hfrom]

include due nodup diagnostics in
/-- The diagnostics of a source, of those that are no general ones. -/
theorem diagnosticsFrom_of_shares {keep : Diagnostic → Bool}
    (hkeep : ∀ d ∈ opening, keep d = false) {s : Share} (hs : s ∈ shares) :
    ((report.diagnostics.filter keep).filter fun d => d.sourceFile == some (s.source job.root)) =
      s.diagnostics.filter keep := by
  have hopening : opening.filter keep = [] := by
    refine List.filter_eq_nil_iff.2 ?_
    intro d hd
    rw [hkeep d hd]
    decide
  have hcomm : ∀ ds : List Diagnostic, (ds.filter keep).filter
      (fun d => d.sourceFile == some (s.source job.root)) =
      (ds.filter fun d => d.sourceFile == some (s.source job.root)).filter keep := by
    intro ds
    rw [List.filter_filter, List.filter_filter]
    exact List.filter_congr fun d _ => Bool.and_comm _ _
  rw [diagnostics, List.filter_append, hopening, List.nil_append, hcomm,
    filter_flatMap_of_source (fun s hs => (due s hs).diagnostics_source) nodup hs]

include due files in
theorem files_sublist_of_shares :
    (report.files.map (·.featureFile)).Sublist (shares.map (·.source job.root)) := by
  rw [files]
  clear files
  induction shares with
  | nil => exact List.Sublist.refl _
  | cons s rest ih =>
    rw [List.flatMap_cons, List.map_append, List.map_cons]
    exact (due s (by simp)).files_sublist.append
      (ih fun s' hs' => due s' (List.mem_cons_of_mem _ hs'))

include due nodup files diagnostics general in
/-- No error is left exactly where every share has an entry. -/
theorem isSuccess_iff_of_shares :
    report.isSuccess = true ↔ ∀ s ∈ shares, ∃ f ∈ report.files,
      f.featureFile = s.source job.root := by
  have hopening : opening.filter (·.severity == .error) = [] := by
    refine List.filter_eq_nil_iff.2 ?_
    intro d hd
    rw [(general d hd).1]
    decide
  have herrors : report.errors =
      (shares.flatMap (·.diagnostics)).filter (·.severity == .error) := by
    rw [Report.errors, diagnostics, List.filter_append, hopening, List.nil_append]
  rw [Report.isSuccess, herrors, List.isEmpty_iff]
  constructor
  · intro hnone s hs
    rcases (due s hs).once with ⟨hone, -⟩ | ⟨-, hone⟩
    · obtain ⟨f, hf⟩ := List.length_eq_one_iff.1 hone
      have hmem : f ∈ s.files := by simp [hf]
      exact ⟨f, files ▸ List.mem_flatMap.2 ⟨s, hs, hmem⟩,
        Option.some.inj ((due s hs).files_source f hmem)⟩
    · obtain ⟨d, hd⟩ := List.length_eq_one_iff.1 hone
      have hmem : d ∈ s.diagnostics.filter (·.severity == .error) := by simp [hd]
      obtain ⟨hmem, herror⟩ := List.mem_filter.1 hmem
      have := List.filter_eq_nil_iff.1 hnone d (List.mem_flatMap.2 ⟨s, hs, hmem⟩)
      exact absurd herror this
  · intro hall
    refine List.filter_eq_nil_iff.2 ?_
    intro d hd herror
    obtain ⟨s, hs, hd⟩ := List.mem_flatMap.1 hd
    obtain ⟨f, hf, hsource⟩ := hall s hs
    have hmem : f ∈ s.files := by
      rw [← filesFrom_of_shares due nodup files hs]
      exact List.mem_filter.2 ⟨hf, by simp [hsource]⟩
    rcases (due s hs).once with ⟨-, hnone⟩ | ⟨hnone, -⟩
    · exact List.filter_eq_nil_iff.1 hnone d hd herror
    · rw [hnone] at hmem
      contradiction

include due nodup files diagnostics general in
theorem accounts_of_shares :
    Accounts job.root (rendered job.catalog job.template job.root t) (shares.map (·.path))
      report := by
  have hfiles : ∀ s ∈ shares, report.filesFrom (s.source job.root) = s.files :=
    fun s hs => filesFrom_of_shares due nodup files hs
  have herrors : ∀ s ∈ shares, report.errorsFrom (s.source job.root) =
      s.diagnostics.filter (·.severity == .error) := by
    intro s hs
    refine diagnosticsFrom_of_shares due nodup diagnostics ?_ hs
    intro d hd
    rw [(general d hd).1]
    decide
  have hwarnings : ∀ s ∈ shares, report.stubWarningsFrom (s.source job.root) =
      s.diagnostics.filter (·.code == unimplementedCode) := by
    intro s hs
    refine diagnosticsFrom_of_shares due nodup diagnostics ?_ hs
    intro d hd
    simpa using (general d hd).2.2
  constructor
  case once =>
    intro path hp
    obtain ⟨s, hs, rfl⟩ := List.mem_map.1 hp
    have honce := (due s hs).once
    rw [← hfiles s hs, ← herrors s hs] at honce
    exact honce
  case given =>
    intro f hf
    rw [files] at hf
    obtain ⟨s, hs, hf⟩ := List.mem_flatMap.1 hf
    exact ⟨s.path, List.mem_map_of_mem hs, Option.some.inj ((due s hs).files_source f hf),
      (due s hs).given f hf⟩
  case order =>
    rw [List.map_map]
    exact files_sublist_of_shares due files
  case warned =>
    intro path hp
    obtain ⟨s, hs, rfl⟩ := List.mem_map.1 hp
    exact (hwarnings s hs).trans (due s hs).warned
  case success =>
    rw [List.forall_mem_map]
    exact isSuccess_iff_of_shares due nodup files diagnostics general

end

end Run

/-! ## Top theorem -/

namespace Project

/-- Whether the output directory stops a run: a feature gives a test module to be written there,
and the path has a null character. -/
def StopsRun (write : Bool) (outputDir : Path) (gives : Path → Option GeneratedFile)
    (paths : List Path) : Prop :=
  write = true ∧ outputDir.hasNull = true ∧ ∃ path ∈ paths, (gives path).isSome = true

/-- **A run accounts for every feature, or comes to no report.**  Where a template is found and
decodes and the catalog loads, a run comes to a report unless its settings are no paths that can be
asked for, or the output directory stops it.  In every report the features, which come in order and
are told apart by what is shown of them, have one entry or one error each. -/
theorem run_accounts_for_features {p : Project} {c : Config} {used : Path} {template : String}
    {catalog : Catalog} (write : Bool) (found : p.findTemplate c = .ok used)
    (decoded : p.readText used = .ok template)
    (loaded : (p.loadCatalog c).result = .ok catalog) :
    ((∃ report, (p.run c write).result = .ok report) ↔
      ∃ outputDir paths, p.pathOf c.outputDir = .ok outputDir ∧ p.features c = .ok paths ∧
        ¬ StopsRun write outputDir (rendered catalog template p.root p.tree) paths) ∧
    ∀ report, (p.run c write).result = .ok report →
      ∃ paths, p.features c = .ok paths ∧
        (paths.Pairwise fun a b => Path.inOrder a.parts b.parts = true) ∧
        (paths.map fun path => path.shown p.root).Nodup ∧
        Accounts p.root (rendered catalog template p.root p.tree) paths report := by
  cases hq : p.prepare c write with
  | error ended =>
    have hno : ∀ report, (p.run c write).result ≠ .ok report := by
      intro report hr
      rw [run, hq] at hr
      exact no_report_of_prepare_error found hq report hr
    refine ⟨⟨?_, ?_⟩, fun report hr => absurd hr (hno report)⟩
    · rintro ⟨report, hr⟩
      exact absurd hr (hno report)
    · rintro ⟨outputDir, paths, directory, features, -⟩
      obtain ⟨q, hq'⟩ := exists_prepare write found decoded loaded directory features
      rw [hq] at hq'
      cases hq'
  | ok q =>
    have hprepares := prepares_of_prepare hq
    obtain ⟨used', hused, htemplate⟩ := hprepares.template
    obtain rfl := Except.ok.inj (found.symm.trans hused)
    obtain rfl := Except.ok.inj (decoded.symm.trans htemplate)
    obtain rfl := Except.ok.inj (loaded.symm.trans hprepares.catalog)
    have hlead : ∀ path ∈ q.paths, Run.LeadsToFeature q.start.tree path := by
      rw [hprepares.tree]
      exact features_lead hprepares.features
    constructor
    · have hend : (∃ r, q.after q.paths = .ok r) ↔ _ :=
        Run.features_eq_ok_iff hprepares.claims hlead
      rw [hprepares.root, hprepares.tree, hprepares.write] at hend
      simp only [report_iff_of_prepare hq]
      constructor
      · rintro ⟨report, r, hr, -⟩
        exact ⟨q.job.outputDir, q.paths, hprepares.outputDir, hprepares.features,
          hend.1 ⟨r, hr⟩⟩
      · rintro ⟨outputDir, paths, directory, features, hopen⟩
        obtain rfl := Except.ok.inj (directory.symm.trans hprepares.outputDir)
        obtain rfl := Except.ok.inj (features.symm.trans hprepares.features)
        obtain ⟨r, hr⟩ := hend.2 hopen
        exact ⟨r.report, r, hr, rfl⟩
    · intro report hreport
      obtain ⟨r, hr, rfl⟩ := (report_iff_of_prepare hq).1 hreport
      obtain ⟨shares, hpaths, hdue, hfiles, hdiagnostics⟩ := Run.features_shares hr hlead
      have hnodup := features_shown_nodup hprepares.features
      refine ⟨q.paths, hprepares.features, features_sorted hprepares.features, hnodup, ?_⟩
      rw [hprepares.files, List.nil_append] at hfiles
      rw [← hpaths, List.map_map, ← hprepares.root] at hnodup
      have haccounts :=
        Run.accounts_of_shares hdue hnodup hfiles hdiagnostics hprepares.diagnostics
      rw [hpaths, hprepares.tree, hprepares.root] at haccounts
      exact haccounts

/-- The report on two features of which one is refused accounts for both. -/
theorem twins_accounted : ∃ report, (twins.run twinsConfig true).result = .ok report ∧
    Accounts twins.root (rendered [] "# tests" twins.root twins.tree) twinPaths report := by
  have found : twins.findTemplate twinsConfig = .ok ⟨1, ["home", "t.j2"]⟩ := rfl
  have decoded : twins.readText ⟨1, ["home", "t.j2"]⟩ = .ok "# tests" := rfl
  have loaded : (twins.loadCatalog twinsConfig).result = .ok [] := rfl
  obtain ⟨hreport, haccounts⟩ := run_accounts_for_features true found decoded loaded
  have hopen : ¬ StopsRun true ⟨1, ["home", "tests", "generated"]⟩
      (rendered [] "# tests" twins.root twins.tree) twinPaths := by
    rintro ⟨-, hnull, -⟩
    exact absurd hnull (by decide)
  obtain ⟨report, hr⟩ := hreport.2 ⟨_, twinPaths, rfl, twins_features, hopen⟩
  obtain ⟨paths, features, -, -, h⟩ := haccounts report hr
  obtain rfl := Except.ok.inj (features.symm.trans twins_features)
  exact ⟨report, hr, h⟩

/-- The project of the two features with an output directory that has a null character. -/
def barredConfig : Config := { twinsConfig with outputDir := .str "a\x00b" }

/-- Such a project has a template, a catalog and features, and its run comes to no report. -/
theorem barred_run_without_report :
    twins.findTemplate barredConfig = .ok ⟨1, ["home", "t.j2"]⟩ ∧
      twins.readText ⟨1, ["home", "t.j2"]⟩ = .ok "# tests" ∧
      (twins.loadCatalog barredConfig).result = .ok [] ∧
      twins.features barredConfig = .ok twinPaths ∧
      ∀ report, (twins.run barredConfig true).result ≠ .ok report := by
  refine ⟨rfl, rfl, rfl, twins_features, ?_⟩
  have hq : twins.prepare barredConfig true =
      .ok ⟨{ twinsJob with outputDir := ⟨1, ["home", "a\x00b"]⟩ }, twinsStart, twinPaths⟩ := by
    rw [← twins_find]
    rfl
  have hstop : (Run.features { twinsJob with outputDir := ⟨1, ["home", "a\x00b"]⟩ } twinsStart
      twinPaths).isOk = false := by decide +kernel
  intro report hr
  obtain ⟨r, hr, -⟩ := (report_iff_of_prepare hq).1 hr
  rw [Prepared.after] at hr
  rw [hr] at hstop
  cases hstop

end Project

end Acceptance
