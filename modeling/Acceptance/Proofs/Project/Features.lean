import Acceptance.Proofs.Project.Writing
import Mathlib.Data.List.Induction

/-!
# What becomes of a feature

A feature that a run takes cannot be read, gives no test module, gives one whose path is taken,
gives one that cannot be written, or gives an entry of the report.  Since outputs are no feature
files, what it gives depends on the tree before the run alone.

    feature job r path = .ok r' → Becomes job r path r'             (feature_becomes)
    what holds at the start and is kept by Becomes holds at the end (features_induction)
    the report behind some features is made of their shares         (features_shares)
-/

namespace Acceptance

open Acceptance.Text

/-- A report with more diagnostics. -/
def Report.noting (r : Report) (ds : List Diagnostic) : Report :=
  { r with diagnostics := r.diagnostics ++ ds }

/-- A report with one more entry. -/
def Report.filing (r : Report) (f : GeneratedFile) : Report := { r with files := r.files ++ [f] }

/-- The test module that a feature file of a tree gives, whether or not it is written. -/
def rendered (catalog : Catalog) (template : String) (root : Path) (t : FileTree) (path : Path) :
    Option GeneratedFile :=
  match t.readText path with
  | .error _ => none
  | .ok content =>
    (generateFeature catalog template content path.stem (path.shown root)).file

namespace Run

/-! ## One feature -/

/-- The warning about the steps of a test module that have no definition. -/
def stubWarningOf (path : Path) (f : GeneratedFile) : List Diagnostic :=
  stubWarning path.stem f.featureFile f.plan.stubs.length

/-- What a run may become behind one more feature. -/
inductive Becomes (job : Job) (r : Run) (path : Path) : Run → Prop
  | unread {e : TextError} {log : Log}
      (absent : rendered job.catalog job.template job.root r.tree path = none) :
      Becomes job r path
        { r with report := r.report.noting [readError path.name (path.shown job.root) e], log }
  | unplanned {e : GenerationError} {log : Log}
      (absent : rendered job.catalog job.template job.root r.tree path = none) :
      Becomes job r path
        { r with
          report := r.report.noting
            [⟨e.code, .error, e.message path.stem, some (path.shown job.root)⟩], log }
  | refused {f : GeneratedFile} {log : Log}
      (gives : rendered job.catalog job.template job.root r.tree path = some f)
      (other : r.owner f ≠ f.featureFile) :
      Becomes job r path
        { r with
          claims := (r.claimed f).claims
          report := (r.report.noting (stubWarningOf path f)).noting [claimError f (r.owner f)]
          log }
  | unwritten {f : GeneratedFile} {t : FileTree} {e : FileError} {log : Log}
      (gives : rendered job.catalog job.template job.root r.tree path = some f)
      (own : r.owner f = f.featureFile) (write : job.write = true)
      (fault : writeOutputs job r.tree f = (t, some e)) (told : e.fault ≠ .nullByte) :
      Becomes job r path
        { tree := t, claims := (r.claimed f).claims
          report := (r.report.noting (stubWarningOf path f)).noting [writeError f e], log }
  | made {f : GeneratedFile} {t : FileTree} {log : Log}
      (gives : rendered job.catalog job.template job.root r.tree path = some f)
      (own : r.owner f = f.featureFile)
      (written : if job.write = true then writeOutputs job r.tree f = (t, none)
        else t = r.tree) :
      Becomes job r path
        { tree := t, claims := (r.claimed f).claims
          report := (r.report.noting (stubWarningOf path f)).filing f, log }

section
variable {c : Catalog} {template content fileName source : String} {f : GeneratedFile}
  (h : (generateFeature c template content fileName source).file = some f)

include h

/-- A test module has its plan and its code, and goes to the path that the plan gives. -/
theorem generate_of_generateFeature :
    generate c template content fileName = .ok (f.plan, f.code) ∧
      f = ⟨source, Plan.outputPath f.plan, f.code, f.plan⟩ := by
  unfold generateFeature at h
  split at h
  · cases h
  · next p code hg =>
    obtain rfl := Option.some.inj h
    exact ⟨hg, rfl⟩

/-- The document that a test module is made of. -/
theorem document_of_generateFeature :
    ∃ d, Gherkin.Document.read content = .ok d ∧ Plan.convert c fileName d = .ok f.plan := by
  obtain ⟨hg, -⟩ := generate_of_generateFeature h
  unfold generate at hg
  split at hg
  · cases hg
  · next d hd =>
    split at hg
    · cases hg
    · next p hp =>
      split at hg
      · cases hg
      · rw [← (Prod.mk.inj (Except.ok.inj hg)).1]
        exact ⟨d, hd, hp⟩

theorem featureFile_of_generateFeature : f.featureFile = source := by
  obtain ⟨-, hf⟩ := generate_of_generateFeature h
  rw [hf]

theorem placed_of_generateFeature : f.Placed := by
  obtain ⟨-, hf⟩ := generate_of_generateFeature h
  obtain ⟨d, -, hplan⟩ := document_of_generateFeature h
  exact ⟨congrArg GeneratedFile.outputPath hf, Plan.proper_outputParts hplan⟩

end

theorem generateFeature_cases (c : Catalog) (template content fileName source : String) :
    (∃ e : GenerationError, generateFeature c template content fileName source =
      ⟨none, [⟨e.code, .error, e.message fileName, some source⟩]⟩) ∨
    ∃ f, generateFeature c template content fileName source =
      ⟨some f, stubWarning fileName f.featureFile f.plan.stubs.length⟩ := by
  unfold generateFeature
  split
  · next e _ => exact .inl ⟨e, rfl⟩
  · exact .inr ⟨_, rfl⟩

section
variable {job : Job} {r r' : Run} {ended : RunResult} {path : Path}

theorem faulted_eq_ok_iff {e : FileError} {d : Diagnostic} :
    r.faulted e d = .ok r' ↔ e.fault ≠ .nullByte ∧ r' = r.diagnosed [d] := by
  unfold faulted
  split
  · next h => simp [h]
  · next h => simp [h, eq_comm]

theorem faulted_eq_error_iff {e : FileError} {d : Diagnostic} :
    r.faulted e d = .error ended ↔ e.fault = .nullByte ∧ ended = r.stopped (.file e) := by
  unfold faulted
  split
  · next h => simp [h, eq_comm]
  · next h => simp [h]

theorem feature_becomes (h : feature job r path = .ok r') : Becomes job r path r' := by
  unfold feature at h
  simp only at h
  split at h
  · next e he =>
    have habsent : rendered job.catalog job.template job.root r.tree path = none := by
      rw [rendered, he]
    obtain ⟨-, rfl⟩ := faulted_eq_ok_iff.1 h
    exact .unread habsent
  · next e he =>
    have habsent : rendered job.catalog job.template job.root r.tree path = none := by
      rw [rendered, he]
    obtain rfl := Except.ok.inj h
    exact .unread habsent
  · next content he =>
    have hgives : rendered job.catalog job.template job.root r.tree path =
        (generateFeature job.catalog job.template content path.stem (path.shown job.root)).file := by
      rw [rendered, he]
    rcases generateFeature_cases job.catalog job.template content path.stem
      (path.shown job.root) with ⟨e, hg⟩ | ⟨f, hg⟩
    · rw [hg] at hgives
      simp only [hg] at h
      obtain rfl := Except.ok.inj h
      exact .unplanned hgives
    · have hsource : f.featureFile = path.shown job.root :=
        featureFile_of_generateFeature (congrArg Generated.file hg)
      rw [hg] at hgives
      simp only [hg] at h
      rw [← hsource] at h
      split at h
      · next hown =>
        unfold output at h
        split at h
        · next hwrite =>
          split at h
          · next t e hw =>
            obtain ⟨htold, rfl⟩ := faulted_eq_ok_iff.1 h
            exact .unwritten hgives hown hwrite hw htold
          · next t hw =>
            obtain rfl := Except.ok.inj h
            exact .made hgives hown (by rw [if_pos hwrite]; exact hw)
        · next hwrite =>
          obtain rfl := Except.ok.inj h
          exact .made hgives hown (by rw [if_neg hwrite]; rfl)
      · next hother =>
        obtain rfl := Except.ok.inj h
        exact .refused hgives hother

end

/-- A feature whose test module goes to a path that no other one has claimed. -/
theorem feature_of_generated {job : Job} {r : Run} {path : Path} {content : String}
    {f : GeneratedFile} {ds : List Diagnostic} (read : r.tree.readText path = .ok content)
    (gives : generateFeature job.catalog job.template content path.stem (path.shown job.root) =
      ⟨some f, ds⟩)
    (unclaimed : r.claims.lookup (fold f.outputPath) = none) :
    feature job r path =
      output job (((r.logged (generationLog job.catalog content)).diagnosed ds).claimed f) f := by
  have hsource : f.featureFile = path.shown job.root :=
    featureFile_of_generateFeature (congrArg Generated.file gives)
  have hown : ((r.logged (generationLog job.catalog content)).diagnosed ds).owner f =
      f.featureFile := by
    show (r.claims.lookup (fold f.outputPath)).getD f.featureFile = _
    rw [unclaimed, Option.getD_none]
  unfold feature
  simp only [read, gives, hown]
  rw [if_pos hsource]

/-! ## Claims -/

theorem lookup_claimed (r : Run) (f : GeneratedFile) (key : String) :
    (r.claimed f).claims.lookup key =
      if key = fold f.outputPath then some (r.owner f) else r.claims.lookup key := by
  by_cases hkey : key = fold f.outputPath
  · subst hkey
    rw [if_pos rfl, owner, claimed]
    cases hl : r.claims.lookup (fold f.outputPath) with
    | none => simp
    | some first => simp [hl]
  · rw [if_neg hkey, claimed]
    split
    · rfl
    · rw [List.lookup_cons, beq_false_of_ne hkey]

/-- A claim stays with the feature that has it. -/
theorem lookup_claimed_of_owned {r : Run} {key owner : String}
    (h : r.claims.lookup key = some owner) (f : GeneratedFile) :
    (r.claimed f).claims.lookup key = some owner := by
  rw [lookup_claimed]
  split
  · next hkey => rw [Run.owner, ← hkey, h, Option.getD_some]
  · exact h

/-! ## What is rendered -/

section
variable {catalog : Catalog} {template : String} {root path : Path} {t t' : FileTree}
  {f : GeneratedFile}

theorem generateFeature_of_rendered (h : rendered catalog template root t path = some f) :
    ∃ content, t.readText path = .ok content ∧
      (generateFeature catalog template content path.stem (path.shown root)).file = some f := by
  unfold rendered at h
  split at h
  · cases h
  · next content hread => exact ⟨content, hread, h⟩

theorem generate_of_rendered (h : rendered catalog template root t path = some f) :
    ∃ content, t.readText path = .ok content ∧
      generate catalog template content path.stem = .ok (f.plan, f.code) ∧
      f = ⟨path.shown root, Plan.outputPath f.plan, f.code, f.plan⟩ := by
  obtain ⟨content, hread, hf⟩ := generateFeature_of_rendered h
  exact ⟨content, hread, generate_of_generateFeature hf⟩

/-- The document of a feature that gives a test module, and its plan. -/
theorem document_of_rendered (h : rendered catalog template root t path = some f) :
    ∃ content d, t.readText path = .ok content ∧ Gherkin.Document.read content = .ok d ∧
      Plan.convert catalog path.stem d = .ok f.plan := by
  obtain ⟨content, hread, hf⟩ := generateFeature_of_rendered h
  obtain ⟨d, hd, hplan⟩ := document_of_generateFeature hf
  exact ⟨content, d, hread, hd, hplan⟩

theorem convert_of_rendered (h : rendered catalog template root t path = some f) :
    ∃ d, Plan.convert catalog path.stem d = .ok f.plan := by
  obtain ⟨content, d, -, -, hd⟩ := document_of_rendered h
  exact ⟨d, hd⟩

theorem featureFile_of_rendered (h : rendered catalog template root t path = some f) :
    f.featureFile = path.shown root := by
  obtain ⟨-, -, -, hf⟩ := generate_of_rendered h
  rw [hf]

theorem fileName_of_rendered (h : rendered catalog template root t path = some f) :
    f.plan.fileName = path.stem := by
  obtain ⟨d, hd⟩ := convert_of_rendered h
  exact Plan.fileName_of_convert hd

theorem hasNull_of_rendered (h : rendered catalog template root t path = some f) :
    path.hasNull = false := by
  unfold rendered at h
  split at h
  · cases h
  · next hr => exact FileTree.hasNull_of_readText_ok hr

theorem proper_of_rendered (h : rendered catalog template root t path = some f) : f.Proper := by
  obtain ⟨content, -, hf⟩ := generateFeature_of_rendered h
  obtain ⟨hpath, hparts⟩ := placed_of_generateFeature hf
  refine ⟨hpath, hparts, ?_⟩
  rw [fileName_of_rendered h]
  exact Path.hasNullChar_stem (hasNull_of_rendered h)

/-- A path that leads to the place of a feature file. -/
def LeadsToFeature (t : FileTree) (path : Path) : Prop :=
  ∃ l n, t.look path = .ok (l, n) ∧ IsFeaturePlace l

/-- Feature places stay as they are. -/
def KeepsFeatures : FileTree → FileTree → Prop := FileTree.Keeps fun l => ¬ IsFeaturePlace l

theorem LeadsToFeature.of_keeps (h : LeadsToFeature t path) (keeps : KeepsFeatures t t') :
    LeadsToFeature t' path := by
  obtain ⟨l, n, hlook, hplace⟩ := h
  exact ⟨l, n, keeps.look (not_not_intro hplace) hlook, hplace⟩

theorem rendered_of_keeps (h : LeadsToFeature t path) (keeps : KeepsFeatures t t') :
    rendered catalog template root t' path = rendered catalog template root t path := by
  obtain ⟨l, n, hlook, hplace⟩ := h
  have hread : t'.readText path = t.readText path :=
    keeps.readText (not_not_intro hplace) hlook
  rw [rendered, hread, rendered]

end

theorem Becomes.keepsFeatures {job : Job} {r r' : Run} {path : Path}
    (h : Becomes job r path r') : KeepsFeatures r.tree r'.tree := by
  cases h with
  | unread => exact .refl _ _
  | unplanned => exact .refl _ _
  | refused => exact .refl _ _
  | unwritten gives _ _ fault =>
    have hkeeps := keeps_features job r.tree (proper_of_rendered gives)
    rw [fault] at hkeeps
    exact hkeeps
  | made gives _ written =>
    split at written
    · have hkeeps := keeps_features job r.tree (proper_of_rendered gives)
      rw [written] at hkeeps
      exact hkeeps
    · rw [written]
      exact .refl _ _

/-! ## Shares -/

/-- What a feature adds to a report. -/
structure Share where
  path : Path
  files : List GeneratedFile
  diagnostics : List Diagnostic

/-- An error that names a feature as its source. -/
structure Blames (source : String) (d : Diagnostic) : Prop where
  error : d.severity = .error
  source : d.sourceFile = some source
  code : d.code ≠ unimplementedCode

/-- The share of a feature: an entry, or an error in its place. -/
inductive Share.Due (job : Job) (t : FileTree) : Share → Prop
  | nothing {path : Path} {d : Diagnostic}
      (absent : rendered job.catalog job.template job.root t path = none)
      (error : Blames (path.shown job.root) d) : Due job t ⟨path, [], [d]⟩
  | withheld {path : Path} {f : GeneratedFile} {d : Diagnostic}
      (gives : rendered job.catalog job.template job.root t path = some f)
      (error : Blames (path.shown job.root) d) :
      Due job t ⟨path, [], stubWarningOf path f ++ [d]⟩
  | entered {path : Path} {f : GeneratedFile}
      (gives : rendered job.catalog job.template job.root t path = some f) :
      Due job t ⟨path, [f], stubWarningOf path f⟩

theorem generationErrorCode_ne : generationErrorCode ≠ unimplementedCode := by decide

theorem generationError_code_ne (e : GenerationError) : e.code ≠ unimplementedCode := by
  cases e with
  | unreadable m => show parseErrorCode ≠ unimplementedCode; decide
  | fault f => exact generationErrorCode_ne
  | render e => exact generationErrorCode_ne

theorem blames_readError (name source : String) (e : TextError) :
    Blames source (readError name source e) := ⟨rfl, rfl, generationErrorCode_ne⟩

theorem blames_claimError (f : GeneratedFile) (owner : String) :
    Blames f.featureFile (claimError f owner) := ⟨rfl, rfl, generationErrorCode_ne⟩

theorem blames_writeError (f : GeneratedFile) (e : FileError) :
    Blames f.featureFile (writeError f e) := ⟨rfl, rfl, generationErrorCode_ne⟩

theorem blames_generationError (fileName source : String) (e : GenerationError) :
    Blames source ⟨e.code, .error, e.message fileName, some source⟩ :=
  ⟨rfl, rfl, generationError_code_ne e⟩

/-- One step: the report grows by the share of the feature. -/
theorem Becomes.share {job : Job} {r r' : Run} {path : Path} (h : Becomes job r path r') :
    ∃ s : Share, s.path = path ∧ s.Due job r.tree ∧ r'.report.files = r.report.files ++ s.files ∧
      r'.report.diagnostics = r.report.diagnostics ++ s.diagnostics := by
  cases h with
  | unread absent =>
    exact ⟨_, rfl, .nothing absent (blames_readError _ _ _), (List.append_nil _).symm, rfl⟩
  | unplanned absent =>
    exact ⟨_, rfl, .nothing absent (blames_generationError _ _ _), (List.append_nil _).symm, rfl⟩
  | @refused f log gives other =>
    refine ⟨_, rfl, .withheld gives (d := claimError f (r.owner f)) ?_, (List.append_nil _).symm,
      List.append_assoc _ _ _⟩
    rw [← featureFile_of_rendered gives]
    exact blames_claimError f _
  | @unwritten f t e log gives own write fault =>
    refine ⟨_, rfl, .withheld gives (d := writeError f e) ?_, (List.append_nil _).symm,
      List.append_assoc _ _ _⟩
    rw [← featureFile_of_rendered gives]
    exact blames_writeError f e
  | made gives own written => exact ⟨_, rfl, .entered gives, rfl, rfl⟩

theorem Share.Due.of_keeps {job : Job} {t t' : FileTree} {s : Share} (h : s.Due job t')
    (leads : LeadsToFeature t s.path) (keeps : KeepsFeatures t t') : s.Due job t := by
  cases h with
  | nothing absent error => exact .nothing ((rendered_of_keeps leads keeps).symm.trans absent) error
  | withheld gives error => exact .withheld ((rendered_of_keeps leads keeps).symm.trans gives) error
  | entered gives => exact .entered ((rendered_of_keeps leads keeps).symm.trans gives)

/-! ## All features -/

section
variable {job : Job} {r r' : Run} {ended : RunResult} {path : Path} {paths : List Path}

theorem features_cons_eq_ok_iff :
    features job r (path :: paths) = .ok r' ↔
      ∃ m, feature job r path = .ok m ∧ features job m paths = .ok r' := by
  rw [features, List.foldlM_cons]
  cases hf : feature job r path with
  | error e => simp [bind, Except.bind]
  | ok m => simp [bind, Except.bind, features]

theorem features_append_eq_ok_iff {others : List Path} :
    features job r (paths ++ others) = .ok r' ↔
      ∃ m, features job r paths = .ok m ∧ features job m others = .ok r' := by
  rw [features, List.foldlM_append]
  cases hf : List.foldlM (feature job) r paths with
  | error e => simp [features, hf, bind, Except.bind]
  | ok m => simp [features, hf, bind, Except.bind]

/-- **Along the features.**  What one more feature adds to what holds of the features before it
holds of all of them. -/
@[elab_as_elim]
theorem features_induction {P : List Path → Run → Prop} (h : features job r paths = .ok r')
    (start : P [] r)
    (step : ∀ before path m m', before ++ [path] <+: paths → features job r before = .ok m →
      Becomes job m path m' → P before m → P (before ++ [path]) m') : P paths r' := by
  -- the induction takes the last feature off, since `P` speaks of those before a feature
  induction paths using List.reverseRecOn generalizing r' with
  | nil =>
    obtain rfl := Except.ok.inj h
    exact start
  | append_singleton paths path ih =>
    obtain ⟨m, hm, hlast⟩ := features_append_eq_ok_iff.1 h
    obtain ⟨m', hm', hend⟩ := features_cons_eq_ok_iff.1 hlast
    obtain rfl := Except.ok.inj hend
    refine step paths path m _ (List.prefix_refl _) hm (feature_becomes hm') (ih hm ?_)
    exact fun before other k k' hp => step before other k k' (hp.trans (List.prefix_append _ _))

/-- What each feature preserves is preserved by all of them. -/
@[elab_as_elim]
theorem features_invariant {I : Run → Prop} (h : features job r paths = .ok r') (start : I r)
    (step : ∀ path ∈ paths, ∀ m m', Becomes job m path m' → I m → I m') : I r' := by
  refine features_induction (P := fun _ m => I m) h start fun before path m m' hp _ => ?_
  exact step path (hp.subset (List.mem_append_right _ List.mem_cons_self)) m m'

theorem features_keepsFeatures (h : features job r paths = .ok r') :
    KeepsFeatures r.tree r'.tree := by
  refine features_invariant h (.refl _ _) ?_
  exact fun _ _ _ _ becomes hm => hm.trans becomes.keepsFeatures

/-- **All features.**  The report of a run is made of the shares of its features, in their order,
which depend on the tree before the run alone. -/
theorem features_shares (h : features job r paths = .ok r')
    (leads : ∀ path ∈ paths, LeadsToFeature r.tree path) :
    ∃ shares : List Share, shares.map (·.path) = paths ∧ (∀ s ∈ shares, s.Due job r.tree) ∧
      r'.report.files = r.report.files ++ shares.flatMap (·.files) ∧
      r'.report.diagnostics = r.report.diagnostics ++ shares.flatMap (·.diagnostics) := by
  refine features_induction h ⟨[], rfl, by simp, by simp, by simp⟩ ?_
  rintro before path m m' hp hbefore hbecomes ⟨shares, hpaths, hdue, hfiles, hdiagnostics⟩
  obtain ⟨s, rfl, hlast, hfiles', hdiagnostics'⟩ := hbecomes.share
  refine ⟨shares ++ [s], by rw [List.map_append, hpaths, List.map_singleton], ?_, ?_, ?_⟩
  · -- due on the tree behind the features before it, and so on the first one
    have hleads := leads s.path (hp.subset (List.mem_append_right _ List.mem_cons_self))
    have hfirst := hlast.of_keeps hleads (features_keepsFeatures hbefore)
    exact List.forall_mem_append.2 ⟨hdue, List.forall_mem_singleton.2 hfirst⟩
  · rw [hfiles', hfiles, List.flatMap_append, List.flatMap_singleton, List.append_assoc]
  · rw [hdiagnostics', hdiagnostics, List.flatMap_append, List.flatMap_singleton,
      List.append_assoc]

end

end Run

end Acceptance
