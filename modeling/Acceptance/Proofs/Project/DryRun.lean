import Acceptance.Proofs.Project.Start

/-!
# Runs that write nothing

A run may be asked to write nothing.  It then takes the same features in the same order on a tree
that stays as it was.  A run that writes changes its tree behind every test module, but the features
that are still to come read as before, and so the two runs say the same as long as every test module
is written.

    features job r paths = .ok r' → r'.tree = r.tree   where nothing is written
                                                            (tree_of_dry_features)
    writeFaults job r paths = [] → the run without writing goes along      (features_dry)
    p.writeFaults c = [] → (p.run c false).result = (p.run c true).result
                                                            (dry_run_foretells)
-/

namespace Acceptance

/-- A job that writes nothing. -/
def Job.dry (job : Job) : Job := { job with write := false }

@[simp] theorem Job.dry_root (job : Job) : job.dry.root = job.root := rfl

@[simp] theorem Job.dry_catalog (job : Job) : job.dry.catalog = job.catalog := rfl

@[simp] theorem Job.dry_template (job : Job) : job.dry.template = job.template := rfl

@[simp] theorem Job.dry_write (job : Job) : job.dry.write = false := rfl

namespace Run

/-! ## Runs on other trees -/

/-- A run on another tree. -/
def onto (r : Run) (t : FileTree) : Run := { r with tree := t }

section
variable (r : Run) (t : FileTree)

@[simp] theorem onto_tree : (r.onto t).tree = t := rfl

@[simp] theorem onto_owner (f : GeneratedFile) : (r.onto t).owner f = r.owner f := rfl

@[simp] theorem onto_logged (log : Log) : (r.onto t).logged log = (r.logged log).onto t := rfl

@[simp] theorem onto_diagnosed (ds : List Diagnostic) :
    (r.onto t).diagnosed ds = (r.diagnosed ds).onto t := rfl

@[simp] theorem onto_claimed (f : GeneratedFile) : (r.onto t).claimed f = (r.claimed f).onto t :=
  rfl

end

variable {job : Job} {r r' m : Run} {path : Path} {paths : List Path} {t u : FileTree}
  {f : GeneratedFile}

/-! ## Faults of writing -/

/-- The fault of writing what a feature gives, where the feature owns its output path. -/
def writeFault? (job : Job) (r : Run) (path : Path) : Option FileError :=
  match rendered job.catalog job.template job.root r.tree path with
  | some f => if r.owner f = f.featureFile then (writeOutputs job r.tree f).2 else none
  | none => none

/-- The faults of writing what features give, one feature after the other. -/
def writeFaults (job : Job) (r : Run) : List Path → List FileError
  | [] => []
  | path :: paths =>
    (writeFault? job r path).toList ++
      match feature job r path with
      | .error _ => []
      | .ok m => writeFaults job m paths

theorem writeFaults_cons_eq_nil (h : writeFaults job r (path :: paths) = []) :
    writeFault? job r path = none ∧
      ∀ m, feature job r path = .ok m → writeFaults job m paths = [] := by
  obtain ⟨hfault, hrest⟩ := List.append_eq_nil_iff.1 h
  refine ⟨Option.toList_eq_nil_iff.1 hfault, ?_⟩
  intro m hm
  rw [hm] at hrest
  exact hrest

theorem written_of_writeFault? (h : writeFault? job r path = none)
    (gives : rendered job.catalog job.template job.root r.tree path = some f)
    (own : r.owner f = f.featureFile) : (writeOutputs job r.tree f).2 = none := by
  rw [writeFault?, gives] at h
  simp only at h
  rwa [if_pos own] at h

/-! ## One feature -/

/-- Without writing the tree stays as it was. -/
theorem Becomes.tree_of_dry (h : Becomes job r path r') (dry : job.write = false) :
    r'.tree = r.tree := by
  cases h with
  | unread => rfl
  | unplanned => rfl
  | refused => rfl
  | unwritten _ _ write =>
    rw [dry] at write
    cases write
  | made _ _ written =>
    rw [dry] at written
    exact written

/-- A test module that is written is entered without writing too. -/
theorem output_dry (written : job.write = true → (writeOutputs job r.tree f).2 = none) :
    ∃ r', output job r f = .ok r' ∧ output job.dry (r.onto u) f = .ok (r'.onto u) := by
  unfold output
  split
  · next hwrite =>
    have hnone := written hwrite
    cases hw : writeOutputs job r.tree f with
    | mk t e? =>
      rw [hw] at hnone
      obtain rfl : e? = none := hnone
      exact ⟨_, rfl, rfl⟩
  · exact ⟨_, rfl, rfl⟩

/-- **One feature without writing.**  Where a feature reads as it does for a run that writes its
test module, the run without writing comes to the same on the tree that it has. -/
theorem feature_dry (null : path.hasNull = false)
    (same : u.readText path = r.tree.readText path) (written : writeFault? job r path = none) :
    ∃ r', feature job r path = .ok r' ∧ feature job.dry (r.onto u) path = .ok (r'.onto u) := by
  unfold feature
  simp only [onto_tree, same, onto_logged, onto_diagnosed, onto_owner, onto_claimed, Job.dry_root,
    Job.dry_catalog, Job.dry_template]
  cases hread : r.tree.readText path with
  | error e =>
    cases e with
    | file e =>
      have htold : e.fault ≠ .nullByte := by
        intro hfault
        have hnull := FileTree.hasNull_of_readText hread hfault
        rw [null] at hnull
        cases hnull
      exact ⟨_, faulted_eq_ok_iff.2 ⟨htold, rfl⟩, faulted_eq_ok_iff.2 ⟨htold, rfl⟩⟩
    | bytes b => exact ⟨_, rfl, rfl⟩
  | ok content =>
    have hgives : rendered job.catalog job.template job.root r.tree path =
        (generateFeature job.catalog job.template content path.stem
          (path.shown job.root)).file := by
      rw [rendered, hread]
    simp only
    cases hfile : (generateFeature job.catalog job.template content path.stem
        (path.shown job.root)).file with
    | none => exact ⟨_, rfl, rfl⟩
    | some f =>
      rw [hfile] at hgives
      simp only
      split
      · next hown =>
        have hnone : (writeOutputs job r.tree f).2 = none :=
          written_of_writeFault? written hgives (hown.trans (featureFile_of_rendered hgives).symm)
        simp only [hown, if_true]
        exact output_dry fun _ => hnone
      · next hother =>
        simp only [hother, if_false]
        exact ⟨_, rfl, rfl⟩

/-! ## All features -/

theorem tree_of_dry_features (h : features job r paths = .ok r') (dry : job.write = false) :
    r'.tree = r.tree := by
  refine features_invariant h rfl ?_
  exact fun _ _ _ _ becomes hm => (becomes.tree_of_dry dry).trans hm

/-- **All features without writing.**  As long as no write fails, a run comes behind its features
to the same without writing, on a tree `u` whose features the run has kept. -/
theorem features_dry (leads : ∀ path ∈ paths, LeadsToFeature u path)
    (keeps : KeepsFeatures u r.tree) (written : writeFaults job r paths = []) :
    ∃ r', features job r paths = .ok r' ∧
      features job.dry (r.onto u) paths = .ok (r'.onto u) := by
  induction paths generalizing r with
  | nil => exact ⟨r, rfl, rfl⟩
  | cons path paths ih =>
    obtain ⟨hwritten, hrest⟩ := writeFaults_cons_eq_nil written
    have hleads := leads path List.mem_cons_self
    have hsame : u.readText path = r.tree.readText path := by
      obtain ⟨l, n, hlook, hplace⟩ := hleads
      exact (keeps.readText (not_not_intro hplace) hlook).symm
    obtain ⟨m, hm, hdry⟩ := feature_dry hleads.hasNull hsame hwritten
    obtain ⟨r', hr, hdry'⟩ := ih (fun other ho => leads other (List.mem_cons_of_mem _ ho))
      (keeps.trans (feature_becomes hm).keepsFeatures) (hrest m hm)
    exact ⟨r', features_cons_eq_ok_iff.2 ⟨m, hm, hr⟩,
      features_cons_eq_ok_iff.2 ⟨m.onto u, hdry, hdry'⟩⟩

end Run

/-! ## Whole runs -/

namespace Project

variable {p : Project} {c : Config}

/-- The faults of the writes of a run. -/
def writeFaults (p : Project) (c : Config) : List FileError :=
  match p.prepare c true with
  | .error _ => []
  | .ok q => Run.writeFaults q.job q.start q.paths

/-- Whether a run writes plays no part before its first feature. -/
theorem prepare_dry (p : Project) (c : Config) :
    p.prepare c false = (p.prepare c true).map fun q => { q with job := q.job.dry } := by
  unfold prepare
  simp only
  split
  · rfl
  · rfl
  · split
    · rfl
    · split <;> rfl

/-- A run without writing leaves the tree as it was. -/
theorem tree_of_dry_run (p : Project) (c : Config) : (p.run c false).tree = p.tree := by
  cases hq : p.prepare c false with
  | error ended =>
    rw [run, hq]
    exact (ended_of_prepare_error hq).1
  | ok q =>
    have hprepares := prepares_of_prepare hq
    cases hr : q.after q.paths with
    | error ended =>
      have hwrite := (Run.features_stops hprepares.leads hr).1
      rw [hprepares.write] at hwrite
      cases hwrite
    | ok r =>
      rw [run_of_after hq hr, ← hprepares.tree]
      exact Run.tree_of_dry_features hr hprepares.write

/-- **A run without writing foretells the run.**  It leaves the tree as it was, and where no write
of the run fails it comes to the same report, or the same error, with the same records. -/
theorem dry_run_foretells (p : Project) (c : Config) :
    (p.run c false).tree = p.tree ∧
      (p.writeFaults c = [] →
        (p.run c false).result = (p.run c true).result ∧
          (p.run c false).log = (p.run c true).log) := by
  refine ⟨tree_of_dry_run p c, ?_⟩
  intro written
  have hdry := prepare_dry p c
  cases hq : p.prepare c true with
  | error ended =>
    rw [hq] at hdry
    rw [run, run, hq, hdry]
    exact ⟨rfl, rfl⟩
  | ok q =>
    have hprepares := prepares_of_prepare hq
    rw [hq] at hdry
    rw [writeFaults, hq] at written
    have hkeeps : Run.KeepsFeatures q.start.tree q.start.tree := .refl _ _
    obtain ⟨r, hr, hr'⟩ := Run.features_dry hprepares.leads hkeeps written
    rw [run_of_after hq hr, run_of_after hdry hr']
    exact ⟨rfl, rfl⟩

/-- Two features of which one is refused are reported alike with and without writing. -/
theorem twins_foretold :
    twins.writeFaults twinsConfig = [] ∧
      (twins.run twinsConfig false).result = (twins.run twinsConfig true).result := by
  have written : twins.writeFaults twinsConfig = [] := by
    rw [writeFaults, twins_prepare]
    decide +kernel
  exact ⟨written, ((dry_run_foretells twins twinsConfig).2 written).1⟩

end Project

end Acceptance
