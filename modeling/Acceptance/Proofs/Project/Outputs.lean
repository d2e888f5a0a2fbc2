import Acceptance.Proofs.Project.Start

/-!
# Outputs hold to the end of a run

An output path belongs to the feature that claimed it first, without regard to case.  No other
feature of the run writes there, so what an entry of the report says is what its files hold, from
the feature's turn to the end of the run.

    Becomes job r path r' → Owns job done r → Owns job (done ++ [path]) r'      (Owns.step)
    the outputs of a run's entries hold                                         (run_outputs_hold)
-/

namespace Acceptance

open Acceptance.Text

namespace Run

/-- What a run has of its claims, its entries and their files behind the features `done`. -/
structure Owns (job : Job) (done : List Path) (r : Run) : Prop where
  owners : ∀ e ∈ r.claims, e.2 ∈ done.map fun path => path.shown job.root
  claimed : ∀ f ∈ r.report.files, r.claims.lookup (fold f.outputPath) = some f.featureFile
  apart : (r.report.files.map fun f => fold f.outputPath).Nodup
  proper : ∀ f ∈ r.report.files, f.Proper
  origin : ∀ f ∈ r.report.files, ∃ path ∈ done,
    f.featureFile = path.shown job.root ∧ f.plan.fileName = path.stem
  held : job.write = true → ∀ f ∈ r.report.files, Held job r.tree f

section
variable {job : Job} {done : List Path} {r r' : Run} {path : Path} {f g : GeneratedFile}

/-! ## Claims -/

theorem mem_claims_of_lookup {key owner : String} (h : r.claims.lookup key = some owner) :
    (key, owner) ∈ r.claims := by
  obtain ⟨before, after, hl, -⟩ := List.lookup_eq_some_iff.1 h
  rw [hl]
  exact List.mem_append_right _ List.mem_cons_self

/-- A feature that owns the path of its outputs has just claimed it. -/
theorem Owns.lookup_eq_none (h : Owns job done r)
    (fresh : path.shown job.root ∉ done.map fun path => path.shown job.root)
    (source : f.featureFile = path.shown job.root) (own : r.owner f = f.featureFile) :
    r.claims.lookup (fold f.outputPath) = none := by
  cases hl : r.claims.lookup (fold f.outputPath) with
  | none => rfl
  | some first =>
    rw [owner, hl, Option.getD_some] at own
    have hmem := h.owners _ (mem_claims_of_lookup hl)
    rw [own, source] at hmem
    exact absurd hmem fresh

theorem claims_of_own (hnone : r.claims.lookup (fold f.outputPath) = none) :
    (r.claimed f).claims = (fold f.outputPath, f.featureFile) :: r.claims := by
  rw [claimed, hnone]

theorem claims_of_other (other : r.owner f ≠ f.featureFile) : (r.claimed f).claims = r.claims := by
  cases hl : r.claims.lookup (fold f.outputPath) with
  | none =>
    rw [owner, hl] at other
    exact absurd rfl other
  | some first => rw [claimed, hl]

/-- The path that a feature has just claimed is that of no entry. -/
theorem Owns.fold_ne (h : Owns job done r)
    (hnone : r.claims.lookup (fold f.outputPath) = none) (hg : g ∈ r.report.files) :
    fold g.outputPath ≠ fold f.outputPath := by
  intro he
  have hclaimed := h.claimed g hg
  rw [he, hnone] at hclaimed
  cases hclaimed

theorem lookup_cons_of_ne {key other : String} {claims : List (String × String)} (owner : String)
    (ne : key ≠ other) : ((other, owner) :: claims).lookup key = claims.lookup key := by
  rw [List.lookup_cons, beq_false_of_ne ne]

/-! ## One feature -/

/-- A feature that adds no entry: its claims are its own, and those of the entries stay, as do
their files. -/
theorem Owns.keep (h : Owns job done r) (files : r'.report.files = r.report.files)
    (claims : ∀ e ∈ r'.claims, e ∈ r.claims ∨ e.2 = path.shown job.root)
    (lookups : ∀ g ∈ r.report.files,
      r'.claims.lookup (fold g.outputPath) = r.claims.lookup (fold g.outputPath))
    (held : job.write = true → ∀ g ∈ r.report.files, Held job r'.tree g) :
    Owns job (done ++ [path]) r' := by
  constructor
  case owners =>
    intro e he
    rw [List.map_append, List.mem_append]
    rcases claims e he with he | he
    · exact .inl (h.owners e he)
    · exact .inr (List.mem_singleton.2 he)
  case claimed =>
    rw [files]
    intro g hg
    rw [lookups g hg]
    exact h.claimed g hg
  case apart =>
    rw [files]
    exact h.apart
  case proper =>
    rw [files]
    exact h.proper
  case origin =>
    rw [files]
    intro g hg
    obtain ⟨other, ho, horigin⟩ := h.origin g hg
    exact ⟨other, List.mem_append_left _ ho, horigin⟩
  case held =>
    rw [files]
    exact held

/-- A feature that changes neither claims nor entries nor files. -/
theorem Owns.unchanged (h : Owns job done r) (claims : r'.claims = r.claims)
    (files : r'.report.files = r.report.files) (tree : r'.tree = r.tree) :
    Owns job (done ++ [path]) r' := by
  refine h.keep files ?_ ?_ ?_
  · rw [claims]
    exact fun e he => .inl he
  · rw [claims]
    exact fun g hg => rfl
  · rw [tree]
    exact h.held

/-- A feature that claims the path of its outputs and keeps those of the entries. -/
theorem Owns.claim (h : Owns job done r) (source : f.featureFile = path.shown job.root)
    (hnone : r.claims.lookup (fold f.outputPath) = none)
    (claims : r'.claims = (fold f.outputPath, f.featureFile) :: r.claims)
    (files : r'.report.files = r.report.files)
    (held : job.write = true → ∀ g ∈ r.report.files, Held job r'.tree g) :
    Owns job (done ++ [path]) r' := by
  refine h.keep files ?_ ?_ held
  · intro e he
    rw [claims] at he
    rcases List.mem_cons.1 he with rfl | he
    · exact .inr source
    · exact .inl he
  · intro g hg
    rw [claims]
    exact lookup_cons_of_ne _ (h.fold_ne hnone hg)

/-- A feature that has claimed the path of its outputs becomes an entry. -/
theorem Owns.enter (h : Owns job (done ++ [path]) r)
    (source : f.featureFile = path.shown job.root) (stem : f.plan.fileName = path.stem)
    (proper : f.Proper) (claimed : r.claims.lookup (fold f.outputPath) = some f.featureFile)
    (new : ∀ g ∈ r.report.files, fold g.outputPath ≠ fold f.outputPath)
    (held : job.write = true → Held job r.tree f) :
    Owns job (done ++ [path]) { r with report := r.report.filing f } := by
  have hall : ∀ {P : GeneratedFile → Prop}, (∀ g ∈ r.report.files, P g) → P f →
      ∀ g ∈ r.report.files ++ [f], P g := by
    intro P hold hnew g hg
    rcases List.mem_append.1 hg with hg | hg
    · exact hold g hg
    · rw [List.mem_singleton.1 hg]
      exact hnew
  constructor
  case owners => exact h.owners
  case claimed => exact hall h.claimed claimed
  case apart =>
    show ((r.report.files ++ [f]).map _).Nodup
    rw [List.map_append, List.nodup_append]
    refine ⟨h.apart, by simp, ?_⟩
    intro a ha b hb
    obtain ⟨g, hg, rfl⟩ := List.mem_map.1 ha
    rw [List.map_singleton, List.mem_singleton] at hb
    rw [hb]
    exact new g hg
  case proper => exact hall h.proper proper
  case origin =>
    refine hall h.origin ⟨path, ?_, source, stem⟩
    exact List.mem_append_right _ (List.mem_singleton.2 rfl)
  case held => exact fun hw => hall (h.held hw) (held hw)

/-- What was written for a feature with a path of its own left the files of the entries. -/
theorem Owns.held_others (h : Owns job done r) (write : job.write = true) (proper : f.Proper)
    (hnone : r.claims.lookup (fold f.outputPath) = none) :
    ∀ g ∈ r.report.files, Held job (writeOutputs job r.tree f).1 g := by
  intro g hg
  refine held_of_other proper (h.proper g hg) ?_ (h.held write g hg)
  intro he
  exact h.fold_ne hnone hg (congrArg fold he).symm

/-- **One feature.**  What a run has of its outputs stays true behind one more feature that it has
not taken before. -/
theorem Owns.step (h : Owns job done r)
    (fresh : path.shown job.root ∉ done.map fun path => path.shown job.root)
    (becomes : Becomes job r path r') : Owns job (done ++ [path]) r' := by
  cases becomes with
  | unread => exact h.unchanged rfl rfl rfl
  | unplanned => exact h.unchanged rfl rfl rfl
  | refused gives other => exact h.unchanged (claims_of_other other) rfl rfl
  | unwritten gives own write fault told =>
    have hsource := featureFile_of_rendered gives
    have hnone := h.lookup_eq_none fresh hsource own
    refine h.claim hsource hnone (claims_of_own hnone) rfl ?_
    intro _
    have hothers := h.held_others write (proper_of_rendered gives) hnone
    rw [fault] at hothers
    exact hothers
  | @made f t log gives own written =>
    have hsource := featureFile_of_rendered gives
    have hproper := proper_of_rendered gives
    have hnone := h.lookup_eq_none fresh hsource own
    have hclaims := claims_of_own hnone
    -- the claim first, with the files of the other entries; then the entry of the feature
    have hclaim : Owns job (done ++ [path])
        { tree := t, claims := (r.claimed f).claims
          report := r.report.noting (stubWarningOf path f), log } := by
      refine h.claim hsource hnone hclaims rfl ?_
      intro hw
      have hothers := h.held_others hw hproper hnone
      rw [if_pos hw] at written
      rw [written] at hothers
      exact hothers
    refine hclaim.enter hsource (fileName_of_rendered gives) hproper ?_ ?_ ?_
    · show (r.claimed f).claims.lookup _ = _
      rw [hclaims, List.lookup_cons_self]
    · exact fun g hg => h.fold_ne hnone hg
    · intro hw
      rw [if_pos hw] at written
      exact held_writeOutputs hproper written

/-! ## All features -/

/-- A feature is not shown as one before it is. -/
theorem shown_fresh {paths before : List Path}
    (nodup : ((done ++ paths).map fun path => path.shown job.root).Nodup)
    (hp : before ++ [path] <+: paths) :
    path.shown job.root ∉ (done ++ before).map fun path => path.shown job.root := by
  have hsub := ((List.prefix_append_right_inj done).2 hp).sublist.map fun path => path.shown job.root
  have hnodup := nodup.sublist hsub
  rw [← List.append_assoc, List.map_append, List.nodup_append] at hnodup
  exact fun hmem => hnodup.2.2 _ hmem _ List.mem_cons_self rfl

/-- **All features.**  What a run has of its outputs holds behind features that are shown
differently. -/
theorem Owns.features (h : Owns job done r) {paths : List Path}
    (nodup : ((done ++ paths).map fun path => path.shown job.root).Nodup)
    (hr : features job r paths = .ok r') : Owns job (done ++ paths) r' := by
  refine features_induction hr ?_ ?_
  · rw [List.append_nil]
    exact h
  · intro before path m m' hp _ becomes hm
    rw [← List.append_assoc]
    exact hm.step (shown_fresh nodup hp) becomes

/-- Entries stay entries. -/
theorem Becomes.files_extend (h : Becomes job r path r') : r.report.files <+: r'.report.files := by
  obtain ⟨s, -, -, hfiles, -⟩ := h.share
  rw [hfiles]
  exact List.prefix_append _ _

theorem features_files_extend {paths : List Path} (h : Run.features job r paths = .ok r') :
    r.report.files <+: r'.report.files := by
  refine features_invariant h (List.prefix_refl _) ?_
  exact fun _ _ _ _ becomes hm => hm.trans becomes.files_extend

end

end Run

/-! ## Top theorem -/

namespace Project

/-- The files of an entry: the module under the output directory and, where asked for, the plan
beside it, under the name of the feature file. -/
def HoldsOutputs (p : Project) (c : Config) (t : FileTree) (f : GeneratedFile) : Prop :=
  ∃ outputDir paths path, p.pathOf c.outputDir = .ok outputDir ∧ p.features c = .ok paths ∧
    path ∈ paths ∧ f.featureFile = path.shown p.root ∧
    t.readBytes (outputDir.«to» (.ofText f.outputPath)) = .ok f.code.toUTF8 ∧
    (c.snapshots.truthy = true →
      t.readBytes ((outputDir.«to» (.ofText f.outputPath)).parent.child
        (path.stem ++ ".crif.json")) = .ok (f.plan.exportText 2).toUTF8)

section
variable {p : Project} {c : Config} {q : Prepared} {r : Run} {before : List Path}

theorem Prepares.owns {write : Bool} (h : p.Prepares c write q) : Run.Owns q.job [] q.start := by
  constructor
  case owners => rw [h.claims]; simp
  all_goals rw [h.files]; simp

theorem Prepares.nodup {write : Bool} (h : p.Prepares c write q) :
    (q.paths.map fun path => path.shown q.job.root).Nodup := by
  rw [h.root]
  exact features_shown_nodup h.features

theorem owns_after {write : Bool} (hq : p.prepare c write = .ok q) (hb : before <+: q.paths)
    (hr : q.after before = .ok r) : Run.Owns q.job before r := by
  have hprepares := prepares_of_prepare hq
  exact hprepares.owns.features (((hb.sublist).map _).nodup hprepares.nodup) hr

theorem holdsOutputs_after (hq : p.prepare c true = .ok q) (hb : before <+: q.paths)
    (hr : q.after before = .ok r) : ∀ f ∈ r.report.files, p.HoldsOutputs c r.tree f := by
  intro f hf
  have hprepares := prepares_of_prepare hq
  have howns := owns_after hq hb hr
  have hheld := howns.held hprepares.write f hf
  obtain ⟨path, hp, hsource, hstem⟩ := howns.origin f hf
  refine ⟨q.job.outputDir, q.paths, path, hprepares.outputDir, hprepares.features,
    hb.subset hp, ?_, hheld.target, ?_⟩
  · rw [hsource, hprepares.root]
  · intro hon
    rw [← hprepares.snapshots] at hon
    have hsnapshot := hheld.snapshot hon
    rw [Run.snapshot, hstem] at hsnapshot
    exact hsnapshot

end

/-- **Outputs hold to the end of a run.**  In a run that writes and comes to a report, no two
entries have output paths that differ in case alone, every entry's files hold what the entry says
when the run ends, and they did so behind every feature since the entry's own. -/
theorem run_outputs_hold {p : Project} {c : Config} {report : Report}
    (reported : (p.run c true).result = .ok report) :
    (report.files.map fun f => fold f.outputPath).Nodup ∧
      (∀ f ∈ report.files, p.HoldsOutputs c (p.run c true).tree f) ∧
      ∀ q, p.prepare c true = .ok q → ∀ before, before <+: q.paths →
        ∃ r, q.after before = .ok r ∧
          ∀ f ∈ r.report.files, f ∈ report.files ∧ p.HoldsOutputs c r.tree f := by
  cases hq : p.prepare c true with
  | error ended =>
    rw [run, hq] at reported
    have hnone := files_of_prepare_error hq reported
    rw [hnone]
    exact ⟨List.nodup_nil, by simp, by simp⟩
  | ok q =>
    obtain ⟨last, hlast, rfl⟩ := (report_iff_of_prepare hq).1 reported
    rw [run_of_after hq hlast]
    have howns := owns_after hq (List.prefix_refl q.paths) hlast
    refine ⟨howns.apart, holdsOutputs_after hq (List.prefix_refl q.paths) hlast, ?_⟩
    intro q' hq' before hb
    obtain rfl := Except.ok.inj hq'
    obtain ⟨after, hafter⟩ := id hb
    rw [Prepared.after, ← hafter, Run.features_append_eq_ok_iff] at hlast
    obtain ⟨r, hr, hrest⟩ := hlast
    refine ⟨r, hr, ?_⟩
    intro f hf
    exact ⟨(Run.features_files_extend hrest).subset hf, holdsOutputs_after hq hb hr f hf⟩

/-- The outputs of the first of two features that give one output path. -/
theorem twins_outputs_hold : ∃ report, (twins.run twinsConfig true).result = .ok report ∧
    report.files.map (·.outputPath) = ["test_a.py"] ∧
    ∀ f ∈ report.files, twins.HoldsOutputs twinsConfig (twins.run twinsConfig true).tree f := by
  have hfiles : (Run.features twinsJob twinsStart twinPaths).toOption.map
      (fun r => r.report.files.map (·.outputPath)) = some ["test_a.py"] := by decide +kernel
  cases hr : Run.features twinsJob twinsStart twinPaths with
  | error ended =>
    rw [hr] at hfiles
    cases hfiles
  | ok r =>
    rw [hr] at hfiles
    have hreport : (twins.run twinsConfig true).result = .ok r.report := by
      rw [run_of_after twins_prepare hr]
      rfl
    exact ⟨_, hreport, Option.some.inj hfiles, (run_outputs_hold hreport).2.1⟩

end Project

end Acceptance
