import Acceptance.Proofs.Project.Rewriting
import Acceptance.Proofs.Project.TwoRuns

/-!
# The features of a second run

A second run starts from the tree that a first one left, and takes the same features.  Each of them
reads as it did, claims what it claimed and finds its outputs settled, since no later feature of the
first run wrote where it did.  So the second run says the same again and changes nothing.

    features job r paths = .ok r' → Filled job r.tree r'.tree       (features_filled)
    Settled job r.tree g e? → features job r paths = .ok r' → Settled job r'.tree g e?
                              where g is of none of the features, and owns its path
                                                                    (features_settled)
    features job r paths = .ok r' → Repeats r s → s.tree = r'.tree →
      features job s paths = .ok s'  with  Repeats r' s' ∧ s'.tree = s.tree
                                                                    (Repeats.features)
-/

namespace Acceptance.Run

open Acceptance.Text

variable {job : Job} {r r' s m : Run} {path : Path} {paths : List Path} {f g : GeneratedFile}
  {e? : Option FileError}

/-! ## The tree behind the features -/

theorem Becomes.filled (h : Becomes job r path r') : Filled job r.tree r'.tree := by
  cases h with
  | unread => exact .refl _ _
  | unplanned => exact .refl _ _
  | refused => exact .refl _ _
  | unwritten gives _ _ fault =>
    have hfilled := filled_writeOutputs job r.tree (proper_of_rendered gives)
    rw [fault] at hfilled
    exact hfilled
  | made gives _ written =>
    split at written
    · have hfilled := filled_writeOutputs job r.tree (proper_of_rendered gives)
      rw [written] at hfilled
      exact hfilled
    · rw [written]
      exact .refl _ _

/-- Features fill the tree with outputs and change nothing else. -/
theorem features_filled (h : features job r paths = .ok r') : Filled job r.tree r'.tree := by
  refine features_invariant h (.refl _ _) ?_
  exact fun _ _ _ _ becomes hm => hm.trans becomes.filled

/-! ## Outputs stay settled -/

/-- A test module that goes to an output path of its own has another one than `g`. -/
theorem outputPath_ne (owned : r.claims.lookup (fold g.outputPath) = some g.featureFile)
    (own : r.owner f = f.featureFile) (ne : f.featureFile ≠ g.featureFile) :
    f.outputPath ≠ g.outputPath := by
  intro he
  rw [owner, he, owned, Option.getD_some] at own
  exact ne own.symm

/-- **One more feature.**  What is settled stays settled behind a feature that does not own it. -/
theorem Becomes.settled (h : Becomes job r path r') (hg : g.Proper)
    (ne : path.shown job.root ≠ g.featureFile)
    (owned : r.claims.lookup (fold g.outputPath) = some g.featureFile)
    (settled : Settled job r.tree g e?) :
    r'.claims.lookup (fold g.outputPath) = some g.featureFile ∧ Settled job r'.tree g e? := by
  cases h with
  | unread => exact ⟨owned, settled⟩
  | unplanned => exact ⟨owned, settled⟩
  | refused => exact ⟨lookup_claimed_of_owned owned _, settled⟩
  | unwritten gives own write fault =>
    have hne := outputPath_ne owned own (featureFile_of_rendered gives ▸ ne)
    have hsettled := settled.other (proper_of_rendered gives) hg hne
    rw [fault] at hsettled
    exact ⟨lookup_claimed_of_owned owned _, hsettled⟩
  | made gives own written =>
    refine ⟨lookup_claimed_of_owned owned _, ?_⟩
    split at written
    · have hne := outputPath_ne owned own (featureFile_of_rendered gives ▸ ne)
      have hsettled := settled.other (proper_of_rendered gives) hg hne
      rw [written] at hsettled
      exact hsettled
    · rw [written]
      exact settled

theorem features_settled (h : features job r paths = .ok r') (hg : g.Proper)
    (ne : ∀ path ∈ paths, path.shown job.root ≠ g.featureFile)
    (owned : r.claims.lookup (fold g.outputPath) = some g.featureFile)
    (settled : Settled job r.tree g e?) : Settled job r'.tree g e? := by
  have hboth : r'.claims.lookup (fold g.outputPath) = some g.featureFile ∧
      Settled job r'.tree g e? := by
    refine features_invariant h ⟨owned, settled⟩ ?_
    rintro path hpath m m' becomes ⟨howned, hsettled⟩
    exact becomes.settled hg (ne path hpath) howned hsettled
  exact hboth.2

/-- **A feature's own outputs.**  Where a feature goes on with a test module that it owns, its
outputs are settled as they were written or not, and its claim is its own. -/
theorem Becomes.settles (h : Becomes job r path r') (write : job.write = true)
    (gives : rendered job.catalog job.template job.root r.tree path = some f)
    (own : r.owner f = f.featureFile) :
    job.outputDir.hasNull = false ∧
      r'.claims.lookup (fold f.outputPath) = some f.featureFile ∧
      Settled job r'.tree f (writeOutputs job r.tree f).2 := by
  have hf := proper_of_rendered gives
  have hclaim : (r.claimed f).claims.lookup (fold f.outputPath) = some f.featureFile := by
    rw [lookup_claimed, if_pos rfl, own]
  cases h with
  | unread absent =>
    rw [absent] at gives
    cases gives
  | unplanned absent =>
    rw [absent] at gives
    cases gives
  | refused gives' other =>
    obtain rfl := Option.some.inj (gives'.symm.trans gives)
    exact absurd own other
  | unwritten gives' _ _ fault told =>
    obtain rfl := Option.some.inj (gives'.symm.trans gives)
    have hnull : job.outputDir.hasNull = false :=
      Bool.eq_false_iff.2 fun hnull => told ((fault_eq_null_iff hf fault).2 hnull)
    refine ⟨hnull, hclaim, ?_⟩
    rw [fault]
    exact settled_writeOutputs hf hnull fault
  | made gives' _ written =>
    obtain rfl := Option.some.inj (gives'.symm.trans gives)
    rw [if_pos write] at written
    have hnull : job.outputDir.hasNull = false := by
      refine Bool.eq_false_iff.2 fun hnull => ?_
      obtain ⟨e, he, -⟩ := writeOutputs_null (t := r.tree) hf hnull
      rw [written] at he
      cases he
    refine ⟨hnull, hclaim, ?_⟩
    rw [written]
    exact settled_writeOutputs hf hnull written

/-! ## A run that repeats another one -/

/-- A run that has the claims and the entries of another one and says the same. -/
structure Repeats (r s : Run) : Prop where
  claims : s.claims = r.claims
  files : s.report.files = r.report.files
  diagnostics : List.Forall₂ Diagnostic.Like r.report.diagnostics s.report.diagnostics

namespace Repeats

theorem logged (h : Repeats r s) (log log' : Log) : Repeats (r.logged log) (s.logged log') :=
  ⟨h.claims, h.files, h.diagnostics⟩

theorem diagnosed {ds ds' : List Diagnostic} (h : Repeats r s)
    (like : List.Forall₂ Diagnostic.Like ds ds') : Repeats (r.diagnosed ds) (s.diagnosed ds') :=
  ⟨h.claims, h.files, List.rel_append h.diagnostics like⟩

theorem filed (h : Repeats r s) (f : GeneratedFile) : Repeats (r.filed f) (s.filed f) :=
  ⟨h.claims, congrArg (· ++ [f]) h.files, h.diagnostics⟩

theorem owner (h : Repeats r s) (f : GeneratedFile) : s.owner f = r.owner f := by
  rw [Run.owner, Run.owner, h.claims]

theorem claimed (h : Repeats r s) (f : GeneratedFile) : Repeats (r.claimed f) (s.claimed f) := by
  refine ⟨?_, h.files, h.diagnostics⟩
  rw [Run.claimed, Run.claimed, h.claims]

/-- A test module with settled outputs is entered again, or refused again. -/
theorem output (h : Repeats r s) (hf : f.Proper) (null : job.outputDir.hasNull = false)
    (write : job.write = true) (settled : Settled job s.tree f (writeOutputs job r.tree f).2)
    (hr : output job r f = .ok r') :
    ∃ s', Run.output job s f = .ok s' ∧ Repeats r' s' ∧ s'.tree = s.tree := by
  obtain ⟨e?', hagain, hiff⟩ := settled.again hf null
  unfold Run.output at hr ⊢
  rw [if_pos write] at hr ⊢
  cases hw : writeOutputs job r.tree f with
  | mk t e? =>
    rw [hw] at hiff
    simp only [hw] at hr
    simp only [hagain]
    have hmoved : Repeats { r with tree := t } s := ⟨h.claims, h.files, h.diagnostics⟩
    cases e? with
    | none =>
      obtain rfl : e?' = none := hiff.2 rfl
      obtain rfl := Except.ok.inj hr
      exact ⟨_, rfl, hmoved.filed f, rfl⟩
    | some e =>
      cases e?' with
      | none => cases hiff.1 rfl
      | some e' =>
        obtain ⟨-, rfl⟩ := faulted_eq_ok_iff.1 hr
        have htold : e'.fault ≠ .nullByte := by
          intro hfault
          rw [(fault_eq_null_iff hf hagain).1 hfault] at null
          cases null
        refine ⟨_, faulted_eq_ok_iff.2 ⟨htold, rfl⟩, ?_, rfl⟩
        exact hmoved.diagnosed (.cons (.inr ⟨f, e, e', rfl, rfl⟩) .nil)

/-- **One feature again.**  A feature that reads as it did, and whose outputs are settled, comes to
the same again and changes nothing. -/
theorem feature (h : Repeats r s) (same : s.tree.readText path = r.tree.readText path)
    (write : job.write = true)
    (settled : ∀ f, rendered job.catalog job.template job.root r.tree path = some f →
      r.owner f = f.featureFile → job.outputDir.hasNull = false ∧
        Settled job s.tree f (writeOutputs job r.tree f).2)
    (hr : Run.feature job r path = .ok r') :
    ∃ s', Run.feature job s path = .ok s' ∧ Repeats r' s' ∧ s'.tree = s.tree := by
  unfold Run.feature at hr ⊢
  rw [same]
  simp only at hr ⊢
  cases hread : r.tree.readText path with
  | error e =>
    rw [hread] at hr
    cases e with
    | file e =>
      obtain ⟨htold, rfl⟩ := faulted_eq_ok_iff.1 hr
      exact ⟨_, faulted_eq_ok_iff.2 ⟨htold, rfl⟩, h.diagnosed (Diagnostic.Like.refl_all _), rfl⟩
    | bytes b =>
      obtain rfl := Except.ok.inj hr
      exact ⟨_, rfl, h.diagnosed (Diagnostic.Like.refl_all _), rfl⟩
  | ok content =>
    rw [hread] at hr
    simp only at hr ⊢
    have hgenerated : Repeats ((r.logged (generationLog job.catalog content)).diagnosed _)
        ((s.logged (generationLog job.catalog content)).diagnosed _) :=
      (h.logged _ _).diagnosed (Diagnostic.Like.refl_all
        (generateFeature job.catalog job.template content path.stem
          (path.shown job.root)).diagnostics)
    cases hfile : (generateFeature job.catalog job.template content path.stem
        (path.shown job.root)).file with
    | none =>
      rw [hfile] at hr
      obtain rfl := Except.ok.inj hr
      exact ⟨_, rfl, hgenerated, rfl⟩
    | some f =>
      have hgives : rendered job.catalog job.template job.root r.tree path = some f := by
        rw [rendered, hread]
        exact hfile
      rw [hfile] at hr
      simp only at hr ⊢
      rw [hgenerated.owner]
      split at hr
      · next hown =>
        rw [if_pos hown]
        obtain ⟨hnull, hsettled⟩ :=
          settled f hgives (hown.trans (featureFile_of_rendered hgives).symm)
        exact (hgenerated.claimed f).output (proper_of_rendered hgives) hnull write hsettled hr
      · next hown =>
        rw [if_neg hown]
        obtain rfl := Except.ok.inj hr
        exact ⟨_, rfl, (hgenerated.claimed f).diagnosed (Diagnostic.Like.refl_all _), rfl⟩

/-- **All features again.**  A run that takes the features on the tree that another one left behind
them comes to the same and leaves that tree as it is. -/
theorem features (write : job.write = true) (h : Repeats r s)
    (hr : Run.features job r paths = .ok r') (tree : s.tree = r'.tree)
    (leads : ∀ path ∈ paths, LeadsToFeature r.tree path)
    (nodup : (paths.map fun path => path.shown job.root).Nodup) :
    ∃ s', Run.features job s paths = .ok s' ∧ Repeats r' s' ∧ s'.tree = s.tree := by
  induction paths generalizing r s with
  | nil =>
    obtain rfl := Except.ok.inj hr
    exact ⟨s, rfl, h, rfl⟩
  | cons path paths ih =>
    obtain ⟨hfresh, hnodup⟩ := List.nodup_cons.1 nodup
    obtain ⟨m, hm, hrest⟩ := features_cons_eq_ok_iff.1 hr
    have hbecomes := feature_becomes hm
    have hkeeps := features_keepsFeatures hr
    have hread : s.tree.readText path = r.tree.readText path := by
      obtain ⟨l, n, hlook, hplace⟩ := leads path List.mem_cons_self
      rw [tree]
      exact hkeeps.readText (not_not_intro hplace) hlook
    -- what this feature settled, the later ones leave settled
    have hsettled : ∀ f, rendered job.catalog job.template job.root r.tree path = some f →
        r.owner f = f.featureFile → job.outputDir.hasNull = false ∧
          Settled job s.tree f (writeOutputs job r.tree f).2 := by
      intro f hgives hown
      obtain ⟨hnull, howned, hsettled⟩ := hbecomes.settles write hgives hown
      refine ⟨hnull, ?_⟩
      rw [tree]
      refine features_settled hrest (proper_of_rendered hgives) ?_ howned hsettled
      intro other ho he
      rw [featureFile_of_rendered hgives] at he
      exact hfresh (List.mem_map.2 ⟨other, ho, he⟩)
    obtain ⟨k, hk, hrepeats, hktree⟩ := h.feature hread write hsettled hm
    obtain ⟨s', hs', hrepeats', hstree⟩ := ih hrepeats hrest (hktree.trans tree)
      (fun other ho => (leads other (List.mem_cons_of_mem _ ho)).of_keeps hbecomes.keepsFeatures)
      hnodup
    exact ⟨s', features_cons_eq_ok_iff.2 ⟨k, hk, hs'⟩, hrepeats', hstree.trans hktree⟩

end Repeats

end Acceptance.Run
