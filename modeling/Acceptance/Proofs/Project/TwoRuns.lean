import Acceptance.Proofs.Project.Accounting
import Acceptance.Proofs.Project.TwoTrees
import Mathlib.Data.List.Forall2

/-!
# Two runs side by side

A run and another one whose tree differs in the feature file `x` take the other features in step.
A feature whose output path is one of the paths `K` that `x` has in one of the runs may fare
differently in them; such features, and `x` itself, are taken by each run on its own.

    Agree c r s → the feature is no other → Agree c r' s               (Agree.step_left)
    Agree c r s → the feature is another → Agree c r' s'               (Agree.step_both)
    Agree c r s → features c.job r paths = .ok r' → features c.job s paths' = .ok s' →
      Agree c r' s'            where paths and paths' are the same but for x  (Agree.features)
-/

namespace Acceptance

open Acceptance.Text

/-- The diagnostics of a source, or those of no source. -/
def Report.diagnosticsOf (r : Report) (source : Option String) : List Diagnostic :=
  r.diagnostics.filter fun d => d.sourceFile == source

/-- Diagnostics that say the same; where a test module could not be written, why may differ. -/
def Diagnostic.Like (d d' : Diagnostic) : Prop :=
  d' = d ∨ ∃ f e e', d = Run.writeError f e ∧ d' = Run.writeError f e'

namespace Diagnostic.Like

variable {d d' : Diagnostic}

theorem refl (d : Diagnostic) : d.Like d := .inl rfl

theorem symm (h : d.Like d') : d'.Like d := by
  rcases h with rfl | ⟨f, e, e', h, h'⟩
  · exact .refl _
  · exact .inr ⟨f, e', e, h', h⟩

theorem source (h : d.Like d') : d'.sourceFile = d.sourceFile := by
  rcases h with rfl | ⟨f, e, e', rfl, rfl⟩
  · rfl
  · rfl

theorem refl_all (ds : List Diagnostic) : List.Forall₂ Like ds ds :=
  List.forall₂_same.2 fun d _ => .refl d

/-- Diagnostics of no source are the same. -/
theorem eq_of_general {ds ds' : List Diagnostic} (h : List.Forall₂ Like ds ds')
    (general : ∀ d ∈ ds, d.sourceFile = none) : ds' = ds := by
  induction h with
  | nil => rfl
  | @cons d d' ds ds' hd _ ih =>
    obtain ⟨hnone, hrest⟩ := List.forall_mem_cons.1 general
    rcases hd with rfl | ⟨f, e, e', rfl, rfl⟩
    · rw [ih hrest]
    · cases hnone

end Diagnostic.Like

namespace Run

/-- What two runs side by side have in common. -/
structure Pair where
  job : Job
  /-- The trees that the runs start from. -/
  before : FileTree
  behind : FileTree
  /-- The place of the feature file that they differ in. -/
  place : Location
  /-- The output paths, without regard to case, on which they need not agree. -/
  touched : String → Prop
  /-- The sources, or none, of which they say the same. -/
  spared : Option String → Prop

namespace Pair

/-- The runs the other way round. -/
def swap (c : Pair) : Pair := { c with before := c.behind, behind := c.before }

end Pair

/-- Two runs that agree: on files besides those apart, on claims besides those touched, and on what
they say of the sources that are spared. -/
structure Agree (c : Pair) (r s : Run) : Prop where
  left : KeepsFeatures c.before r.tree
  right : KeepsFeatures c.behind s.tree
  trees : c.job.write = true → Alike c.job c.touched c.place r.tree s.tree
  still : c.job.write = false → r.tree = c.before ∧ s.tree = c.behind
  claims : ∀ key, ¬ c.touched key → s.claims.lookup key = r.claims.lookup key
  files : ∀ source, c.spared (some source) → s.report.filesFrom source = r.report.filesFrom source
  diagnostics : ∀ source, c.spared source →
    List.Forall₂ Diagnostic.Like (r.report.diagnosticsOf source) (s.report.diagnosticsOf source)

section
variable {c : Pair} {r r' s s' : Run} {x y : Path} {f : GeneratedFile} {paths paths' : List Path}

theorem Agree.symm (h : Agree c r s) : Agree c.swap s r := by
  constructor
  case left => exact h.right
  case right => exact h.left
  case trees => exact fun hw => (h.trees hw).symm
  case still => exact fun hw => (h.still hw).symm
  case claims => exact fun key hkey => (h.claims key hkey).symm
  case files => exact fun source hs => (h.files source hs).symm
  case diagnostics =>
    exact fun source hs => (h.diagnostics source hs).flip.imp fun _ _ hd => Diagnostic.Like.symm hd

/-! ## A feature of one run -/

/-- What becomes of the tree and the claims of a run behind a feature. -/
theorem Becomes.changes (h : Becomes c.job r y r') :
    (r'.tree = r.tree ∨ c.job.write = true ∧
      ∃ f, rendered c.job.catalog c.job.template c.job.root r.tree y = some f ∧
        r'.tree = (writeOutputs c.job r.tree f).1) ∧
    (r'.claims = r.claims ∨ ∃ f,
      rendered c.job.catalog c.job.template c.job.root r.tree y = some f ∧
      r'.claims = (r.claimed f).claims) := by
  cases h with
  | unread => exact ⟨.inl rfl, .inl rfl⟩
  | unplanned => exact ⟨.inl rfl, .inl rfl⟩
  | refused gives => exact ⟨.inl rfl, .inr ⟨_, gives, rfl⟩⟩
  | unwritten gives _ write fault =>
    exact ⟨.inr ⟨write, _, gives, by rw [fault]⟩, .inr ⟨_, gives, rfl⟩⟩
  | made gives _ written =>
    refine ⟨?_, .inr ⟨_, gives, rfl⟩⟩
    split at written
    · next write => exact .inr ⟨write, _, gives, by rw [written]⟩
    · exact .inl written

/-- A feature adds no entries of other sources. -/
theorem Becomes.filesFrom_other {job : Job} {r r' : Run} {y : Path} {other : String}
    (h : Becomes job r y r') (ne : other ≠ y.shown job.root) :
    r'.report.filesFrom other = r.report.filesFrom other := by
  obtain ⟨share, rfl, hdue, hfiles, -⟩ := h.share
  have hnone : share.files.filter (fun f => f.featureFile == other) = [] := by
    refine List.filter_eq_nil_iff.2 fun f hf he => ne ?_
    rw [← beq_iff_eq.1 he]
    exact Option.some.inj (hdue.files_source f hf)
  rw [Report.filesFrom, hfiles, List.filter_append, hnone, List.append_nil]
  rfl

/-- A feature adds no diagnostics of other sources. -/
theorem Becomes.diagnosticsOf_other {job : Job} {r r' : Run} {y : Path} {other : Option String}
    (h : Becomes job r y r') (ne : other ≠ some (y.shown job.root)) :
    r'.report.diagnosticsOf other = r.report.diagnosticsOf other := by
  obtain ⟨share, rfl, hdue, -, hdiagnostics⟩ := h.share
  have hnone : share.diagnostics.filter (fun d => d.sourceFile == other) = [] := by
    refine List.filter_eq_nil_iff.2 fun d hd he => ne ?_
    rw [← beq_iff_eq.1 he]
    exact hdue.diagnostics_source d hd
  rw [Report.diagnosticsOf, hdiagnostics, List.filter_append, hnone, List.append_nil]
  rfl

/-- **One run goes on.**  A feature of a source that is not spared, with touched outputs if any, is
taken by one of the runs. -/
theorem Agree.step_left (h : Agree c r s) (becomes : Becomes c.job r y r')
    (source : ¬ c.spared (some (y.shown c.job.root)))
    (outputs : ∀ f, rendered c.job.catalog c.job.template c.job.root r.tree y = some f →
      c.touched (fold f.outputPath)) : Agree c r' s := by
  obtain ⟨htree, hclaims⟩ := becomes.changes
  constructor
  case left => exact h.left.trans becomes.keepsFeatures
  case right => exact h.right
  case trees =>
    intro hw
    rcases htree with he | ⟨-, f, hf, he⟩
    · rw [he]
      exact h.trees hw
    · rw [he]
      exact (h.trees hw).write_left (proper_of_rendered hf) (outputs f hf)
  case still =>
    intro hw
    rcases htree with he | ⟨hwrite, -⟩
    · rw [he]
      exact h.still hw
    · rw [hw] at hwrite
      cases hwrite
  case claims =>
    intro key hkey
    rw [h.claims key hkey]
    rcases hclaims with he | ⟨f, hf, he⟩
    · rw [he]
    · have hne : key ≠ fold f.outputPath := by
        rintro rfl
        exact hkey (outputs f hf)
      rw [he, lookup_claimed, if_neg hne]
  case files =>
    intro other hspared
    have hne : other ≠ y.shown c.job.root := by
      rintro rfl
      exact source hspared
    rw [h.files other hspared, becomes.filesFrom_other hne]
  case diagnostics =>
    intro other hspared
    have hne : other ≠ some (y.shown c.job.root) := by
      rintro rfl
      exact source hspared
    rw [becomes.diagnosticsOf_other hne]
    exact h.diagnostics other hspared

/-! ## A feature of both runs -/

theorem Agree.logged (h : Agree c r s) (log log' : Log) : Agree c (r.logged log) (s.logged log') :=
  ⟨h.left, h.right, h.trees, h.still, h.claims, h.files, h.diagnostics⟩

/-- Both runs say the same more. -/
theorem Agree.diagnosed {ds ds' : List Diagnostic} (h : Agree c r s)
    (like : List.Forall₂ Diagnostic.Like ds ds') : Agree c (r.diagnosed ds) (s.diagnosed ds') := by
  refine ⟨h.left, h.right, h.trees, h.still, h.claims, h.files, ?_⟩
  intro source hsource
  have hfilter : List.Forall₂ Diagnostic.Like (ds.filter fun d => d.sourceFile == source)
      (ds'.filter fun d => d.sourceFile == source) := by
    refine List.rel_filter ?_ like
    intro d d' hd
    show _ = true ↔ _ = true
    rw [hd.source]
  have happend : ∀ {r : Run} {ds : List Diagnostic}, (r.diagnosed ds).report.diagnosticsOf source =
      r.report.diagnosticsOf source ++ ds.filter fun d => d.sourceFile == source :=
    List.filter_append _ _
  rw [happend, happend]
  exact List.rel_append (h.diagnostics source hsource) hfilter

/-- Both runs have one more entry. -/
theorem Agree.filed (h : Agree c r s) (f : GeneratedFile) : Agree c (r.filed f) (s.filed f) := by
  refine ⟨h.left, h.right, h.trees, h.still, h.claims, ?_, h.diagnostics⟩
  intro source hsource
  have happend : ∀ {r : Run}, (r.filed f).report.filesFrom source =
      r.report.filesFrom source ++ [f].filter fun f => f.featureFile == source :=
    List.filter_append _ _
  rw [happend, happend, h.files source hsource]

theorem Agree.owner (h : Agree c r s) (other : ¬ c.touched (fold f.outputPath)) :
    s.owner f = r.owner f := by
  rw [Run.owner, Run.owner, h.claims _ other]

/-- Both runs have one more claim. -/
theorem Agree.claimed (h : Agree c r s) (other : ¬ c.touched (fold f.outputPath)) :
    Agree c (r.claimed f) (s.claimed f) := by
  refine ⟨h.left, h.right, h.trees, h.still, ?_, h.files, h.diagnostics⟩
  intro key hkey
  rw [lookup_claimed, lookup_claimed, h.owner other, h.claims key hkey]

/-- Both runs write the outputs of a feature that is another, or neither does. -/
theorem Agree.output (h : Agree c r s) (feature : IsFeaturePlace c.place) (proper : f.Proper)
    (other : ¬ c.touched (fold f.outputPath)) (hr : output c.job r f = .ok r')
    (hs : output c.job s f = .ok s') : Agree c r' s' := by
  unfold Run.output at hr hs
  by_cases hwrite : c.job.write = true
  · rw [if_pos hwrite] at hr hs
    obtain ⟨htrees, hdone⟩ := (h.trees hwrite).write_both feature proper other
    have hmoving : c.job.write ≠ false := by simp [hwrite]
    have hleft := h.left.trans (keeps_features c.job r.tree proper)
    have hright := h.right.trans (keeps_features c.job s.tree proper)
    cases hw : writeOutputs c.job r.tree f with
    | mk t e? =>
      cases hw' : writeOutputs c.job s.tree f with
      | mk u e?' =>
        rw [hw, hw'] at htrees hdone
        rw [hw] at hleft
        rw [hw'] at hright
        have hagree : Agree c { r with tree := t } { s with tree := u } :=
          ⟨hleft, hright, fun _ => htrees, fun hw => absurd hw hmoving, h.claims, h.files,
            h.diagnostics⟩
        simp only [hw] at hr
        simp only [hw'] at hs
        cases e? with
        | none =>
          obtain rfl : e?' = none := hdone.2 rfl
          obtain rfl := Except.ok.inj hr
          obtain rfl := Except.ok.inj hs
          exact hagree.filed f
        | some e =>
          cases e?' with
          | none => cases hdone.1 rfl
          | some e' =>
            obtain ⟨-, rfl⟩ := faulted_eq_ok_iff.1 hr
            obtain ⟨-, rfl⟩ := faulted_eq_ok_iff.1 hs
            exact hagree.diagnosed (.cons (.inr ⟨f, e, e', rfl, rfl⟩) .nil)
  · rw [if_neg hwrite] at hr hs
    obtain rfl := Except.ok.inj hr
    obtain rfl := Except.ok.inj hs
    exact h.filed f

/-- **Both runs go on.**  A feature with the same text in both trees, whose outputs if any are not
touched, comes to the same in both runs. -/
theorem Agree.step_both (h : Agree c r s) (feature : IsFeaturePlace c.place)
    (same : s.tree.readText y = r.tree.readText y)
    (outputs : ∀ f, rendered c.job.catalog c.job.template c.job.root r.tree y = some f →
      ¬ c.touched (fold f.outputPath))
    (hr : Run.feature c.job r y = .ok r') (hs : Run.feature c.job s y = .ok s') :
    Agree c r' s' := by
  unfold Run.feature at hr hs
  rw [same] at hs
  simp only at hr hs
  cases hread : r.tree.readText y with
  | error e =>
    rw [hread] at hr hs
    cases e with
    | file e =>
      obtain ⟨-, rfl⟩ := faulted_eq_ok_iff.1 hr
      obtain ⟨-, rfl⟩ := faulted_eq_ok_iff.1 hs
      exact h.diagnosed (Diagnostic.Like.refl_all _)
    | bytes b =>
      obtain rfl := Except.ok.inj hr
      obtain rfl := Except.ok.inj hs
      exact h.diagnosed (Diagnostic.Like.refl_all _)
  | ok content =>
    rw [hread] at hr hs
    simp only at hr hs
    have hgenerated : Agree c
        ((r.logged (generationLog c.job.catalog content)).diagnosed _)
        ((s.logged (generationLog c.job.catalog content)).diagnosed _) :=
      (h.logged _ _).diagnosed (Diagnostic.Like.refl_all
        (generateFeature c.job.catalog c.job.template content y.stem
          (y.shown c.job.root)).diagnostics)
    cases hfile : (generateFeature c.job.catalog c.job.template content y.stem
        (y.shown c.job.root)).file with
    | none =>
      rw [hfile] at hr hs
      obtain rfl := Except.ok.inj hr
      obtain rfl := Except.ok.inj hs
      exact hgenerated
    | some f =>
      have hgives : rendered c.job.catalog c.job.template c.job.root r.tree y = some f := by
        rw [rendered, hread]
        exact hfile
      have hother := outputs f hgives
      rw [hfile] at hr hs
      simp only at hr hs
      rw [hgenerated.owner hother] at hs
      split at hr
      · next hown =>
        rw [if_pos hown] at hs
        exact (hgenerated.claimed hother).output feature (proper_of_rendered hgives) hother hr hs
      · next hown =>
        rw [if_neg hown] at hs
        obtain rfl := Except.ok.inj hr
        obtain rfl := Except.ok.inj hs
        exact (hgenerated.claimed hother).diagnosed (Diagnostic.Like.refl_all _)

/-! ## All features -/

/-- The features that a pair of runs takes: `x`, which the runs differ in, and others, which have
the same text in both trees. -/
structure Pair.Takes (c : Pair) (x : Path) (paths : List Path) : Prop where
  feature : IsFeaturePlace c.place
  leads : ∀ y ∈ paths, LeadsToFeature c.before y
  same : ∀ y ∈ paths, y ≠ x →
    LeadsToFeature c.behind y ∧ c.behind.readText y = c.before.readText y
  own : ∀ f, rendered c.job.catalog c.job.template c.job.root c.before x = some f ∨
    rendered c.job.catalog c.job.template c.job.root c.behind x = some f →
    c.touched (fold f.outputPath)
  source : ¬ c.spared (some (x.shown c.job.root))
  others : ∀ y ∈ paths, ∀ f,
    rendered c.job.catalog c.job.template c.job.root c.before y = some f →
    c.touched (fold f.outputPath) → ¬ c.spared (some (y.shown c.job.root))

theorem Pair.Takes.tail (h : c.Takes x (y :: paths)) : c.Takes x paths :=
  ⟨h.feature, fun z hz => h.leads z (List.mem_cons_of_mem _ hz),
    fun z hz => h.same z (List.mem_cons_of_mem _ hz), h.own, h.source,
    fun z hz => h.others z (List.mem_cons_of_mem _ hz)⟩

/-- The other run goes on. -/
theorem Agree.step_right (h : Agree c r s) (becomes : Becomes c.job s y s')
    (source : ¬ c.spared (some (y.shown c.job.root)))
    (outputs : ∀ f, rendered c.job.catalog c.job.template c.job.root s.tree y = some f →
      c.touched (fold f.outputPath)) : Agree c r s' :=
  (h.symm.step_left (c := c.swap) becomes source outputs).symm

/-- **Another feature.**  Both runs take it in step where its outputs are not touched, and each on
its own where they are. -/
theorem Agree.step_other (h : Agree c r s) (takes : c.Takes x paths) (hy : y ∈ paths) (ne : y ≠ x)
    (hr : Run.feature c.job r y = .ok r') (hs : Run.feature c.job s y = .ok s') :
    Agree c r' s' := by
  have hleads := takes.leads y hy
  obtain ⟨hleads', hsame⟩ := takes.same y hy ne
  have hleft : rendered c.job.catalog c.job.template c.job.root r.tree y =
      rendered c.job.catalog c.job.template c.job.root c.before y :=
    rendered_of_keeps hleads h.left
  have hright : rendered c.job.catalog c.job.template c.job.root s.tree y =
      rendered c.job.catalog c.job.template c.job.root c.before y := by
    rw [rendered_of_keeps hleads' h.right, rendered, rendered, hsame]
  by_cases hmine : ∃ f, rendered c.job.catalog c.job.template c.job.root c.before y = some f ∧
      c.touched (fold f.outputPath)
  · obtain ⟨f, hf, htouched⟩ := hmine
    have hsource := takes.others y hy f hf htouched
    have houtputs : ∀ g, rendered c.job.catalog c.job.template c.job.root c.before y = some g →
        c.touched (fold g.outputPath) := by
      intro g hg
      rw [hf] at hg
      rwa [← Option.some.inj hg]
    have hfirst := h.step_left (feature_becomes hr) hsource (by rwa [hleft])
    exact hfirst.step_right (feature_becomes hs) hsource (by rwa [hright])
  · have hread : s.tree.readText y = r.tree.readText y := by
      obtain ⟨l, n, hlook, hplace⟩ := hleads
      obtain ⟨l', n', hlook', hplace'⟩ := hleads'
      rw [h.left.readText (not_not_intro hplace) hlook,
        h.right.readText (not_not_intro hplace') hlook', hsame]
    refine h.step_both takes.feature hread ?_ hr hs
    rw [hleft]
    exact fun f hf htouched => hmine ⟨f, hf, htouched⟩

/-- The feature `x`, taken by one run. -/
theorem Agree.own_left (h : Agree c r s) (takes : c.Takes x paths)
    (leads : LeadsToFeature c.before x) (becomes : Becomes c.job r x r') : Agree c r' s := by
  refine h.step_left becomes takes.source ?_
  rw [rendered_of_keeps leads h.left]
  exact fun f hf => takes.own f (.inl hf)

/-- The feature `x`, taken by the other run. -/
theorem Agree.own_right (h : Agree c r s) (takes : c.Takes x paths)
    (leads : LeadsToFeature c.behind x) (becomes : Becomes c.job s x s') : Agree c r s' := by
  refine h.step_right becomes takes.source ?_
  rw [rendered_of_keeps leads h.right]
  exact fun f hf => takes.own f (.inr hf)

theorem Agree.owns_right (h : Agree c r s) (takes : c.Takes x paths)
    (only : ∀ y ∈ paths', y = x) (leads : ∀ y ∈ paths', LeadsToFeature c.behind y)
    (hs : features c.job s paths' = .ok s') : Agree c r s' := by
  refine features_invariant hs h fun y hy m m' becomes hm => ?_
  obtain rfl := only y hy
  exact hm.own_right takes (leads y hy) becomes

/-- **All features.**  Two runs that take the same features besides `x` agree to their ends. -/
theorem Agree.features (h : Agree c r s) (takes : c.Takes x paths)
    (same : paths'.filter (· != x) = paths.filter (· != x))
    (leads : ∀ y ∈ paths', LeadsToFeature c.behind y)
    (hr : Run.features c.job r paths = .ok r') (hs : Run.features c.job s paths' = .ok s') :
    Agree c r' s' := by
  induction paths generalizing r s paths' with
  | nil =>
    obtain rfl := Except.ok.inj hr
    refine h.owns_right takes ?_ leads hs
    intro y hy
    simpa using List.filter_eq_nil_iff.1 same y hy
  | cons y paths ih =>
    obtain ⟨m, hm, hrest⟩ := features_cons_eq_ok_iff.1 hr
    by_cases hy : y = x
    · subst hy
      have hfilter : (y :: paths).filter (· != y) = paths.filter (· != y) := by simp
      have hstep := h.own_left takes (takes.leads y List.mem_cons_self) (feature_becomes hm)
      exact ih hstep takes.tail (same.trans hfilter) leads hrest hs
    · -- the other run takes `x` until it comes to the same feature
      have hfilter : (y :: paths).filter (· != x) = y :: paths.filter (· != x) := by simp [hy]
      obtain ⟨own, others, rfl, hown, -, hothers⟩ :=
        List.filter_eq_cons_iff.1 (same.trans hfilter)
      obtain ⟨k, hk, hs⟩ := features_append_eq_ok_iff.1 hs
      obtain ⟨k', hk', hs⟩ := features_cons_eq_ok_iff.1 hs
      have honly : ∀ z ∈ own, z = x := fun z hz => by simpa using hown z hz
      have hbefore := h.owns_right takes honly
        (fun z hz => leads z (List.mem_append_left _ hz)) hk
      have hstep := hbefore.step_other takes List.mem_cons_self hy hm hk'
      exact ih hstep takes.tail hothers (fun z hz => leads z (by simp [hz])) hrest hs

end

end Run

end Acceptance
