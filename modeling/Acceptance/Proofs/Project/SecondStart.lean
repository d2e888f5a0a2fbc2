import Acceptance.Proofs.Project.EditedStart
import Acceptance.Proofs.Project.Rewriting

/-!
# How a second run starts

A second run reads before its first feature what the first one read, as long as the outputs are
kept apart from it.  What has come to stand among the templates is no file that ends as templates
do, what has come among the step sources is a directory, which is passed over, and what has come
among the features is none.

    Filled job p.tree u → p.Separate c job.outputDir → p.Steady c u →
      p.prepare c write = .ok q → (p.withTree u).prepare c write = .ok q'
        with the same job, features and report                      (prepare_of_filled)
-/

namespace Acceptance

open Acceptance.Text

/-! ## Paths that resolve -/

namespace FileTree

/-- A path that leads somewhere, or would do so if nothing were missing on its way down: it never
goes up, and none of its parts is too long for a name. -/
def Resolves (t : FileTree) (p : Path) : Prop :=
  (∃ l, t.locate p = .ok l) ∨ ∀ part ∈ p.parts, part ≠ ".." ∧ part.utf8ByteSize ≤ longestName

/-- A path that leads, in another tree, to nothing that stands in this one. -/
def LeadsAside (t u : FileTree) (p : Path) : Prop :=
  u.locate p ≠ .error .nameTooLong ∧ ∀ l, u.locate p = .ok l → t.node? l = none

variable {t u : FileTree} {p : Path} {l m : Location} {parts : List String} {n : Node}

theorem prefix_foldl_onward (up : ∀ part ∈ parts, part ≠ "..") (l : Location) :
    l <+: parts.foldl Location.onward l := by
  induction parts generalizing l with
  | nil => exact List.prefix_refl l
  | cons part parts ih =>
    obtain ⟨hup, hrest⟩ := List.forall_mem_cons.1 up
    refine List.IsPrefix.trans ?_ (ih hrest _)
    rw [Location.onward, if_neg hup]
    split
    · exact List.prefix_refl l
    · exact List.prefix_append _ _

/-- A walk down to what stands in two trees is a walk of both. -/
theorem walk_back (h : u.walk l parts = .ok m) (up : ∀ part ∈ parts, part ≠ "..")
    (there : t.node? m = some n) (there' : u.node? m = some n) : t.walk l parts = .ok m := by
  induction parts generalizing l with
  | nil => exact h
  | cons part parts ih =>
    obtain ⟨hd, hw, hrest⟩ := walk_cons_eq_ok_iff.1 h
    refine walk_cons_eq_ok_iff.2 ⟨?_, hw, ih hrest (List.forall_mem_cons.1 up).2⟩
    obtain ⟨names, rfl⟩ : l <+: m := by
      rw [walk_place h]
      exact prefix_foldl_onward up l
    by_cases hnames : names = []
    · subst hnames
      rw [List.append_nil] at there there'
      rw [there, ← there', hd]
    · exact node?_above hnames there

theorem locate_back (here : u.here = t.here) (h : u.locate p = .ok l)
    (up : ∀ part ∈ p.parts, part ≠ "..") (there : t.node? l = some n)
    (there' : u.node? l = some n) : t.locate p = .ok l := by
  obtain ⟨hnull, hwalk⟩ := locate_eq_ok_iff.1 h
  rw [here] at hwalk
  exact locate_eq_ok_iff.2 ⟨hnull, walk_back hwalk up there there'⟩

theorem locate_ne_tooLong (short : ∀ part ∈ p.parts, part.utf8ByteSize ≤ longestName) :
    t.locate p ≠ .error .nameTooLong := by
  intro h
  unfold locate at h
  split at h
  · cases h
  · obtain ⟨names, part, rest, m, hparts, -, hstep⟩ := walk_eq_error h
    have hshort := short part (by simp [hparts])
    unfold step at hstep
    repeat' split at hstep
    all_goals first | omega | cases hstep

/-- Of a path that leads somewhere it can be asked what stands there. -/
theorem probe_of_locate (h : t.locate p = .ok l) : t.probe p = .ok (t.node? l) := by
  unfold probe look
  cases hn : t.node? l with
  | none => simp only [h, hn]
  | some n => simp only [h, hn]

end FileTree

/-! ## What has come to stand -/

namespace Run

variable {job : Job} {t u : FileTree} {f : GeneratedFile} {k here : Location} {n : Node}
  {b : ByteArray}

/-- An output stands below the output directory, and its name ends in `y` or `n`. -/
theorem outputPlaces_below (hf : f.Proper) (h : outputPlaces job f here k) :
    job.outputDir.place here <+: k ∧ ∃ name, k.getLast? = some name ∧
      (name.toList.getLast? = some 'y' ∨ name.toList.getLast? = some 'n') := by
  rcases h with rfl | rfl
  · rw [target_place job hf.placed, Plan.outputParts, ← List.append_assoc, List.getLast?_concat]
    exact ⟨by simp, _, rfl, .inl (outputName_getLast? _)⟩
  · rw [snapshot_place job hf.placed, List.getLast?_concat]
    exact ⟨by simp, _, rfl, .inr (snapshotName_getLast? f)⟩

/-- Besides outputs nothing but directories has come to stand. -/
theorem Filled.beside (h : Filled job t u)
    (hk : ∀ f : GeneratedFile, f.Proper → ¬ outputPlaces job f t.here k) :
    u.node? k = t.node? k ∨ t.node? k = none ∧ u.node? k = some .directory ∧
      (k ∈ job.outputDir.way t.here ∨ ¬ Dotted k) := by
  cases h.node k with
  | same node => exact .inl node
  | directory free made way => exact .inr ⟨free, made, way⟩
  | file free written output =>
    obtain ⟨f, hf, ho⟩ := output
    exact absurd ho (hk f hf)

/-- Besides outputs what stood stands. -/
theorem Filled.stays (h : Filled job t u)
    (hk : ∀ f : GeneratedFile, f.Proper → ¬ outputPlaces job f t.here k)
    (hn : t.node? k = some n) : u.node? k = some n := by
  rcases h.beside hk with he | ⟨hfree, -⟩
  · rw [he, hn]
  · rw [hn] at hfree
    cases hfree

/-- Besides outputs what is a file was one. -/
theorem Filled.file_back (h : Filled job t u)
    (hk : ∀ f : GeneratedFile, f.Proper → ¬ outputPlaces job f t.here k)
    (hb : u.node? k = some (.file b)) : t.node? k = some (.file b) := by
  rcases h.beside hk with he | ⟨-, hd, -⟩
  · rw [← he, hb]
  · rw [hd] at hb
    cases hb

theorem Filled.more (h : Filled job t u) (k : Location) (n : Node) (hn : t.node? k = some n) :
    ∃ n', u.node? k = some n' := by
  cases n with
  | directory => exact ⟨_, h.directory hn⟩
  | file b =>
    obtain ⟨b', hb'⟩ := h.file hn
    exact ⟨_, hb'⟩

/-- A search for files that are no outputs finds what it found. -/
theorem Filled.find_files {p : Path} {l : Location} {accepts : String → Bool}
    (h : Filled job t u) (place : t.locate p = .ok l)
    (beside : ∀ names, names ≠ [] → accepts (p.down names).name = true →
      ∀ f : GeneratedFile, f.Proper → ¬ outputPlaces job f t.here (l ++ names)) :
    (u.find p accepts).filter u.isFile = (t.find p accepts).filter t.isFile := by
  have place' := h.keeps.locate place
  rw [← FileTree.find_stood h.here place place' h.more, List.filter_filter]
  refine List.filter_congr ?_
  intro q hq
  obtain ⟨haccepts, l', names, n, hl', ne, hn, rfl⟩ := FileTree.mem_find_iff.1 hq
  obtain rfl := Except.ok.inj (place'.symm.trans hl')
  have legal : ∀ name ∈ names, isName name = true :=
    fun name hm => FileTree.names_of_node? hn name (List.mem_append_right l hm)
  have hbeside := beside names ne haccepts
  rw [Bool.eq_iff_iff, Bool.and_eq_true, FileTree.isFile_iff, FileTree.isFile_iff]
  simp only [FileTree.look_down_iff place legal, FileTree.look_down_iff place' legal]
  constructor
  · rintro ⟨k, b, rfl, hb⟩
    have hb' := h.file_back hbeside hb
    refine ⟨⟨_, b, rfl, hb'⟩, ?_⟩
    rw [FileTree.stood, FileTree.place_down_of_locate place legal, hb']
    rfl
  · rintro ⟨⟨k, b, rfl, hb⟩, -⟩
    exact ⟨_, b, rfl, h.stays hbeside hb⟩

end Run

namespace Project

/-- The outputs of a project are apart from its step sources and from the template that is named:
the output directory and a step source do not lie within each other, and the template does not lie
below the output directory. -/
structure Separate (p : Project) (c : Config) (directory : Path) : Prop where
  steps : ∀ dirs, Config.paths c.stepsDirs = .ok dirs → ∀ dir ∈ dirs,
    ¬ directory.place p.tree.here <+: (p.root.«to» dir).place p.tree.here ∧
      ¬ (p.root.«to» dir).place p.tree.here <+: directory.place p.tree.here
  template : c.template.truthy = true → ∀ path, p.pathOf c.template = .ok path →
    ¬ directory.place p.tree.here <+: path.place p.tree.here

/-- The directories that a run made lead to no other step sources and are no features: the paths of
the sources resolve, or they lead to nothing that was there, and no directory that has come to stand
among the features has the name of one. -/
structure Steady (p : Project) (c : Config) (u : FileTree) : Prop where
  steps : ∀ dirs, Config.paths c.stepsDirs = .ok dirs → ∀ dir ∈ dirs,
    p.tree.Resolves (p.root.«to» dir) ∨ p.tree.LeadsAside u (p.root.«to» dir)
  features : ∀ path, p.pathOf c.featuresDir = .ok path → ∀ k, path.place p.tree.here <+: k →
    Run.IsFeaturePlace k → p.tree.node? k = none → u.node? k ≠ some .directory

section
variable {p : Project} {c : Config} {job : Job} {u : FileTree} {q : Path} {k l : Location}
  (filled : Run.Filled job p.tree u)

/-! ## Templates -/

/-- What ends as templates do is no output. -/
theorem beside_of_templateEnding {names : List String} {here : Location} (ne : names ≠ [])
    (h : hasEnding templateEnding (q.down names).name = true) :
    ∀ f : GeneratedFile, f.Proper → ¬ Run.outputPlaces job f here (l ++ names) := by
  intro f hf ho
  obtain ⟨-, name, hname, hlast⟩ := Run.outputPlaces_below hf ho
  rw [List.getLast?_append, List.getLast?_eq_some_getLast ne] at hname
  obtain rfl := Option.some.inj hname
  rw [Path.name_down ne] at h
  rw [getLast?_of_hasEnding (by decide) h] at hlast
  revert hlast
  decide

/-- A template that may be used is no output. -/
theorem beside_of_templates {qs : List Path} (separate : p.Separate c job.outputDir)
    (h : p.templates c = .ok qs) (hq : q ∈ qs) (place : p.tree.locate q = .ok k) :
    ∀ f : GeneratedFile, f.Proper → ¬ Run.outputPlaces job f p.tree.here k := by
  unfold templates at h
  split at h
  · next hnamed =>
    split at h
    · cases h
    · next path hpath =>
      split at h
      · cases h
      · obtain rfl := Except.ok.inj h
        obtain rfl := List.mem_singleton.1 hq
        intro f hf ho
        have hbelow := (Run.outputPlaces_below hf ho).1
        rw [FileTree.locate_place place] at hbelow
        exact separate.template hnamed _ hpath hbelow
      · obtain rfl := Except.ok.inj h
        contradiction
  · split at h
    · cases h
    · next directory _ =>
      split at h
      · cases h
      · obtain rfl := Except.ok.inj h
        have hfind := (List.mem_filter.1 (List.mem_filter.1 hq).1).1
        obtain ⟨haccepts, l, names, n, hl, ne, hn, rfl⟩ := FileTree.mem_find_iff.1 hfind
        have hlook := (FileTree.look_down_iff hl fun name hm =>
          FileTree.names_of_node? hn name (List.mem_append_right l hm)).2 ⟨rfl, hn⟩
        obtain rfl := Except.ok.inj (place.symm.trans (FileTree.look_eq_ok_iff.1 hlook).1)
        exact beside_of_templateEnding ne haccepts

include filled in
theorem look_of_templates {qs : List Path} {b : ByteArray} (separate : p.Separate c job.outputDir)
    (h : p.templates c = .ok qs) (hq : q ∈ qs) (hl : p.tree.look q = .ok (k, .file b)) :
    u.look q = .ok (k, .file b) := by
  obtain ⟨hlocate, hb⟩ := FileTree.look_eq_ok_iff.1 hl
  exact FileTree.look_eq_ok_iff.2 ⟨filled.keeps.locate hlocate,
    filled.stays (beside_of_templates separate h hq hlocate) hb⟩

include filled in
/-- Where a path led before, it can be asked what stands there now. -/
theorem probe_of_filled (hl : p.tree.locate q = .ok l) :
    (p.withTree u).probe q = .ok (u.node? l) := by
  show (u.probe q).mapError ProjectError.file = _
  rw [FileTree.probe_of_locate (filled.keeps.locate hl)]
  rfl

include filled in
/-- The templates of a directory. -/
theorem listed_of_filled {directory : Path} (hl : p.tree.locate directory = .ok l) :
    (u.list directory (hasEnding templateEnding)).filter u.isFile =
      (p.tree.list directory (hasEnding templateEnding)).filter p.tree.isFile := by
  have hlist : ∀ v : FileTree, (v.list directory (hasEnding templateEnding)).filter v.isFile =
      ((v.find directory (hasEnding templateEnding)).filter v.isFile).filter
        fun q => q.parts.length == directory.parts.length + 1 := by
    intro v
    rw [FileTree.list, List.filter_filter, List.filter_filter]
    exact List.filter_congr fun q _ => Bool.and_comm _ _
  have hfiles := filled.find_files hl fun names ne haccepts =>
    beside_of_templateEnding ne haccepts
  rw [hlist, hlist, hfiles]

include filled in
/-- **Templates.**  Where there are templates, both runs have the same ones. -/
theorem templates_of_filled {used : Path} {others : List Path}
    (separate : p.Separate c job.outputDir) (h : p.templates c = .ok (used :: others)) :
    (p.withTree u).templates c = .ok (used :: others) := by
  obtain ⟨k, b, hlook⟩ := look_of_mem_templates h List.mem_cons_self
  have hlook' := look_of_templates filled separate h List.mem_cons_self hlook
  have hpath : ∀ v, (p.withTree u).pathOf v = p.pathOf v := fun _ => rfl
  unfold templates at h ⊢
  rw [hpath, hpath]
  split at h
  · next hnamed =>
    rw [if_pos hnamed]
    split at h
    · cases h
    · next path hp =>
      have hused : path = used := by
        split at h
        · cases h
        · exact (List.cons.inj (Except.ok.inj h)).1
        · cases h
      subst hused
      have hprobe : (p.withTree u).probe path = p.probe path := by
        show (u.probe path).mapError ProjectError.file = (p.tree.probe path).mapError _
        rw [FileTree.probe, FileTree.probe, hlook, hlook']
      simp only [hprobe]
      exact h
  · next hnamed =>
    rw [if_neg hnamed]
    split at h
    · cases h
    · next directory hp =>
      split at h
      · cases h
      · have hused : used ∈ (p.tree.list directory (hasEnding templateEnding)).filter
            p.tree.isFile := by
          rw [Except.ok.inj h]
          exact List.mem_cons_self
        obtain ⟨-, l, -, -, hl, -⟩ :=
          FileTree.mem_find_iff.1 (List.mem_filter.1 (List.mem_filter.1 hused).1).1
        simp only [probe_of_filled filled hl]
        rw [← h, withTree, listed_of_filled filled hl]

/-! ## Step sources -/

/-- What a search for step sources comes upon in a second run: what stood reads as before, and what
has come is a directory. -/
def Seen (t u : FileTree) (s : Path) : Prop :=
  (t.stood s = true → u.readText s = t.readText s) ∧
    (t.stood s = false → ∃ k, u.look s = .ok (k, .directory))

end

section
variable {job : Job} {t u : FileTree} {q : Path} {k l : Location} {names : List String}
  (filled : Run.Filled job t u)
  (apart : ¬ job.outputDir.place t.here <+: q.place t.here ∧
    ¬ q.place t.here <+: job.outputDir.place t.here)

include apart in
/-- No output stands at a step source or below it. -/
theorem beside_of_apart (h : q.place t.here <+: k) :
    ∀ f : GeneratedFile, f.Proper → ¬ Run.outputPlaces job f t.here k := by
  intro f hf ho
  have hbelow := (Run.outputPlaces_below hf ho).1
  rcases List.prefix_or_prefix_of_prefix hbelow h with hp | hp
  · exact apart.1 hp
  · exact apart.2 hp

include filled apart in
/-- Where a step source leads in a second run, it led before, or there was nothing. -/
theorem locate_or_missing (resolves : t.Resolves q ∨ t.LeadsAside u q) (hl : u.locate q = .ok l) :
    t.locate q = .ok l ∨ t.node? l = none := by
  cases hn : t.node? l with
  | none => exact .inr rfl
  | some n =>
    left
    rcases resolves with (⟨k, hk⟩ | hshort) | ⟨-, haside⟩
    · rw [← Except.ok.inj ((filled.keeps.locate hk).symm.trans hl), hk]
    · have hplace : q.place t.here <+: l := by
        rw [FileTree.locate_place hl, filled.here]
      have hn' := filled.stays (beside_of_apart apart hplace) hn
      exact FileTree.locate_back filled.here hl (fun part hp => (hshort part hp).1) hn hn'
    · rw [haside l hl] at hn
      cases hn

include filled apart in
/-- What stands below a step source in a second run. -/
theorem seen_below (hl : u.locate q = .ok l) (before : t.locate q = .ok l ∨ t.node? l = none)
    {n : Node} (hn : u.node? (l ++ names) = some n) : Seen t u (q.down names) := by
  have hplace : l = q.place t.here := by rw [FileTree.locate_place hl, filled.here]
  have hbeside := beside_of_apart (k := l ++ names) apart (by simp [hplace])
  have legal : ∀ name ∈ names, isName name = true :=
    fun name hm => FileTree.names_of_node? hn name (List.mem_append_right l hm)
  have hlook := (FileTree.look_down_iff hl legal).2 ⟨rfl, hn⟩
  rw [Seen, FileTree.stood, ← filled.here, FileTree.place_down_of_locate hl legal]
  constructor
  · intro hsome
    obtain ⟨m, hm⟩ := Option.isSome_iff_exists.1 hsome
    obtain rfl : n = m := Option.some.inj (hn.symm.trans (filled.stays hbeside hm))
    have hlocate : t.locate q = .ok l := by
      refine before.resolve_right fun hnone => ?_
      by_cases hnames : names = []
      · rw [hnames, List.append_nil, hnone] at hm
        cases hm
      · rw [FileTree.node?_above hnames hm] at hnone
        cases hnone
    have hlook' := (FileTree.look_down_iff hlocate legal).2 ⟨rfl, hm⟩
    exact FileTree.readText_congr (hlook.trans hlook'.symm)
  · intro hnone
    rw [Option.isSome_eq_false_iff, Option.isNone_iff_eq_none] at hnone
    rcases filled.beside hbeside with he | ⟨-, hd, -⟩
    · rw [he, hnone] at hn
      cases hn
    · exact ⟨_, (FileTree.look_down_iff hl legal).2 ⟨rfl, hd⟩⟩

include filled apart in
theorem seen_of_find {s : Path} {accepts : String → Bool} (hl : u.locate q = .ok l)
    (before : t.locate q = .ok l ∨ t.node? l = none) (hs : s ∈ u.find q accepts) : Seen t u s := by
  obtain ⟨-, l', names, n, hl', -, hn, rfl⟩ := FileTree.mem_find_iff.1 hs
  obtain rfl := Except.ok.inj (hl.symm.trans hl')
  exact seen_below filled apart hl before hn

/-- A path that leads to nothing stands for no sources. -/
theorem sourcesAt_of_error {f : FileFault} (h : t.look q = .error f) (short : f ≠ .nameTooLong) :
    sourcesAt t q = .ok none := by
  unfold sourcesAt FileTree.probe
  rw [h]
  cases f with
  | nameTooLong => exact absurd rfl short
  | _ => rfl

theorem sourcesAt_of_directory (h : t.look q = .ok (l, .directory)) :
    sourcesAt t q = .ok (some (t.find q (hasEnding sourceEnding))) := by
  unfold sourcesAt FileTree.probe
  simp only [h]

theorem sourcesAt_of_file {b : ByteArray} (h : t.look q = .ok (l, .file b)) :
    sourcesAt t q = .ok (if q.suffix = sourceEnding then some [q] else none) := by
  unfold sourcesAt FileTree.probe
  simp only [h]

include filled in
/-- What is found at a place where nothing was did not stand before. -/
theorem find_of_missing (hl : u.locate q = .ok l) (hnone : t.node? l = none)
    (accepts : String → Bool) : (u.find q accepts).filter t.stood = [] := by
  refine List.filter_eq_nil_iff.2 ?_
  intro s hs hstood
  obtain ⟨-, l', names, m, hl', ne, hm, rfl⟩ := FileTree.mem_find_iff.1 hs
  obtain rfl := Except.ok.inj (hl.symm.trans hl')
  have hbelow := FileTree.place_down_of_locate hl fun name hname =>
    FileTree.names_of_node? hm name (List.mem_append_right l hname)
  rw [FileTree.stood, ← filled.here, hbelow, Option.isSome_iff_exists] at hstood
  obtain ⟨m', hm'⟩ := hstood
  rw [FileTree.node?_above ne hm'] at hnone
  cases hnone

include filled in
/-- A second run is not stopped by the name of a step source. -/
theorem look_ne_tooLong (resolves : t.Resolves q ∨ t.LeadsAside u q) :
    u.look q ≠ .error .nameTooLong := by
  intro hlook
  have hlocate : u.locate q = .error .nameTooLong := by
    unfold FileTree.look at hlook
    split at hlook
    · next hf => rw [hf, Except.error.inj hlook]
    · split at hlook <;> cases hlook
  rcases resolves with (⟨k, hk⟩ | hno) | ⟨hno, -⟩
  · rw [filled.keeps.locate hk] at hlocate
    cases hlocate
  · exact FileTree.locate_ne_tooLong (fun part hp => (hno part hp).2) hlocate
  · exact hno hlocate

include filled apart in
/-- A path that leads to nothing stands for nothing but new directories in a second run. -/
theorem sourcesAt_of_missing (resolves : t.Resolves q ∨ t.LeadsAside u q) {f : FileFault}
    (h : t.look q = .error f) :
    ∃ found', sourcesAt u q = .ok found' ∧ (found'.getD []).filter t.stood = [] ∧
      ∀ s ∈ found'.getD [], Seen t u s := by
  cases hlook : u.look q with
  | error f' =>
    have hshort : f' ≠ .nameTooLong := by
      rintro rfl
      exact look_ne_tooLong filled resolves hlook
    exact ⟨none, sourcesAt_of_error hlook hshort, rfl, by simp⟩
  | ok found =>
    obtain ⟨l, n⟩ := found
    obtain ⟨hl, hn⟩ := FileTree.look_eq_ok_iff.1 hlook
    have hbefore := locate_or_missing filled apart resolves hl
    have hnone : t.node? l = none := by
      rcases hbefore with hl' | hnone
      · cases hn' : t.node? l with
        | none => rfl
        | some n' =>
          rw [FileTree.look_eq_ok_iff.2 ⟨hl', hn'⟩] at h
          cases h
      · exact hnone
    have hplace : l = q.place t.here := by rw [FileTree.locate_place hl, filled.here]
    rcases filled.beside (beside_of_apart (k := l) apart (by simp [hplace])) with he | ⟨-, hd, -⟩
    · rw [he, hnone] at hn
      cases hn
    · refine ⟨_, sourcesAt_of_directory (FileTree.look_eq_ok_iff.2 ⟨hl, hd⟩), ?_, ?_⟩
      · exact find_of_missing filled hl hnone _
      · exact fun s hs => seen_of_find filled apart hl hbefore hs

include filled apart in
/-- **The sources of a path.**  In a second run they are what they were, besides what has come,
which is passed over. -/
theorem sourcesAt_of_filled (resolves : t.Resolves q ∨ t.LeadsAside u q)
    {found : Option (List Path)}
    (h : sourcesAt t q = .ok found) :
    ∃ found', sourcesAt u q = .ok found' ∧ (found'.getD []).filter t.stood = found.getD [] ∧
      ∀ s ∈ found'.getD [], Seen t u s := by
  cases hlook : t.look q with
  | error f =>
    have hshort : f ≠ .nameTooLong := by
      rintro rfl
      unfold sourcesAt FileTree.probe at h
      rw [hlook] at h
      cases h
    rw [sourcesAt_of_error hlook hshort] at h
    obtain rfl := Except.ok.inj h
    exact sourcesAt_of_missing filled apart resolves hlook
  | ok there =>
    obtain ⟨l, n⟩ := there
    obtain ⟨hl, hn⟩ := FileTree.look_eq_ok_iff.1 hlook
    have hl' := filled.keeps.locate hl
    have hplace : l = q.place t.here := FileTree.locate_place hl
    have hn' := filled.stays (beside_of_apart apart (by rw [hplace])) hn
    have hlook' := FileTree.look_eq_ok_iff.2 ⟨hl', hn'⟩
    cases n with
    | directory =>
      rw [sourcesAt_of_directory hlook] at h
      obtain rfl := Except.ok.inj h
      refine ⟨_, sourcesAt_of_directory hlook', ?_, ?_⟩
      · exact FileTree.find_stood filled.here hl hl' filled.more
      · exact fun s hs => seen_of_find filled apart hl' (.inl hl) hs
    | file b =>
      rw [sourcesAt_of_file hlook] at h
      obtain rfl := Except.ok.inj h
      refine ⟨_, sourcesAt_of_file hlook', ?_, ?_⟩
      · have hstood : t.stood q = true := by
          rw [FileTree.stood, ← hplace, hn]
          rfl
        split <;> simp [hstood]
      · have hseen : Seen t u (q.down []) :=
          seen_below filled apart hl' (.inl hl) (by rwa [List.append_nil])
        have hself : q.down [] = q := by
          rw [Path.down, List.append_nil]
        rw [hself] at hseen
        split <;> simp [hseen]

end

section
variable {p : Project} {c : Config} {job : Job} {t u : FileTree} {root : Path} {paths : List Path}

theorem findSources_of_filled (filled : Run.Filled job t u)
    (apart : ∀ q ∈ paths, ¬ job.outputDir.place t.here <+: q.place t.here ∧
      ¬ q.place t.here <+: job.outputDir.place t.here)
    (resolves : ∀ q ∈ paths, t.Resolves q ∨ t.LeadsAside u q) {sources : List Path}
    (h : (findSources t paths).result = .ok sources) :
    ∃ sources', (findSources u paths).result = .ok sources' ∧
      sources'.filter t.stood = sources ∧ ∀ s ∈ sources', Seen t u s := by
  induction paths generalizing sources with
  | nil =>
    obtain rfl := Except.ok.inj h
    exact ⟨[], rfl, rfl, by simp⟩
  | cons q paths ih =>
    obtain ⟨hq, hrest⟩ := List.forall_mem_cons.1 apart
    obtain ⟨hresolves, hothers⟩ := List.forall_mem_cons.1 resolves
    rw [findSources] at h
    cases hfound : sourcesAt t q with
    | error e =>
      rw [hfound] at h
      cases h
    | ok found =>
      simp only [hfound] at h
      cases hresult : (findSources t paths).result with
      | error e =>
        rw [hresult] at h
        cases h
      | ok others =>
        rw [hresult] at h
        obtain rfl := Except.ok.inj h
        obtain ⟨found', hfound', hfilter, hseen⟩ := sourcesAt_of_filled filled hq hresolves hfound
        obtain ⟨others', hothers', hfilter', hseen'⟩ := ih hrest hothers hresult
        refine ⟨found'.getD [] ++ others', ?_, ?_, ?_⟩
        · rw [findSources]
          simp only [hfound', hothers']
          rfl
        · rw [List.filter_append, hfilter, hfilter']
        · intro s hs
          exact (List.mem_append.1 hs).elim (hseen s) (hseen' s)

/-- A source that is a directory is passed over. -/
theorem readSource_of_directory {s : Path} {k : Location} (h : u.look s = .ok (k, .directory)) :
    (readSource u root s).result = .ok [] := by
  have hread : u.readText s = .error (.file ⟨.isDirectory, s.text⟩) := by
    rw [FileTree.readText, FileTree.readBytes, h]
  rw [readSource, hread]

theorem result_readSources_cons (t : FileTree) (root s : Path) (sources : List Path) :
    (readSources t root (s :: sources)).result =
      match (readSource t root s).result with
      | .error e => .error e
      | .ok ds => (readSources t root sources).result.map fun c => ds ++ c := by
  rw [readSources]
  obtain ⟨log, result⟩ := readSource t root s
  cases result <;> rfl

/-- Sources read as those that stood among them did. -/
theorem readSources_of_seen (here : u.here = t.here) {sources : List Path}
    (h : ∀ s ∈ sources, Seen t u s) :
    (readSources u root sources).result = (readSources t root (sources.filter t.stood)).result := by
  induction sources with
  | nil => rfl
  | cons s sources ih =>
    obtain ⟨⟨hsame, hnew⟩, hothers⟩ := List.forall_mem_cons.1 h
    rw [result_readSources_cons]
    cases hs : t.stood s with
    | true =>
      have hread : readSource u root s = readSource t root s := by
        rw [readSource, readSource, hsame hs, here]
      rw [List.filter_cons_of_pos hs, result_readSources_cons, hread, ih hothers]
    | false =>
      obtain ⟨k, hk⟩ := hnew hs
      rw [List.filter_cons_of_neg (by simp [hs]), readSource_of_directory hk, ih hothers]
      cases (readSources t root (sources.filter t.stood)).result <;> rfl

theorem result_buildCatalog_eq_ok_iff {catalog : Catalog} :
    (buildCatalog t paths root).result = .ok catalog ↔ ∃ sources,
      (findSources t paths).result = .ok sources ∧
        (readSources t root sources).result = .ok catalog := by
  unfold buildCatalog
  cases findSources t paths with
  | mk log result =>
    cases result with
    | error e => simp
    | ok sources => simp

theorem result_loadCatalog_eq_ok_iff {catalog : Catalog} :
    (p.loadCatalog c).result = .ok catalog ↔ ∃ dirs root sources,
      Config.paths c.stepsDirs = .ok dirs ∧ p.pathOf c.sourceRoot = .ok root ∧
        (findSources p.tree (dirs.map p.root.«to»)).result = .ok sources ∧
          (readSources p.tree root sources).result = .ok catalog := by
  unfold loadCatalog
  cases Config.paths c.stepsDirs with
  | error e => simp
  | ok dirs =>
    cases p.pathOf c.sourceRoot with
    | error e => simp
    | ok root =>
      have hbuild := @result_buildCatalog_eq_ok_iff p.tree root (dirs.map p.root.«to») catalog
      simp only [Except.ok.injEq, exists_and_left, exists_eq_left']
      rw [← hbuild]
      cases buildCatalog p.tree (dirs.map p.root.«to») root with
      | mk log result =>
        cases result with
        | error e => simp
        | ok ds => simp

/-- **The step catalog** of a second run. -/
theorem loadCatalog_of_filled {catalog : Catalog} (filled : Run.Filled job p.tree u)
    (separate : p.Separate c job.outputDir) (steady : p.Steady c u)
    (h : (p.loadCatalog c).result = .ok catalog) :
    ((p.withTree u).loadCatalog c).result = .ok catalog := by
  obtain ⟨dirs, root, sources, hdirs, hroot, hfind, hread⟩ := result_loadCatalog_eq_ok_iff.1 h
  have hapart : ∀ q ∈ dirs.map p.root.«to», ¬ job.outputDir.place p.tree.here <+:
      q.place p.tree.here ∧ ¬ q.place p.tree.here <+: job.outputDir.place p.tree.here := by
    intro q hq
    obtain ⟨dir, hdir, rfl⟩ := List.mem_map.1 hq
    exact separate.steps dirs hdirs dir hdir
  have hresolves : ∀ q ∈ dirs.map p.root.«to», p.tree.Resolves q ∨ p.tree.LeadsAside u q := by
    intro q hq
    obtain ⟨dir, hdir, rfl⟩ := List.mem_map.1 hq
    exact steady.steps dirs hdirs dir hdir
  obtain ⟨sources', hfind', rfl, hseen⟩ := findSources_of_filled filled hapart hresolves hfind
  refine result_loadCatalog_eq_ok_iff.2 ⟨dirs, root, sources', hdirs, hroot, hfind', ?_⟩
  show (readSources u root sources').result = _
  rw [readSources_of_seen filled.here hseen, hread]

/-! ## Features -/

/-- No feature has come among those of a directory. -/
theorem find_features_of_filled (filled : Run.Filled job p.tree u)
    (hl : p.tree.locate q = .ok l)
    (unmade : ∀ k, q.place p.tree.here <+: k → Run.IsFeaturePlace k → p.tree.node? k = none →
      u.node? k ≠ some .directory) :
    u.find q (hasEnding featureEnding) = p.tree.find q (hasEnding featureEnding) := by
  have hl' := filled.keeps.locate hl
  rw [← FileTree.find_stood filled.here hl hl' filled.more]
  refine (List.filter_eq_self.2 ?_).symm
  intro s hs
  obtain ⟨haccepts, l', names, n, hk, ne, hn, rfl⟩ := FileTree.mem_find_iff.1 hs
  obtain rfl := Except.ok.inj (hl'.symm.trans hk)
  have hplace := FileTree.place_down_of_locate hl' fun name hm =>
    FileTree.names_of_node? hn name (List.mem_append_right l hm)
  rw [FileTree.stood, ← filled.here, hplace]
  rw [Path.name_down ne] at haccepts
  have hfeature : Run.IsFeaturePlace (l ++ names) := by
    refine ⟨l ++ names.dropLast, names.getLast ne, ?_, haccepts⟩
    rw [List.append_assoc, List.dropLast_concat_getLast ne]
  -- a feature that has come would be a directory
  cases filled.node (l ++ names) with
  | same node => rw [← node, hn]; rfl
  | directory free made =>
    have hbelow : q.place p.tree.here <+: l ++ names := by
      rw [← FileTree.locate_place hl]
      exact List.prefix_append _ _
    exact absurd made (unmade _ hbelow hfeature free)
  | file free written output =>
    obtain ⟨f, hf, ho⟩ := output
    exact absurd hfeature (Run.not_isFeaturePlace_of_outputPlaces hf ho)

/-- **The features** of a second run. -/
theorem features_of_filled (filled : Run.Filled job p.tree u) (steady : p.Steady c u)
    (h : p.features c = .ok paths) (some : paths ≠ []) : (p.withTree u).features c = .ok paths := by
  have hpath : (p.withTree u).pathOf c.featuresDir = p.pathOf c.featuresDir := rfl
  unfold Project.features at h ⊢
  rw [hpath]
  cases hd : p.pathOf c.featuresDir with
  | error e =>
    rw [hd] at h
    cases h
  | ok directory =>
    simp only [hd] at h ⊢
    split at h
    · cases h
    · obtain rfl := Except.ok.inj h
      obtain ⟨q, hq⟩ := List.exists_mem_of_ne_nil _ some
      obtain ⟨-, l, -, -, hl, -⟩ := FileTree.mem_find_iff.1 hq
      simp only [probe_of_filled filled hl]
      exact congrArg Except.ok (find_features_of_filled filled hl (steady.features directory hd))

/-! ## Before the first feature -/

/-- **A second run starts as the first one did**, where that had a feature to take. -/
theorem prepare_of_filled {write : Bool} {q : Prepared} (hq : p.prepare c write = .ok q)
    (filled : Run.Filled q.job p.tree u) (separate : p.Separate c q.job.outputDir)
    (steady : p.Steady c u) (some : q.paths ≠ []) :
    ∃ q', (p.withTree u).prepare c write = .ok q' ∧ q'.job = q.job ∧ q'.paths = q.paths ∧
      q'.start.report = q.start.report := by
  have hpath : (p.withTree u).pathOf c.outputDir = p.pathOf c.outputDir := rfl
  unfold prepare at hq ⊢
  simp only [hpath] at hq ⊢
  split at hq
  · cases hq
  · cases hq
  · next used others ht =>
    split at hq
    · cases hq
    · next template hr =>
      split at hq
      · cases hq
      · cases hq
      · cases hq
      · next catalog outputDir paths hc ho hf =>
        obtain rfl := Except.ok.inj hq
        have hc' := loadCatalog_of_filled filled separate steady hc
        have hf' := features_of_filled filled steady hf some
        have ht' := templates_of_filled filled separate ht
        have hr' : (p.withTree u).readText used = .ok template := by
          obtain ⟨k, b, hlook⟩ := look_of_mem_templates ht List.mem_cons_self
          have hlook' := look_of_templates filled separate ht List.mem_cons_self hlook
          rw [← hr]
          simp only [readText, withTree, FileTree.readText_congr (hlook'.trans hlook.symm)]
        simp only [ht', hr', hc', ho, hf']
        exact ⟨_, rfl, rfl, rfl, rfl⟩

end

end Project

end Acceptance
