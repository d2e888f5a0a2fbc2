import Acceptance.Proofs.Files.Difference
import Acceptance.Proofs.Files.Making
import Acceptance.Proofs.Project.Start

/-!
# How a run of an edited project starts

Everything that a run reads before its first feature stays where a feature file is changed or taken
away: such a file is neither a template, unless it is the one to use, nor a source of steps.

    (p.withTree t').loadCatalog c = p.loadCatalog c                 (loadCatalog_of_differs)
    (p.withTree t').templates c = p.templates c                     (templates_of_differs)
    both runs take the same features besides the edited one, or both end before their first
                                                                    (prepare_of_differs)
-/

namespace Acceptance

open Acceptance.Text

/-! ## What is no feature file -/

/-- The name of a path that leads to a file is the name of the file. -/
theorem FileTree.name_of_file {t : FileTree} {q : Path} {l : Location} {b : ByteArray}
    (h : t.look q = .ok (l, .file b)) : q.name = "" ∨ l.getLast? = some q.name := by
  obtain ⟨hlocate, hfile⟩ := look_eq_ok_iff.1 h
  obtain ⟨slashes, parts⟩ := q
  rcases List.eq_nil_or_concat' parts with rfl | ⟨parts, part, rfl⟩
  · exact .inl rfl
  · right
    have hname : (⟨slashes, parts ++ [part]⟩ : Path).name = part := by simp [Path.name]
    rw [hname]
    have hchild : t.locate (Path.child ⟨slashes, parts⟩ part) = .ok l := hlocate
    obtain ⟨hwalkable, hway, rfl⟩ := locate_child_eq_ok_iff.1 hchild
    have hdirectory := hway _ Path.place_mem_way
    rw [Path.place_child] at hfile ⊢
    -- neither the directory nor the one above it is a file
    rcases hwalkable part (by simp [Path.child]) with rfl | rfl | rfl | hpart
    · rw [Location.onward, if_pos (.inl rfl), hdirectory] at hfile
      cases hfile
    · rw [Location.onward, if_pos (.inr rfl), hdirectory] at hfile
      cases hfile
    · rw [Location.onward, if_neg (by decide), if_pos rfl, node?_dropLast hdirectory] at hfile
      cases hfile
    · rw [Location.onward_name hpart, List.getLast?_concat]

theorem Path.hasEnding_of_suffix {q : Path} {ending : String} (h : q.suffix = ending) :
    hasEnding ending q.name = true := by
  rw [← h, hasEnding, suffix, String.toList_ofList]
  unfold splitName
  simp only
  split
  · simp
  · exact List.isSuffixOf_iff_suffix.2 (List.drop_suffix _ _)

theorem Run.IsFeaturePlace.getLast? {l : Location} {name : String} (h : IsFeaturePlace l)
    (hl : l.getLast? = some name) : name.toList.getLast? = some 'e' := by
  obtain ⟨k, other, rfl, hending⟩ := h
  rw [List.getLast?_concat] at hl
  rw [← Option.some.inj hl, getLast?_of_hasEnding (by decide) hending]
  decide

/-- The name of a feature file has no other ending. -/
theorem Run.IsFeaturePlace.rejects {l : Location} {ending name : String} {e : Char}
    (h : IsFeaturePlace l) (hl : l.getLast? = some name) (ends : ending.toList.getLast? = some e)
    (other : e ≠ 'e') : hasEnding ending name = false := by
  cases hend : hasEnding ending name with
  | false => rfl
  | true =>
    have hne : ending.toList ≠ [] := by
      intro he
      rw [he] at ends
      cases ends
    have hlast := getLast?_of_hasEnding hne hend
    rw [h.getLast? hl, ends] at hlast
    exact absurd (Option.some.inj hlast).symm other

namespace Project

section
variable {p : Project} {c : Config} {t' : FileTree} {l : Location} {old : ByteArray} {x : Path}
  (differs : FileTree.DiffersAt l p.tree t') (there : p.tree.node? l = some (.file old))
  (feature : Run.IsFeaturePlace l)

include there feature in
/-- A path with another ending does not lead to the feature file. -/
theorem ne_of_hasEnding {q : Path} {k : Location} {ending : String} {e : Char}
    (h : p.tree.locate q = .ok k) (hending : hasEnding ending q.name = true)
    (ends : ending.toList.getLast? = some e) (other : e ≠ 'e') : k ≠ l := by
  rintro rfl
  rcases FileTree.name_of_file (FileTree.look_eq_ok_iff.2 ⟨h, there⟩) with hname | hname
  · have hnil : ending.toList = [] := by
      rw [hname] at hending
      exact List.suffix_nil.1 (List.isSuffixOf_iff_suffix.1 hending)
    rw [hnil] at ends
    cases ends
  · rw [feature.rejects hname ends other] at hending
    cases hending

/-! ## Sources of steps -/

include differs there feature in
theorem sourcesAt_of_differs (q : Path) : sourcesAt t' q = sourcesAt p.tree q := by
  by_cases hq : p.tree.locate q = .ok l
  · -- the feature file is no source, and nothing is none either
    have hsuffix : q.suffix ≠ sourceEnding := by
      intro hsuffix
      exact ne_of_hasEnding there feature hq (Path.hasEnding_of_suffix hsuffix) (e := 'y')
        (by decide) (by decide) rfl
    have hnone : ∀ {t : FileTree}, t.locate q = .ok l → t.node? l ≠ some .directory →
        sourcesAt t q = .ok none := by
      intro t ht hd
      unfold sourcesAt FileTree.probe FileTree.look
      cases hn : t.node? l with
      | none => simp only [ht, hn]
      | some n =>
        cases n with
        | directory => exact absurd hn hd
        | file b => simp only [ht, hn, if_neg hsuffix]
    rw [hnone (differs.locate_eq_ok_iff.2 hq) differs.behind, hnone hq differs.before]
  · have hfind : t'.find q (hasEnding sourceEnding) = p.tree.find q (hasEnding sourceEnding) := by
      refine differs.find ?_
      exact fun name hname => feature.rejects hname (e := 'y') (by decide) (by decide)
    rw [sourcesAt, sourcesAt, differs.probe hq, hfind]

/-- What is found leads to something, though not to the feature file. -/
theorem look_of_mem_sourcesAt {t : FileTree} {q s : Path} {sources : List Path}
    (h : sourcesAt t q = .ok (some sources)) (hs : s ∈ sources) :
    ∃ k n, t.look s = .ok (k, n) ∧ hasEnding sourceEnding s.name = true := by
  unfold sourcesAt at h
  split at h
  · cases h
  · obtain rfl := Option.some.inj (Except.ok.inj h)
    obtain ⟨names, hfinds⟩ := FileTree.finds_of_mem hs
    obtain ⟨n, hlook⟩ := hfinds.there
    refine ⟨_, n, hlook, ?_⟩
    rw [hfinds.path, Path.name_down hfinds.ne]
    exact hfinds.accepted
  · next b hprobe =>
    split at h
    · next hsuffix =>
      obtain rfl := Option.some.inj (Except.ok.inj h)
      obtain rfl := List.mem_singleton.1 hs
      unfold FileTree.probe at hprobe
      split at hprobe
      · next k n hlook => exact ⟨k, n, hlook, Path.hasEnding_of_suffix hsuffix⟩
      · cases hprobe
      · cases hprobe
    · cases h
  · cases h

include differs there feature in
theorem findSources_of_differs (paths : List Path) :
    findSources t' paths = findSources p.tree paths := by
  induction paths with
  | nil => rfl
  | cons q paths ih =>
    rw [findSources, findSources, sourcesAt_of_differs differs there feature, ih]

theorem look_of_mem_findSources {t : FileTree} {paths sources : List Path} {s : Path}
    (h : (findSources t paths).result = .ok sources) (hs : s ∈ sources) :
    ∃ k n, t.look s = .ok (k, n) ∧ hasEnding sourceEnding s.name = true := by
  induction paths generalizing sources with
  | nil =>
    obtain rfl := Except.ok.inj h
    contradiction
  | cons q paths ih =>
    rw [findSources] at h
    split at h
    · cases h
    · next found hfound =>
      simp only at h
      cases hrest : (findSources t paths).result with
      | error e =>
        rw [hrest] at h
        cases h
      | ok others =>
        rw [hrest] at h
        obtain rfl := Except.ok.inj h
        rcases List.mem_append.1 hs with hs | hs
        · cases found with
          | none => contradiction
          | some found => exact look_of_mem_sourcesAt hfound hs
        · exact ih hrest hs

include differs there feature in
theorem readSources_of_differs {root : Path} {sources : List Path}
    (found : ∀ s ∈ sources, ∃ k n, p.tree.look s = .ok (k, n) ∧
      hasEnding sourceEnding s.name = true) :
    readSources t' root sources = readSources p.tree root sources := by
  induction sources with
  | nil => rfl
  | cons s sources ih =>
    obtain ⟨⟨k, n, hlook, hending⟩, hothers⟩ := List.forall_mem_cons.1 found
    have hne := ne_of_hasEnding there feature (FileTree.look_eq_ok_iff.1 hlook).1 hending
      (e := 'y') (by decide) (by decide)
    have hread : readSource t' root s = readSource p.tree root s := by
      rw [readSource, readSource, differs.readText hlook hne, differs.here]
    rw [readSources, readSources, hread, ih hothers]

include differs there feature in
/-- The step catalog does not depend on a feature file. -/
theorem loadCatalog_of_differs (c : Config) :
    (p.withTree t').loadCatalog c = p.loadCatalog c := by
  have hbuild : ∀ paths root, buildCatalog t' paths root = buildCatalog p.tree paths root := by
    intro paths root
    rw [buildCatalog, buildCatalog, findSources_of_differs differs there feature]
    split
    · rfl
    · next log sources hfound =>
      have hresult : (findSources p.tree paths).result = .ok sources := by rw [hfound]
      rw [readSources_of_differs differs there feature fun s hs =>
        look_of_mem_findSources hresult hs]
  have hpath : (p.withTree t').pathOf c.sourceRoot = p.pathOf c.sourceRoot := rfl
  rw [loadCatalog, loadCatalog, hpath]
  cases Config.paths c.stepsDirs with
  | error e => rfl
  | ok dirs =>
    cases p.pathOf c.sourceRoot with
    | error e => rfl
    | ok root => simp only [withTree, hbuild]

/-! ## Templates -/

/-- A template that may be used is a file. -/
theorem look_of_mem_templates {q : Path} {qs : List Path} (h : p.templates c = .ok qs)
    (hq : q ∈ qs) : ∃ k b, p.tree.look q = .ok (k, .file b) := by
  unfold templates at h
  split at h
  · split at h
    · cases h
    · next path _ =>
      split at h
      · cases h
      · next b hprobe =>
        obtain rfl := Except.ok.inj h
        obtain rfl := List.mem_singleton.1 hq
        unfold Project.probe FileTree.probe at hprobe
        cases hlook : p.tree.look q with
        | ok found =>
          obtain ⟨k, n⟩ := found
          rw [hlook] at hprobe
          obtain rfl := Option.some.inj (Except.ok.inj hprobe)
          exact ⟨k, b, rfl⟩
        | error f => cases f <;> simp [hlook, Except.mapError] at hprobe
      · obtain rfl := Except.ok.inj h
        contradiction
  · split at h
    · cases h
    · split at h
      · cases h
      · obtain rfl := Except.ok.inj h
        exact FileTree.isFile_iff.1 (List.mem_filter.1 hq).2

include differs in
theorem probe_of_differs {q : Path} (hq : p.tree.locate q ≠ .ok l) :
    (p.withTree t').probe q = p.probe q := by
  show (t'.probe q).mapError ProjectError.file = (p.tree.probe q).mapError ProjectError.file
  rw [differs.probe hq]

include differs in
/-- Asking for a path fails in both projects, and for the same reason, or in neither. -/
theorem probe_cases_of_differs (q : Path) :
    (∃ e, (p.withTree t').probe q = .error e ∧ p.probe q = .error e) ∨
      ∃ n n', (p.withTree t').probe q = .ok n' ∧ p.probe q = .ok n := by
  show (∃ e, (t'.probe q).mapError ProjectError.file = .error e ∧
      (p.tree.probe q).mapError ProjectError.file = .error e) ∨
    ∃ n n', (t'.probe q).mapError ProjectError.file = .ok n' ∧
      (p.tree.probe q).mapError ProjectError.file = .ok n
  cases hq : p.tree.probe q with
  | error e =>
    rw [differs.probe_eq_error_iff.2 hq]
    exact .inl ⟨_, rfl, rfl⟩
  | ok n =>
    cases hq' : t'.probe q with
    | error e =>
      rw [differs.probe_eq_error_iff.1 hq'] at hq
      cases hq
    | ok n' => exact .inr ⟨n, n', rfl, rfl⟩

include differs there feature in
/-- The templates do not depend on a feature file that is not the template to use. -/
theorem templates_of_differs
    (apart : ∀ used, p.findTemplate c = .ok used → p.tree.locate used ≠ .ok l) :
    (p.withTree t').templates c = p.templates c := by
  have hpath : ∀ v, (p.withTree t').pathOf v = p.pathOf v := fun _ => rfl
  by_cases hnamed : c.template.truthy = true
  · rw [templates, templates, if_pos hnamed, if_pos hnamed, hpath]
    cases hp : p.pathOf c.template with
    | error e => rfl
    | ok path =>
      have hne : p.tree.locate path ≠ .ok l := by
        intro hl
        refine apart path (findTemplate_eq_ok_iff.2 ⟨[], ?_⟩) hl
        rw [templates, if_pos hnamed, hp]
        unfold Project.probe FileTree.probe FileTree.look
        simp only [hl, there]
        rfl
      simp only [probe_of_differs differs hne]
  · rw [templates, templates, if_neg hnamed, if_neg hnamed, hpath]
    cases hp : p.pathOf c.templatesDir with
    | error e => rfl
    | ok directory =>
      have hlist : (t'.list directory (hasEnding templateEnding)).filter t'.isFile =
          (p.tree.list directory (hasEnding templateEnding)).filter p.tree.isFile := by
        have hfind : t'.find directory (hasEnding templateEnding) =
            p.tree.find directory (hasEnding templateEnding) := by
          refine differs.find ?_
          exact fun name hname => feature.rejects hname (e := '2') (by decide) (by decide)
        rw [FileTree.list, FileTree.list, hfind]
        refine List.filter_congr ?_
        intro q hq
        obtain ⟨names, hfinds⟩ := FileTree.finds_of_mem (List.mem_filter.1 hq).1
        have hending : hasEnding templateEnding q.name = true := by
          rw [hfinds.path, Path.name_down hfinds.ne]
          exact hfinds.accepted
        refine differs.isFile ?_
        intro hl
        exact ne_of_hasEnding there feature hl hending (e := '2') (by decide) (by decide) rfl
      rcases probe_cases_of_differs differs directory with ⟨e, he, he'⟩ | ⟨n, n', hn, hn'⟩
      · simp only [he, he']
      · simp only [hn, hn']
        exact congrArg Except.ok hlist

/-! ## Features -/

include differs in
/-- The features of both projects are the same but for the one of the file. -/
theorem features_of_differs {paths : List Path} (features : p.features c = .ok paths)
    (mem : x ∈ paths) (place : p.tree.locate x = .ok l) :
    ∃ paths', (p.withTree t').features c = .ok paths' ∧
      paths'.filter (· != x) = paths.filter (· != x) := by
  unfold Project.features at features ⊢
  have hpath : (p.withTree t').pathOf c.featuresDir = p.pathOf c.featuresDir := rfl
  rw [hpath]
  cases hp : p.pathOf c.featuresDir with
  | error e =>
    rw [hp] at features
    cases features
  | ok directory =>
    rw [hp] at features
    simp only at features ⊢
    rcases probe_cases_of_differs differs directory with ⟨e, he, he'⟩ | ⟨n, n', hn, hn'⟩
    · rw [he'] at features
      cases features
    · rw [hn'] at features
      obtain rfl := Except.ok.inj features
      rw [hn]
      obtain ⟨names, hfinds⟩ := FileTree.finds_of_mem mem
      obtain ⟨m, hlook⟩ := hfinds.there
      have hl : l = directory.place p.tree.here ++ names := by
        have := (FileTree.look_eq_ok_iff.1 hlook).1
        rw [place] at this
        exact Except.ok.inj this
      refine ⟨_, rfl, ?_⟩
      rw [hfinds.path]
      exact differs.find_filter hl

/-- Different features of a project have different places. -/
theorem locate_ne_of_features {paths : List Path} (features : p.features c = .ok paths)
    (mem : x ∈ paths) (place : p.tree.locate x = .ok l) {y : Path} (hy : y ∈ paths) (ne : y ≠ x) :
    p.tree.locate y ≠ .ok l := by
  obtain ⟨setting, rfl⟩ := features_eq_find features
  have hplace : ∀ {z names}, p.tree.Finds (p.root.«to» (.ofText setting)) (hasEnding featureEnding)
      z names → p.tree.locate z = .ok l →
      l = (p.root.«to» (.ofText setting)).place p.tree.here ++ names := by
    intro z names hz hl
    obtain ⟨n, hlook⟩ := hz.there
    exact Except.ok.inj (hl.symm.trans (FileTree.look_eq_ok_iff.1 hlook).1)
  obtain ⟨names, hx⟩ := FileTree.finds_of_mem mem
  obtain ⟨others, hy⟩ := FileTree.finds_of_mem hy
  intro hl
  have hnames := (hplace hx place).symm.trans (hplace hy hl)
  rw [List.append_cancel_left_eq] at hnames
  exact ne (by rw [hy.path, hx.path, hnames])

/-! ## Before the first feature -/

include differs there feature in
/-- **Both runs start alike**, or end alike before their first feature. -/
theorem prepare_of_differs {paths : List Path} (write : Bool) (features : p.features c = .ok paths)
    (mem : x ∈ paths) (place : p.tree.locate x = .ok l)
    (apart : ∀ used, p.findTemplate c = .ok used → p.tree.locate used ≠ .ok l) :
    (∃ ended ended', p.prepare c write = .error ended ∧
      (p.withTree t').prepare c write = .error ended' ∧ ended'.result = ended.result) ∨
    ∃ q q', p.prepare c write = .ok q ∧ (p.withTree t').prepare c write = .ok q' ∧
      q'.job = q.job ∧ q'.start.report = q.start.report ∧
      q'.paths.filter (· != x) = q.paths.filter (· != x) := by
  obtain ⟨paths', features', hfilter⟩ := features_of_differs differs features mem place
  have hpath : (p.withTree t').pathOf c.outputDir = p.pathOf c.outputDir := rfl
  unfold prepare
  simp only [templates_of_differs differs there feature apart,
    loadCatalog_of_differs differs there feature, hpath, features, features']
  cases ht : p.templates c with
  | error e => exact .inl ⟨_, _, rfl, rfl, rfl⟩
  | ok used =>
    cases used with
    | nil => exact .inl ⟨_, _, rfl, rfl, rfl⟩
    | cons used others =>
      have hread : (p.withTree t').readText used = p.readText used := by
        obtain ⟨k, b, hlook⟩ := look_of_mem_templates ht List.mem_cons_self
        have hne : k ≠ l := by
          rintro rfl
          exact apart used (findTemplate_eq_ok_iff.2 ⟨others, ht⟩)
            (FileTree.look_eq_ok_iff.1 hlook).1
        simp only [readText, withTree, differs.readText hlook hne]
      simp only [hread]
      cases p.readText used with
      | error e => exact .inl ⟨_, _, rfl, rfl, rfl⟩
      | ok template =>
        cases (p.loadCatalog c).result with
        | error e => exact .inl ⟨_, _, rfl, rfl, rfl⟩
        | ok catalog =>
          cases p.pathOf c.outputDir with
          | error e => exact .inl ⟨_, _, rfl, rfl, rfl⟩
          | ok outputDir => exact .inr ⟨_, _, rfl, rfl, rfl, rfl, hfilter⟩

end

end Project

end Acceptance
