import Acceptance.Proofs.Project.Features

/-!
# What stops a run

A run that has begun is stopped by one thing: a test module that would be written below an output
directory with a null character.  Since such a run has written nothing before, it leaves the tree
as it was.

    feature job r path = .error ended → Stops job r path ended      (feature_stops)
    features job r paths = .ok r'  for some r'
        exactly where the output directory does not stop the run    (features_eq_ok_iff)
    features job r paths = .error ended → ended.tree = r.tree       (tree_of_features_error)
-/

namespace Acceptance.Run

/-! ## One feature -/

/-- What a run has that is stopped at a feature: its test module would go below an output directory
with a null character. -/
structure Stops (job : Job) (r : Run) (path : Path) (ended : RunResult) : Prop where
  write : job.write = true
  null : job.outputDir.hasNull = true
  gives : (rendered job.catalog job.template job.root r.tree path).isSome = true
  tree : ended.tree = r.tree

section
variable {job : Job} {r r' : Run} {ended : RunResult} {path : Path} {paths : List Path}

theorem LeadsToFeature.hasNull {t : FileTree} (h : LeadsToFeature t path) :
    path.hasNull = false := by
  obtain ⟨l, n, hlook, -⟩ := h
  exact (FileTree.locate_eq_ok_iff.1 (FileTree.look_eq_ok_iff.1 hlook).1).1

/-- How a feature stops a run: it cannot be read, or its test module cannot be written, for a null
character in the path. -/
inductive Halts (job : Job) (r : Run) (path : Path) : RunResult → Prop
  | unread {e : FileError} (read : r.tree.readText path = .error (.file e))
      (null : e.fault = .nullByte) : Halts job r path (r.stopped (.file e))
  | unwritten {f : GeneratedFile} {t : FileTree} {e : FileError} {m : Run}
      (gives : rendered job.catalog job.template job.root r.tree path = some f)
      (write : job.write = true) (fault : writeOutputs job r.tree f = (t, some e))
      (null : e.fault = .nullByte) : Halts job r path ({ m with tree := t }.stopped (.file e))

theorem feature_halts (h : feature job r path = .error ended) : Halts job r path ended := by
  unfold feature at h
  simp only at h
  split at h
  · next e he =>
    obtain ⟨hnull, rfl⟩ := faulted_eq_error_iff.1 h
    exact .unread he hnull
  · cases h
  · next content he =>
    have hgives : rendered job.catalog job.template job.root r.tree path =
        (generateFeature job.catalog job.template content path.stem (path.shown job.root)).file := by
      rw [rendered, he]
    split at h
    · cases h
    · next f hf =>
      rw [hf] at hgives
      split at h
      · unfold output at h
        split at h
        · next hwrite =>
          split at h
          · next t e hw =>
            obtain ⟨hnull, rfl⟩ := faulted_eq_error_iff.1 h
            exact .unwritten hgives hwrite hw hnull
          · cases h
        · cases h
      · cases h

/-- A stop is no report. -/
theorem result_of_feature_error (h : feature job r path = .error ended) :
    ∃ e, ended.result = .error e := by
  cases feature_halts h with
  | unread => exact ⟨_, rfl⟩
  | unwritten => exact ⟨_, rfl⟩

theorem feature_stops (leads : LeadsToFeature r.tree path)
    (h : feature job r path = .error ended) : Stops job r path ended := by
  cases feature_halts h with
  | unread read null =>
    -- the path of a feature that was found has no null character
    have hpath := FileTree.hasNull_of_readText read null
    rw [leads.hasNull] at hpath
    cases hpath
  | unwritten gives write fault null =>
    have hproper := proper_of_rendered gives
    have hdirectory := (fault_eq_null_iff hproper fault).1 null
    obtain ⟨e', hw', -⟩ := writeOutputs_null hproper hdirectory
    refine ⟨write, hdirectory, by rw [gives]; rfl, ?_⟩
    exact congrArg Prod.fst (fault.symm.trans hw')

theorem features_cons_eq_error_iff :
    features job r (path :: paths) = .error ended ↔
      feature job r path = .error ended ∨
        ∃ m, feature job r path = .ok m ∧ features job m paths = .error ended := by
  rw [features, List.foldlM_cons]
  cases hf : feature job r path with
  | error e => simp [bind, Except.bind]
  | ok m => simp [bind, Except.bind, features]

theorem result_of_features_error (h : features job r paths = .error ended) :
    ∃ e, ended.result = .error e := by
  induction paths generalizing r with
  | nil => cases h
  | cons path paths ih =>
    rcases features_cons_eq_error_iff.1 h with h | ⟨m, -, h⟩
    · exact result_of_feature_error h
    · exact ih h

theorem features_stops (leads : ∀ path ∈ paths, LeadsToFeature r.tree path)
    (h : features job r paths = .error ended) :
    job.write = true ∧ job.outputDir.hasNull = true ∧
      ∃ path ∈ paths, (rendered job.catalog job.template job.root r.tree path).isSome = true := by
  induction paths generalizing r with
  | nil => cases h
  | cons path paths ih =>
    rcases features_cons_eq_error_iff.1 h with h | ⟨m, hm, hrest⟩
    · have hstops := feature_stops (leads path List.mem_cons_self) h
      exact ⟨hstops.write, hstops.null, path, List.mem_cons_self, hstops.gives⟩
    · have hkeeps := (feature_becomes hm).keepsFeatures
      have hleads : ∀ other ∈ paths, LeadsToFeature r.tree other :=
        fun other ho => leads other (List.mem_cons_of_mem _ ho)
      obtain ⟨hwrite, hnull, other, ho, hgives⟩ :=
        ih (fun other ho => (hleads other ho).of_keeps hkeeps) hrest
      rw [rendered_of_keeps (hleads other ho) hkeeps] at hgives
      exact ⟨hwrite, hnull, other, List.mem_cons_of_mem _ ho, hgives⟩

/-- A run that nothing has claimed in goes on below an output directory with a null character only
where a feature gives no test module, and it goes on as it was. -/
theorem Becomes.of_null (h : Becomes job r path r') (write : job.write = true)
    (null : job.outputDir.hasNull = true) (claims : r.claims = []) :
    rendered job.catalog job.template job.root r.tree path = none ∧ r'.tree = r.tree ∧
      r'.claims = [] := by
  cases h with
  | unread absent => exact ⟨absent, rfl, claims⟩
  | unplanned absent => exact ⟨absent, rfl, claims⟩
  | refused gives other =>
    rw [owner, claims] at other
    exact absurd rfl other
  | unwritten gives own write fault told =>
    exact absurd ((fault_eq_null_iff (proper_of_rendered gives) fault).2 null) told
  | made gives own written =>
    obtain ⟨e, hw, -⟩ := writeOutputs_null (t := r.tree) (proper_of_rendered gives) null
    rw [if_pos write, hw] at written
    cases written

theorem absent_of_features (h : features job r paths = .ok r') (write : job.write = true)
    (null : job.outputDir.hasNull = true) (claims : r.claims = []) :
    ∀ path ∈ paths, rendered job.catalog job.template job.root r.tree path = none := by
  -- such a run claims nothing, so each feature is taken on the tree before the run
  have hall : r'.tree = r.tree ∧ r'.claims = [] ∧
      ∀ path ∈ paths, rendered job.catalog job.template job.root r.tree path = none := by
    refine features_induction h ⟨rfl, claims, by simp⟩ ?_
    rintro before path m m' - - becomes ⟨htree, hclaims, hbefore⟩
    obtain ⟨habsent, htree', hclaims'⟩ := becomes.of_null write null hclaims
    rw [htree] at habsent
    refine ⟨htree'.trans htree, hclaims', ?_⟩
    exact List.forall_mem_append.2 ⟨hbefore, List.forall_mem_singleton.2 habsent⟩
  exact hall.2.2

/-- A run that is stopped before anything was claimed has changed nothing. -/
theorem tree_of_features_error (h : features job r paths = .error ended) (claims : r.claims = [])
    (leads : ∀ path ∈ paths, LeadsToFeature r.tree path) : ended.tree = r.tree := by
  obtain ⟨hwrite, hnull, -⟩ := features_stops leads h
  induction paths generalizing r with
  | nil => cases h
  | cons path paths ih =>
    rcases features_cons_eq_error_iff.1 h with h | ⟨m, hm, hrest⟩
    · exact (feature_stops (leads path List.mem_cons_self) h).tree
    · obtain ⟨-, htree, hclaims⟩ := (feature_becomes hm).of_null hwrite hnull claims
      rw [← htree]
      refine ih hrest hclaims ?_
      rw [htree]
      exact fun other ho => leads other (List.mem_cons_of_mem _ ho)

/-- **Where a run gets to its end.**  Only a test module that would go below an output directory
with a null character stops it. -/
theorem features_eq_ok_iff (claims : r.claims = [])
    (leads : ∀ path ∈ paths, LeadsToFeature r.tree path) :
    (∃ r', features job r paths = .ok r') ↔
      ¬ (job.write = true ∧ job.outputDir.hasNull = true ∧
        ∃ path ∈ paths, (rendered job.catalog job.template job.root r.tree path).isSome = true) := by
  constructor
  · rintro ⟨r', h⟩ ⟨hwrite, hnull, path, hp, hgives⟩
    rw [absent_of_features h hwrite hnull claims path hp] at hgives
    cases hgives
  · intro hno
    cases h : features job r paths with
    | error ended => exact absurd (features_stops leads h) hno
    | ok r' => exact ⟨r', rfl⟩

end

end Acceptance.Run
