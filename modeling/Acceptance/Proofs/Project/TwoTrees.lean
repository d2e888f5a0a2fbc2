import Acceptance.Proofs.Files.Difference
import Acceptance.Proofs.Files.Making
import Acceptance.Proofs.Project.Writing

/-!
# The trees of two runs

Two runs that differ in a feature file `x` differ in what is written under the output paths `K` of
that feature, and in directories made on the way.  Whether another test module can be written does
not depend on either: no file of its way and neither of its outputs is among what differs.

    DiffersAt x t u → Alike job K x t u                                      (alike_of_differsAt)
    Alike job K x t u → K (fold f.outputPath) →
      Alike job K x (writeOutputs job t f).1 u                               (Alike.write_left)
    Alike job K x t u → ¬ K (fold f.outputPath) →
      Alike job K x (writeOutputs job t f).1 (writeOutputs job u f).1 ∧
      both writes are done or both fail                                      (Alike.write_both)
-/

namespace Acceptance.Run

open Acceptance.Text

/-! ## Places -/

/-- A place whose name has a dot. -/
def Dotted (k : Location) : Prop := ∃ l name, k = l ++ [name] ∧ '.' ∈ name.toList

theorem dotted_of_isFeaturePlace {k : Location} (h : IsFeaturePlace k) : Dotted k := by
  obtain ⟨l, name, rfl, hending⟩ := h
  refine ⟨l, name, rfl, ?_⟩
  exact (List.isSuffixOf_iff_suffix.1 hending).subset (by decide)

section
variable {job : Job} {K : String → Prop} {x k here : Location} {t u v : FileTree}
  {f : GeneratedFile}

theorem dotted_of_outputPlaces (hf : f.Proper) (h : outputPlaces job f here k) : Dotted k := by
  rcases h with rfl | rfl
  · rw [target_place job hf.placed, Plan.outputParts, ← List.append_assoc]
    refine ⟨_, _, rfl, ?_⟩
    rw [Plan.outputName_toList]
    exact List.mem_append_right _ (by decide)
  · rw [snapshot_place job hf.placed]
    refine ⟨_, _, rfl, ?_⟩
    rw [snapshotName, String.toList_append]
    exact List.mem_append_right _ (by decide)

/-- The places of the directory that a test module goes to lie on the way to the output directory,
or have names without dots. -/
theorem mem_way_parent (hf : f.Proper) (h : k ∈ (target job f).parent.way here) :
    k ∈ job.outputDir.way here ∨ ¬ Dotted k := by
  rw [parent_eq job hf.placed] at h
  obtain ⟨names, hnames, rfl⟩ := Path.mem_way.1 h
  have hdirectory : job.outputDir.parts <+: job.outputDir.parts ++ Plan.packageParts f.plan :=
    List.prefix_append _ _
  rcases List.prefix_or_prefix_of_prefix hnames hdirectory with hup | ⟨package, rfl⟩
  · exact .inl (Path.mem_way.2 ⟨names, hup, rfl⟩)
  · have hpackage : package <+: Plan.packageParts f.plan :=
      (List.prefix_append_right_inj _).1 hnames
    by_cases hne : package = []
    · subst hne
      exact .inl (Path.mem_way.2 ⟨_, by simp, rfl⟩)
    · right
      rintro ⟨l, name, hl, hdot⟩
      have hplace : (job.outputDir.parts ++ package).foldl Location.onward
          (job.outputDir.start here) = job.outputDir.place here ++ package := by
        refine Path.place_down here ?_
        exact fun part hp => hf.parts part (List.mem_append_left _ (hpackage.subset hp))
      -- the last part of the place is one of the package, and has no dot
      have hlast : name ∈ package := by
        have hname := congrArg List.getLast? (hplace.symm.trans hl)
        rw [List.getLast?_append, List.getLast?_eq_some_getLast hne, List.getLast?_concat] at hname
        obtain rfl := Option.some.inj hname
        exact List.getLast_mem hne
      exact Plan.dot_not_mem_packageParts (hpackage.subset hlast) hdot

theorem mem_way_of_outputDir (hf : f.Proper) (h : k ∈ job.outputDir.way here) :
    k ∈ (target job f).parent.way here := by
  rw [parent_eq job hf.placed]
  obtain ⟨names, hnames, rfl⟩ := Path.mem_way.1 h
  exact Path.mem_way.2 ⟨names, hnames.trans (List.prefix_append _ _), rfl⟩

/-- The places that two runs need not agree on: that of a file, and those of the outputs under some
paths. -/
def Apart (job : Job) (K : String → Prop) (x here k : Location) : Prop :=
  k = x ∨ ∃ f : GeneratedFile, f.Proper ∧ K (fold f.outputPath) ∧ outputPlaces job f here k

theorem Apart.dotted (h : Apart job K x here k) (feature : IsFeaturePlace x) : Dotted k := by
  rcases h with rfl | ⟨f, hf, -, hk⟩
  · exact dotted_of_isFeaturePlace feature
  · exact dotted_of_outputPlaces hf hk

/-- The outputs under another path stand at none of these places. -/
theorem not_apart_of_outputPlaces (hf : f.Proper) (other : ¬ K (fold f.outputPath))
    (feature : IsFeaturePlace x) (h : outputPlaces job f here k) : ¬ Apart job K x here k := by
  rintro (rfl | ⟨g, hg, hK, hk⟩)
  · exact not_isFeaturePlace_of_outputPlaces hf h feature
  · have hne : f.outputPath ≠ g.outputPath := by
      intro he
      rw [he] at other
      exact other hK
    rcases h with rfl | rfl <;> rcases hk with hk | hk
    · exact hne (target_place_inj hf hg hk)
    · exact target_place_ne_snapshot_place hf.placed hg.placed here hk
    · exact target_place_ne_snapshot_place hg.placed hf.placed here hk.symm
    · exact hne (snapshot_place_inj hf hg hk)

end

/-! ## Trees that agree -/

/-- Two trees that agree on what the writing of test modules depends on: on files, besides those
apart; on directories where a file may be written; and on where the way to the output directory
meets a file. -/
structure Alike (job : Job) (K : String → Prop) (x : Location) (t u : FileTree) : Prop where
  here : u.here = t.here
  start : u.Creatable (job.outputDir.start t.here) ↔ t.Creatable (job.outputDir.start t.here)
  file : ∀ k b, ¬ Apart job K x t.here k →
    (u.node? k = some (.file b) ↔ t.node? k = some (.file b))
  directory : ∀ k, ¬ Apart job K x t.here k → k ∉ job.outputDir.way t.here → Dotted k →
    (u.node? k = some .directory ↔ t.node? k = some .directory)
  way : ∀ k ∈ job.outputDir.way t.here,
    ((∃ b, u.node? k = some (.file b)) ↔ ∃ b, t.node? k = some (.file b))

section
variable {job : Job} {K : String → Prop} {x k : Location} {t t' u u' : FileTree}
  {f : GeneratedFile} {b : ByteArray}

theorem Alike.symm (h : Alike job K x t u) : Alike job K x u t := by
  constructor
  case here => exact h.here.symm
  all_goals rw [h.here]
  case start => exact h.start.symm
  case file => exact fun k b hk => (h.file k b hk).symm
  case directory => exact fun k hk hway hdot => (h.directory k hk hway hdot).symm
  case way => exact fun k hk => (h.way k hk).symm

/-- Trees that differ at a place agree where the way to the output directory meets the same. -/
theorem alike_of_differsAt (h : FileTree.DiffersAt x t u)
    (way : x ∈ job.outputDir.way t.here →
      ((∃ b, u.node? x = some (.file b)) ↔ ∃ b, t.node? x = some (.file b))) :
    Alike job K x t u := by
  have hne : ∀ {k}, ¬ Apart job K x t.here k → k ≠ x := by
    rintro k hk rfl
    exact hk (.inl rfl)
  constructor
  case here => exact h.here
  case start =>
    by_cases hx : job.outputDir.start t.here = x
    · -- a start that is the place in question holds a file in both trees or nothing in both
      have hfile := way (hx ▸ Path.start_mem_way)
      have hcases : ∀ {v : FileTree}, v.node? x ≠ some .directory →
          v.node? x = none ∨ ∃ b, v.node? x = some (.file b) := by
        intro v hv
        cases hn : v.node? x with
        | none => exact .inl rfl
        | some n =>
          cases n with
          | directory => exact absurd hn hv
          | file b => exact .inr ⟨b, rfl⟩
      rw [hx]
      rcases hcases h.before with hnone | hsome
      · refine FileTree.creatable_congr ?_ h.directory_iff
        rcases hcases h.behind with hnone' | hsome'
        · rw [hnone, hnone']
        · obtain ⟨b, hb⟩ := hfile.1 hsome'
          rw [hnone] at hb
          cases hb
      · exact iff_of_false (FileTree.not_creatable_of_file (hfile.2 hsome))
          (FileTree.not_creatable_of_file hsome)
    · exact FileTree.creatable_congr (h.node _ hx) h.directory_iff
  case file =>
    intro k b hk
    rw [h.node k (hne hk)]
  case directory => exact fun k _ _ _ => h.directory_iff
  case way =>
    intro k hk
    by_cases hx : k = x
    · subst hx
      exact way hk
    · rw [h.node k hx]

theorem parent_start (job : Job) (hf : f.Proper) (here : Location) :
    (target job f).parent.start here = job.outputDir.start here := by
  rw [parent_eq job hf.placed]
  rfl

/-- The way of a test module is open in both trees or in neither. -/
theorem Alike.open_iff (h : Alike job K x t u) (feature : IsFeaturePlace x) (hf : f.Proper) :
    u.Open (target job f).parent ↔ t.Open (target job f).parent := by
  have hstart := parent_start job hf t.here
  have hfree : ∀ k ∈ (target job f).parent.way t.here,
      ((∃ b, u.node? k = some (.file b)) ↔ ∃ b, t.node? k = some (.file b)) := by
    intro k hk
    rcases mem_way_parent hf hk with hway | hdot
    · exact h.way k hway
    · have hapart : ¬ Apart job K x t.here k := fun hapart => hdot (hapart.dotted feature)
      exact exists_congr fun b => h.file k b hapart
  constructor
  · rintro ⟨hs, hwalkable, hway⟩
    rw [h.here] at hs hway
    rw [hstart] at hs
    refine ⟨by rw [hstart]; exact h.start.1 hs, hwalkable, ?_⟩
    intro k hk b hb
    obtain ⟨b', hb'⟩ := (hfree k hk).2 ⟨b, hb⟩
    exact hway k hk b' hb'
  · rintro ⟨hs, hwalkable, hway⟩
    rw [hstart] at hs
    refine ⟨by rw [h.here, hstart]; exact h.start.2 hs, hwalkable, ?_⟩
    rw [h.here]
    intro k hk b hb
    obtain ⟨b', hb'⟩ := (hfree k hk).1 ⟨b, hb⟩
    exact hway k hk b' hb'

/-! ## Directories made -/

/-- Directories on the way of a test module change nothing that trees agree on. -/
theorem Alike.grow (h : Alike job K x t u) (hf : f.Proper)
    (grows : FileTree.Grows (· ∈ (target job f).parent.way t.here) t t')
    (start : t' = t ∨ t.Creatable (job.outputDir.start t.here)) : Alike job K x t' u := by
  constructor
  all_goals rw [grows.here]
  case here => exact h.here
  case start =>
    rcases start with rfl | hs
    · exact h.start
    · exact iff_of_true (h.start.2 hs) (grows.creatable hs)
  case file =>
    intro k b hk
    rw [h.file k b hk, grows.file_iff]
  case directory =>
    intro k hk hway hdot
    have houtside : k ∉ (target job f).parent.way t.here := by
      intro hk
      rcases mem_way_parent hf hk with hk | hno
      · exact hway hk
      · exact hno hdot
    rw [h.directory k hk hway hdot, grows.outside houtside]
  case way =>
    intro k hk
    rw [h.way k hk]
    exact exists_congr fun b => grows.file_iff.symm

/-! ## Files written -/

/-- A file put where no directory stands changes no directory. -/
theorem directory_iff_of_put (free : t.node? k ≠ some .directory)
    (put : ∀ j, t'.node? j = if j = k then some (.file b) else t.node? j) (j : Location) :
    t'.node? j = some .directory ↔ t.node? j = some .directory := by
  rw [put]
  by_cases hj : j = k
  · subst hj
    simp [free]
  · rw [if_neg hj]

theorem creatable_iff_of_put {l : Location} (free : t.node? k ≠ some .directory)
    (put : ∀ j, t'.node? j = if j = k then some (.file b) else t.node? j) (hl : l ≠ k) :
    t'.Creatable l ↔ t.Creatable l := by
  refine FileTree.creatable_congr ?_ (directory_iff_of_put free put _)
  rw [put, if_neg hl]

/-- A file apart may be written in one of the trees. -/
theorem Alike.put_left (h : Alike job K x t u) (apart : Apart job K x t.here k)
    (beside : k ∉ job.outputDir.way t.here) (free : t.node? k ≠ some .directory)
    (here : t'.here = t.here)
    (put : ∀ j, t'.node? j = if j = k then some (.file b) else t.node? j) :
    Alike job K x t' u := by
  have hne : ∀ {j}, j ∈ job.outputDir.way t.here → j ≠ k := by
    rintro j hj rfl
    exact beside hj
  constructor
  all_goals rw [here]
  case here => exact h.here
  case start => rw [h.start, creatable_iff_of_put free put (hne Path.start_mem_way)]
  case file =>
    intro j b' hj
    have hjk : j ≠ k := by
      rintro rfl
      exact hj apart
    rw [h.file j b' hj, put, if_neg hjk]
  case directory =>
    intro j hj hway hdot
    rw [h.directory j hj hway hdot, directory_iff_of_put free put]
  case way =>
    intro j hj
    rw [h.way j hj, put, if_neg (hne hj)]

/-- A file may be written in both trees. -/
theorem Alike.put_both (h : Alike job K x t u) (beside : k ∉ job.outputDir.way t.here)
    (free : t.node? k ≠ some .directory) (free' : u.node? k ≠ some .directory)
    (here : t'.here = t.here) (here' : u'.here = u.here)
    (put : ∀ j, t'.node? j = if j = k then some (.file b) else t.node? j)
    (put' : ∀ j, u'.node? j = if j = k then some (.file b) else u.node? j) :
    Alike job K x t' u' := by
  have hne : ∀ {j}, j ∈ job.outputDir.way t.here → j ≠ k := by
    rintro j hj rfl
    exact beside hj
  constructor
  all_goals rw [here]
  case here => rw [here', h.here]
  case start =>
    rw [creatable_iff_of_put free' put' (hne Path.start_mem_way), h.start,
      creatable_iff_of_put free put (hne Path.start_mem_way)]
  case file =>
    intro j b' hj
    rw [put, put']
    by_cases hjk : j = k
    · rw [if_pos hjk, if_pos hjk]
    · rw [if_neg hjk, if_neg hjk, h.file j b' hj]
  case directory =>
    intro j hj hway hdot
    rw [directory_iff_of_put free' put', h.directory j hj hway hdot, directory_iff_of_put free put]
  case way =>
    intro j hj
    rw [put, put', if_neg (hne hj), if_neg (hne hj), h.way j hj]

end

/-! ## Outputs written -/

section
variable {job : Job} {K : String → Prop} {x : Location} {t u v : FileTree} {f : GeneratedFile}
  {name : String} {s : String}

/-- The way of a test module stands when there is a directory at each of its places. -/
def Stands (job : Job) (f : GeneratedFile) (t : FileTree) : Prop :=
  ∀ k ∈ (target job f).parent.way t.here, t.node? k = some .directory

/-- What stands where behind the writing of a file beside the test module. -/
theorem written_child (hf : f.Proper) (stands : Stands job f t)
    (write : t.writeText ((target job f).parent.child name) s = .ok v) :
    v.here = t.here ∧ Stands job f v ∧
      ((target job f).parent.child name).place t.here ∉ job.outputDir.way t.here ∧
      t.node? (((target job f).parent.child name).place t.here) ≠ some .directory ∧
      ∀ j, v.node? j = if j = ((target job f).parent.child name).place t.here
        then some (.file s.toUTF8) else t.node? j := by
  have hput := FileTree.node?_writeBytes write
  have hhere := (FileTree.keeps_writeBytes write).here
  obtain ⟨-, -, hfree, -⟩ := FileTree.writeBytes_child_eq_ok_iff.1 write
  have hbeside : ∀ {k}, k ∈ (target job f).parent.way t.here →
      k ≠ ((target job f).parent.child name).place t.here := by
    rintro k hk rfl
    exact hfree (stands _ hk)
  refine ⟨hhere, ?_, ?_, hfree, hput⟩
  · rw [Stands, hhere]
    intro k hk
    rw [hput, if_neg (hbeside hk)]
    exact stands k hk
  · exact fun hk => hbeside (mem_way_of_outputDir hf hk) rfl

/-- A file apart, beside the test module, is written in one tree. -/
theorem Alike.file_left (h : Alike job K x t u) (hf : f.Proper) (stands : Stands job f t)
    (apart : Apart job K x t.here (((target job f).parent.child name).place t.here))
    (write : t.writeText ((target job f).parent.child name) s = .ok v) :
    Alike job K x v u ∧ Stands job f v := by
  obtain ⟨hhere, hstands, hbeside, hfree, hput⟩ := written_child hf stands write
  exact ⟨h.put_left apart hbeside hfree hhere hput, hstands⟩

/-- A file beside the test module is written in both trees or in neither. -/
theorem Alike.file_both (h : Alike job K x t u) (hf : f.Proper) (stands : Stands job f t)
    (stands' : Stands job f u)
    (together : ¬ Apart job K x t.here (((target job f).parent.child name).place t.here))
    (dotted : Dotted (((target job f).parent.child name).place t.here)) :
    (∃ e e', t.writeText ((target job f).parent.child name) s = .error e ∧
      u.writeText ((target job f).parent.child name) s = .error e') ∨
    ∃ t' u', t.writeText ((target job f).parent.child name) s = .ok t' ∧
      u.writeText ((target job f).parent.child name) s = .ok u' ∧
      Alike job K x t' u' ∧ Stands job f t' ∧ Stands job f u' := by
  have hdirectory : u.node? (((target job f).parent.child name).place t.here) = some .directory ↔
      t.node? (((target job f).parent.child name).place t.here) = some .directory := by
    by_cases hway : ((target job f).parent.child name).place t.here ∈ job.outputDir.way t.here
    · have hon := mem_way_of_outputDir hf hway
      exact iff_of_true (stands' _ (h.here ▸ hon)) (stands _ hon)
    · exact h.directory _ together hway dotted
  have hiff : (∃ w, u.writeText ((target job f).parent.child name) s = .ok w) ↔
      ∃ w, t.writeText ((target job f).parent.child name) s = .ok w := by
    unfold FileTree.writeText
    simp only [FileTree.writeBytes_child_eq_ok_iff, exists_and_left, exists_eq, and_true]
    rw [h.here, Ne, hdirectory]
    refine and_congr_right fun _ => and_congr_left fun _ => ?_
    exact iff_of_true (h.here ▸ stands') stands
  cases ht : t.writeText ((target job f).parent.child name) s with
  | error e =>
    cases hu : u.writeText ((target job f).parent.child name) s with
    | error e' => exact .inl ⟨e, e', rfl, rfl⟩
    | ok u' =>
      obtain ⟨t', ht'⟩ := hiff.1 ⟨u', hu⟩
      rw [ht] at ht'
      cases ht'
  | ok t' =>
    obtain ⟨u', hu⟩ := hiff.2 ⟨t', ht⟩
    obtain ⟨hhere, hstands, hbeside, hfree, hput⟩ := written_child hf stands ht
    obtain ⟨hhere', hstands', -, hfree', hput'⟩ := written_child hf stands' hu
    rw [h.here] at hfree' hput'
    exact .inr ⟨t', u', rfl, hu, h.put_both hbeside hfree hfree' hhere hhere' hput hput', hstands,
      hstands'⟩

/-- Where the way of a test module is not open nothing is written. -/
theorem writeOutputs_closed (hf : f.Proper) (closed : ¬ t.Open (target job f).parent) :
    ∃ v e, writeOutputs job t f = (v, some e) ∧
      FileTree.Grows (· ∈ (target job f).parent.way t.here) t v ∧
      (v = t ∨ t.Creatable (job.outputDir.start t.here)) := by
  have hgrows := FileTree.grows_ensureAll t (target job f).parent
  have hstart := FileTree.ensureAll_eq_or_creatable t (target job f).parent
  unfold writeOutputs
  cases hmade : t.ensureAll (target job f).parent with
  | mk v e? =>
    rw [hmade] at hgrows hstart
    cases e? with
    | some e => exact ⟨v, e, rfl, hgrows, parent_start job hf t.here ▸ hstart⟩
    | none =>
      have hno : ¬ t.Creatable ((target job f).parent.start t.here) :=
        fun hs => closed (FileTree.open_of_ensureAll hmade hs)
      obtain rfl : v = t := hstart.resolve_right hno
      cases hw : v.writeText (target job f) f.code with
      | error e => exact ⟨v, e, by simp only [hw], hgrows, .inl rfl⟩
      | ok w =>
        -- the way to what was written begins with a directory
        rw [target_eq_child job hf.placed] at hw
        have hway := (FileTree.writeBytes_child_eq_ok_iff.1 hw).2.1
        exact absurd (FileTree.creatable_of_directory (hway _ Path.start_mem_way)) hno

theorem outputPlaces_target (job : Job) (hf : f.Proper) (here : Location) :
    outputPlaces job f here
      (((target job f).parent.child (Plan.outputName f.plan.fileName)).place here) := by
  rw [← target_eq_child job hf.placed]
  exact .inl rfl

theorem outputPlaces_snapshot (job : Job) (f : GeneratedFile) (here : Location) :
    outputPlaces job f here
      (((target job f).parent.child (f.plan.fileName ++ ".crif.json")).place here) := .inr rfl

/-- **Outputs under a path of `K`.**  Writing them in one tree, done or not, changes nothing that
the trees agree on. -/
theorem Alike.write_left (h : Alike job K x t u) (hf : f.Proper) (mine : K (fold f.outputPath)) :
    Alike job K x (writeOutputs job t f).1 u := by
  have hapart : ∀ {k here}, outputPlaces job f here k → Apart job K x here k :=
    fun hk => .inr ⟨f, hf, mine, hk⟩
  by_cases hopen : t.Open (target job f).parent
  · obtain ⟨v, hmade, hgrows, hstands⟩ := hopen.made
    have hstart := parent_start job hf t.here ▸ hopen.start
    have hv : Alike job K x v u := h.grow hf hgrows (.inr hstart)
    have hstands : Stands job f v := by rwa [Stands, hgrows.here]
    have hwritten : Alike job K x (writeOutputs job t f).1 u ∧
        Stands job f (writeOutputs job t f).1 := by
      refine writeOutputs_invariant (I := fun v => Alike job K x v u ∧ Stands job f v) ?_ ?_ ?_
      · rw [hmade]
        exact ⟨hv, hstands⟩
      · rintro v w ⟨hv, hstands⟩ written
        rw [target_eq_child job hf.placed] at written
        exact hv.file_left hf hstands (hapart (outputPlaces_target job hf _)) written
      · rintro v w ⟨hv, hstands⟩ plan
        exact hv.file_left hf hstands (hapart (outputPlaces_snapshot job f _)) plan
    exact hwritten.1
  · obtain ⟨v, e, hwrite, hgrows, hstart⟩ := writeOutputs_closed hf hopen
    rw [hwrite]
    exact h.grow hf hgrows hstart

/-- **Outputs under another path.**  They are written in both trees or in neither, and the trees
agree behind them. -/
theorem Alike.write_both (h : Alike job K x t u) (feature : IsFeaturePlace x) (hf : f.Proper)
    (other : ¬ K (fold f.outputPath)) :
    Alike job K x (writeOutputs job t f).1 (writeOutputs job u f).1 ∧
      ((writeOutputs job u f).2 = none ↔ (writeOutputs job t f).2 = none) := by
  have hapart : ∀ {k here}, outputPlaces job f here k → ¬ Apart job K x here k :=
    fun hk => not_apart_of_outputPlaces hf other feature hk
  by_cases hopen : t.Open (target job f).parent
  · have hopen' := (h.open_iff feature hf).2 hopen
    obtain ⟨v, hmade, hgrows, hstands⟩ := hopen.made
    obtain ⟨v', hmade', hgrows', hstands'⟩ := hopen'.made
    have hstart := parent_start job hf t.here ▸ hopen.start
    have hstart' := parent_start job hf u.here ▸ hopen'.start
    have hv : Alike job K x v v' :=
      ((h.grow hf hgrows (.inr hstart)).symm.grow hf hgrows' (.inr hstart')).symm
    have hstands : Stands job f v := by rwa [Stands, hgrows.here]
    have hstands' : Stands job f v' := by rwa [Stands, hgrows'.here]
    have htarget := outputPlaces_target job hf v.here
    have hboth := hv.file_both (s := f.code) hf hstands hstands' (hapart htarget)
      (dotted_of_outputPlaces hf htarget)
    rw [← target_eq_child job hf.placed] at hboth
    simp only [writeOutputs, hmade, hmade']
    rcases hboth with ⟨e, e', hw, hw'⟩ | ⟨w, w', hw, hw', hwrite, hstands, hstands'⟩
    · simp only [hw, hw']
      exact ⟨hv, by simp⟩
    · simp only [hw, hw']
      split
      · have hsnapshot := outputPlaces_snapshot job f w.here
        have hboth := hwrite.file_both (s := snapshotText f) hf hstands hstands'
          (hapart hsnapshot) (dotted_of_outputPlaces hf hsnapshot)
        rw [show (target job f).parent.child (f.plan.fileName ++ ".crif.json") = snapshot job f
          from rfl] at hboth
        rcases hboth with ⟨e, e', hs, hs'⟩ | ⟨y, y', hs, hs', hboth, -⟩
        · simp only [hs, hs']
          exact ⟨hwrite, by simp⟩
        · simp only [hs, hs']
          exact ⟨hboth, trivial⟩
      · exact ⟨hwrite, Iff.rfl⟩
  · have hclosed : ¬ u.Open (target job f).parent := fun ho => hopen ((h.open_iff feature hf).1 ho)
    obtain ⟨v, e, hwrite, hgrows, hstart⟩ := writeOutputs_closed hf hopen
    obtain ⟨v', e', hwrite', hgrows', hstart'⟩ := writeOutputs_closed hf hclosed
    rw [hwrite, hwrite']
    exact ⟨((h.grow hf hgrows hstart).symm.grow hf hgrows' hstart').symm, by simp⟩

end

end Acceptance.Run
