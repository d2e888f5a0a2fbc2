import Acceptance.Proofs.Files.Blocked
import Acceptance.Proofs.Project.TwoTrees

/-!
# Writing test modules again

Outputs that were written are written again without a change, and outputs that could not be
written cannot be written again and leave the tree as it is.  Both stay so while other output paths
are written.

    Filled job t (writeOutputs job t f).1                           (filled_writeOutputs)
    writeOutputs job t f = (u, e?) → Settled job u f e?             (settled_writeOutputs)
    Settled job t g e? → Settled job (writeOutputs job t f).1 g e?  (Settled.other)
                                        where f and g have different output paths
    Settled job t f e? → writeOutputs job t f = (t, e?')            (Settled.again)
                                        where e? and e?' are both faults or both none
-/

namespace Acceptance.Run

variable {job : Job} {t u v : FileTree} {f g : GeneratedFile} {k l : Location} {p : Path}
  {name s : String} {e : FileError} {e? : Option FileError}

/-! ## What is written into a tree -/

/-- What the writing of test modules makes of a place: a directory where there was nothing, on the
way to the output directory or under a name without dots; or an output where no directory was. -/
inductive Fill (job : Job) (t u : FileTree) (k : Location) : Prop
  | same (node : u.node? k = t.node? k)
  | directory (free : t.node? k = none) (made : u.node? k = some .directory)
      (way : k ∈ job.outputDir.way t.here ∨ ¬ Dotted k)
  | file (free : t.node? k ≠ some .directory) (written : ∃ b, u.node? k = some (.file b))
      (output : ∃ f : GeneratedFile, f.Proper ∧ outputPlaces job f t.here k)

/-- A tree behind test modules that were written into another one. -/
structure Filled (job : Job) (t u : FileTree) : Prop where
  here : u.here = t.here
  node : ∀ k, Fill job t u k

namespace Filled

theorem refl (job : Job) (t : FileTree) : Filled job t t := ⟨rfl, fun _ => .same rfl⟩

theorem directory (h : Filled job t u) (hk : t.node? k = some .directory) :
    u.node? k = some .directory := by
  cases h.node k with
  | same node => rw [node, hk]
  | directory free made => exact made
  | file free => exact absurd hk free

theorem file (h : Filled job t u) {b : ByteArray} (hk : t.node? k = some (.file b)) :
    ∃ b', u.node? k = some (.file b') := by
  cases h.node k with
  | same node => exact ⟨b, node.trans hk⟩
  | directory free =>
    rw [hk] at free
    cases free
  | file free written => exact written

theorem keeps (h : Filled job t u) : FileTree.Keeps (fun _ => True) t u :=
  ⟨h.here, fun _ hk => h.directory hk, fun _ _ hk => absurd trivial hk⟩

theorem trans (h : Filled job t u) (h' : Filled job u v) : Filled job t v := by
  refine ⟨h'.here.trans h.here, ?_⟩
  intro k
  cases h'.node k with
  | same node =>
    cases h.node k with
    | same node' => exact .same (node.trans node')
    | directory free made way => exact .directory free (node.trans made) way
    | file free written output =>
      obtain ⟨b, hb⟩ := written
      exact .file free ⟨b, node.trans hb⟩ output
  | directory free made way =>
    rw [h.here] at way
    cases h.node k with
    | same node => exact .directory (node.symm.trans free) made way
    | directory free' made' =>
      rw [made'] at free
      cases free
    | file free' written =>
      obtain ⟨b, hb⟩ := written
      rw [hb] at free
      cases free
  | file free written output =>
    rw [h.here] at output
    exact .file (fun hk => free (h.directory hk)) written output

end Filled

/-- Directories made on the way of a test module. -/
theorem filled_of_grows (hf : f.Proper)
    (h : FileTree.Grows (· ∈ (target job f).parent.way t.here) t u) : Filled job t u := by
  refine ⟨h.here, ?_⟩
  intro k
  rcases h.node k with hn | ⟨hway, hfree, hmade⟩
  · exact .same hn
  · exact .directory hfree hmade (mem_way_parent hf hway)

/-- An output that was written. -/
theorem filled_of_write (hf : f.Proper)
    (output : outputPlaces job f t.here ((p.child name).place t.here))
    (h : t.writeText (p.child name) s = .ok u) : Filled job t u := by
  have hput := FileTree.node?_writeBytes h
  obtain ⟨-, -, hfree, -⟩ := FileTree.writeBytes_child_eq_ok_iff.1 h
  refine ⟨(FileTree.keeps_writeBytes h).here, ?_⟩
  intro k
  have hk := hput k
  split at hk
  · next he =>
    subst he
    exact .file hfree ⟨_, hk⟩ ⟨f, hf, output⟩
  · exact .same hk

theorem filled_writeOutputs (job : Job) (t : FileTree) (hf : f.Proper) :
    Filled job t (writeOutputs job t f).1 := by
  refine writeOutputs_invariant (I := Filled job t)
    (filled_of_grows hf (FileTree.grows_ensureAll t _)) ?_ ?_
  · intro u v hu written
    rw [target_eq_child job hf.placed] at written
    exact hu.trans (filled_of_write hf (outputPlaces_target job hf u.here) written)
  · intro u v hu plan
    exact hu.trans (filled_of_write hf (outputPlaces_snapshot job f u.here) plan)

/-! ## Outputs that are there -/

/-- Where the outputs of a test module are there, writing them changes nothing. -/
theorem writeOutputs_of_held (hf : f.Proper) (h : Held job t f) :
    writeOutputs job t f = (t, none) := by
  have hlook : ∃ l, t.look (target job f).parent = .ok (l, .directory) := by
    obtain ⟨l, htarget⟩ := FileTree.readBytes_eq_ok_iff.1 h.target
    have hlocate := (FileTree.look_eq_ok_iff.1 htarget).1
    rw [target_eq_child job hf.placed] at hlocate
    obtain ⟨hwalkable, hway, -⟩ := FileTree.locate_child_eq_ok_iff.1 hlocate
    exact ⟨_, FileTree.look_of_way (fun q hq => hwalkable q (List.mem_append_left _ hq)) hway⟩
  obtain ⟨l, hlook⟩ := hlook
  have htarget : t.writeText (target job f) f.code = .ok t := FileTree.writeBytes_same h.target
  unfold writeOutputs
  simp only [FileTree.ensureAll_of_look hlook, htarget]
  split
  · next hon =>
    have hsnapshot : t.writeText (snapshot job f) (snapshotText f) = .ok t :=
      FileTree.writeBytes_same (h.snapshot hon)
    simp only [hsnapshot]
  · rfl

/-! ## Outputs that are refused -/

/-- Why the outputs of a test module cannot be written into a tree: directories start nowhere, the
way of the module is blocked, the name of the module is barred, or that of its plan is. -/
inductive Refuses (job : Job) (t : FileTree) (f : GeneratedFile) : Prop
  | unfounded (start : ¬ t.Creatable (job.outputDir.start t.here))
  | blocked (way : t.Blocked (target job f).parent)
  | module {l : Location} (directory : t.look (target job f).parent = .ok (l, .directory))
      (barred : t.Barred l (Plan.outputName f.plan.fileName))
  | plan {l : Location} (directory : t.look (target job f).parent = .ok (l, .directory))
      (target : t.readBytes (target job f) = .ok f.code.toUTF8) (on : job.snapshots = true)
      (barred : t.Barred l (snapshotName f))

theorem writeOutputs_unfounded (hf : f.Proper)
    (start : ¬ t.Creatable (job.outputDir.start t.here)) :
    ∃ e, writeOutputs job t f = (t, some e) := by
  have hclosed : ¬ t.Open (target job f).parent := by
    intro hopen
    exact start (parent_start job hf t.here ▸ hopen.start)
  obtain ⟨v, e, hw, -, hv⟩ := writeOutputs_closed hf hclosed
  obtain rfl := hv.resolve_right start
  exact ⟨e, hw⟩

/-- Outputs that are refused are not written, and nothing changes. -/
theorem writeOutputs_of_refuses (hf : f.Proper) (null : job.outputDir.hasNull = false)
    (h : Refuses job t f) : ∃ e, writeOutputs job t f = (t, some e) := by
  cases h with
  | unfounded start => exact writeOutputs_unfounded hf start
  | blocked way =>
    obtain ⟨e, he⟩ := way.ensureAll ((hasNull_parent job hf).trans null)
    exact ⟨e, by rw [writeOutputs, he]⟩
  | module directory barred =>
    obtain ⟨e, he⟩ := (FileTree.barred_iff directory f.code.toUTF8).1 barred
    rw [← target_eq_child job hf.placed] at he
    have htarget : t.writeText (Run.target job f) f.code = .error e := he
    refine ⟨e, ?_⟩
    simp only [writeOutputs, FileTree.ensureAll_of_look directory, htarget]
  | plan directory target on barred =>
    obtain ⟨e, he⟩ := (FileTree.barred_iff directory (snapshotText f).toUTF8).1 barred
    have htarget : t.writeText (Run.target job f) f.code = .ok t := FileTree.writeBytes_same target
    have hsnapshot : t.writeText (snapshot job f) (snapshotText f) = .error e := he
    refine ⟨e, ?_⟩
    simp only [writeOutputs, FileTree.ensureAll_of_look directory, htarget, hsnapshot, if_pos on]

/-- Outputs that were not written are refused from then on. -/
theorem refuses_writeOutputs (hf : f.Proper) (null : job.outputDir.hasNull = false)
    (h : writeOutputs job t f = (u, some e)) : Refuses job u f := by
  by_cases hstart : t.Creatable (job.outputDir.start t.here)
  · rw [← parent_start job hf t.here] at hstart
    cases writes_of_writeOutputs h with
    | unmade made =>
      have hnull := (hasNull_parent job hf).trans null
      exact .blocked (FileTree.blocked_of_ensureAll hnull hstart made)
    | noModule made written =>
      have hlook := FileTree.look_of_ensureAll made hstart
      rw [target_eq_child job hf.placed] at written
      exact .module hlook ((FileTree.barred_iff hlook _).2 ⟨e, written⟩)
    | noPlan made written on plan =>
      -- the directory stays one when the module is written into it
      have hkeeps := FileTree.keeps_writeBytes written
      obtain ⟨hlocate, hd⟩ := FileTree.look_eq_ok_iff.1 (FileTree.look_of_ensureAll made hstart)
      have hlook := FileTree.look_eq_ok_iff.2 ⟨hkeeps.locate hlocate, hkeeps.directory _ hd⟩
      have hmodule := FileTree.readBytes_writeBytes (target_parts_ne hf) written
      exact .plan hlook hmodule on ((FileTree.barred_iff hlook _).2 ⟨e, plan⟩)
  · obtain ⟨e', he'⟩ := writeOutputs_unfounded hf hstart
    obtain rfl := congrArg Prod.fst (he'.symm.trans h)
    exact .unfounded hstart

/-- **Outputs stay refused while other output paths are written.** -/
theorem Refuses.other (hf : f.Proper) (hg : g.Proper) (ne : f.outputPath ≠ g.outputPath)
    (h : Refuses job t g) : Refuses job (writeOutputs job t f).1 g := by
  have hfilled := filled_writeOutputs job t hf
  have hlook : ∀ {p l}, t.look p = .ok (l, .directory) →
      (writeOutputs job t f).1.look p = .ok (l, .directory) := by
    intro p l hp
    obtain ⟨hlocate, hd⟩ := FileTree.look_eq_ok_iff.1 hp
    exact FileTree.look_eq_ok_iff.2 ⟨hfilled.keeps.locate hlocate, hfilled.directory hd⟩
  have hbarred : ∀ {l name}, t.Barred l name → (writeOutputs job t f).1.Barred l name :=
    fun hb => hb.imp id hfilled.directory
  cases h with
  | unfounded start =>
    obtain ⟨e, he⟩ := writeOutputs_unfounded hf start
    rw [he]
    exact .unfounded start
  | blocked way => exact .blocked (way.stays hfilled.keeps fun _ _ hb => hfilled.file hb)
  | module directory barred => exact .module (hlook directory) (hbarred barred)
  | plan directory target on barred =>
    refine .plan (hlook directory) ?_ on (hbarred barred)
    refine (keeps_writeOutputs job t f).readBytes ?_ target
    rintro (he | he)
    · exact ne (target_place_inj hg hf he).symm
    · exact target_place_ne_snapshot_place hg.placed hf.placed _ he

/-! ## Outputs that are settled -/

/-- Outputs that are there, or that are refused where there was a fault. -/
inductive Settled (job : Job) (t : FileTree) (f : GeneratedFile) : Option FileError → Prop
  | held (held : Held job t f) : Settled job t f none
  | refused {e : FileError} (refuses : Refuses job t f) : Settled job t f (some e)

/-- **Outputs are settled where they were to be written.** -/
theorem settled_writeOutputs (hf : f.Proper) (null : job.outputDir.hasNull = false)
    (h : writeOutputs job t f = (u, e?)) : Settled job u f e? := by
  cases e? with
  | none => exact .held (held_writeOutputs hf h)
  | some e => exact .refused (refuses_writeOutputs hf null h)

theorem Settled.other (hf : f.Proper) (hg : g.Proper) (ne : f.outputPath ≠ g.outputPath)
    (h : Settled job t g e?) : Settled job (writeOutputs job t f).1 g e? := by
  cases h with
  | held held => exact .held (held_of_other hf hg ne held)
  | refused refuses => exact .refused (refuses.other hf hg ne)

/-- **Settled outputs are written again, or refused again, and nothing changes.** -/
theorem Settled.again (hf : f.Proper) (null : job.outputDir.hasNull = false)
    (h : Settled job t f e?) :
    ∃ e?', writeOutputs job t f = (t, e?') ∧ (e?' = none ↔ e? = none) := by
  cases h with
  | held held => exact ⟨none, writeOutputs_of_held hf held, Iff.rfl⟩
  | refused refuses =>
    obtain ⟨e', he'⟩ := writeOutputs_of_refuses hf null refuses
    exact ⟨some e', he', by simp⟩

end Acceptance.Run
