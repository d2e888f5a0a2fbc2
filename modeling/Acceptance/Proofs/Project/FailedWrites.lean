import Acceptance.Proofs.Files.Making
import Acceptance.Proofs.Project.Outputs

/-!
# What failed writes leave

A test module is written before its plan, and nothing takes a module back.  So a write that fails
leaves the files of a tree as they were, but for one case: where the plan cannot be written, the
module stands there without being an entry of the report.

    Leaves job t f (writeOutputs job t f).1 (writeOutputs job t f).2    (leaves_writeOutputs)
    Becomes job r path r' → Traced job done before r →
      Traced job (done ++ [path]) before r'                             (Traced.step)
    the files that a run changes, and what failed writes leave         (failed_writes_leave_modules)
-/

namespace Acceptance

open Acceptance.Text

/-! ## Files of a tree -/

namespace FileTree

variable {t u : FileTree} {p : Path} {part : String} {k : Location}

/-- The bytes of the file at a place. -/
def fileAt? (t : FileTree) (l : Location) : Option ByteArray :=
  match t.node? l with
  | some (.file bytes) => some bytes
  | _ => none

theorem fileAt?_eq_some_iff {b : ByteArray} :
    t.fileAt? k = some b ↔ t.node? k = some (.file b) := by
  unfold fileAt?
  split
  · next h => simp [h]
  · next h =>
    simp only [reduceCtorEq, false_iff]
    exact h b

theorem Grows.fileAt? {W : Location → Prop} (h : Grows W t u) (k : Location) :
    u.fileAt? k = t.fileAt? k := by
  refine Option.ext fun b => ?_
  rw [fileAt?_eq_some_iff, fileAt?_eq_some_iff]
  exact h.file_iff

theorem fileAt?_of_readBytes {b : ByteArray} (h : t.readBytes p = .ok b) :
    t.fileAt? (p.place t.here) = some b := by
  obtain ⟨l, hlook⟩ := readBytes_eq_ok_iff.1 h
  obtain ⟨hl, hnode⟩ := look_eq_ok_iff.1 hlook
  rw [← locate_place hl, fileAt?_eq_some_iff, hnode]

theorem fileAt?_writeBytes {b : ByteArray} (h : t.writeBytes (p.child part) b = .ok u)
    (k : Location) :
    u.fileAt? k = if k = (p.child part).place t.here then some b else t.fileAt? k := by
  rw [FileTree.fileAt?, node?_writeBytes h]
  by_cases hk : k = (p.child part).place t.here
  · rw [if_pos hk, if_pos hk]
  · rw [if_neg hk, if_neg hk, FileTree.fileAt?]

theorem path_of_writeBytes {b : ByteArray} {e : FileError} (h : t.writeBytes p b = .error e) :
    e.path = p.text := by
  unfold writeBytes at h
  split at h
  · rw [← Except.error.inj h]
  · split at h
    · rw [← Except.error.inj h]
    · cases h

end FileTree

namespace Run

/-! ## One write -/

section
variable {job : Job} {t u : FileTree} {f g : GeneratedFile} {e : FileError}
  {e? : Option FileError} {k : Location}

/-- What writing a test module does to the files of a tree: nothing, or the module without its plan,
or both. -/
inductive Leaves (job : Job) (t : FileTree) (f : GeneratedFile) (u : FileTree) :
    Option FileError → Prop
  | nothing {e : FileError} (files : ∀ k, u.fileAt? k = t.fileAt? k) : Leaves job t f u (some e)
  | module {e : FileError} (snapshots : job.snapshots = true)
      (request : e.path = (snapshot job f).text)
      (files : ∀ k, u.fileAt? k =
        if k = (target job f).place t.here then some f.code.toUTF8 else t.fileAt? k) :
      Leaves job t f u (some e)
  | outputs (module : u.fileAt? ((target job f).place t.here) = some f.code.toUTF8)
      (files : ∀ k, k ≠ (target job f).place t.here →
        (job.snapshots = true → k ≠ (snapshot job f).place t.here) → u.fileAt? k = t.fileAt? k) :
      Leaves job t f u none

theorem leaves_writeOutputs (job : Job) (t : FileTree) (hf : f.Placed) :
    Leaves job t f (writeOutputs job t f).1 (writeOutputs job t f).2 := by
  have hmade : ∀ {u e?}, t.ensureAll (target job f).parent = (u, e?) →
      u.here = t.here ∧ ∀ k, u.fileAt? k = t.fileAt? k := by
    intro u e? made
    have hgrows := FileTree.grows_ensureAll t (target job f).parent
    rw [made] at hgrows
    exact ⟨hgrows.here, hgrows.fileAt?⟩
  have hmodule : ∀ {u v}, t.ensureAll (target job f).parent = (u, none) →
      u.writeText (target job f) f.code = .ok v → v.here = t.here ∧ ∀ k, v.fileAt? k =
        if k = (target job f).place t.here then some f.code.toUTF8 else t.fileAt? k := by
    intro u v made written
    obtain ⟨hhere, hfiles⟩ := hmade made
    refine ⟨(FileTree.keeps_writeBytes written).here.trans hhere, fun k => ?_⟩
    rw [FileTree.writeText, target_eq_child job hf] at written
    rw [FileTree.fileAt?_writeBytes written, ← target_eq_child job hf, hhere, hfiles]
  cases hwrite : writeOutputs job t f with
  | mk w e? =>
    cases writes_of_writeOutputs hwrite with
    | unmade made => exact .nothing (hmade made).2
    | noModule made => exact .nothing (hmade made).2
    | noPlan made written on plan =>
      exact .module on (FileTree.path_of_writeBytes plan) (hmodule made written).2
    | module made written =>
      obtain ⟨-, hfiles⟩ := hmodule made written
      refine .outputs ?_ fun k htarget _ => ?_
      · rw [hfiles, if_pos rfl]
      · rw [hfiles, if_neg htarget]
    | both made written on plan =>
      obtain ⟨hhere, hfiles⟩ := hmodule made written
      have hplan := FileTree.fileAt?_writeBytes plan
      rw [← snapshot, hhere] at hplan
      refine .outputs ?_ fun k htarget hsnapshot => ?_
      · rw [hplan, if_neg (target_place_ne_snapshot_place hf hf _), hfiles, if_pos rfl]
      · rw [hplan, if_neg (hsnapshot on), hfiles, if_neg htarget]

/-- Files that are no outputs of a module stay as they are when it is written. -/
theorem Leaves.other (h : Leaves job t f u e?) (hk : ¬ outputPlaces job f t.here k) :
    u.fileAt? k = t.fileAt? k := by
  obtain ⟨htarget, hsnapshot⟩ := not_or.1 hk
  cases h with
  | nothing files => exact files k
  | module _ _ files => rw [files, if_neg htarget]
  | outputs _ files => exact files k htarget fun _ => hsnapshot

end

/-! ## What is said of a failed write -/

end Run

/-- A diagnostic whose message begins with a text. -/
def Diagnostic.Begins (d : Diagnostic) (start : String) : Prop := start.toList <+: d.message.toList

/-- A message begins in one way. -/
theorem Diagnostic.Begins.not {d : Diagnostic} {start other : String} (h : d.Begins start)
    (differs : ¬ start.toList <+: other.toList ∧ ¬ other.toList <+: start.toList) :
    ¬ d.Begins other := by
  intro h'
  rcases List.prefix_or_prefix_of_prefix h h' with hshort | hlong
  · exact differs.1 hshort
  · exact differs.2 hlong

theorem Diagnostic.begins_of_message {d : Diagnostic} {start rest : String}
    (h : d.message = start ++ rest) : d.Begins start := by
  rw [Begins, h, String.toList_append]
  exact List.prefix_append _ _

namespace Run

theorem begins_readError (name source : String) (e : TextError) :
    (readError name source e).Begins "Error reading " := by
  have hmessage : (readError name source e).message =
      "Error reading " ++ (name ++ ": " ++ e.message) := by
    rw [← String.append_assoc, ← String.append_assoc]
    rfl
  exact Diagnostic.begins_of_message hmessage

theorem begins_claimError (f : GeneratedFile) (owner : String) :
    (claimError f owner).Begins "Output " := by
  simp only [Diagnostic.Begins, claimError, String.toList_append, List.append_assoc]
  exact List.prefix_append _ _

theorem begins_generationError (e : GenerationError) (fileName source : String) :
    (⟨e.code, .error, e.message fileName, some source⟩ : Diagnostic).Begins "Error parsing " ∨
      (⟨e.code, .error, e.message fileName, some source⟩ : Diagnostic).Begins
        "Error generating test for " := by
  cases e with
  | unreadable m =>
    have hmessage : (GenerationError.unreadable m).message fileName =
        "Error parsing " ++ (fileName ++ ".feature: " ++ m) := by
      rw [← String.append_assoc, ← String.append_assoc]
      rfl
    exact .inl (Diagnostic.begins_of_message hmessage)
  | fault f =>
    have hmessage : (GenerationError.fault f).message fileName =
        "Error generating test for " ++ (fileName ++ ": ConversionError: " ++ f.message) := by
      rw [← String.append_assoc, ← String.append_assoc]
      rfl
    exact .inr (Diagnostic.begins_of_message hmessage)
  | render e =>
    have hmessage : (GenerationError.render e).message fileName =
        "Error generating test for " ++ (fileName ++ ": " ++ GenerationError.renderText e) := by
      rw [← String.append_assoc, ← String.append_assoc]
      rfl
    exact .inr (Diagnostic.begins_of_message hmessage)

theorem begins_stubWarning {fileName source : String} {count : Nat} {d : Diagnostic}
    (h : d ∈ stubWarning fileName source count) : d.Begins "Feature '" := by
  unfold stubWarning at h
  split at h
  · contradiction
  · rw [List.mem_singleton.1 h]
    simp only [Diagnostic.Begins, String.toList_append, List.append_assoc]
    exact List.prefix_append _ _

/-! ## One feature -/

/-- What a failed write leaves of a module and its plan: the files that were there, or the module
alone where the request for the plan failed. -/
structure FailedWrite (job : Job) (before after : FileTree) (f : GeneratedFile)
    (e : FileError) : Prop where
  plan : after.fileAt? ((snapshot job f).place before.here) =
    before.fileAt? ((snapshot job f).place before.here)
  module : after.fileAt? ((target job f).place before.here) =
      before.fileAt? ((target job f).place before.here) ∨
    job.snapshots = true ∧ e.path = (snapshot job f).text ∧
      after.fileAt? ((target job f).place before.here) = some f.code.toUTF8

section
variable {job : Job} {before t u : FileTree} {r r' : Run} {path : Path} {done : List Path}
  {f g : GeneratedFile} {e : FileError} {k : Location} {key owner : String}

theorem FailedWrite.congr (h : FailedWrite job before t f e)
    (same : ∀ k, outputPlaces job f before.here k → u.fileAt? k = t.fileAt? k) :
    FailedWrite job before u f e := by
  constructor
  · rw [same _ (.inr rfl)]
    exact h.plan
  · rw [same _ (.inl rfl)]
    exact h.module

/-- A failed write where the outputs had been untouched. -/
theorem Leaves.failedWrite (h : Leaves job t f u (some e)) (hf : f.Proper)
    (here : t.here = before.here)
    (untouched : ∀ k, outputPlaces job f before.here k → t.fileAt? k = before.fileAt? k) :
    FailedWrite job before u f e := by
  cases h with
  | nothing files =>
    constructor
    · exact (files _).trans (untouched _ (.inr rfl))
    · exact .inl ((files _).trans (untouched _ (.inl rfl)))
  | module snapshots request files =>
    rw [here] at files
    constructor
    · rw [files, if_neg (target_place_ne_snapshot_place hf.placed hf.placed _).symm]
      exact untouched _ (.inr rfl)
    · exact .inr ⟨snapshots, request, by rw [files, if_pos rfl]⟩

/-- Two test modules with an output place in common have one output path. -/
theorem outputPath_eq_of_outputPlaces (hf : f.Proper) (hg : g.Proper) {here : Location}
    (h : outputPlaces job f here k) (h' : outputPlaces job g here k) :
    f.outputPath = g.outputPath := by
  rcases h with rfl | rfl
  · rcases h' with he | he
    · exact target_place_inj hf hg he
    · exact absurd he (target_place_ne_snapshot_place hf.placed hg.placed here)
  · rcases h' with he | he
    · exact absurd he.symm (target_place_ne_snapshot_place hg.placed hf.placed here)
    · exact snapshot_place_inj hf hg he

/-- What is claimed stays claimed. -/
theorem Becomes.lookup (h : Becomes job r path r') (hr : r.claims.lookup key = some owner) :
    r'.claims.lookup key = some owner := by
  cases h with
  | unread => exact hr
  | unplanned => exact hr
  | refused => exact lookup_claimed_of_owned hr _
  | unwritten => exact lookup_claimed_of_owned hr _
  | made => exact lookup_claimed_of_owned hr _

/-- A feature leaves the outputs of a path that another one has claimed. -/
theorem Becomes.outputs_of_claimed (h : Becomes job r path r') (owns : Owns job done r)
    (fresh : path.shown job.root ∉ done.map fun path => path.shown job.root) (hg : g.Proper)
    (claimed : r.claims.lookup (fold g.outputPath) = some owner)
    (hk : outputPlaces job g r.tree.here k) : r'.tree.fileAt? k = r.tree.fileAt? k := by
  have hother : ∀ f : GeneratedFile, f.Proper → f.featureFile = path.shown job.root →
      r.owner f = f.featureFile → ¬ outputPlaces job f r.tree.here k := by
    intro f hf hsource hown hplace
    have hnone := owns.lookup_eq_none fresh hsource hown
    rw [outputPath_eq_of_outputPlaces hf hg hplace hk, claimed] at hnone
    cases hnone
  cases h with
  | unread => rfl
  | unplanned => rfl
  | refused => rfl
  | @unwritten f t e log gives own write fault told =>
    have hf := proper_of_rendered gives
    have hleaves := leaves_writeOutputs job r.tree hf.placed
    rw [fault] at hleaves
    exact hleaves.other (hother f hf (featureFile_of_rendered gives) own)
  | @made f t log gives own written =>
    split at written
    · have hf := proper_of_rendered gives
      have hleaves := leaves_writeOutputs job r.tree hf.placed
      rw [written] at hleaves
      exact hleaves.other (hother f hf (featureFile_of_rendered gives) own)
    · rw [written]

/-- A feature of a run whose output path is its own and whose module could not be written. -/
structure Unwritten (job : Job) (done : List Path) (before : FileTree) (r : Run)
    (f : GeneratedFile) (e : FileError) : Prop where
  gives : ∃ path ∈ done, rendered job.catalog job.template job.root before path = some f
  claimed : r.claims.lookup (fold f.outputPath) = some f.featureFile
  told : writeError f e ∈ r.report.diagnostics

/-- A place where a run has written: the module or the plan of an entry, or a module that is no
entry since its plan could not be written. -/
inductive Wrote (job : Job) (done : List Path) (before : FileTree) (r : Run) (k : Location) : Prop
  | module {f : GeneratedFile} (entry : f ∈ r.report.files)
      (place : k = (target job f).place before.here) : Wrote job done before r k
  | plan {f : GeneratedFile} (entry : f ∈ r.report.files) (snapshots : job.snapshots = true)
      (place : k = (snapshot job f).place before.here) : Wrote job done before r k
  | moduleAlone {f : GeneratedFile} {e : FileError} (unwritten : Unwritten job done before r f e)
      (request : e.path = (snapshot job f).text) (place : k = (target job f).place before.here) :
      Wrote job done before r k

theorem Becomes.diagnostics_extend (h : Becomes job r path r') :
    r.report.diagnostics <+: r'.report.diagnostics := by
  obtain ⟨s, -, -, -, hdiagnostics⟩ := h.share
  rw [hdiagnostics]
  exact List.prefix_append _ _

theorem Unwritten.last (gives : rendered job.catalog job.template job.root before path = some f)
    (own : r.owner f = f.featureFile) (claims : r'.claims = (r.claimed f).claims)
    (told : writeError f e ∈ r'.report.diagnostics) :
    Unwritten job (done ++ [path]) before r' f e := by
  refine ⟨⟨path, List.mem_append_right _ (List.mem_singleton.2 rfl), gives⟩, ?_, told⟩
  rw [claims, lookup_claimed, if_pos rfl, own]

theorem Unwritten.next (h : Unwritten job done before r f e) (becomes : Becomes job r path r') :
    Unwritten job (done ++ [path]) before r' f e := by
  obtain ⟨other, ho, hgives⟩ := h.gives
  exact ⟨⟨other, List.mem_append_left _ ho, hgives⟩, becomes.lookup h.claimed,
    becomes.diagnostics_extend.subset h.told⟩

theorem Wrote.next (h : Wrote job done before r k) (becomes : Becomes job r path r') :
    Wrote job (done ++ [path]) before r' k := by
  cases h with
  | module entry place => exact .module (becomes.files_extend.subset entry) place
  | plan entry snapshots place => exact .plan (becomes.files_extend.subset entry) snapshots place
  | moduleAlone unwritten request place => exact .moduleAlone (unwritten.next becomes) request place

/-- What a run has left behind the features `done`: the files that it changed are places where it
wrote, and every failed write is accounted for. -/
structure Traced (job : Job) (done : List Path) (before : FileTree) (r : Run) : Prop where
  keeps : KeepsFeatures before r.tree
  changed : ∀ k, r.tree.fileAt? k ≠ before.fileAt? k →
    job.write = true ∧ Wrote job done before r k
  failed : ∀ d ∈ r.report.diagnostics, d.sourceFile ≠ none → d.Begins "Error writing " →
    ∃ f e, d = writeError f e ∧ Unwritten job done before r f e ∧
      FailedWrite job before r.tree f e

theorem Owns.proper_of_wrote (h : Owns job done r) (hk : Wrote job done before r k) :
    ∃ g : GeneratedFile, g.Proper ∧ r.claims.lookup (fold g.outputPath) = some g.featureFile ∧
      outputPlaces job g before.here k := by
  cases hk with
  | module entry place => exact ⟨_, h.proper _ entry, h.claimed _ entry, .inl place⟩
  | plan entry snapshots place => exact ⟨_, h.proper _ entry, h.claimed _ entry, .inr place⟩
  | moduleAlone unwritten request place =>
    obtain ⟨path, -, hgives⟩ := unwritten.gives
    exact ⟨_, proper_of_rendered hgives, unwritten.claimed, .inl place⟩

/-- The outputs of a path that no feature has claimed are as they were. -/
theorem Traced.untouched (h : Traced job done before r) (owns : Owns job done r) (hf : f.Proper)
    (unclaimed : r.claims.lookup (fold f.outputPath) = none)
    (hk : outputPlaces job f before.here k) : r.tree.fileAt? k = before.fileAt? k := by
  by_contra hne
  obtain ⟨g, hg, hclaimed, hplace⟩ := owns.proper_of_wrote (h.changed k hne).2
  rw [outputPath_eq_of_outputPlaces hf hg hk hplace, hclaimed] at unclaimed
  cases unclaimed

/-- A feature changes files where it writes. -/
theorem Becomes.changed (h : Becomes job r path r') (here : r.tree.here = before.here)
    (gives : rendered job.catalog job.template job.root r.tree path =
      rendered job.catalog job.template job.root before path)
    (hk : r'.tree.fileAt? k ≠ r.tree.fileAt? k) :
    job.write = true ∧ Wrote job (done ++ [path]) before r' k := by
  cases h with
  | unread => exact absurd rfl hk
  | unplanned => exact absurd rfl hk
  | refused => exact absurd rfl hk
  | @unwritten f t e log hgives own write fault told =>
    have hleaves := leaves_writeOutputs job r.tree (proper_of_rendered hgives).placed
    rw [fault] at hleaves
    cases hleaves with
    | nothing files => exact absurd (files k) hk
    | module snapshots request files =>
      have hplace : k = (target job f).place r.tree.here := by
        by_contra hne
        exact hk (by rw [files, if_neg hne])
      rw [here] at hplace
      refine ⟨write, .moduleAlone (.last (gives.symm.trans hgives) own rfl ?_) request hplace⟩
      exact List.mem_append_right _ (List.mem_singleton.2 rfl)
  | @made f t log hgives own written =>
    split at written
    · next write =>
      have hleaves := leaves_writeOutputs job r.tree (proper_of_rendered hgives).placed
      rw [written] at hleaves
      have hentry : f ∈ ((r.report.noting (stubWarningOf path f)).filing f).files :=
        List.mem_append_right _ (List.mem_singleton.2 rfl)
      cases hleaves with
      | outputs module files =>
        by_cases htarget : k = (target job f).place r.tree.here
        · rw [here] at htarget
          exact ⟨write, .module hentry htarget⟩
        · by_cases hsnapshot : job.snapshots = true ∧ k = (snapshot job f).place r.tree.here
          · rw [here] at hsnapshot
            exact ⟨write, .plan hentry hsnapshot.1 hsnapshot.2⟩
          · exact absurd (files k htarget fun on he => hsnapshot ⟨on, he⟩) hk
    · rw [written] at hk
      exact absurd rfl hk

/-- A feature says that its outputs could not be written where that is so. -/
theorem Becomes.failed (h : Becomes job r path r') (traced : Traced job done before r)
    (owns : Owns job done r)
    (fresh : path.shown job.root ∉ done.map fun path => path.shown job.root)
    (gives : rendered job.catalog job.template job.root r.tree path =
      rendered job.catalog job.template job.root before path)
    {d : Diagnostic} (hd : d ∈ r'.report.diagnostics) (begins : d.Begins "Error writing ") :
    d ∈ r.report.diagnostics ∨ ∃ f e, d = writeError f e ∧
      Unwritten job (done ++ [path]) before r' f e ∧ FailedWrite job before r'.tree f e := by
  have hstub : ∀ f : GeneratedFile, d ∉ stubWarningOf path f :=
    fun f hm => (begins_stubWarning hm).not (by decide) begins
  cases h with
  | @unread e log =>
    refine .inl ((List.mem_append.1 hd).resolve_right fun hm => ?_)
    rw [List.mem_singleton.1 hm] at begins
    exact (begins_readError _ _ e).not (by decide) begins
  | @unplanned e log =>
    refine .inl ((List.mem_append.1 hd).resolve_right fun hm => ?_)
    rw [List.mem_singleton.1 hm] at begins
    rcases begins_generationError e path.stem (path.shown job.root) with hparsing | hgenerating
    · exact hparsing.not (by decide) begins
    · exact hgenerating.not (by decide) begins
  | @refused f log =>
    have hold := (List.mem_append.1 hd).resolve_right fun hm => by
      rw [List.mem_singleton.1 hm] at begins
      exact (begins_claimError f _).not (by decide) begins
    exact .inl ((List.mem_append.1 hold).resolve_right (hstub f))
  | @unwritten f t e log hgives own write fault told =>
    rcases List.mem_append.1 hd with hold | hnew
    · exact .inl ((List.mem_append.1 hold).resolve_right (hstub f))
    · have hf := proper_of_rendered hgives
      have hnone := owns.lookup_eq_none fresh (featureFile_of_rendered hgives) own
      have hleaves := leaves_writeOutputs job r.tree hf.placed
      rw [fault] at hleaves
      refine .inr ⟨f, e, List.mem_singleton.1 hnew,
        .last (gives.symm.trans hgives) own rfl ?_, ?_⟩
      · exact List.mem_append_right _ (List.mem_singleton.2 rfl)
      · exact hleaves.failedWrite hf traced.keeps.here
          fun k hk => traced.untouched owns hf hnone hk
  | @made f t log =>
    exact .inl ((List.mem_append.1 hd).resolve_right (hstub f))

/-- **One feature.** -/
theorem Traced.step (h : Traced job done before r) (owns : Owns job done r)
    (fresh : path.shown job.root ∉ done.map fun path => path.shown job.root)
    (leads : LeadsToFeature before path) (becomes : Becomes job r path r') :
    Traced job (done ++ [path]) before r' := by
  have hgives : rendered job.catalog job.template job.root r.tree path =
      rendered job.catalog job.template job.root before path := rendered_of_keeps leads h.keeps
  constructor
  case keeps => exact h.keeps.trans becomes.keepsFeatures
  case changed =>
    intro k hk
    by_cases hsame : r'.tree.fileAt? k = r.tree.fileAt? k
    · rw [hsame] at hk
      obtain ⟨hwrite, hwrote⟩ := h.changed k hk
      exact ⟨hwrite, hwrote.next becomes⟩
    · exact becomes.changed h.keeps.here hgives hsame
  case failed =>
    intro d hd hsource begins
    rcases becomes.failed h owns fresh hgives hd begins with hold | hnew
    · obtain ⟨f, e, rfl, hunwritten, hfailed⟩ := h.failed d hold hsource begins
      refine ⟨f, e, rfl, hunwritten.next becomes, hfailed.congr ?_⟩
      obtain ⟨other, -, hother⟩ := hunwritten.gives
      intro k hk
      rw [← h.keeps.here] at hk
      exact becomes.outputs_of_claimed owns fresh (proper_of_rendered hother)
        hunwritten.claimed hk
    · exact hnew

/-- **All features.** -/
theorem Traced.features (h : Traced job done before r) (owns : Owns job done r)
    {paths : List Path} (leads : ∀ path ∈ paths, LeadsToFeature before path)
    (nodup : ((done ++ paths).map fun path => path.shown job.root).Nodup)
    (hr : Run.features job r paths = .ok r') : Traced job (done ++ paths) before r' := by
  refine features_induction hr ?_ ?_
  · rw [List.append_nil]
    exact h
  · intro taken path m m' hp htaken becomes hm
    have hbehind := (List.prefix_append_right_inj done).2 ((List.prefix_append _ _).trans hp)
    have howns := owns.features (nodup.sublist (hbehind.sublist.map _)) htaken
    have hleads := leads path (hp.subset (List.mem_append_right _ List.mem_cons_self))
    rw [← List.append_assoc]
    exact hm.step howns (shown_fresh nodup hp) hleads becomes

end

end Run

/-! ## Top theorem -/

namespace Project

/-- A run that ends before its first feature says nothing of a feature. -/
theorem diagnostics_of_prepare_error {p : Project} {c : Config} {write : Bool} {ended : RunResult}
    {report : Report} (h : p.prepare c write = .error ended) (hr : ended.result = .ok report) :
    ∀ d ∈ report.diagnostics, d.sourceFile = none := by
  have hnone : p.templates c = .ok [] := by
    rcases (ended_of_prepare_error h).2 with ⟨e, he⟩ | ⟨hnone, -⟩
    · rw [he] at hr
      cases hr
    · exact hnone
  unfold prepare at h
  simp only [hnone] at h
  obtain rfl := Except.error.inj h
  obtain rfl := Except.ok.inj hr
  intro d hd
  rw [List.mem_singleton.1 hd]
  rfl

theorem traced_after {p : Project} {c : Config} {write : Bool} {q : Prepared} {r : Run}
    (hq : p.prepare c write = .ok q) (hr : q.after q.paths = .ok r) :
    Run.Traced q.job q.paths p.tree r := by
  have hprepares := prepares_of_prepare hq
  have hstart : Run.Traced q.job [] p.tree q.start := by
    constructor
    case keeps =>
      rw [hprepares.tree]
      exact .refl _ _
    case changed =>
      intro k hk
      rw [hprepares.tree] at hk
      exact absurd rfl hk
    case failed =>
      intro d hd hsource
      exact absurd (hprepares.diagnostics d hd).2.1 hsource
  have hleads := hprepares.leads
  rw [hprepares.tree] at hleads
  exact hstart.features hprepares.owns hleads hprepares.nodup hr

/-- **What failed writes leave.**  A run without a report changes nothing.  In one that comes to a
report, a feature that ends with an error about its outputs has its plan's file as it was before the
run, and its module's file too unless the request that failed was the one for the plan; then the
module stands there.  So the files that a run changes are the outputs of its entries and such
modules, and the modules of the entries are all there. -/
theorem failed_writes_leave_modules (p : Project) (c : Config) (write : Bool) :
    (∀ e, (p.run c write).result = .error e → (p.run c write).tree = p.tree) ∧
    ∀ report, (p.run c write).result = .ok report →
      (∃ q r, p.prepare c write = .ok q ∧ q.after q.paths = .ok r ∧ r.report = report ∧
        r.tree = (p.run c write).tree ∧
        (∀ d ∈ report.diagnostics, d.sourceFile ≠ none → d.Begins "Error writing " →
          ∃ f e, d = Run.writeError f e ∧ Run.Unwritten q.job q.paths p.tree r f e ∧
            Run.FailedWrite q.job p.tree r.tree f e) ∧
        (∀ k, r.tree.fileAt? k ≠ p.tree.fileAt? k →
          write = true ∧ Run.Wrote q.job q.paths p.tree r k) ∧
        (write = true → ∀ f ∈ report.files,
          r.tree.fileAt? ((Run.target q.job f).place p.tree.here) = some f.code.toUTF8)) ∨
      ((p.run c write).tree = p.tree ∧ report.files = [] ∧
        ∀ d ∈ report.diagnostics, d.sourceFile = none) := by
  refine ⟨fun e h => tree_of_run_error h, fun report reported => ?_⟩
  cases hq : p.prepare c write with
  | error ended =>
    rw [run, hq] at reported
    refine .inr ⟨?_, files_of_prepare_error hq reported, diagnostics_of_prepare_error hq reported⟩
    rw [run, hq]
    exact (ended_of_prepare_error hq).1
  | ok q =>
    obtain ⟨r, hr, rfl⟩ := (report_iff_of_prepare hq).1 reported
    have hprepares := prepares_of_prepare hq
    have htraced := traced_after hq hr
    refine .inl ⟨q, r, rfl, hr, rfl, ?_, htraced.failed, ?_, ?_⟩
    · rw [run_of_after hq hr]
      rfl
    · rw [← hprepares.write]
      exact htraced.changed
    · intro hwrite f hf
      have hheld := (owns_after hq (List.prefix_refl q.paths) hr).held
        (hprepares.write.trans hwrite) f hf
      rw [← htraced.keeps.here]
      exact FileTree.fileAt?_of_readBytes hheld.target

/-! ## A directory in the place of a plan -/

/-- A project where a directory stands in the place of a plan. -/
def occupied : Project :=
  { tree := ((((((((FileTree.empty ["home"]).putDirectory ["home"]).putFile ["home", "t.j2"]
      "# tests".toUTF8).putDirectory ["home", "features"]).putFile
      ["home", "features", "a.feature"] "Feature: One\n".toUTF8).putDirectory
      ["home", "tests"]).putDirectory ["home", "tests", "generated"]).putDirectory
      ["home", "tests", "generated", "a.crif.json"])
    root := ⟨1, ["home"]⟩ }

def occupiedPaths : List Path := [⟨1, ["home", "features", "a.feature"]⟩]

def occupiedStart : Run := ⟨occupied.tree, [], .empty, (occupied.loadCatalog twinsConfig).log⟩

/-- The place of the module. -/
def occupiedModule : Location := ["home", "tests", "generated", "test_a.py"]

/-- What the run says of its plan. -/
def occupiedError : Diagnostic :=
  ⟨generationErrorCode, .error, "Error writing test_a.py: [Errno 21] Is a directory: " ++
    "'/home/tests/generated/a.crif.json'", some "features/a.feature"⟩

theorem occupiedError_begins : occupiedError.Begins "Error writing " := by
  show _ <+: _
  decide +kernel

theorem occupied_reports : ∃ report, (occupied.run twinsConfig true).result = .ok report ∧
    report = ⟨[], [occupiedError]⟩ ∧
    ((occupied.run twinsConfig true).tree.fileAt? occupiedModule).isSome = true := by
  have hfind : occupied.tree.find ⟨1, ["home", "features"]⟩ (hasEnding featureEnding) =
      occupiedPaths := FileTree.find_of_sorted (by decide +kernel) (by decide +kernel)
  have hprepare : occupied.prepare twinsConfig true =
      .ok ⟨twinsJob, occupiedStart, occupiedPaths⟩ := by
    rw [← hfind]
    rfl
  have hrun : (Run.features twinsJob occupiedStart occupiedPaths).toOption.map
      (fun r => (r.report, (r.tree.fileAt? occupiedModule).isSome)) =
      some (⟨[], [occupiedError]⟩, true) := by decide +kernel
  cases hr : Run.features twinsJob occupiedStart occupiedPaths with
  | error ended =>
    rw [hr] at hrun
    cases hrun
  | ok r =>
    rw [hr] at hrun
    obtain ⟨hreport, htree⟩ := Prod.mk.inj (Option.some.inj hrun)
    rw [run_of_after hprepare hr]
    exact ⟨r.report, rfl, hreport, htree⟩

theorem occupied_leaves_module : ∃ report, (occupied.run twinsConfig true).result = .ok report ∧
    report.files = [] ∧ (∃ d ∈ report.diagnostics, d.sourceFile = some "features/a.feature" ∧
      d.Begins "Error writing ") ∧
    occupied.tree.fileAt? occupiedModule = none ∧
    ((occupied.run twinsConfig true).tree.fileAt? occupiedModule).isSome = true := by
  obtain ⟨report, hreport, rfl, htree⟩ := occupied_reports
  exact ⟨_, hreport, rfl, ⟨occupiedError, List.mem_singleton.2 rfl, rfl, occupiedError_begins⟩,
    rfl, htree⟩

/-- The module is where the run wrote, and no entry. -/
theorem occupied_module_alone : ∃ report, (occupied.run twinsConfig true).result = .ok report ∧
    ∃ q r, occupied.prepare twinsConfig true = .ok q ∧ r.report = report ∧
      Run.Wrote q.job q.paths occupied.tree r occupiedModule ∧
      ∃ f e, occupiedError = Run.writeError f e ∧
        Run.FailedWrite q.job occupied.tree r.tree f e := by
  obtain ⟨report, hreport, rfl, htree⟩ := occupied_reports
  refine ⟨_, hreport, ?_⟩
  rcases (failed_writes_leave_modules occupied twinsConfig true).2 _ hreport with
    ⟨q, r, hq, -, hr, ht, hfailed, hchanged, -⟩ | ⟨-, -, hsource⟩
  · rw [← ht] at htree
    refine ⟨q, r, hq, hr, (hchanged occupiedModule ?_).2, ?_⟩
    · intro he
      rw [he] at htree
      cases htree
    · obtain ⟨f, e, he, -, hwrite⟩ := hfailed occupiedError (List.mem_singleton.2 rfl) (by decide)
        occupiedError_begins
      exact ⟨f, e, he, hwrite⟩
  · have hnone := hsource occupiedError (List.mem_singleton.2 rfl)
    cases hnone

end Project

end Acceptance
