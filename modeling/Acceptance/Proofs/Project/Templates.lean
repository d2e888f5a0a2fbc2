import Acceptance.Proofs.Project.Accounting
import Acceptance.Proofs.Project.SettingUp
import Acceptance.Proofs.Rendering.BundledNodes

/-!
# Templates of a project

Two requests look for templates.  A run takes the files of the template directory that end as
templates do, and says that the template is missing where there are none.  The bundled template is
installed where nothing there ends so, be it a file or not: a directory with a template's name keeps
the bundled one away, and is none itself.

    Run.features job r paths = .ok r' → what it says has codes of features     (features_codes)
    p.templates c = .ok (path :: others) → p.UsesTemplate c path               (usesTemplate_of_templates)
    p.templates c = .ok [] → p.LacksTemplate c                                 (lacksTemplate_of_templates)
    c names no template → p.templates c = .ok ps → (path ∈ ps ↔ it is one)     (mem_templates_iff)
    p.installTemplate c = ⟨q, .ok (some target)⟩ → q.templates c = .ok [target] (templates_of_installed)
-/

namespace Acceptance

namespace Run

/-! ## What is said of features -/

/-- The codes of what is said of a feature. -/
def featureCodes : List String := [generationErrorCode, parseErrorCode, unimplementedCode]

section
variable {job : Job} {r r' : Run} {path : Path} {paths : List Path} {d : Diagnostic}

theorem code_of_stubWarning {fileName source : String} {count : Nat}
    (h : d ∈ stubWarning fileName source count) : d.code ∈ featureCodes := by
  rw [(stubWarning_spec h).1]
  simp [featureCodes]

theorem code_of_generationError (e : GenerationError) : e.code ∈ featureCodes := by
  cases e <;> simp [featureCodes, GenerationError.code]

/-- One step: what is said of a feature has such a code. -/
theorem Becomes.codes (h : Becomes job r path r') :
    ∃ ds, r'.report.diagnostics = r.report.diagnostics ++ ds ∧ ∀ d ∈ ds, d.code ∈ featureCodes := by
  have herror : generationErrorCode ∈ featureCodes := by simp [featureCodes]
  have hstub : ∀ {f : GeneratedFile}, ∀ d ∈ stubWarningOf path f, d.code ∈ featureCodes :=
    fun d hd => code_of_stubWarning hd
  cases h with
  | unread => exact ⟨_, rfl, List.forall_mem_singleton.2 herror⟩
  | @unplanned e => exact ⟨_, rfl, List.forall_mem_singleton.2 (code_of_generationError e)⟩
  | refused =>
    exact ⟨_, List.append_assoc _ _ _,
      List.forall_mem_append.2 ⟨hstub, List.forall_mem_singleton.2 herror⟩⟩
  | unwritten =>
    exact ⟨_, List.append_assoc _ _ _,
      List.forall_mem_append.2 ⟨hstub, List.forall_mem_singleton.2 herror⟩⟩
  | made => exact ⟨_, rfl, hstub⟩

/-- **So has all that a run says of its features.** -/
theorem features_codes (h : features job r paths = .ok r') :
    ∃ ds, r'.report.diagnostics = r.report.diagnostics ++ ds ∧ ∀ d ∈ ds, d.code ∈ featureCodes := by
  refine features_invariant h ⟨[], (List.append_nil _).symm, nofun⟩ ?_
  rintro path - m m' becomes ⟨ds, hds, hcodes⟩
  obtain ⟨more, hmore, hcodes'⟩ := becomes.codes
  refine ⟨ds ++ more, ?_, List.forall_mem_append.2 ⟨hcodes, hcodes'⟩⟩
  rw [hmore, hds, List.append_assoc]

end

end Run

/-- What stands in a directory is found under its name. -/
theorem FileTree.look_child {t : FileTree} {p : Path} {l : Location} {name : String} {n : Node}
    (h : t.look p = .ok (l, .directory)) (hn : t.node? (l ++ [name]) = some n) :
    t.look (p.child name) = .ok (l ++ [name], n) := by
  have hname : ∀ part ∈ [name], isName part = true :=
    fun part hm => names_of_node? hn part (List.mem_append_right _ hm)
  exact (look_down_iff (look_eq_ok_iff.1 h).1 hname).2 ⟨rfl, hn⟩

namespace Project

variable {p q : Project} {c : Config}

/-! ## Runs with a template and without -/

/-- A template comes first and can be read, and no run says that it is missing. -/
structure UsesTemplate (p : Project) (c : Config) (path : Path) : Prop where
  first : ∃ others, p.templates c = .ok (path :: others)
  found : p.findTemplate c = .ok path
  readable : ∃ bytes, p.tree.readBytes path = .ok bytes
  told : ∀ write report, (p.run c write).result = .ok report →
    ∀ d ∈ report.diagnostics, d.code ≠ missingTemplateCode

/-- There is no template, and every run says so and nothing else. -/
structure LacksTemplate (p : Project) (c : Config) : Prop where
  none : p.templates c = .ok []
  missed : p.findTemplate c = .error (.noTemplate (templatePlace c))
  told : ∀ write, (p.run c write).result =
    .ok ⟨[], [missingTemplate (.noTemplate (templatePlace c))]⟩

theorem lacksTemplate_of_templates (h : p.templates c = .ok []) : p.LacksTemplate c := by
  refine ⟨h, by simp only [findTemplate, h], fun write => ?_⟩
  simp only [run, prepare, h]
  rfl

/-- What a prepared run has said is the warning about templates that are not used. -/
theorem diagnostics_of_prepare {write : Bool} {ready : Prepared} {ps : List Path}
    (h : p.prepare c write = .ok ready) (hps : p.templates c = .ok ps) :
    ready.start.report.diagnostics = extraTemplates ps := by
  unfold prepare at h
  simp only at h
  split at h
  · cases h
  · cases h
  · next used others ht =>
    obtain rfl := Except.ok.inj (hps.symm.trans ht)
    split at h
    · cases h
    · split at h
      · cases h
      · cases h
      · cases h
      · obtain rfl := Except.ok.inj h
        rfl

theorem code_of_extraTemplates {ps : List Path} {d : Diagnostic} (h : d ∈ extraTemplates ps) :
    d.code = extraTemplatesCode := by
  unfold extraTemplates at h
  split at h
  · rw [List.mem_singleton.1 h]
  · contradiction

/-- **A run that has a template does not say that it is missing.** -/
theorem told_of_templates {path : Path} {others : List Path} {write : Bool} {report : Report}
    (h : p.templates c = .ok (path :: others)) (hreport : (p.run c write).result = .ok report) :
    ∀ d ∈ report.diagnostics, d.code ≠ missingTemplateCode := by
  cases hprepare : p.prepare c write with
  | error ended =>
    have hended : p.run c write = ended := by rw [run, hprepare]
    rw [hended] at hreport
    exact absurd hreport
      (no_report_of_prepare_error (findTemplate_eq_ok_iff.2 ⟨others, h⟩) hprepare report)
  | ok ready =>
    obtain ⟨r, hr, rfl⟩ := (report_iff_of_prepare hprepare).1 hreport
    obtain ⟨ds, hds, hcodes⟩ := Run.features_codes hr
    rw [hds, diagnostics_of_prepare hprepare h]
    refine List.forall_mem_append.2 ⟨fun d hd => ?_, fun d hd hcode => ?_⟩
    · rw [code_of_extraTemplates hd]
      decide
    · have hmissing : missingTemplateCode ∉ Run.featureCodes := by decide
      exact hmissing (hcode ▸ hcodes d hd)

theorem usesTemplate_of_templates {path : Path} {others : List Path}
    (h : p.templates c = .ok (path :: others))
    (readable : ∃ bytes, p.tree.readBytes path = .ok bytes) : p.UsesTemplate c path :=
  ⟨⟨others, h⟩, findTemplate_eq_ok_iff.2 ⟨others, h⟩, readable,
    fun _ _ hreport => told_of_templates h hreport⟩

/-! ## The files of the template directory -/

/-- A file in the template directory ends as templates do. -/
def HoldsTemplate (p : Project) (c : Config) : Prop :=
  ∃ directory name b, p.pathOf c.templatesDir = .ok directory ∧
    p.tree.node? (directory.place p.tree.here ++ [name]) = some (.file b) ∧
    hasEnding templateEnding name = true

section
variable {directory : Path} (implicit : c.template.truthy = false)
  (hv : p.pathOf c.templatesDir = .ok directory)
  (hlook : p.tree.look directory = .ok (directory.place p.tree.here, .directory))

include implicit hv hlook

/-- Where no template is named the templates are the files of a directory. -/
theorem mem_templates_iff : ∃ ps, p.templates c = .ok ps ∧ ps.Nodup ∧ ∀ path, path ∈ ps ↔
    ∃ name b, p.tree.node? (directory.place p.tree.here ++ [name]) = some (.file b) ∧
      hasEnding templateEnding name = true ∧ path = directory.child name := by
  have hprobe : p.probe directory = .ok (some .directory) := by
    rw [probe, FileTree.probe, hlook]
    rfl
  have htemplates : p.templates c =
      .ok ((p.tree.list directory (hasEnding templateEnding)).filter p.tree.isFile) := by
    simp [templates, implicit, hv, hprobe]
  refine ⟨_, htemplates, ((FileTree.find_nodup _ _ _).filter _).filter _, fun path => ?_⟩
  have hfile : ∀ {name n}, p.tree.node? (directory.place p.tree.here ++ [name]) = some n →
      (p.tree.isFile (directory.child name) = true ↔ ∃ b, n = .file b) := by
    intro name n hn
    rw [FileTree.isFile, FileTree.look_child hlook hn]
    cases n <;> simp
  rw [List.mem_filter, FileTree.mem_list_iff hlook]
  constructor
  · rintro ⟨⟨name, n, hn, hending, rfl⟩, hpath⟩
    obtain ⟨b, rfl⟩ := (hfile hn).1 hpath
    exact ⟨name, b, hn, hending, rfl⟩
  · rintro ⟨name, b, hn, hending, rfl⟩
    exact ⟨⟨name, _, hn, hending, rfl⟩, (hfile hn).2 ⟨b, rfl⟩⟩

/-- **A template is used where the directory holds one.** -/
theorem usesTemplate_iff : (∃ path, p.UsesTemplate c path) ↔ p.HoldsTemplate c := by
  obtain ⟨ps, hps, -, hmem⟩ := mem_templates_iff implicit hv hlook
  constructor
  · rintro ⟨path, huses⟩
    obtain ⟨others, hfirst⟩ := huses.first
    obtain rfl := Except.ok.inj (hps.symm.trans hfirst)
    obtain ⟨name, b, hn, hending, -⟩ := (hmem path).1 List.mem_cons_self
    exact ⟨directory, name, b, hv, hn, hending⟩
  · rintro ⟨directory', name, b, hv', hn, hending⟩
    obtain rfl := Except.ok.inj (hv.symm.trans hv')
    cases ps with
    | nil => exact absurd ((hmem _).2 ⟨name, b, hn, hending, rfl⟩) List.not_mem_nil
    | cons path others =>
      obtain ⟨first, bytes, hfirst, -, rfl⟩ := (hmem path).1 List.mem_cons_self
      exact ⟨_, usesTemplate_of_templates hps ⟨bytes, FileTree.readBytes_eq_ok_iff.2
        ⟨_, FileTree.look_child hlook hfirst⟩⟩⟩

/-- **It is lacking where the directory holds none.** -/
theorem lacksTemplate_iff : p.LacksTemplate c ↔ ¬ p.HoldsTemplate c := by
  constructor
  · intro hlacks hholds
    obtain ⟨path, huses⟩ := (usesTemplate_iff implicit hv hlook).2 hholds
    obtain ⟨others, hfirst⟩ := huses.first
    rw [hlacks.none] at hfirst
    cases hfirst
  · obtain ⟨ps, hps, -, hmem⟩ := mem_templates_iff implicit hv hlook
    intro hno
    refine lacksTemplate_of_templates (hps.trans (congrArg _ (List.eq_nil_iff_forall_not_mem.2 ?_)))
    intro path hpath
    obtain ⟨name, b, hn, hending, -⟩ := (hmem path).1 hpath
    exact hno ⟨directory, name, b, hv, hn, hending⟩

end

/-! ## Behind an installation -/

/-- Behind it the bundled template alone ends as templates do, if it was written. -/
theorem ends_iff_of_written {t u : FileTree} {directory : Path} {name : String} {n : Node}
    (empty : t.list directory (hasEnding templateEnding) = [])
    (written : t.writeText (directory.child bundledName) Template.bundled = .ok u) :
    u.node? (directory.place u.here ++ [name]) = some n ∧ hasEnding templateEnding name = true ↔
      name = bundledName ∧ n = .file Template.bundled.toUTF8 := by
  rw [FileTree.node?_writeBytes written, (FileTree.keeps_writeBytes written).here, place_bundled]
  by_cases hname : name = bundledName
  · subst hname
    simp only [if_true, ending_bundledName, Option.some.injEq, and_true, true_and]
    exact eq_comm
  · rw [if_neg fun he => hname (List.singleton_inj.1 (List.append_cancel_left he))]
    -- what stood there before would have been listed
    refine iff_of_false (fun ⟨hn, hending⟩ => ?_) fun h => hname h.1
    have hlisted := (FileTree.mem_list_iff (FileTree.look_of_writeBytes_child written)).2
      ⟨name, n, hn, hending, rfl⟩
    rw [empty] at hlisted
    contradiction

section
variable {installed : Option Path} (h : p.installTemplate c = ⟨q, .ok installed⟩)

include h

/-- The directory holds a template that it held before, or the bundled one. -/
theorem holdsTemplate_of_installTemplate :
    q.HoldsTemplate c ↔ p.HoldsTemplate c ∨ installed ≠ none := by
  obtain ⟨directory, t, hv, hmade, hdone⟩ := installTemplate_eq_ok_iff.1 h
  have hgrows := FileTree.grows_ensureAll p.tree directory
  rw [hmade] at hgrows
  split at hdone
  · next hempty =>
    obtain ⟨u, hwrite, rfl, rfl⟩ := hdone
    exact iff_of_true ⟨directory, bundledName, _, hv, (ends_iff_of_written hempty hwrite).2 ⟨rfl, rfl⟩⟩
      (.inr (Option.some_ne_none _))
  · obtain ⟨rfl, rfl⟩ := hdone
    rw [or_iff_left (not_not_intro rfl)]
    refine exists_congr fun directory => exists_congr fun name => exists_congr fun b => ?_
    show _ ∧ t.node? (directory.place t.here ++ [name]) = _ ∧ _ ↔ _
    rw [hgrows.file_iff, hgrows.here]
    rfl

/-- **The bundled template that was installed is the only one.** -/
theorem templates_of_installed {target : Path} (implicit : c.template.truthy = false)
    (hinstalled : installed = some target) :
    q.templates c = .ok [target] ∧ q.readText target = .ok Template.bundled := by
  obtain ⟨directory, t, hv, -, hdone⟩ := installTemplate_eq_ok_iff.1 h
  rw [hinstalled] at hdone
  split at hdone
  · next hempty =>
    obtain ⟨u, hwrite, rfl, htarget⟩ := hdone
    obtain rfl := Option.some.inj htarget
    have hparts : (directory.child bundledName).parts ≠ [] := by simp [Path.child]
    have hlook := FileTree.look_of_readBytes_child (FileTree.readBytes_writeBytes hparts hwrite)
    obtain ⟨ps, hps, hnodup, hmem⟩ := mem_templates_iff (p := p.withTree u) implicit hv hlook
    have hone : ∀ path, path ∈ ps ↔ path ∈ [directory.child bundledName] := by
      intro path
      rw [hmem, List.mem_singleton]
      constructor
      · rintro ⟨name, b, hn, hending, rfl⟩
        rw [((ends_iff_of_written hempty hwrite).1 ⟨hn, hending⟩).1]
      · rintro rfl
        obtain ⟨hn, hending⟩ := (ends_iff_of_written hempty hwrite).2 ⟨rfl, rfl⟩
        exact ⟨bundledName, _, hn, hending, rfl⟩
    have htext := readText_of_written hparts Template.return_not_mem_bundled hwrite
    refine ⟨?_, by simp only [readText, withTree, htext]⟩
    rw [hps, List.perm_singleton.1
      ((List.perm_ext_iff_of_nodup hnodup (List.nodup_singleton _)).2 hone)]
  · cases hdone.2

end

end Project

end Acceptance
