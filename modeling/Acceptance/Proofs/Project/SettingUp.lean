import Acceptance.Project.Setup
import Acceptance.Proofs.Files.Blocked
import Acceptance.Proofs.Files.Found
import Acceptance.Proofs.Project.Configurations

/-!
# Projects that are set up

Setting up a project writes its configuration file and adds what is missing.  What a step of it has
made stays through all that is added later, so the step has nothing left to do when it is taken
again, and the whole changes nothing a second time.

    p.setUp c = ⟨q, .ok s⟩ → p and q differ in the configuration file and in what was added
                                                                              (setUp_keeps)
    p.installTemplate c = ⟨q, .ok installed⟩ ↔ the bundled template was written, or something is
      listed that ends as templates do                                        (installTemplate_eq_ok_iff)
    p.setUp c = ⟨q, .ok s⟩ → Done (·.setUp c) q                               (setUp_done)
    p.setUp c = ⟨q, .ok s⟩ → c.Settled → q.loadConfig = .ok c                 (setUp_loads)
-/

namespace Acceptance

namespace FileTree

/-- Whatever stood still stands. -/
def Adds : FileTree → FileTree → Prop := Keeps fun _ => False

variable {t u : FileTree} {p : Path} {b : ByteArray}

theorem Adds.node? (h : Adds t u) {l : Location} {n : Node} (hl : t.node? l = some n) :
    u.node? l = some n := Keeps.node? h id hl

theorem Adds.look (h : Adds t u) {l : Location} {n : Node} (hl : t.look p = .ok (l, n)) :
    u.look p = .ok (l, n) := Keeps.look h id hl

theorem adds_ensureAll (h : t.ensureAll p = (u, none)) : Adds t u := by
  have hkeeps := keeps_ensureAll (fun _ => False) t p
  rw [h] at hkeeps
  exact hkeeps

/-- A file that is written where nothing stood is added. -/
theorem adds_writeBytes (h : t.writeBytes p b = .ok u) (free : t.node? (p.place t.here) = none) :
    Adds t u := by
  have hkeeps := keeps_writeBytes h
  refine ⟨hkeeps.here, hkeeps.directory, fun k b _ hk => hkeeps.file k b ?_ hk⟩
  rintro rfl
  rw [free] at hk
  cases hk

/-- The directory of a place that is found is there. -/
theorem look_of_locate_child {part : String} {l : Location} (h : t.locate (p.child part) = .ok l) :
    t.look p = .ok (p.place t.here, .directory) := by
  obtain ⟨hwalkable, hway, -⟩ := locate_child_eq_ok_iff.1 h
  exact look_of_way (fun q hq => hwalkable q (List.mem_append_left _ hq)) hway

/-- The directory of a file that is read is there. -/
theorem look_of_readBytes_child {part : String} (h : t.readBytes (p.child part) = .ok b) :
    t.look p = .ok (p.place t.here, .directory) := by
  obtain ⟨l, hlook⟩ := readBytes_eq_ok_iff.1 h
  exact look_of_locate_child (look_eq_ok_iff.1 hlook).1

/-- So is that of a file that is written. -/
theorem look_of_writeBytes_child {part : String} (h : t.writeBytes (p.child part) b = .ok u) :
    t.look p = .ok (p.place t.here, .directory) := by
  obtain ⟨l, hl, -, -⟩ := writeBytes_eq_ok_iff.1 h
  exact look_of_locate_child hl

/-- What a directory lists right below it. -/
theorem mem_list_iff {q : Path} {accepts : String → Bool} {l : Location}
    (h : t.look p = .ok (l, .directory)) : q ∈ t.list p accepts ↔
      ∃ name n, t.node? (l ++ [name]) = some n ∧ accepts name = true ∧ q = p.child name := by
  obtain ⟨hlocate, -⟩ := look_eq_ok_iff.1 h
  rw [list, List.mem_filter, mem_find_iff, beq_iff_eq]
  constructor
  · rintro ⟨⟨haccepts, k, names, n, hk, hne, hn, rfl⟩, hlength⟩
    obtain rfl := Except.ok.inj (hlocate.symm.trans hk)
    have hone : names.length = 1 := by
      simpa [Path.down] using hlength
    obtain ⟨name, rfl⟩ := List.length_eq_one_iff.1 hone
    rw [Path.name_down hne] at haccepts
    exact ⟨name, n, hn, haccepts, rfl⟩
  · rintro ⟨name, n, hn, haccepts, rfl⟩
    refine ⟨⟨?_, l, [name], n, hlocate, by simp, hn, rfl⟩, by simp [Path.child]⟩
    simpa [Path.name, Path.child] using haccepts

/-- A directory that lists something is there. -/
theorem look_of_list {accepts : String → Bool} (h : t.list p accepts ≠ []) :
    t.look p = .ok (p.place t.here, .directory) := by
  obtain ⟨q, hq⟩ := List.exists_mem_of_ne_nil _ h
  obtain ⟨-, l, names, n, hl, hne, hn, -⟩ := mem_find_iff.1 (List.mem_filter.1 hq).1
  rw [← locate_place hl]
  exact look_eq_ok_iff.2 ⟨hl, node?_above hne hn⟩

end FileTree

namespace Project

variable {p q r : Project} {c : Config}

/-! ## Projects that grow -/

/-- A project behind requests that add to it. -/
structure Adds (p q : Project) : Prop where
  root : q.root = p.root
  tree : p.tree.Adds q.tree

theorem Adds.refl (p : Project) : p.Adds p := ⟨rfl, .refl _ _⟩

theorem Adds.trans (h : p.Adds q) (h' : q.Adds r) : p.Adds r :=
  ⟨h'.root.trans h.root, FileTree.Keeps.trans h.tree h'.tree⟩

/-- A request that succeeds and changes nothing, now and behind whatever is added. -/
def Done {α : Type} (request : Project → Changed α) (p : Project) : Prop :=
  ∀ q, p.Adds q → ∃ a, request q = ⟨q, .ok a⟩

theorem Done.adds {α : Type} {request : Project → Changed α} (h : Done request p) (hq : p.Adds q) :
    Done request q := fun r hr => h r (hq.trans hr)

/-- A project whose paths start in directories. -/
def Rooted (p : Project) : Prop := p.tree.node? (p.root.start p.tree.here) = some .directory

theorem Rooted.adds (h : p.Rooted) (hq : p.Adds q) : q.Rooted := by
  rw [Rooted, hq.root, hq.tree.here]
  exact hq.tree.node? h

theorem Rooted.creatable (h : p.Rooted) {v : Json} {path : Path} (hv : p.pathOf v = .ok path) :
    p.tree.Creatable (path.start p.tree.here) := by
  obtain ⟨s, -, rfl⟩ := pathOf_eq_ok_iff.1 hv
  refine FileTree.creatable_of_directory ?_
  unfold Path.«to»
  split
  · next habsolute =>
    rw [Path.start, if_pos habsolute]
    exact FileTree.node?_nil _
  · exact h

/-! ## The configuration file -/

theorem loadConfig_adds (h : p.loadConfig = .ok c) (hq : p.Adds q) : q.loadConfig = .ok c := by
  obtain ⟨l, b, hlook⟩ := look_config h
  rw [← h]
  exact loadConfig_congr hq.root ((hq.tree.look hlook).trans hlook.symm)

/-- What saving a configuration comes to. -/
theorem saveConfig_eq_ok_iff {path : Path} :
    p.saveConfig c = ⟨q, .ok path⟩ ↔ ∃ t u, p.tree.ensureAll p.configDirectory = (t, none) ∧
      t.writeText p.configPath c.text = .ok u ∧ q = p.withTree u ∧ path = p.configPath := by
  unfold saveConfig
  cases hmade : p.tree.ensureAll p.configDirectory with
  | mk t e? =>
    cases e? with
    | some e => simp
    | none =>
      simp only [Prod.mk.injEq, and_true, exists_and_left, exists_eq_left']
      cases hwrite : t.writeText p.configPath c.text with
      | error e => simp
      | ok u => simp [eq_comm]

section
variable {path : Path} (h : p.saveConfig c = ⟨q, .ok path⟩)

include h

theorem saveConfig_keeps :
    q.root = p.root ∧ FileTree.Keeps (· = p.configPath.place p.tree.here) p.tree q.tree := by
  obtain ⟨t, u, hmade, hwrite, rfl, -⟩ := saveConfig_eq_ok_iff.1 h
  have hkeeps := FileTree.keeps_ensureAll (· = p.configPath.place p.tree.here) p.tree
    p.configDirectory
  rw [hmade] at hkeeps
  have hhere : t.here = p.tree.here := hkeeps.here
  have hwritten := FileTree.keeps_writeBytes hwrite
  rw [hhere] at hwritten
  exact ⟨rfl, hkeeps.trans hwritten⟩

theorem saveConfig_written : q.tree.readBytes q.configPath = .ok c.text.toUTF8 := by
  obtain ⟨t, u, -, hwrite, rfl, -⟩ := saveConfig_eq_ok_iff.1 h
  exact FileTree.readBytes_writeBytes (by simp [configPath, Path.child]) hwrite

theorem saveConfig_rooted : q.Rooted := by
  obtain ⟨l, hlook⟩ := FileTree.readBytes_eq_ok_iff.1 (saveConfig_written h)
  obtain ⟨-, hway, -⟩ := FileTree.locate_child_eq_ok_iff.1 (FileTree.look_eq_ok_iff.1 hlook).1
  exact hway _ Path.start_mem_way

/-- A configuration that was saved is saved again. -/
theorem saveConfig_done : Done (·.saveConfig c) q := by
  intro r hr
  have hpath : r.configPath = q.configPath := by rw [configPath, configDirectory, hr.root]; rfl
  obtain ⟨l, hlook⟩ := FileTree.readBytes_eq_ok_iff.1 (saveConfig_written h)
  have hbytes : r.tree.readBytes r.configPath = .ok c.text.toUTF8 := by
    rw [hpath]
    exact FileTree.readBytes_eq_ok_iff.2 ⟨l, hr.tree.look hlook⟩
  exact ⟨_, saveConfig_eq_ok_iff.2 ⟨r.tree, r.tree,
    FileTree.ensureAll_of_look (FileTree.look_of_readBytes_child hbytes),
    FileTree.writeBytes_same hbytes, rfl, rfl⟩⟩

end

/-! ## Directories -/

theorem makeSetting_eq_ok_iff {v : Json} {path : Path} :
    p.makeSetting v = ⟨q, .ok path⟩ ↔ ∃ t, p.pathOf v = .ok path ∧
      p.tree.ensureAll path = (t, none) ∧ q = p.withTree t := by
  unfold makeSetting
  cases hv : p.pathOf v with
  | error e => simp
  | ok path' =>
    cases hmade : p.tree.ensureAll path' with
    | mk t e? =>
      cases e? with
      | some e =>
        simp only [hmade, Changed.mk.injEq, reduceCtorEq, and_false, Except.ok.injEq, false_iff]
        rintro ⟨u, rfl, hu, -⟩
        rw [hmade] at hu
        cases hu
      | none =>
        simp only [hmade, Changed.mk.injEq, Except.ok.injEq]
        constructor
        · rintro ⟨rfl, rfl⟩
          exact ⟨t, rfl, hmade, rfl⟩
        · rintro ⟨u, rfl, hu, rfl⟩
          obtain ⟨rfl, -⟩ := Prod.mk.inj (hmade.symm.trans hu)
          exact ⟨rfl, rfl⟩

theorem look_of_made {t : FileTree} {v : Json} {path : Path} (rooted : p.Rooted)
    (hv : p.pathOf v = .ok path) (h : p.tree.ensureAll path = (t, none)) :
    t.look path = .ok (path.place t.here, .directory) :=
  FileTree.look_of_ensureAll h (rooted.creatable hv)

/-- The directory of a setting is made once. -/
theorem makeSetting_done {v : Json} {path : Path} (rooted : p.Rooted)
    (h : p.makeSetting v = ⟨q, .ok path⟩) : p.Adds q ∧ Done (·.makeSetting v) q := by
  obtain ⟨t, hv, hmade, rfl⟩ := makeSetting_eq_ok_iff.1 h
  refine ⟨⟨rfl, FileTree.adds_ensureAll hmade⟩, fun r hr => ⟨path, ?_⟩⟩
  have hlook := hr.tree.look (look_of_made rooted hv hmade)
  have hpath : r.pathOf v = .ok path := by
    rw [pathOf, hr.root]
    exact hv
  exact makeSetting_eq_ok_iff.2 ⟨r.tree, hpath, FileTree.ensureAll_of_look hlook, rfl⟩

theorem makeSettings_done {vs : List Json} (rooted : p.Rooted)
    (h : p.makeSettings vs = ⟨q, .ok ()⟩) : p.Adds q ∧ Done (·.makeSettings vs) q := by
  induction vs generalizing p with
  | nil =>
    obtain ⟨rfl, -⟩ := Changed.mk.inj h
    exact ⟨.refl _, fun r _ => ⟨(), rfl⟩⟩
  | cons v vs ih =>
    rw [makeSettings] at h
    split at h
    · cases h
    · next m path hm =>
      obtain ⟨hadds, hdone⟩ := makeSetting_done rooted hm
      obtain ⟨hrest, hrests⟩ := ih (rooted.adds hadds) h
      refine ⟨hadds.trans hrest, fun r hr => ?_⟩
      obtain ⟨path, hpath : r.makeSetting v = _⟩ := hdone r (hrest.trans hr)
      show ∃ a, r.makeSettings (v :: vs) = _
      rw [makeSettings, hpath]
      exact hrests r hr

theorem makeStepsDirs_done (rooted : p.Rooted) (h : p.makeStepsDirs c = ⟨q, .ok ()⟩) :
    p.Adds q ∧ Done (·.makeStepsDirs c) q := by
  unfold makeStepsDirs at h
  cases hitems : Config.items? c.stepsDirs with
  | none =>
    rw [hitems] at h
    cases h
  | some items =>
    rw [hitems] at h
    obtain ⟨hadds, hdone⟩ := makeSettings_done rooted h
    refine ⟨hadds, fun r hr => ?_⟩
    obtain ⟨a, ha⟩ := hdone r hr
    refine ⟨a, ?_⟩
    simp only [makeStepsDirs, hitems]
    exact ha

/-! ## The template -/

/-- What installing the template comes to: the bundled one is written where nothing in the template
directory ends as templates do. -/
theorem installTemplate_eq_ok_iff {installed : Option Path} :
    p.installTemplate c = ⟨q, .ok installed⟩ ↔ ∃ directory t,
      p.pathOf c.templatesDir = .ok directory ∧ p.tree.ensureAll directory = (t, none) ∧
      if t.list directory (hasEnding templateEnding) = [] then
        ∃ u, t.writeText (directory.child bundledName) Template.bundled = .ok u ∧
          q = p.withTree u ∧ installed = some (directory.child bundledName)
      else q = p.withTree t ∧ installed = none := by
  have hwritten : ∀ {directory : Path} {t : FileTree}, p.pathOf c.templatesDir = .ok directory →
      p.tree.ensureAll directory = (t, none) → (p.installTemplate c = ⟨q, .ok installed⟩ ↔
        if t.list directory (hasEnding templateEnding) = [] then
          ∃ u, t.writeText (directory.child bundledName) Template.bundled = .ok u ∧
            q = p.withTree u ∧ installed = some (directory.child bundledName)
        else q = p.withTree t ∧ installed = none) := by
    intro directory t hv hmade
    simp only [installTemplate, hv, hmade, List.isEmpty_iff]
    split
    · cases t.writeText (directory.child bundledName) Template.bundled with
      | error e => simp
      | ok u =>
        simp only [Changed.mk.injEq, Except.ok.injEq, exists_eq_left']
        exact and_congr eq_comm eq_comm
    · simp only [Changed.mk.injEq, Except.ok.injEq]
      exact and_congr eq_comm eq_comm
  constructor
  · intro h
    cases hv : p.pathOf c.templatesDir with
    | error e => simp [installTemplate, hv] at h
    | ok directory =>
      cases hmade : p.tree.ensureAll directory with
      | mk t e? =>
        cases e? with
        | some e => simp [installTemplate, hv, hmade] at h
        | none => exact ⟨directory, t, rfl, hmade, (hwritten hv hmade).1 h⟩
  · rintro ⟨directory, t, hv, hmade, hdone⟩
    exact (hwritten hv hmade).2 hdone

/-- Where something in the template directory ends as templates do nothing is installed. -/
theorem installTemplate_none {directory : Path} {l : Location} {name : String} {n : Node}
    (hv : p.pathOf c.templatesDir = .ok directory)
    (hlook : p.tree.look directory = .ok (l, .directory))
    (there : p.tree.node? (l ++ [name]) = some n) (ending : hasEnding templateEnding name = true) :
    p.installTemplate c = ⟨p, .ok none⟩ := by
  have hsome : p.tree.list directory (hasEnding templateEnding) ≠ [] :=
    List.ne_nil_of_mem ((FileTree.mem_list_iff hlook).2 ⟨name, n, there, ending, rfl⟩)
  refine installTemplate_eq_ok_iff.2 ⟨directory, p.tree, hv, FileTree.ensureAll_of_look hlook, ?_⟩
  rw [if_neg hsome]
  exact ⟨rfl, rfl⟩

/-- The template directory is there once a template was installed. -/
theorem look_of_installTemplate {installed : Option Path}
    (h : p.installTemplate c = ⟨q, .ok installed⟩) :
    ∃ directory, q.pathOf c.templatesDir = .ok directory ∧
      q.tree.look directory = .ok (directory.place q.tree.here, .directory) := by
  obtain ⟨directory, t, hv, -, hdone⟩ := installTemplate_eq_ok_iff.1 h
  refine ⟨directory, ?_⟩
  split at hdone
  · obtain ⟨u, hwrite, rfl, -⟩ := hdone
    exact ⟨hv, FileTree.look_of_readBytes_child
      (FileTree.readBytes_writeBytes (by simp [Path.child]) hwrite)⟩
  · next hsome =>
    obtain ⟨rfl, -⟩ := hdone
    exact ⟨hv, FileTree.look_of_list hsome⟩

theorem ending_bundledName : hasEnding templateEnding bundledName = true := by decide

theorem place_bundled (directory : Path) (here : Location) :
    (directory.child bundledName).place here = directory.place here ++ [bundledName] := by
  have hname : isName bundledName = true := by decide
  rw [Path.place_child, Location.onward_name hname]

/-- The bundled template is installed once, in a place where nothing stood. -/
theorem installTemplate_done {template : Option Path}
    (h : p.installTemplate c = ⟨q, .ok template⟩) :
    p.Adds q ∧ Done (·.installTemplate c) q := by
  obtain ⟨directory, t, hv, hmade, hdone⟩ := installTemplate_eq_ok_iff.1 h
  have hpath : ∀ r : Project, r.root = p.root → r.pathOf c.templatesDir = .ok directory :=
    fun r hr => by rw [pathOf, hr]; exact hv
  have hadds : p.Adds (p.withTree t) := ⟨rfl, FileTree.adds_ensureAll hmade⟩
  split at hdone
  · next hempty =>
    obtain ⟨u, hwrite, rfl, -⟩ := hdone
    have hlook := FileTree.look_of_writeBytes_child hwrite
    -- what stood in its place would have been listed
    have hfree : t.node? ((directory.child bundledName).place t.here) = none := by
      rw [place_bundled]
      refine Option.eq_none_iff_forall_ne_some.2 fun n hn => ?_
      have hmem := (FileTree.mem_list_iff hlook).2 ⟨bundledName, n, hn, ending_bundledName, rfl⟩
      rw [hempty] at hmem
      contradiction
    have hwritten := FileTree.adds_writeBytes hwrite hfree
    have hnode := FileTree.node?_writeBytes hwrite ((directory.child bundledName).place t.here)
    rw [if_pos rfl, place_bundled] at hnode
    refine ⟨hadds.trans ⟨rfl, hwritten⟩, fun r hr => ⟨none, ?_⟩⟩
    exact installTemplate_none (hpath r hr.root) (hr.tree.look (hwritten.look hlook))
      (hr.tree.node? hnode) ending_bundledName
  · next hsome =>
    obtain ⟨rfl, -⟩ := hdone
    obtain ⟨listed, hlisted⟩ := List.exists_mem_of_ne_nil _ hsome
    have hlook := FileTree.look_of_list hsome
    obtain ⟨name, n, hn, hending, -⟩ := (FileTree.mem_list_iff hlook).1 hlisted
    refine ⟨hadds, fun r hr => ⟨none, ?_⟩⟩
    exact installTemplate_none (hpath r hr.root) (hr.tree.look hlook) (hr.tree.node? hn) hending

/-! ## The whole -/

section
variable {s : SetUp} (h : p.setUp c = ⟨q, .ok s⟩)

include h

/-- Behind the configuration file a project grows, and no step of setting up is left to do. -/
theorem setUp_steps : ∃ m path, p.saveConfig c = ⟨m, .ok path⟩ ∧ m.Adds q ∧
    Done (·.setUp c) q := by
  unfold setUp at h
  split at h
  · cases h
  · next m path hsave =>
    have hrooted := saveConfig_rooted hsave
    split at h
    · cases h
    · next f features hfeatures =>
      obtain ⟨haddsF, hdoneF⟩ := makeSetting_done hrooted hfeatures
      split at h
      · cases h
      · next d hdirs =>
        obtain ⟨haddsD, hdoneD⟩ := makeStepsDirs_done (hrooted.adds haddsF) hdirs
        split at h
        · cases h
        · next i template htemplate =>
          obtain ⟨rfl, -⟩ := Changed.mk.inj h
          obtain ⟨haddsT, hdoneT⟩ := installTemplate_done htemplate
          refine ⟨m, path, hsave, (haddsF.trans haddsD).trans haddsT, fun r hr => ?_⟩
          have hlast := haddsD.trans (haddsT.trans hr)
          obtain ⟨config, hconfig : r.saveConfig c = _⟩ :=
            saveConfig_done hsave r (haddsF.trans hlast)
          obtain ⟨features, hfeatures : r.makeSetting c.featuresDir = _⟩ := hdoneF r hlast
          obtain ⟨⟨⟩, hdirs : r.makeStepsDirs c = _⟩ := hdoneD r (haddsT.trans hr)
          obtain ⟨template, htemplate : r.installTemplate c = _⟩ := hdoneT r hr
          refine ⟨⟨config, features, template⟩, ?_⟩
          simp only [setUp, hconfig, hfeatures, hdirs, htemplate]

/-- Setting up ends with the template. -/
theorem setUp_installs : ∃ before : Project, before.installTemplate c = ⟨q, .ok s.template⟩ := by
  unfold setUp at h
  split at h
  · cases h
  · split at h
    · cases h
    · split at h
      · cases h
      · split at h
        · cases h
        · next template htemplate =>
          obtain ⟨rfl, hs⟩ := Changed.mk.inj h
          obtain rfl := Except.ok.inj hs
          exact ⟨_, htemplate⟩

/-- Setting up keeps all but the configuration file. -/
theorem setUp_keeps :
    q.root = p.root ∧ FileTree.Keeps (· = p.configPath.place p.tree.here) p.tree q.tree := by
  obtain ⟨m, path, hsave, hadds, -⟩ := setUp_steps h
  obtain ⟨hroot, hkeeps⟩ := saveConfig_keeps hsave
  exact ⟨hadds.root.trans hroot, hkeeps.trans (hadds.tree.mono fun _ => False.elim)⟩

theorem setUp_done : Done (·.setUp c) q := by
  obtain ⟨-, -, -, -, hdone⟩ := setUp_steps h
  exact hdone

theorem setUp_loads (hc : c.Settled) : q.loadConfig = .ok c := by
  obtain ⟨m, path, hsave, hadds, -⟩ := setUp_steps h
  have hload : (p.saveConfig c).project.loadConfig = .ok c :=
    loadConfig_saveConfig hc (congrArg Changed.result hsave)
  rw [hsave] at hload
  exact loadConfig_adds hload hadds

end

end Project

end Acceptance
