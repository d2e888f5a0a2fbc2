import Acceptance.Project.Config
import Acceptance.Proofs.Files.Making
import Acceptance.Proofs.Json.Parsed
import Acceptance.Proofs.Json.Shapes

/-!
# Configurations saved and loaded

A configuration is settled when its step directories are a list and its switch is true or false.
Every configuration that was loaded is settled, since loading puts both into this form and takes
the other settings as they are; a settled one is what its own file is read as.

    c.Settled → Config.read path c.text = .ok c                                    (read_text)
    Config.read path s = .ok c → c.Settled                                     (settled_of_read)
    c.Settled → p saves c → loading gives c                            (loadConfig_saveConfig)
    p.TakesConfig → (p.saveConfig c).result = .ok p.configPath               (result_saveConfig)
-/

namespace Acceptance

open Json Acceptance.Text

/-! ## Algorithm -/

namespace Config

/-- A configuration whose settings have the kinds of a new one. -/
def shape : Shape :=
  .record [("version", .text), ("features_dir", .text), ("steps_dirs", .list .text),
    ("source_root", .text), ("templates_dir", .text), ("template", .optional .text),
    ("output_dir", .text), ("emit_crif", .flag)]

def Typed (c : Config) : Prop := Fits shape (.obj c.members)

/-- A configuration in the form that loading leaves. -/
structure Settled (c : Config) : Prop where
  dirs : ∃ dirs, c.stepsDirs = .arr dirs
  switch : ∃ b, c.snapshots = .bool b
  readable : ReadableMembers c.members

end Config

/-- A project whose configuration file can be written: no file stands on the way to its directory,
and no directory where the file is to stand. -/
structure Project.TakesConfig (p : Project) : Prop where
  isOpen : p.tree.Open p.configDirectory
  free : p.tree.node? (p.configPath.place p.tree.here) ≠ some .directory
  apart : p.configPath.place p.tree.here ∉ p.configDirectory.way p.tree.here

namespace Config

/-! ## The text of a configuration -/

/-- The kinds of the settings that a run reads. -/
structure Kinds (c : Config) : Prop where
  features : ∃ s, c.featuresDir = .str s
  dirs : ∃ dirs, c.stepsDirs = .arr dirs ∧ ∀ dir ∈ dirs, ∃ s, dir = .str s
  root : ∃ s, c.sourceRoot = .str s
  output : ∃ s, c.outputDir = .str s
  switch : ∃ b, c.snapshots = .bool b

theorem Typed.kinds {c : Config} (h : c.Typed) : c.Kinds := by
  obtain ⟨_, he, _, _, rfl, -, _, _, rfl, hfeatures, _, _, rfl, hdirs, _, _, rfl, hroot, _, _,
    rfl, -, _, _, rfl, -, _, _, rfl, houtput, _, _, rfl, hswitch, rfl⟩ := h
  simp only [members, Json.obj.injEq, List.cons.injEq, Prod.mk.injEq, and_true, true_and] at he
  obtain ⟨-, rfl, rfl, rfl, -, -, rfl, rfl⟩ := he
  exact ⟨hfeatures, hdirs, hroot, houtput, hswitch⟩

theorem Typed.settled {c : Config} (h : c.Typed) : c.Settled := by
  obtain ⟨dirs, hdirs, -⟩ := h.kinds.dirs
  exact ⟨⟨dirs, hdirs⟩, h.kinds.switch, (Fits.readable shape _ (by decide) h).2⟩

theorem Settled.object {c : Config} (h : c.Settled) : (Json.obj c.members).Readable :=
  ⟨by simp [members], h.readable⟩

theorem ofJson_members {c : Config} (h : c.Settled) : ofJson (.obj c.members) = .ok c := by
  obtain ⟨dirs, hdirs⟩ := h.dirs
  obtain ⟨b, hswitch⟩ := h.switch
  have hread : ofJson (.obj c.members) =
      .ok { c with stepsDirs := .arr dirs, snapshots := .bool b } := by
    simp [ofJson, member?, members, hdirs, hswitch, stepsDirsOf, items?, truthy]
  rw [hread, ← hdirs, ← hswitch]

/-- **A settled configuration is what its own text is read as.** -/
theorem read_text {c : Config} (h : c.Settled) (path : String) : read path c.text = .ok c := by
  rw [read, text, read_prettyAscii h.object]
  exact ofJson_members h

/-- The value of a setting, or the one of a new project. -/
theorem readable_setting {v default : Json} (h : v.Readable) (hdefault : default.Readable)
    (name : String) : ((v.member? name).getD default).Readable := by
  cases v with
  | obj members =>
    simp only [member?]
    cases hfound : members.find? fun m => m.1 == name with
    | none => exact hdefault
    | some m => exact readableMembers_iff.1 h.2 m (List.mem_of_find?_eq_some hfound)
  | null => exact hdefault
  | bool b => exact hdefault
  | int n => exact hdefault
  | decimal text => exact hdefault
  | str s => exact hdefault
  | arr items => exact hdefault

/-- Step directories are a list once they were read: a single text, the items of a list, or the
names of an object. -/
theorem exists_dirs_of_stepsDirsOf {v w : Json} (h : v.Readable) (hw : stepsDirsOf v = .ok w) :
    ∃ dirs, w = .arr dirs ∧ w.Readable := by
  cases v with
  | str s =>
    obtain rfl := Except.ok.inj hw
    exact ⟨_, rfl, trivial, trivial⟩
  | arr items =>
    obtain rfl := Except.ok.inj hw
    exact ⟨items, rfl, h⟩
  | obj members =>
    obtain rfl := Except.ok.inj hw
    refine ⟨_, rfl, readableItems_iff.2 fun item hi => ?_⟩
    obtain ⟨m, -, rfl⟩ := List.mem_map.1 hi
    trivial
  | null => cases hw
  | bool b => cases hw
  | int n => cases hw
  | decimal text => cases hw

theorem settled_of_ofJson {v : Json} {c : Config} (hv : v.Readable) (h : ofJson v = .ok c) :
    c.Settled := by
  unfold ofJson at h
  simp only at h
  split at h
  · cases h
  · next dirs hdirs =>
    have hstandard : standard.stepsDirs.Readable := ⟨trivial, trivial⟩
    obtain ⟨items, rfl, hitems⟩ :=
      exists_dirs_of_stepsDirsOf (readable_setting hv hstandard "steps_dirs") hdirs
    obtain rfl := Except.ok.inj h
    have htext : ∀ s : String, (Json.str s).Readable := fun _ => trivial
    have hnull : Json.null.Readable := trivial
    exact ⟨⟨items, rfl⟩, ⟨_, rfl⟩, readable_setting hv (htext _) _, readable_setting hv (htext _) _,
      hitems, readable_setting hv (htext _) _, readable_setting hv (htext _) _,
      readable_setting hv hnull _, readable_setting hv (htext _) _, trivial, trivial⟩

/-- **A configuration that was read is settled**, whatever the kinds of its settings. -/
theorem settled_of_read {path s : String} {c : Config} (h : read path s = .ok c) :
    c.Settled := by
  unfold read at h
  split at h
  · cases h
  · next members hv => exact settled_of_ofJson (readable_of_read hv) h
  · cases h

end Config

/-! ## Saving and loading -/

namespace Project

variable {p : Project} {c : Config}

/-- A setting names a path where it is a text. -/
theorem pathOf_eq_ok_iff {v : Json} {path : Path} :
    p.pathOf v = .ok path ↔ ∃ s, v = .str s ∧ path = p.root.«to» (.ofText s) := by
  cases v <;> simp [pathOf, Config.path, Except.map, eq_comm]

theorem configPath_eq (p : Project) : p.configPath = p.configDirectory.child "config.json" := rfl

theorem readText_of_written {t u : FileTree} {path : Path} {s : String} (ne : path.parts ≠ [])
    (hline : '\r' ∉ s.toList) (h : t.writeText path s = .ok u) : u.readText path = .ok s := by
  have hbytes := FileTree.readBytes_writeBytes ne h
  rw [FileTree.readText, hbytes]
  simp only [decode_toUTF8, unifyLineEnds_eq_self hline, String.ofList_toList]

/-- **A settled configuration that was saved is the one that is loaded.** -/
theorem loadConfig_saveConfig {path : Path} (hc : c.Settled)
    (h : (p.saveConfig c).result = .ok path) : (p.saveConfig c).project.loadConfig = .ok c := by
  have hline : '\r' ∉ c.text.toList := return_not_mem_prettyAscii hc.object 2
  have hparts : p.configPath.parts ≠ [] := by simp [configPath, Path.child]
  unfold saveConfig at h ⊢
  split at h
  · cases h
  · next t hmade =>
    split at h
    · cases h
    · next u hwrite =>
      have htext : (p.withTree u).readText p.configPath = .ok c.text := by
        simp only [readText, withTree, readText_of_written hparts hline hwrite]
      obtain ⟨l, hlook⟩ :=
        FileTree.readBytes_eq_ok_iff.1 (FileTree.readBytes_writeBytes hparts hwrite)
      have hholds : (p.withTree u).isInitialized = true := by
        show (u.isFile p.configPath || u.isDirectory p.configPath) = true
        rw [FileTree.isFile, hlook]
        rfl
      have hpath : (p.withTree u).configPath = p.configPath := rfl
      rw [loadConfig, if_pos hholds, hpath, htext]
      exact Config.read_text hc _

/-- **A project that takes a configuration file saves every configuration.** -/
theorem result_saveConfig (h : p.TakesConfig) (c : Config) :
    (p.saveConfig c).result = .ok p.configPath := by
  obtain ⟨u, hmade, hgrows, hway⟩ := h.isOpen.made
  have hnode := hgrows.outside h.apart
  have hwalkable : ∀ q ∈ p.configPath.parts, FileTree.Walkable q := by
    intro q hq
    rcases List.mem_append.1 hq with hq | hq
    · exact h.isOpen.walkable q hq
    · obtain rfl := List.mem_singleton.1 hq
      exact .inr (.inr (.inr (by decide)))
  have hwritten : u.writeText p.configPath c.text =
      .ok (u.putFile (p.configPath.place u.here) c.text.toUTF8) := by
    refine FileTree.writeBytes_child_eq_ok_iff.2 ⟨hwalkable, ?_, ?_, rfl⟩
    · rw [hgrows.here]
      exact hway
    · rw [hgrows.here]
      show u.node? (p.configPath.place p.tree.here) ≠ _
      rw [hnode]
      exact h.free
  unfold saveConfig
  simp only [hmade, hwritten]

theorem look_of_readText {path : Path} {s : String} (h : p.readText path = .ok s) :
    ∃ l b, p.tree.look path = .ok (l, .file b) := by
  unfold readText at h
  split at h
  · next hs => exact FileTree.look_of_readText hs
  · cases h

/-- A project with a configuration file that can be read takes another one in its place. -/
theorem takesConfig_of_readText {s : String} (h : p.readText p.configPath = .ok s) :
    p.TakesConfig := by
  obtain ⟨l, b, hlook⟩ := look_of_readText h
  obtain ⟨hlocate, hfile⟩ := FileTree.look_eq_ok_iff.1 hlook
  obtain ⟨hwalkable, hway, rfl⟩ := FileTree.locate_child_eq_ok_iff.1 hlocate
  have hnot : p.tree.node? (p.configPath.place p.tree.here) ≠ some .directory := by
    rw [configPath_eq, hfile]
    exact nofun
  refine ⟨⟨FileTree.creatable_of_directory (hway _ Path.start_mem_way),
    fun q hq => hwalkable q (List.mem_append_left _ hq), fun k hk b hb => ?_⟩, hnot,
    fun hmem => hnot (hway _ hmem)⟩
  rw [hway k hk] at hb
  cases hb

theorem read_of_loadConfig (h : p.loadConfig = .ok c) :
    ∃ s, p.readText p.configPath = .ok s ∧ Config.read p.configPath.text s = .ok c := by
  unfold loadConfig at h
  split at h
  · split at h
    · cases h
    · next s hs => exact ⟨s, hs, h⟩
  · cases h

/-- The configuration depends on what stands at the path of its file alone. -/
theorem loadConfig_congr {q : Project} (root : q.root = p.root)
    (look : q.tree.look p.configPath = p.tree.look p.configPath) : q.loadConfig = p.loadConfig := by
  have hpath : q.configPath = p.configPath := by rw [configPath, configDirectory, root]; rfl
  have hholds : q.isInitialized = p.isInitialized := by
    simp only [isInitialized, hpath, FileTree.holds, FileTree.isFile, FileTree.isDirectory, look]
  have htext : q.readText p.configPath = p.readText p.configPath := by
    rw [readText, readText, FileTree.readText_congr look]
  rw [loadConfig, loadConfig, hholds, hpath, htext]

/-- The configuration file of a project that has a configuration. -/
theorem look_config (h : p.loadConfig = .ok c) :
    ∃ l b, p.tree.look p.configPath = .ok (l ++ ["config.json"], .file b) := by
  obtain ⟨s, hs, -⟩ := read_of_loadConfig h
  obtain ⟨l, b, hlook⟩ := look_of_readText hs
  obtain ⟨-, -, rfl⟩ := FileTree.locate_child_eq_ok_iff.1 (FileTree.look_eq_ok_iff.1 hlook).1
  have hname : isName "config.json" = true := by decide
  rw [configPath_eq, Path.place_child, Location.onward_name hname] at hlook
  exact ⟨_, b, hlook⟩

/-! ## Top theorem -/

/-- **Saving and loading are inverse.**  A configuration of the declared kinds is loaded as it was
saved, and it is saved wherever its file can be written.  A configuration that was loaded from any
content without fractions is saved, and loaded again as it was. -/
theorem config_roundtrip (p : Project) (c : Config) :
    (c.Typed →
      (∀ path, (p.saveConfig c).result = .ok path →
        (p.saveConfig c).project.loadConfig = .ok c) ∧
      (p.TakesConfig → (p.saveConfig c).result = .ok p.configPath)) ∧
    ∀ s v, p.readText p.configPath = .ok s → Json.read s = .ok v → v.Exact →
      p.loadConfig = .ok c →
        (p.saveConfig c).result = .ok p.configPath ∧
          (p.saveConfig c).project.loadConfig = .ok c := by
  refine ⟨fun hc => ⟨fun path h => loadConfig_saveConfig hc.settled h,
    fun h => result_saveConfig h c⟩, fun s v hs _ _ hload => ?_⟩
  obtain ⟨s', hs', hread⟩ := read_of_loadConfig hload
  obtain rfl : s = s' := Except.ok.inj (hs.symm.trans hs')
  have hsaved := result_saveConfig (takesConfig_of_readText hs) c
  exact ⟨hsaved, loadConfig_saveConfig (Config.settled_of_read hread) hsaved⟩

/-- A configuration file with one step directory as a text, a number for the switch, and a member
that is no setting. -/
def terseText : String := "\x7b\"steps_dirs\": \"steps\", \"emit_crif\": 1, \"x\": []\x7d"

def terse : Project :=
  { root := ⟨1, []⟩
    tree := ((FileTree.empty []).putDirectory [".feature-gen"]).putFile
      [".feature-gen", "config.json"] terseText.toUTF8 }

def terseConfig : Config :=
  { Config.standard with stepsDirs := .arr [.str "steps"], snapshots := .bool true }

/-- A configuration with a text that is written in escapes. -/
def spelledConfig : Config := { Config.standard with featuresDir := .str "sp\u00e9cs \"😀\"\n" }

theorem terse_saved_and_loaded :
    (terse.loadConfig = .ok terseConfig ∧
      (terse.saveConfig terseConfig).project.loadConfig = .ok terseConfig) ∧
    (terse.saveConfig spelledConfig).result = .ok terse.configPath ∧
      (terse.saveConfig spelledConfig).project.loadConfig = .ok spelledConfig := by
  have htext : terse.readText terse.configPath = .ok terseText := by rfl
  have hread : Json.read terseText =
      .ok (.obj [("steps_dirs", .str "steps"), ("emit_crif", .int 1), ("x", .arr [])]) := by
    have hcompact : terseText = Json.compact (.obj
        [("steps_dirs", .str "steps"), ("emit_crif", .int 1), ("x", .arr [])]) := by
      decide +kernel
    have hreadable : (Json.obj [("steps_dirs", .str "steps"), ("emit_crif", .int 1),
        ("x", .arr [])]).Readable := ⟨by simp, trivial, trivial, trivial, trivial⟩
    rw [hcompact, Json.read_compact hreadable]
  have hexact : (Json.obj [("steps_dirs", .str "steps"), ("emit_crif", .int 1),
      ("x", .arr [])]).Exact := ⟨trivial, trivial, trivial, trivial⟩
  have hload : terse.loadConfig = .ok terseConfig := by
    have hholds : terse.isInitialized = true := by rfl
    rw [loadConfig, if_pos hholds, htext]
    show Config.read _ terseText = _
    rw [Config.read, hread]
    rfl
  have htyped : spelledConfig.Typed :=
    ⟨_, rfl, _, _, rfl, fits_str _, _, _, rfl, fits_str _, _, _, rfl,
      ⟨_, rfl, List.forall_mem_singleton.2 (fits_str _)⟩, _, _, rfl, fits_str _, _, _, rfl,
      fits_str _, _, _, rfl, .inl rfl, _, _, rfl, fits_str _, _, _, rfl, ⟨_, rfl⟩, rfl⟩
  obtain ⟨hback, hsaves⟩ := (config_roundtrip terse spelledConfig).1 htyped
  have hsaved := hsaves (takesConfig_of_readText htext)
  exact ⟨⟨hload, ((config_roundtrip terse terseConfig).2 _ _ htext hread hexact hload).2⟩,
    hsaved, hback _ hsaved⟩

end Project

end Acceptance
