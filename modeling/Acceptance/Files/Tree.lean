import Acceptance.Files.Path
import Acceptance.Text.Quoted

/-!
# Trees of files

A tree holds directories and files under their locations, each below a directory of the tree.  A
path is walked part by part through directories; what stands at its end need not exist.  A path
with a null character is refused before the first step.

    (t.putFile l b).node? k = if k = l then some (.file b) else t.node? k      (node?_putFile)
    t.find p accepts          all that lies below a directory, by its name
-/

namespace Acceptance

open Acceptance.Text

/-- The parts that lead from the root to a place. -/
abbrev Location := List String

inductive Node where
  | directory
  | file (bytes : ByteArray)

instance : DecidableEq Node
  | .directory, .directory => .isTrue rfl
  | .directory, .file _ => .isFalse nofun
  | .file _, .directory => .isFalse nofun
  | .file a, .file b =>
    if h : a.data = b.data then .isTrue (congrArg Node.file (ByteArray.ext h))
    else .isFalse fun he => h (congrArg ByteArray.data (Node.file.inj he))

/-- The most bytes that a name may have. -/
def longestName : Nat := 255

/-- Whether a part names something in a directory. -/
def isName (part : String) : Bool :=
  Path.isPart part && part != ".." && !Path.hasNullChar part &&
    decide (part.utf8ByteSize ≤ longestName)

/-- The directories and files below the root, and the directory that relative paths start from. -/
structure FileTree where
  here : Location
  nodes : List (Location × Node)
  distinct : (nodes.map Prod.fst).Nodup
  rooted : ∀ l n, (l, n) ∈ nodes →
    l ≠ [] ∧ (l.dropLast = [] ∨ (l.dropLast, Node.directory) ∈ nodes)
  named : ∀ l n, (l, n) ∈ nodes → l.all isName = true

/-! ## Faults -/

inductive FileFault where
  | missing
  | notDirectory
  | present
  | isDirectory
  | nameTooLong
  /-- A path with a null character, which is no fault of the tree. -/
  | nullByte
  deriving Repr, DecidableEq

/-- A fault at the path of the request that failed. -/
structure FileError where
  fault : FileFault
  path : String
  deriving Repr, DecidableEq

def FileFault.number? : FileFault → Option String
  | missing => some "2"
  | present => some "17"
  | notDirectory => some "20"
  | isDirectory => some "21"
  | nameTooLong => some "36"
  | nullByte => none

def FileFault.message : FileFault → String
  | missing => "No such file or directory"
  | present => "File exists"
  | notDirectory => "Not a directory"
  | isDirectory => "Is a directory"
  | nameTooLong => "File name too long"
  | nullByte => "embedded null byte"

def FileError.message (e : FileError) : String :=
  match e.fault.number? with
  | some n => "[Errno " ++ n ++ "] " ++ e.fault.message ++ ": " ++ literal e.path
  | none => e.fault.message

namespace FileTree

/-! ## Looking up -/

/-- A tree without files. -/
def empty (here : Location) : FileTree :=
  { here, nodes := [], distinct := by simp, rooted := by simp, named := by simp }

def node? (t : FileTree) (l : Location) : Option Node :=
  if l = [] then some .directory else (t.nodes.find? fun e => e.1 == l).map (·.2)

/-- One step from a place. -/
def step (t : FileTree) (l : Location) (part : String) : Except FileFault Location :=
  match t.node? l with
  | none => .error .missing
  | some (.file _) => .error .notDirectory
  | some .directory =>
    if part = "" ∨ part = "." then .ok l
    else if part = ".." then .ok l.dropLast
    else if part.utf8ByteSize > longestName then .error .nameTooLong
    else if isName part then .ok (l ++ [part])
    else .error .missing

/-- The place that parts lead to from another one. -/
def walk (t : FileTree) : Location → List String → Except FileFault Location
  | l, [] => .ok l
  | l, part :: parts =>
    match t.step l part with
    | .error f => .error f
    | .ok m => walk t m parts

/-- The place that a path leads to. -/
def locate (t : FileTree) (p : Path) : Except FileFault Location :=
  if p.hasNull then .error .nullByte
  else t.walk (if p.isAbsolute then [] else t.here) p.parts

/-- What stands at the end of a path. -/
def look (t : FileTree) (p : Path) : Except FileFault (Location × Node) :=
  match t.locate p with
  | .error f => .error f
  | .ok l =>
    match t.node? l with
    | none => .error .missing
    | some n => .ok (l, n)

/-- What stands at the end of a path, if anything does; only a name that is too long is a fault. -/
def probe (t : FileTree) (p : Path) : Except FileError (Option Node) :=
  match t.look p with
  | .ok (_, n) => .ok (some n)
  | .error .nameTooLong => .error ⟨.nameTooLong, p.text⟩
  | .error _ => .ok none

def isFile (t : FileTree) (p : Path) : Bool :=
  match t.look p with
  | .ok (_, .file _) => true
  | _ => false

def isDirectory (t : FileTree) (p : Path) : Bool :=
  match t.look p with
  | .ok (_, .directory) => true
  | _ => false

def holds (t : FileTree) (p : Path) : Bool := t.isFile p || t.isDirectory p

/-- The bytes of a file. -/
def readBytes (t : FileTree) (p : Path) : Except FileError ByteArray :=
  match t.look p with
  | .error f => .error ⟨f, p.text⟩
  | .ok (_, .directory) => .error ⟨.isDirectory, p.text⟩
  | .ok (_, .file bytes) => .ok bytes

/-! ## Listing -/

/-- The places below another one. -/
def placesBelow (t : FileTree) (l : Location) : List Location :=
  (t.nodes.map (·.1)).filter fun k => l.isPrefixOf k && k != l

/-- The paths of what lies below a directory. -/
def contents (t : FileTree) (p : Path) : List Path :=
  match t.look p with
  | .ok (l, .directory) => (t.placesBelow l).map fun k => ⟨p.slashes, p.parts ++ k.drop l.length⟩
  | _ => []

/-- The paths below a directory whose names are accepted, in order. -/
def find (t : FileTree) (p : Path) (accepts : String → Bool) : List Path :=
  Path.sort ((t.contents p).filter fun q => accepts q.name)

/-- The paths right below a directory whose names are accepted, in order. -/
def list (t : FileTree) (p : Path) (accepts : String → Bool) : List Path :=
  (t.find p accepts).filter fun q => q.parts.length == p.parts.length + 1

/-! ## Lemmas on places -/

theorem find?_of_mem {l : Location} {n : Node} {nodes : List (Location × Node)}
    (distinct : (nodes.map Prod.fst).Nodup) (h : (l, n) ∈ nodes) :
    nodes.find? (fun e => e.1 == l) = some (l, n) := by
  induction nodes with
  | nil => simp at h
  | cons e nodes ih =>
    simp only [List.map_cons, List.nodup_cons] at distinct
    rcases List.mem_cons.1 h with rfl | h
    · simp
    · have hne : e.1 ≠ l := fun he => distinct.1 (he ▸ List.mem_map.2 ⟨(l, n), h, rfl⟩)
      rw [List.find?_cons_of_neg (by simpa using hne)]
      exact ih distinct.2 h

theorem mem_of_node? {t : FileTree} {l : Location} {n : Node} (hl : l ≠ [])
    (h : t.node? l = some n) : (l, n) ∈ t.nodes := by
  simp only [node?, hl, if_false, Option.map_eq_some_iff] at h
  obtain ⟨⟨k, m⟩, hf, rfl⟩ := h
  have hk := List.find?_some hf
  simp only [beq_iff_eq] at hk
  exact hk ▸ List.mem_of_find?_eq_some hf

theorem node?_of_mem {t : FileTree} {l : Location} {n : Node} (h : (l, n) ∈ t.nodes) :
    t.node? l = some n := by
  simp [node?, (t.rooted l n h).1, find?_of_mem t.distinct h]

theorem not_mem_of_node? {t : FileTree} {l : Location} (h : t.node? l = none) :
    l ∉ t.nodes.map Prod.fst := by
  intro hm
  obtain ⟨⟨k, n⟩, hk, rfl⟩ := List.mem_map.1 hm
  rw [node?_of_mem hk] at h
  cases h

theorem exists_mem_of_mem_replaced {nodes : List (Location × Node)} {l k : Location} {n m : Node}
    (h : (k, m) ∈ nodes.map fun e => if e.1 = l then (l, n) else e) : ∃ m', (k, m') ∈ nodes := by
  obtain ⟨e, he, hkm⟩ := List.mem_map.1 h
  have hk : e.1 = k := by
    by_cases hl : e.1 = l
    · rw [if_pos hl] at hkm
      exact hl.trans (congrArg Prod.fst hkm)
    · rw [if_neg hl] at hkm
      exact congrArg Prod.fst hkm
  exact ⟨e.2, hk ▸ he⟩

/-! ## Changing -/

/-- Puts a node at a place where there is none. -/
def add (t : FileTree) (l : Location) (n : Node) (hl : l ≠ []) (names : l.all isName = true)
    (free : t.node? l = none) (parent : t.node? l.dropLast = some .directory) : FileTree :=
  { here := t.here
    nodes := t.nodes ++ [(l, n)]
    distinct := by
      simp only [List.map_append, List.map_cons, List.map_nil, List.nodup_append, t.distinct]
      refine ⟨trivial, by simp, ?_⟩
      intro k hk j hj he
      rw [List.mem_singleton.1 hj] at he
      exact not_mem_of_node? free (he ▸ hk)
    rooted := by
      intro k m h
      rcases List.mem_append.1 h with h | h
      · refine ⟨(t.rooted k m h).1, (t.rooted k m h).2.imp id ?_⟩
        exact fun h => List.mem_append.2 (.inl h)
      · obtain ⟨rfl, rfl⟩ := Prod.mk.inj (List.mem_singleton.1 h)
        refine ⟨hl, ?_⟩
        by_cases hp : k.dropLast = []
        · exact .inl hp
        · exact .inr (List.mem_append.2 (.inl (mem_of_node? hp parent)))
    named := by
      intro k m h
      rcases List.mem_append.1 h with h | h
      · exact t.named k m h
      · obtain ⟨rfl, rfl⟩ := Prod.mk.inj (List.mem_singleton.1 h)
        exact names }

/-- Replaces the bytes of a file. -/
def replace (t : FileTree) (l : Location) (bytes : ByteArray) (old : ByteArray)
    (there : t.node? l = some (.file old)) : FileTree :=
  { here := t.here
    nodes := t.nodes.map fun e => if e.1 = l then (l, .file bytes) else e
    distinct := by
      have h : (t.nodes.map fun e => if e.1 = l then (l, Node.file bytes) else e).map Prod.fst =
          t.nodes.map Prod.fst := by
        rw [List.map_map]
        apply List.map_congr_left
        intro e _
        by_cases he : e.1 = l <;> simp [he]
      rw [h]
      exact t.distinct
    rooted := by
      intro k m h
      obtain ⟨m', hm⟩ := exists_mem_of_mem_replaced h
      have hr := t.rooted k m' hm
      refine ⟨hr.1, hr.2.imp id ?_⟩
      intro hd
      refine List.mem_map.2 ⟨_, hd, ?_⟩
      have hne : k.dropLast ≠ l := by
        intro hl
        rw [hl] at hd
        rw [node?_of_mem hd] at there
        cases there
      simp [hne]
    named := by
      intro k m h
      obtain ⟨m', hm⟩ := exists_mem_of_mem_replaced h
      exact t.named k m' hm }

/-- Puts a directory where there is nothing, below a directory. -/
def putDirectory (t : FileTree) (l : Location) : FileTree :=
  if h : l ≠ [] ∧ l.all isName = true ∧ t.node? l = none ∧
      t.node? l.dropLast = some .directory then
    t.add l .directory h.1 h.2.1 h.2.2.1 h.2.2.2
  else t

/-- Puts a file where there is a file or nothing, below a directory. -/
def putFile (t : FileTree) (l : Location) (bytes : ByteArray) : FileTree :=
  match there : t.node? l with
  | some (.file old) => t.replace l bytes old there
  | some .directory => t
  | none =>
    if h : l ≠ [] ∧ l.all isName = true ∧ t.node? l.dropLast = some .directory then
      t.add l (.file bytes) h.1 h.2.1 there h.2.2
    else t

/-- Takes away what stands at a place, and all below it. -/
def remove (t : FileTree) (l : Location) : FileTree :=
  { here := t.here
    nodes := t.nodes.filter fun e => !l.isPrefixOf e.1
    distinct := by
      exact (List.filter_sublist.map Prod.fst).nodup t.distinct
    rooted := by
      intro k n h
      simp only [List.mem_filter, Bool.not_eq_eq_eq_not, Bool.not_true] at h ⊢
      have hr := t.rooted k n h.1
      refine ⟨hr.1, hr.2.imp id ?_⟩
      intro hd
      refine ⟨hd, ?_⟩
      have hk : ¬ l <+: k := fun hp => by simp [List.isPrefixOf_iff_prefix.2 hp] at h
      cases hq : l.isPrefixOf k.dropLast with
      | false => rfl
      | true => exact absurd ((List.isPrefixOf_iff_prefix.1 hq).trans (List.dropLast_prefix k)) hk
    named := by
      intro k n h
      exact t.named k n (List.mem_filter.1 h).1 }

/-! ## Lemmas on changes -/

theorem node?_add {t : FileTree} {l : Location} {n : Node} (hl : l ≠ [])
    (names : l.all isName = true) (free : t.node? l = none)
    (parent : t.node? l.dropLast = some .directory) (k : Location) :
    (t.add l n hl names free parent).node? k = if k = l then some n else t.node? k := by
  by_cases hk : k = l
  · subst hk
    rw [if_pos rfl]
    exact node?_of_mem (List.mem_append.2 (.inr (List.mem_singleton.2 rfl)))
  · have hne : (l == k) = false := by simpa using fun h => hk (Eq.symm h)
    simp [node?, add, List.find?_append, hk, hne]

theorem node?_replace {t : FileTree} {l : Location} {bytes old : ByteArray}
    (there : t.node? l = some (.file old)) (k : Location) :
    (t.replace l bytes old there).node? k = if k = l then some (.file bytes) else t.node? k := by
  have hl : l ≠ [] := by
    rintro rfl
    simp [node?] at there
  by_cases hk : k = l
  · subst hk
    rw [if_pos rfl]
    refine node?_of_mem (List.mem_map.2 ⟨_, mem_of_node? hl there, ?_⟩)
    simp
  · rw [if_neg hk]
    have hp : ((fun e : Location × Node => e.1 == k) ∘
        fun e => if e.1 = l then (l, Node.file bytes) else e) = fun e => e.1 == k := by
      funext e
      by_cases he : e.1 = l <;> simp [he]
    have hf : (t.nodes.find? fun e => e.1 == k).map
        (fun e => if e.1 = l then (l, Node.file bytes) else e) =
        t.nodes.find? fun e => e.1 == k := by
      cases h : t.nodes.find? fun e => e.1 == k with
      | none => rfl
      | some e =>
        have he : e.1 = k := by simpa using List.find?_some h
        simp [he, hk]
    simp only [node?, replace, List.find?_map, hp, hf]

/-- What stands anywhere once a file was put where one may stand. -/
theorem node?_putFile {t : FileTree} {l : Location} {bytes : ByteArray} (hl : l ≠ [])
    (names : l.all isName = true) (file : t.node? l ≠ some .directory)
    (parent : t.node? l.dropLast = some .directory) (k : Location) :
    (t.putFile l bytes).node? k = if k = l then some (.file bytes) else t.node? k := by
  unfold putFile
  split
  · exact node?_replace _ k
  · contradiction
  · rw [dif_pos ⟨hl, names, parent⟩, node?_add]

/-- What stands anywhere once a directory was put where there was nothing. -/
theorem node?_putDirectory {t : FileTree} {l : Location} (hl : l ≠ [])
    (names : l.all isName = true) (free : t.node? l = none)
    (parent : t.node? l.dropLast = some .directory) (k : Location) :
    (t.putDirectory l).node? k = if k = l then some .directory else t.node? k := by
  rw [putDirectory, dif_pos ⟨hl, names, free, parent⟩, node?_add]

/-! ## Requests -/

/-- Writes a file. -/
def writeBytes (t : FileTree) (p : Path) (bytes : ByteArray) : Except FileError FileTree :=
  match t.locate p with
  | .error f => .error ⟨f, p.text⟩
  | .ok l =>
    match t.node? l with
    | some .directory => .error ⟨.isDirectory, p.text⟩
    | _ => .ok (t.putFile l bytes)

/-- Makes a directory. -/
def makeDirectory (t : FileTree) (p : Path) : Except FileError FileTree :=
  match t.locate p with
  | .error f => .error ⟨f, p.text⟩
  | .ok l =>
    match t.node? l with
    | some _ => .error ⟨.present, p.text⟩
    | none => .ok (t.putDirectory l)

/-- Makes a directory unless it is there. -/
def ensureDirectory (t : FileTree) (p : Path) : Except FileError FileTree :=
  match t.makeDirectory p with
  | .ok t => .ok t
  | .error e => if t.isDirectory p then .ok t else .error e

/-- Makes a directory, given by its parts from the last to the first, and those above it where
they are missing.  What was made before a fault stays. -/
def ensureFrom (t : FileTree) (slashes : Nat) : List String → FileTree × Option FileError
  | [] =>
    match t.ensureDirectory ⟨slashes, []⟩ with
    | .ok t => (t, none)
    | .error e => (t, some e)
  | part :: above =>
    let p : Path := ⟨slashes, (part :: above).reverse⟩
    match t.ensureDirectory p with
    | .ok t => (t, none)
    | .error e =>
      if e.fault = .missing then
        match ensureFrom t slashes above with
        | (t, some e) => (t, some e)
        | (t, none) =>
          match t.ensureDirectory p with
          | .ok t => (t, none)
          | .error e => (t, some e)
      else (t, some e)

/-- Makes a directory and those above it where they are missing. -/
def ensureAll (t : FileTree) (p : Path) : FileTree × Option FileError :=
  t.ensureFrom p.slashes p.parts.reverse

end FileTree

end Acceptance
