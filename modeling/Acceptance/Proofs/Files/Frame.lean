import Acceptance.Files.TextFile

/-!
# What requests leave as it was

Where a path leads depends on the tree only in that every step is taken from a directory.  A
request keeps all directories and all files but the one it writes, so that whatever else could be
read before is read the same behind it.

    t.locate p = .ok l → l = p.place t.here                         (locate_place)
    t.writeBytes p b = .ok t' → t'.readBytes p = .ok b              (readBytes_writeBytes)
    Keeps W t t' → ¬ W l → t.look p = .ok (l, n) → t'.readText p = t.readText p
                                                                    (Keeps.readText)
-/

namespace Acceptance

/-! ## Places -/

/-- The place that one more part leads to. -/
def Location.onward (l : Location) (part : String) : Location :=
  if part = "" ∨ part = "." then l else if part = ".." then l.dropLast else l ++ [part]

/-- The place that a path leads to, whatever stands there. -/
def Path.place (here : Location) (p : Path) : Location :=
  p.parts.foldl Location.onward (if p.isAbsolute then [] else here)

theorem isName_iff {part : String} :
    isName part = true ↔ part ≠ "" ∧ part ≠ "." ∧ part ≠ ".." ∧
      part.toList.contains '/' = false ∧ Path.hasNullChar part = false ∧
      part.utf8ByteSize ≤ longestName := by
  simp only [isName, Path.isPart, Bool.and_eq_true, bne_iff_ne, Bool.not_eq_eq_eq_not,
    Bool.not_true, decide_eq_true_eq, and_assoc]
  constructor
  · rintro ⟨hempty, hdot, hslash, hup, hnull, hshort⟩
    exact ⟨hempty, hdot, hup, hslash, hnull, hshort⟩
  · rintro ⟨hempty, hdot, hup, hslash, hnull, hshort⟩
    exact ⟨hempty, hdot, hslash, hup, hnull, hshort⟩

theorem Location.onward_down {l : Location} {part : String} (empty : part ≠ "") (dot : part ≠ ".")
    (up : part ≠ "..") : l.onward part = l ++ [part] := by
  rw [onward, if_neg (not_or.2 ⟨empty, dot⟩), if_neg up]

theorem Location.onward_name {l : Location} {part : String} (h : isName part = true) :
    l.onward part = l ++ [part] := by
  obtain ⟨hempty, hdot, hup, -⟩ := isName_iff.1 h
  exact onward_down hempty hdot hup

theorem Location.foldl_onward_down {parts : List String}
    (h : ∀ part ∈ parts, part ≠ "" ∧ part ≠ "." ∧ part ≠ "..") (l : Location) :
    parts.foldl onward l = l ++ parts := by
  induction parts generalizing l with
  | nil => simp
  | cons part parts ih =>
    obtain ⟨hempty, hdot, hup⟩ := h part (by simp)
    rw [List.foldl_cons, onward_down hempty hdot hup,
      ih (fun other hm => h other (List.mem_cons_of_mem _ hm)), List.append_assoc,
      List.singleton_append]

namespace FileTree

theorem node?_nil (t : FileTree) : t.node? [] = some .directory := if_pos rfl

/-- What stands in a directory tells that the directory is there. -/
theorem node?_dropLast {t : FileTree} {l : Location} {n : Node} (h : t.node? l = some n) :
    t.node? l.dropLast = some .directory := by
  by_cases hl : l = []
  · subst hl
    exact node?_nil t
  · rcases (t.rooted l n (mem_of_node? hl h)).2 with hd | hd
    · rw [hd]
      exact node?_nil t
    · exact node?_of_mem hd

/-- Every place above something is a directory. -/
theorem node?_above {t : FileTree} {l names : Location} {n : Node} (ne : names ≠ [])
    (h : t.node? (l ++ names) = some n) : t.node? l = some .directory := by
  induction names generalizing l with
  | nil => contradiction
  | cons part names ih =>
    have hpart : ∃ m, t.node? (l ++ [part]) = some m := by
      by_cases hn : names = []
      · exact ⟨n, hn ▸ h⟩
      · refine ⟨.directory, ih hn ?_⟩
        rwa [List.append_assoc, List.singleton_append]
    obtain ⟨m, hm⟩ := hpart
    have hd := node?_dropLast hm
    rwa [List.dropLast_concat] at hd

theorem names_of_node? {t : FileTree} {l : Location} {n : Node} (h : t.node? l = some n) :
    ∀ part ∈ l, isName part = true := by
  by_cases hl : l = []
  · simp [hl]
  · exact List.all_eq_true.1 (t.named l n (mem_of_node? hl h))

/-! ## Walking -/

/-- A part that can be walked along. -/
def Walkable (part : String) : Prop := part = "" ∨ part = "." ∨ part = ".." ∨ isName part = true

theorem step_eq_ok_iff {t : FileTree} {l m : Location} {part : String} :
    t.step l part = .ok m ↔
      t.node? l = some .directory ∧ Walkable part ∧ m = l.onward part := by
  unfold step
  split
  · next h => simp [h]
  · next h => simp [h]
  · next h =>
    simp only [h, Walkable, Location.onward, true_and]
    by_cases hdot : part = "" ∨ part = "."
    · rw [if_pos hdot, if_pos hdot]
      constructor
      · intro he
        exact ⟨hdot.imp id .inl, (Except.ok.inj he).symm⟩
      · rintro ⟨-, rfl⟩
        rfl
    · rw [if_neg hdot, if_neg hdot]
      by_cases hup : part = ".."
      · rw [if_pos hup, if_pos hup]
        constructor
        · intro he
          exact ⟨.inr (.inr (.inl hup)), (Except.ok.inj he).symm⟩
        · rintro ⟨-, rfl⟩
          rfl
      · rw [if_neg hup, if_neg hup]
        simp only [not_or.1 hdot, hup, false_or]
        split
        · next hlong =>
          refine ⟨nofun, ?_⟩
          rintro ⟨hname, -⟩
          have hshort := (isName_iff.1 hname).2.2.2.2.2
          omega
        · next hlong =>
          split
          · next hname =>
            constructor
            · intro he
              exact ⟨hname, (Except.ok.inj he).symm⟩
            · rintro ⟨-, rfl⟩
              rfl
          · next hno =>
            refine ⟨nofun, ?_⟩
            rintro ⟨hname, -⟩
            exact absurd hname hno

theorem walk_cons_eq_ok_iff {t : FileTree} {l m : Location} {part : String} {parts : List String} :
    t.walk l (part :: parts) = .ok m ↔
      t.node? l = some .directory ∧ Walkable part ∧ t.walk (l.onward part) parts = .ok m := by
  rw [walk]
  cases hs : t.step l part with
  | error f =>
    simp only [reduceCtorEq, false_iff]
    rintro ⟨hd, hw, -⟩
    rw [step_eq_ok_iff.2 ⟨hd, hw, rfl⟩] at hs
    cases hs
  | ok k =>
    obtain ⟨hd, hw, rfl⟩ := step_eq_ok_iff.1 hs
    simp only [hd, hw, true_and]

theorem walk_place {t : FileTree} {l m : Location} {parts : List String}
    (h : t.walk l parts = .ok m) : m = parts.foldl Location.onward l := by
  induction parts generalizing l with
  | nil => exact (Except.ok.inj h).symm
  | cons part parts ih =>
    obtain ⟨-, -, h⟩ := walk_cons_eq_ok_iff.1 h
    exact ih h

theorem locate_eq_ok_iff {t : FileTree} {p : Path} {l : Location} :
    t.locate p = .ok l ↔
      p.hasNull = false ∧ t.walk (if p.isAbsolute then [] else t.here) p.parts = .ok l := by
  unfold locate
  cases p.hasNull with
  | true => simp
  | false => simp

theorem locate_place {t : FileTree} {p : Path} {l : Location} (h : t.locate p = .ok l) :
    l = p.place t.here := walk_place (locate_eq_ok_iff.1 h).2

theorem walk_append {t : FileTree} {l k : Location} {parts : List String}
    (h : t.walk l parts = .ok k) (others : List String) :
    t.walk l (parts ++ others) = t.walk k others := by
  induction parts generalizing l with
  | nil => rw [List.nil_append, Except.ok.inj h]
  | cons part parts ih =>
    rw [walk] at h
    rw [List.cons_append, walk]
    split at h
    · cases h
    · exact ih h

/-- The way down to what stands below a place. -/
theorem walk_down {t : FileTree} {l names : Location} {n : Node}
    (h : t.node? (l ++ names) = some n) : t.walk l names = .ok (l ++ names) := by
  induction names generalizing l with
  | nil => rw [walk, List.append_nil]
  | cons part names ih =>
    have hn : isName part = true := names_of_node? h part (by simp)
    have hw : t.walk (l ++ [part]) names = .ok (l ++ [part] ++ names) := by
      refine ih ?_
      rwa [List.append_assoc, List.singleton_append]
    rw [walk_cons_eq_ok_iff, Location.onward_name hn, hw, List.append_assoc,
      List.singleton_append]
    exact ⟨node?_above (List.cons_ne_nil part names) h, .inr (.inr (.inr hn)), rfl⟩

/-- The last step of a way ends in a directory or at a name in one. -/
theorem walk_end {t : FileTree} {l m : Location} {parts : List String} (ne : parts ≠ [])
    (h : t.walk l parts = .ok m) :
    t.node? m = some .directory ∨
      ∃ k part, m = k ++ [part] ∧ isName part = true ∧ t.node? k = some .directory := by
  induction parts generalizing l with
  | nil => contradiction
  | cons part parts ih =>
    obtain ⟨hd, hw, h⟩ := walk_cons_eq_ok_iff.1 h
    by_cases hp : parts = []
    · subst hp
      obtain rfl := Except.ok.inj h
      rcases hw with rfl | rfl | rfl | hn
      · exact .inl hd
      · exact .inl hd
      · exact .inl (node?_dropLast hd)
      · exact .inr ⟨l, part, Location.onward_name hn, hn, hd⟩
    · exact ih hp h

/-! ## Frames -/

/-- Directories stay, and so do files outside of `W`. -/
structure Keeps (W : Location → Prop) (t t' : FileTree) : Prop where
  here : t'.here = t.here
  directory : ∀ k, t.node? k = some .directory → t'.node? k = some .directory
  file : ∀ k b, ¬ W k → t.node? k = some (.file b) → t'.node? k = some (.file b)

namespace Keeps

variable {W W' : Location → Prop} {t u v : FileTree}

theorem refl (W : Location → Prop) (t : FileTree) : Keeps W t t :=
  ⟨rfl, fun _ h => h, fun _ _ _ h => h⟩

theorem trans (h : Keeps W t u) (h' : Keeps W u v) : Keeps W t v :=
  ⟨h'.here.trans h.here, fun k hk => h'.directory k (h.directory k hk),
    fun k b hw hk => h'.file k b hw (h.file k b hw hk)⟩

theorem mono (h : Keeps W t u) (sub : ∀ k, W k → W' k) : Keeps W' t u :=
  ⟨h.here, h.directory, fun k b hw hk => h.file k b (fun hs => hw (sub k hs)) hk⟩

theorem walk (h : Keeps W t u) {l m : Location} {parts : List String}
    (hw : t.walk l parts = .ok m) : u.walk l parts = .ok m := by
  induction parts generalizing l with
  | nil => exact hw
  | cons part parts ih =>
    obtain ⟨hd, hp, hw⟩ := walk_cons_eq_ok_iff.1 hw
    exact walk_cons_eq_ok_iff.2 ⟨h.directory l hd, hp, ih hw⟩

theorem locate (h : Keeps W t u) {p : Path} {l : Location} (hl : t.locate p = .ok l) :
    u.locate p = .ok l := by
  obtain ⟨hnull, hwalk⟩ := locate_eq_ok_iff.1 hl
  refine locate_eq_ok_iff.2 ⟨hnull, ?_⟩
  rw [h.here]
  exact h.walk hwalk

theorem node? (h : Keeps W t u) {l : Location} {n : Node} (hl : ¬ W l)
    (hn : t.node? l = some n) : u.node? l = some n := by
  cases n with
  | directory => exact h.directory l hn
  | file b => exact h.file l b hl hn

end Keeps

/-! ## Reading -/

theorem look_eq_ok_iff {t : FileTree} {p : Path} {l : Location} {n : Node} :
    t.look p = .ok (l, n) ↔ t.locate p = .ok l ∧ t.node? l = some n := by
  unfold look
  split
  · next h => simp [h]
  · next m h =>
    rw [h]
    split
    · next hm =>
      refine ⟨nofun, ?_⟩
      rintro ⟨hl, hn⟩
      rw [← Except.ok.inj hl, hm] at hn
      cases hn
    · next n' hm =>
      constructor
      · intro he
        obtain ⟨rfl, rfl⟩ := Prod.mk.inj (Except.ok.inj he)
        exact ⟨rfl, hm⟩
      · rintro ⟨hl, hn⟩
        obtain rfl := Except.ok.inj hl
        rw [hm] at hn
        rw [Option.some.inj hn]

theorem isFile_iff {t : FileTree} {p : Path} :
    t.isFile p = true ↔ ∃ l b, t.look p = .ok (l, .file b) := by
  unfold isFile
  split
  · next h => simp [h]
  · next h =>
    simp only [Bool.false_eq_true, false_iff, not_exists]
    exact fun l b hb => h l b hb

theorem readBytes_eq_ok_iff {t : FileTree} {p : Path} {b : ByteArray} :
    t.readBytes p = .ok b ↔ ∃ l, t.look p = .ok (l, .file b) := by
  unfold readBytes
  split
  · next h => simp [h]
  · next h => simp [h]
  · next l bytes h =>
    rw [h]
    constructor
    · intro he
      exact ⟨l, by rw [Except.ok.inj he]⟩
    · rintro ⟨k, hk⟩
      simp only [Except.ok.injEq, Prod.mk.injEq, Node.file.injEq] at hk
      rw [hk.2]

theorem Keeps.look {W : Location → Prop} {t u : FileTree} (h : Keeps W t u) {p : Path}
    {l : Location} {n : Node} (hl : ¬ W l) (hp : t.look p = .ok (l, n)) :
    u.look p = .ok (l, n) := by
  rw [look_eq_ok_iff] at hp ⊢
  exact ⟨h.locate hp.1, h.node? hl hp.2⟩

/-- What is read is a file. -/
theorem look_of_readText {t : FileTree} {p : Path} {s : String} (h : t.readText p = .ok s) :
    ∃ l b, t.look p = .ok (l, .file b) := by
  unfold readText at h
  split at h
  · cases h
  · next b hb =>
    obtain ⟨l, hl⟩ := readBytes_eq_ok_iff.1 hb
    exact ⟨l, b, hl⟩

/-- What is read depends on what a path leads to alone. -/
theorem readText_congr {t u : FileTree} {p : Path} (h : u.look p = t.look p) :
    u.readText p = t.readText p := by
  have hb : u.readBytes p = t.readBytes p := by rw [readBytes, readBytes, h]
  rw [readText, readText, hb]

/-- What is read where nothing was written. -/
theorem Keeps.readText {W : Location → Prop} {t u : FileTree} (h : Keeps W t u) {p : Path}
    {l : Location} {n : Node} (hl : ¬ W l) (hp : t.look p = .ok (l, n)) :
    u.readText p = t.readText p := readText_congr ((h.look hl hp).trans hp.symm)

theorem Keeps.readBytes {W : Location → Prop} {t u : FileTree} (h : Keeps W t u) {p : Path}
    {b : ByteArray} (hl : ¬ W (p.place t.here)) (hp : t.readBytes p = .ok b) :
    u.readBytes p = .ok b := by
  obtain ⟨l, hp⟩ := readBytes_eq_ok_iff.1 hp
  have hplace := locate_place (look_eq_ok_iff.1 hp).1
  exact readBytes_eq_ok_iff.2 ⟨l, h.look (hplace ▸ hl) hp⟩

/-! ## Requests -/

theorem keeps_add {t : FileTree} {l : Location} {n : Node} (hl : l ≠ [])
    (names : l.all isName = true) (free : t.node? l = none)
    (parent : t.node? l.dropLast = some .directory) (W : Location → Prop) :
    Keeps W t (t.add l n hl names free parent) := by
  have hk : ∀ k m, t.node? k = some m → (t.add l n hl names free parent).node? k = some m := by
    intro k m hm
    rw [node?_add, if_neg]
    · exact hm
    · rintro rfl
      rw [free] at hm
      cases hm
  exact ⟨rfl, fun k hd => hk k _ hd, fun k b _ hf => hk k _ hf⟩

theorem keeps_putDirectory (W : Location → Prop) (t : FileTree) (l : Location) :
    Keeps W t (t.putDirectory l) := by
  unfold putDirectory
  split
  · exact keeps_add _ _ _ _ W
  · exact .refl W t

theorem keeps_putFile (t : FileTree) (l : Location) (b : ByteArray) :
    Keeps (· = l) t (t.putFile l b) := by
  unfold putFile
  split
  · next old there =>
    refine ⟨rfl, ?_, ?_⟩
    · intro k hk
      rw [node?_replace, if_neg]
      · exact hk
      · rintro rfl
        rw [there] at hk
        cases hk
    · intro k b' hw hk
      rw [node?_replace, if_neg hw]
      exact hk
  · exact .refl _ t
  · split
    · exact keeps_add _ _ _ _ _
    · exact .refl _ t

theorem keeps_writeBytes {t t' : FileTree} {p : Path} {b : ByteArray}
    (h : t.writeBytes p b = .ok t') : Keeps (· = p.place t.here) t t' := by
  unfold writeBytes at h
  split at h
  · cases h
  · next l hl =>
    obtain rfl := locate_place hl
    split at h
    · cases h
    · obtain rfl := Except.ok.inj h
      exact keeps_putFile t _ b

/-- **What was written is read.** -/
theorem readBytes_writeBytes {t t' : FileTree} {p : Path} {b : ByteArray} (ne : p.parts ≠ [])
    (h : t.writeBytes p b = .ok t') : t'.readBytes p = .ok b := by
  have hkeeps := keeps_writeBytes h
  unfold writeBytes at h
  split at h
  · cases h
  · next l hl =>
    split at h
    · cases h
    · next hfile =>
      obtain rfl := Except.ok.inj h
      -- no directory stands where the way ends, so its last part is a name in one
      have hnot : t.node? l ≠ some .directory := hfile
      obtain ⟨k, part, rfl, hn, hk⟩ := (walk_end ne (locate_eq_ok_iff.1 hl).2).resolve_left hnot
      have hall : (k ++ [part]).all isName = true := by
        rw [List.all_append, Bool.and_eq_true]
        exact ⟨List.all_eq_true.2 (names_of_node? hk), by simp [hn]⟩
      have hput : (t.putFile (k ++ [part]) b).node? (k ++ [part]) = _ :=
        node?_putFile (by simp) hall hnot (by rwa [List.dropLast_concat]) (k ++ [part])
      rw [if_pos rfl] at hput
      exact readBytes_eq_ok_iff.2 ⟨_, look_eq_ok_iff.2 ⟨hkeeps.locate hl, hput⟩⟩

theorem keeps_ensureDirectory {t t' : FileTree} {p : Path} (W : Location → Prop)
    (h : t.ensureDirectory p = .ok t') : Keeps W t t' := by
  unfold ensureDirectory at h
  split at h
  · next u hm =>
    obtain rfl := Except.ok.inj h
    unfold makeDirectory at hm
    split at hm
    · cases hm
    · split at hm
      · cases hm
      · obtain rfl := Except.ok.inj hm
        exact keeps_putDirectory W t _
  · split at h
    · obtain rfl := Except.ok.inj h
      exact .refl W t
    · cases h

theorem keeps_ensureFrom (W : Location → Prop) (t : FileTree) (slashes : Nat)
    (parts : List String) : Keeps W t (t.ensureFrom slashes parts).1 := by
  induction parts generalizing t with
  | nil =>
    rw [ensureFrom]
    split
    · next h => exact keeps_ensureDirectory W h
    · exact .refl W t
  | cons part above ih =>
    rw [ensureFrom]
    split
    · next h => exact keeps_ensureDirectory W h
    · split
      · have habove := ih t
        split
        · next u e h =>
          rw [h] at habove
          exact habove
        · next u h =>
          rw [h] at habove
          split
          · next h => exact habove.trans (keeps_ensureDirectory W h)
          · exact habove
      · exact .refl W t

theorem keeps_ensureAll (W : Location → Prop) (t : FileTree) (p : Path) :
    Keeps W t (t.ensureAll p).1 := keeps_ensureFrom W t p.slashes p.parts.reverse

end FileTree

end Acceptance
