import Acceptance.Proofs.Files.Found
import Acceptance.Proofs.Files.Making

/-!
# Paths as they are shown

Where paths start in the root of a project, a path that is shown from the root leads where it led
before, and so does its text, piece by piece.

    t.Starts root → t.look p = .ok found → t.look (p.asShown root) = .ok found  (look_asShown)
    t.walk l (pieces p.text) = t.walk l p.parts        from a directory `l`     (walk_pieces)
-/

namespace Acceptance

open Acceptance.Text

/-- A text in its pieces between slashes. -/
def Path.pieces (s : String) : List String := (splitAt '/' s.toList).map .ofList

/-- A path that is shown from a root. -/
def Path.asShown (p root : Path) : Path := (p.below? root).getD p

/-! ## Pieces of texts -/

namespace Path

variable {p root : Path}

/-- The pieces of a path's text are its parts, behind an empty one for every slash in front. -/
theorem pieces_text (clean : p.Clean) (ne : p.parts ≠ []) :
    pieces p.text = List.replicate p.slashes "" ++ p.parts := by
  rw [pieces, text_toList (fun h => ne h.2), splitAt_replicate,
    splitAt_parts ne clean.parts, List.map_append, List.map_replicate, List.map_map]
  simp

theorem head?_text (clean : p.Clean) (ne : p.parts ≠ []) :
    p.text.toList.head? = some '/' ↔ p.isAbsolute = true := by
  rw [text_toList (fun h => ne h.2), isAbsolute, bne_iff_ne]
  cases p.slashes with
  | succ n => simp [List.replicate_succ]
  | zero =>
    have hslash := takeWhile_slash_intercalate clean.parts
    rw [List.replicate_zero, List.nil_append]
    cases hcs : List.intercalate ['/'] (p.parts.map String.toList) with
    | nil => simp
    | cons c cs =>
      rw [hcs, List.takeWhile_cons] at hslash
      simp only [List.head?_cons, Option.some.injEq, ne_eq, not_true_eq_false, iff_false]
      rintro rfl
      simp at hslash

theorem text_ne_empty (clean : p.Clean) (ne : p.parts ≠ []) : p.text ≠ "" := by
  intro he
  have hempty : ofText p.text = ⟨0, []⟩ := by
    rw [he]
    rfl
  rw [ofText_text clean] at hempty
  exact ne (congrArg parts hempty)

/-- The name of a path is that of the path as it is shown. -/
theorem stem_asShown (ne : (p.asShown root).parts ≠ []) : (p.asShown root).stem = p.stem := by
  unfold Path.asShown at ne ⊢
  cases hb : p.below? root with
  | none => rfl
  | some q =>
    rw [hb, Option.getD_some] at ne
    obtain ⟨hp, -⟩ := eq_of_below? hb
    have hname : q.name = p.name := by
      rw [hp, name_down ne, name, List.getLast?_eq_some_getLast ne, Option.getD_some]
    rw [Option.getD_some, stem, stem, hname]

end Path

namespace FileTree

variable {t u : FileTree} {p root : Path} {l : Location} {n : Node} {b : ByteArray}

/-- Relative paths start from a root, and a directory is there. -/
structure Starts (t : FileTree) (root : Path) : Prop where
  root : root = ⟨1, t.here⟩
  there : t.node? t.here = some .directory

theorem Starts.of_keeps {W : Location → Prop} (h : t.Starts root) (keeps : Keeps W t u) :
    u.Starts root := by
  refine ⟨?_, ?_⟩
  · rw [keeps.here]
    exact h.root
  · rw [keeps.here]
    exact keeps.directory _ h.there

theorem Starts.start (h : t.Starts root) (p : Path) : t.node? (p.start t.here) = some .directory := by
  unfold Path.start
  split
  · exact node?_nil t
  · exact h.there

/-- **A path leads where it leads as it is shown.** -/
theorem look_asShown (h : t.Starts root) (found : t.look p = .ok (l, n)) :
    t.look (p.asShown root) = .ok (l, n) := by
  unfold Path.asShown
  cases hb : p.below? root with
  | none => exact found
  | some q =>
    obtain ⟨rfl, hslashes⟩ := Path.eq_of_below? hb
    obtain ⟨hlocate, hn⟩ := look_eq_ok_iff.1 found
    obtain ⟨hnull, hwalk⟩ := locate_eq_ok_iff.1 hlocate
    have hroot : t.walk [] t.here = .ok t.here := walk_down (n := .directory) h.there
    refine look_eq_ok_iff.2 ⟨locate_eq_ok_iff.2 ⟨?_, ?_⟩, hn⟩
    · rw [Path.hasNull_down, Bool.or_eq_false_iff] at hnull
      exact hnull.2
    · have hrelative : q.isAbsolute = false := by rw [Path.isAbsolute, hslashes]; rfl
      rw [h.root] at hwalk
      have hway : t.walk [] (t.here ++ q.parts) = .ok l := hwalk
      rw [walk_append hroot] at hway
      rw [Option.getD_some, hrelative]
      exact hway

/-- What is read depends on the place that a path leads to alone. -/
theorem readText_of_look {q : Path} (hp : t.look p = .ok (l, .file b))
    (hq : t.look q = .ok (l, .file b)) : t.readText q = t.readText p := by
  rw [readText, readText, readBytes, readBytes, hp, hq]

theorem parts_ne_nil_of_file (h : t.Starts root) (found : t.look p = .ok (l, .file b)) :
    p.parts ≠ [] := by
  intro hnil
  obtain ⟨hlocate, hfile⟩ := look_eq_ok_iff.1 found
  have hplace : l = p.start t.here := by
    rw [locate_place hlocate, Path.place, hnil]
    rfl
  rw [hplace, h.start p] at hfile
  cases hfile

/-- The pieces of a text lead where the parts of its path do. -/
theorem walk_pieces (clean : p.Clean) (ne : p.parts ≠ []) (directory : t.node? l = some .directory) :
    t.walk l (Path.pieces p.text) = t.walk l p.parts := by
  rw [Path.pieces_text clean ne]
  induction p.slashes with
  | zero => rfl
  | succ n ih =>
    have hstep : t.step l "" = .ok l := step_eq_ok_iff.2 ⟨directory, .inl rfl, rfl⟩
    rw [List.replicate_succ, List.cons_append, walk, hstep]
    exact ih

end FileTree

end Acceptance
