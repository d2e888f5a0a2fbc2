import Acceptance.Text.Blank

/-!
# Splitting and joining

Texts that were joined with a character none of them has are what splitting at it gives:

    splitAt c (List.intercalate [c] pieces) = pieces                (splitAt_intercalate)
    List.intercalate [c] (splitAt c cs) = cs                        (intercalate_splitAt)
    piece ∈ splitAt c cs → c ∉ piece                                (not_mem_piece)
    c ∉ cs → (cs ++ c :: rest).takeWhile (· != c) = cs              (takeWhile_ne_append)
-/

namespace Acceptance.Text

/-- A list behind its first part. -/
theorem intercalate_cons {α : Type} (sep x : List α) (xs : List (List α)) :
    sep.intercalate (x :: xs) = x ++ xs.flatMap (sep ++ ·) := by
  induction xs generalizing x with
  | nil => rw [List.intercalate_singleton, List.flatMap_nil, List.append_nil]
  | cons y ys ih =>
    rw [List.intercalate_cons_cons, ih, List.flatMap_cons, List.append_assoc, List.append_assoc]

theorem splitAt_of_not_mem {c : Char} {cs : List Char} (h : c ∉ cs) : splitAt c cs = [cs] := by
  induction cs with
  | nil => rfl
  | cons d cs ih =>
    simp only [List.mem_cons, not_or] at h
    rw [splitAt, if_neg (Ne.symm h.1), ih h.2]

theorem splitAt_append {c : Char} {cs : List Char} (h : c ∉ cs) (rest : List Char) :
    splitAt c (cs ++ c :: rest) = cs :: splitAt c rest := by
  induction cs with
  | nil => rw [List.nil_append, splitAt, if_pos rfl]
  | cons d cs ih =>
    simp only [List.mem_cons, not_or] at h
    rw [List.cons_append, splitAt, if_neg (Ne.symm h.1), ih h.2]

theorem splitAt_intercalate {c : Char} {pieces : List (List Char)} (ne : pieces ≠ [])
    (h : ∀ piece ∈ pieces, c ∉ piece) : splitAt c (List.intercalate [c] pieces) = pieces := by
  induction pieces with
  | nil => contradiction
  | cons piece rest ih =>
    have hp : c ∉ piece := h piece (by simp)
    cases rest with
    | nil =>
      rw [List.intercalate_singleton]
      exact splitAt_of_not_mem hp
    | cons other others =>
      rw [List.intercalate_cons_cons, List.append_assoc, List.singleton_append,
        splitAt_append hp, ih (by simp) (fun q hq => h q (List.mem_cons_of_mem _ hq))]

theorem splitAt_replicate (c : Char) (n : Nat) (cs : List Char) :
    splitAt c (List.replicate n c ++ cs) = List.replicate n [] ++ splitAt c cs := by
  induction n with
  | zero => rfl
  | succ n ih =>
    rw [List.replicate_succ, List.cons_append, splitAt, if_pos rfl, ih]
    rfl

/-- What the first step of a split is, whichever character comes first. -/
theorem splitAt_cons (c d : Char) (cs : List Char) :
    ∃ piece pieces, splitAt c cs = piece :: pieces ∧
      splitAt c (d :: cs) = if d = c then [] :: piece :: pieces else (d :: piece) :: pieces := by
  obtain ⟨piece, pieces, hs⟩ := List.exists_cons_of_ne_nil (splitAt_ne_nil c cs)
  exact ⟨piece, pieces, hs, by rw [splitAt, hs]⟩

/-- A text that is split at a place is split on both sides of it. -/
theorem splitAt_append_cons (c : Char) (cs rest : List Char) :
    splitAt c (cs ++ c :: rest) = splitAt c cs ++ splitAt c rest := by
  induction cs with
  | nil => simp [splitAt]
  | cons d cs ih =>
    obtain ⟨piece, pieces, hs, hd⟩ := splitAt_cons c d cs
    rw [hd, List.cons_append, splitAt, ih, hs]
    split <;> rfl

theorem splitAt_intercalate_flatMap (c : Char) {pieces : List (List Char)} (h : pieces ≠ []) :
    splitAt c ([c].intercalate pieces) = pieces.flatMap (splitAt c) := by
  induction pieces with
  | nil => contradiction
  | cons piece pieces ih =>
    cases pieces with
    | nil => simp
    | cons other others =>
      rw [List.intercalate_cons_cons, List.append_assoc, List.singleton_append,
        splitAt_append_cons, ih (List.cons_ne_nil _ _)]
      rfl

theorem intercalate_splitAt (c : Char) (cs : List Char) :
    List.intercalate [c] (splitAt c cs) = cs := by
  induction cs with
  | nil => rfl
  | cons d cs ih =>
    obtain ⟨piece, pieces, hs, hd⟩ := splitAt_cons c d cs
    rw [hs] at ih
    rw [hd]
    split
    · next he => rw [List.intercalate_cons_cons, ih, he, List.nil_append, List.singleton_append]
    · cases pieces with
      | nil => rw [List.intercalate_singleton, ← ih, List.intercalate_singleton]
      | cons other others =>
        rw [List.intercalate_cons_cons] at ih ⊢
        rw [List.cons_append, List.cons_append, ih]

theorem not_mem_piece {c : Char} {cs piece : List Char} (h : piece ∈ splitAt c cs) :
    c ∉ piece := by
  induction cs generalizing piece with
  | nil =>
    rw [splitAt, List.mem_singleton] at h
    rw [h]
    exact List.not_mem_nil
  | cons d cs ih =>
    obtain ⟨first, others, hs, hd⟩ := splitAt_cons c d cs
    rw [hs] at ih
    rw [hd] at h
    split at h
    · rcases List.mem_cons.1 h with rfl | h
      · exact List.not_mem_nil
      · exact ih h
    · next hne =>
      rcases List.mem_cons.1 h with rfl | h
      · rw [List.mem_cons, not_or]
        exact ⟨Ne.symm hne, ih (by simp)⟩
      · exact ih (List.mem_cons_of_mem _ h)

/-- A character more at the end goes to the last piece. -/
theorem splitAt_concat {c d : Char} (hd : d ≠ c) (cs : List Char) :
    ∃ pieces last, splitAt c cs = pieces ++ [last] ∧
      splitAt c (cs ++ [d]) = pieces ++ [last ++ [d]] := by
  induction cs with
  | nil => exact ⟨[], [], rfl, by rw [List.nil_append, splitAt, if_neg hd]; rfl⟩
  | cons e cs ih =>
    obtain ⟨pieces, last, hs, hc⟩ := ih
    by_cases he : e = c
    · refine ⟨[] :: pieces, last, ?_, ?_⟩
      · rw [splitAt, if_pos he, hs, List.cons_append]
      · rw [List.cons_append, splitAt, if_pos he, hc, List.cons_append]
    · cases pieces with
      | nil =>
        refine ⟨[], e :: last, ?_, ?_⟩
        · rw [splitAt, if_neg he, hs, List.nil_append, List.nil_append]
        · rw [List.cons_append, splitAt, if_neg he, hc]
          rfl
      | cons first others =>
        refine ⟨(e :: first) :: others, last, ?_, ?_⟩
        · rw [splitAt, if_neg he, hs, List.cons_append, List.cons_append]
        · rw [List.cons_append, splitAt, if_neg he, hc]
          rfl

/-! ## Up to a character -/

/-- A text up to the first character that does not satisfy `p`. -/
theorem takeWhile_stop {p : Char → Bool} {cs rest : List Char} (hcs : ∀ c ∈ cs, p c = true)
    (hrest : ∀ c ∈ rest.head?, p c = false) :
    (cs ++ rest).takeWhile p = cs ∧ (cs ++ rest).dropWhile p = rest := by
  rw [List.takeWhile_append_of_pos hcs, List.dropWhile_append_of_pos hcs]
  cases rest with
  | nil => simp
  | cons c rest => simp [hrest c rfl]

theorem takeWhile_ne_append {c : Char} {cs : List Char} (h : c ∉ cs) (rest : List Char) :
    (cs ++ c :: rest).takeWhile (· != c) = cs ∧
      (cs ++ c :: rest).dropWhile (· != c) = c :: rest := by
  refine takeWhile_stop ?_ ?_
  · intro d hd
    rw [bne_iff_ne]
    rintro rfl
    exact h hd
  · intro d hd
    obtain rfl := Option.some.inj hd
    exact bne_self_eq_false _

theorem eq_append_of_dropWhile_ne {c d : Char} {cs rest : List Char}
    (h : cs.dropWhile (· != c) = d :: rest) :
    d = c ∧ c ∉ cs.takeWhile (· != c) ∧ cs = cs.takeWhile (· != c) ++ c :: rest := by
  have hd : d = c := by
    have hfirst := List.head_dropWhile_not (· != c) (l := cs) (by simp [h])
    simpa [h] using hfirst
  subst hd
  refine ⟨rfl, ?_, ?_⟩
  · intro hm
    simpa using List.all_eq_true.1 (List.all_takeWhile (l := cs)) _ hm
  · rw [← h, List.takeWhile_append_dropWhile]

end Acceptance.Text
