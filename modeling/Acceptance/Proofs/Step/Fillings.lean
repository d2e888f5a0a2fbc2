import Acceptance.Proofs.Step.Splits

/-!
# Patterns filled with values

A step text is written from a pattern by putting a value in the place of each placeholder: in double
quotes, or bare where the value is a run without blanks and the text behind it cannot prolong the
run.  The search reads such a text back value by value, since the first candidate that it tries at a
placeholder is the value that was put there: what stands in quotes ends at the second one, and a bare
value is the longest run.

    (candidates text).head? = some s → capturesOf? pieces s.2 = some cs →
      capturesBehind? pieces text = some (s.1 :: cs)                       (capturesBehind?_of_head)
    Filled pieces values text → (capturesOf? pieces text).map (·.map unquoteList) = some values
                                                                            (capturesOf?_of_filled)
    Written pieces pattern → Filled pieces values text →
      accepts pattern text = true ∧ arguments pattern text = values           (arguments_of_filled)
-/

namespace Acceptance.Pattern

open Acceptance.Text

/-! ## Algorithm -/

/-- The pieces behind a placeholder where a bare value ends: the next one begins with a blank, or it
is the empty end of the pattern. -/
inductive EndsRun : List (List Char) → Prop
  | blank {c : Char} {piece : List Char} {pieces : List (List Char)} (blank : isBlank c = true) :
      EndsRun ((c :: piece) :: pieces)
  | last : EndsRun [[]]

/-- A step text written from the pieces of a pattern and a value for each placeholder. -/
inductive Filled : List (List Char) → List (List Char) → List Char → Prop
  | last (piece : List Char) : Filled [piece] [] piece
  | quoted {piece value rest : List Char} {pieces values : List (List Char)}
      (filled : Filled pieces values rest) :
      Filled (piece :: pieces) (value :: values) (piece ++ ('"' :: (value ++ ['"']) ++ rest))
  | bare {piece value rest : List Char} {pieces values : List (List Char)} (run : IsRun value)
      (ends : EndsRun pieces) (filled : Filled pieces values rest) :
      Filled (piece :: pieces) (value :: values) (piece ++ (value ++ rest))

/-! ## Lemmas -/

section
variable {piece text rest value : List Char} {pieces values : List (List Char)}

theorem alike_refl (piece : List Char) : Alike piece piece :=
  List.forall₂_same.2 fun c _ => sameLetter_refl c

theorem dropLiteral?_append (piece rest : List Char) :
    dropLiteral? piece (piece ++ rest) = some rest :=
  dropLiteral?_eq_some_iff.2 ⟨piece, alike_refl piece, rfl⟩

/-- There is a value for each placeholder. -/
theorem Filled.length_eq (h : Filled pieces values text) : values.length + 1 = pieces.length := by
  induction h with
  | last => rfl
  | quoted _ ih => rw [List.length_cons, List.length_cons, ih]
  | bare _ _ _ ih => rw [List.length_cons, List.length_cons, ih]

/-- Every list of values can be written. -/
theorem exists_filled (h : values.length + 1 = pieces.length) :
    ∃ text, Filled pieces values text := by
  induction values generalizing pieces with
  | nil =>
    obtain ⟨piece, rfl⟩ := List.length_eq_one_iff.1 h.symm
    exact ⟨piece, .last piece⟩
  | cons value values ih =>
    obtain ⟨piece, pieces, rfl⟩ := List.exists_cons_of_length_eq_add_one h.symm
    obtain ⟨rest, hrest⟩ := ih (Nat.succ.inj h)
    exact ⟨_, .quoted hrest⟩

/-- What is written behind a bare value does not prolong it. -/
theorem Filled.endsRun (h : Filled pieces values text) (hends : EndsRun pieces) :
    ∀ c ∈ text.head?, isBlank c = true := by
  cases hends with
  | @blank c piece pieces hblank =>
    have hhead : text.head? = some c := by cases h <;> rfl
    intro d hd
    obtain rfl := Option.some.inj (hhead.symm.trans hd)
    exact hblank
  | last =>
    cases h with
    | last => exact nofun
    | quoted hfilled => cases hfilled
    | bare _ _ hfilled => cases hfilled

/-! ## Candidates -/

theorem bareStarts_of_blank (h : ∀ c ∈ text.head?, isBlank c = true) : bareStarts text = [] := by
  cases text with
  | nil => rfl
  | cons c text => rw [bareStarts, if_pos (h c rfl)]

/-- The longest run is tried first. -/
theorem head?_bareStarts (hvalue : IsRun value) (hrest : ∀ c ∈ rest.head?, isBlank c = true) :
    (bareStarts (value ++ rest)).head? = some (value, rest) := by
  induction value with
  | nil => exact absurd rfl hvalue.1
  | cons c value ih =>
    obtain ⟨hc, hvalue⟩ := isRun_cons_iff.1 hvalue
    rw [List.cons_append, bareStarts, hc, if_neg Bool.false_ne_true]
    rcases hvalue with rfl | hvalue
    · rw [List.nil_append, bareStarts_of_blank hrest]
      rfl
    · rw [List.head?_append, List.head?_map, ih hvalue]
      rfl

/-- A text that does not open with a quote has no quoted phrase at its start. -/
theorem quotedStart?_of_run (hvalue : IsRun value) (hplain : '"' ∉ value) :
    quotedStart? (value ++ rest) = none := by
  rw [Option.eq_none_iff_forall_ne_some]
  rintro ⟨capture, behind⟩ hstart
  obtain ⟨⟨phrase, -, rfl⟩, htext⟩ := quotedStart?_eq_some_iff.1 hstart
  obtain ⟨c, value, rfl⟩ := List.exists_cons_of_ne_nil hvalue.1
  obtain rfl : c = '"' := (List.cons.inj htext).1
  exact hplain List.mem_cons_self

theorem head?_candidates_quoted (hplain : '"' ∉ value) :
    (candidates ('"' :: (value ++ ['"']) ++ rest)).head? = some ('"' :: (value ++ ['"']), rest) := by
  have hquoted : IsQuoted ('"' :: (value ++ ['"'])) := ⟨value, hplain, rfl⟩
  exact head?_candidates (mem_candidates_iff.2 ⟨.inl hquoted, rfl⟩) hquoted

theorem head?_candidates_bare (hvalue : IsRun value) (hplain : '"' ∉ value)
    (hrest : ∀ c ∈ rest.head?, isBlank c = true) :
    (candidates (value ++ rest)).head? = some (value, rest) := by
  rw [candidates, quotedStart?_of_run hvalue hplain, Option.toList_none, List.nil_append]
  exact head?_bareStarts hvalue hrest

/-! ## The search -/

/-- A search that succeeds behind the candidate it tries first goes no further. -/
theorem capturesBehind?_of_head {s : List Char × List Char} {captures : List (List Char)}
    (hs : (candidates text).head? = some s) (h : capturesOf? pieces s.2 = some captures) :
    capturesBehind? pieces text = some (s.1 :: captures) := by
  obtain ⟨others, hcandidates⟩ := List.head?_eq_some_iff.1 hs
  cases pieces with
  | nil => cases h
  | cons piece pieces =>
    rw [capturesBehind?_cons, hcandidates, List.findSome?_cons, h, Option.map_some]

theorem unquoteList_quoted (value : List Char) : unquoteList ('"' :: (value ++ ['"'])) = value := by
  rw [unquoteList, if_pos List.getLast?_concat, List.dropLast_concat]

theorem unquoteList_plain (hplain : '"' ∉ value) : unquoteList value = value := by
  unfold unquoteList
  split
  · exact absurd List.mem_cons_self hplain
  · rfl

/-- **A filled pattern is read back value by value.** -/
theorem capturesOf?_of_filled (h : Filled pieces values text) (hplain : ∀ v ∈ values, '"' ∉ v) :
    (capturesOf? pieces text).map (·.map unquoteList) = some values := by
  induction h with
  | last piece =>
    have hdrop := dropLiteral?_append piece []
    rw [List.append_nil] at hdrop
    rw [capturesOf?, hdrop]
    rfl
  | @quoted piece value rest pieces values hfilled ih =>
    obtain ⟨hvalue, hvalues⟩ := List.forall_mem_cons.1 hplain
    obtain ⟨captures, hcaptures, rfl⟩ := Option.map_eq_some_iff.1 (ih hvalues)
    rw [capturesOf?, dropLiteral?_append]
    simp only [capturesBehind?_of_head (head?_candidates_quoted hvalue) hcaptures, Option.map_some,
      List.map_cons, unquoteList_quoted]
  | @bare piece value rest pieces values hrun hends hfilled ih =>
    obtain ⟨hvalue, hvalues⟩ := List.forall_mem_cons.1 hplain
    obtain ⟨captures, hcaptures, rfl⟩ := Option.map_eq_some_iff.1 (ih hvalues)
    have hhead := head?_candidates_bare hrun hvalue (hfilled.endsRun hends)
    rw [capturesOf?, dropLiteral?_append]
    simp only [capturesBehind?_of_head hhead hcaptures, Option.map_some, List.map_cons,
      unquoteList_plain hvalue]

end

/-! ## Top theorem -/

/-- **A pattern gives back the values that it was filled with.** -/
theorem arguments_of_filled {pattern text : String} {pieces : List (List Char)}
    {values : List String} (hpieces : Written pieces pattern.toList)
    (hplain : ∀ v ∈ values, '"' ∉ v.toList)
    (h : Filled pieces (values.map String.toList) text.toList) :
    accepts pattern text = true ∧ arguments pattern text = values := by
  have hread := capturesOf?_of_filled h (List.forall_mem_map.2 hplain)
  rw [written_iff.1 hpieces] at hread
  obtain ⟨captures, hcaptures, hvalues⟩ := Option.map_eq_some_iff.1 hread
  refine ⟨by rw [accepts, captures?, hcaptures]; rfl, ?_⟩
  rw [arguments, captures?, hcaptures]
  have hunquote : (captures.map String.ofList).map unquote = values := by
    have hlists : ((captures.map String.ofList).map unquote).map String.toList =
        values.map String.toList := by
      rw [← hvalues, List.map_map, List.map_map]
      exact List.map_congr_left fun c _ => by simp [unquote]
    exact List.map_injective_iff.2 (fun _ _ h => String.toList_injective h) hlists
  exact hunquote

/-- Two placeholders with nothing between them, and a value that looks like the end of the pattern. -/
theorem move_filled :
    Written ["move ".toList, [], " \"to\" ".toList, []]
      "move \x7ba\x7d\x7bb\x7d \"to\" \x7bc\x7d".toList ∧
    (∀ v ∈ ["two cups", "\x7bb\x7d", "to"], '"' ∉ v.toList) ∧
    Filled ["move ".toList, [], " \"to\" ".toList, []]
      (["two cups", "\x7bb\x7d", "to"].map String.toList)
      "move \"two cups\"\x7bb\x7d \"to\" to".toList ∧
    accepts "move \x7ba\x7d\x7bb\x7d \"to\" \x7bc\x7d" "move \"two cups\"\x7bb\x7d \"to\" to" = true ∧
    arguments "move \x7ba\x7d\x7bb\x7d \"to\" \x7bc\x7d" "move \"two cups\"\x7bb\x7d \"to\" to" =
      ["two cups", "\x7bb\x7d", "to"] := by
  have hpieces : Written ["move ".toList, [], " \"to\" ".toList, []]
      "move \x7ba\x7d\x7bb\x7d \"to\" \x7bc\x7d".toList := by
    rw [written_iff]
    decide +kernel
  have hplain : ∀ v ∈ ["two cups", "\x7bb\x7d", "to"], '"' ∉ v.toList := by decide
  have hrun : ∀ v ∈ ["\x7bb\x7d", "to"], IsRun v.toList := by
    have hblanks : ["\x7bb\x7d", "to"].all (·.toList.all (!isBlank ·)) = true := by decide +kernel
    simpa [IsRun] using hblanks
  have hfilled : Filled ["move ".toList, [], " \"to\" ".toList, []]
      (["two cups", "\x7bb\x7d", "to"].map String.toList)
      "move \"two cups\"\x7bb\x7d \"to\" to".toList :=
    .quoted (.bare (hrun _ (by simp)) (.blank (by decide))
      (.bare (hrun _ (by simp)) .last (.last [])))
  exact ⟨hpieces, hplain, hfilled, arguments_of_filled hpieces hplain hfilled⟩

end Acceptance.Pattern
