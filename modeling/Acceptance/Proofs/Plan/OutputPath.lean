import Acceptance.Plan.FileName
import Acceptance.Proofs.Files.NullByte
import Acceptance.Proofs.Plan.Lines
import Acceptance.Proofs.Text.LowerCase

/-!
# Where a test module goes

The path of a test module is made of names: the parts of an accepted package and the name that the
feature file gives, neither of which holds a slash or a null character or leads back up.

    convert c fileName d = .ok p → ∀ part ∈ outputParts p, ProperPart part   (proper_outputParts)
    Path.ofText (outputPath p) = ⟨0, outputParts p⟩                          (ofText_outputPath)
-/

namespace Acceptance.Plan

open Acceptance.Text

/-- A part of a path that leads one directory down. -/
structure ProperPart (part : String) : Prop where
  isPart : Path.isPart part = true
  down : part ≠ ".."
  null : Path.hasNullChar part = false

theorem properPart_of_chars {part : String} (ne : part ≠ "") (dot : '.' ∉ part.toList)
    (slash : '/' ∉ part.toList) (null : '\x00' ∉ part.toList) : ProperPart part := by
  refine ⟨Path.isPart_iff.2 ⟨ne, ?_, slash⟩, ?_, Path.hasNullChar_eq_false_iff.2 null⟩
  · rintro rfl
    exact dot (by decide)
  · rintro rfl
    exact dot (by decide)

/-- A text of three characters or more is neither empty nor made of dots alone. -/
theorem ne_dots_of_long {part : String} (h : 2 < part.toList.length) :
    part ≠ "" ∧ part ≠ "." ∧ part ≠ ".." := by
  refine ⟨?_, ?_, ?_⟩
  all_goals
    rintro rfl
    exact absurd h (by decide)

/-! ## Snake case -/

theorem squeeze_subset (cs : List Char) : squeeze cs ⊆ cs := by
  fun_induction squeeze cs with
  | case1 rest ih => exact List.subset_cons_of_subset _ ih
  | case2 c rest _ ih => exact List.cons_subset_cons _ ih
  | case3 => exact List.Subset.refl _

theorem dropEndWhile_subset (p : Char → Bool) (cs : List Char) : dropEndWhile p cs ⊆ cs := by
  intro c h
  exact List.mem_reverse.1 ((List.dropWhile_sublist p).subset (List.mem_reverse.1 h))

theorem trimWhile_subset (p : Char → Bool) (cs : List Char) : trimWhile p cs ⊆ cs := by
  intro c h
  exact (List.dropWhile_sublist p).subset (dropEndWhile_subset p _ h)

theorem isIdentifierPart_of_mem_maskOthers {c : Char} {cs : List Char} (h : c ∈ maskOthers cs) :
    isIdentifierPart c = true := by
  obtain ⟨d, -, rfl⟩ := List.mem_map.1 h
  split
  · assumption
  · decide +kernel

/-- A small character of a name in snake case may stand in an identifier. -/
theorem isIdentifierPart_of_mem_snakeList {d : Char} {cs : List Char}
    (small : d.toNat < lowestImage) (h : d ∈ snakeList cs) : isIdentifierPart d = true := by
  have hmem := mem_of_mem_lowerList small h
  exact isIdentifierPart_of_mem_maskOthers (squeeze_subset _ (trimWhile_subset _ _ hmem))

theorem mem_orElse {c : Char} {cs other : List Char} (h : c ∈ orElse cs other) :
    c ∈ cs ∨ c ∈ other := by
  unfold orElse at h
  split at h
  · exact .inr h
  · exact .inl h

/-- The name of a test module between `test_` and `.py`. -/
def outputStem (fileName : String) : String :=
  .ofList (orElse (snakeList fileName.toList) "feature".toList)

theorem outputName_eq (fileName : String) :
    outputName fileName = "test_" ++ outputStem fileName ++ ".py" := rfl

theorem outputStem_toList (fileName : String) :
    (outputStem fileName).toList = orElse (snakeList fileName.toList) "feature".toList :=
  String.toList_ofList

theorem outputStem_ne_empty (fileName : String) : outputStem fileName ≠ "" := by
  intro h
  have hlist := outputStem_toList fileName
  rw [h, orElse] at hlist
  split at hlist
  · exact absurd hlist (by decide)
  · next hne =>
    rw [← hlist] at hne
    exact hne rfl

/-- It has neither dots nor separators nor null characters. -/
theorem not_mem_outputStem {d : Char} {fileName : String}
    (h : d = '.' ∨ d = '/' ∨ d = '\\' ∨ d = '\x00') : d ∉ (outputStem fileName).toList := by
  have hpart : isIdentifierPart d = false := by
    rcases h with rfl | rfl | rfl | rfl <;> decide +kernel
  have hsmall : d.toNat < lowestImage := by
    rcases h with rfl | rfl | rfl | rfl <;> decide
  rw [outputStem_toList]
  intro hm
  rcases mem_orElse hm with hm | hm
  · rw [isIdentifierPart_of_mem_snakeList hsmall hm] at hpart
    cases hpart
  · rcases h with rfl | rfl | rfl | rfl <;> exact absurd hm (by decide)

theorem outputName_toList (fileName : String) :
    (outputName fileName).toList =
      "test_".toList ++ (outputStem fileName).toList ++ ".py".toList := by
  rw [outputName_eq, String.toList_append, String.toList_append]

theorem proper_outputName (fileName : String) : ProperPart (outputName fileName) := by
  have hlist := outputName_toList fileName
  have hlong : 2 < (outputName fileName).toList.length := by
    rw [hlist]
    simp only [List.length_append]
    have htest : "test_".toList.length = 5 := rfl
    omega
  obtain ⟨hempty, hdot, hup⟩ := ne_dots_of_long hlong
  refine ⟨Path.isPart_iff.2 ⟨hempty, hdot, ?_⟩, hup, Path.hasNullChar_eq_false_iff.2 ?_⟩
  all_goals
    rw [hlist]
    simp only [List.mem_append, not_or]
  · exact ⟨⟨by decide, not_mem_outputStem (.inr (.inl rfl))⟩, by decide⟩
  · exact ⟨⟨by decide, not_mem_outputStem (.inr (.inr (.inr rfl)))⟩, by decide⟩

/-! ## Packages -/

/-- The characters of a dotted name besides its dots. -/
def isDottedChar (c : Char) : Bool := c == '\n' || isPlainLetter c || isWordChar c

theorem isDottedChar_of_isDottedPart {piece : List Char} {c : Char}
    (h : isDottedPart piece = true) (hc : c ∈ piece) : isDottedChar c = true := by
  cases piece with
  | nil => contradiction
  | cons first rest =>
    simp only [isDottedPart, Bool.and_eq_true, List.all_eq_true] at h
    rcases List.mem_cons.1 hc with rfl | hc
    · simp [isDottedChar, h.1]
    · simp [isDottedChar, h.2 c hc]

/-- The pieces of a dotted name are not empty and of its characters. -/
theorem piece_of_isDottedName {value : String} (h : isDottedName value = true)
    {piece : List Char} (hp : piece ∈ splitAt '.' value.toList) :
    piece ≠ [] ∧ ∀ c ∈ piece, isDottedChar c = true := by
  have hbody : ∀ body : List Char, (splitAt '.' body).all isDottedPart = true →
      ∀ piece ∈ splitAt '.' body, piece ≠ [] ∧ ∀ c ∈ piece, isDottedChar c = true := by
    intro body hall piece hp
    have hpart := List.all_eq_true.1 hall piece hp
    refine ⟨?_, fun c hc => isDottedChar_of_isDottedPart hpart hc⟩
    rintro rfl
    cases hpart
  unfold isDottedName at h
  simp only at h
  split at h
  · next hlast =>
    obtain ⟨body, hv⟩ := List.getLast?_eq_some_iff.1 hlast
    rw [hv, List.dropLast_concat] at h
    rw [hv] at hp
    obtain ⟨before, last, hs, hc⟩ := splitAt_concat (c := '.') (d := '\n') (by decide) body
    rw [hc] at hp
    have hpieces := hbody body h
    rw [hs] at hpieces
    rcases List.mem_append.1 hp with hp | hp
    · exact hpieces piece (List.mem_append_left _ hp)
    · rw [List.mem_singleton.1 hp]
      refine ⟨by simp, ?_⟩
      intro c hm
      rcases List.mem_append.1 hm with hm | hm
      · exact (hpieces last (by simp)).2 c hm
      · rw [List.mem_singleton.1 hm]
        rfl
  · exact hbody _ h piece hp

theorem proper_dottedParts {value part : String} (h : isDottedName value = true)
    (hp : part ∈ dottedParts value) : ProperPart part := by
  obtain ⟨piece, hm, rfl⟩ := List.mem_map.1 hp
  obtain ⟨hne, hchars⟩ := piece_of_isDottedName h hm
  refine properPart_of_chars ?_ ?_ ?_ ?_
  · intro he
    exact hne (by simpa using congrArg String.toList he)
  · rw [String.toList_ofList]
    exact not_mem_piece hm
  · rw [String.toList_ofList]
    intro hslash
    exact absurd (hchars '/' hslash) (by decide +kernel)
  · rw [String.toList_ofList]
    intro hnull
    exact absurd (hchars '\x00' hnull) (by decide +kernel)

/-- The directives of a feature that converts have dotted names for values. -/
theorem isDottedName_of_convert {c : Catalog} {fileName tag : String} {f : Gherkin.Feature}
    {p : Plan} {d : Directive} (h : convert c fileName (some f) = .ok p) (ht : tag ∈ f.tags)
    (hd : directive? tag = some d) : isDottedName d.value = true := by
  cases hdotted : isDottedName d.value with
  | true => rfl
  | false =>
    have hfault : tagFault? tag = some (.tag tag) := by simp [tagFault?, hd, hdotted]
    have hm : faultTrial (.tag tag) ∈ trials c f := by
      refine List.mem_append_left _ (List.mem_append_left _ ?_)
      exact List.mem_map.2 ⟨_, List.mem_filterMap.2 ⟨tag, ht, hfault⟩, rfl⟩
    exact absurd ((convert_some_eq_ok_iff.1 h).1 _ hm) (by simp [faultTrial])

theorem mem_of_lastName {names : List String} {name : String} (h : lastName names = name) :
    name = "" ∨ name ∈ names := by
  unfold lastName at h
  cases hl : names.getLast? with
  | none =>
    rw [hl] at h
    exact .inl h.symm
  | some last =>
    rw [hl] at h
    exact .inr (h ▸ List.mem_of_getLast? hl)

theorem package_of_convert_some {c : Catalog} {fileName : String} {f : Gherkin.Feature} {p : Plan}
    (h : convert c fileName (some f) = .ok p) : p.package = packageOf f.tags := by
  rw [(convert_some_eq_ok_iff.1 h).2]
  rfl

theorem package_of_convert {c : Catalog} {fileName : String} {d : Gherkin.Document} {p : Plan}
    (h : convert c fileName d = .ok p) : p.package = "" ∨ isDottedName p.package = true := by
  cases d with
  | none =>
    obtain rfl := Except.ok.inj h
    exact .inl rfl
  | some f =>
    rw [package_of_convert_some h]
    refine (mem_of_lastName rfl).imp id ?_
    intro hm
    obtain ⟨tag, ht, hv⟩ := List.mem_filterMap.1 hm
    split at hv
    · next v hd =>
      have hlast : packageOf f.tags = v := (Option.some.inj hv).symm
      rw [hlast]
      have hdotted := isDottedName_of_convert h ht hd
      exact hdotted
    · cases hv

theorem fileName_of_convert {c : Catalog} {fileName : String} {d : Gherkin.Document} {p : Plan}
    (h : convert c fileName d = .ok p) : p.fileName = fileName := by
  cases d with
  | none =>
    obtain rfl := Except.ok.inj h
    rfl
  | some f => rw [(convert_some_eq_ok_iff.1 h).2]; rfl

/-! ## Output paths -/

/-- **Every part of an output path leads one directory down.** -/
theorem proper_outputParts {c : Catalog} {fileName : String} {d : Gherkin.Document} {p : Plan}
    (h : convert c fileName d = .ok p) : ∀ part ∈ outputParts p, ProperPart part := by
  intro part hp
  rcases List.mem_append.1 hp with hp | hp
  · unfold packageParts at hp
    split at hp
    · contradiction
    · next hne => exact proper_dottedParts ((package_of_convert h).resolve_left hne) hp
  · rw [List.mem_singleton.1 hp]
    exact proper_outputName p.fileName

/-- The parts of a package have no dots. -/
theorem dot_not_mem_packageParts {p : Plan} {part : String} (h : part ∈ packageParts p) :
    '.' ∉ part.toList := by
  unfold packageParts at h
  split at h
  · contradiction
  · obtain ⟨piece, hpiece, rfl⟩ := List.mem_map.1 h
    rw [String.toList_ofList]
    exact not_mem_piece hpiece

theorem ofText_outputPath {p : Plan} (h : ∀ part ∈ outputParts p, ProperPart part) :
    Path.ofText (outputPath p) = ⟨0, outputParts p⟩ :=
  Path.ofText_join (by simp [outputParts]) fun part hp => (h part hp).isPart

end Acceptance.Plan
