import Acceptance.Files.Path
import Acceptance.Proofs.Text.Split

/-!
# Texts of paths

A path whose parts are parts of a text comes back from its text, so that different paths have
different texts.

    (ofText s).Clean                                                (ofText_clean)
    p.Clean → ofText p.text = p                                     (ofText_text)
    p.shown root = q.shown root → p = q     for paths below one directory   (shown_inj)
-/

namespace Acceptance.Path

open Acceptance.Text

/-- A path that a text may stand for. -/
structure Clean (p : Path) : Prop where
  slashes : p.slashes ≤ 2
  parts : ∀ part ∈ p.parts, isPart part = true

/-! ## Parts of texts -/

theorem isPart_iff {part : String} :
    isPart part = true ↔ part ≠ "" ∧ part ≠ "." ∧ '/' ∉ part.toList := by
  simp only [isPart, Bool.and_eq_true, bne_iff_ne, Bool.not_eq_eq_eq_not, Bool.not_true,
    List.contains_eq_mem, decide_eq_false_iff_not, and_assoc]

theorem isPart_of_mem_partsOf {part : String} {cs : List Char} (h : part ∈ partsOf cs) :
    isPart part = true := by
  obtain ⟨piece, hp, rfl⟩ := List.mem_map.1 h
  obtain ⟨hp, hne⟩ := List.mem_filter.1 hp
  simp only [Bool.and_eq_true, bne_iff_ne] at hne
  rw [isPart_iff, String.toList_ofList]
  refine ⟨?_, ?_, not_mem_piece hp⟩
  · intro he
    exact hne.1 (by simpa using congrArg String.toList he)
  · intro he
    exact hne.2 (by simpa using congrArg String.toList he)

theorem ofText_clean (s : String) : (ofText s).Clean := by
  constructor
  · show (if _ ≤ 2 then _ else 1) ≤ 2
    split <;> omega
  · intro part h
    exact isPart_of_mem_partsOf h

theorem partsOf_slashes (n : Nat) (cs : List Char) :
    partsOf (List.replicate n '/' ++ cs) = partsOf cs := by
  induction n with
  | zero => rfl
  | succ n ih =>
    rw [List.replicate_succ, List.cons_append, ← ih]
    simp [partsOf, splitAt]

theorem splitAt_parts {parts : List String} (ne : parts ≠ [])
    (h : ∀ part ∈ parts, isPart part = true) :
    splitAt '/' (List.intercalate ['/'] (parts.map String.toList)) = parts.map String.toList := by
  refine splitAt_intercalate (by simpa using ne) ?_
  intro piece hp
  obtain ⟨part, hm, rfl⟩ := List.mem_map.1 hp
  exact (isPart_iff.1 (h part hm)).2.2

theorem partsOf_intercalate {parts : List String} (h : ∀ part ∈ parts, isPart part = true) :
    partsOf (List.intercalate ['/'] (parts.map String.toList)) = parts := by
  by_cases hne : parts = []
  · rw [hne]
    rfl
  · have hf : (parts.map String.toList).filter (fun p => p != [] && p != ['.']) =
        parts.map String.toList := by
      refine List.filter_eq_self.2 ?_
      intro piece hp
      obtain ⟨part, hm, rfl⟩ := List.mem_map.1 hp
      obtain ⟨hempty, hdot, -⟩ := isPart_iff.1 (h part hm)
      simp only [Bool.and_eq_true, bne_iff_ne]
      refine ⟨fun he => hempty ?_, fun he => hdot ?_⟩
      · exact String.toList_inj.1 he
      · exact String.toList_inj.1 he
    rw [partsOf, splitAt_parts hne h, hf, List.map_map]
    simp

/-! ## Texts -/

theorem text_toList {p : Path} (h : ¬ (p.slashes = 0 ∧ p.parts = [])) :
    p.text.toList =
      List.replicate p.slashes '/' ++ List.intercalate ['/'] (p.parts.map String.toList) := by
  rw [text, if_neg h, String.toList_append, String.toList_ofList, join,
    String.toList_intercalate]
  rfl

/-- The first part of a row of parts does not begin with a slash. -/
theorem takeWhile_slash_intercalate {parts : List String}
    (h : ∀ part ∈ parts, isPart part = true) :
    (List.intercalate ['/'] (parts.map String.toList)).takeWhile (· == '/') = [] := by
  cases parts with
  | nil => rfl
  | cons part rest =>
    obtain ⟨hempty, -, hslash⟩ := isPart_iff.1 (h part (by simp))
    obtain ⟨c, cs, hc⟩ : ∃ c cs, part.toList = c :: cs := by
      refine List.exists_cons_of_ne_nil ?_
      intro he
      exact hempty (String.toList_inj.1 he)
    have hne : c ≠ '/' := by
      rintro rfl
      rw [hc] at hslash
      exact hslash List.mem_cons_self
    cases rest with
    | nil =>
      rw [List.map_cons, List.map_nil, List.intercalate_singleton, hc]
      exact List.takeWhile_cons_of_neg (by simpa using hne)
    | cons other others =>
      rw [List.map_cons, List.map_cons, List.intercalate_cons_cons, hc, List.cons_append,
        List.cons_append]
      exact List.takeWhile_cons_of_neg (by simpa using hne)

/-- **A path comes back from its text.** -/
theorem ofText_text {p : Path} (h : p.Clean) : ofText p.text = p := by
  by_cases hp : p.slashes = 0 ∧ p.parts = []
  · obtain ⟨slashes, parts⟩ := p
    obtain ⟨rfl, rfl⟩ := hp
    decide
  · have hl : ((p.text.toList).takeWhile (· == '/')).length = p.slashes := by
      rw [text_toList hp, List.takeWhile_append_of_pos (by simp),
        takeWhile_slash_intercalate h.parts, List.append_nil, List.length_replicate]
    have hparts : partsOf p.text.toList = p.parts := by
      rw [text_toList hp, partsOf_slashes, partsOf_intercalate h.parts]
    rw [ofText, hl, hparts, if_pos h.slashes]

theorem text_inj {p q : Path} (hp : p.Clean) (hq : q.Clean) (h : p.text = q.text) : p = q := by
  rw [← ofText_text hp, h, ofText_text hq]

/-- A row of parts comes back from its text. -/
theorem ofText_join {parts : List String} (ne : parts ≠ [])
    (h : ∀ part ∈ parts, isPart part = true) : ofText (join "/" parts) = ⟨0, parts⟩ := by
  have ht : (⟨0, parts⟩ : Path).text = join "/" parts := by
    rw [text, if_neg (fun h => ne h.2)]
    simp
  rw [← ht]
  exact ofText_text ⟨Nat.zero_le 2, h⟩

/-! ## Paths as messages show them -/

/-- The path below another one, or the path itself, as it is shown. -/
theorem shown_eq (p root : Path) : p.shown root = ((p.below? root).getD p).text := rfl

/-- The path of names below a path. -/
def down (p : Path) (names : List String) : Path := ⟨p.slashes, p.parts ++ names⟩

theorem down_down (p : Path) (names others : List String) :
    (p.down names).down others = p.down (names ++ others) := by
  simp [down]

theorem below?_down (root : Path) (names : List String) :
    (root.down names).below? root = some ⟨0, names⟩ := by
  have hp : root.parts.isPrefixOf (root.down names).parts = true :=
    List.isPrefixOf_iff_prefix.2 (List.prefix_append _ _)
  rw [below?, if_pos ⟨rfl, hp⟩]
  simp [down]

theorem eq_of_below? {p root q : Path} (h : p.below? root = some q) :
    p = root.down q.parts ∧ q.slashes = 0 := by
  unfold below? at h
  split at h
  · next hp =>
    obtain ⟨hs, hp⟩ := hp
    obtain ⟨rest, hr⟩ := List.isPrefixOf_iff_prefix.1 hp
    obtain rfl := Option.some.inj h
    obtain ⟨slashes, parts⟩ := p
    refine ⟨?_, rfl⟩
    simp only at hs hr
    simp [down, ← hr, hs]
  · cases h

/-- A path below the directory that a setting names. -/
def Under (root : Path) (setting : String) (p : Path) : Prop :=
  ∃ names : List String, (∀ name ∈ names, isPart name = true) ∧
    p = (root.«to» (ofText setting)).down names

/-- What is shown of such a path is clean, and relative only where the path lies below the root. -/
theorem shown_clean {root p : Path} {setting : String} (h : Under root setting p) :
    ((p.below? root).getD p).Clean ∧
      (((p.below? root).getD p).slashes = 0 → (p.below? root).isSome) := by
  obtain ⟨names, hnames, rfl⟩ := h
  have hset := ofText_clean setting
  by_cases ha : (ofText setting).isAbsolute = true
  · have hto : root.«to» (ofText setting) = ofText setting := if_pos ha
    rw [hto]
    have hall : ∀ part ∈ (ofText setting).parts ++ names, isPart part = true := by
      intro part hm
      rcases List.mem_append.1 hm with hm | hm
      · exact hset.parts part hm
      · exact hnames part hm
    cases hb : ((ofText setting).down names).below? root with
    | none =>
      refine ⟨⟨hset.slashes, hall⟩, ?_⟩
      intro hz
      simp only [isAbsolute, bne_iff_ne, ne_eq] at ha
      exact absurd hz ha
    | some q =>
      obtain ⟨he, hz⟩ := eq_of_below? hb
      refine ⟨⟨by rw [Option.getD_some, hz]; omega, ?_⟩, fun _ => rfl⟩
      intro part hm
      refine hall part ?_
      have hparts := congrArg Path.parts he
      simp only [down] at hparts
      rw [hparts]
      exact List.mem_append_right _ hm
  · have hto : root.«to» (ofText setting) = root.down (ofText setting).parts := if_neg ha
    rw [hto, down_down, below?_down]
    refine ⟨⟨Nat.zero_le 2, ?_⟩, fun _ => rfl⟩
    intro part hm
    rcases List.mem_append.1 hm with hm | hm
    · exact hset.parts part hm
    · exact hnames part hm

/-- **Different paths below a directory are shown differently.** -/
theorem shown_inj {root p q : Path} {setting : String} (hp : Under root setting p)
    (hq : Under root setting q) (h : p.shown root = q.shown root) : p = q := by
  obtain ⟨hcp, hbp⟩ := shown_clean hp
  obtain ⟨hcq, hbq⟩ := shown_clean hq
  rw [shown_eq, shown_eq] at h
  have he := text_inj hcp hcq h
  cases hb : p.below? root with
  | some p' =>
    obtain ⟨hp', hzero⟩ := eq_of_below? hb
    rw [hb, Option.getD_some] at he
    rw [← he] at hbq
    obtain ⟨q', hq'⟩ := Option.isSome_iff_exists.1 (hbq hzero)
    rw [hq', Option.getD_some] at he
    rw [hp', (eq_of_below? hq').1, he]
  | none =>
    rw [hb, Option.getD_none] at he
    cases hb' : q.below? root with
    | none =>
      rw [hb', Option.getD_none] at he
      exact he
    | some q' =>
      rw [hb', Option.getD_some] at he
      have hzero : ((p.below? root).getD p).slashes = 0 := by
        rw [hb, Option.getD_none, he]
        exact (eq_of_below? hb').2
      have := hbp hzero
      rw [hb] at this
      cases this

end Acceptance.Path
