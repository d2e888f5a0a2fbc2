import Acceptance.Proofs.Text.Split
import Acceptance.Step.Pattern
import Mathlib.Data.List.Forall2

/-!
# Splits of a step text

A pattern is its literal pieces with a placeholder between neighbours, no placeholder beginning
inside a piece.  It matches the texts that split into those pieces, letter by letter without regard
to case, and captures between them: quoted phrases and runs without blanks.  Of several splits the
search finds the first, where captures are compared from left to right, a quoted phrase stands
before a run and a longer run before a shorter one.

    Written pieces cs ↔ pieces = literals cs                                     (written_iff)
    capturesOf? pieces text = some captures ↔ First (Splits pieces text) captures
                                                                                 (capturesOf?_iff)
    accepts pattern text = true ↔ the text splits                               (accepts_iff_splits)
-/

namespace Acceptance.Pattern

open Acceptance.Text

/-! ## Pieces of a pattern -/

/-- A text that begins with the name of a placeholder and the brace that closes it. -/
def ClosesName (cs : List Char) : Prop :=
  ∃ name behind, name ≠ [] ∧ '\x7d' ∉ name ∧ cs = name ++ '\x7d' :: behind

/-- A piece of a pattern in front of other text, where no placeholder begins in the piece. -/
def IsLiteral (piece behind : List Char) : Prop :=
  ∀ before after, piece = before ++ '\x7b' :: after → ¬ ClosesName (after ++ behind)

/-- A pattern by its literal pieces, with a placeholder between neighbours. -/
inductive Written : List (List Char) → List Char → Prop
  | last {piece : List Char} (literal : IsLiteral piece []) : Written [piece] piece
  | placeholder {piece name rest : List Char} {pieces : List (List Char)}
      (literal : IsLiteral piece ('\x7b' :: (name ++ '\x7d' :: rest)))
      (named : name ≠ []) (closed : '\x7d' ∉ name) (written : Written pieces rest) :
      Written (piece :: pieces) (piece ++ '\x7b' :: (name ++ '\x7d' :: rest))

theorem afterPlaceholder?_eq_some_iff {cs behind : List Char} :
    afterPlaceholder? cs = some behind ↔
      ∃ name, name ≠ [] ∧ '\x7d' ∉ name ∧ cs = name ++ '\x7d' :: behind := by
  constructor
  · intro h
    unfold afterPlaceholder? at h
    split at h
    · next c name brace rest hname hrest =>
      obtain rfl := Option.some.inj h
      obtain ⟨-, hclosed, hcs⟩ := eq_append_of_dropWhile_ne hrest
      rw [hname] at hclosed hcs
      exact ⟨c :: name, List.cons_ne_nil _ _, hclosed, hcs⟩
    · cases h
  · rintro ⟨name, hne, hclosed, rfl⟩
    obtain ⟨htake, hdrop⟩ := takeWhile_ne_append hclosed behind
    obtain ⟨c, name, rfl⟩ := List.exists_cons_of_ne_nil hne
    unfold afterPlaceholder?
    rw [htake, hdrop]

theorem afterPlaceholder?_eq_none_iff {cs : List Char} :
    afterPlaceholder? cs = none ↔ ¬ ClosesName cs := by
  rw [Option.eq_none_iff_forall_ne_some]
  constructor
  · rintro h ⟨name, behind, hname⟩
    exact h behind (afterPlaceholder?_eq_some_iff.2 ⟨name, hname⟩)
  · rintro h behind hsome
    obtain ⟨name, hname⟩ := afterPlaceholder?_eq_some_iff.1 hsome
    exact h ⟨name, behind, hname⟩

theorem isLiteral_nil (behind : List Char) : IsLiteral [] behind := by
  intro before after he
  simp at he

theorem isLiteral_cons_iff {c : Char} {piece behind : List Char} :
    IsLiteral (c :: piece) behind ↔
      (c = '\x7b' → ¬ ClosesName (piece ++ behind)) ∧ IsLiteral piece behind := by
  constructor
  · intro h
    refine ⟨?_, ?_⟩
    · rintro rfl
      exact h [] piece rfl
    · rintro before after rfl
      exact h (c :: before) after rfl
  · rintro ⟨hfirst, hrest⟩ before after he
    cases before with
    | nil =>
      obtain ⟨rfl, rfl⟩ := List.cons.inj he
      exact hfirst rfl
    | cons b before => exact hrest before after (List.cons.inj he).2

/-- A character in front of a piece belongs to it unless it opens a placeholder. -/
theorem Written.extend {pieces : List (List Char)} {c : Char} {rest : List Char}
    (h : Written pieces rest) (literal : c = '\x7b' → ¬ ClosesName rest) :
    Written (extendFirst c pieces) (c :: rest) := by
  cases h with
  | last hliteral =>
    refine .last (isLiteral_cons_iff.2 ⟨?_, hliteral⟩)
    rwa [List.append_nil]
  | placeholder hliteral hnamed hclosed hwritten =>
    exact .placeholder (isLiteral_cons_iff.2 ⟨literal, hliteral⟩) hnamed hclosed hwritten

theorem written_literals (cs : List Char) : Written (literals cs) cs := by
  fun_induction literals cs with
  | case1 => exact .last (isLiteral_nil _)
  | case2 rest behind h ih =>
    obtain ⟨name, hnamed, hclosed, rfl⟩ := afterPlaceholder?_eq_some_iff.1 h
    exact .placeholder (isLiteral_nil _) hnamed hclosed ih
  | case3 rest h ih => exact ih.extend fun _ => afterPlaceholder?_eq_none_iff.1 h
  | case4 c rest hc ih => exact ih.extend fun he => absurd he hc

theorem literals_append {piece behind : List Char} (h : IsLiteral piece behind) :
    literals (piece ++ behind) = piece.foldr extendFirst (literals behind) := by
  induction piece with
  | nil => rfl
  | cons c piece ih =>
    obtain ⟨hfirst, hrest⟩ := isLiteral_cons_iff.1 h
    rw [List.foldr_cons, ← ih hrest, List.cons_append, literals]
    split
    · next hc =>
      split
      · next hsome =>
        rw [afterPlaceholder?_eq_none_iff.2 (hfirst hc)] at hsome
        cases hsome
      · rfl
    · rfl

theorem foldr_extendFirst (piece first : List Char) (pieces : List (List Char)) :
    piece.foldr extendFirst (first :: pieces) = (piece ++ first) :: pieces := by
  induction piece with
  | nil => rfl
  | cons c piece ih => rw [List.foldr_cons, ih, extendFirst, List.cons_append]

/-- **A pattern has one way to be written.** -/
theorem written_iff {pieces : List (List Char)} {cs : List Char} :
    Written pieces cs ↔ pieces = literals cs := by
  constructor
  · intro h
    induction h with
    | @last piece hliteral =>
      have happend := literals_append hliteral
      rw [List.append_nil, literals, foldr_extendFirst, List.append_nil] at happend
      exact happend.symm
    | @placeholder piece name rest pieces hliteral hnamed hclosed hwritten ih =>
      have hopen : literals ('\x7b' :: (name ++ '\x7d' :: rest)) = [] :: literals rest := by
        have hafter : afterPlaceholder? (name ++ '\x7d' :: rest) = some rest :=
          afterPlaceholder?_eq_some_iff.2 ⟨name, hnamed, hclosed, rfl⟩
        rw [literals, if_pos rfl]
        split
        · next hsome =>
          rw [hafter] at hsome
          rw [Option.some.inj hsome]
        · next hnone =>
          rw [hafter] at hnone
          cases hnone
      rw [literals_append hliteral, hopen, foldr_extendFirst, List.append_nil, ih]
  · rintro rfl
    exact written_literals cs

/-! ## Captures and literal text -/

/-- A double-quoted phrase with its quotes. -/
def IsQuoted (cs : List Char) : Prop := ∃ phrase, '"' ∉ phrase ∧ cs = '"' :: (phrase ++ ['"'])

/-- A run of characters without blanks. -/
def IsRun (cs : List Char) : Prop := cs ≠ [] ∧ ∀ c ∈ cs, isBlank c = false

def IsCapture (cs : List Char) : Prop := IsQuoted cs ∨ IsRun cs

/-- A capture that is tried before another one: the quoted phrase, then longer runs. -/
def Preferred (a b : List Char) : Prop :=
  ¬ IsQuoted b ∧ (IsQuoted a ∨ b.length < a.length)

/-- Two texts of the same letters, without regard to case. -/
def Alike (piece part : List Char) : Prop :=
  List.Forall₂ (fun p c => sameLetter p c = true) piece part

theorem dropLiteral?_eq_some_iff {piece text rest : List Char} :
    dropLiteral? piece text = some rest ↔ ∃ part, Alike piece part ∧ text = part ++ rest := by
  induction piece generalizing text with
  | nil => simp [dropLiteral?, Alike, eq_comm (a := text)]
  | cons p piece ih =>
    cases text with
    | nil => simp [dropLiteral?, Alike, List.forall₂_cons_left_iff]
    | cons c text =>
      rw [dropLiteral?]
      constructor
      · intro h
        split at h
        · next hletter =>
          obtain ⟨part, halike, rfl⟩ := ih.1 h
          exact ⟨c :: part, .cons hletter halike, rfl⟩
        · cases h
      · rintro ⟨part, halike, htext⟩
        obtain ⟨c', part, hletter, hpart, rfl⟩ := List.forall₂_cons_left_iff.1 halike
        obtain ⟨rfl, rfl⟩ := List.cons.inj htext
        rw [if_pos hletter]
        exact ih.2 ⟨part, hpart, rfl⟩

theorem quotedStart?_eq_some_iff {text capture rest : List Char} :
    quotedStart? text = some (capture, rest) ↔ IsQuoted capture ∧ text = capture ++ rest := by
  constructor
  · intro h
    unfold quotedStart? at h
    split at h
    · next text =>
      split at h
      · next close behind hdrop =>
        obtain ⟨rfl, rfl⟩ := Prod.mk.inj (Option.some.inj h)
        obtain ⟨rfl, hphrase, htext⟩ := eq_append_of_dropWhile_ne hdrop
        exact ⟨⟨_, hphrase, rfl⟩, by simpa using htext⟩
      · cases h
    · cases h
  · rintro ⟨⟨phrase, hphrase, rfl⟩, rfl⟩
    obtain ⟨htake, hdrop⟩ := takeWhile_ne_append hphrase rest
    rw [List.cons_append, List.append_assoc, List.singleton_append]
    unfold quotedStart?
    simp only [htake, hdrop]

theorem isRun_cons_iff {c : Char} {cs : List Char} :
    IsRun (c :: cs) ↔ isBlank c = false ∧ (cs = [] ∨ IsRun cs) := by
  cases cs with
  | nil => simp [IsRun]
  | cons d cs => simp [IsRun]

theorem mem_bareStarts_iff {text run rest : List Char} :
    (run, rest) ∈ bareStarts text ↔ IsRun run ∧ text = run ++ rest := by
  induction text generalizing run with
  | nil => cases run <;> simp [bareStarts, IsRun]
  | cons c text ih =>
    rw [bareStarts]
    cases run with
    | nil =>
      have hno : ¬ IsRun [] := fun h => h.1 rfl
      split <;> simp [hno]
    | cons d run =>
      rw [isRun_cons_iff]
      split
      · next hblank =>
        simp only [List.not_mem_nil, List.cons_append, List.cons.injEq, false_iff]
        rintro ⟨⟨hd, -⟩, rfl, -⟩
        rw [hblank] at hd
        cases hd
      · next hblank =>
        simp only [List.mem_append, List.mem_map, List.mem_singleton, Prod.mk.injEq,
          List.cons.injEq, List.cons_append]
        constructor
        · rintro (⟨⟨run', rest'⟩, hs, ⟨rfl, rfl⟩, rfl⟩ | ⟨⟨rfl, rfl⟩, rfl⟩)
          · obtain ⟨hrun, rfl⟩ := ih.1 hs
            exact ⟨⟨by simpa using hblank, .inr hrun⟩, rfl, rfl⟩
          · exact ⟨⟨by simpa using hblank, .inl rfl⟩, rfl, rfl⟩
        · rintro ⟨⟨-, hrun⟩, rfl, rfl⟩
          rcases hrun with rfl | hrun
          · exact .inr ⟨⟨rfl, rfl⟩, rfl⟩
          · exact .inl ⟨(run, rest), ih.2 ⟨hrun, rfl⟩, ⟨rfl, rfl⟩, rfl⟩

theorem bareStarts_longer (text : List Char) :
    (bareStarts text).Pairwise fun a b => b.1.length < a.1.length := by
  induction text with
  | nil => exact .nil
  | cons c text ih =>
    rw [bareStarts]
    split
    · exact .nil
    · refine List.pairwise_append.2 ⟨?_, List.pairwise_singleton _ _, ?_⟩
      · exact List.pairwise_map.2 (ih.imp fun h => Nat.succ_lt_succ h)
      · intro a ha b hb
        obtain ⟨s, hs, rfl⟩ := List.mem_map.1 ha
        obtain rfl := List.mem_singleton.1 hb
        have hne := (mem_bareStarts_iff.1 hs).1.1
        simpa using List.length_pos_iff.2 hne

theorem mem_candidates_iff {text capture rest : List Char} :
    (capture, rest) ∈ candidates text ↔ IsCapture capture ∧ text = capture ++ rest := by
  rw [candidates, List.mem_append, Option.mem_toList, quotedStart?_eq_some_iff, mem_bareStarts_iff,
    ← or_and_right, IsCapture]

theorem candidates_ordered (text : List Char) :
    (candidates text).Pairwise fun s t => IsQuoted s.1 ∨ t.1.length < s.1.length := by
  rw [candidates]
  refine List.pairwise_append.2 ⟨?_, (bareStarts_longer text).imp .inr, ?_⟩
  · cases quotedStart? text <;> simp
  · intro s hs t _
    exact .inl (quotedStart?_eq_some_iff.1 (Option.mem_toList.1 hs)).1

theorem head?_candidates {text : List Char} {s : List Char × List Char} (hs : s ∈ candidates text)
    (hquoted : IsQuoted s.1) : (candidates text).head? = some s := by
  have hstart : quotedStart? text = some s :=
    quotedStart?_eq_some_iff.2 ⟨hquoted, (mem_candidates_iff.1 hs).2⟩
  rw [candidates, hstart]
  rfl

/-! ## Splits and their order -/

/-- A text as parts that are the pieces without regard to case, with captures between them. -/
inductive SplitsInto : List (List Char) → List Char → List (List Char) → Prop
  | last {piece part : List Char} (alike : Alike piece part) : SplitsInto [piece] part []
  | capture {piece part c rest : List Char} {pieces cs : List (List Char)}
      (alike : Alike piece part) (captured : IsCapture c) (splits : SplitsInto pieces rest cs) :
      SplitsInto (piece :: pieces) (part ++ (c ++ rest)) (c :: cs)

/-- A split of a text, or of the text without one final line feed. -/
def Splits (pieces : List (List Char)) (text : List Char) (captures : List (List Char)) : Prop :=
  SplitsInto pieces text captures ∨
    ∃ body, text = body ++ ['\n'] ∧ SplitsInto pieces body captures

/-- Captures compared from left to right. -/
inductive Before : List (List Char) → List (List Char) → Prop
  | head {a b : List Char} {as bs : List (List Char)} (preferred : Preferred a b) :
      Before (a :: as) (b :: bs)
  | tail {a : List Char} {as bs : List (List Char)} (before : Before as bs) :
      Before (a :: as) (a :: bs)

/-- The first of the captures with a property. -/
def First (P : List (List Char) → Prop) (captures : List (List Char)) : Prop :=
  P captures ∧ ∀ others, P others → others = captures ∨ Before captures others

/-- The answer of a search: the first captures with a property, nothing where there are none. -/
def Finds (P : List (List Char) → Prop) : Option (List (List Char)) → Prop
  | some captures => First P captures
  | none => ∀ captures, ¬ P captures

theorem Preferred.asymm {a b : List Char} (h : Preferred a b) : ¬ Preferred b a := by
  rintro ⟨hna, hquoted | hlength⟩
  · exact h.1 hquoted
  · rcases h.2 with hquoted | hlonger
    · exact hna hquoted
    · exact Nat.lt_asymm hlength hlonger

theorem Before.asymm {as bs : List (List Char)} (h : Before as bs) : ¬ Before bs as := by
  induction h with
  | head hpreferred =>
    intro hback
    cases hback with
    | head hother => exact hpreferred.asymm hother
    | tail => exact hpreferred.asymm hpreferred
  | tail hbefore ih =>
    intro hback
    cases hback with
    | head hother => exact hother.asymm hother
    | tail hother => exact ih hother

theorem First.unique {P : List (List Char) → Prop} {as bs : List (List Char)} (ha : First P as)
    (hb : First P bs) : as = bs := by
  rcases ha.2 bs hb.1 with rfl | hbefore
  · rfl
  · rcases hb.2 as ha.1 with rfl | hback
    · rfl
    · exact absurd hback hbefore.asymm

theorem Finds.eq_some_iff {P : List (List Char) → Prop} {found : Option (List (List Char))}
    (h : Finds P found) {captures : List (List Char)} :
    found = some captures ↔ First P captures := by
  cases found with
  | none => simpa using fun hfirst : First P captures => h captures hfirst.1
  | some others =>
    constructor
    · rintro ⟨⟩
      exact h
    · intro hfirst
      rw [First.unique h hfirst]

theorem Finds.isSome_iff {P : List (List Char) → Prop} {found : Option (List (List Char))}
    (h : Finds P found) : found.isSome = true ↔ ∃ captures, P captures := by
  cases found with
  | none =>
    rw [Finds] at h
    simpa using h
  | some captures => simpa using ⟨captures, h.1⟩

/-! ## The search -/

theorem isEnd_iff {text : List Char} : isEnd text = true ↔ text = [] ∨ text = ['\n'] := by
  simp [isEnd]

theorem splits_last_iff {piece text : List Char} {captures : List (List Char)} :
    Splits [piece] text captures ↔
      captures = [] ∧ ∃ rest, dropLiteral? piece text = some rest ∧ isEnd rest = true := by
  constructor
  · rintro (h | ⟨body, rfl, h⟩)
    · cases h with
      | last halike =>
        exact ⟨rfl, [], dropLiteral?_eq_some_iff.2 ⟨_, halike, (List.append_nil _).symm⟩, rfl⟩
      | capture _ _ hsplits => cases hsplits
    · cases h with
      | last halike => exact ⟨rfl, ['\n'], dropLiteral?_eq_some_iff.2 ⟨_, halike, rfl⟩, rfl⟩
      | capture _ _ hsplits => cases hsplits
  · rintro ⟨rfl, rest, hrest, hend⟩
    obtain ⟨part, halike, rfl⟩ := dropLiteral?_eq_some_iff.1 hrest
    rcases isEnd_iff.1 hend with rfl | rfl
    · rw [List.append_nil]
      exact .inl (.last halike)
    · exact .inr ⟨part, rfl, .last halike⟩

theorem splits_cons_iff {piece next text : List Char} {pieces captures : List (List Char)} :
    Splits (piece :: next :: pieces) text captures ↔
      ∃ rest, dropLiteral? piece text = some rest ∧
        ∃ s ∈ candidates rest, ∃ cs, Splits (next :: pieces) s.2 cs ∧ captures = s.1 :: cs := by
  constructor
  · rintro (h | ⟨body, rfl, h⟩)
    · cases h with
      | @capture _ part c rest _ cs halike hcaptured hsplits =>
        exact ⟨c ++ rest, dropLiteral?_eq_some_iff.2 ⟨part, halike, rfl⟩, (c, rest),
          mem_candidates_iff.2 ⟨hcaptured, rfl⟩, cs, .inl hsplits, rfl⟩
    · cases h with
      | @capture _ part c rest _ cs halike hcaptured hsplits =>
        refine ⟨c ++ (rest ++ ['\n']), dropLiteral?_eq_some_iff.2 ⟨part, halike, ?_⟩,
          (c, rest ++ ['\n']), mem_candidates_iff.2 ⟨hcaptured, rfl⟩, cs,
          .inr ⟨rest, rfl, hsplits⟩, rfl⟩
        rw [List.append_assoc, List.append_assoc]
  · rintro ⟨behind, hbehind, ⟨c, rest⟩, hs, cs, hsplits, rfl⟩
    obtain ⟨part, halike, rfl⟩ := dropLiteral?_eq_some_iff.1 hbehind
    obtain ⟨hcaptured, rfl⟩ := mem_candidates_iff.1 hs
    rcases hsplits with hsplits | ⟨body, rfl, hsplits⟩
    · exact .inl (.capture halike hcaptured hsplits)
    · refine .inr ⟨part ++ (c ++ body), ?_, .capture halike hcaptured hsplits⟩
      rw [List.append_assoc, List.append_assoc]

/-- The candidates are tried in the order of the captures. -/
theorem finds_candidates {P : List Char → List (List Char) → Prop}
    {search : List Char → Option (List (List Char))} (h : ∀ rest, Finds (P rest) (search rest))
    (text : List Char) :
    Finds (fun captures => ∃ s ∈ candidates text, ∃ cs, P s.2 cs ∧ captures = s.1 :: cs)
      ((candidates text).findSome? fun s => (search s.2).map (s.1 :: ·)) := by
  cases hfound : (candidates text).findSome? fun s => (search s.2).map (s.1 :: ·) with
  | none =>
    rintro captures ⟨s, hs, cs, hcs, rfl⟩
    have hnone := List.findSome?_eq_none_iff.1 hfound s hs
    rw [Option.map_eq_none_iff] at hnone
    have hempty := h s.2
    rw [hnone] at hempty
    exact hempty cs hcs
  | some captures =>
    obtain ⟨tried, s, later, hsplit, hs, htried⟩ := List.findSome?_eq_some_iff.1 hfound
    obtain ⟨cs, hcs, rfl⟩ := Option.map_eq_some_iff.1 hs
    have hfirst : First (P s.2) cs := (h s.2).eq_some_iff.1 hcs
    have hmem : s ∈ candidates text := by simp [hsplit]
    refine ⟨⟨s, hmem, cs, hfirst.1, rfl⟩, ?_⟩
    rintro _ ⟨t, ht, ds, hds, rfl⟩
    have hnot : t ∉ tried := by
      intro htt
      have hnone := Option.map_eq_none_iff.1 (htried t htt)
      have hempty := h t.2
      rw [hnone] at hempty
      exact hempty ds hds
    by_cases hst : t = s
    · subst hst
      rcases hfirst.2 ds hds with rfl | hbefore
      · exact .inl rfl
      · exact .inr (.tail hbefore)
    · -- a quoted phrase heads the candidates, so one that comes later is not quoted
      have hlater : t ∈ later := by
        rw [hsplit] at ht
        simpa [hnot, hst] using ht
      have hbare : ¬ IsQuoted t.1 := by
        intro hquoted
        have hhead := head?_candidates ht hquoted
        rw [hsplit] at hhead
        cases tried with
        | nil => exact hst (Option.some.inj hhead).symm
        | cons first tried =>
          obtain rfl := Option.some.inj hhead
          exact hnot List.mem_cons_self
      have hordered := candidates_ordered text
      rw [hsplit] at hordered
      have hpair := (List.pairwise_cons.1 (List.pairwise_append.1 hordered).2.1).1 t hlater
      exact .inr (.head ⟨hbare, hpair⟩)

theorem capturesBehind?_cons (piece : List Char) (pieces : List (List Char)) (text : List Char) :
    capturesBehind? (piece :: pieces) text =
      (candidates text).findSome? fun s => (capturesOf? (piece :: pieces) s.2).map (s.1 :: ·) := by
  rw [capturesBehind?]
  congr 1
  funext s
  rw [capturesOf?]
  cases dropLiteral? piece s.2 <;> rfl

theorem finds_capturesOf? (pieces : List (List Char)) (text : List Char) :
    Finds (Splits pieces text) (capturesOf? pieces text) := by
  induction pieces generalizing text with
  | nil => rintro captures (⟨⟨⟩⟩ | ⟨body, -, ⟨⟩⟩)
  | cons piece pieces ih =>
    cases pieces with
    | nil =>
      have hlast : Splits [piece] text = fun captures => captures = [] ∧
          ∃ rest, dropLiteral? piece text = some rest ∧ isEnd rest = true :=
        funext fun captures => propext splits_last_iff
      rw [hlast, capturesOf?]
      cases dropLiteral? piece text with
      | none => simp [Finds]
      | some rest =>
        simp only [capturesBehind?]
        split
        · next hend => exact ⟨⟨rfl, rest, rfl, hend⟩, fun others h => .inl h.1⟩
        · next hend =>
          rintro captures ⟨-, rest', ⟨⟩, hend'⟩
          exact hend hend'
    | cons next pieces =>
      have hcons : Splits (piece :: next :: pieces) text = fun captures =>
          ∃ rest, dropLiteral? piece text = some rest ∧
            ∃ s ∈ candidates rest, ∃ cs, Splits (next :: pieces) s.2 cs ∧ captures = s.1 :: cs :=
        funext fun captures => propext splits_cons_iff
      rw [hcons, capturesOf?]
      cases dropLiteral? piece text with
      | none => simp [Finds]
      | some rest => simpa [capturesBehind?_cons] using finds_candidates ih rest

/-- **The search finds the first split.** -/
theorem capturesOf?_iff {pieces : List (List Char)} {text : List Char}
    {captures : List (List Char)} :
    capturesOf? pieces text = some captures ↔ First (Splits pieces text) captures :=
  (finds_capturesOf? pieces text).eq_some_iff

/-! ## Values -/

/-- A capture and its value, the quotes around it removed. -/
inductive Unquoted : List Char → List Char → Prop
  | enclosed (inner : List Char) : Unquoted ('"' :: (inner ++ ['"'])) inner
  | plain {cs : List Char} (h : ∀ inner, cs ≠ '"' :: (inner ++ ['"'])) : Unquoted cs cs

theorem unquoted_unquoteList (cs : List Char) : Unquoted cs (unquoteList cs) := by
  fun_cases unquoteList cs with
  | case1 rest hlast =>
    obtain ⟨inner, rfl⟩ := List.getLast?_eq_some_iff.1 hlast
    rw [List.dropLast_concat]
    exact .enclosed inner
  | case2 rest hlast =>
    refine .plain ?_
    rintro inner ⟨⟩
    exact hlast List.getLast?_concat
  | case3 _ hplain =>
    refine .plain ?_
    rintro inner rfl
    exact hplain _ rfl

theorem unquoted_arguments {pattern text : String} {captures : List (List Char)}
    (h : capturesOf? (literals pattern.toList) text.toList = some captures) :
    List.Forall₂ Unquoted captures ((arguments pattern text).map String.toList) := by
  have harguments : (arguments pattern text).map String.toList = captures.map unquoteList := by
    simp [arguments, captures?, h, unquote, Function.comp_def]
  rw [harguments]
  exact List.forall₂_map_right_iff.2 (List.forall₂_same.2 fun cs _ => unquoted_unquoteList cs)

/-! ## Top theorem -/

theorem capturesOf?_length {pieces : List (List Char)} {text : List Char}
    {captures : List (List Char)} (h : capturesOf? pieces text = some captures) :
    captures.length + 1 = pieces.length := by
  cases pieces with
  | nil => cases h
  | cons piece pieces =>
    rw [capturesOf?] at h
    split at h
    · rw [capturesBehind?_length h, List.length_cons]
    · cases h

/-- **A pattern accepts the texts that split into its pieces, and the arguments of a text are the
values of its first split.** -/
theorem accepts_iff_splits (pattern text : String) :
    ∃ pieces, (∀ others, Written others pattern.toList ↔ others = pieces) ∧
      (accepts pattern text = true ↔ ∃ captures, Splits pieces text.toList captures) ∧
      (accepts pattern text = true →
        ∃ captures, First (Splits pieces text.toList) captures ∧
          (arguments pattern text).length + 1 = pieces.length ∧
          List.Forall₂ Unquoted captures ((arguments pattern text).map String.toList)) := by
  refine ⟨literals pattern.toList, fun others => written_iff, ?_, ?_⟩
  · rw [accepts, captures?, Option.isSome_map]
    exact (finds_capturesOf? _ _).isSome_iff
  · intro haccepts
    rw [accepts, captures?, Option.isSome_map] at haccepts
    obtain ⟨captures, hcaptures⟩ := Option.isSome_iff_exists.1 haccepts
    have hvalues := unquoted_arguments hcaptures
    refine ⟨captures, capturesOf?_iff.1 hcaptures, ?_, hvalues⟩
    rw [← capturesOf?_length hcaptures, hvalues.length_eq, List.length_map]

theorem payment_splits :
    accepts "pay \x7bamount\x7d to \x7bname\x7d" "PAY \"5 euro\" to Ann\n" = true ∧
      arguments "pay \x7bamount\x7d to \x7bname\x7d" "PAY \"5 euro\" to Ann\n" =
        ["5 euro", "Ann"] ∧
      ∃ pieces captures,
        Written pieces "pay \x7bamount\x7d to \x7bname\x7d".toList ∧ pieces.length = 3 ∧
          First (Splits pieces "PAY \"5 euro\" to Ann\n".toList) captures ∧
          List.Forall₂ Unquoted captures ["5 euro".toList, "Ann".toList] := by
  obtain ⟨pieces, hwritten, -, hvalues⟩ :=
    accepts_iff_splits "pay \x7bamount\x7d to \x7bname\x7d" "PAY \"5 euro\" to Ann\n"
  have haccepts :
      accepts "pay \x7bamount\x7d to \x7bname\x7d" "PAY \"5 euro\" to Ann\n" = true := by
    decide +kernel
  have harguments :
      arguments "pay \x7bamount\x7d to \x7bname\x7d" "PAY \"5 euro\" to Ann\n" =
        ["5 euro", "Ann"] := by
    decide +kernel
  obtain ⟨captures, hfirst, hlength, hunquoted⟩ := hvalues haccepts
  rw [harguments] at hlength hunquoted
  exact ⟨haccepts, harguments, pieces, captures, (hwritten pieces).2 rfl, hlength.symm, hfirst,
    hunquoted⟩

end Acceptance.Pattern
