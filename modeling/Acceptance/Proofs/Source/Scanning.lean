import Acceptance.Proofs.Source.Words
import Acceptance.Proofs.Text.Split

/-!
# Words in a row

A source text is scanned word by word.  Every word takes a character at least, so the scan never
runs out of fuel, and what is known of single words adds up to what is known of a text.

    Scans s cs ts s' mid → Scans s' mid us s'' rest → Scans s cs (ts ++ us) s'' rest  (Scans.trans)
    Scans (line []) (cs ++ ['\n']) ts (line []) ['\n'] →
      tokens (.ofList cs) = some (ts ++ [.newline])                              (tokens_of_scans)
    Scans (line bs) (commaLiterals bodies ++ cs) (their words) (line bs) cs  (scans_commaLiterals)
-/

namespace Acceptance.Source

open Acceptance.Text

/-! ## Algorithm -/

/-- The words `ts` are scanned one after the other, each of which takes some characters. -/
inductive Scans : Lexing → List Char → List Token → Lexing → List Char → Prop
  | nil (s : Lexing) (cs : List Char) : Scans s cs [] s cs
  | word {s s' s'' : Lexing} {cs mid rest : List Char} {ts us : List Token} :
      s.lineStart = false → scanWord s cs = some (ts, s', mid) → mid.length < cs.length →
      Scans s' mid us s'' rest → Scans s cs (ts ++ us) s'' rest

/-- The state inside a line of a text without blocks, some brackets being open. -/
def line (brackets : List String) : Lexing := ⟨brackets, [⟨0, 0⟩], false⟩

/-- A body between double quotes. -/
def inQuotes (body : List Char) : List Char := '"' :: (body ++ ['"'])

/-- Literals with commas between them. -/
def commaLiterals (bodies : List (List Char)) : List Char :=
  [',', ' '].intercalate (bodies.map inQuotes)

/-- Items with commas between them. -/
def commaTokens (items : List (List Token)) : List Token := [.op ","].intercalate items

/-! ## Lemmas -/

theorem Scans.trans {s s' s'' : Lexing} {cs mid rest : List Char} {ts us : List Token}
    (h : Scans s cs ts s' mid) (h' : Scans s' mid us s'' rest) : Scans s cs (ts ++ us) s'' rest := by
  induction h with
  | nil => exact h'
  | word hline hword hlen _ ih =>
    rw [List.append_assoc]
    exact .word hline hword hlen (ih h')

theorem Scans.one {s s' : Lexing} {cs rest : List Char} {ts : List Token} (hline : s.lineStart = false)
    (hword : scanWord s cs = some (ts, s', rest)) (hlen : rest.length < cs.length) :
    Scans s cs ts s' rest := by
  simpa using Scans.word hline hword hlen (.nil s' rest)

/-- Fuel for all characters is fuel for the words. -/
theorem Scans.scanAll {s s' : Lexing} {cs rest : List Char} {ts : List Token}
    (h : Scans s cs ts s' rest) : ∀ fuel, cs.length < fuel → ∃ left, rest.length < left ∧
      scanAll fuel s cs = (scanAll left s' rest).map (ts ++ ·) := by
  induction h with
  | nil s cs => exact fun fuel hf => ⟨fuel, hf, by simp⟩
  | @word s s' s'' cs mid rest ts us hline hword hlen _ ih =>
    intro fuel hf
    obtain ⟨fuel, rfl⟩ : ∃ n, fuel = n + 1 := ⟨fuel - 1, by omega⟩
    obtain ⟨left, hleft, hscan⟩ := ih fuel (by omega)
    refine ⟨left, hleft, ?_⟩
    cases cs with
    | nil => simp at hlen
    | cons c cs =>
      rw [Source.scanAll]
      · simp [hline, hword, hscan, Function.comp_def]
      · simp

section
variable {c : Char} {cs : List Char} {ts : List Token}
  (hopen : c ∉ [' ', '\t', '\x0c', '\\', '\n', '#']) (hreturn : '\r' ∉ c :: cs)

include hopen hreturn

/-- A text that opens with none of the characters which measure a line is scanned from inside of
its first line. -/
theorem exists_tokens_eq : ∃ fuel, (closeLastLine (c :: cs)).length < fuel ∧
    tokens (.ofList (c :: cs)) = scanAll fuel (line []) (closeLastLine (c :: cs)) := by
  simp only [List.mem_cons, List.not_mem_nil, or_false, not_or] at hopen
  obtain ⟨hblank, htab, hpage, hback, hfeed, hmark⟩ := hopen
  obtain ⟨rest, hrest⟩ : ∃ rest, closeLastLine (c :: cs) = c :: rest := by
    unfold closeLastLine
    split
    · exact ⟨cs, rfl⟩
    · exact ⟨cs ++ ['\n'], rfl⟩
  have hmeasure : measureIndent none ⟨0, 0⟩ (c :: rest) = some (⟨0, 0⟩, c :: rest) := by
    rw [measureIndent] <;> first | rfl | (intros; simp_all)
  have hstart : scanLineStart ⟨[], [⟨0, 0⟩], true⟩ (c :: rest) = some ([], line [], c :: rest) := by
    rw [scanLineStart, hmeasure]
    simp [hfeed, hmark, enterLine, closeBlocks, line]
  refine ⟨2 * (c :: rest).length + 1, by rw [hrest]; omega, ?_⟩
  rw [tokens, String.toList_ofList, unifyLineEnds_eq_self hreturn, hrest, scanAll]
  · simp only [if_true, hstart, List.nil_append]
    exact Option.map_id'
  · simp

/-- Such a text whose line is scanned to its end with all brackets closed. -/
theorem tokens_of_line (h : Scans (line []) (closeLastLine (c :: cs)) ts (line []) ['\n']) :
    tokens (.ofList (c :: cs)) = some (ts ++ [.newline]) := by
  have hend : ∀ left, 1 < left → scanAll left (line []) ['\n'] = some [.newline] := by
    rintro (_ | _ | left) hl
    · omega
    · omega
    · rfl
  obtain ⟨fuel, hfuel, htokens⟩ := exists_tokens_eq hopen hreturn
  obtain ⟨left, hleft, hscan⟩ := h.scanAll fuel hfuel
  rw [htokens, hscan, hend left hleft]
  rfl

theorem tokens_of_scans (hlast : (c :: cs).getLast? ≠ some '\n')
    (h : Scans (line []) (c :: cs ++ ['\n']) ts (line []) ['\n']) :
    tokens (.ofList (c :: cs)) = some (ts ++ [.newline]) := by
  refine tokens_of_line hopen hreturn ?_
  rwa [closeLastLine, if_neg (by simpa using hlast)]

end

/-! ## Marks -/

/-- A character that is no quote and no letter of a mark in front of one opens no literal. -/
theorem literalStart?_eq_none {c : Char} (cs : List Char) (hquote : c ≠ '"' ∧ c ≠ '\x27')
    (hmark : c.toLower ∉ ['u', 'r', 'b', 'f']) : literalStart? (c :: cs) = none := by
  have hmarks : ∀ m ∈ literalMarks,
      m.1 = "" ∨ ∃ d ∈ ['u', 'r', 'b', 'f'], ∃ ds, m.1.toList = d :: ds := by
    simp [literalMarks]
  rw [literalStart?, List.findSome?_eq_none_iff]
  rintro ⟨mark, flags⟩ hm
  rcases hmarks _ hm with rfl | ⟨d, hd, ds, hds⟩
  · simp [hquote]
  · have hne : ((c :: cs).take mark.length).map Char.toLower ≠ mark.toList := by
      rw [← String.length_toList, hds]
      simp only [List.length_cons, List.take_succ_cons, List.map_cons]
      intro he
      exact hmark ((List.cons.inj he).1 ▸ hd)
    simp only [hne, and_false, if_false]
    split <;> rfl

section
variable (brackets : List String) (cs : List Char)

theorem scans_blank : Scans (line brackets) (' ' :: cs) [] (line brackets) cs := by
  refine .one rfl ?_ (by simp)
  rw [scanWord] <;> simp [isSpace]

/-- A line may end inside brackets. -/
theorem scans_feed (bracket : String) :
    Scans (line (bracket :: brackets)) ('\n' :: cs) [] (line (bracket :: brackets)) cs :=
  .one rfl rfl (by simp)

/-- A mark of one character, with the brackets that it leaves open. -/
inductive Marks : Char → List String → List String → Prop
  | comma (brackets : List String) : Marks ',' brackets brackets
  | round (brackets : List String) : brackets.length < 200 → Marks '(' brackets (")" :: brackets)
  | square (brackets : List String) : brackets.length < 200 → Marks '[' brackets ("]" :: brackets)
  | endRound (brackets : List String) : Marks ')' (")" :: brackets) brackets
  | endSquare (brackets : List String) : Marks ']' ("]" :: brackets) brackets

theorem scans_mark {c : Char} {brackets brackets' : List String} (h : Marks c brackets brackets')
    (cs : List Char) :
    Scans (line brackets) (c :: cs) [.op (.ofList [c])] (line brackets') cs := by
  have hliteral : literalStart? (c :: cs) = none := by
    refine literalStart?_eq_none cs ?_ ?_ <;> cases h <;> decide
  have hmark : scanMark (c :: cs) = some (.ofList [c], cs) := by
    cases h <;> rfl
  refine .one rfl ?_ (by simp)
  cases h <;> (rw [scanWord] <;>
    simp_all [isSpace, isNameStart, closing?, isClosing, line])

/-- A quoted text is one word. -/
theorem scans_inQuotes {body : List Char} (h : Contained body) (hrest : cs.head? ≠ some '"') :
    Scans (line brackets) (inQuotes body ++ cs) [plainText body] (line brackets) cs := by
  rw [inQuotes, List.cons_append, List.append_assoc, List.singleton_append]
  exact .one rfl (scanWord_quoted h _ hrest) (by simp; omega)

theorem scans_blanks (n : Nat) :
    Scans (line brackets) (List.replicate n ' ' ++ cs) [] (line brackets) cs := by
  induction n with
  | zero => exact .nil _ _
  | succ n ih => exact (scans_blank brackets _).trans ih

/-- **Literals with commas between them are their words.** -/
theorem scans_commaLiterals {bodies : List (List Char)} (h : ∀ body ∈ bodies, Contained body)
    (hrest : cs.head? ≠ some '"') :
    Scans (line brackets) (commaLiterals bodies ++ cs)
      (commaTokens (bodies.map fun body => [plainText body])) (line brackets) cs := by
  have hbehind : ∀ bodies : List (List Char),
      ((bodies.map inQuotes).flatMap ([',', ' '] ++ ·) ++ cs).head? ≠ some '"' := by
    rintro (_ | ⟨body, bodies⟩)
    · exact hrest
    · simp
  have hothers : ∀ bodies : List (List Char), (∀ body ∈ bodies, Contained body) →
      Scans (line brackets) ((bodies.map inQuotes).flatMap ([',', ' '] ++ ·) ++ cs)
        ((bodies.map fun body => [plainText body]).flatMap ([.op ","] ++ ·)) (line brackets) cs := by
    intro bodies h
    induction bodies with
    | nil => exact .nil _ _
    | cons body bodies ih =>
      have hbody := h body List.mem_cons_self
      rw [List.map_cons, List.flatMap_cons, List.append_assoc, List.append_assoc]
      exact (scans_mark (.comma brackets) _).trans ((scans_blank brackets _).trans
        ((scans_inQuotes brackets _ hbody (hbehind bodies)).trans
          (ih fun b hb => h b (List.mem_cons_of_mem _ hb))))
  cases bodies with
  | nil => exact .nil _ _
  | cons body bodies =>
    rw [commaLiterals, commaTokens, List.map_cons, List.map_cons, intercalate_cons, intercalate_cons,
      List.append_assoc]
    exact (scans_inQuotes brackets _ (h body List.mem_cons_self) (hbehind bodies)).trans
      (hothers bodies fun b hb => h b (List.mem_cons_of_mem _ hb))

end

end Acceptance.Source
