import Acceptance.Source.Literal
import Acceptance.Source.Token
import Acceptance.Template.Filter

/-!
# What quoted texts denote

A body is sealed when every double quote in it stands behind a backslash that opens an escape; a
literal with such a body ends at its closing quote and nowhere before.  What a body denotes is told
in code points, since an escape may give half of a pair, which is no character.

    Sealed body → shortBody '"' (body ++ '"' :: rest) = some (body, rest)      (shortBody_sealed)
    Denotes body points → decodeText false body = some (.ofList (points.map Char.ofNat))
                                                                                (decodeText_denotes)
    Denotes (s.toList.flatMap escapeChar) (pointsOf s)                          (denotes_quote)
    Denotes (s.toList.flatMap escapeMarkup) (unitsOf s)                         (denotes_markup)
-/

namespace Acceptance.Source

open Acceptance.Text

/-! ## Sealed bodies -/

/-- A body in which no double quote stands outside of an escape, and no escape is left open. -/
inductive Sealed : List Char → Prop
  | nil : Sealed []
  | plain {c : Char} {cs : List Char} : c ≠ '"' → c ≠ '\\' → Sealed cs → Sealed (c :: cs)
  | escape {c : Char} {cs : List Char} : Sealed cs → Sealed ('\\' :: c :: cs)

theorem Sealed.append {cs ds : List Char} (hc : Sealed cs) (hd : Sealed ds) :
    Sealed (cs ++ ds) := by
  induction hc with
  | nil => exact hd
  | plain hq hb _ ih => exact .plain hq hb ih
  | escape _ ih => exact .escape ih

theorem Sealed.flatMap {α : Type} {f : α → List Char} {as : List α} (h : ∀ a ∈ as, Sealed (f a)) :
    Sealed (as.flatMap f) := by
  induction as with
  | nil => exact .nil
  | cons a as ih =>
    rw [List.flatMap_cons]
    exact (h a List.mem_cons_self).append (ih fun b hb => h b (List.mem_cons_of_mem _ hb))

/-- Characters that are neither quotes nor backslashes. -/
theorem sealed_of_plain {cs : List Char} (h : ∀ c ∈ cs, c ≠ '"' ∧ c ≠ '\\') : Sealed cs := by
  induction cs with
  | nil => exact .nil
  | cons c cs ih =>
    obtain ⟨hq, hb⟩ := h c List.mem_cons_self
    exact .plain hq hb (ih fun d hd => h d (List.mem_cons_of_mem _ hd))

/-- A sealed body on one line ends at the quote behind it. -/
theorem shortBody_sealed {body : List Char} (h : Sealed body) (hline : '\n' ∉ body)
    (rest : List Char) : shortBody '"' (body ++ '"' :: rest) = some (body, rest) := by
  induction h with
  | nil => rfl
  | @plain c cs hq hb _ ih =>
    have hc : c ≠ '\n' := fun he => hline (he ▸ List.mem_cons_self)
    rw [List.cons_append, shortBody]
    · rw [if_neg hq, if_neg hc, ih fun hm => hline (List.mem_cons_of_mem _ hm)]
      rfl
    · intro d rest' he
      exact absurd he hb
  | @escape c cs _ ih =>
    rw [List.cons_append, List.cons_append, shortBody, ih fun hm => hline (by simp [hm])]
    rfl

/-- A sealed body ends at the three quotes behind it, whatever lines it has. -/
theorem longBody_sealed {body : List Char} (h : Sealed body) (rest : List Char) :
    longBody '"' (body ++ '"' :: '"' :: '"' :: rest) = some (body, rest) := by
  induction h with
  | nil => rfl
  | @plain c cs hq hb _ ih =>
    have hc : (c == '"') = false := beq_false_of_ne hq
    rw [List.cons_append, longBody]
    · rw [ih]
      simp [hq]
    · intro d rest' he
      exact absurd he hb
  | @escape c cs _ ih =>
    rw [List.cons_append, List.cons_append, longBody, ih]
    rfl

/-! ## Code points -/

/-- The code points of what the escape behind a backslash stands for, and the number of characters
it takes. -/
def escapePoints? (cs : List Char) : Option (List Nat × Nat) :=
  match cs with
  | [] => some (['\\'.toNat], 0)
  | c :: rest =>
    match hexWidth? false c with
    | some width =>
      match hexPrefix? width rest with
      | some n => if n < 0x110000 then some ([n], width + 1) else none
      | none => none
    | none => (escape? false cs).map fun (ds, n) => (ds.map Char.toNat, n)

/-- The reading of escapes is that in code points, each point as a character. -/
theorem escape?_eq (cs : List Char) : escape? false cs =
    (escapePoints? cs).map fun (ps, n) => (ps.map Char.ofNat, n) := by
  cases cs with
  | nil => rfl
  | cons c rest =>
    cases hw : hexWidth? false c with
    | none =>
      simp only [escapePoints?, hw, Option.map_map, Function.comp_def, List.map_map,
        Char.ofNat_toNat, List.map_id', Option.map_id']
    | some width =>
      have hfeed : c ≠ '\n' := by
        rintro rfl
        cases hw
      have hsimple : simpleEscape? c = none := by
        unfold hexWidth? at hw
        split at hw <;> first | rfl | cases hw
      have hoctal : isOctal c = false := by
        unfold hexWidth? at hw
        split at hw <;> first | rfl | cases hw
      simp only [escapePoints?, hw]
      rw [escape?]
      · simp only [hsimple, hoctal, hw]
        cases hexPrefix? width rest with
        | none => rfl
        | some n => by_cases hn : n < 0x110000 <;> simp [hn]
      · exact hfeed

/-- A body and the code points that it denotes. -/
inductive Denotes : List Char → List Nat → Prop
  | nil : Denotes [] []
  | plain {c : Char} {cs : List Char} {ps : List Nat} : c ≠ '\\' → Denotes cs ps →
      Denotes (c :: cs) (c.toNat :: ps)
  | escape {cs : List Char} {ps qs : List Nat} {n : Nat} : escapePoints? cs = some (ps, n) →
      Denotes (cs.drop n) qs → Denotes ('\\' :: cs) (ps ++ qs)

/-- The code points that a body denotes. -/
def decodePoints : Nat → List Char → Option (List Nat)
  | 0, _ => none
  | _ + 1, [] => some []
  | fuel + 1, '\\' :: rest =>
    match escapePoints? rest with
    | some (ps, n) => (decodePoints fuel (rest.drop n)).map (ps ++ ·)
    | none => none
  | fuel + 1, c :: rest => (decodePoints fuel rest).map (c.toNat :: ·)

theorem decodePoints_denotes {body : List Char} {points : List Nat} (h : Denotes body points) :
    ∀ fuel, body.length < fuel → decodePoints fuel body = some points := by
  induction h with
  | nil =>
    rintro (_ | fuel) hf
    · omega
    · rfl
  | @plain c cs ps hc _ ih =>
    rintro (_ | fuel) hf
    · omega
    · rw [decodePoints, ih fuel (by simp at hf; omega)]
      · rfl
      · exact hc
  | @escape cs ps qs n he _ ih =>
    rintro (_ | fuel) hf
    · omega
    · rw [decodePoints, he]
      simp only [ih fuel (by simp at hf ⊢; omega)]
      rfl

/-- The reading of bodies is that in code points, each point as a character. -/
theorem decodeEscapes_eq (fuel : Nat) (body : List Char) :
    decodeEscapes false fuel body = (decodePoints fuel body).map (·.map Char.ofNat) := by
  induction fuel generalizing body with
  | zero => rfl
  | succ fuel ih =>
    cases body with
    | nil => rfl
    | cons c cs =>
      by_cases hc : c = '\\'
      · subst hc
        rw [decodeEscapes, decodePoints, escape?_eq]
        cases escapePoints? cs with
        | none => rfl
        | some r =>
          simp only [Option.map_some, ih, Option.map_map, Function.comp_def, List.map_append]
      · rw [decodeEscapes, decodePoints, ih]
        · simp [Option.map_map, Function.comp_def]
        · exact hc
        · exact hc

/-- The code points that a body denotes. -/
def bodyPoints? (body : List Char) : Option (List Nat) := decodePoints (body.length + 1) body

theorem bodyPoints?_denotes {body : List Char} {points : List Nat} (h : Denotes body points) :
    bodyPoints? body = some points :=
  decodePoints_denotes h _ (Nat.lt_succ_self _)

theorem decodeText_eq (body : List Char) :
    decodeText false body = (bodyPoints? body).map fun ps => .ofList (ps.map Char.ofNat) := by
  rw [decodeText, if_neg Bool.false_ne_true, decodeEscapes_eq, Option.map_map, bodyPoints?]
  rfl

/-- The code points of a text. -/
def pointsOf (s : String) : List Nat := s.toList.map Char.toNat

theorem decodeText_denotes {body : List Char} {s : String} (h : Denotes body (pointsOf s)) :
    decodeText false body = some s := by
  simp [decodeText_eq, bodyPoints?_denotes h, pointsOf, Function.comp_def]

/-! ## Escapes of single characters -/

/-- A short escape of one character. -/
theorem Denotes.simple {c d : Char} {cs : List Char} {ps : List Nat}
    (he : simpleEscape? c = some d) (hw : hexWidth? false c = none) (hn : c ≠ '\n')
    (h : Denotes cs ps) : Denotes ('\\' :: c :: cs) (d.toNat :: ps) := by
  have hpoints : escapePoints? (c :: cs) = some ([d.toNat], 1) := by
    simp only [escapePoints?, hw]
    rw [escape?]
    · simp only [he]
      rfl
    · exact hn
  exact Denotes.escape (n := 1) hpoints h

theorem hexDigit_spec : ∀ d : Fin 16,
    Json.isHexDigit (hexDigit d) = true ∧ hexDigitValue (hexDigit d) = d.val := by
  decide

theorem hexDigits_isHex (width n : Nat) : (hexDigits width n).all Json.isHexDigit = true := by
  induction width generalizing n with
  | zero => rfl
  | succ width ih =>
    rw [hexDigits, List.all_append, ih, List.all_cons, (hexDigit_spec ⟨n % 16, by omega⟩).1]
    rfl

theorem hexDigits_value (width n : Nat) :
    (hexDigits width n).foldl (fun n c => n * 16 + hexDigitValue c) 0 = n % Nat.pow 16 width := by
  induction width generalizing n with
  | zero => simp [hexDigits, Nat.mod_one]
  | succ width ih =>
    rw [hexDigits, List.foldl_append, ih, List.foldl_cons, List.foldl_nil,
      (hexDigit_spec ⟨n % 16, by omega⟩).2]
    show n / 16 % 16 ^ width * 16 + n % 16 = n % 16 ^ (width + 1)
    rw [Nat.pow_succ', Nat.mod_mul]
    omega

/-- A sixteen-bit escape denotes its unit. -/
theorem Denotes.unit {n : Nat} {cs : List Char} {ps : List Nat} (hn : n < 0x10000)
    (h : Denotes cs ps) : Denotes (escapeUnit n ++ cs) (n :: ps) := by
  have hlen : (hexDigits 4 n).length = 4 := hexDigits_length 4 n
  have hfront : hexPrefix? 4 (hexDigits 4 n ++ cs) = some n := by
    have htake : (hexDigits 4 n ++ cs).take 4 = hexDigits 4 n := List.take_left' hlen
    rw [hexPrefix?, htake, hlen, hexDigits_isHex, hexDigits_value]
    simp [Nat.mod_eq_of_lt hn]
  have hpoints : escapePoints? ('u' :: (hexDigits 4 n ++ cs)) = some ([n], 5) := by
    have hw : hexWidth? false 'u' = some 4 := rfl
    simp only [escapePoints?, hw, hfront]
    rw [if_pos (by omega)]
  have hdrop : ('u' :: (hexDigits 4 n ++ cs)).drop 5 = cs := by
    rw [List.drop_succ_cons, List.drop_left' hlen]
  exact Denotes.escape hpoints (hdrop.symm ▸ h)

/-! ## Characters of quoted texts -/

/-- What the short escapes and the controls of a double-quoted text are. -/
inductive ControlEscape (c : Char) : List Char → Prop
  | simple (x : Char) : simpleEscape? x = some c → hexWidth? false x = none → x ≠ '\n' → x ≠ '\r' →
      ControlEscape c ['\\', x]
  | unit : c.toNat < 0x20 → ControlEscape c (escapeUnit c.toNat)

theorem controlEscape_of_some {c : Char} {e : List Char} (h : escapeControl? c = some e) :
    ControlEscape c e := by
  have hsimple : ∀ (d x : Char), c = d → some ['\\', x] = some e → simpleEscape? x = some d →
      hexWidth? false x = none → x ≠ '\n' → x ≠ '\r' → ControlEscape c e := by
    rintro d x rfl he hs hw hn hr
    exact Option.some.inj he ▸ .simple x hs hw hn hr
  unfold escapeControl? at h
  split at h
  · next hc => exact hsimple _ _ hc h rfl rfl (by decide) (by decide)
  split at h
  · next hc => exact hsimple _ _ hc h rfl rfl (by decide) (by decide)
  split at h
  · next hc => exact hsimple _ _ hc h rfl rfl (by decide) (by decide)
  split at h
  · next hc => exact hsimple _ _ hc h rfl rfl (by decide) (by decide)
  split at h
  · next hc => exact hsimple _ _ hc h rfl rfl (by decide) (by decide)
  split at h
  · next hc => exact hsimple _ _ hc h rfl rfl (by decide) (by decide)
  split at h
  · next hc => exact hsimple _ _ hc h rfl rfl (by decide) (by decide)
  split at h
  · next hc => exact Option.some.inj h ▸ .unit hc
  · cases h

theorem of_escapeControl?_eq_none {c : Char} (h : escapeControl? c = none) :
    c ≠ '"' ∧ c ≠ '\\' ∧ c ≠ '\n' ∧ c ≠ '\r' := by
  refine ⟨?_, ?_, ?_, ?_⟩ <;> (rintro rfl; cases h)

theorem ControlEscape.denotes {c : Char} {e cs : List Char} {ps : List Nat} (he : ControlEscape c e)
    (h : Denotes cs ps) : Denotes (e ++ cs) (c.toNat :: ps) := by
  cases he with
  | simple x hs hw hn hr => exact .simple hs hw hn h
  | unit hc => exact .unit (by omega) h

theorem hexDigit_plain : ∀ d : Fin 16, hexDigit d ≠ '"' ∧ hexDigit d ≠ '\\' ∧ hexDigit d ≠ '\n' ∧
    hexDigit d ≠ '\r' := by
  decide

theorem mem_hexDigits {width n : Nat} {c : Char} (h : c ∈ hexDigits width n) :
    ∃ d : Fin 16, c = hexDigit d := by
  induction width generalizing n with
  | zero => cases h
  | succ width ih =>
    rcases List.mem_append.1 h with h | h
    · exact ih h
    · exact ⟨⟨n % 16, by omega⟩, List.mem_singleton.1 h⟩

theorem sealed_escapeUnit (n : Nat) : Sealed (escapeUnit n) := by
  refine .escape (sealed_of_plain fun c hc => ?_)
  obtain ⟨d, rfl⟩ := mem_hexDigits hc
  exact ⟨(hexDigit_plain d).1, (hexDigit_plain d).2.1⟩

/-- Characters without line ends. -/
def OnOneLine (cs : List Char) : Prop := ∀ c ∈ cs, c ≠ '\n' ∧ c ≠ '\r'

theorem OnOneLine.append {cs ds : List Char} (hc : OnOneLine cs) (hd : OnOneLine ds) :
    OnOneLine (cs ++ ds) := by
  intro c h
  rcases List.mem_append.1 h with h | h
  · exact hc c h
  · exact hd c h

theorem onOneLine_escapeUnit (n : Nat) : OnOneLine (escapeUnit n) := by
  intro c hc
  rcases List.mem_cons.1 hc with rfl | hc
  · decide
  rcases List.mem_cons.1 hc with rfl | hc
  · decide
  obtain ⟨d, rfl⟩ := mem_hexDigits hc
  exact (hexDigit_plain d).2.2

/-- What stands for a character between double quotes: nothing that ends the literal or its line. -/
structure Contained (e : List Char) : Prop where
  isSealed : Sealed e
  line : OnOneLine e

theorem Contained.append {e d : List Char} (he : Contained e) (hd : Contained d) :
    Contained (e ++ d) := ⟨he.isSealed.append hd.isSealed, he.line.append hd.line⟩

theorem contained_escapeUnit (n : Nat) : Contained (escapeUnit n) :=
  ⟨sealed_escapeUnit n, onOneLine_escapeUnit n⟩

theorem ControlEscape.contained {c : Char} {e : List Char} (h : ControlEscape c e) :
    Contained e := by
  cases h with
  | simple x _ _ hn hr =>
    refine ⟨.escape .nil, fun d hd => ?_⟩
    rcases List.mem_cons.1 hd with rfl | hd
    · decide
    · obtain rfl := List.mem_singleton.1 hd
      exact ⟨hn, hr⟩
  | unit _ => exact contained_escapeUnit _

theorem contained_plain {c : Char} (h : c ≠ '"' ∧ c ≠ '\\' ∧ c ≠ '\n' ∧ c ≠ '\r') :
    Contained [c] :=
  ⟨.plain h.1 h.2.1 .nil, fun _ hd => List.mem_singleton.1 hd ▸ h.2.2⟩

theorem contained_escapeChar (c : Char) : Contained (escapeChar c) := by
  unfold escapeChar
  cases h : escapeControl? c with
  | none => exact contained_plain (of_escapeControl?_eq_none h)
  | some e => exact (controlEscape_of_some h).contained

theorem contained_escapeAscii (c : Char) : Contained (escapeAscii c) := by
  unfold escapeAscii
  cases h : escapeControl? c with
  | some e => exact (controlEscape_of_some h).contained
  | none =>
    rw [Option.getD_none]
    split
    · exact contained_plain (of_escapeControl?_eq_none h)
    · unfold escapeUnits
      split
      · exact contained_escapeUnit _
      · exact (contained_escapeUnit _).append (contained_escapeUnit _)

theorem contained_escapeMarkup (c : Char) : Contained (escapeMarkup c) := by
  unfold escapeMarkup
  split
  · exact contained_escapeUnit _
  · exact contained_escapeAscii c

theorem contained_flatMap {e : Char → List Char} (h : ∀ c, Contained (e c)) (cs : List Char) :
    Contained (cs.flatMap e) := by
  refine ⟨Sealed.flatMap fun c _ => (h c).isSealed, fun d hd => ?_⟩
  obtain ⟨c, -, hc⟩ := List.mem_flatMap.1 hd
  exact (h c).line d hc

/-! ## What quoted texts denote -/

/-- The sixteen-bit units of a character. -/
def charUnits (c : Char) : List Nat :=
  if c.toNat < 0x10000 then [c.toNat]
  else [0xD800 + (c.toNat - 0x10000) / 0x400, 0xDC00 + (c.toNat - 0x10000) % 0x400]

/-- The sixteen-bit units of a text. -/
def unitsOf (s : String) : List Nat := s.toList.flatMap charUnits

theorem denotes_flatMap {e : Char → List Char} {f : Char → List Nat}
    (h : ∀ c cs ps, Denotes cs ps → Denotes (e c ++ cs) (f c ++ ps)) (cs : List Char) :
    Denotes (cs.flatMap e) (cs.flatMap f) := by
  induction cs with
  | nil => exact .nil
  | cons c cs ih => exact h c _ _ ih

/-- **A quoted text denotes the text.** -/
theorem denotes_quote (s : String) : Denotes (s.toList.flatMap escapeChar) (pointsOf s) := by
  rw [pointsOf, List.map_eq_flatMap]
  refine denotes_flatMap (fun c cs ps h => ?_) _
  unfold escapeChar
  cases hc : escapeControl? c with
  | none => exact .plain (of_escapeControl?_eq_none hc).2.1 h
  | some e => exact (controlEscape_of_some hc).denotes h

/-- **A text in printable ASCII denotes its sixteen-bit units.** -/
theorem denotes_markup (s : String) : Denotes (s.toList.flatMap escapeMarkup) (unitsOf s) := by
  refine denotes_flatMap (fun c cs ps h => ?_) _
  have hone : c.toNat < 0x10000 → charUnits c ++ ps = c.toNat :: ps := fun hc => by
    rw [charUnits, if_pos hc, List.singleton_append]
  unfold escapeMarkup
  split
  · next hc =>
    have hsmall : c.toNat < 0x10000 := by
      rcases hc with rfl | rfl | rfl | rfl <;> decide
    rw [hone hsmall]
    exact .unit hsmall h
  · unfold escapeAscii
    cases hc : escapeControl? c with
    | some e =>
      have hsmall : c.toNat < 0x10000 := by
        cases controlEscape_of_some hc with
        | unit hlt => omega
        | simple x hs hw _ _ =>
          unfold simpleEscape? at hs
          split at hs <;> first | (obtain rfl := Option.some.inj hs; decide) | cases hs
      rw [hone hsmall]
      exact (controlEscape_of_some hc).denotes h
    | none =>
      rw [Option.getD_none]
      split
      · next hascii =>
        rw [hone (by omega)]
        exact .plain (of_escapeControl?_eq_none hc).2.1 h
      · unfold escapeUnits charUnits
        have hmax : c.toNat < 0x110000 := by
          have := c.valid
          simp only [UInt32.isValidChar, Nat.isValidChar] at this
          show c.val.toNat < _
          omega
        split
        · next hsmall => exact .unit hsmall h
        · rw [List.append_assoc]
          exact .unit (by omega) (.unit (by omega) h)

/-! ## Documentation -/

theorem sealed_documentation (s : String) : Sealed (Template.documentation s).toList := by
  rw [Template.toList_documentation]
  refine Sealed.flatMap fun c _ => ?_
  unfold Template.escapeDocumentation
  split
  · exact .escape .nil
  · next h => exact .plain (fun he => h (.inr he)) (fun he => h (.inl he)) .nil

/-- **Free text of a documentation string denotes itself.** -/
theorem denotes_documentation (s : String) :
    Denotes (Template.documentation s).toList (pointsOf s) := by
  rw [Template.toList_documentation, pointsOf, List.map_eq_flatMap]
  refine denotes_flatMap (fun c cs ps h => ?_) _
  unfold Template.escapeDocumentation
  split
  · next hc =>
    rcases hc with rfl | rfl
    · exact .simple rfl rfl (by decide) h
    · exact .simple rfl rfl (by decide) h
  · next hc => exact .plain (fun he => hc (.inl he)) h

end Acceptance.Source
