import Acceptance.Proofs.Plan.Texts
import Acceptance.Proofs.Rendering.Rendered
import Acceptance.Proofs.Source.Words

/-!
# Free text stays inside

A module is written in blocks of whole lines.  Inside a block a comment opens a line and ends it,
a literal is closed on its line, and a documentation string ends at its own quotes; so no text of
the feature leaves the comment or the literal that it stands in.

    Block es → Block fs → Block (es ++ fs)                                     (Block.append)
    p.OneLineTexts → Block (elements p)                                        (block_elements)
    e.Fits before behind → e.Keeps before behind                               (keeps_of_fits)
-/

namespace Acceptance.Plan

open Acceptance.Text Acceptance.Source

/-! ## What an element keeps -/

/-- The place behind some characters is the start of a line. -/
def AtLineStart (cs : List Char) : Prop := cs = [] ∨ ∃ front, cs = front ++ ['\n']

/-- A literal between double quotes that is closed on its line, `behind` it the rest of a source. -/
structure ClosedLiteral (cs body behind : List Char) : Prop where
  chars : cs = '"' :: (body ++ ['"'])
  contained : Contained body
  word : ∀ s, scanWord s (cs ++ behind) = some ([plainText body], s, behind)

/-- What an element keeps of the text in it, the characters `before` and `behind` being the rest of
the module.  A comment is alone on its line; a documentation string is one word up to its own
quotes, and its free parts denote themselves; a literal is closed on its line. -/
def Element.Keeps (before behind : List Char) : Element → Prop
  | .code _ => True
  | .comment _ text => AtLineStart before ∧ OnOneLine text.toList ∧
      ∀ s, scanWord s ('#' :: ' ' :: (text.toList ++ '\n' :: behind)) =
        some ([], s, '\n' :: behind)
  | .documentation parts =>
      (∀ s, scanWord s ((Element.documentation parts).chars ++ behind) =
        some ([plainText (parts.flatMap DocPart.chars)], s, behind)) ∧
      ∀ t, .free t ∈ parts → Sealed (Template.documentation t).toList ∧
        decodeText false (Template.documentation t).toList = some t
  | .quoted t => ∃ body, ClosedLiteral (quote t).toList body behind ∧ decodeText false body = some t
  | .markup t => ∃ body, ClosedLiteral (quoteMarkup t).toList body behind

/-- What an element asks of its place. -/
def Element.Fits (before behind : List Char) : Element → Prop
  | .code _ => True
  | .comment _ text => AtLineStart before ∧ OnOneLine text.toList
  | .documentation parts => ∀ t, .fixed t ∈ parts → Sealed t.toList
  | .quoted _ => behind.head? ≠ some '"'
  | .markup _ => behind.head? ≠ some '"'

theorem sealed_parts {parts : List DocPart} (h : ∀ t, .fixed t ∈ parts → Sealed t.toList) :
    Sealed (parts.flatMap DocPart.chars) := by
  refine Sealed.flatMap fun part hpart => ?_
  cases part with
  | fixed t => exact h t hpart
  | free t => exact sealed_documentation t

theorem closedLiteral {e : Char → List Char} (he : ∀ c, Contained (e c)) (cs : List Char)
    {behind : List Char} (h : behind.head? ≠ some '"') :
    ClosedLiteral ('"' :: (cs.flatMap e ++ ['"'])) (cs.flatMap e) behind := by
  refine ⟨rfl, contained_flatMap he cs, fun s => ?_⟩
  rw [List.cons_append, List.append_assoc, List.singleton_append]
  exact scanWord_quoted (contained_flatMap he cs) s h

theorem keeps_of_fits {before behind : List Char} {e : Element} (h : e.Fits before behind) :
    e.Keeps before behind := by
  cases e with
  | code s => trivial
  | comment n text =>
    refine ⟨h.1, h.2, fun s => ?_⟩
    have hline : OnOneLine (' ' :: text.toList) := by
      intro c hc
      rcases List.mem_cons.1 hc with rfl | hc
      · decide
      · exact h.2 c hc
    exact scanWord_comment hline s behind
  | documentation parts =>
    refine ⟨fun s => ?_, fun t _ => ⟨sealed_documentation t,
      decodeText_denotes (denotes_documentation t)⟩⟩
    rw [Element.chars, List.append_assoc, List.append_assoc]
    exact scanWord_documentation (sealed_parts h) s behind
  | quoted t =>
    rw [Element.Keeps, toList_quote]
    exact ⟨_, closedLiteral contained_escapeChar _ h, decodeText_denotes (denotes_quote t)⟩
  | markup t =>
    rw [Element.Keeps, toList_quoteMarkup]
    exact ⟨_, closedLiteral contained_escapeMarkup _ h⟩

/-! ## Elements inside a line -/

/-- Elements that write something, which does not open with a double quote. -/
def OpensPlain (es : List Element) : Prop := ∃ c rest, written es = c :: rest ∧ c ≠ '"'

/-- Elements without comments in which something stands behind every literal. -/
inductive Guarded : List Element → Prop
  | nil : Guarded []
  | code (s : String) {es : List Element} : Guarded es → Guarded (.code s :: es)
  | documentation {parts : List DocPart} {es : List Element} :
      (∀ t, .fixed t ∈ parts → Sealed t.toList) → Guarded es →
      Guarded (.documentation parts :: es)
  | quoted (t : String) {es : List Element} : OpensPlain es → Guarded es → Guarded (.quoted t :: es)
  | markup (t : String) {es : List Element} : OpensPlain es → Guarded es → Guarded (.markup t :: es)

theorem OpensPlain.append {es : List Element} (h : OpensPlain es) (fs : List Element) :
    OpensPlain (es ++ fs) := by
  obtain ⟨c, rest, he, hc⟩ := h
  exact ⟨c, rest ++ written fs, by rw [written_append, he, List.cons_append], hc⟩

theorem Guarded.append {es fs : List Element} (he : Guarded es) (hf : Guarded fs) :
    Guarded (es ++ fs) := by
  induction he with
  | nil => exact hf
  | code s _ ih => exact .code s ih
  | documentation h _ ih => exact .documentation h ih
  | quoted t h _ ih => exact .quoted t (h.append fs) ih
  | markup t h _ ih => exact .markup t (h.append fs) ih

theorem Guarded.flatMap {α : Type} {f : α → List Element} {as : List α}
    (h : ∀ a ∈ as, Guarded (f a)) : Guarded (as.flatMap f) := by
  induction as with
  | nil => exact .nil
  | cons a as ih =>
    rw [List.flatMap_cons]
    exact (h a List.mem_cons_self).append (ih fun b hb => h b (List.mem_cons_of_mem _ hb))

/-- An element that may stand between commas. -/
inductive Listed : Element → Prop
  | code (s : String) : Listed (.code s)
  | quoted (t : String) : Listed (.quoted t)
  | markup (t : String) : Listed (.markup t)

theorem Listed.guarded {e : Element} {es : List Element} (h : Listed e) (hopens : OpensPlain es)
    (hes : Guarded es) : Guarded (e :: es) := by
  cases h with
  | code s => exact .code s hes
  | quoted t => exact .quoted t hopens hes
  | markup t => exact .markup t hopens hes

theorem guarded_commas {es rest : List Element} (h : ∀ e ∈ es, Listed e)
    (hopens : OpensPlain rest) (hrest : Guarded rest) : Guarded (commas es ++ rest) := by
  unfold commas
  induction es with
  | nil => exact hrest
  | cons e es ih =>
    have he := h e List.mem_cons_self
    have ih := ih fun f hf => h f (List.mem_cons_of_mem _ hf)
    cases es with
    | nil => exact he.guarded hopens hrest
    | cons f fs => exact he.guarded ⟨',', _, rfl, by decide⟩ (.code _ ih)

/-! ## Blocks -/

theorem AtLineStart.append {cs ds : List Char} (hc : AtLineStart cs) (hd : AtLineStart ds) :
    AtLineStart (cs ++ ds) := by
  rcases hd with rfl | ⟨front, rfl⟩
  · rwa [List.append_nil]
  · exact .inr ⟨cs ++ front, by rw [List.append_assoc]⟩

/-- Elements that write whole lines, each in a place that fits it. -/
structure Block (es : List Element) : Prop where
  ends : AtLineStart (written es)
  fits : ∀ front rest, AtLineStart front → ∀ before e behind, es = before ++ e :: behind →
    e.Fits (front ++ written before) (written behind ++ rest)

theorem Block.nil : Block [] := ⟨.inl rfl, by simp⟩

theorem Block.append {es fs : List Element} (he : Block es) (hf : Block fs) : Block (es ++ fs) := by
  refine ⟨by rw [written_append]; exact he.ends.append hf.ends, ?_⟩
  intro front rest hfront before e behind hsplit
  rcases List.append_eq_append_iff.1 hsplit with ⟨mid, rfl, hmid⟩ | ⟨mid, rfl, hmid⟩
  · have := hf.fits (front ++ written es) rest (hfront.append he.ends) mid e behind hmid
    rwa [written_append, ← List.append_assoc]
  · cases mid with
    | nil =>
      have := hf.fits (front ++ written before) rest
        (hfront.append (by simpa using he.ends)) [] e behind hmid.symm
      simpa using this
    | cons e' mid =>
      obtain ⟨rfl, hbehind⟩ := List.cons.inj hmid
      have := he.fits front (written fs ++ rest) hfront before e mid rfl
      rwa [hbehind, List.append_eq, written_append, List.append_assoc]

theorem Block.flatMap {α : Type} {f : α → List Element} {as : List α}
    (h : ∀ a ∈ as, Block (f a)) : Block (as.flatMap f) := by
  induction as with
  | nil => exact .nil
  | cons a as ih =>
    rw [List.flatMap_cons]
    exact (h a List.mem_cons_self).append (ih fun b hb => h b (List.mem_cons_of_mem _ hb))

theorem Block.comment (n : Nat) {text : String} (h : OnOneLine text.toList) :
    Block [.comment n text] := by
  refine ⟨.inr ⟨List.replicate n ' ' ++ '#' :: ' ' :: text.toList, by
    simp [written, Element.chars]⟩, ?_⟩
  intro front rest hfront before e behind hsplit
  cases before with
  | nil =>
    obtain ⟨rfl, rfl⟩ := List.cons.inj hsplit
    exact ⟨by simpa using hfront, h⟩
  | cons e' before => simp at hsplit

theorem fits_of_guarded {es : List Element} (h : Guarded es) (front rest : List Char)
    {before behind : List Element} {e : Element} (hsplit : es = before ++ e :: behind) :
    e.Fits front (written behind ++ rest) := by
  have hhead : OpensPlain behind → (written behind ++ rest).head? ≠ some '"' := by
    rintro ⟨c, cs, hw, hc⟩ he
    rw [hw] at he
    exact hc (Option.some.inj he)
  induction h generalizing before with
  | nil => simp at hsplit
  | code s _ ih =>
    cases before with
    | nil =>
      obtain ⟨rfl, rfl⟩ := List.cons.inj hsplit
      trivial
    | cons e' before => exact ih (List.cons.inj hsplit).2
  | documentation hparts _ ih =>
    cases before with
    | nil =>
      obtain ⟨rfl, rfl⟩ := List.cons.inj hsplit
      exact hparts
    | cons e' before => exact ih (List.cons.inj hsplit).2
  | quoted t hopens _ ih =>
    cases before with
    | nil =>
      obtain ⟨rfl, rfl⟩ := List.cons.inj hsplit
      exact hhead hopens
    | cons e' before => exact ih (List.cons.inj hsplit).2
  | markup t hopens _ ih =>
    cases before with
    | nil =>
      obtain ⟨rfl, rfl⟩ := List.cons.inj hsplit
      exact hhead hopens
    | cons e' before => exact ih (List.cons.inj hsplit).2

/-- Guarded elements up to the end of a line. -/
theorem Guarded.block {es : List Element} (h : Guarded es) (hends : AtLineStart (written es)) :
    Block es :=
  ⟨hends, fun _ rest _ _ _ _ hsplit => fits_of_guarded h _ rest hsplit⟩

/-- Elements behind which a line starts, since the last of them ends one. -/
theorem atLineStart_code {es : List Element} {s : String} (hlast : es.getLast? = some (.code s))
    (hs : s.toList.getLast? = some '\n') : AtLineStart (written es) := by
  obtain ⟨front, rfl⟩ := List.getLast?_eq_some_iff.1 hlast
  obtain ⟨cs, hcs⟩ := List.getLast?_eq_some_iff.1 hs
  exact .inr ⟨written front ++ cs, by simp [Element.chars, hcs]⟩

/-! ## Steps -/

theorem listed_cellElement (v : Option String) : Listed (cellElement v) := by
  cases v
  · exact .code _
  · exact .markup _

theorem listed_argumentElement (a : Argument) : Listed (argumentElement a) := by
  obtain ⟨value, expression⟩ := a
  cases expression
  case literal t => exact .quoted t
  all_goals exact .code _

theorem listed_map {α : Type} {f : α → Element} (h : ∀ a, Listed (f a)) (as : List α) :
    ∀ e ∈ as.map f, Listed e := by
  intro e he
  obtain ⟨a, -, rfl⟩ := List.mem_map.1 he
  exact h a

theorem opensPlain_code {s : String} (c : Char) (h : s.toList.head? = some c) (hc : c ≠ '"')
    (es : List Element) : OpensPlain (.code s :: es) := by
  obtain ⟨cs, hcs⟩ := List.head?_eq_some_iff.1 h
  exact ⟨c, cs ++ written es, by rw [written_cons, Element.chars, hcs, List.cons_append], hc⟩

theorem guarded_row (row : List (Option String) × Bool) : Guarded (rowElements row) := by
  rw [rowElements, List.append_assoc]
  refine .code _ (guarded_commas (listed_map listed_cellElement _) ?_ ?_)
  · exact opensPlain_code ']' (by simp) (by decide) _
  · exact .code _ (.code _ (.code _ .nil))

theorem guarded_tableExpression (t : Table) : Guarded (tableExpression t) := by
  unfold tableExpression
  simp only [List.append_assoc]
  refine .code _ (guarded_commas (listed_map listed_cellElement _) ?_ ?_)
  · exact opensPlain_code ']' (by simp) (by decide) _
  · exact .code _ ((Guarded.flatMap fun row _ => guarded_row row).append (.code _ .nil))

theorem block_table (t : Table) : Block (tableElements t) := by
  refine Guarded.block ?_ (atLineStart_code (List.getLast?_concat ..) (by simp))
  exact .code _ (.code _ (.code _ ((guarded_tableExpression t).append (.code _ .nil))))

theorem block_step {s : Step} (hkeyword : OnOneLine s.keyword.toList)
    (htext : OnOneLine s.text.toList) : Block (stepElements s) := by
  have hcomment : OnOneLine (s.keyword ++ " " ++ s.text).toList := by
    simp only [String.toList_append]
    exact (hkeyword.append (by simp [OnOneLine])).append htext
  have htable : Block ((s.table.map tableElements).getD []) := by
    cases s.table with
    | none => exact .nil
    | some t => exact block_table t
  have hcall : Block ([.code "        ", .code (ownerText s), .code ".", .code s.method, .code "("] ++
      commas (s.arguments.map argumentElement) ++ [.code ")\n"]) := by
    refine Guarded.block ?_ (atLineStart_code (List.getLast?_concat ..) (by simp))
    rw [List.append_assoc]
    refine .code _ (.code _ (.code _ (.code _ (.code _ (guarded_commas
      (listed_map listed_argumentElement _) (opensPlain_code ')' (by simp) (by decide) _)
      (.code _ .nil))))))
  rw [stepElements, List.append_assoc, List.append_assoc]
  exact ((Block.comment 8 hcomment).append htable).append (by simpa using hcall)

theorem block_steps {ss : List Step}
    (h : ∀ s ∈ ss, OnOneLine s.keyword.toList ∧ OnOneLine s.text.toList) :
    Block (stepsElements ss) :=
  Block.flatMap fun s hs => (block_step (h s hs).1 (h s hs).2).append
    (Guarded.block (.code _ .nil) (atLineStart_code rfl (by simp)))

/-! ## Scenarios -/

theorem fixed_docLines {indent : String} (hindent : Sealed indent.toList) (ls : List String) :
    ∀ t, .fixed t ∈ docLines indent ls → Sealed t.toList := by
  intro t ht
  have hfeed : Sealed "\n".toList := sealed_of_plain (by simp)
  unfold docLines at ht
  split at ht
  · cases ht
  · simp only [List.mem_cons, DocPart.fixed.injEq, List.mem_flatMap, reduceCtorEq,
      List.not_mem_nil, or_false, false_or] at ht
    rcases ht with rfl | ⟨-, -, rfl | rfl⟩
    · exact hfeed
    · exact hindent
    · exact hfeed

theorem guarded_parameters (ps : List Parameter) : Guarded (parameterElements ps) :=
  Guarded.flatMap fun _ _ => .code _ (.code _ (.code _ (.code _ .nil)))

theorem listed_valueElement (v : Option String) : Listed (valueElement v) := by
  cases v
  · exact .code _
  · exact .quoted _

theorem guarded_case (cells : List (Option String)) : Guarded (caseElements cells) := by
  rw [caseElements, List.append_assoc]
  refine .code _ (guarded_commas (listed_map listed_valueElement _) ?_ (.code _ .nil))
  exact opensPlain_code ',' (by simp) (by decide) _

theorem guarded_cases (s : Scenario) : Guarded (casesElements s) := by
  unfold casesElements
  simp only [List.append_assoc]
  refine .code _ (guarded_commas (listed_map (fun p : Parameter => .markup p.name) _) ?_ ?_)
  · exact opensPlain_code ']' (by simp) (by decide) _
  · exact .code _ ((Guarded.flatMap fun cells _ => guarded_case cells).append (.code _ .nil))

theorem block_scenario {s : Scenario}
    (h : ∀ t ∈ s.steps, OnOneLine t.keyword.toList ∧ OnOneLine t.text.toList) :
    Block (scenarioElements s) := by
  have hdoc : ∀ t, .fixed t ∈ [.free s.name, .fixed "\n"] ++ docLines "        " s.remarks ++
      [.fixed "        "] → Sealed t.toList := by
    intro t ht
    simp only [List.mem_append, List.mem_cons, List.not_mem_nil, or_false, reduceCtorEq, false_or,
      DocPart.fixed.injEq] at ht
    rcases ht with (rfl | ht) | rfl
    · exact sealed_of_plain (by simp)
    · exact fixed_docLines (sealed_of_plain (by simp)) s.remarks t ht
    · exact sealed_of_plain (by simp)
  refine Block.append (Guarded.block ?_ (atLineStart_code
    (by rw [List.getLast?_append]; rfl) (by simp))) (block_steps h)
  refine (((Guarded.append (.code _ .nil) ?_).append ?_).append
    (.code _ (.code _ (.code _ .nil)))).append (guarded_parameters _) |>.append
    (.code _ (.documentation hdoc (.code _ .nil)))
  · split
    · exact .code _ .nil
    · exact .nil
  · split
    · exact .nil
    · exact guarded_cases s

/-! ## Rules and stubs -/

theorem block_feed : Block [.code "\n"] :=
  Guarded.block (.code _ .nil) (atLineStart_code rfl (by simp))

theorem block_rule {r : Rule} (hname : OnOneLine (textOrNone r.name).toList)
    (hlines : ∀ line ∈ splitAt '\n' r.description.toList, OnOneLine line)
    (hsteps : ∀ s ∈ r.scenarios, ∀ t ∈ s.steps,
      OnOneLine t.keyword.toList ∧ OnOneLine t.text.toList) : Block (ruleElements r) := by
  have htitle : OnOneLine ("Rule: " ++ textOrNone r.name).toList := by
    rw [String.toList_append]
    exact OnOneLine.append (by simp [OnOneLine]) hname
  have hdescription : Block (if r.description = "" then []
      else (splitAt '\n' r.description.toList).map fun line => .comment 4 (.ofList line)) := by
    split
    · exact .nil
    · rw [List.map_eq_flatMap]
      exact Block.flatMap fun line hl => .comment 4 (by simpa using hlines line hl)
  exact ((block_feed.append (.comment 4 htitle)).append hdescription).append
    (Block.flatMap fun s hs => block_scenario (hsteps s hs))

theorem block_stub (s : Stub) : Block (stubElements s) := by
  refine Guarded.block ?_ (atLineStart_code
    (by rw [stubElements, List.getLast?_append]; rfl) (by simp))
  refine (Guarded.append (.code _ (.code _ (.code _ .nil))) (guarded_parameters _)).append ?_
  refine .code _ (.markup _ ?_ (.code _ (.markup _ ?_ (.code _ .nil))))
  · exact opensPlain_code '\n' (by simp) (by decide) _
  · exact opensPlain_code ')' (by simp) (by decide) _

theorem block_stubs (stubs : List Stub) : Block (stubsElements stubs) := by
  unfold stubsElements
  split
  · exact .nil
  · exact (block_feed.append (.comment 4 (by simp [OnOneLine]))).append
      (Block.flatMap fun s _ => block_stub s)

/-! ## The module -/

theorem block_opening (p : Plan) : Block (openingElements p) := by
  refine Block.append (Guarded.block (.documentation ?_ (.code _ .nil))
    (atLineStart_code rfl (by simp))) (Block.flatMap fun m _ => Guarded.block
      (.code _ (.code _ (.code _ .nil))) (atLineStart_code rfl (by simp)))
  intro t ht
  simp only [List.mem_cons, DocPart.fixed.injEq, List.not_mem_nil, or_false, reduceCtorEq,
    false_or] at ht
  rcases ht with rfl | rfl <;> exact sealed_of_plain (by simp)

theorem guarded_class (p : Plan) : Guarded (classElements p) := by
  have hdoc : ∀ t, .fixed t ∈ [.free p.featureName, .fixed "\n"] ++ docLines "    " p.description ++
      [.fixed "    "] → Sealed t.toList := by
    intro t ht
    simp only [List.mem_append, List.mem_cons, List.not_mem_nil, or_false, reduceCtorEq, false_or,
      DocPart.fixed.injEq] at ht
    rcases ht with (rfl | ht) | rfl
    · exact sealed_of_plain (by simp)
    · exact fixed_docLines (sealed_of_plain (by simp)) p.description t ht
    · exact sealed_of_plain (by simp)
  refine (Guarded.append (.code _ (.code _ .nil)) ?_).append
    (.code _ (.documentation hdoc .nil))
  split
  · exact .nil
  · exact .code _ (.code _ (.code _ .nil))

theorem block_class {p : Plan} (h : ∀ ss, p.background = some ss → ∀ s ∈ ss,
    OnOneLine s.keyword.toList ∧ OnOneLine s.text.toList) :
    Block (classElements p ++ setupElements p) := by
  have hbackground : Block ((p.background.map fun ss => .code "\n" :: stepsElements ss).getD []) := by
    cases hb : p.background with
    | none => exact .nil
    | some ss => exact block_feed.append (block_steps (h ss hb))
  have hdoc : ∀ t, DocPart.fixed t ∈ [.fixed "Create step objects and run the Background."] →
      Sealed t.toList := by
    intro t ht
    obtain rfl := DocPart.fixed.inj (List.mem_singleton.1 ht)
    exact sealed_of_plain (by simp)
  unfold setupElements
  rw [← List.append_assoc, ← List.append_assoc]
  refine (Block.append (Guarded.block ?_ (atLineStart_code (by simp; rfl) (by simp)))
    (Block.flatMap fun c _ => ?_)).append hbackground
  · exact (guarded_class p).append (.code _ (.documentation hdoc (.code _ .nil)))
  · exact Guarded.block (.code _ (.code _ (.code _ (.code _ (.code _ .nil)))))
      (atLineStart_code rfl (by simp))

/-- **A module is one block.** -/
theorem block_elements {p : Plan} (h : p.OneLineTexts) : Block (elements p) := by
  have hsteps : ∀ r ∈ p.rules, ∀ s ∈ r.scenarios, ∀ t ∈ s.steps,
      OnOneLine t.keyword.toList ∧ OnOneLine t.text.toList := fun r hr s hs t ht =>
    h.steps t (List.mem_append_right _ (List.mem_flatMap.2 ⟨r, hr, List.mem_flatMap.2 ⟨s, hs, ht⟩⟩))
  have hbackground : ∀ ss, p.background = some ss → ∀ s ∈ ss,
      OnOneLine s.keyword.toList ∧ OnOneLine s.text.toList := fun ss hss s hs =>
    h.steps s (List.mem_append_left _ (by rw [hss]; exact hs))
  unfold elements
  rw [List.append_assoc (openingElements p)]
  exact (((block_opening p).append (block_class hbackground)).append (Block.flatMap fun r hr =>
    block_rule (h.ruleNames r hr) (h.ruleLines r hr) (hsteps r hr))).append (block_stubs p.stubs)

end Acceptance.Plan
