import Acceptance.Generation
import Acceptance.Proofs.Rendering.BundledNodes
import Acceptance.Proofs.Rendering.Elements
import Acceptance.Proofs.Text.Split

/-!
# What the bundled template writes

The bundled template writes the elements of a plan one after the other.  Each kind of node has a
rule that says what it writes; the rules are put together node by node.

    p.render bundled = .ok (.ofList (written (elements p)))                    (render_bundled)
-/

namespace Acceptance.Template

/-! ## Names in sight -/

section
variable {call : Caller} {env : Env}

theorem toList_quotes : quotes.toList = Plan.Element.tripleQuote := rfl

theorem evaluate_item (target : String) (item : Json) (l : LoopState) :
    evaluate call (env.enterItem target item l) (.name target) = .ok (.data item) := by
  simp [evaluate, Env.lookup, Env.enterItem, List.lookup_cons_self]

/-- A loop hides no other name. -/
theorem evaluate_outer {target n : String} (item : Json) (l : LoopState) (htarget : n ≠ target)
    (hloop : n ≠ "loop") :
    evaluate call (env.enterItem target item l) (.name n) = evaluate call env (.name n) := by
  have h₁ : (n == target) = false := beq_false_of_ne htarget
  have h₂ : (n == "loop") = false := beq_false_of_ne hloop
  simp only [evaluate, Env.lookup, Env.enterItem, List.lookup_cons, h₁, h₂]

theorem evaluate_dotted {owner n : String} {d w : Json}
    (ho : evaluate call env (.name owner) = .ok (.data d)) (hm : d.member? n = some w) :
    evaluate call env (dotted owner n) = .ok (.data w) := evaluate_attribute ho hm

theorem evaluate_joined {l r : Expr} {a b : String}
    (hl : evaluate call env l = .ok (.data (.str a)))
    (hr : evaluate call env r = .ok (.data (.str b))) :
    evaluate call env (.joined l r) = .ok (.data (.str (a ++ b))) := by
  rw [evaluate, hl, hr]
  rfl

theorem evaluate_spaced {l r : Expr} {a b : String}
    (hl : evaluate call env l = .ok (.data (.str a)))
    (hr : evaluate call env r = .ok (.data (.str b))) :
    evaluate call env (spaced l r) = .ok (.data (.str (a ++ " " ++ b))) :=
  evaluate_joined (evaluate_joined hl rfl) hr

theorem evaluate_asLiteral {e : Expr} {d : Json} (he : evaluate call env e = .ok (.data d)) :
    evaluate call env (asLiteral e) = .ok (.data (.str (dataLiteral d))) := by
  rw [asLiteral, evaluate, he]
  rfl

end

/-! ## Rules for nodes -/

/-- Nodes that write some characters. -/
def Writes (call : Caller) (env : Env) (ns : List Node) (cs : List Char) : Prop :=
  writeNodes call env ns = .ok (.ofList cs)

section
variable {call : Caller} {env : Env} {ns : List Node} {cs : List Char}

theorem Writes.congr {bs : List Char} (h : Writes call env ns bs) (heq : bs = cs) :
    Writes call env ns cs := heq ▸ h

theorem writes_nil : Writes call env [] [] := rfl

theorem writes_cons {n : Node} {s : String} (hn : writeNode call env n = .ok s)
    (hdefine : ∀ name parameters body, n ≠ .define name parameters body)
    (h : Writes call env ns cs) : Writes call env (n :: ns) (s.toList ++ cs) := by
  unfold Writes at h ⊢
  rw [writeNodes, hn]
  · simp only [bind, Except.bind, h, pure, Except.pure]
    rw [String.ofList_append, String.ofList_toList]
  · exact hdefine

theorem writes_text (s : String) (h : Writes call env ns cs) :
    Writes call env (.text s :: ns) (s.toList ++ cs) :=
  writes_cons rfl nofun h

theorem writes_output {e : Expr} {d : Json} (he : evaluate call env e = .ok (.data d))
    (h : Writes call env ns cs) :
    Writes call env (.output e :: ns) ((dataText d).toList ++ cs) := by
  refine writes_cons ?_ nofun h
  rw [writeNode, he]
  rfl

theorem writes_documented {e : Expr} {s : String} (he : evaluate call env e = .ok (.data (.str s)))
    (h : Writes call env ns cs) :
    Writes call env (documented e :: ns) ((documentation s).toList ++ cs) := by
  refine writes_output (d := .str (documentation s)) ?_ h
  rw [evaluate, he]
  rfl

theorem writes_branch {test : Expr} {d : Json} {body otherwise : List Node} {bs : List Char}
    (htest : evaluate call env test = .ok (.data d))
    (hbody : Writes call env (if d.truthy then body else otherwise) bs)
    (h : Writes call env ns cs) :
    Writes call env (.branch test body otherwise :: ns) (bs ++ cs) := by
  have hn : writeNode call env (.branch test body otherwise) = .ok (.ofList bs) := by
    rw [writeNode, htest]
    show (if d.truthy then writeNodes call env body else writeNodes call env otherwise) = _
    rw [← hbody]
    split <;> rfl
  have := writes_cons hn nofun h
  rwa [String.toList_ofList] at this

theorem eachItem_map {α : Type} {body : Env → Except RenderError String} {target : String}
    {item : α → Json} {out : α → List Char} (count index : Nat) {as : List α}
    (h : ∀ a ∈ as, ∀ l, body (env.enterItem target (item a) l) = .ok (.ofList (out a))) :
    eachItem body env target count index (as.map item) = .ok (.ofList (as.flatMap out)) := by
  induction as generalizing index with
  | nil => rfl
  | cons a as ih =>
    simp only [List.map_cons, eachItem, h a List.mem_cons_self,
      ih (index + 1) fun b hb => h b (List.mem_cons_of_mem _ hb), bind, Except.bind, pure,
      Except.pure, List.flatMap_cons, String.ofList_append]

/-- A loop over the values `item a`. -/
theorem writes_loop {α : Type} {target : String} {source : Expr} {body : List Node}
    {item : α → Json} (out : α → List Char) {as : List α}
    (hsource : evaluate call env source = .ok (.data (.arr (as.map item))))
    (hbody : ∀ a ∈ as, ∀ l, Writes call (env.enterItem target (item a) l) body (out a))
    (h : Writes call env ns cs) :
    Writes call env (.loop target source body [] :: ns) (as.flatMap out ++ cs) := by
  have hn : writeNode call env (.loop target source body []) = .ok (.ofList (as.flatMap out)) := by
    rw [writeNode, hsource]
    show (if (as.map item).isEmpty then writeNodes call env []
      else eachItem (fun env => writeNodes call env body) env target (as.map item).length 0
        (as.map item)) = _
    cases as with
    | nil => rfl
    | cons a as => exact eachItem_map _ 0 hbody
  have := writes_cons hn nofun h
  rwa [String.toList_ofList] at this

end

/-! ## Commas -/

section
variable {call : Caller} {env : Env} {ns : List Node} {cs : List Char}

theorem flatMap_flagLast {α : Type} (out : α → List Char) (mark : List Char) (as : List α) :
    (Plan.flagLast as).flatMap (fun a => out a.1 ++ if a.2 then [] else mark) =
      mark.intercalate (as.map out) := by
  fun_induction Plan.flagLast as with
  | case1 => rfl
  | case2 a => simp
  | case3 a as hne ih =>
    cases as with
    | nil => exact absurd rfl hne
    | cons b bs => simp_all [List.intercalate]

theorem written_commas (es : List Plan.Element) :
    Plan.written (Plan.commas es) = (", ".toList).intercalate (es.map Plan.Element.chars) := by
  induction es with
  | nil => rfl
  | cons e es ih =>
    cases es with
    | nil => simp [Plan.commas, List.intercalate]
    | cons f fs => simp_all [Plan.commas, List.intercalate, Plan.Element.chars]

/-- A mark that is left out behind the last item. -/
theorem writes_unlessLast {target : String} {last : Bool} (mark : String)
    (hlast : evaluate call env (dotted target "last") = .ok (.data (.bool last)))
    (h : Writes call env ns cs) :
    Writes call env (unlessLast target mark :: ns) ((if last then [] else mark.toList) ++ cs) := by
  refine writes_branch (d := .bool !last) ?_ ?_ h
  · rw [evaluate, hlast]
    rfl
  · cases last
    · simpa [Json.truthy] using writes_text mark (@writes_nil call env)
    · exact writes_nil

/-- Items with commas between them; `shown` gives the text of an item. -/
theorem writes_commaLoop {α : Type} {target : String} {source shown : Expr}
    {members : α → List (String × Json)} (element : α → Plan.Element) {as : List α}
    (hsource : evaluate call env source = .ok (.data (Plan.flagged members as)))
    (hlast : ∀ a last, Json.member? (.obj (members a ++ [("last", .bool last)])) "last" =
      some (.bool last))
    (hshown : ∀ a last l, evaluate call
      (env.enterItem target (.obj (members a ++ [("last", .bool last)])) l) shown =
        .ok (.data (.str (.ofList (element a).chars))))
    (h : Writes call env ns cs) :
    Writes call env (commaLoop target source shown :: ns)
      (Plan.written (Plan.commas (as.map element)) ++ cs) := by
  rw [written_commas, List.map_map, Function.comp_def, ← flatMap_flagLast]
  refine writes_loop _ hsource (fun a ha l => ?_) h
  have hmark := writes_unlessLast ", " (evaluate_dotted (evaluate_item _ _ _) (hlast a.1 a.2))
    (@writes_nil call (env.enterItem target (.obj (members a.1 ++ [("last", .bool a.2)])) l))
  rw [List.append_nil] at hmark
  have hout := writes_output (hshown a.1 a.2 l) hmark
  rwa [dataText, String.toList_ofList] at hout

end

/-! ## Steps -/

section
variable {call : Caller} {env : Env} {ns : List Node} {cs : List Char}

theorem chars_cellElement (v : Option String) :
    (Plan.cellElement v).chars = (dataLiteral (Plan.textOrNull v)).toList := by
  cases v <;> rfl

/-- Cells as literals, each under the name `target`. -/
theorem writes_cells {target : String} {source : Expr} {cells : List (Option String)}
    (hsource : evaluate call env source = .ok (.data (Plan.flagged Plan.cellMembers cells)))
    (h : Writes call env ns cs) :
    Writes call env (commaLoop target source (asLiteral (dotted target "value")) :: ns)
      (Plan.written (Plan.commas (cells.map Plan.cellElement)) ++ cs) := by
  refine writes_commaLoop _ hsource (fun v last => rfl) (fun v last l => ?_) h
  rw [chars_cellElement, String.ofList_toList]
  exact evaluate_asLiteral (evaluate_dotted (evaluate_item _ _ _) rfl)

theorem writes_rows {source : Expr} {rows : List (List (Option String))}
    (hsource : evaluate call env source = .ok (.data
      (Plan.flagged (fun row => [("cells", Plan.flagged Plan.cellMembers row)]) rows)))
    (h : Writes call env ns cs) :
    Writes call env (.loop "row" source rowNodes [] :: ns)
      ((Plan.flagLast rows).flatMap (fun row => Plan.written (Plan.rowElements row)) ++ cs) := by
  refine writes_loop _ hsource (fun row _ l => ?_) h
  have hrow := @evaluate_item call env "row" (.obj [("cells", Plan.flagged Plan.cellMembers row.1),
    ("last", .bool row.2)]) l
  refine Writes.congr (writes_text _ <| writes_cells (evaluate_dotted hrow rfl) <|
    writes_text _ <| writes_unlessLast _ (evaluate_dotted hrow rfl) <| writes_text _ writes_nil) ?_
  obtain ⟨row, last⟩ := row
  cases last <;> simp [Plan.rowElements, Plan.Element.chars]

theorem writes_table {s : Plan.Step} {t : Plan.Table} (ht : s.table = some t)
    (hstep : evaluate call env (.name "step") = .ok (.data s.tree)) :
    Writes call env tableNodes (Plan.written (Plan.tableElements t)) := by
  have htable : evaluate call env (dotted "step" "data_table") = .ok (.data t.tree) :=
    evaluate_dotted hstep (by rw [Plan.Step.tree, ht]; rfl)
  refine Writes.congr (writes_text _ <| writes_output (evaluate_attribute htable rfl) <|
    writes_text _ <| writes_cells (evaluate_attribute htable rfl) <| writes_text _ <|
    writes_rows (evaluate_attribute htable rfl) <| writes_text _ writes_nil) ?_
  simp [Plan.tableElements, Plan.tableExpression, Plan.Element.chars, Plan.written_flatMap, dataText]

theorem evaluate_ownerExpr {s : Plan.Step}
    (hstep : evaluate call env (.name "step") = .ok (.data s.tree)) :
    evaluate call env ownerExpr = .ok (.data (.str (Plan.ownerText s))) := by
  have howner : evaluate call env (dotted "step" "owner") = .ok (.data (.str s.owner)) :=
    evaluate_dotted hstep rfl
  have htest : evaluate call env (.equal (dotted "step" "owner") (.literal (.str "self"))) =
      .ok (.data (.bool s.isStub)) := by
    rw [evaluate, howner]
    rfl
  have hjoined : evaluate call env (.joined (.literal (.str "self.")) (dotted "step" "owner")) =
      .ok (.data (.str ("self." ++ s.owner))) := by
    rw [evaluate, howner]
    rfl
  rw [ownerExpr, evaluate, htest, hjoined]
  unfold Plan.ownerText
  cases s.isStub <;> rfl

theorem chars_argumentElement (a : Plan.Argument) :
    (Plan.argumentElement a).chars = a.expression.source.toList := by
  obtain ⟨value, expression⟩ := a
  cases expression <;> rfl

/-- **A step is written as its elements.** -/
theorem writes_step {s : Plan.Step}
    (hstep : evaluate call env (.name "step") = .ok (.data s.tree)) :
    Writes call env stepNodes (Plan.written (Plan.stepElements s)) := by
  have hargs : evaluate call env (dotted "step" "arguments") =
      .ok (.data (Plan.flagged Plan.Argument.members s.arguments)) := evaluate_dotted hstep rfl
  have htable : ∃ d, evaluate call env (dotted "step" "data_table") = .ok (.data d) ∧
      Writes call env (if d.truthy then tableNodes else [])
        (Plan.written ((s.table.map Plan.tableElements).getD [])) := by
    refine ⟨_, evaluate_dotted hstep rfl, ?_⟩
    cases ht : s.table with
    | none => exact writes_nil
    | some t => exact writes_table ht hstep
  obtain ⟨d, hd, hbody⟩ := htable
  have hshown : ∀ (a : Plan.Argument) last l, evaluate call (env.enterItem "arg"
      (.obj (a.members ++ [("last", .bool last)])) l) (dotted "arg" "expression") =
        .ok (.data (.str (.ofList (Plan.argumentElement a).chars))) := by
    intro a last l
    rw [chars_argumentElement, String.ofList_toList]
    exact evaluate_dotted (evaluate_item _ _ _) rfl
  refine Writes.congr (writes_text _ <| writes_output (evaluate_dotted hstep rfl) <|
    writes_text _ <| writes_output (evaluate_dotted hstep rfl) <| writes_text _ <|
    writes_branch hd hbody <| writes_text _ <| writes_output (evaluate_ownerExpr hstep) <|
    writes_text _ <| writes_output (evaluate_dotted hstep rfl) <| writes_text _ <|
    writes_commaLoop _ hargs (fun a last => rfl) hshown <| writes_text _ writes_nil) ?_
  simp [Plan.stepElements, Plan.Element.chars, dataText]

end

/-- The macro that writes a step. -/
def stepMacro : Macro := ⟨"call_step", ["step"], stepNodes⟩

section
variable {n : Nat} {env : Env} {ns : List Node} {cs : List Char}

theorem evaluate_callStep {s : Plan.Step}
    (hcall : evaluate (callDepth (n + 1)) env (.name "call_step") = .ok (.macroValue stepMacro))
    (hstep : evaluate (callDepth (n + 1)) env (.name "step") = .ok (.data s.tree)) :
    evaluate (callDepth (n + 1)) env (.call (.name "call_step") [.name "step"]) =
      .ok (.data (.str (.ofList (Plan.written (Plan.stepElements s))))) := by
  have hbody : writeNodes (callDepth n)
      { env with locals := [("step", .data s.tree)], outermost := false } stepNodes =
        .ok (.ofList (Plan.written (Plan.stepElements s))) := writes_step rfl
  rw [evaluate, hcall, evaluateAll, hstep]
  show (writeNodes (callDepth n)
      { env with locals := [("step", .data s.tree)], outermost := false } stepNodes).map
        (fun s => Value.data (.str s)) = _
  rw [hbody]
  rfl

theorem writes_stepLoop {source : Expr} {ss : List Plan.Step}
    (hcall : evaluate (callDepth (n + 1)) env (.name "call_step") = .ok (.macroValue stepMacro))
    (hsource : evaluate (callDepth (n + 1)) env source = .ok (.data (Plan.stepsTree ss)))
    (h : Writes (callDepth (n + 1)) env ns cs) :
    Writes (callDepth (n + 1)) env (stepLoop source :: ns)
      (Plan.written (Plan.stepsElements ss) ++ cs) := by
  rw [Plan.stepsElements, Plan.written_flatMap]
  refine writes_loop _ hsource (fun s _ l => ?_) h
  refine Writes.congr (writes_output (evaluate_callStep ?_ (evaluate_item _ _ _)) <|
    writes_text _ writes_nil) ?_
  · rw [evaluate_outer _ _ (by decide) (by decide), hcall]
  · simp [dataText, Plan.Element.chars]

end

/-! ## Scenarios -/

section
variable {call : Caller} {env : Env} {ns : List Node} {cs : List Char}

theorem writes_lineLoop {indent : String} {source : Expr} {lines : List String}
    (hsource : evaluate call env source = .ok (.data (Plan.stringsTree lines)))
    (h : Writes call env ns cs) :
    Writes call env (lineLoop indent source :: ns)
      ((lines.flatMap fun line => [.fixed indent, .free line, .fixed "\n"]).flatMap
        Plan.DocPart.chars ++ cs) := by
  rw [List.flatMap_assoc]
  refine writes_loop _ hsource (fun line _ l => ?_) h
  refine Writes.congr (writes_text _ <| writes_documented (evaluate_item _ _ _) <|
    writes_text _ writes_nil) ?_
  simp [Plan.DocPart.chars]

/-- Further lines of documentation, where there are any. -/
theorem writes_docLines {indent : String} {test source : Expr} {d : Json} {lines : List String}
    (htest : evaluate call env test = .ok (.data d)) (hd : d.truthy = !lines.isEmpty)
    (hsource : lines ≠ [] → evaluate call env source = .ok (.data (Plan.stringsTree lines)))
    (h : Writes call env ns cs) :
    Writes call env (.branch test [.text "\n", lineLoop indent source] [] :: ns)
      ((Plan.docLines indent lines).flatMap Plan.DocPart.chars ++ cs) := by
  refine writes_branch htest ?_ h
  rw [hd, Plan.docLines]
  cases lines with
  | nil => exact writes_nil
  | cons line rest =>
    refine Writes.congr (writes_text _ <| writes_lineLoop (hsource nofun) writes_nil) ?_
    simp [Plan.DocPart.chars]

/-- A loop that does not ask which entry is the last. -/
theorem writes_flagged {α : Type} {target : String} {source : Expr} {body : List Node}
    {members : α → List (String × Json)} {out : α → List Char} {as : List α}
    (hsource : evaluate call env source = .ok (.data (Plan.flagged members as)))
    (hbody : ∀ a last l, Writes call
      (env.enterItem target (.obj (members a ++ [("last", .bool last)])) l) body (out a))
    (h : Writes call env ns cs) :
    Writes call env (.loop target source body [] :: ns) (as.flatMap out ++ cs) := by
  refine (writes_loop (fun a => out a.1) hsource (fun a _ l => hbody a.1 a.2 l) h).congr ?_
  conv => rhs; rw [← Plan.map_fst_flagLast as, List.flatMap_map]

theorem writes_parameters {owner : String} {ps : List Plan.Parameter}
    (hsource : evaluate call env (dotted owner "parameters") =
      .ok (.data (Plan.flagged Plan.Parameter.members ps)))
    (h : Writes call env ns cs) :
    Writes call env (parameterLoop owner :: ns)
      (Plan.written (Plan.parameterElements ps) ++ cs) := by
  rw [Plan.parameterElements, Plan.written_flatMap]
  refine writes_flagged hsource (fun p last l => ?_) h
  refine Writes.congr (writes_text _ <|
    writes_output (evaluate_dotted (evaluate_item _ _ _) rfl) <| writes_text _ <|
    writes_output (evaluate_dotted (evaluate_item _ _ _) rfl) writes_nil) ?_
  simp [Plan.Element.chars, dataText]

theorem toList_caseText (cells : List (Option String)) :
    (Plan.caseText cells).toList = Plan.written (Plan.commas (cells.map Plan.valueElement)) := by
  have hcell : ∀ cell : Option String,
      ((cell.map Text.quote).getD "null").toList = (Plan.valueElement cell).chars := by
    intro cell
    cases cell <;> rfl
  rw [written_commas, Plan.caseText, String.toList_intercalate, List.map_map, List.map_map]
  simp only [Function.comp_def, hcell]

theorem writes_cases {s : Plan.Scenario}
    (hs : evaluate call env (.name "scenario") = .ok (.data s.tree)) :
    Writes call env casesNodes (Plan.written (Plan.casesElements s)) := by
  have hcases : evaluate call env (dotted "scenario" "test_cases") =
      .ok (.data (.arr (s.cases.map fun cells => .str (Plan.caseText cells)))) :=
    (evaluate_dotted hs rfl).trans (by rw [Plan.stringsTree, List.map_map]; rfl)
  refine Writes.congr (writes_text _ <|
    writes_commaLoop (fun p : Plan.Parameter => .markup p.name)
      (evaluate_dotted hs rfl) (fun p last => rfl) (fun p last l => ?_) <| writes_text _ <|
    writes_loop (fun cells => Plan.written (Plan.caseElements cells)) hcases
      (fun cells _ l => Writes.congr (writes_text _ <| writes_output (evaluate_item _ _ _) <|
        writes_text _ writes_nil) ?_) <| writes_text _ writes_nil) ?_
  · rw [evaluate_asLiteral (evaluate_dotted (evaluate_item _ _ _) rfl)]
    simp [dataLiteral, Plan.Element.chars]
    rfl
  · simp [Plan.caseElements, dataText, toList_caseText, Plan.Element.chars]
  · simp [Plan.casesElements, Plan.Element.chars, Plan.written_flatMap]

/-- **A scenario is written as its elements.** -/
theorem writes_scenario {n : Nat} {s : Plan.Scenario}
    (hcall : evaluate (callDepth (n + 1)) env (.name "call_step") = .ok (.macroValue stepMacro))
    (hs : evaluate (callDepth (n + 1)) env (.name "scenario") = .ok (.data s.tree)) :
    Writes (callDepth (n + 1)) env scenarioNodes (Plan.written (Plan.scenarioElements s)) := by
  have hexplicit : Writes (callDepth (n + 1)) env (if (Json.bool s.isExplicit).truthy then
      [.text "    @pytest.mark.skip(reason=\"explicit scenario, run on demand\")\n"] else [])
      (Plan.written (if s.isExplicit then
        [.code "    @pytest.mark.skip(reason=\"explicit scenario, run on demand\")\n"] else [])) := by
    cases s.isExplicit
    · exact writes_nil
    · exact writes_text _ writes_nil
  have hcases : Writes (callDepth (n + 1)) env
      (if (Plan.flagged Plan.Parameter.members s.parameters).truthy then casesNodes else [])
      (Plan.written (if s.parameters.isEmpty then [] else Plan.casesElements s)) := by
    have hne : (Plan.flagged Plan.Parameter.members s.parameters).truthy =
        !s.parameters.isEmpty := by
      rcases s.parameters with _ | ⟨p, _ | ⟨q, ps⟩⟩ <;> rfl
    rw [hne]
    cases s.parameters.isEmpty
    · exact writes_cases hs
    · exact writes_nil
  have hremarks : ∃ d, evaluate (callDepth (n + 1)) env (dotted "scenario" "remarks") =
      .ok (.data d) ∧ d.truthy = !s.remarks.isEmpty ∧ (s.remarks ≠ [] →
        evaluate (callDepth (n + 1)) env (.attribute (dotted "scenario" "remarks") "lines") =
          .ok (.data (Plan.stringsTree s.remarks))) := by
    have hd : evaluate (callDepth (n + 1)) env (dotted "scenario" "remarks") =
        .ok (.data (Plan.remarksTree s.remarks)) := evaluate_dotted hs rfl
    refine ⟨_, hd, ?_, fun hne => evaluate_attribute hd ?_⟩
    · cases s.remarks <;> rfl
    · cases hr : s.remarks with
      | nil => exact absurd hr hne
      | cons line rest => rfl
  obtain ⟨d, hd, htruthy, hlines⟩ := hremarks
  refine Writes.congr (writes_text _ <| writes_branch (evaluate_dotted hs rfl) hexplicit <|
    writes_branch (evaluate_dotted hs rfl) hcases <| writes_text _ <|
    writes_output (evaluate_dotted hs rfl) <| writes_text _ <|
    writes_parameters (evaluate_dotted hs rfl) <| writes_text _ <|
    writes_documented (evaluate_dotted hs rfl) <| writes_text _ <|
    writes_docLines hd htruthy hlines <| writes_text _ <|
    writes_stepLoop hcall (evaluate_dotted hs rfl) writes_nil) ?_
  simp [-String.reduceToList, Plan.scenarioElements, Plan.Element.chars, Plan.DocPart.chars,
    dataText, toList_quotes]

end

/-! ## Rules and stubs -/

theorem replaceFrom_cons (part c : Char) (other cs : List Char) :
    replaceFrom [part] other 0 (c :: cs) =
      (if c = part then other else [c]) ++ replaceFrom [part] other 0 cs := by
  simp only [replaceFrom, List.isPrefixOf, List.length_singleton, Nat.sub_self, Bool.and_true,
    beq_iff_eq]
  by_cases h : part = c
  · simp [h]
  · rw [if_neg h, if_neg fun he => h he.symm, List.singleton_append]

/-- A text with something else in the place of a character, as the pieces between. -/
theorem replaceFrom_eq_intercalate (c : Char) (other cs : List Char) :
    replaceFrom [c] other 0 cs = other.intercalate (Text.splitAt c cs) := by
  induction cs with
  | nil => simp [Text.splitAt, replaceFrom]
  | cons d cs ih =>
    obtain ⟨piece, pieces, hs, hd⟩ := Text.splitAt_cons c d cs
    rw [replaceFrom_cons, ih, hs, hd]
    split
    · rw [List.intercalate_cons_cons, List.nil_append]
    · cases pieces with
      | nil => simp
      | cons other others => simp [List.intercalate_cons_cons]

theorem intercalate_around {α : Type} (front back : List α) (piece : List α)
    (pieces : List (List α)) :
    front ++ ((back ++ front).intercalate (piece :: pieces) ++ back) =
      (piece :: pieces).flatMap fun p => front ++ (p ++ back) := by
  induction pieces generalizing piece with
  | nil => simp
  | cons other others ih =>
    rw [List.flatMap_cons, ← ih other, List.intercalate_cons_cons]
    simp only [List.append_assoc]

/-- A text in comments, line by line. -/
theorem commented_lines (s : String) :
    "    # ".toList ++ ((replaceText "\n" "\n    # " s).toList ++ ['\n']) =
      Plan.written ((Text.splitAt '\n' s.toList).map fun line => .comment 4 (.ofList line)) := by
  have hreplace : (replaceText "\n" "\n    # " s).toList =
      (['\n'] ++ "    # ".toList).intercalate (Text.splitAt '\n' s.toList) := by
    rw [← replaceFrom_eq_intercalate]
    simp [replaceText, replaceList]
  obtain ⟨piece, pieces, hs⟩ := List.exists_cons_of_ne_nil (Text.splitAt_ne_nil '\n' s.toList)
  rw [hreplace, hs, intercalate_around, Plan.written, List.flatMap_map]
  congr 1
  funext line
  simp [Plan.Element.chars, List.replicate]

section
variable {n : Nat} {call : Caller} {env : Env} {ns : List Node} {cs : List Char}

theorem writes_rule {r : Plan.Rule}
    (hcall : evaluate (callDepth (n + 1)) env (.name "call_step") = .ok (.macroValue stepMacro))
    (hr : evaluate (callDepth (n + 1)) env (.name "rule") = .ok (.data r.tree)) :
    Writes (callDepth (n + 1)) env ruleNodes (Plan.written (Plan.ruleElements r)) := by
  have hdescription : evaluate (callDepth (n + 1)) env (dotted "rule" "description") =
      .ok (.data (.str r.description)) := evaluate_dotted hr rfl
  have hreplaced : evaluate (callDepth (n + 1)) env (.filter (dotted "rule" "description") "replace"
      [.literal (.str "\n"), .literal (.str "\n    # ")]) =
        .ok (.data (.str (replaceText "\n" "\n    # " r.description))) := by
    rw [evaluate, hdescription]
    rfl
  have hlines : Writes (callDepth (n + 1)) env (if (Json.str r.description).truthy then
      [.text "    # ", .output (.filter (dotted "rule" "description") "replace"
        [.literal (.str "\n"), .literal (.str "\n    # ")]), .text "\n"] else [])
      (Plan.written (if r.description = "" then [] else
        (Text.splitAt '\n' r.description.toList).map fun line => .comment 4 (.ofList line))) := by
    by_cases he : r.description = ""
    · rw [he]
      exact writes_nil
    · have htruthy : (Json.str r.description).truthy = true := by simp [Json.truthy, he]
      rw [if_pos htruthy, if_neg he]
      refine Writes.congr (writes_text _ <| writes_output hreplaced <| writes_text _ writes_nil) ?_
      rw [← commented_lines, dataText]
      simp
  refine Writes.congr (writes_text _ <| writes_output (evaluate_dotted hr rfl) <| writes_text _ <|
    writes_branch hdescription hlines <|
    writes_loop (fun s => Plan.written (Plan.scenarioElements s)) (evaluate_dotted hr rfl)
      (fun s _ l => writes_scenario ?_ (evaluate_item _ _ _)) writes_nil) ?_
  · rw [evaluate_outer _ _ (by decide) (by decide), hcall]
  · have hname : dataText (Plan.textOrNull r.name) = Plan.textOrNone r.name := by
      cases r.name <;> rfl
    simp [Plan.ruleElements, Plan.Element.chars, Plan.written_flatMap, hname, List.replicate]

theorem writes_stub {s : Plan.Stub}
    (hs : evaluate call env (.name "stub") = .ok (.data s.tree)) :
    Writes call env stubNodes (Plan.written (Plan.stubElements s)) := by
  have hkeyword : evaluate call env (dotted "stub" "keyword") = .ok (.data (.str s.kind.word)) :=
    evaluate_dotted hs rfl
  have htext : evaluate call env (dotted "stub" "text") = .ok (.data (.str s.text)) :=
    evaluate_dotted hs rfl
  have htitle := evaluate_spaced hkeyword htext
  have hmessage := evaluate_spaced (evaluate_joined
    (show evaluate call env (.literal (.str "Step not implemented: ")) = _ from rfl) hkeyword) htext
  have hliteral : ∀ text, dataLiteral (.str text) = Text.quoteMarkup text := fun _ => rfl
  refine Writes.congr (writes_text _ <| writes_output (evaluate_dotted hs rfl) <| writes_text _ <|
    writes_parameters (evaluate_dotted hs rfl) <| writes_text _ <|
    writes_output (evaluate_asLiteral htitle) <| writes_text _ <|
    writes_output (evaluate_asLiteral hmessage) <| writes_text _ writes_nil) ?_
  simp [Plan.stubElements, Plan.Stub.title, Plan.Element.chars, dataText, hliteral,
    String.append_assoc]

end

/-! ## The module -/

section
variable {n : Nat} {p : Plan} {ns : List Node} {cs : List Char}

/-- The names in sight behind the macro. -/
def moduleEnv (p : Plan) : Env := ⟨[], [("call_step", .macroValue stepMacro)], p.members, true⟩

theorem writes_opening (h : Writes (callDepth (n + 1)) (moduleEnv p) ns cs) :
    Writes (callDepth (n + 1)) (moduleEnv p) (openingNodes ++ ns)
      (Plan.written (Plan.openingElements p) ++ cs) := by
  have himports : evaluate (callDepth (n + 1)) (moduleEnv p) (.name "usings") =
      .ok (.data (Plan.stringsTree p.imports)) := rfl
  refine Writes.congr (writes_text _ <| writes_documented rfl <| writes_text _ <|
    writes_documented rfl <| writes_text _ <|
    writes_loop (fun m => Plan.written [.code "from ", .code m,
      .code " import *  # noqa: F401,F403\n"]) himports (fun m _ l => Writes.congr
        (writes_text _ <| writes_output (evaluate_item _ _ _) <| writes_text _ writes_nil) ?_) h) ?_
  · simp [Plan.Element.chars, dataText]
  · simp [-String.reduceToList, Plan.openingElements, Plan.Element.chars, Plan.DocPart.chars,
      Plan.written_flatMap, toList_quotes]

theorem writes_base : Writes (callDepth (n + 1)) (moduleEnv p)
    (if (Json.str p.baseClass).truthy then
      [.text "(", .output (.name "base_class"), .text ")"] else [])
    (Plan.written (if p.baseClass = "" then [] else
      [.code "(", .code p.baseClass, .code ")"])) := by
  by_cases he : p.baseClass = ""
  · rw [he]
    exact writes_nil
  · have htruthy : (Json.str p.baseClass).truthy = true := by simp [Json.truthy, he]
    rw [if_pos htruthy, if_neg he]
    exact Writes.congr (writes_text _ <| writes_output (d := .str p.baseClass) rfl <|
      writes_text _ writes_nil) (by simp [Plan.Element.chars, dataText])

theorem writes_background :
    ∃ d, evaluate (callDepth (n + 1)) (moduleEnv p) (.name "background") = .ok (.data d) ∧
      Writes (callDepth (n + 1)) (moduleEnv p)
        (if d.truthy then [.text "\n", stepLoop (dotted "background" "steps")] else [])
        (Plan.written ((p.background.map fun ss => .code "\n" :: Plan.stepsElements ss).getD [])) := by
  refine ⟨_, rfl, ?_⟩
  cases hb : p.background with
  | none => exact writes_nil
  | some ss =>
    have hsteps : evaluate (callDepth (n + 1)) (moduleEnv p) (dotted "background" "steps") =
        .ok (.data (Plan.stepsTree ss)) := by
      refine evaluate_dotted (d := .obj [("steps", Plan.stepsTree ss)]) ?_ rfl
      show Except.ok (Value.data ((p.background.map fun ss =>
        .obj [("steps", Plan.stepsTree ss)]).getD .null)) = _
      rw [hb]
      rfl
    exact Writes.congr (writes_text _ <| writes_stepLoop rfl hsteps writes_nil)
      (by simp [Plan.Element.chars])

/-- The class and its set-up; the documentation of the class ends where the set-up begins. -/
theorem writes_class (h : Writes (callDepth (n + 1)) (moduleEnv p) ns cs) :
    Writes (callDepth (n + 1)) (moduleEnv p) (classNodes ++ (setupNodes ++ ns))
      (Plan.written (Plan.classElements p) ++ (Plan.written (Plan.setupElements p) ++ cs)) := by
  have hlines : (Plan.stringsTree p.description).truthy = !p.description.isEmpty := by
    cases p.description <;> rfl
  have hclasses : evaluate (callDepth (n + 1)) (moduleEnv p) (.name "classes") =
      .ok (.data (Plan.stringsTree p.classes)) := rfl
  obtain ⟨d, hd, hbackground⟩ := @writes_background n p
  refine Writes.congr (writes_text _ <| writes_output (d := .str p.className) rfl <|
    writes_branch (d := .str p.baseClass) rfl writes_base <| writes_text _ <|
    writes_documented (s := p.featureName) rfl <| writes_text _ <|
    writes_docLines (d := Plan.stringsTree p.description) rfl hlines (fun _ => rfl) <|
    writes_text _ <|
    writes_loop (fun c => Plan.written [.code "        self.", .code c, .code " = ", .code c,
      .code "(self)\n"]) hclasses (fun c _ l => Writes.congr (writes_text _ <|
        writes_output (evaluate_item _ _ _) <| writes_text _ <|
        writes_output (evaluate_item _ _ _) <| writes_text _ writes_nil) ?_) <|
    writes_branch hd hbackground h) ?_
  · simp [Plan.Element.chars, dataText]
  · simp [-String.reduceToList, Plan.classElements, Plan.setupElements, Plan.Element.chars,
      Plan.DocPart.chars, Plan.written_flatMap, dataText, toList_quotes]

theorem writes_tests : Writes (callDepth (n + 1)) (moduleEnv p) testNodes
    (Plan.written (p.rules.flatMap Plan.ruleElements) ++
      Plan.written (Plan.stubsElements p.stubs)) := by
  have hrules : evaluate (callDepth (n + 1)) (moduleEnv p) (.name "rules") =
      .ok (.data (.arr (p.rules.map Plan.Rule.tree))) := rfl
  have hstubs : evaluate (callDepth (n + 1)) (moduleEnv p) (.name "unimplemented") =
      .ok (.data (.arr (p.stubs.map Plan.Stub.tree))) := rfl
  have hbody : Writes (callDepth (n + 1)) (moduleEnv p)
      (if (Json.arr (p.stubs.map Plan.Stub.tree)).truthy then
        [.text "\n    # Unimplemented steps\n", .loop "stub" (.name "unimplemented") stubNodes []]
        else []) (Plan.written (Plan.stubsElements p.stubs)) := by
    unfold Plan.stubsElements
    cases hs : p.stubs with
    | nil => exact writes_nil
    | cons s ss =>
      rw [hs] at hstubs
      refine Writes.congr (writes_text _ <| writes_loop
        (fun s => Plan.written (Plan.stubElements s)) hstubs
        (fun s _ l => writes_stub (evaluate_item _ _ _)) writes_nil) ?_
      simp [Plan.Element.chars, Plan.written_flatMap, List.replicate]
  refine Writes.congr (writes_loop (fun r => Plan.written (Plan.ruleElements r)) hrules
    (fun r _ l => writes_rule ?_ (evaluate_item _ _ _)) <| writes_branch hstubs hbody writes_nil) ?_
  · rw [evaluate_outer _ _ (by decide) (by decide)]
    rfl
  · rw [Plan.written_flatMap, List.append_nil]

end

/-! ## Top theorem -/

theorem unknownFiltersIn_bundledNodes : unknownFiltersIn false bundledNodes = [] := by
  decide

/-- **The bundled template writes the elements of a plan.** -/
theorem render_bundled (p : Plan) :
    p.render bundled = .ok (.ofList (Plan.written (Plan.elements p))) := by
  have hmodule : Writes (callDepth deepestCall) (moduleEnv p) moduleNodes
      (Plan.written (Plan.elements p)) := by
    refine Writes.congr (writes_opening <| writes_class writes_tests) ?_
    simp [Plan.elements]
  rw [Plan.render, Template.render, read_bundled]
  simp only [renderNodes, unknownFiltersIn_bundledNodes]
  show (writeNodes (callDepth deepestCall) (moduleEnv p) moduleNodes >>= fun s => pure ("" ++ s)) = _
  rw [hmodule]
  exact congrArg Except.ok String.empty_append

end Acceptance.Template
