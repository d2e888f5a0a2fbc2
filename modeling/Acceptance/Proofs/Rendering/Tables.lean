import Acceptance.Proofs.Rendering.FreeText
import Acceptance.Proofs.Source.Grammar
import Acceptance.Proofs.Table.Widths

/-!
# Tables as source

The expression that a table is written as, read as source, is a call of `DataTable` with lists of
text literals.  A literal is written in printable ASCII, a character above U+FFFF as the two
halves of a pair; read as source these are two code points.  So the table that the call makes is
the table that was written just where no text has such a character.

    tokens (written (tableExpression t)) = the words of the call               (tokens_tableExpression)
    readExpression (written (tableExpression t)) = the call          (readExpression_tableExpression)
    unitText s = s ↔ s has no character above U+FFFF                                    (unitText_eq_iff)
-/

namespace Acceptance.Source

open Acceptance.Text Scan

/-! ## Algorithm -/

def Expr.texts? : Expr → Option (List String)
  | .list es => es.mapM Expr.text?
  | _ => none

/-- The table that a call of `DataTable` with lists of texts makes. -/
def Expr.table? : Expr → Option (Except DataTable.TableError DataTable)
  | .call (.name "DataTable") (headers :: rows) [] =>
    match headers.texts?, rows.mapM Expr.texts? with
    | some headers, some rows => some (DataTable.make headers rows)
    | _, _ => none
  | _ => none

/-- The text that a literal in printable ASCII denotes, each unit taken for a character. -/
def unitText (s : String) : String := .ofList ((unitsOf s).map Char.ofNat)

/-- Whether a text has no character above U+FFFF. -/
def OneUnitEach (s : String) : Prop := ∀ c ∈ s.toList, c.toNat < 0x10000

/-! ## Units -/

theorem length_flatMap_charUnits (cs : List Char) : cs.length ≤ (cs.flatMap charUnits).length ∧
    ((cs.flatMap charUnits).length = cs.length ↔ ∀ c ∈ cs, c.toNat < 0x10000) := by
  induction cs with
  | nil => simp
  | cons c cs ih =>
    obtain ⟨hle, hiff⟩ := ih
    rw [List.flatMap_cons, List.length_append, List.forall_mem_cons, ← hiff, List.length_cons]
    by_cases hc : c.toNat < 0x10000
    · have hone : (charUnits c).length = 1 := by rw [charUnits, if_pos hc]; rfl
      omega
    · have htwo : (charUnits c).length = 2 := by rw [charUnits, if_neg hc]; rfl
      omega

theorem unitsOf_eq_pointsOf {s : String} (h : OneUnitEach s) : unitsOf s = pointsOf s := by
  unfold OneUnitEach at h
  unfold unitsOf pointsOf
  generalize s.toList = cs at h
  induction cs with
  | nil => rfl
  | cons c cs ih =>
    obtain ⟨hc, hcs⟩ := List.forall_mem_cons.1 h
    rw [List.flatMap_cons, List.map_cons, ih hcs, charUnits, if_pos hc, List.singleton_append]

theorem unitsOf_eq_iff (s : String) : unitsOf s = pointsOf s ↔ OneUnitEach s := by
  refine ⟨fun h => ?_, unitsOf_eq_pointsOf⟩
  have hlen := congrArg List.length h
  rw [pointsOf, List.length_map] at hlen
  exact (length_flatMap_charUnits s.toList).2.1 hlen

/-- **A text is what its literal denotes just where each of its characters is one unit.** -/
theorem unitText_eq_iff (s : String) : unitText s = s ↔ OneUnitEach s := by
  constructor
  · intro h
    have hlen := congrArg (fun s : String => s.toList.length) h
    simp only [unitText, String.toList_ofList, List.length_map] at hlen
    exact (length_flatMap_charUnits s.toList).2.1 hlen
  · intro h
    rw [unitText, unitsOf_eq_pointsOf h, pointsOf, List.map_map]
    simp [Function.comp_def]

end Acceptance.Source

namespace Acceptance.Plan

open Acceptance.Text Acceptance.Source Scan

/-! ## Words of a table -/

/-- What stands for a text between the quotes of its literal. -/
def markupBody (s : String) : List Char := s.toList.flatMap escapeMarkup

/-- The words of a list of texts. -/
def listWords (cells : List String) : List Token :=
  .op "[" :: (commaTokens (cells.map fun s => [plainText (markupBody s)]) ++ [.op "]"])

theorem written_cells (cells : List String) :
    written (commas ((cells.map some).map cellElement)) = commaLiterals (cells.map markupBody) := by
  rw [Template.written_commas, commaLiterals, List.map_map, List.map_map, List.map_map]
  exact congrArg _ (List.map_congr_left fun s _ => toList_quoteMarkup s)

/-- A list of texts on a line of its own. -/
theorem scans_listLine (cells : List String) (cs : List Char) :
    Scans (line [")"]) (List.replicate 12 ' ' ++ '[' ::
      (commaLiterals (cells.map markupBody) ++ ']' :: cs)) (listWords cells) (line [")"]) cs := by
  have hcells : ∀ body ∈ cells.map markupBody, Contained body := by
    intro body hbody
    obtain ⟨s, -, rfl⟩ := List.mem_map.1 hbody
    exact contained_flatMap contained_escapeMarkup _
  have hlist := scans_commaLiterals ["]", ")"] (']' :: cs) hcells (by simp)
  rw [List.map_map] at hlist
  exact (scans_blanks _ _ 12).trans ((scans_mark (.square [")"] (by simp)) _).trans
    (hlist.trans (scans_mark (.endSquare [")"]) cs)))

/-- The lines of the rows. -/
def rowLines (rows : List (List String)) : List Char :=
  (flagLast (rows.map (·.map some))).flatMap fun row => written (rowElements row)

/-- The rows behind the header. -/
theorem scans_rows (rows : List (List String)) (cs : List Char) :
    Scans (line [")"]) (',' :: '\n' :: (rowLines rows ++ cs))
      (rows.flatMap (fun row => .op "," :: listWords row) ++ if rows.isEmpty then [.op ","] else [])
      (line [")"]) cs := by
  have hcomma : ∀ cs, Scans (line [")"]) (',' :: '\n' :: cs) [.op ","] (line [")"]) cs :=
    fun cs => (scans_mark (.comma [")"]) _).trans (scans_feed [] _ ")")
  have hrow : ∀ (row : List String) (last : Bool) (cs : List Char),
      written (rowElements (row.map some, last)) ++ cs = List.replicate 12 ' ' ++ '[' ::
        (commaLiterals (row.map markupBody) ++ ']' ::
          ((if last then [] else [',']) ++ '\n' :: cs)) := by
    intro row last cs
    rw [rowElements, written_append, written_append, written_cells]
    cases last <;> simp [Element.chars]
  induction rows with
  | nil => exact hcomma cs
  | cons row rows ih =>
    cases rows with
    | nil =>
      rw [rowLines, List.map_singleton, flagLast, List.flatMap_singleton, hrow]
      have hline := (hcomma _).trans ((scans_listLine row _).trans (scans_feed [] cs ")"))
      simpa only [List.flatMap_cons, List.flatMap_nil, List.append_nil, List.isEmpty_cons,
        Bool.false_eq_true, if_false, if_true, List.nil_append, List.singleton_append] using hline
    | cons other others =>
      have hlines : rowLines (row :: other :: others) =
          written (rowElements (row.map some, false)) ++ rowLines (other :: others) := rfl
      rw [hlines, List.append_assoc, hrow, List.flatMap_cons, List.append_assoc]
      exact (hcomma _).trans ((scans_listLine row _).trans ih)

theorem scans_tableName (cs : List Char) :
    Scans (line []) ("DataTable".toList ++ '(' :: cs) [.name "DataTable"] (line []) ('(' :: cs) :=
  scans_name (by decide +kernel) (by decide) (endsName_cons cs (by decide)) []

/-- The words of the call that makes a table. -/
def tableWords (headers : List String) (rows : List (List String)) : List Token :=
  .name "DataTable" :: .op "(" :: (listWords headers ++
    (rows.flatMap (fun row => .op "," :: listWords row) ++ callEnd rows.isEmpty []))

section
variable {t : Table} {headers : List String} {rows : List (List String)}

theorem written_tableExpression (hheaders : t.headers = headers.map some)
    (hrows : t.rows = rows.map (·.map some)) :
    written (tableExpression t) = "DataTable".toList ++ '(' :: '\n' ::
      (List.replicate 12 ' ' ++ '[' :: (commaLiterals (headers.map markupBody) ++ ']' :: ',' :: '\n' ::
        (rowLines rows ++ (List.replicate 8 ' ' ++ [')'])))) := by
  rw [tableExpression, hheaders, hrows, rowLines]
  simp only [written_append, written_cells, written_flatMap]
  simp [Element.chars]

theorem scans_tableExpression (hheaders : t.headers = headers.map some)
    (hrows : t.rows = rows.map (·.map some)) :
    Scans (line []) (written (tableExpression t) ++ ['\n']) (tableWords headers rows) (line [])
      ['\n'] := by
  have hopen := fun cs => (scans_tableName _).trans
    ((scans_mark (.round [] (by simp)) ('\n' :: cs)).trans (scans_feed [] cs ")"))
  have hend : Scans (line [")"]) (List.replicate 8 ' ' ++ [')', '\n']) [.op ")"] (line []) ['\n'] :=
    (scans_blanks _ _ 8).trans (scans_mark (.endRound []) _)
  have hall := (hopen _).trans ((scans_listLine headers _).trans ((scans_rows rows _).trans hend))
  rw [written_tableExpression hheaders hrows]
  simp only [List.append_assoc, List.cons_append, List.nil_append] at hall ⊢
  exact hall

theorem return_not_mem_cells (cells : List (Option String)) :
    '\r' ∉ written (commas (cells.map cellElement)) := by
  have hcell : ∀ v, '\r' ∉ (cellElement v).chars := by
    rintro (_ | s)
    · simp [cellElement, Element.chars]
    · intro h
      have hbody := (contained_flatMap contained_escapeMarkup s.toList).line
      rw [cellElement, Element.chars, toList_quoteMarkup] at h
      simp only [List.mem_cons, List.mem_append, List.not_mem_nil, or_false] at h
      rcases h with h | h | h
      · cases h
      · exact (hbody _ h).2 rfl
      · cases h
  unfold commas
  induction cells with
  | nil => simp
  | cons v cells ih =>
    cases cells with
    | nil => simpa using hcell v
    | cons v' cells =>
      rw [List.map_cons, List.map_cons, List.intersperse_cons_cons, written_cons, written_cons]
      simp only [List.mem_append, not_or]
      exact ⟨hcell v, by simp [Element.chars], ih⟩

theorem return_not_mem_tableExpression (t : Table) : '\r' ∉ written (tableExpression t) := by
  have hrow : ∀ row, '\r' ∉ written (rowElements row) := by
    rintro ⟨cells, last⟩
    have := return_not_mem_cells cells
    cases last <;> simp [rowElements, Element.chars, this]
  have := return_not_mem_cells t.headers
  simp [tableExpression, Element.chars, this, written_flatMap, hrow]

/-- **The words of a table are those of a call.** -/
theorem tokens_tableExpression (hheaders : t.headers = headers.map some)
    (hrows : t.rows = rows.map (·.map some)) :
    tokens (.ofList (written (tableExpression t))) = some (tableWords headers rows ++ [.newline]) := by
  obtain ⟨cs, hcs⟩ : ∃ cs, written (tableExpression t) = 'D' :: cs := ⟨_, rfl⟩
  have hlast : (written (tableExpression t)).getLast? ≠ some '\n' := by
    rw [tableExpression, written_append, List.getLast?_append]
    simp [Element.chars]
  have hscans := scans_tableExpression hheaders hrows
  have hreturn := return_not_mem_tableExpression t
  rw [hcs] at hlast hscans hreturn ⊢
  exact tokens_of_scans (by decide) hreturn hlast hscans

end

/-! ## The call -/

/-- A text as it is read. -/
def textExpr (s : String) : Expr := .text (unitText s) false

theorem reads_markup (n : Nat) (s : String) :
    Reads (Inner.atDepth (n + 1)) [plainText (markupBody s)] (textExpr s) := by
  refine .literal n ?_
  rw [markupBody, decodeText_eq, bodyPoints?_denotes (denotes_markup s)]
  rfl

theorem reads_listWords (n : Nat) (cells : List String) :
    Reads (Inner.atDepth (n + 2)) (listWords cells) (.list (cells.map textExpr)) :=
  .list fun s _ => reads_markup n s

/-- **A table is read as a call with a list for the header and one for each row.** -/
theorem readExpression_tableExpression {t : Table} {headers : List String}
    {rows : List (List String)} (hheaders : t.headers = headers.map some)
    (hrows : t.rows = rows.map (·.map some)) :
    readExpression (written (tableExpression t)) = some (.call (.name "DataTable")
      (.list (headers.map textExpr) :: rows.map fun row => .list (row.map textExpr)) []) := by
  obtain ⟨n, hn⟩ : ∃ n, (written (tableExpression t)).length + 2 = n + 3 := by
    refine ⟨(written (tableExpression t)).length - 1, ?_⟩
    have : 1 ≤ (written (tableExpression t)).length := by
      rw [written_tableExpression hheaders hrows]
      simp
    omega
  have hends : Ends [Token.newline] := ⟨_, _, rfl, by simp⟩
  have hcall := @test_call _ (n + 1) [.newline] listWords (fun row => .list (row.map textExpr)) rows
    "DataTable" headers rows.isEmpty hends fun row _ => reads_listWords n row
  have hwords : tableWords headers rows ++ [.newline] = .name "DataTable" :: .op "(" ::
      (listWords headers ++ (rows.flatMap (fun row => .op "," :: listWords row) ++
        callEnd rows.isEmpty [.newline])) := by
    simp [tableWords, callEnd]
  rw [readExpression, tokens_tableExpression hheaders hrows, hn, hwords]
  simp only [hcall]

/-! ## The table that the call makes -/

theorem texts?_list (cells : List String) :
    (Expr.list (cells.map textExpr)).texts? = some (cells.map unitText) := by
  have htexts : (cells.map textExpr).mapM Expr.text? = some (cells.map unitText) := by
    induction cells with
    | nil => rfl
    | cons s cells ih => simp [textExpr, Expr.text?, ih]
  exact htexts

theorem table?_call (headers : List String) (rows : List (List String)) :
    (Expr.call (.name "DataTable")
      (.list (headers.map textExpr) :: rows.map fun row => .list (row.map textExpr)) []).table? =
        some (DataTable.make (headers.map unitText) (rows.map (·.map unitText))) := by
  have hrows : (rows.map fun row => Expr.list (row.map textExpr)).mapM Expr.texts? =
      some (rows.map (·.map unitText)) := by
    induction rows with
    | nil => rfl
    | cons row rows ih => simp [texts?_list, ih]
  rw [Expr.table?, texts?_list, hrows]

/-- A table of a converted document has rows as wide as its header. -/
theorem width_of_convert {c : Catalog} {fileName : String} {d : Gherkin.Document} {p : Plan}
    (hp : convert c fileName d = .ok p) {s : Step} (hs : s ∈ p.allSteps) {t : Table}
    (ht : s.table = some t) : ∀ row ∈ t.rows, row.length = t.headers.length := by
  cases d with
  | none =>
    obtain rfl := Except.ok.inj hp
    cases hs
  | some f =>
    rw [allSteps_of_convert hp] at hs
    obtain ⟨x, hx, rfl⟩ := List.mem_map.1 hs
    have hfault := line_fault_of_convert hp hx
    rw [(x.step_text_table _ _).2] at ht
    obtain ⟨rows, hrows, rfl⟩ := Option.map_eq_some_iff.1 ht
    rw [Occurrence.trial, hrows] at hfault
    cases rows with
    | nil => exact fun _ h => nomatch h
    | cons top rows =>
      have hnone : raggedFrom? top.length 1 rows = none := by
        cases hr : raggedFrom? top.length 1 rows with
        | none => rfl
        | some fault => simp [raggedFault?, hr] at hfault
      intro row hrow
      obtain ⟨cells, hcells, rfl⟩ := List.mem_map.1 hrow
      show (cells.map _).length = (top.map _).length
      rw [List.length_map, List.length_map]
      exact (raggedFrom?_tells _).eq_none_iff.1 hnone cells hcells

/-! ## Top theorem -/

/-- The table that an expression makes. -/
def madeTable? (cs : List Char) : Option (Except DataTable.TableError DataTable) :=
  (readExpression cs).bind Expr.table?

theorem madeTable?_tableExpression {t : Table} {headers : List String} {rows : List (List String)}
    (hheaders : t.headers = headers.map some) (hrows : t.rows = rows.map (·.map some))
    (hwidth : ∀ row ∈ t.rows, row.length = t.headers.length) :
    madeTable? (written (tableExpression t)) =
      some (.ok ⟨headers.map unitText, rows.map (·.map unitText)⟩) := by
  rw [madeTable?, readExpression_tableExpression hheaders hrows, Option.bind_some, table?_call]
  refine congrArg some (DataTable.make_eq_ok_iff.2 ⟨rfl, ?_⟩)
  intro row hrow
  obtain ⟨cells, hcells, rfl⟩ := List.mem_map.1 hrow
  have hcells := hwidth (cells.map some) (hrows ▸ List.mem_map.2 ⟨cells, hcells, rfl⟩)
  simpa [hheaders] using hcells

theorem map_eq_self_iff {α : Type} {f : α → α} {as : List α} :
    as.map f = as ↔ ∀ a ∈ as, f a = a := by
  induction as with
  | nil => simp
  | cons a as ih => rw [List.map_cons, List.cons.injEq, ih, List.forall_mem_cons]

theorem map_unitText_eq_iff {headers : List String} {rows : List (List String)} :
    headers.map unitText = headers ∧ rows.map (·.map unitText) = rows ↔
      ∀ x ∈ headers ++ rows.flatten, OneUnitEach x := by
  simp only [map_eq_self_iff, unitText_eq_iff, List.forall_mem_append, List.mem_flatten]
  refine and_congr_right fun _ => ⟨?_, fun h row hrow x hx => h x ⟨row, hrow, hx⟩⟩
  rintro h x ⟨row, hrow, hx⟩
  exact h row hrow x hx

/-- **A rendered table is the table of the plan, as far as its characters are one unit each.**  The
expression stands in the module behind the variable of the table.  Each literal in it denotes the
sixteen-bit units of its text. -/
theorem rendered_table_denotes {c : Catalog} {fileName : String} {d : Gherkin.Document} {p : Plan}
    (hp : convert c fileName d = .ok p) {s : Step} (hs : s ∈ p.allSteps) {t : Table}
    (ht : s.table = some t) {headers : List String} {rows : List (List String)}
    (hheaders : t.headers = headers.map some) (hrows : t.rows = rows.map (·.map some)) :
    (∃ front behind, p.render Template.bundled = .ok (.ofList (front ++
      "        ".toList ++ t.variableName.toList ++ " = ".toList ++ written (tableExpression t) ++
        '\n' :: behind))) ∧
    (∀ x ∈ headers ++ rows.flatten,
      (quoteMarkup x).toList = inQuotes (markupBody x) ∧ bodyPoints? (markupBody x) = some (unitsOf x) ∧
        (unitsOf x = pointsOf x ↔ OneUnitEach x)) ∧
    madeTable? (written (tableExpression t)) =
      some (.ok ⟨headers.map unitText, rows.map (·.map unitText)⟩) ∧
    (madeTable? (written (tableExpression t)) = some (.ok ⟨headers, rows⟩) ↔
      ∀ x ∈ headers ++ rows.flatten, OneUnitEach x) := by
  have hmade := madeTable?_tableExpression hheaders hrows (width_of_convert hp hs ht)
  refine ⟨?_, fun x _ => ⟨toList_quoteMarkup x, bodyPoints?_denotes (denotes_markup x),
    unitsOf_eq_iff x⟩, hmade, ?_⟩
  · obtain ⟨front, behind, hall⟩ := table_within hs ht
    refine ⟨written front, written behind, ?_⟩
    rw [Template.render_bundled, ← hall]
    simp [tableElements, Element.chars]
  · rw [hmade]
    simp only [Option.some.injEq, Except.ok.injEq, DataTable.mk.injEq, map_unitText_eq_iff]

/-- A feature with a table of one column, whose header and cell are given. -/
def moodFeature (header cell : String) : Gherkin.Feature :=
  { tags := [], language := "en", keyword := "Feature", name := "Moods", description := "",
    children := [.scenario
      { tags := [], keyword := "Scenario", name := "One", description := "", examples := [],
        steps := [⟨"Given ", .kind .context, "moods", some [[⟨some header⟩], [⟨some cell⟩]]⟩] }] }

theorem moodFeature_convert (header cell : String) :
    convert [] "moods" (some (moodFeature header cell)) =
      .ok (plan [] "moods" (moodFeature header cell)) := by
  have hfaults : faults [] (moodFeature header cell) = [] := rfl
  simp only [convert, hfaults, List.head?_nil]

theorem moodFeature_step (header cell : String) :
    ∃ s ∈ (plan [] "moods" (moodFeature header cell)).allSteps,
      s.table = some ⟨"table1", [some header], [[some cell]]⟩ := by
  have hname : "table" ++ Decimal.text 1 = "table1" := by
    rw [Decimal.text, Decimal.digits]
    rfl
  rw [allSteps_plan]
  refine ⟨_, List.mem_map_of_mem List.mem_cons_self, ?_⟩
  rw [(PlanLine.step_text_table ..).2, ← hname]
  rfl

theorem moodFeature_denotes : ∃ p s t,
    convert [] "moods" (some (moodFeature "mood" "<é>")) = .ok p ∧ s ∈ p.allSteps ∧
      s.table = some t ∧
      madeTable? (written (tableExpression t)) = some (.ok ⟨["mood"], [["<é>"]]⟩) := by
  have hp := moodFeature_convert "mood" "<é>"
  obtain ⟨s, hs, ht⟩ := moodFeature_step "mood" "<é>"
  have hrows : [[some "<é>"]] = [["<é>"]].map (·.map some) := rfl
  obtain ⟨-, -, -, hiff⟩ := rendered_table_denotes hp hs ht List.map_singleton.symm hrows
  exact ⟨_, s, _, hp, hs, ht, hiff.2 (by simp [OneUnitEach])⟩

/-- A character above U+FFFF is lost. -/
theorem moodFeature_loses_character : ∃ p s t,
    convert [] "moods" (some (moodFeature "mood" "😀")) = .ok p ∧ s ∈ p.allSteps ∧
      s.table = some t ∧ t.headers = [some "mood"] ∧ t.rows = [[some "😀"]] ∧
      madeTable? (written (tableExpression t)) ≠ some (.ok ⟨["mood"], [["😀"]]⟩) := by
  have hp := moodFeature_convert "mood" "😀"
  obtain ⟨s, hs, ht⟩ := moodFeature_step "mood" "😀"
  have hrows : [[some "😀"]] = [["😀"]].map (·.map some) := rfl
  refine ⟨_, s, _, hp, hs, ht, rfl, rfl, ?_⟩
  rw [madeTable?_tableExpression List.map_singleton.symm hrows (width_of_convert hp hs ht)]
  simp [unitText_eq_iff, OneUnitEach]

end Acceptance.Plan
