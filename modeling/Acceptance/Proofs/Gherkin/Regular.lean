import Acceptance.Proofs.Gherkin.Shape

/-!
# The texts and tables of features that are read

What the reader makes of a text keeps to its lines: names, keywords and step texts are parts of one
line, tags hold no blanks, and the rows of a table are of one width, every cell with a value.  The
tokens of a line are so, and closing a node makes such a part of such tokens and parts; so it holds
of the feature.

    n.Regular source → n.close = .ok (some p) → p.Regular source               (close_regular)
    Document.read text = .ok (some f) → f.Regular text.toList                   (read_regular)
-/

namespace Acceptance.Gherkin

open Acceptance.Text

/-! ## Algorithm -/

/-- A text made of characters of another one, on one line. -/
def InLine (source : List Char) (s : String) : Prop := ∀ c ∈ s.toList, c ∈ source ∧ c ≠ '\n'

/-- A tag without blanks. -/
def IsTag (t : String) : Prop := ∀ c ∈ t.toList, isBlank c = false

/-- Rows of one width, every cell with a value. -/
structure RegularRows (rows : List Row) : Prop where
  width : ∀ row ∈ rows, row.length = (rows.headD []).length
  valued : ∀ row ∈ rows, ∀ cell ∈ row, cell.value.isSome = true

structure Step.Regular (source : List Char) (s : Step) : Prop where
  keyword : InLine source (strip s.keyword)
  text : InLine source s.text
  table : ∀ rows, s.table = some rows → RegularRows rows

/-- A table of values that has no rows behind a missing header. -/
structure Examples.Regular (e : Examples) : Prop where
  rows : RegularRows (e.header.toList ++ e.body)
  headed : e.header = none → e.body = []

structure Scenario.Regular (source : List Char) (s : Scenario) : Prop where
  name : InLine source s.name
  steps : ∀ t ∈ s.steps, t.Regular source
  examples : ∀ e ∈ s.examples, e.Regular

def Background.Regular (source : List Char) (b : Background) : Prop :=
  ∀ t ∈ b.steps, t.Regular source

def RuleChild.Regular (source : List Char) : RuleChild → Prop
  | .background b => b.Regular source
  | .scenario s => s.Regular source

structure Rule.Regular (source : List Char) (r : Rule) : Prop where
  name : ∃ n, r.name = some n ∧ InLine source n
  children : ∀ child ∈ r.children, child.Regular source

def Child.Regular (source : List Char) : Child → Prop
  | .background b => b.Regular source
  | .scenario s => s.Regular source
  | .rule r => r.Regular source

structure Feature.Regular (source : List Char) (f : Feature) : Prop where
  tags : ∀ t ∈ f.tags, IsTag t
  name : InLine source f.name
  children : ∀ child ∈ f.children, child.Regular source

/-! ## Lines -/

/-- A row of characters that goes on one line, a line feed at its end aside. -/
structure LineOf (source : List Char) (cs : List Char) : Prop where
  chars : ∀ c ∈ cs, c ∈ source
  feed : ∀ before behind, cs = before ++ '\n' :: behind → behind = []

theorem LineOf.of_suffix {source cs ds : List Char} (h : LineOf source cs) (hs : ds <:+ cs) :
    LineOf source ds := by
  obtain ⟨front, rfl⟩ := hs
  refine ⟨fun c hc => h.chars c (List.mem_append_right _ hc), fun before behind he => ?_⟩
  exact h.feed (front ++ before) behind (by rw [he, List.append_assoc])

theorem LineOf.of_isPrefix {source cs ds : List Char} (h : LineOf source cs) (hp : ds <+: cs) :
    LineOf source ds := by
  obtain ⟨back, rfl⟩ := hp
  refine ⟨fun c hc => h.chars c (List.mem_append_left _ hc), fun before behind he => ?_⟩
  have := h.feed before (behind ++ back) (by rw [he, List.append_assoc, List.cons_append])
  exact (List.append_eq_nil_iff.1 this).1

theorem dropEndWhile_isPrefix (p : Char → Bool) (cs : List Char) : dropEndWhile p cs <+: cs := by
  unfold dropEndWhile
  rw [← List.reverse_suffix, List.reverse_reverse]
  exact List.dropWhile_suffix p

/-- The line feed of a line goes with the blanks around it. -/
theorem LineOf.inLine_trim {source cs : List Char} (h : LineOf source cs) :
    InLine source (.ofList (trim cs)) := by
  have ht : LineOf source (trim cs) :=
    (h.of_suffix (List.dropWhile_suffix isBlank)).of_isPrefix (dropEndWhile_isPrefix isBlank _)
  intro c hc
  rw [String.toList_ofList] at hc
  refine ⟨ht.chars c hc, ?_⟩
  rintro rfl
  obtain ⟨before, behind, he⟩ := List.append_of_mem hc
  obtain rfl := ht.feed before behind he
  -- what is left where blanks were dropped does not end in a blank
  have hdrop : (trim cs).reverse = ((cs.dropWhile isBlank).reverse).dropWhile isBlank := by
    simp [trim, trimWhile, dropEndWhile]
  have hhead := List.head?_dropWhile_not isBlank (cs.dropWhile isBlank).reverse
  have hblank : isBlank '\n' = true := by decide
  rw [← hdrop, he, List.reverse_append] at hhead
  simp [hblank] at hhead

theorem lineOf_of_inside {source cs : List Char} (h : ∀ c ∈ cs, c ∈ source ∧ c ≠ '\n') :
    LineOf source cs := by
  refine ⟨fun c hc => (h c hc).1, fun before behind he => ?_⟩
  exact absurd rfl (h '\n' (by rw [he]; simp)).2

theorem lineOf_concat_feed {source cs : List Char} (h : ∀ c ∈ cs, c ∈ source ∧ c ≠ '\n')
    (hfeed : '\n' ∈ source) : LineOf source (cs ++ ['\n']) := by
  refine ⟨fun c hc => ?_, fun before behind he => ?_⟩
  · rcases List.mem_append.1 hc with hc | hc
    · exact (h c hc).1
    · exact List.mem_singleton.1 hc ▸ hfeed
  · rcases List.append_eq_append_iff.1 he with ⟨mid, -, hmid⟩ | ⟨mid, hmid, hrest⟩
    · cases mid with
      | nil => exact (List.cons.inj hmid).2.symm
      | cons e mid => simp at hmid
    · cases mid with
      | nil => exact (List.cons.inj hrest).2
      | cons e mid =>
        have he : e = '\n' := (List.cons.inj hrest).1.symm
        exact absurd rfl (h '\n' (by rw [hmid, he]; simp)).2

theorem lineOf_of_mem_linesFrom {source : List Char} (number : Nat) (read cs : List Char)
    (hread : ∀ c ∈ read, c ∈ source ∧ c ≠ '\n') (hcs : ∀ c ∈ cs, c ∈ source) :
    ∀ l ∈ linesFrom number read cs, ∀ text, l.text = some text → LineOf source text := by
  fun_induction linesFrom number read cs with
  | case1 number read hempty => simp
  | case2 number read hempty =>
    intro l hl text htext
    rcases List.mem_cons.1 hl with rfl | hl
    · exact Option.some.inj htext ▸ lineOf_of_inside fun c hc => hread c (List.mem_reverse.1 hc)
    · rw [List.mem_singleton.1 hl] at htext
      cases htext
  | case3 number read rest ih =>
    intro l hl text htext
    rcases List.mem_cons.1 hl with rfl | hl
    · rw [← Option.some.inj htext, List.reverse_cons]
      exact lineOf_concat_feed (fun c hc => hread c (List.mem_reverse.1 hc))
        (hcs _ List.mem_cons_self)
    · exact ih (by simp) (fun c hc => hcs c (List.mem_cons_of_mem _ hc)) l hl text htext
  | case4 number read c rest hc ih =>
    refine ih (fun d hd => ?_) fun d hd => hcs d (List.mem_cons_of_mem _ hd)
    rcases List.mem_cons.1 hd with rfl | hd
    · exact ⟨hcs _ List.mem_cons_self, hc⟩
    · exact hread d hd

theorem lineOf_of_mem_linesOf {text : String} {l : Line} (h : l ∈ linesOf text) {cs : List Char}
    (hl : l.text = some cs) : LineOf text.toList cs :=
  lineOf_of_mem_linesFrom 1 [] text.toList (by simp) (fun _ hc => hc) l h cs hl

/-! ## Tokens -/

def Token.Regular (source : List Char) : Token → Prop
  | .tags names => ∀ t ∈ names, IsTag t
  | .title _ _ name => InLine source name
  | .step keyword _ text => InLine source (strip keyword) ∧ InLine source text
  | _ => True

theorem isTag_of_mem_tagsFrom {line column : Nat} {pieces : List (List Char)} {names : List String}
    (h : tagsFrom line column pieces = .ok names) : ∀ t ∈ names, IsTag t := by
  induction pieces generalizing column names with
  | nil =>
    obtain rfl := Except.ok.inj h
    simp
  | cons piece pieces ih =>
    rw [tagsFrom] at h
    split at h
    · cases h
    · next hblank =>
      cases hrest : tagsFrom line (column + piece.length + 1) pieces with
      | error e => simp [hrest, Except.map] at h
      | ok others =>
        simp only [hrest, Except.map, Except.ok.injEq] at h
        subst h
        intro t ht
        rcases List.mem_cons.1 ht with rfl | ht
        · intro c hc
          rw [String.toList_ofList] at hc
          rcases List.mem_cons.1 hc with rfl | hc
          · decide
          · simpa using List.any_eq_false.1 (Bool.eq_false_iff.2 hblank) c hc
        · exact ih hrest t ht

theorem prefix_of_dropPrefix? {word : String} {cs rest : List Char}
    (h : dropPrefix? word cs = some rest) : word.toList <+: cs ∧ rest <:+ cs := by
  unfold dropPrefix? at h
  split at h
  · next hp =>
    exact ⟨List.isPrefixOf_iff_prefix.1 hp, Option.some.inj h ▸ List.drop_suffix _ _⟩
  · cases h

theorem title?_regular {source : List Char} {s : Scan} {keywords : List String} {l : Line}
    {t : Token} (hl : LineOf source l.trimmed) (h : s.title? keywords l = some t) :
    t.Regular source := by
  obtain ⟨k, -, hk⟩ := List.exists_of_findSome?_eq_some h
  obtain ⟨rest, hrest, rfl⟩ := Option.map_eq_some_iff.1 hk
  exact (hl.of_suffix (prefix_of_dropPrefix? hrest).2).inLine_trim

theorem step?_regular {source : List Char} {s : Scan} {l : Line} {t : Token}
    (hl : LineOf source l.trimmed) (h : s.step? l = some t) : t.Regular source := by
  obtain ⟨k, -, hk⟩ := List.exists_of_findSome?_eq_some h
  obtain ⟨rest, hrest, rfl⟩ := Option.map_eq_some_iff.1 hk
  obtain ⟨hfront, hsuffix⟩ := prefix_of_dropPrefix? hrest
  exact ⟨(hl.of_isPrefix hfront).inLine_trim, (hl.of_suffix hsuffix).inLine_trim⟩

/-- **One line.**  What a line says is regular. -/
theorem token?_regular {source : List Char} {s : Scan} {kind : TokenKind} {l : Line} {t : Token}
    (hl : ∀ cs, l.text = some cs → LineOf source cs) (h : s.token? kind l = .ok (some t)) :
    t.Regular source := by
  unfold Scan.token? at h
  cases htext : l.text with
  | none =>
    simp only [htext, Except.ok.injEq] at h
    split at h
    · exact Option.some.inj h ▸ trivial
    · cases h
  | some cs =>
    have htrimmed : LineOf source l.trimmed := by
      unfold Line.trimmed
      rw [htext]
      exact (hl cs htext).of_suffix (List.dropWhile_suffix isBlank)
    rw [htext] at h
    cases kind <;> simp only [Except.ok.injEq] at h
    case eof => cases h
    case tagLine =>
      split at h
      · cases hnames : tagsOf l with
        | error e => simp [hnames, Except.map] at h
        | ok names =>
          simp only [hnames, Except.map, Except.ok.injEq, Option.some.injEq] at h
          exact h ▸ isTag_of_mem_tagsFrom hnames
      · cases h
    case language =>
      split at h
      · cases h
      · split at h
        · exact Option.some.inj (Except.ok.inj h) ▸ trivial
        · cases h
    case featureLine => exact title?_regular htrimmed h
    case ruleLine => exact title?_regular htrimmed h
    case backgroundLine => exact title?_regular htrimmed h
    case scenarioLine => exact title?_regular htrimmed h
    case examplesLine => exact title?_regular htrimmed h
    case stepLine => exact step?_regular htrimmed h
    case docStringSeparator =>
      obtain ⟨_, -, rfl⟩ := Option.map_eq_some_iff.1 h
      trivial
    case other => exact Option.some.inj h ▸ trivial
    all_goals
      split at h
      · exact Option.some.inj h ▸ trivial
      · cases h

/-! ## Closing nodes -/

def Part.Regular (source : List Char) : Part → Prop
  | .tags names => ∀ t ∈ names, IsTag t
  | .header h => (∀ t ∈ h.tags, IsTag t) ∧ InLine source h.name
  | .table rows => RegularRows rows
  | .examplesTable rows => RegularRows rows
  | .step s => s.Regular source
  | .background b => b.Regular source
  | .scenario s => s.Regular source
  | .examples e => e.Regular
  | .rule r => r.Regular source
  | .feature f => f.Regular source
  | .description _ => True
  | .docString => True

namespace Node

/-- A node whose tokens and parts are regular. -/
structure Regular (source : List Char) (n : Node) : Prop where
  tokens : ∀ t ∈ n.tokens, t.token.Regular source
  parts : ∀ p ∈ n.parts, p.Regular source

variable {source : List Char} {n : Node}

theorem rows_regular {rows : List Row} (h : n.rows = .ok rows) : RegularRows rows := by
  unfold Node.rows at h
  split at h
  · cases h
  · next hragged =>
    obtain rfl := Except.ok.inj h
    refine ⟨fun row hrow => ?_, fun row hrow cell hcell => ?_⟩
    · obtain ⟨placed, hplaced, rfl⟩ := List.mem_map.1 hrow
      cases hall : n.placedRows with
      | nil => simp [hall] at hplaced
      | cons first others =>
        rw [hall] at hplaced
        simp only [raggedRow?, hall] at hragged
        rcases List.mem_cons.1 hplaced with rfl | hplaced
        · simp
        · simpa using List.find?_eq_none.1 hragged placed hplaced
    · obtain ⟨placed, -, rfl⟩ := List.mem_map.1 hrow
      obtain ⟨value, -, rfl⟩ := List.mem_map.1 hcell
      rfl

theorem title_regular (h : n.Regular source) {title : String × String × String}
    (ht : n.titles.head? = some title) : InLine source title.2.2 := by
  have hmem := List.mem_of_mem_head? ht
  obtain ⟨p, hp, htoken⟩ := List.mem_filterMap.1 hmem
  have hr := h.tokens p (List.mem_reverse.1 hp)
  split at htoken
  · next heq =>
    obtain rfl := Option.some.inj htoken
    rwa [heq] at hr
  · cases htoken

theorem tagNames_regular (h : n.Regular source) : ∀ t ∈ n.tagNames, IsTag t := by
  intro t ht
  obtain ⟨p, hp, htp⟩ := List.mem_flatMap.1 ht
  have hr := h.tokens p (List.mem_reverse.1 hp)
  split at htp
  · next heq =>
    rw [heq] at hr
    exact hr t htp
  · cases htp

/-- What is found among the parts of a regular node is regular. -/
theorem part_regular (h : n.Regular source) {α : Type} {f : Part → Option α} {Q : α → Prop}
    (hQ : ∀ p a, f p = some a → p.Regular source → Q a) {a : α}
    (ha : n.parts.reverse.findSome? f = some a) : Q a := by
  obtain ⟨p, hp, hpa⟩ := List.exists_of_findSome?_eq_some ha
  exact hQ p a hpa (h.parts p (List.mem_reverse.1 hp))

theorem parts_regular (h : n.Regular source) {α : Type} {f : Part → Option α} {Q : α → Prop}
    (hQ : ∀ p a, f p = some a → p.Regular source → Q a) {a : α}
    (ha : a ∈ n.parts.reverse.filterMap f) : Q a := by
  obtain ⟨p, hp, hpa⟩ := List.mem_filterMap.1 ha
  exact hQ p a hpa (h.parts p (List.mem_reverse.1 hp))

theorem partTags_regular (h : n.Regular source) : ∀ t ∈ n.partTags, IsTag t := by
  unfold partTags
  generalize htags : n.parts.reverse.findSome? _ = found
  cases found with
  | none => simp
  | some names =>
    refine part_regular (Q := fun names => ∀ t ∈ names, IsTag t) h (fun p _ hpa hp => ?_) htags
    cases p <;> cases hpa
    exact hp

theorem partHeader_regular (h : n.Regular source) {header : Header}
    (hh : n.partHeader? = some header) :
    (∀ t ∈ header.tags, IsTag t) ∧ InLine source header.name := by
  refine part_regular (Q := fun header => (∀ t ∈ header.tags, IsTag t) ∧ InLine source header.name)
    h (fun p _ hpa hp => ?_) hh
  cases p <;> cases hpa
  exact hp

theorem partTable_regular (h : n.Regular source) {rows : List Row}
    (hrows : n.partTable? = some rows) : RegularRows rows := by
  refine part_regular h (fun p _ hpa hp => ?_) hrows
  cases p <;> cases hpa
  exact hp

theorem partExamplesTable_regular (h : n.Regular source) {rows : List Row}
    (hrows : n.partExamplesTable? = some rows) : RegularRows rows := by
  refine part_regular h (fun p _ hpa hp => ?_) hrows
  cases p <;> cases hpa
  exact hp

theorem partSteps_regular (h : n.Regular source) : ∀ s ∈ n.partSteps, s.Regular source := by
  refine fun s => parts_regular (Q := Step.Regular source) h fun p _ hpa hp => ?_
  cases p <;> cases hpa
  exact hp

theorem partExamples_regular (h : n.Regular source) : ∀ e ∈ n.partExamples, e.Regular := by
  refine fun e => parts_regular (Q := Examples.Regular) h fun p _ hpa hp => ?_
  cases p <;> cases hpa
  exact hp

theorem partBackgrounds_regular (h : n.Regular source) :
    ∀ b ∈ n.partBackgrounds, b.Regular source := by
  refine fun b => parts_regular (Q := Background.Regular source) h fun p _ hpa hp => ?_
  cases p <;> cases hpa
  exact hp

theorem partScenarios_regular (h : n.Regular source) :
    ∀ s ∈ n.partScenarios, s.Regular source := by
  refine fun s => parts_regular (Q := Scenario.Regular source) h fun p _ hpa hp => ?_
  cases p <;> cases hpa
  exact hp

theorem partRules_regular (h : n.Regular source) : ∀ r ∈ n.partRules, r.Regular source := by
  refine fun r => parts_regular (Q := Rule.Regular source) h fun p _ hpa hp => ?_
  cases p <;> cases hpa
  exact hp

/-! ### What each node makes -/

theorem header?_regular (h : n.Regular source) {header : Header} (hh : n.header? = some header) :
    (∀ t ∈ header.tags, IsTag t) ∧ InLine source header.name := by
  obtain ⟨title, ht, rfl⟩ := Option.map_eq_some_iff.1 hh
  exact ⟨partTags_regular h, title_regular h ht⟩

theorem step?_regular (h : n.Regular source) {s : Step} (hs : n.step? = some s) :
    s.Regular source := by
  obtain ⟨p, hp, htoken⟩ := List.exists_of_findSome?_eq_some hs
  have hr := h.tokens p (List.mem_reverse.1 hp)
  split at htoken
  · next heq =>
    obtain rfl := Option.some.inj htoken
    rw [heq] at hr
    exact ⟨hr.1, hr.2, fun rows hrows => partTable_regular h hrows⟩
  · cases htoken

theorem scenario?_regular (h : n.Regular source) {s : Scenario} (hs : n.scenario? = some s) :
    s.Regular source := by
  obtain ⟨title, ht, rfl⟩ := Option.map_eq_some_iff.1 hs
  exact ⟨title_regular h ht, partSteps_regular h, partExamples_regular h⟩

/-- The rows behind the first one are the body, so the first one is the header. -/
theorem examples?_regular (h : n.Regular source) {e : Examples} (he : n.examples? = some e) :
    e.Regular := by
  obtain ⟨title, -, rfl⟩ := Option.map_eq_some_iff.1 he
  cases hrows : n.partExamplesTable? with
  | none => exact ⟨⟨by simp, by simp⟩, fun _ => rfl⟩
  | some rows =>
    cases rows with
    | nil => exact ⟨⟨by simp, by simp⟩, fun _ => rfl⟩
    | cons first others => exact ⟨partExamplesTable_regular h hrows, by simp⟩

theorem background?_regular (h : n.Regular source) {b : Background}
    (hb : n.background? = some b) : b.Regular source := by
  obtain ⟨title, -, rfl⟩ := Option.map_eq_some_iff.1 hb
  exact partSteps_regular h

theorem rule?_regular (h : n.Regular source) {r : Rule} (hr : n.rule? = some r) :
    r.Regular source := by
  obtain ⟨header, hh, rfl⟩ := Option.map_eq_some_iff.1 hr
  refine ⟨⟨_, rfl, (partHeader_regular h hh).2⟩, fun child hchild => ?_⟩
  rcases List.mem_append.1 hchild with hchild | hchild
  · obtain ⟨b, hb, rfl⟩ := List.mem_map.1 hchild
    exact partBackgrounds_regular h b hb
  · obtain ⟨s, hs, rfl⟩ := List.mem_map.1 hchild
    exact partScenarios_regular h s hs

theorem feature?_regular (h : n.Regular source) {f : Feature} (hf : n.feature? = some f) :
    f.Regular source := by
  obtain ⟨header, hh, rfl⟩ := Option.map_eq_some_iff.1 hf
  obtain ⟨htags, hname⟩ := partHeader_regular h hh
  refine ⟨htags, hname, fun child hchild => ?_⟩
  rcases List.mem_append.1 hchild with hchild | hchild
  · rcases List.mem_append.1 hchild with hchild | hchild
    · obtain ⟨b, hb, rfl⟩ := List.mem_map.1 hchild
      exact partBackgrounds_regular h b hb
    · obtain ⟨s, hs, rfl⟩ := List.mem_map.1 hchild
      exact partScenarios_regular h s hs
  · obtain ⟨r, hr, rfl⟩ := List.mem_map.1 hchild
    exact partRules_regular h r hr

/-- **One node.**  A regular node is closed to a regular part. -/
theorem close_regular (h : n.Regular source) {p : Part} (hp : n.close = .ok (some p)) :
    p.Regular source := by
  unfold close at hp
  cases hk : n.kind <;> simp only [hk, Except.ok.injEq, Option.some.injEq] at hp
  case tags => exact hp ▸ tagNames_regular h
  case description => exact hp ▸ trivial
  case docString => exact hp ▸ trivial
  case featureHeader =>
    obtain ⟨header, hh, rfl⟩ := Option.map_eq_some_iff.1 hp
    exact header?_regular h hh
  case ruleHeader =>
    obtain ⟨header, hh, rfl⟩ := Option.map_eq_some_iff.1 hp
    exact header?_regular h hh
  case dataTable =>
    cases hrows : n.rows <;> simp only [hrows, Except.map, Except.ok.injEq, Option.some.injEq] at hp
    · cases hp
    · exact hp ▸ rows_regular hrows
  case examplesTable =>
    cases hrows : n.rows <;> simp only [hrows, Except.map, Except.ok.injEq, Option.some.injEq] at hp
    · cases hp
    · exact hp ▸ rows_regular hrows
  case step =>
    obtain ⟨s, hs, rfl⟩ := Option.map_eq_some_iff.1 hp
    exact step?_regular h hs
  case background =>
    obtain ⟨b, hb, rfl⟩ := Option.map_eq_some_iff.1 hp
    exact background?_regular h hb
  case scenario =>
    obtain ⟨s, hs, rfl⟩ := Option.map_eq_some_iff.1 hp
    exact scenario?_regular h hs
  case scenarioDefinition =>
    obtain ⟨s, hs, rfl⟩ := Option.map_eq_some_iff.1 hp
    have := partScenarios_regular h s (List.mem_of_mem_head? hs)
    exact ⟨this.name, this.steps, this.examples⟩
  case examples =>
    obtain ⟨e, he, rfl⟩ := Option.map_eq_some_iff.1 hp
    exact examples?_regular h he
  case examplesDefinition =>
    obtain ⟨e, he, rfl⟩ := Option.map_eq_some_iff.1 hp
    have := partExamples_regular h e (List.mem_of_mem_head? he)
    exact ⟨this.rows, this.headed⟩
  case rule =>
    obtain ⟨r, hr, rfl⟩ := Option.map_eq_some_iff.1 hp
    exact rule?_regular h hr
  case feature =>
    obtain ⟨f, hf, rfl⟩ := Option.map_eq_some_iff.1 hp
    exact feature?_regular h hf

end Node

/-! ## Reading -/

namespace Reading

/-- The open nodes and the document are regular. -/
structure Regular (source : List Char) (r : Reading) : Prop where
  openNodes : ∀ n ∈ r.openNodes, n.Regular source
  document : ∀ f, r.document = some f → f.Regular source

variable {source : List Char} {r : Reading}

theorem regular_of_core {r' : Reading} (h : r'.core = r.core) (hr : r.Regular source) :
    r'.Regular source := by
  simp only [core, Prod.mk.injEq] at h
  obtain ⟨-, hn, hd⟩ := h
  exact ⟨hn ▸ hr.openNodes, hd ▸ hr.document⟩

theorem Regular.innermost (hr : r.Regular source) {n : Node} {rest : List Node}
    (hn : r.openNodes = n :: rest) : n.Regular source ∧ ∀ m ∈ rest, m.Regular source :=
  List.forall_mem_cons.1 (hn ▸ hr.openNodes)

theorem addPart_regular (hr : r.Regular source) {p : Part} (hp : p.Regular source) :
    (r.addPart p).Regular source := by
  unfold addPart
  split
  · next n rest hn =>
    obtain ⟨hnode, hrest⟩ := hr.innermost hn
    have hparts := List.forall_mem_cons.2 ⟨hp, hnode.parts⟩
    exact ⟨List.forall_mem_cons.2 ⟨⟨hnode.tokens, hparts⟩, hrest⟩, hr.document⟩
  · split
    · exact ⟨hr.openNodes, fun f hf => Option.some.inj hf ▸ hp⟩
    · exact hr

theorem closeNode_regular (hr : r.Regular source) : r.closeNode.Regular source := by
  unfold closeNode
  split
  · exact hr
  · next n rest hn =>
    obtain ⟨hnode, hnodes⟩ := hr.innermost hn
    have hrest : Regular source { r with openNodes := rest } := ⟨hnodes, hr.document⟩
    simp only
    split
    · next p hp =>
      exact addPart_regular hrest (Node.close_regular hnode hp)
    · exact hrest
    · exact regular_of_core (core_record _ _) hrest

theorem closeNodes_regular (k : Nat) (hr : r.Regular source) :
    (closeNodes k r).Regular source := by
  induction k generalizing r with
  | zero => exact hr
  | succ k ih => exact ih (closeNode_regular hr)

theorem openAll_regular (hr : r.Regular source) (kinds : List NodeKind) :
    (r.openAll kinds).Regular source := by
  refine ⟨?_, hr.document⟩
  have hopen := hr.openNodes
  unfold openAll
  simp only
  generalize r.openNodes = nodes at hopen
  induction kinds generalizing nodes with
  | nil => exact hopen
  | cons k kinds ih =>
    refine ih _ fun n hn => ?_
    rcases List.mem_cons.1 hn with rfl | hn
    · exact ⟨by simp [Node.empty], by simp [Node.empty]⟩
    · exact hopen n hn

theorem addToken_regular (hr : r.Regular source) {t : Token} (ht : t.Regular source) (l : Line) :
    (r.addToken t l).Regular source := by
  unfold addToken
  split
  · next n rest hn =>
    obtain ⟨hnode, hrest⟩ := hr.innermost hn
    refine ⟨List.forall_mem_cons.2 ⟨⟨?_, hnode.parts⟩, hrest⟩, hr.document⟩
    exact List.forall_mem_cons.2 ⟨ht, hnode.tokens⟩
  · exact hr

/-- **One row.** -/
theorem move_regular (hr : r.Regular source) (t : Transition) {token : Token}
    (ht : token.Regular source) (l : Line) : (r.move t token l).Regular source := by
  have := addToken_regular (openAll_regular (closeNodes_regular
    (r.place.openNodes.length - t.keep) hr)
      (t.next.openNodes.take (t.next.openNodes.length - t.keep)).reverse) ht l
  exact ⟨this.openNodes, this.document⟩

/-- The token that passes a test is one that the line says. -/
theorem token_of_passes {t : Test} {l : Line} {rest : List Line} {r' : Reading} {token : Token}
    (h : r.passes t l rest = (r', some token)) :
    ∃ s : Scan, s.token? t.kind l = .ok (some token) := by
  have htest : (r.test t.kind l).2 = some token := by
    unfold passes at h
    split at h
    · next heq _ =>
      rw [heq]
      split at h <;> simp only [Prod.mk.injEq, reduceCtorEq, and_false] at h
      exact h.2
    · exact congrArg Prod.snd h
  unfold test at htest
  split at htest
  · next heq => exact ⟨r.scan, htest ▸ heq⟩
  · cases htest

theorem takeRow_regular (hr : r.Regular source) {l : Line}
    (hl : ∀ cs, l.text = some cs → LineOf source cs) (rest : List Line) (rows : List Transition) :
    (r.takeRow l rest rows).Regular source := by
  induction rows generalizing r with
  | nil => exact regular_of_core (core_record r _) hr
  | cons t rows ih =>
    have hcore := core_passes r t.test l rest
    unfold takeRow
    split
    · next r₁ token heq =>
      rw [heq] at hcore
      have hr₁ := regular_of_core hcore hr
      obtain ⟨s, hs⟩ := token_of_passes heq
      split
      · exact hr₁
      · exact move_regular hr₁ t (token?_regular hl hs) l
    · next heq =>
      rw [heq] at hcore
      exact ih (regular_of_core hcore hr)

/-- **All lines.** -/
theorem readLines_regular (hr : r.Regular source) (ls : List Line)
    (hls : ∀ l ∈ ls, ∀ cs, l.text = some cs → LineOf source cs) :
    (r.readLines ls).Regular source := by
  induction ls generalizing r with
  | nil => exact hr
  | cons l rest ih =>
    unfold readLines
    split
    · exact hr
    · exact ih (takeRow_regular hr (hls l List.mem_cons_self) rest _)
        fun m hm => hls m (List.mem_cons_of_mem _ hm)

end Reading

/-! ## Top theorem -/

/-- **What is read is regular.** -/
theorem Document.read_regular {text : String} {f : Feature}
    (h : Document.read text = .ok (some f)) : f.Regular text.toList := by
  have hstart : Reading.start.Regular text.toList :=
    ⟨by simp [Reading.start], by simp [Reading.start]⟩
  unfold Document.read at h
  simp only at h
  split at h
  · exact (Reading.readLines_regular hstart (linesOf text)
      fun l hl cs hcs => lineOf_of_mem_linesOf hl hcs).document f (Except.ok.inj h)
  · cases h

end Acceptance.Gherkin
