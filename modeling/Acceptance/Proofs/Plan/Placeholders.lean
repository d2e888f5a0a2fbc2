import Acceptance.Proofs.Plan.Needs
import Acceptance.Proofs.Plan.Passed
import Mathlib.Data.Finset.Card
import Mathlib.Data.List.Infix

/-!
# Placeholders of stubs

A placeholder of a text is a name in angle brackets.  The stub for a text has a parameter for each
name that the placeholders are turned into, so placeholders with one such name share a parameter,
and a call passes the first of them for it; the column that another one names is not passed.

    (referencesFrom none cs).map .ofList = cs.tails.filterMap openingName?     (referencesFrom_eq)
    the reference kept for a parameter is that of firstNamed? text name        (find?_references)
    stub.Takes x.line, x the first line with the key of the stub              (madeFirst_collect)
    s.CallsStub x stub → stub.Takes first → s.FillsStub x stub           (fillsStub_of_callsStub)
-/

namespace Acceptance.Plan

open Acceptance.Text

/-! ## Algorithm -/

/-- A character that may stand between angle brackets. -/
def isInner (c : Char) : Bool := c != '<' && c != '>'

/-- The name in angle brackets that a text opens with. -/
def openingName? : List Char → Option String
  | '<' :: rest =>
    let name := rest.takeWhile isInner
    if name ≠ [] ∧ (rest.dropWhile isInner).head? = some '>' then some (.ofList name) else none
  | _ => none

/-- The placeholders of a text in order: the names in angle brackets at its places. -/
def placeholders (text : String) : List String := text.toList.tails.filterMap openingName?

/-- The first placeholder of a text that a parameter is named after. -/
def firstNamed? (text name : String) : Option String :=
  (placeholders text).find? fun h => parameterName h == name

/-- The names of the parameters for texts. -/
def Stub.texts (s : Stub) : List String := (s.parameters.filter (·.kind == .text)).map (·.name)

/-- The parameters for data tables. -/
def Stub.tables (s : Stub) : List Parameter := s.parameters.filter (·.kind == .table)

/-- A stub as the first of its lines asks for it. -/
structure Stub.Takes (s : Stub) (first : Occurrence) : Prop where
  parameters : s.parameters = s.texts.map (⟨.text, ·⟩) ++ s.tables
  texts : s.texts = ((placeholders s.text).map parameterName).eraseDups
  tables : s.tables.length = if first.hasTable then 1 else 0
  /-- There are as many texts as placeholders just where no two of these have one name. -/
  each : s.texts.length = (placeholders s.text).eraseDups.length ↔
    ∀ g ∈ placeholders s.text, ∀ h ∈ placeholders s.text, parameterName g = parameterName h → g = h

/-- What is passed for a placeholder: the parameter of the column that it names, else itself. -/
def placeholderArgument (o : Outline) (h : String) : Argument :=
  ⟨"<" ++ h ++ ">", match o.parameter? h with
    | some name => .named name
    | none => .literal ("<" ++ h ++ ">")⟩

/-- A step that passes its stub the first placeholder for each text. -/
structure Step.FillsStub (s : Step) (x : PlanLine) (stub : Stub) : Prop where
  calls : s.CallsStub x stub
  texts : ∃ firsts : List String, stub.texts.map (firstNamed? s.text) = firsts.map some ∧
    s.arguments.take stub.texts.length = firsts.map (placeholderArgument x.outline)
  /-- A column is passed where its placeholder is the first one of its name. -/
  columns : ∀ h ∈ placeholders s.text, ∀ name, x.outline.parameter? h = some name →
    ((∃ a ∈ s.arguments.take stub.texts.length, a.expression = .named name) ↔
      firstNamed? s.text (parameterName h) = some h)

/-! ## Placeholders -/

theorem openingName?_of_ne {c : Char} (h : c ≠ '<') (rest : List Char) :
    openingName? (c :: rest) = none := by
  unfold openingName?
  split
  · next he => exact absurd (List.cons.inj he).1 h
  · rfl

/-- What a text opens with whose brackets are known. -/
theorem openingName?_append {name rest : List Char} (hname : ∀ c ∈ name, isInner c = true)
    (hrest : ∀ c ∈ rest.head?, isInner c = false) :
    openingName? ('<' :: (name ++ rest)) =
      if name ≠ [] ∧ rest.head? = some '>' then some (.ofList name) else none := by
  obtain ⟨htake, hdrop⟩ := takeWhile_stop hname hrest
  simp only [openingName?, htake, hdrop]

/-- **A placeholder is a reference that the text opens with.** -/
theorem openingName?_eq_some_iff {cs : List Char} {name : String} :
    openingName? cs = some name ↔
      ∃ token rest, cs = token.toList ++ rest ∧ IsReference token name := by
  constructor
  · intro h
    unfold openingName? at h
    split at h
    · next rest =>
      obtain ⟨⟨hne, hclose⟩, hname⟩ := Option.ite_none_right_eq_some.1 h
      obtain rfl := Option.some.inj hname
      obtain ⟨behind, hbehind⟩ := List.head?_eq_some_iff.1 hclose
      refine ⟨"<" ++ .ofList (rest.takeWhile isInner) ++ ">", behind, ?_, rfl, ?_, fun c hc => ?_⟩
      · conv_lhs => rw [← List.takeWhile_append_dropWhile (p := isInner) (l := rest), hbehind]
        simp
      · exact fun he => hne (String.ofList_injective he)
      · rw [String.toList_ofList] at hc
        simpa [isInner] using List.all_eq_true.1 List.all_takeWhile c hc
    · cases h
  · rintro ⟨token, rest, rfl, rfl, hne, hinner⟩
    have hname : ∀ c ∈ name.toList, isInner c = true := by
      intro c hc
      simp [isInner, hinner c hc]
    have hchars : ("<" ++ name ++ ">").toList ++ rest = '<' :: (name.toList ++ '>' :: rest) := by
      simp
    have hnonempty : name.toList ≠ [] := fun he => hne (String.toList_injective he)
    rw [hchars, openingName?_append hname (by simp [isInner]), if_pos ⟨hnonempty, rfl⟩,
      String.ofList_toList]

section
variable (inside : Option (List Char)) (cs : List Char)

theorem referencesFrom_open : referencesFrom inside ('<' :: cs) = referencesFrom (some []) cs := by
  rcases inside with _ | _ | ⟨d, ds⟩ <;> simp [referencesFrom]

theorem referencesFrom_close : referencesFrom inside ('>' :: cs) =
    (inside.bind fun ds => if ds = [] then none else some ds.reverse).toList ++
      referencesFrom none cs := by
  rcases inside with _ | _ | ⟨d, ds⟩ <;> simp [referencesFrom]

theorem referencesFrom_inner {c : Char} (h : isInner c = true) :
    referencesFrom inside (c :: cs) = referencesFrom (inside.map (c :: ·)) cs := by
  simp only [isInner, Bool.and_eq_true, bne_iff_ne] at h
  rcases inside with _ | _ | ⟨d, ds⟩ <;> simp [referencesFrom, h]

end

/-- **The names that are found are those at the places of the text.** -/
theorem referencesFrom_eq (cs : List Char) :
    ((referencesFrom none cs).map String.ofList = cs.tails.filterMap openingName?) ∧
    ∀ name, (∀ c ∈ name, isInner c = true) →
      (referencesFrom (some name.reverse) cs).map String.ofList =
        (openingName? ('<' :: (name ++ cs))).toList ++ cs.tails.filterMap openingName? := by
  induction cs with
  | nil =>
    refine ⟨rfl, fun name hname => ?_⟩
    rw [openingName?_append hname (by simp), if_neg (by simp)]
    rfl
  | cons c cs ih =>
    obtain ⟨hout, hin⟩ := ih
    have htails : (c :: cs).tails.filterMap openingName? =
        (openingName? (c :: cs)).toList ++ cs.tails.filterMap openingName? := by
      rw [List.tails_cons, List.filterMap_cons]
      cases openingName? (c :: cs) <;> rfl
    rw [htails]
    by_cases hopen : c = '<'
    · -- an open bracket begins a name anew
      subst hopen
      have hnew := hin [] nofun
      rw [List.reverse_nil, List.nil_append] at hnew
      refine ⟨by rw [referencesFrom_open, hnew], fun name hname => ?_⟩
      rw [referencesFrom_open, hnew, openingName?_append hname (by simp [isInner]), if_neg (by simp)]
      rfl
    · rw [openingName?_of_ne hopen, Option.toList_none, List.nil_append]
      by_cases hclose : c = '>'
      · subst hclose
        refine ⟨by rw [referencesFrom_close, ← hout]; rfl, fun name hname => ?_⟩
        rw [referencesFrom_close, openingName?_append hname (by simp [isInner]), List.map_append, hout]
        by_cases hne : name = [] <;> simp [hne]
      · have hinner : isInner c = true := by simp [isInner, hopen, hclose]
        refine ⟨by rw [referencesFrom_inner _ _ hinner]; exact hout, fun name hname => ?_⟩
        have hmore := hin (name ++ [c]) fun d hd => (List.mem_append.1 hd).elim (hname d)
          fun hd => List.mem_singleton.1 hd ▸ hinner
        rw [List.reverse_append, List.append_assoc] at hmore
        rw [referencesFrom_inner _ _ hinner]
        exact hmore

theorem placeholders_eq (text : String) :
    placeholders text = (referencesFrom none text.toList).map String.ofList :=
  (referencesFrom_eq text.toList).1.symm

theorem isReference_of_mem {text h : String} (hmem : h ∈ placeholders text) :
    IsReference ("<" ++ h ++ ">") h := by
  obtain ⟨cs, -, hcs⟩ := List.mem_filterMap.1 hmem
  obtain ⟨token, rest, -, htoken⟩ := openingName?_eq_some_iff.1 hcs
  exact ⟨rfl, htoken.named, htoken.plain⟩

/-! ## Parameters -/

theorem parameters_distinctReferences (rs : List Reference) :
    (distinctReferences rs).map (·.parameter) = (rs.map (·.parameter)).eraseDups := by
  induction rs with
  | nil => rfl
  | cons r rs ih =>
    have hfilter : (fun x : Reference => x.parameter != r.parameter) =
        (fun name => name != r.parameter) ∘ (·.parameter) := rfl
    rw [distinctReferences, List.map_cons, List.map_cons, List.eraseDups_cons, hfilter,
      ← List.filter_map, ih, eraseDups_filter]
    rfl

/-- The reference that is kept for a parameter is the first one. -/
theorem find?_distinctReferences (rs : List Reference) (name : String) :
    ((distinctReferences rs).find? fun r => r.parameter == name) =
      rs.find? fun r => r.parameter == name := by
  induction rs with
  | nil => rfl
  | cons r rs ih =>
    rw [distinctReferences, List.find?_cons, List.find?_cons]
    by_cases hr : (r.parameter == name) = true
    · rw [hr]
    · have hskip : (fun x : Reference => decide ((x.parameter != r.parameter) = true ∧
          (x.parameter == name) = true)) = fun x => x.parameter == name := by
        funext x
        by_cases hx : x.parameter = name
        · have hne : name ≠ r.parameter := fun he => hr (by simp [he])
          simp [hx, hne]
        · simp [hx]
      rw [Bool.eq_false_iff.2 hr, List.find?_filter, hskip, ih]

theorem parameters_references (text : String) :
    (references text).map (·.parameter) = ((placeholders text).map parameterName).eraseDups := by
  rw [references, parameters_distinctReferences, placeholders_eq, List.map_map, List.map_map]
  rfl

theorem find?_references (text name : String) :
    ((references text).find? fun r => r.parameter == name).map (·.column) =
      firstNamed? text name := by
  have hrefs : ((referencesFrom none text.toList).map fun cs =>
      (⟨parameterName (.ofList cs), .ofList cs⟩ : Reference)) =
        (placeholders text).map fun h => ⟨parameterName h, h⟩ := by
    rw [placeholders_eq, List.map_map]
    rfl
  rw [references, find?_distinctReferences, hrefs, List.find?_map, Option.map_map, firstNamed?]
  exact Option.map_id'

/-- There are as many names as placeholders just where no two of these have one name. -/
theorem length_eraseDups_map_iff (f : String → String) (hs : List String) :
    (hs.map f).eraseDups.length = hs.eraseDups.length ↔
      ∀ g ∈ hs, ∀ h ∈ hs, f g = f h → g = h := by
  have hcard : ∀ names : List String, names.eraseDups.length = names.toFinset.card := by
    intro names
    have hsame : names.eraseDups.toFinset = names.toFinset := by
      ext name
      simp
    rw [← hsame, List.toFinset_card_of_nodup (distinct_eq names ▸ nodup_distinct names)]
  have himage : (hs.map f).toFinset = hs.toFinset.image f := by
    ext name
    simp
  rw [hcard, hcard, himage, Finset.card_image_iff]
  simp [Set.InjOn]

/-- The parameters of a stub: those for its texts, then that for a table. -/
theorem stubParameters_eq (text : String) (hasTable : Bool) : ∃ tables : List Parameter,
    stubParameters text hasTable =
      ((placeholders text).map parameterName).eraseDups.map (⟨.text, ·⟩) ++ tables ∧
      (∀ x ∈ tables, x.kind = .table) ∧ tables.length = if hasTable then 1 else 0 := by
  rw [← parameters_references, List.map_map]
  unfold stubParameters
  cases hasTable with
  | false => exact ⟨[], (List.append_nil _).symm, nofun, rfl⟩
  | true => exact ⟨[_], rfl, by simp, rfl⟩

theorem takes_of_parameters {s : Stub} {first : Occurrence}
    (h : s.parameters = stubParameters s.text first.hasTable) : s.Takes first := by
  obtain ⟨tables, heq, hkinds, hlength⟩ := stubParameters_eq s.text first.hasTable
  rw [← h] at heq
  generalize hnames : ((placeholders s.text).map parameterName).eraseDups = names at heq
  have hnone : tables.filter (·.kind == .text) = [] := by
    rw [List.filter_eq_nil_iff]
    intro x hx
    simp [hkinds x hx]
  have hall : tables.filter (·.kind == .table) = tables := by
    rw [List.filter_eq_self]
    intro x hx
    simp [hkinds x hx]
  have htexts : s.texts = names := by
    rw [Stub.texts, heq, List.filter_append, hnone, List.filter_map]
    simp [Function.comp_def]
  have htables : s.tables = tables := by
    rw [Stub.tables, heq, List.filter_append, hall, List.filter_map]
    simp [Function.comp_def]
  refine ⟨by rw [heq, htexts, htables], htexts.trans hnames.symm, by rw [htables, hlength], ?_⟩
  rw [htexts, ← hnames]
  exact length_eraseDups_map_iff parameterName (placeholders s.text)

/-! ## The first line of a stub -/

/-- A stub made of the first of some lines that has its key. -/
def Stub.MadeFirst (ls : List Occurrence) (s : Stub) : Prop :=
  ∃ l, ls.find? (·.key == s.key) = some l ∧ s.parameters = stubParameters s.text l.hasTable

/-- **One line.** -/
theorem madeFirst_add {ls : List Occurrence} {stubs : List Stub} (hstubs : StubsOf ls stubs)
    (h : ∀ s ∈ stubs, s.MadeFirst ls) (l : Occurrence) :
    ∀ s ∈ Stub.add stubs l, s.MadeFirst (ls ++ [l]) := by
  have hkept : ∀ s ∈ stubs, s.MadeFirst (ls ++ [l]) := by
    intro s hs
    obtain ⟨first, hfirst, hparameters⟩ := h s hs
    exact ⟨first, by rw [List.find?_append, hfirst]; rfl, hparameters⟩
  unfold Stub.add
  split
  · exact hkept
  · next hany =>
    have hnew : ls.find? (·.key == l.key) = none := by
      rw [List.find?_eq_none]
      intro l' hl' hkey
      have hmem : l.key ∈ ls.map Occurrence.key := List.mem_map.2 ⟨l', hl', by simpa using hkey⟩
      obtain ⟨s, hs, hsk⟩ := List.mem_map.1 (hstubs.mem_keys_iff.2 hmem)
      exact hany (List.any_eq_true.2 ⟨s, hs, answers_iff.2 hsk⟩)
    intro s hs
    rcases List.mem_append.1 hs with hs | hs
    · exact hkept s hs
    · rw [List.mem_singleton.1 hs]
      refine ⟨l, ?_, rfl⟩
      have hkey : ∀ l' : Occurrence, (l'.key == Stub.key ⟨l.kind, l.line.text,
          unique (stubName l.line.text) (stubs.map (·.method)),
          stubParameters l.line.text l.hasTable⟩) = (l'.key == l.key) := fun _ => rfl
      simp only [hkey, List.find?_append, hnew, Option.none_or]
      simp

theorem madeFirst_foldl {before : List Occurrence} {stubs : List Stub}
    (hstubs : StubsOf before stubs) (h : ∀ s ∈ stubs, s.MadeFirst before) (ls : List Occurrence) :
    ∀ s ∈ ls.foldl Stub.add stubs, s.MadeFirst (before ++ ls) := by
  induction ls generalizing before stubs with
  | nil => simpa using h
  | cons l ls ih => simpa using ih (stubsOf_add hstubs l) (madeFirst_add hstubs h l)

/-- **A stub is what the first line with its key asks for**, among all lines. -/
theorem madeFirst_collect (c : Catalog) (ls : List Occurrence) :
    ∀ s ∈ Stub.collect c ls, s.MadeFirst ls := by
  have hnil : StubsOf [] [] := ⟨rfl, List.nodup_nil, nofun⟩
  have hfold := madeFirst_foldl hnil nofun (ls.filter fun l => (l.resolution? c).isNone)
  rw [List.nil_append] at hfold
  intro s hs
  obtain ⟨l, hl, hparameters⟩ := hfold s hs
  refine ⟨l, ?_, hparameters⟩
  -- lines with one key are answered by one definition or by none
  have hfound := List.find?_some hl
  have hfree : (l.resolution? c).isNone = true :=
    (List.mem_filter.1 (List.mem_of_find?_eq_some hl)).2
  rw [List.find?_filter] at hl
  rw [← hl]
  congr 1
  funext l'
  rw [Bool.eq_iff_iff, decide_eq_true_eq, iff_and_self]
  intro hkey
  have hsame : l'.key = l.key := (beq_iff_eq.1 hkey).trans (beq_iff_eq.1 hfound).symm
  rw [resolution?_isNone] at hfree ⊢
  simp only [Occurrence.key, Prod.mk.injEq] at hsame
  rw [Occurrence.isUnmatched, hsame.1, hsame.2]
  exact hfree

/-! ## Calls -/

theorem ofText_reference {o : Outline} {text h : String} (hmem : h ∈ placeholders text) :
    (⟨"<" ++ h ++ ">", .ofText ("<" ++ h ++ ">") "str" o⟩ : Argument) = placeholderArgument o h := by
  have hwhole := wholeReference?_eq_some_iff.2 (isReference_of_mem hmem)
  have hplain : NumberType.ofName? "str" = none := by decide
  rw [placeholderArgument, Expression.ofText, hwhole, hplain, Option.bind_some]
  cases o.parameter? h <;> rfl

/-- **What is passed for a text** is the first placeholder of its name. -/
theorem first_of_passedFor {o : Outline} {text name : String} {t : Option Table} {a : Argument}
    (h : PassedFor o text t ⟨.text, name⟩ a) :
    ∃ g, firstNamed? text name = some g ∧ a = placeholderArgument o g := by
  cases h with
  | reference r hr =>
    have hfirst : firstNamed? text r.parameter = some r.column := by
      rw [← find?_references]
      cases hf : (references text).find? fun q => q.parameter == r.parameter with
      | none => simpa using List.find?_eq_none.1 hf r hr
      | some q =>
        have hq : q.parameter = r.parameter := by simpa using List.find?_some hf
        rw [List.inj_on_of_nodup_map (nodup_distinctReferences _) (List.mem_of_find?_eq_some hf) hr hq]
        rfl
    exact ⟨r.column, hfirst, ofText_reference (List.mem_of_find?_eq_some hfirst)⟩

/-- No two columns of an outline have one parameter. -/
theorem nodup_outline {d : Gherkin.Document} {x : PlanLine} (hx : x ∈ documentLines d) :
    (x.outline.map (·.parameter)).Nodup := by
  rcases List.mem_append.1 (documentLines_subset d hx) with hx | hx
  · obtain ⟨b, -, hx⟩ := List.mem_flatMap.1 hx
    obtain ⟨l, -, rfl⟩ := List.mem_map.1 hx
    exact List.nodup_nil
  · obtain ⟨s, -, hx⟩ := List.mem_flatMap.1 hx
    obtain ⟨l, -, rfl⟩ := List.mem_map.1 hx
    rw [parameters_outlineOf]
    exact (uniqueFrom_spec [] _).2.1

theorem header_of_parameter? {o : Outline} {g h name : String} (ho : (o.map (·.parameter)).Nodup)
    (hg : o.parameter? g = some name) (hh : o.parameter? h = some name) : g = h := by
  obtain ⟨k, hk, rfl⟩ := Option.map_eq_some_iff.1 hg
  obtain ⟨k', hk', hname⟩ := Option.map_eq_some_iff.1 hh
  have hsame := List.inj_on_of_nodup_map ho (List.mem_reverse.1 (List.mem_of_find?_eq_some hk'))
    (List.mem_reverse.1 (List.mem_of_find?_eq_some hk)) hname
  have hgk : k.header = g := by simpa using List.find?_some hk
  have hhk : k'.header = h := by simpa using List.find?_some hk'
  rw [← hgk, ← hhk, hsame]

theorem named_placeholderArgument {o : Outline} {g name : String} :
    (placeholderArgument o g).expression = .named name ↔ o.parameter? g = some name := by
  unfold placeholderArgument
  cases o.parameter? g <;> simp

theorem firsts_of_passedFor {o : Outline} {text : String} {t : Option Table} {names : List String}
    {as : List Argument}
    (h : List.Forall₂ (fun name a => PassedFor o text t ⟨.text, name⟩ a) names as) :
    ∃ firsts : List String, names.map (firstNamed? text) = firsts.map some ∧
      as = firsts.map (placeholderArgument o) := by
  induction h with
  | nil => exact ⟨[], rfl, rfl⟩
  | cons ha _ ih =>
    obtain ⟨g, hg, rfl⟩ := first_of_passedFor ha
    obtain ⟨firsts, hfirsts, rfl⟩ := ih
    exact ⟨g :: firsts, by rw [List.map_cons, List.map_cons, hg, hfirsts], rfl⟩

/-- **A call passes the first placeholder for each text.** -/
theorem fillsStub_of_callsStub {s : Step} {x : PlanLine} {stub : Stub} {first : Occurrence}
    (hcalls : s.CallsStub x stub) (htakes : stub.Takes first) (htext : stub.text = s.text)
    (ho : (x.outline.map (·.parameter)).Nodup) : s.FillsStub x stub := by
  have hpassed := List.forall₂_take stub.texts.length hcalls.arguments
  have htake : stub.parameters.take stub.texts.length = stub.texts.map (⟨.text, ·⟩) := by
    conv_lhs => rw [htakes.parameters]
    exact List.take_left' (List.length_map _)
  rw [htake, List.forall₂_map_left_iff] at hpassed
  obtain ⟨firsts, hfirsts, harguments⟩ := firsts_of_passedFor hpassed
  have hmem : ∀ g, g ∈ firsts ↔ ∃ name ∈ stub.texts, firstNamed? s.text name = some g := by
    intro g
    rw [← List.mem_map, hfirsts]
    simp
  refine ⟨hcalls, ⟨firsts, hfirsts, harguments⟩, fun h hh name hname => ?_⟩
  rw [harguments]
  constructor
  · rintro ⟨a, ha, hexpression⟩
    obtain ⟨g, hg, rfl⟩ := List.mem_map.1 ha
    obtain rfl := header_of_parameter? ho (named_placeholderArgument.1 hexpression) hname
    obtain ⟨other, -, hother⟩ := (hmem g).1 hg
    have hsame : parameterName g = other := by simpa using List.find?_some hother
    rwa [hsame]
  · intro hfirst
    have htexts : parameterName h ∈ stub.texts := by
      rw [htakes.texts, List.mem_eraseDups, htext]
      exact List.mem_map_of_mem hh
    exact ⟨_, List.mem_map_of_mem ((hmem h).2 ⟨_, htexts, hfirst⟩),
      named_placeholderArgument.2 hname⟩

/-! ## Top theorem -/

section
variable {c : Catalog} {fileName : String} {d : Gherkin.Document} {p : Plan}

/-- **A stub of a plan** is as the first line with its kind and text asks for it. -/
theorem takes_of_convert (h : convert c fileName d = .ok p) {stub : Stub} (hstub : stub ∈ p.stubs) :
    ∃ x, (convertedLines d).find? (·.line.key == stub.key) = some x ∧ stub.Takes x.line := by
  rw [stubs_of_convert h] at hstub
  cases d with
  | none => cases hstub
  | some f =>
    obtain ⟨l, hl, hparameters⟩ := madeFirst_collect c (allOccurrences f) stub hstub
    rw [← line_convertedLines, List.find?_map] at hl
    obtain ⟨x, hx, rfl⟩ := Option.map_eq_some_iff.1 hl
    exact ⟨x, hx, takes_of_parameters hparameters⟩

/-- **A line without a definition** has a stub, which its step fills. -/
theorem fillsStub_of_convert (h : convert c fileName d = .ok p) {x : PlanLine}
    (hx : x ∈ documentLines d) (hun : x.line.isUnmatched c = true) :
    ∃ stub ∈ p.stubs, (x.step c p.stubs).FillsStub x stub := by
  have hcalled : ∃ stub ∈ p.stubs, (x.step c p.stubs).CallsStub x stub := by
    rw [stubs_of_convert h, step_of_unmatched _ hun]
    cases d with
    | none => cases hx
    | some f =>
      refine planStub_callsStub (stubsOf_collect c (allOccurrences f)) ?_ hun
      rw [← line_convertedLines]
      exact List.mem_map_of_mem (documentLines_subset _ hx)
  obtain ⟨stub, hstub, hcalls⟩ := hcalled
  obtain ⟨first, -, htakes⟩ := takes_of_convert h hstub
  have hkey : stub.text = x.line.line.text := congrArg Prod.snd hcalls.key
  have htext : stub.text = (x.step c p.stubs).text :=
    hkey.trans (x.step_text_table c p.stubs).1.symm
  exact ⟨stub, hstub, fillsStub_of_callsStub hcalls htakes htext (nodup_outline hx)⟩

/-- **What stubs take and what they are passed.**  A stub has a parameter for each name that the
placeholders of its text are turned into, in the order of their first ones, and behind these one
for a data table if the first line with its kind and text has one; so it has a parameter for each
placeholder just where no two of them have one name.  A step that no definition answers calls the
stub with its kind and text, and passes for each of the names the first placeholder: the parameter
of the column that this names, if there is one. -/
theorem placeholders_of_convert (h : convert c fileName d = .ok p) :
    (∀ stub ∈ p.stubs, ∃ x, (convertedLines d).find? (·.line.key == stub.key) = some x ∧
      stub.Takes x.line) ∧
    List.Forall₂ (fun (x : PlanLine) (s : Step) => s.text = x.line.line.text ∧
      (x.line.isUnmatched c = true → ∃ stub ∈ p.stubs, s.FillsStub x stub))
      (documentLines d) p.allSteps := by
  refine ⟨fun stub => takes_of_convert h, ?_⟩
  rw [allSteps_of_convert h, ← stubs_of_convert h, List.forall₂_map_right_iff, List.forall₂_same]
  exact fun x hx => ⟨(x.step_text_table c p.stubs).1, fillsStub_of_convert h hx⟩

end

/-- A line with a table, and with a placeholder twice. -/
def visitLine : Gherkin.Step :=
  ⟨"When ", .kind .action, "<guest> meets <host>, then <guest> leaves", some [[⟨some "gift"⟩]]⟩

def visitFeature : Gherkin.Feature :=
  { tags := [], language := "en", keyword := "Feature", name := "Visits", description := "",
    children := [.scenario
      { tags := [], keyword := "Scenario Outline", name := "Visit", description := "",
        steps := [visitLine],
        examples := [⟨[], "Examples", "", "", some [⟨some "guest"⟩, ⟨some "host"⟩],
          [[⟨some "Ann"⟩, ⟨some "Bo"⟩]]⟩] }] }

theorem visitFeature_passes : ∃ p s stub, convert [] "visits" (some visitFeature) = .ok p ∧
    p.allSteps = [s] ∧ stub ∈ p.stubs ∧ stub.texts = ["guest", "host"] ∧ stub.tables.length = 1 ∧
      ∃ a ∈ s.arguments, a.expression = .named "host" := by
  have hc : convert [] "visits" (some visitFeature) = .ok (plan [] "visits" visitFeature) :=
    convert_some_eq_ok_iff.2 ⟨by decide +kernel, rfl⟩
  obtain ⟨htakes, hsteps⟩ := placeholders_of_convert hc
  obtain ⟨s, rest, ⟨htext, hs⟩, hrest, hall⟩ := List.forall₂_cons_left_iff.1 hsteps
  obtain rfl := List.forall₂_nil_left_iff.1 hrest
  obtain ⟨stub, hstub, hfills⟩ := hs rfl
  obtain ⟨x, hx, htake⟩ := htakes stub hstub
  have hkey : stub.key = (.action, visitLine.text) := hfills.calls.key
  have hstubText : stub.text = visitLine.text := congrArg Prod.snd hkey
  have hstepText : s.text = visitLine.text := htext
  have hhas : x.line.hasTable = true := by
    have hall : ∀ y ∈ convertedLines (some visitFeature), y.line.hasTable = true := by
      decide +kernel
    exact hall x (List.mem_of_find?_eq_some hx)
  refine ⟨_, s, stub, hc, hall, hstub, ?_, ?_, ?_⟩
  · rw [htake.texts, hstubText]
    decide +kernel
  · rw [htake.tables, if_pos hhas]
  · have hhost : "host" ∈ placeholders s.text ∧
        firstNamed? s.text (parameterName "host") = some "host" := by
      rw [hstepText]
      decide +kernel
    obtain ⟨a, ha, hexpression⟩ :=
      (hfills.columns "host" hhost.1 "host" (by decide +kernel)).2 hhost.2
    exact ⟨a, List.mem_of_mem_take ha, hexpression⟩

/-- The stub for two placeholders of one name has one parameter for them, and the call of it passes
the column of the first one only. -/
theorem greetingFeature_loses_placeholder : ∃ p stub s,
    convert [] "greetings" (some greetingFeature) = .ok p ∧ p.stubs = [stub] ∧ p.allSteps = [s] ∧
      s.method = stub.method ∧ placeholders s.text = ["a b", "a-b"] ∧
      stub.parameters = [⟨.text, "a_b"⟩] ∧
      p.scenarios.map (fun q => q.parameters.map (·.name)) = [["a_b", "a_b2"]] ∧
      s.arguments = [⟨"<a b>", .named "a_b"⟩] := by
  have hc : convert [] "greetings" (some greetingFeature) =
      .ok (plan [] "greetings" greetingFeature) :=
    convert_some_eq_ok_iff.2 ⟨by decide +kernel, rfl⟩
  refine ⟨_, ⟨.action, "<a b> meets \"<a-b>\"", "ABMeetsAB", [⟨.text, "a_b"⟩]⟩,
    ⟨"When", "<a b> meets \"<a-b>\"", selfOwner, "ABMeetsAB", [⟨"<a b>", .named "a_b"⟩], none⟩,
    hc, ?_, ?_, rfl, ?_, rfl, ?_, rfl⟩
  · decide +kernel
  · decide +kernel
  · decide +kernel
  · decide +kernel

end Acceptance.Plan
