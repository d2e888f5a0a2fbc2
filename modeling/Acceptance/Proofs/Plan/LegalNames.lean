import Acceptance.Proofs.Plan.Outlines
import Acceptance.Proofs.Plan.OutputPath
import Acceptance.Proofs.Plan.Stubs

/-!
# Invented names are legal

What a name keeps of a text may stand in an identifier; an underscore in front opens one, and
neither an underscore nor a number behind undoes that.  No reserved word ends in either, so a name
that is told apart from others stays free.  The methods of the scenarios are told apart in the
order of the document; the plan has them in another order, but no others.

    (∀ c ∈ cs, isIdentifierPart c) → cs ≠ [] → the closed and opened cs is legal   (legalName_closed)
    LegalName reserved s → LegalName reserved (numbered s n)                     (LegalName.numbered)
    convert c fileName d = .ok p → p.LegalNames                               (legalNames_of_convert)
-/

namespace Acceptance.Plan

open Acceptance.Text

/-! ## Algorithm -/

/-- An identifier that is none of some words. -/
structure LegalName (reserved : String → Bool) (s : String) : Prop where
  identifier : isIdentifier s = true
  free : reserved s = false

/-- Parameters with legal names that differ, none of which hides the object. -/
structure LegalParameters (ps : List Parameter) : Prop where
  legal : ∀ x ∈ ps, LegalName isReserved x.name
  notSelf : ∀ x ∈ ps, x.name ≠ selfOwner
  distinct : (ps.map (·.name)).Nodup

/-- A plan whose invented names may stand in a test module, in every place where they must differ
no two the same. -/
structure LegalNames (p : Plan) : Prop where
  testClass : LegalName isReserved ("Test" ++ p.className)
  methods : ∀ q ∈ p.scenarios, LegalName isReserved ("test_" ++ q.method)
  distinctMethods : (p.scenarios.map (·.method)).Nodup
  stubs : ∀ s ∈ p.stubs, LegalName isReserved s.method
  distinctStubs : (p.stubs.map (·.method)).Nodup
  parameters : ∀ q ∈ p.scenarios, LegalParameters q.parameters
  stubParameters : ∀ s ∈ p.stubs, LegalParameters s.parameters

/-- Characters that may all stand in an identifier. -/
def OfParts (cs : List Char) : Prop := ∀ c ∈ cs, isIdentifierPart c = true

/-- Words that end in a letter each. -/
def EndInLetters (reserved : String → Bool) : Prop :=
  ∀ s, reserved s = true → s.toList.getLast?.any Char.isAlpha = true

/-! ## Characters of names -/

theorem ofParts_of_all {cs : List Char} (h : cs.all isIdentifierPart = true) : OfParts cs :=
  List.all_eq_true.1 h

theorem OfParts.append {cs ds : List Char} (hc : OfParts cs) (hd : OfParts ds) :
    OfParts (cs ++ ds) := by
  intro c h
  rcases List.mem_append.1 h with h | h
  · exact hc c h
  · exact hd c h

theorem OfParts.of_subset {cs ds : List Char} (h : OfParts ds) (hsub : cs ⊆ ds) : OfParts cs :=
  fun c hc => h c (hsub hc)

theorem isIdentifierStart_underscore : isIdentifierStart '_' = true := by decide

theorem ofParts_underscore : OfParts ['_'] := by
  intro c hc
  rw [List.mem_singleton.1 hc]
  exact isIdentifierPart_of_start isIdentifierStart_underscore

theorem mem_digits {n : Nat} {c : Char} (h : c ∈ Decimal.digits n) :
    ∃ d : Fin 10, c = Decimal.digitChar d := by
  rw [Decimal.digits] at h
  split at h
  · next hn => exact ⟨⟨n, hn⟩, List.mem_singleton.1 h⟩
  · rcases List.mem_append.1 h with h | h
    · exact mem_digits h
    · exact ⟨⟨n % 10, Nat.mod_lt n (by omega)⟩, List.mem_singleton.1 h⟩
termination_by n
decreasing_by omega

theorem digitChar_spec : ∀ d : Fin 10, isIdentifierPart (Decimal.digitChar d) = true ∧
    (Decimal.digitChar d).isAlpha = false ∧ Decimal.digitChar d ≠ '_' := by
  decide

theorem ofParts_digits (n : Nat) : OfParts (Decimal.digits n) := by
  intro c hc
  obtain ⟨d, rfl⟩ := mem_digits hc
  exact (digitChar_spec d).1

theorem ofParts_joinedWords (text : String) : OfParts (joinedWords text) := by
  intro c hc
  obtain ⟨w, -, hc⟩ := List.mem_flatMap.1 hc
  have hw : OfParts (w.filter isIdentifierPart) := fun d hd => (List.mem_filter.1 hd).2
  cases hword : w.filter isIdentifierPart with
  | nil =>
    rw [hword] at hc
    cases hc
  | cons first rest =>
    rw [hword] at hc hw
    rcases List.mem_append.1 hc with hc | hc
    · exact (List.mem_filter.1 hc).2
    · exact hw c (List.mem_cons_of_mem _ hc)

theorem ofParts_orElse {cs other : List Char} (hc : OfParts cs) (ho : OfParts other) :
    OfParts (orElse cs other) :=
  fun c h => (mem_orElse h).elim (hc c) (ho c)

theorem orElse_ne_nil {cs other : List Char} (h : other ≠ []) : orElse cs other ≠ [] := by
  unfold orElse
  split
  · exact h
  · next hc => exact fun he => hc (by simp [he])

/-- No character of a piece parts pieces. -/
theorem not_gap_of_mem_pieces {p : Char → Bool} {cs : List Char} :
    ∀ piece ∈ pieces p cs, ∀ c ∈ piece, p c = false := by
  induction cs with
  | nil => simp [pieces]
  | cons c cs ih =>
    rw [pieces]
    split
    · exact List.forall_mem_cons.2 ⟨nofun, ih⟩
    · next hc =>
      have hc : p c = false := Bool.eq_false_iff.2 hc
      cases hp : pieces p cs with
      | nil =>
        intro piece hpiece
        rw [List.mem_singleton.1 hpiece]
        simpa using hc
      | cons piece others =>
        rw [hp] at ih
        obtain ⟨hfirst, hothers⟩ := List.forall_mem_cons.1 ih
        exact List.forall_mem_cons.2 ⟨List.forall_mem_cons.2 ⟨hc, hfirst⟩, hothers⟩

theorem ofParts_intercalate {sep : List Char} {words : List (List Char)} (hsep : OfParts sep)
    (hwords : ∀ w ∈ words, OfParts w) : OfParts (sep.intercalate words) := by
  cases words with
  | nil => exact nofun
  | cons w words =>
    rw [intercalate_cons]
    refine (hwords w List.mem_cons_self).append fun c hc => ?_
    obtain ⟨v, hv, hc⟩ := List.mem_flatMap.1 hc
    exact hsep.append (hwords v (List.mem_cons_of_mem _ hv)) c hc

/-! ## Opening and closing -/

theorem openName_identifier {cs : List Char} (h : OfParts cs) :
    isIdentifierList (openName cs) = true := by
  unfold openName
  split
  · assumption
  · simp only [isIdentifierList, Bool.and_eq_true, List.all_eq_true]
    exact ⟨isIdentifierStart_underscore, h⟩

theorem identifier_append {cs ds : List Char} (h : isIdentifierList cs = true) (hd : OfParts ds) :
    isIdentifierList (cs ++ ds) = true := by
  cases cs with
  | nil => cases h
  | cons c cs => exact isIdentifierList_cons_append h (List.all_eq_true.2 hd)

theorem free_of_last {reserved : String → Bool} (hletters : EndInLetters reserved) {s : String}
    {c : Char} (hlast : s.toList.getLast? = some c) (hc : c.isAlpha = false) :
    reserved s = false := by
  refine Bool.eq_false_iff.2 fun h => ?_
  have := hletters s h
  rw [hlast, Option.any_some, hc] at this
  cases this

/-- **Opened and closed, a name is legal.** -/
theorem legalName_closed {reserved : String → Bool} (hletters : EndInLetters reserved)
    {cs : List Char} (h : OfParts cs) :
    LegalName reserved (.ofList (closeName reserved (openName cs))) := by
  have hopened := openName_identifier h
  unfold closeName
  split
  · refine ⟨?_, free_of_last hletters (c := '_') (by simp) (by decide)⟩
    rw [isIdentifier, String.toList_ofList]
    exact identifier_append hopened ofParts_underscore
  · next hfree =>
    refine ⟨?_, Bool.eq_false_iff.2 hfree⟩
    rwa [isIdentifier, String.toList_ofList]

/-- **Numbers keep a name legal.** -/
theorem LegalName.numbered {reserved : String → Bool} (hletters : EndInLetters reserved) {s : String}
    (h : LegalName reserved s) (n : Nat) : LegalName reserved (numbered s n) := by
  cases n with
  | zero => exact h
  | succ n =>
    have hdigits : (Plan.numbered s (n + 1)).toList = s.toList ++ Decimal.digits (n + 2) := by
      simp [Plan.numbered, Decimal.text]
    refine ⟨?_, ?_⟩
    · rw [isIdentifier, hdigits]
      exact identifier_append h.identifier (ofParts_digits _)
    · cases hlast : (Decimal.digits (n + 2)).getLast? with
      | none => exact absurd (List.getLast?_eq_none_iff.1 hlast) (Decimal.digits_ne_nil _)
      | some c =>
        obtain ⟨d, rfl⟩ := mem_digits (List.mem_of_getLast? hlast)
        refine free_of_last hletters ?_ (digitChar_spec d).2.1
        rw [hdigits, List.getLast?_append, hlast]
        rfl

theorem reserved_endInLetters : EndInLetters isReserved := by
  have hwords : ∀ s ∈ reservedWords, s.toList.getLast?.any Char.isAlpha = true := by decide
  exact fun s h => hwords s (List.contains_iff_mem.1 h)

theorem noParameter_endInLetters : EndInLetters isNoParameter := by
  intro s h
  simp only [isNoParameter, Bool.or_eq_true, beq_iff_eq] at h
  rcases h with h | rfl
  · exact reserved_endInLetters s h
  · decide

theorem legalName_stubName (text : String) : LegalName isReserved (stubName text) :=
  legalName_closed reserved_endInLetters
    (ofParts_orElse (ofParts_joinedWords text) (ofParts_of_all (by decide)))

theorem legalName_parameterName (text : String) : LegalName isNoParameter (parameterName text) := by
  refine legalName_closed noParameter_endInLetters
    (ofParts_orElse ?_ (ofParts_of_all (by decide)))
  refine (ofParts_intercalate ofParts_underscore fun w hw c hc => ?_).of_subset
    (trimWhile_subset _ _)
  simpa using not_gap_of_mem_pieces w (List.mem_filter.1 hw).1 c hc

/-- A name behind a fixed start that opens an identifier and no reserved word. -/
theorem legalName_behind {start s : String} (hstart : isIdentifier start = true)
    (hfree : ∀ w ∈ reservedWords, ¬ start.toList <+: w.toList) (h : OfParts s.toList) :
    LegalName isReserved (start ++ s) := by
  refine ⟨?_, Bool.eq_false_iff.2 fun hr => ?_⟩
  · rw [isIdentifier, String.toList_append]
    exact identifier_append hstart h
  · refine hfree _ (List.contains_iff_mem.1 hr) ?_
    rw [String.toList_append]
    exact List.prefix_append _ _

/-! ## Methods of scenarios -/

/-- Planned scenarios whose methods differ from each other and from those given before. -/
structure FreshMethods (taken : List String) (qs : List Scenario) : Prop where
  distinct : (qs.map (·.method)).Nodup
  fresh : ∀ q ∈ qs, q.method ∉ taken
  named : ∀ q ∈ qs, ∃ s n, q.method = numbered (scenarioName s) n

section
variable {c : Catalog} {stubs : List Stub} {taken : List String} {qs rs : List Scenario}

theorem freshMethods_nil : FreshMethods taken [] := ⟨List.nodup_nil, nofun, nofun⟩

theorem FreshMethods.perm (h : FreshMethods taken qs) (hperm : qs.Perm rs) : FreshMethods taken rs :=
  ⟨(hperm.map _).nodup_iff.1 h.distinct, fun q hq => h.fresh q (hperm.mem_iff.2 hq),
    fun q hq => h.named q (hperm.mem_iff.2 hq)⟩

theorem FreshMethods.append (hq : FreshMethods taken qs)
    (hr : FreshMethods ((qs.map (·.method)).reverse ++ taken) rs) :
    FreshMethods taken (qs ++ rs) := by
  refine ⟨?_, fun q h => ?_, fun q h => ?_⟩
  · rw [List.map_append]
    refine hq.distinct.append hr.distinct (List.disjoint_left.2 fun m hm hm' => ?_)
    obtain ⟨r, hmem, rfl⟩ := List.mem_map.1 hm'
    exact hr.fresh r hmem (List.mem_append_left _ (List.mem_reverse.2 hm))
  · rcases List.mem_append.1 h with h | h
    · exact hq.fresh q h
    · exact fun hm => hr.fresh q h (List.mem_append_right _ hm)
  · rcases List.mem_append.1 h with h | h
    · exact hq.named q h
    · exact hr.named q h

theorem freshMethods_one (s : Gherkin.Scenario) :
    FreshMethods taken [planScenario c stubs (unique (scenarioName s) taken) s] := by
  obtain ⟨n, hn, -, -⟩ := unique_spec (scenarioName s) taken
  refine ⟨List.nodup_singleton _, fun q hq => ?_, fun q hq => ?_⟩
  · rw [List.mem_singleton.1 hq]
    exact unique_not_mem _ _
  · rw [List.mem_singleton.1 hq]
    exact ⟨s, n, hn⟩

theorem freshMethods_planScenarios (ss : List Gherkin.Scenario) :
    FreshMethods taken (planScenarios c stubs taken ss) := by
  induction ss generalizing taken with
  | nil => exact freshMethods_nil
  | cons s ss ih => exact (freshMethods_one s).append ih

theorem freshMethods_planChildren (children : List Gherkin.Child) :
    FreshMethods taken ((planChildren c stubs taken children).flatMap Planned.scenarios) := by
  induction children generalizing taken with
  | nil => exact freshMethods_nil
  | cons child rest ih =>
    cases child with
    | background b => exact ih
    | scenario s => exact (freshMethods_one s).append ih
    | rule r => exact (freshMethods_planScenarios (ruleScenarios r)).append ih

end

/-! ## Gathering -/

theorem perm_bare_ruled (planned : List Planned) :
    (planned.flatMap Planned.scenarios).Perm
      (planned.filterMap Planned.bare? ++ (planned.filterMap Planned.rule?).flatMap (·.scenarios)) := by
  induction planned with
  | nil => exact .refl _
  | cons x planned ih =>
    cases x with
    | bare s => exact ih.cons s
    | rule r => exact (ih.append_left r.scenarios).trans (List.perm_append_comm_assoc ..)

theorem perm_gather (bare : List Scenario) (planned : List Planned) :
    ((gather bare planned).flatMap (·.scenarios)).Perm
      ((if planned.filterMap Planned.bare? = [] then [] else bare) ++
        (planned.filterMap Planned.rule?).flatMap (·.scenarios)) := by
  induction planned with
  | nil => exact .refl _
  | cons x planned ih =>
    cases x with
    | bare s => exact .refl _
    | rule r => exact (ih.append_left r.scenarios).trans (List.perm_append_comm_assoc ..)

/-- **Gathering keeps the scenarios.** -/
theorem perm_gather_scenarios (planned : List Planned) :
    ((gather (planned.filterMap Planned.bare?) planned).flatMap (·.scenarios)).Perm
      (planned.flatMap Planned.scenarios) := by
  have hbare : (if planned.filterMap Planned.bare? = [] then []
      else planned.filterMap Planned.bare?) = planned.filterMap Planned.bare? := by
    split
    · next h => exact h.symm
    · rfl
  have hgather := perm_gather (planned.filterMap Planned.bare?) planned
  rw [hbare] at hgather
  exact hgather.trans (perm_bare_ruled planned).symm

theorem freshMethods_plan (c : Catalog) (fileName : String) (f : Gherkin.Feature) :
    FreshMethods [] (plan c fileName f).scenarios :=
  (freshMethods_planChildren f.children).perm (perm_gather_scenarios _).symm

theorem ofParts_method {q : Scenario} {s : Gherkin.Scenario} {n : Nat}
    (h : q.method = numbered (scenarioName s) n) : OfParts q.method.toList := by
  have hname : OfParts (scenarioName s).toList := by
    rw [scenarioName, String.toList_ofList]
    exact ofParts_orElse (ofParts_joinedWords _) (ofParts_of_all (by decide))
  rw [h]
  cases n with
  | zero => exact hname
  | succ n =>
    rw [numbered, String.toList_append, Decimal.text, String.toList_ofList]
    exact hname.append (ofParts_digits _)

/-! ## Stubs -/

/-- A stub as one of its lines asks for it, under the first free name. -/
def Stub.Made (s : Stub) : Prop :=
  (∃ n, s.method = numbered (stubName s.text) n) ∧
    ∃ hasTable, s.parameters = stubParameters s.text hasTable

theorem made_add {stubs : List Stub} (h : ∀ s ∈ stubs, s.Made) (l : Occurrence) :
    ∀ s ∈ Stub.add stubs l, s.Made := by
  unfold Stub.add
  split
  · exact h
  · obtain ⟨n, hn, -, -⟩ := unique_spec (stubName l.line.text) (stubs.map (·.method))
    intro s hs
    rcases List.mem_append.1 hs with hs | hs
    · exact h s hs
    · rw [List.mem_singleton.1 hs]
      exact ⟨⟨n, hn⟩, l.hasTable, rfl⟩

theorem made_of_mem_collect {c : Catalog} {ls : List Occurrence} :
    ∀ s ∈ Stub.collect c ls, s.Made := by
  have hfold : ∀ (ls : List Occurrence) (stubs : List Stub), (∀ s ∈ stubs, s.Made) →
      ∀ s ∈ ls.foldl Stub.add stubs, s.Made := by
    intro ls
    induction ls with
    | nil => exact fun _ h => h
    | cons l ls ih => exact fun stubs h => ih _ (made_add h l)
  exact hfold _ [] nofun

/-! ## Parameters -/

theorem distinctReferences_subset (rs : List Reference) : distinctReferences rs ⊆ rs := by
  induction rs with
  | nil => exact List.Subset.refl _
  | cons r rs ih =>
    exact List.cons_subset_cons _ fun x hx => ih (List.mem_filter.1 hx).1

theorem nodup_distinctReferences (rs : List Reference) :
    ((distinctReferences rs).map (·.parameter)).Nodup := by
  induction rs with
  | nil => exact List.nodup_nil
  | cons r rs ih =>
    rw [distinctReferences, List.map_cons, List.nodup_cons]
    refine ⟨fun h => ?_, ih.sublist (List.filter_sublist.map _)⟩
    obtain ⟨x, hx, he⟩ := List.mem_map.1 h
    simpa [he] using (List.mem_filter.1 hx).2

theorem LegalName.parameter {s : String} (h : LegalName isNoParameter s) :
    LegalName isReserved s ∧ s ≠ selfOwner := by
  have hfree := h.free
  simp only [isNoParameter, Bool.or_eq_false_iff, beq_eq_false_iff_ne] at hfree
  exact ⟨⟨h.identifier, hfree.1⟩, hfree.2⟩

theorem legalParameters_of_names {ps : List Parameter}
    (h : ∀ x ∈ ps, LegalName isNoParameter x.name) (hdistinct : (ps.map (·.name)).Nodup) :
    LegalParameters ps :=
  ⟨fun x hx => (h x hx).parameter.1, fun x hx => (h x hx).parameter.2, hdistinct⟩

theorem legalParameters_stub (text : String) (hasTable : Bool) :
    LegalParameters (stubParameters text hasTable) := by
  generalize htexts : (references text).map (fun r => (⟨.text, r.parameter⟩ : Parameter)) = texts
  have hlegal : ∀ x ∈ texts, LegalName isNoParameter x.name := by
    intro x hx
    rw [← htexts] at hx
    obtain ⟨r, hr, rfl⟩ := List.mem_map.1 hx
    obtain ⟨cs, -, rfl⟩ := List.mem_map.1 (distinctReferences_subset _ hr)
    exact legalName_parameterName _
  have hdistinct : (texts.map (·.name)).Nodup := by
    rw [← htexts, List.map_map]
    exact nodup_distinctReferences _
  unfold stubParameters
  simp only [htexts]
  split
  · obtain ⟨n, hn, -, -⟩ := unique_spec "table" (texts.map (·.name))
    have htable : LegalName isNoParameter "table" := ⟨by decide, by decide⟩
    refine legalParameters_of_names (fun x hx => ?_) ?_
    · rcases List.mem_append.1 hx with hx | hx
      · exact hlegal x hx
      · rw [List.mem_singleton.1 hx, hn]
        exact htable.numbered noParameter_endInLetters n
    · rw [List.map_append, List.map_singleton]
      refine hdistinct.append (List.nodup_singleton _) (List.disjoint_left.2 fun m hm hm' => ?_)
      rw [List.mem_singleton.1 hm'] at hm
      exact unique_not_mem _ _ hm
  · exact legalParameters_of_names hlegal hdistinct

theorem exists_numbered_of_mem_uniqueAll {names : List String} {m : String} (h : m ∈ uniqueAll names) :
    ∃ name ∈ names, ∃ n, m = numbered name n := by
  have hnumbered := (uniqueFrom_spec [] names).2.2
  have hlen := hnumbered.length_eq
  obtain ⟨i, hi, rfl⟩ := List.mem_iff_getElem.1 (show m ∈ uniqueFrom [] names from h)
  exact ⟨names[i], List.getElem_mem _, hnumbered.get (hlen ▸ hi) hi⟩

theorem legalName_outlineOf (examples : List Gherkin.Examples) :
    ∀ k ∈ outlineOf examples, LegalName isNoParameter k.parameter := by
  intro k hk
  have hmem : k.parameter ∈ (outlineOf examples).map (·.parameter) := List.mem_map_of_mem hk
  rw [parameters_outlineOf] at hmem
  obtain ⟨name, hname, n, hnumbered⟩ := exists_numbered_of_mem_uniqueAll hmem
  obtain ⟨header, -, rfl⟩ := List.mem_map.1 hname
  exact hnumbered ▸ (legalName_parameterName header).numbered noParameter_endInLetters n

theorem legalParameters_planScenario (c : Catalog) (stubs : List Stub) (method : String)
    (s : Gherkin.Scenario) : LegalParameters (planScenario c stubs method s).parameters := by
  refine legalParameters_of_names (fun x hx => ?_) ?_
  · obtain ⟨k, hk, rfl⟩ := List.mem_map.1 hx
    exact legalName_outlineOf s.examples k hk
  · have hdistinct := (uniqueFrom_spec [] ((headerOf s.examples).map parameterName)).2.1
    rw [planScenario_parameters, List.map_map]
    simpa [Function.comp_def, uniqueAll] using hdistinct

/-! ## Top theorem -/

theorem ofParts_classNameOf (featureName fileName : String) :
    OfParts (classNameOf featureName fileName).toList := by
  rw [classNameOf, String.toList_ofList]
  exact ofParts_orElse (ofParts_orElse (ofParts_joinedWords _) (ofParts_joinedWords _))
    (ofParts_of_all (by decide))

/-- **Every invented name is legal.**  The names of the test class, of the test methods, of the
stubs and of all parameters are identifiers and no reserved words, and differ where they have to. -/
theorem legalNames_of_convert {c : Catalog} {fileName : String} {d : Gherkin.Document} {p : Plan}
    (h : convert c fileName d = .ok p) : p.LegalNames := by
  have hclass : ∀ name : String, OfParts name.toList → LegalName isReserved ("Test" ++ name) :=
    fun _ => legalName_behind (by decide) (by decide)
  cases d with
  | none =>
    obtain rfl := Except.ok.inj h
    exact ⟨hclass _ nofun, nofun, List.nodup_nil, nofun, List.nodup_nil, nofun, nofun⟩
  | some f =>
    obtain ⟨-, rfl⟩ := convert_some_eq_ok_iff.1 h
    have hmethods := freshMethods_plan c fileName f
    have hmade : ∀ s ∈ (plan c fileName f).stubs, s.Made := made_of_mem_collect
    refine ⟨hclass _ (ofParts_classNameOf _ _), fun q hq => ?_, hmethods.distinct, fun s hs => ?_,
      (stubsOf_collect c (allOccurrences f)).methods, fun q hq => ?_, fun s hs => ?_⟩
    · obtain ⟨s, n, hn⟩ := hmethods.named q hq
      exact legalName_behind (by decide) (by decide) (ofParts_method hn)
    · obtain ⟨⟨n, hn⟩, -⟩ := hmade s hs
      rw [hn]
      exact (legalName_stubName s.text).numbered reserved_endInLetters n
    · obtain ⟨s, -, method, rfl⟩ := exists_scenario_of_mem hq
      exact legalParameters_planScenario c _ method s
    · obtain ⟨-, hasTable, hparameters⟩ := hmade s hs
      rw [hparameters]
      exact legalParameters_stub s.text hasTable

/-- A table of values under columns that are no names as they stand. -/
def oddExamples : Gherkin.Examples :=
  ⟨[], "Examples", "", "", some [⟨some "class"⟩, ⟨some "self"⟩, ⟨some "2 b"⟩],
    [[⟨some "x"⟩, ⟨some "y"⟩, ⟨some "z"⟩]]⟩

def oddScenario : Gherkin.Scenario :=
  { tags := [], keyword := "Scenario Outline", name := "not to be", description := "",
    steps := [⟨"Given ", .kind .context, "none", none⟩, ⟨"When ", .kind .action, "none", none⟩,
      ⟨"Then ", .kind .outcome, "3 items for <self>", some [[⟨some "item"⟩]]⟩],
    examples := [oddExamples] }

/-- One scenario twice, whose texts ask for reserved words. -/
def oddFeature : Gherkin.Feature :=
  { tags := [], language := "en", keyword := "Feature", name := "½", description := "",
    children := [.scenario oddScenario, .scenario oddScenario] }

theorem oddFeature_legalNames :
    ∃ p, convert [] "if" (some oddFeature) = .ok p ∧ p.LegalNames ∧ p.className = "If" ∧
      p.scenarios.map (·.method) = ["NotToBe", "NotToBe2"] ∧
      p.stubs.map (·.method) = ["None_", "None_2", "_3ItemsForSelf"] := by
  have hc : convert [] "if" (some oddFeature) = .ok (plan [] "if" oddFeature) :=
    convert_some_eq_ok_iff.2 ⟨by decide +kernel, rfl⟩
  refine ⟨_, hc, legalNames_of_convert hc, ?_⟩
  decide +kernel

end Acceptance.Plan
