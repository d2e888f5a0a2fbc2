import Acceptance.Proofs.Plan.LegalNames
import Acceptance.Text.Compose

/-!
# Attributes of the test class

The class of a test module has the method that sets up a test, a method for each scenario and one
for each stub; setting up gives every test an object for each step class, under the name of that
class.  Names of stubs keep no underscore of their text, so they are neither `_setup` nor like the
methods of scenarios.  Names of step classes are free, and an object hides a method of its name.
Two spellings of a name with one normal form stand for the same attribute.

    the names differ ↔ no step class has the name of a method
    a stub is reached under its name ↔ no step class has that name         (attributes_of_convert)
-/

namespace Acceptance.Plan

open Acceptance.Text

/-! ## Algorithm -/

/-- What the test class has under a name. -/
inductive Attribute where
  | setup
  | test (q : Scenario)
  | stub (s : Stub)
  /-- The object of a step class. -/
  | object (className : String)
  deriving Repr, DecidableEq

/-- The methods of the test class in the order of the module. -/
def methods (p : Plan) : List (String × Attribute) :=
  [("_setup", .setup)] ++ p.scenarios.map (fun q => ("test_" ++ q.method, .test q)) ++
    p.stubs.map fun s => (s.method, .stub s)

/-- The step objects that setting up a test gives it. -/
def objects (p : Plan) : List (String × Attribute) := p.classes.map fun c => (c, .object c)

/-- All attributes, those that hide others behind them. -/
def attributes (p : Plan) : List (String × Attribute) := p.methods ++ p.objects

/-- The last attribute in a list under any spelling of a name. -/
def lastUnder? (xs : List (String × Attribute)) (name : String) : Option Attribute :=
  (xs.reverse.find? fun x => normalForm x.1 == normalForm name).map (·.2)

/-- What a test finds under a name. -/
def reach (p : Plan) (name : String) : Option Attribute := lastUnder? p.attributes name

/-- No attribute has another spelling of a name. -/
def OneSpelling (p : Plan) (name : String) : Prop :=
  ∀ x ∈ p.attributes, normalForm x.1 = normalForm name → x.1 = name

/-! ## Upper case -/

theorem toNat_ofNat_eq {n m : Nat} (hm : 0 < m) (h : (Char.ofNat n).toNat = m) : n = m := by
  by_cases hvalid : n.isValidChar
  · have hchar : Char.ofNat n = Char.ofNatAux n hvalid := dif_pos hvalid
    rw [hchar] at h
    exact h
  · have hchar : Char.ofNat n = '\x00' := dif_neg hvalid
    rw [hchar] at h
    exact absurd h (Nat.ne_of_lt hm)

theorem upperRuns_within : ∀ r ∈ upperRuns,
    r.2.2.2 + (r.2.1 - r.1) < '_'.toNat ∨ '_'.toNat < r.2.2.2 := by
  decide +kernel

/-- Upper case makes no underscore. -/
theorem eq_of_underscore_mem_upperChar {c : Char} (h : '_' ∈ upperChar c) : c = '_' := by
  have hexpansions : ∀ e ∈ upperExpansions, ∀ n ∈ e.2, n ≠ '_'.toNat := by decide
  unfold upperChar mapCase at h
  split at h
  · next codes hc =>
    obtain ⟨e, he, rfl⟩ := Option.map_eq_some_iff.1 hc
    obtain ⟨n, hn, heq⟩ := List.mem_map.1 h
    exact absurd (toNat_ofNat_eq (by decide) (congrArg Char.toNat heq))
      (hexpansions e (List.mem_of_find?_eq_some he) n hn)
  · have himage : upperRuns.image c.toNat = '_'.toNat :=
      toNat_ofNat_eq (by decide) (congrArg Char.toNat (List.mem_singleton.1 h)).symm
    rcases CaseRuns.image_eq_or_within upperRuns c.toNat with hi | ⟨r, hr, hfrom, hto⟩
    · rw [hi] at himage
      rw [← Char.ofNat_toNat c, himage]
      rfl
    · have := upperRuns_within r hr
      omega

/-! ## Names of stubs -/

theorem underscore_not_mem_joinedWords (text : String) : '_' ∉ joinedWords text := by
  intro h
  obtain ⟨w, hw, h⟩ := List.mem_flatMap.1 h
  have hword : ∀ c ∈ w.filter isIdentifierPart, c ≠ '_' := by
    rintro c hc rfl
    have := not_gap_of_mem_pieces w (List.mem_filter.1 hw).1 '_' (List.mem_filter.1 hc).1
    simp [isWordGap] at this
  cases hf : w.filter isIdentifierPart with
  | nil =>
    rw [hf] at h
    cases h
  | cons first rest =>
    rw [hf] at h hword
    rcases List.mem_append.1 h with h | h
    · exact hword first List.mem_cons_self
        (eq_of_underscore_mem_upperChar (List.mem_filter.1 h).1)
    · exact hword '_' (List.mem_cons_of_mem _ h) rfl

/-- What stands behind the text of a name: the mark of a reserved word and a number. -/
structure Tail (tail : List Char) : Prop where
  plain : ∀ c ∈ tail, c = '_' ∨ ∃ d : Fin 10, c = Decimal.digitChar d

/-- A name of a stub is the text of a name with a tail; only reserved words are marked. -/
theorem exists_stub_chars (text : String) (n : Nat) : ∃ cs tail, cs ≠ [] ∧ '_' ∉ cs ∧ Tail tail ∧
    (numbered (stubName text) n).toList = openName cs ++ tail ∧
    (isReserved (.ofList (openName cs)) = false → '_' ∉ tail) := by
  have hnumber : ∃ ds : List Char, (∀ c ∈ ds, ∃ d : Fin 10, c = Decimal.digitChar d) ∧
      (numbered (stubName text) n).toList = (stubName text).toList ++ ds := by
    cases n with
    | zero => exact ⟨[], List.forall_mem_nil _, by simp [numbered]⟩
    | succ n =>
      exact ⟨Decimal.digits (n + 2), fun c hc => mem_digits hc, by simp [numbered, Decimal.text]⟩
  obtain ⟨ds, hds, hchars⟩ := hnumber
  have hdigits : '_' ∉ ds := by
    intro hm
    obtain ⟨d, hd⟩ := hds _ hm
    exact (digitChar_spec d).2.2 hd.symm
  have hbase : '_' ∉ orElse (joinedWords text) "Step".toList := fun hm =>
    (mem_orElse hm).elim (underscore_not_mem_joinedWords text) (by decide)
  rw [hchars, stubName, String.toList_ofList, closeName]
  by_cases hr : isReserved (.ofList (openName (orElse (joinedWords text) "Step".toList))) = true
  · rw [if_pos hr]
    refine ⟨_, '_' :: ds, orElse_ne_nil (by decide), hbase, ⟨fun c hc => ?_⟩, by simp, ?_⟩
    · exact (List.mem_cons.1 hc).imp id (hds c)
    · exact fun hfree => absurd (hr.symm.trans hfree) (by decide)
  · rw [if_neg hr]
    exact ⟨_, ds, orElse_ne_nil (by decide), hbase, ⟨fun c hc => .inr (hds c hc)⟩, rfl,
      fun _ => hdigits⟩

/-- A word that ends in a letter has no tail. -/
theorem Tail.eq_nil {cs tail word : List Char} (h : Tail tail) (hword : cs ++ tail = word)
    (hletter : word.getLast?.any Char.isAlpha = true) : tail = [] := by
  cases hlast : tail.getLast? with
  | none => exact List.getLast?_eq_none_iff.1 hlast
  | some c =>
    rw [← hword, List.getLast?_append, hlast, Option.some_or, Option.any_some] at hletter
    rcases h.plain c (List.mem_of_getLast? hlast) with rfl | ⟨d, rfl⟩
    · cases hletter
    · rw [(digitChar_spec d).2.1] at hletter
      cases hletter

theorem Tail.takeWhile {tail : List Char} (h : Tail tail) (p : Char → Bool) :
    Tail (tail.takeWhile p) :=
  ⟨fun c hc => h.plain c (List.takeWhile_subset p hc)⟩

/-- **A stub is not named like what sets up a test.** -/
theorem stub_ne_setup (text : String) (n : Nat) : numbered (stubName text) n ≠ "_setup" := by
  intro h
  obtain ⟨cs, tail, hne, hbase, htail, hchars, -⟩ := exists_stub_chars text n
  rw [h] at hchars
  have hletter : "_setup".toList.getLast?.any Char.isAlpha = true := by decide
  obtain rfl := htail.eq_nil hchars.symm hletter
  rw [List.append_nil] at hchars
  unfold openName at hchars
  split at hchars
  · exact hbase (hchars ▸ by decide)
  · next hid =>
    have hcs : "setup".toList = cs := (List.cons.inj hchars).2
    exact hid (hcs ▸ by decide)

/-- **A stub is not named like the method of a scenario.** -/
theorem stub_ne_test (text : String) (n : Nat) (method : String) :
    numbered (stubName text) n ≠ "test_" ++ method := by
  intro h
  obtain ⟨cs, tail, -, hbase, htail, hchars, hmark⟩ := exists_stub_chars text n
  rw [h, String.toList_append] at hchars
  have hopen : openName cs = cs := by
    unfold openName at hchars ⊢
    split
    · rfl
    · next hid =>
      rw [if_neg hid] at hchars
      cases hchars
  rw [hopen] at hchars hmark
  -- up to the first underscore stand the text and what of the tail is a number
  have hplain : ∀ c ∈ cs, (c != '_') = true :=
    fun c hc => bne_iff_ne.2 fun he => hbase (he ▸ hc)
  have hfirst : cs ++ tail.takeWhile (· != '_') = "test".toList := by
    rw [← List.takeWhile_append_of_pos hplain, ← hchars]
    rfl
  have hnumber := (htail.takeWhile _).eq_nil hfirst (by decide)
  rw [hnumber, List.append_nil] at hfirst
  subst hfirst
  have hrest : "test".toList ++ '_' :: method.toList = "test".toList ++ tail := hchars
  exact hmark (by decide) (List.append_cancel_left hrest ▸ List.mem_cons_self)

/-! ## Names of methods -/

section
variable {c : Catalog} {fileName : String} {d : Gherkin.Document} {p : Plan}

theorem made_of_convert (h : convert c fileName d = .ok p) : ∀ s ∈ p.stubs, s.Made := by
  cases d with
  | none =>
    obtain rfl := Except.ok.inj h
    exact nofun
  | some f =>
    obtain ⟨-, rfl⟩ := convert_some_eq_ok_iff.1 h
    exact made_of_mem_collect

theorem nodup_distinct (ss : List String) : (distinct ss).Nodup := by
  induction ss with
  | nil => exact List.nodup_nil
  | cons s ss ih => exact List.nodup_cons.2 ⟨by simp, ih.filter _⟩

theorem nodup_classes (h : convert c fileName d = .ok p) : p.classes.Nodup := by
  cases d with
  | none =>
    obtain rfl := Except.ok.inj h
    exact List.nodup_nil
  | some f =>
    obtain ⟨-, rfl⟩ := convert_some_eq_ok_iff.1 h
    exact nodup_distinct _

theorem map_methods (p : Plan) : p.methods.map (·.1) =
    "_setup" :: ((p.scenarios.map (·.method)).map ("test_" ++ ·) ++ p.stubs.map (·.method)) := by
  simp [methods, Function.comp_def]

/-- **The methods of the test class have different names.** -/
theorem nodup_methods (h : convert c fileName d = .ok p) : (p.methods.map (·.1)).Nodup := by
  have hlegal := legalNames_of_convert h
  have hmade := made_of_convert h
  have htests : ((p.scenarios.map (·.method)).map ("test_" ++ ·)).Nodup :=
    hlegal.distinctMethods.map fun m n he => (String.append_right_inj "test_").1 he
  rw [map_methods]
  refine List.nodup_cons.2 ⟨fun hsetup => ?_, htests.append hlegal.distinctStubs ?_⟩
  · rcases List.mem_append.1 hsetup with hm | hm
    · obtain ⟨m, -, he⟩ := List.mem_map.1 hm
      have hchars : "test_".toList ++ m.toList = "_setup".toList := by
        rw [← String.toList_append, he]
      cases hchars
    · obtain ⟨s, hs, he⟩ := List.mem_map.1 hm
      obtain ⟨⟨n, hn⟩, -⟩ := hmade s hs
      exact stub_ne_setup s.text n (hn.symm.trans he)
  · refine List.disjoint_left.2 fun m htest hstub => ?_
    obtain ⟨method, -, rfl⟩ := List.mem_map.1 htest
    obtain ⟨s, hs, he⟩ := List.mem_map.1 hstub
    obtain ⟨⟨n, hn⟩, -⟩ := hmade s hs
    exact stub_ne_test s.text n method (hn.symm.trans he)

end

/-! ## Reaching attributes -/

theorem lastUnder?_append (xs ys : List (String × Attribute)) (name : String) :
    lastUnder? (xs ++ ys) name = (lastUnder? ys name).or (lastUnder? xs name) := by
  simp [lastUnder?, Option.map_or]

theorem exists_of_lastUnder? {xs : List (String × Attribute)} {name : String} {a : Attribute}
    (h : lastUnder? xs name = some a) :
    ∃ x ∈ xs, normalForm x.1 = normalForm name ∧ x.2 = a := by
  obtain ⟨x, hx, ha⟩ := Option.map_eq_some_iff.1 h
  exact ⟨x, List.mem_reverse.1 (List.mem_of_find?_eq_some hx), by simpa using List.find?_some hx, ha⟩

theorem not_lastUnder?_none {xs : List (String × Attribute)} {x : String × Attribute} (hx : x ∈ xs) :
    lastUnder? xs x.1 ≠ none := by
  intro h
  have := List.find?_eq_none.1 (Option.map_eq_none_iff.1 h) x (List.mem_reverse.2 hx)
  simp at this

/-- An attribute is found under its name where all others that are spelled like it agree with it. -/
theorem lastUnder?_eq {xs : List (String × Attribute)} {x : String × Attribute} (hx : x ∈ xs)
    (h : ∀ y ∈ xs, normalForm y.1 = normalForm x.1 → y.2 = x.2) : lastUnder? xs x.1 = some x.2 := by
  cases hl : lastUnder? xs x.1 with
  | none => exact absurd hl (not_lastUnder?_none hx)
  | some a =>
    obtain ⟨y, hy, hname, rfl⟩ := exists_of_lastUnder? hl
    rw [h y hy hname]

theorem mem_objects {p : Plan} {x : String × Attribute} :
    x ∈ p.objects ↔ x.1 ∈ p.classes ∧ x.2 = .object x.1 := by
  obtain ⟨name, a⟩ := x
  simp only [objects, List.mem_map, Prod.mk.injEq]
  constructor
  · rintro ⟨c, hc, rfl, rfl⟩
    exact ⟨hc, rfl⟩
  · rintro ⟨hc, rfl⟩
    exact ⟨name, hc, rfl, rfl⟩

theorem not_object_of_mem_methods {p : Plan} {x : String × Attribute} (hx : x ∈ p.methods)
    (name : String) : x.2 ≠ .object name := by
  simp only [methods, List.mem_append, List.mem_singleton, List.mem_map] at hx
  rcases hx with (rfl | ⟨q, -, rfl⟩) | ⟨s, -, rfl⟩ <;> exact nofun

section
variable {c : Catalog} {fileName : String} {d : Gherkin.Document} {p : Plan}

/-- A step object is found behind no other attribute. -/
theorem reach_class {name : String} (hname : name ∈ p.classes) (hone : OneSpelling p name) :
    reach p name = some (.object name) := by
  have hmem : (name, Attribute.object name) ∈ p.objects := mem_objects.2 ⟨hname, rfl⟩
  have hobject : lastUnder? p.objects name = some (.object name) := by
    refine lastUnder?_eq (x := (name, .object name)) hmem fun y hy he => ?_
    rw [(mem_objects.1 hy).2, hone y (List.mem_append_right _ hy) he]
  rw [reach, attributes, lastUnder?_append, hobject, Option.some_or]

/-- A stub is found unless a step object hides it. -/
theorem reach_stub (h : convert c fileName d = .ok p) {s : Stub} (hs : s ∈ p.stubs)
    (hone : OneSpelling p s.method) : reach p s.method = some (.stub s) ↔ s.method ∉ p.classes := by
  have hmem : (s.method, Attribute.stub s) ∈ p.methods :=
    List.mem_append_right _ (List.mem_map_of_mem hs)
  constructor
  · intro hreach hclass
    rw [reach_class hclass hone] at hreach
    cases hreach
  · intro hclass
    refine lastUnder?_eq (x := (s.method, .stub s)) (List.mem_append_left _ hmem) fun y hy he => ?_
    have hname := hone y hy he
    rcases List.mem_append.1 hy with hy | hy
    · exact congrArg Prod.snd (List.inj_on_of_nodup_map (nodup_methods h) hy hmem hname)
    · exact absurd (hname ▸ (mem_objects.1 hy).1) hclass

theorem nodup_names_iff (h : convert c fileName d = .ok p) :
    (p.attributes.map (·.1)).Nodup ↔ ∀ C ∈ p.classes, C ∉ p.methods.map (·.1) := by
  have hobjects : p.objects.map (·.1) = p.classes := by simp [objects, Function.comp_def]
  rw [attributes, List.map_append, List.nodup_append', hobjects]
  constructor
  · rintro ⟨-, -, hdisjoint⟩ C hC hm
    exact hdisjoint hm hC
  · intro hfree
    exact ⟨nodup_methods h, nodup_classes h, fun m hm hC => hfree m hC hm⟩

/-- No two attributes are the same. -/
theorem nodup_values (h : convert c fileName d = .ok p) : (p.attributes.map (·.2)).Nodup := by
  have hmethods : (p.methods.map (·.2)).Nodup := by
    refine (nodup_methods h).of_map.map_on fun x hx y hy he => ?_
    simp only [methods, List.mem_append, List.mem_singleton, List.mem_map] at hx hy
    rcases hx with (rfl | ⟨q, -, rfl⟩) | ⟨s, -, rfl⟩ <;>
      rcases hy with (rfl | ⟨q', -, rfl⟩) | ⟨s', -, rfl⟩ <;> cases he <;> rfl
  have hobjects : (p.objects.map (·.2)).Nodup := by
    rw [objects, List.map_map]
    exact (nodup_classes h).map fun C D he => Attribute.object.inj he
  rw [attributes, List.map_append]
  refine hmethods.append hobjects fun a hm ho => ?_
  obtain ⟨x, hx, rfl⟩ := List.mem_map.1 hm
  obtain ⟨y, hy, he⟩ := List.mem_map.1 ho
  exact not_object_of_mem_methods hx y.1 (he.symm.trans (mem_objects.1 hy).2)

/-- Every attribute is found just where no two are spellings of one name. -/
theorem reach_all_iff (h : convert c fileName d = .ok p) :
    (∀ x ∈ p.attributes, reach p x.1 = some x.2) ↔
      (p.attributes.map fun x => normalForm x.1).Nodup := by
  have hvalues := nodup_values h
  constructor
  · intro hall
    refine hvalues.of_map.map_on fun x hx y hy he => ?_
    have hsame : reach p x.1 = reach p y.1 := by simp only [reach, lastUnder?, he]
    rw [hall x hx, hall y hy] at hsame
    exact List.inj_on_of_nodup_map hvalues hx hy (Option.some.inj hsame)
  · intro hnodup x hx
    refine lastUnder?_eq hx fun y hy he => ?_
    rw [List.inj_on_of_nodup_map hnodup hy hx he]

/-! ## Top theorem -/

/-- **Only step classes take the names of methods.**  The attributes of the test class have
different names just where no step class has the name of a method, and each is found under its
name just where none is spelled like another.  A name that is not spelled in a second way finds
the step object of that name, and a stub unless there is such an object. -/
theorem attributes_of_convert (h : convert c fileName d = .ok p) :
    ((p.attributes.map (·.1)).Nodup ↔ ∀ C ∈ p.classes, C ∉ p.methods.map (·.1)) ∧
    ((∀ x ∈ p.attributes, reach p x.1 = some x.2) ↔
      (p.attributes.map fun x => normalForm x.1).Nodup) ∧
    (∀ s ∈ p.stubs, OneSpelling p s.method →
      (reach p s.method = some (.stub s) ↔ s.method ∉ p.classes)) ∧
    (∀ C ∈ p.classes, OneSpelling p C → reach p C = some (.object C)) :=
  ⟨nodup_names_iff h, reach_all_iff h, fun _ hs hone => reach_stub h hs hone,
    fun _ hC hone => reach_class hC hone⟩

end

theorem oneSpelling_of_normal {p : Plan} (h : ∀ x ∈ p.attributes, normalForm x.1 = x.1) {name : String}
    (hname : normalForm name = name) : OneSpelling p name := by
  intro x hx he
  rw [h x hx, hname] at he
  exact he

theorem waitFeature_attributes :
    ∃ p, convert [overDefinition] "waiting" (some waitFeature) = .ok p ∧ p.stubs.length = 2 ∧
      (p.attributes.map (·.1)).Nodup ∧ (∀ s ∈ p.stubs, reach p s.method = some (.stub s)) ∧
      reach p "Waiting" = some (.object "Waiting") := by
  have hc : convert [overDefinition] "waiting" (some waitFeature) =
      .ok (plan [overDefinition] "waiting" waitFeature) :=
    convert_some_eq_ok_iff.2 ⟨by decide +kernel, rfl⟩
  obtain ⟨hnames, -, hstubs, hclasses⟩ := attributes_of_convert hc
  generalize hp : plan [overDefinition] "waiting" waitFeature = p at hc hnames hstubs hclasses
  obtain ⟨hlength, hnormal, hfree, hapart, hclass⟩ : p.stubs.length = 2 ∧
      (∀ x ∈ p.attributes, normalForm x.1 = x.1) ∧ (∀ s ∈ p.stubs, s.method ∉ p.classes) ∧
      (∀ C ∈ p.classes, C ∉ p.methods.map (·.1)) ∧ "Waiting" ∈ p.classes := by
    rw [← hp]
    decide +kernel
  refine ⟨p, hc, hlength, hnames.2 hapart, fun s hs => ?_, hclasses "Waiting" hclass ?_⟩
  · refine (hstubs s hs (oneSpelling_of_normal hnormal ?_)).2 (hfree s hs)
    exact hnormal (s.method, .stub s)
      (List.mem_append_left _ (List.mem_append_right _ (List.mem_map_of_mem hs)))
  · exact oneSpelling_of_normal hnormal
      (hnormal ("Waiting", .object "Waiting") (List.mem_append_right _ (mem_objects.2 ⟨hclass, rfl⟩)))

/-- A step class with the name that a stub for `wait long` asks for. -/
def queueDefinition : StepDefinition :=
  { kind := .context, pattern := "a queue", owner := "WaitLong", module := "steps",
    method := "queue", parameters := [] }

def queueScenario : Gherkin.Scenario :=
  { tags := [], keyword := "Scenario", name := "One", description := "", examples := [],
    steps := [⟨"Given ", .kind .context, "a queue", none⟩,
      ⟨"When ", .kind .action, "wait long", none⟩] }

def queueFeature : Gherkin.Feature :=
  { tags := [], language := "en", keyword := "Feature", name := "Queues", description := "",
    children := [.scenario queueScenario] }

/-- The call of a stub that finds the step object of its name. -/
theorem queueFeature_hides_stub :
    ∃ p s, convert [queueDefinition] "queues" (some queueFeature) = .ok p ∧ s ∈ p.stubs ∧
      (∃ step ∈ p.allSteps, step.isStub = true ∧ step.method = s.method) ∧
      ¬ (p.attributes.map (·.1)).Nodup ∧ reach p s.method = some (.object "WaitLong") := by
  have hc : convert [queueDefinition] "queues" (some queueFeature) =
      .ok (plan [queueDefinition] "queues" queueFeature) :=
    convert_some_eq_ok_iff.2 ⟨by decide +kernel, rfl⟩
  refine ⟨_, ⟨.action, "wait long", "WaitLong", []⟩, hc, ?_⟩
  decide +kernel

end Acceptance.Plan
