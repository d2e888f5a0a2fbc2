import Acceptance.Proofs.Source.Binding
import Acceptance.Proofs.Step.LookUp
import Mathlib.Data.List.Perm.Basic

/-!
# Places of step methods

A method is a function that stands in a class, in its body or under a compound statement there; the
class may stand in other classes, under compound statements and in functions.  The place of a
marker is the way down to its method with the number of the decorator, and places follow each other
in the order of the source, a method before what stands in it.

    registration? e = some (kind, pattern) ↔ e.Registers kind pattern         (registration?_iff)
    Lists (Defines false module body) (bodyDefinitions module none body)  (lists_bodyDefinitions)
    Lists (Defines true module body) (bodyDefinitions module none body) ↔
      bodies of classes lead to all marked methods                                (lists_all_iff)
-/

namespace Acceptance.Source

open Acceptance.Text

/-! ## Markers and places -/

/-- The name of a marker: that of its kind, in any case, with or without the ending. -/
def IsMarker (name : String) (kind : StepKind) : Prop :=
  lowerList name.toList = lowerList kind.word.toList ∨
    lowerList name.toList = lowerList kind.word.toList ++ "_step".toList

/-- A call of a marker, by its name or as a member, whose first value is a text and not empty. -/
def Expr.Registers (e : Expr) (kind : StepKind) (pattern : String) : Prop :=
  ∃ function marked others named name,
    e = .call function (.text pattern marked :: others) named ∧ pattern ≠ "" ∧
      (function = .name name ∨ ∃ value, function = .attribute value name) ∧ IsMarker name kind

/-- The way down from a statement to one that stands in it, and the class around this one: through
the bodies of classes, or `anywhere`, through functions and blocks of compound statements too.  A
function is no part of the class around it for what stands in the function. -/
inductive Within (anywhere : Bool) :
    Option String → Stmt → List Nat → Option String → Stmt → Prop
  | here {owner : Option String} {s : Stmt} : Within anywhere owner s [] owner s
  | inClass {owner owner' : Option String} {name : String} {decorators : List Expr}
      {body : List Stmt} {i : Nat} {s t : Stmt} {path : List Nat} (child : body[i]? = some s)
      (within : Within anywhere (some name) s path owner' t) :
      Within anywhere owner (.classDef name decorators body) (i :: path) owner' t
  | inFunction {owner owner' : Option String} {name : String} {decorators : List Expr}
      {ps : Parameters} {body : List Stmt} {i : Nat} {s t : Stmt} {path : List Nat}
      (allowed : anywhere = true) (child : body[i]? = some s)
      (within : Within anywhere none s path owner' t) :
      Within anywhere owner (.functionDef name decorators ps body) (i :: path) owner' t
  | inCompound {owner owner' : Option String} {blocks : List (List Stmt)} {block : List Stmt}
      {b i : Nat} {s t : Stmt} {path : List Nat} (allowed : anywhere = true)
      (inBlocks : blocks[b]? = some block) (child : block[i]? = some s)
      (within : Within anywhere owner s path owner' t) :
      Within anywhere owner (.compound blocks) (b :: i :: path) owner' t

/-- The way to a method from the top of a module, and the number of a decorator on it. -/
structure Place where
  path : List Nat
  decorator : Nat
  deriving DecidableEq

/-- The order of the source. -/
def Place.Before (p q : Place) : Prop :=
  p.path < q.path ∨ p.path = q.path ∧ p.decorator < q.decorator

/-- The definition of a method that a marker on it registers. -/
def Method.definition (m : Method) (module : String) (r : StepKind × String) : StepDefinition :=
  { kind := r.1, pattern := r.2, owner := m.owner, module, method := m.name
    parameters := requiredParameters (m.decorators.any Expr.isStatic) m.parameters }

/-- The definitions of a module by the places of their markers. -/
inductive Defines (anywhere : Bool) (module : String) (body : List Stmt) :
    Place → StepDefinition → Prop
  | marker {i k : Nat} {s : Stmt} {path : List Nat} {m : Method} {inner : List Stmt} {e : Expr}
      {kind : StepKind} {pattern : String} (child : body[i]? = some s)
      (method : Within anywhere none s path (some m.owner)
        (.functionDef m.name m.decorators m.parameters inner))
      (decorator : m.decorators[k]? = some e) (registers : e.Registers kind pattern) :
      Defines anywhere module body ⟨i :: path, k⟩ (m.definition module (kind, pattern))

/-- All that a relation defines, one definition for each place and in the order of the places. -/
def Lists (R : Place → StepDefinition → Prop) (ds : List StepDefinition) : Prop :=
  ∃ entries : List (Place × StepDefinition), entries.map (·.2) = ds ∧
    entries.Pairwise (fun a b => a.1.Before b.1) ∧ ∀ p d, (p, d) ∈ entries ↔ R p d

/-! ## Algorithm -/

mutual

/-- The methods of a statement that the bodies of classes lead to, with the ways there. -/
def statementPlaces (owner : Option String) : Stmt → List (List Nat × Method)
  | .classDef name _ body => bodyPlaces (some name) 0 body
  | .functionDef name decorators ps _ =>
    match owner with
    | some owner => [([], ⟨owner, name, decorators, ps⟩)]
    | none => []
  | .simple => []
  | .compound _ => []

/-- Those of statements that are numbered from `i` on. -/
def bodyPlaces (owner : Option String) (i : Nat) : List Stmt → List (List Nat × Method)
  | [] => []
  | s :: ss =>
    (statementPlaces owner s).map (fun q => (i :: q.1, q.2)) ++ bodyPlaces owner (i + 1) ss

end

/-- The registrations of a method with the numbers of the decorators they come from. -/
def Method.markings (m : Method) : List (Nat × StepKind × String) :=
  m.decorators.zipIdx.filterMap fun q => (registration? q.1).map fun r => (q.2, r)

/-- The definitions of the methods that the bodies of classes lead to, with their places. -/
def bodyEntries (module : String) (body : List Stmt) : List (Place × StepDefinition) :=
  (bodyPlaces none 0 body).flatMap fun q =>
    q.2.markings.map fun r => (⟨q.1, r.1⟩, q.2.definition module r.2)

/-! ## Markers -/

theorem find?_word_iff {word : List Char} {kind : StepKind} :
    (StepKind.all.find? fun k => lowerList k.word.toList == word) = some kind ↔
      lowerList kind.word.toList = word := by
  constructor
  · intro h
    simpa using List.find?_some h
  · rintro rfl
    cases kind <;> decide +kernel

/-- A name stands for the one kind whose marker it is. -/
theorem markerKind?_iff {name : String} {kind : StepKind} :
    markerKind? name = some kind ↔ IsMarker name kind := by
  have hplain : ∀ before, lowerList kind.word.toList ≠ before ++ "_step".toList := by
    intro before heq
    have hline : '_' ∉ lowerList kind.word.toList := by cases kind <;> decide +kernel
    rw [heq] at hline
    exact hline (List.mem_append_right _ (by decide))
  unfold markerKind? IsMarker
  generalize lowerList name.toList = cs
  rw [find?_word_iff]
  split
  · next hending =>
    obtain ⟨before, rfl⟩ := List.isSuffixOf_iff_suffix.1 hending
    have htake : (before ++ "_step".toList).take
        ((before ++ "_step".toList).length - "_step".toList.length) = before := by
      rw [List.length_append, Nat.add_sub_cancel, List.take_left]
    rw [htake, List.append_left_inj]
    exact ⟨fun h => .inr h.symm, fun h => (h.resolve_left fun h => hplain before h.symm).symm⟩
  · next hending =>
    refine ⟨fun h => .inl h.symm, ?_⟩
    rintro (h | rfl)
    · exact h.symm
    · exact absurd (List.isSuffixOf_iff_suffix.2 (List.suffix_append _ _)) hending

/-- **A decorator registers a pattern just where it is the call of a marker.** -/
theorem registration?_iff {e : Expr} {kind : StepKind} {pattern : String} :
    registration? e = some (kind, pattern) ↔ e.Registers kind pattern := by
  constructor
  · intro h
    unfold registration? at h
    split at h
    · next function pattern' marked others named =>
      have hpick : ∀ kind? : Option StepKind,
          (if pattern'.isEmpty then none else kind?.map fun k => (k, pattern')) =
            some (kind, pattern) → kind? = some kind ∧ pattern' = pattern ∧ pattern' ≠ "" := by
        intro kind? h
        obtain ⟨hpattern, h⟩ := Option.ite_none_left_eq_some.1 h
        obtain ⟨k, hk, heq⟩ := Option.map_eq_some_iff.1 h
        obtain ⟨rfl, rfl⟩ := Prod.mk.inj heq
        exact ⟨hk, rfl, fun heq => hpattern (String.isEmpty_iff.2 heq)⟩
      obtain ⟨hkind, rfl, hne⟩ := hpick _ h
      split at hkind
      · next name =>
        exact ⟨_, marked, others, named, name, rfl, hne, .inl rfl, markerKind?_iff.1 hkind⟩
      · next value name =>
        exact ⟨_, marked, others, named, name, rfl, hne, .inr ⟨value, rfl⟩,
          markerKind?_iff.1 hkind⟩
      · cases hkind
    · cases h
  · rintro ⟨function, marked, others, named, name, rfl, hne, hfunction, hmarker⟩
    have hpattern : pattern.isEmpty = false := by simpa using hne
    have hkind := markerKind?_iff.2 hmarker
    rcases hfunction with rfl | ⟨value, rfl⟩
    · simp [registration?, hpattern, hkind]
    · simp [registration?, hpattern, hkind]

/-! ## Ways to methods -/

mutual

theorem map_statementPlaces (owner : Option String) : ∀ s : Stmt,
    (statementPlaces owner s).map (·.2) = statementMethods owner s
  | .classDef name _ body => map_bodyPlaces (some name) 0 body
  | .functionDef _ _ _ _ => by cases owner <;> rfl
  | .simple => rfl
  | .compound _ => rfl

/-- The ways lead to the methods of a source. -/
theorem map_bodyPlaces (owner : Option String) (i : Nat) : ∀ ss : List Stmt,
    (bodyPlaces owner i ss).map (·.2) = bodyMethods owner ss
  | [] => rfl
  | s :: ss => by
    rw [bodyPlaces, bodyMethods, List.map_append, List.map_map, ← map_statementPlaces owner s,
      ← map_bodyPlaces owner (i + 1) ss]
    rfl

end

/-- Whether a way of bodies of classes leads to a method. -/
def LeadsTo (owner : Option String) (s : Stmt) (path : List Nat) (m : Method) : Prop :=
  ∃ inner, Within false owner s path (some m.owner)
    (.functionDef m.name m.decorators m.parameters inner)

mutual

theorem mem_statementPlaces_iff (owner : Option String) (path : List Nat) (m : Method) :
    ∀ s : Stmt, (path, m) ∈ statementPlaces owner s ↔ LeadsTo owner s path m
  | .classDef name decorators body => by
    rw [statementPlaces, mem_bodyPlaces_iff (some name) path m 0 body]
    constructor
    · rintro ⟨k, s, path', hchild, rfl, inner, hwithin⟩
      rw [Nat.zero_add]
      exact ⟨inner, .inClass hchild hwithin⟩
    · rintro ⟨inner, hwithin⟩
      cases hwithin with
      | inClass hchild hwithin => exact ⟨_, _, _, hchild, by rw [Nat.zero_add], inner, hwithin⟩
  | .functionDef name decorators ps body => by
    cases owner with
    | none =>
      refine iff_of_false List.not_mem_nil ?_
      rintro ⟨inner, hwithin⟩
      cases hwithin with
      | inFunction hallowed => cases hallowed
    | some owner =>
      rw [statementPlaces, List.mem_singleton, Prod.mk.injEq]
      constructor
      · rintro ⟨rfl, rfl⟩
        exact ⟨body, .here⟩
      · rintro ⟨inner, hwithin⟩
        cases hwithin with
        | here => exact ⟨rfl, rfl⟩
        | inFunction hallowed => cases hallowed
  | .simple => by
    refine iff_of_false List.not_mem_nil ?_
    rintro ⟨inner, hwithin⟩
    cases hwithin
  | .compound blocks => by
    refine iff_of_false List.not_mem_nil ?_
    rintro ⟨inner, hwithin⟩
    cases hwithin with
    | inCompound hallowed => cases hallowed

/-- The ways of bodies of classes are found, and no others. -/
theorem mem_bodyPlaces_iff (owner : Option String) (path : List Nat) (m : Method) (i : Nat) :
    ∀ ss : List Stmt, (path, m) ∈ bodyPlaces owner i ss ↔
      ∃ k s path', ss[k]? = some s ∧ path = (i + k) :: path' ∧ LeadsTo owner s path' m
  | [] => by simp [bodyPlaces]
  | s :: ss => by
    rw [bodyPlaces, List.mem_append, List.mem_map, mem_bodyPlaces_iff owner path m (i + 1) ss]
    constructor
    · rintro (⟨⟨path', m'⟩, hmem, heq⟩ | ⟨k, t, path', hchild, rfl, hleads⟩)
      · obtain ⟨rfl, rfl⟩ := Prod.mk.inj heq
        exact ⟨0, s, path', rfl, rfl, (mem_statementPlaces_iff owner path' m' s).1 hmem⟩
      · exact ⟨k + 1, t, path', hchild, by rw [Nat.add_assoc, Nat.add_comm 1], hleads⟩
    · rintro ⟨k, t, path', hchild, rfl, hleads⟩
      cases k with
      | zero =>
        obtain rfl := Option.some.inj hchild
        exact .inl ⟨(path', m), (mem_statementPlaces_iff owner path' m s).2 hleads, rfl⟩
      | succ k =>
        exact .inr ⟨k, t, path', hchild, by rw [Nat.add_assoc, Nat.add_comm 1], hleads⟩

end

mutual

theorem statementPlaces_ordered (owner : Option String) : ∀ s : Stmt,
    (statementPlaces owner s).Pairwise fun a b => a.1 < b.1
  | .classDef name _ body => bodyPlaces_ordered (some name) 0 body
  | .functionDef _ _ _ _ => by
    cases owner with
    | none => exact .nil
    | some owner => exact List.pairwise_singleton _ _
  | .simple => .nil
  | .compound _ => .nil

/-- The ways are found in the order of the source. -/
theorem bodyPlaces_ordered (owner : Option String) (i : Nat) : ∀ ss : List Stmt,
    (bodyPlaces owner i ss).Pairwise fun a b => a.1 < b.1
  | [] => .nil
  | s :: ss => by
    rw [bodyPlaces, List.pairwise_append, List.pairwise_map]
    refine ⟨(statementPlaces_ordered owner s).imp fun h => List.cons_lt_cons_self.2 h,
      bodyPlaces_ordered owner (i + 1) ss, ?_⟩
    rintro a ha ⟨path, m⟩ hb
    obtain ⟨q, -, rfl⟩ := List.mem_map.1 ha
    obtain ⟨k, -, path', -, rfl, -⟩ := (mem_bodyPlaces_iff owner path m (i + 1) ss).1 hb
    exact List.cons_lt_cons_iff.2 (.inl (by omega))

end

/-! ## Definitions and their places -/

section
variable {m : Method} {module : String} {body : List Stmt} {p : Place} {d : StepDefinition}

theorem mem_markings_iff {k : Nat} {r : StepKind × String} :
    (k, r) ∈ m.markings ↔ ∃ e, m.decorators[k]? = some e ∧ e.Registers r.1 r.2 := by
  simp only [Method.markings, List.mem_filterMap, Prod.exists, List.mem_zipIdx_iff_getElem?,
    Option.map_eq_some_iff, Prod.mk.injEq, ← registration?_iff]
  constructor
  · rintro ⟨e, k, hdecorator, kind, pattern, hr, rfl, rfl⟩
    exact ⟨e, hdecorator, hr⟩
  · rintro ⟨e, hdecorator, hr⟩
    exact ⟨e, k, hdecorator, r.1, r.2, hr, rfl, rfl⟩

theorem markings_ordered (m : Method) : m.markings.Pairwise fun a b => a.1 < b.1 := by
  refine List.Pairwise.filterMap _ ?_ (zipIdx_ordered m.decorators)
  intro a b hlt r hr r' hr'
  obtain ⟨_, -, rfl⟩ := Option.map_eq_some_iff.1 hr
  obtain ⟨_, -, rfl⟩ := Option.map_eq_some_iff.1 hr'
  exact hlt

theorem map_markings (m : Method) (module : String) :
    m.markings.map (fun r => m.definition module r.2) = m.definitions module := by
  have hall : m.decorators.filterMap registration? =
      m.decorators.zipIdx.filterMap fun q => registration? q.1 := by
    conv => lhs; rw [← List.zipIdx_map_fst 0 m.decorators]
    rw [List.filterMap_map]
    rfl
  rw [Method.definitions, methodDefinitions, hall, Method.markings, List.map_filterMap,
    List.map_filterMap]
  congr 1
  funext q
  rw [Option.map_map]
  rfl

theorem map_bodyEntries :
    (bodyEntries module body).map (·.2) = bodyDefinitions module none body := by
  rw [bodyDefinitions_eq, ← map_bodyPlaces none 0 body, bodyEntries, List.map_flatMap,
    List.flatMap_map]
  refine List.flatMap_congr fun q _ => ?_
  rw [List.map_map, ← map_markings]
  rfl

theorem mem_bodyEntries_iff : (p, d) ∈ bodyEntries module body ↔ Defines false module body p d := by
  rw [bodyEntries, List.mem_flatMap]
  constructor
  · rintro ⟨⟨path, m⟩, hq, hmem⟩
    obtain ⟨⟨k, kind, pattern⟩, hr, heq⟩ := List.mem_map.1 hmem
    obtain ⟨rfl, rfl⟩ := Prod.mk.inj heq
    obtain ⟨i, s, path', hchild, rfl, inner, hwithin⟩ :=
      (mem_bodyPlaces_iff none path m 0 body).1 hq
    obtain ⟨e, hdecorator, hregisters⟩ := mem_markings_iff.1 hr
    rw [Nat.zero_add]
    exact .marker hchild hwithin hdecorator hregisters
  · rintro ⟨hchild, hwithin, hdecorator, hregisters⟩
    refine ⟨(_, _), (mem_bodyPlaces_iff none _ _ 0 body).2
      ⟨_, _, _, hchild, by rw [Nat.zero_add], _, hwithin⟩, List.mem_map.2 ?_⟩
    exact ⟨(_, _), mem_markings_iff.2 ⟨_, hdecorator, hregisters⟩, rfl⟩

theorem bodyEntries_ordered (module : String) (body : List Stmt) :
    (bodyEntries module body).Pairwise fun a b => a.1.Before b.1 := by
  rw [bodyEntries, List.pairwise_flatMap]
  refine ⟨fun q _ => ?_, (bodyPlaces_ordered none 0 body).imp fun h a ha b hb => ?_⟩
  · rw [List.pairwise_map]
    exact (markings_ordered q.2).imp fun h => .inr ⟨rfl, h⟩
  · obtain ⟨r, -, rfl⟩ := List.mem_map.1 ha
    obtain ⟨r', -, rfl⟩ := List.mem_map.1 hb
    exact .inl h

theorem lists_bodyDefinitions (module : String) (body : List Stmt) :
    Lists (Defines false module body) (bodyDefinitions module none body) :=
  ⟨bodyEntries module body, map_bodyEntries, bodyEntries_ordered module body,
    fun _ _ => mem_bodyEntries_iff⟩

/-- Ways through bodies of classes are ways. -/
theorem Within.anywhere {owner owner' : Option String} {s t : Stmt} {path : List Nat}
    (h : Within false owner s path owner' t) : Within true owner s path owner' t := by
  induction h with
  | here => exact .here
  | inClass hchild _ ih => exact .inClass hchild ih
  | inFunction hallowed => cases hallowed
  | inCompound hallowed => cases hallowed

theorem Defines.anywhere (h : Defines false module body p d) : Defines true module body p d := by
  obtain ⟨hchild, hwithin, hdecorator, hregisters⟩ := h
  exact .marker hchild hwithin.anywhere hdecorator hregisters

theorem Place.Before.ne {p q : Place} (h : p.Before q) : p ≠ q := by
  rintro rfl
  rcases h with hlt | ⟨-, hlt⟩
  · exact List.lt_irrefl _ hlt
  · exact Nat.lt_irrefl _ hlt

/-- What lists all of a relation and all of a wider one shows that the wider one has no more. -/
theorem Lists.of_wider {R S : Place → StepDefinition → Prop} {ds : List StepDefinition}
    (hR : Lists R ds) (hS : Lists S ds) (hwider : ∀ p d, R p d → S p d) (h : S p d) : R p d := by
  obtain ⟨entries, hds, hordered, hmem⟩ := hR
  obtain ⟨entries', hds', -, hmem'⟩ := hS
  have hnodup : entries.Nodup := hordered.imp fun hbefore heq => hbefore.ne (congrArg _ heq)
  have hsubset : entries ⊆ entries' := fun q hq => (hmem' q.1 q.2).2 (hwider _ _ ((hmem _ _).1 hq))
  have hlength : entries'.length = entries.length := by
    rw [← List.length_map (·.2), hds', ← hds, List.length_map]
  have hperm := (List.subperm_of_subset hnodup hsubset).perm_of_length_le (Nat.le_of_eq hlength)
  exact (hmem p d).1 (hperm.mem_iff.2 ((hmem' p d).2 h))

/-- All markers of a module are listed just where bodies of classes lead to all. -/
theorem lists_all_iff (module : String) (body : List Stmt) :
    Lists (Defines true module body) (bodyDefinitions module none body) ↔
      ∀ p d, Defines true module body p d → Defines false module body p d := by
  have hlists := lists_bodyDefinitions module body
  constructor
  · exact fun hall p d => hlists.of_wider hall fun _ _ => Defines.anywhere
  · intro hsame
    have heq : Defines true module body = Defines false module body := by
      funext p d
      exact propext ⟨hsame p d, Defines.anywhere⟩
    rwa [heq]

end

/-! ## Top theorem -/

/-- **The definitions of a module.**  A source that can be read has one definition for each marker
on a method that the bodies of classes lead to, in the order of the source, with the class around
the method as its owner.  These are all markers on methods just where none of the methods stands
under a compound statement or in a function. -/
theorem analyze_lists {text : String} {body : List Stmt} (hread : readSource text = some body)
    (module : String) : ∃ ds, analyze text module = some ds ∧
      Lists (Defines false module body) ds ∧
      (Lists (Defines true module body) ds ↔
        ∀ p d, Defines true module body p d → Defines false module body p d) := by
  refine ⟨bodyDefinitions module none body, ?_, lists_bodyDefinitions module body,
    lists_all_iff module body⟩
  rw [analyze, hread, Option.map_some]

/-- The source of a class within a class, with more than one marker on a method. -/
def houseSource : String :=
  "class House:\n class Door:\n  @given('a door')\n  @steps.Then_step(\"the door\")\n" ++
    "  def door(self): pass\n @when('I knock')\n def knock(self): pass\n"

theorem houseSource_listed : ∃ body ds, readSource houseSource = some body ∧
    analyze houseSource "house" = some ds ∧
    ds.map (fun d => (d.owner, d.pattern)) =
      [("Door", "a door"), ("Door", "the door"), ("House", "I knock")] ∧
    Lists (Defines false "house" body) ds ∧
    (Lists (Defines true "house" body) ds ↔
      ∀ p d, Defines true "house" body p d → Defines false "house" body p d) := by
  have hsource : (readSource houseSource).map (fun body =>
      (bodyDefinitions "house" none body).map fun d => (d.owner, d.pattern)) =
        some [("Door", "a door"), ("Door", "the door"), ("House", "I knock")] := by
    decide +kernel
  obtain ⟨body, hread, hdefinitions⟩ := Option.map_eq_some_iff.1 hsource
  obtain ⟨ds, hanalyze, hlists, hall⟩ := analyze_lists hread "house"
  refine ⟨body, ds, hread, hanalyze, ?_, hlists, hall⟩
  rw [analyze, hread] at hanalyze
  rw [← Option.some.inj hanalyze, hdefinitions]

/-- The source of a class with a method under a compound statement. -/
def shopSource : String :=
  "class Shop:\n    if True:\n        @given('a shop')\n        def shop(self):\n" ++
    "            pass\n"

def shopDefinition : StepDefinition :=
  { kind := .context, pattern := "a shop", owner := "Shop", module := "", method := "shop"
    parameters := [] }

/-- The method that a class has under a compound statement, where that is all of the source. -/
def enclosedMethod? : List Stmt → Option Method
  | [.classDef owner _ [.compound [[.functionDef name decorators ps _]]]] =>
    some ⟨owner, name, decorators, ps⟩
  | _ => none

/-- Such a method has its markers, and nothing is listed. -/
theorem defines_of_enclosedMethod? {body : List Stmt} {m : Method} {k : Nat} {e : Expr}
    {kind : StepKind} {pattern : String} (h : enclosedMethod? body = some m)
    (decorator : m.decorators[k]? = some e) (registers : e.Registers kind pattern)
    (module : String) :
    Defines true module body ⟨[0, 0, 0, 0], k⟩ (m.definition module (kind, pattern)) ∧
      bodyDefinitions module none body = [] := by
  unfold enclosedMethod? at h
  split at h
  · obtain rfl := Option.some.inj h
    exact ⟨.marker rfl (.inClass rfl (.inCompound rfl rfl rfl .here)) decorator registers, rfl⟩
  · cases h

theorem shopSource_misses_marker : ∃ body, readSource shopSource = some body ∧
    analyze shopSource "" = some [] ∧
    Defines true "" body ⟨[0, 0, 0, 0], 0⟩ shopDefinition ∧
    ¬ Lists (Defines true "" body) [] := by
  have hsource : ((readSource shopSource).bind enclosedMethod?).map
      (fun m => (m.decorators.map registration?, m.definition "" (.context, "a shop"))) =
        some ([some (.context, "a shop")], shopDefinition) := by
    decide +kernel
  obtain ⟨m, hmethod, hm⟩ := Option.map_eq_some_iff.1 hsource
  obtain ⟨body, hread, henclosed⟩ := Option.bind_eq_some_iff.1 hmethod
  obtain ⟨hregistrations, hdefinition⟩ := Prod.mk.inj hm
  obtain ⟨e, hdecorators, hregisters⟩ := List.map_eq_singleton_iff.1 hregistrations
  obtain ⟨hdefines, hnone⟩ := defines_of_enclosedMethod? henclosed (k := 0)
    (by rw [hdecorators]; rfl) (registration?_iff.1 hregisters) ""
  rw [hdefinition] at hdefines
  refine ⟨body, hread, ?_, hdefines, ?_⟩
  · rw [analyze, hread, Option.map_some, hnone]
  · rintro ⟨entries, hnil, -, hmem⟩
    obtain rfl := List.map_eq_nil_iff.1 hnil
    exact List.not_mem_nil ((hmem _ _).2 hdefines)

end Acceptance.Source
