import Acceptance.Proofs.Source.Binding
import Acceptance.Step.StepClass

/-!
# Classes of a source

The definitions of a step class are read from its source, or from the class that the source makes.
Making a class applies the decorators of a method from the last line to the first, keeps a name that
begins with two underscores behind the name of the class, and has the evaluated type notes of the
parameters instead of their texts.  Where the methods have names of their own, markers beneath at
most one wrapper and a place for the object, both ways lead to the same definitions.

    m.Registers → m.made? noted = some (m.plain noted)                            (made?_eq)
    (m.plain noted).required = m.required.map (·.evaluated noted)            (required_plain)
    the definitions of a class and those of its source agree                (builders_agree)
-/

namespace Acceptance.Source

open Acceptance.Text

/-! ## Algorithm -/

/-- Whether a name begins with two underscores. -/
def isGuarded (name : String) : Bool := "__".toList.isPrefixOf name.toList

/-- A name as a class keeps it: behind that of the class, if it is guarded and has no two
underscores at its end. -/
def keptName (owner name : String) : String :=
  let start := owner.toList.dropWhile (· == '_')
  if isGuarded name && !"__".toList.isSuffixOf name.toList && !start.isEmpty then
    "_" ++ .ofList start ++ name
  else name

/-- The name that a function goes by. -/
def Expr.calledName? : Expr → Option String
  | .name n => some n
  | .attribute _ n => some n
  | _ => none

/-- What a decorator registers when it is run: the call of a marker with a text that is not
empty. -/
def Expr.marks? : Expr → Option Registration
  | .call function [.text pattern _] [] =>
    (function.calledName?.bind StepKind.ofMarker?).bind fun kind =>
      (Registration.make kind (some pattern)).toOption
  | _ => none

/-- What a decorator wraps a function into. -/
def Expr.wraps? : Expr → Option Wrapper
  | .name "staticmethod" => some .static
  | .name "classmethod" => some .onClass
  | _ => none

/-- A method behind one more decorator; none behind any but a marker and a first wrapper. -/
def decorate? (m : Acceptance.Method) (e : Expr) : Option Acceptance.Method :=
  match e.wraps?, e.marks? with
  | some wrapper, _ => if m.wrapper = .plain then some { m with wrapper } else none
  | none, some r =>
    some (if m.wrapper = .plain then { m with markers := register m.markers r }
      else { m with outerMarkers := register m.outerMarkers r })
  | none, none => none

/-- A method behind decorators, from the last to the first. -/
def decorated? (m : Acceptance.Method) : List Expr → Option Acceptance.Method
  | [] => some m
  | e :: below => (decorated? m below).bind fun m => decorate? m e

/-- The wrapper that a function gets by its name. -/
def impliedWrapper (name : String) : Wrapper :=
  if name = "__new__" then .static
  else if name = "__init_subclass__" ∨ name = "__class_getitem__" then .onClass
  else .plain

/-- A method as it comes into its class. -/
def enter (m : Acceptance.Method) : Acceptance.Method :=
  if m.wrapper = .plain then { m with wrapper := impliedWrapper m.name } else m

section
variable (noted : Parameter → String)

/-- A parameter as a function has it, with the text of its evaluated type note. -/
def Parameter.made (owner : String) (role : ParameterRole) (p : Parameter) : FunctionParameter :=
  ⟨keptName owner p.name, if p.note.isSome then noted p else "", role, p.default.isSome⟩

/-- The parameters of a function that take a position each. -/
def Parameters.positionsMade (owner : String) (ps : Parameters) : List FunctionParameter :=
  ps.positionOnly.map (Parameter.made noted owner .position) ++
    ps.either.map (Parameter.made noted owner .either)

/-- The parameters of a function behind those. -/
def Parameters.othersMade (owner : String) (ps : Parameters) : List FunctionParameter :=
  ps.rest.toList.map (Parameter.made noted owner .rest) ++
    (ps.nameOnly.map (Parameter.made noted owner .name) ++
      ps.named.toList.map (Parameter.made noted owner .named))

/-- The parameters of a function in the order of its signature. -/
def Parameters.made (owner : String) (ps : Parameters) : List FunctionParameter :=
  ps.positionsMade noted owner ++ ps.othersMade noted owner

/-- A function before any decorator. -/
def Method.bare (m : Method) : Acceptance.Method :=
  { name := keptName m.owner m.name, wrapper := .plain, markers := [], outerMarkers := []
    parameters := m.parameters.made noted m.owner }

/-- The method that a function definition makes. -/
def Method.made? (m : Method) : Option Acceptance.Method :=
  (decorated? (m.bare noted) m.decorators).map enter

end

def Stmt.isFunction : Stmt → Bool
  | .functionDef _ _ _ _ => true
  | _ => false

/-- The name and the body of a class without decorators whose body is a row of functions. -/
def Stmt.plainClass? : Stmt → Option (String × List Stmt)
  | .classDef name [] body => if body.all Stmt.isFunction then some (name, body) else none
  | _ => none

/-- The class that such a statement makes. -/
def Stmt.made? (noted : Method → Parameter → String) (module : String) (s : Stmt) :
    Option StepClass :=
  s.plainClass?.bind fun c =>
    ((bodyMethods (some c.1) c.2).mapM fun m : Method => m.made? (noted m)).map fun ms =>
      ⟨c.1, module, ms.map .method⟩

/-- All parameters of a function. -/
def Parameters.all (ps : Parameters) : List Parameter :=
  ps.positional ++ ps.rest.toList ++ ps.nameOnly ++ ps.named.toList

/-- A parameter as a step definition of a class keeps it. -/
def Parameter.evaluated (noted : Parameter → String) (p : Parameter) : StepParameter :=
  ⟨if p.note.isSome then noted p else "", p.name⟩

/-- The wrapper on top of decorators, and the decorators below it. -/
def splitWrapper : List Expr → Wrapper × List Expr
  | [] => (.plain, [])
  | e :: below =>
    match e.wraps? with
    | some wrapper => (wrapper, below)
    | none => (.plain, e :: below)

namespace Method

/-- The wrapper of a method. -/
def wrapper (m : Method) : Wrapper := (splitWrapper m.decorators).1

/-- The decorators below the wrapper of a method. -/
def markers (m : Method) : List Expr := (splitWrapper m.decorators).2

/-- A method without guarded names, with markers beneath at most one wrapper and, unless it is
static, with a place for the object. -/
structure Registers (m : Method) : Prop where
  name : isGuarded m.name = false
  parameters : ∀ p ∈ m.parameters.all, isGuarded p.name = false
  markers : ∀ e ∈ m.markers, e.marks?.isSome = true
  object : m.wrapper = .static ∨ m.parameters.positional ≠ [] ∨ m.parameters.rest.isSome = true

instance (m : Method) : Decidable m.Registers :=
  decidable_of_iff (isGuarded m.name = false ∧
      (∀ p ∈ m.parameters.all, isGuarded p.name = false) ∧
      (∀ e ∈ m.markers, e.marks?.isSome = true) ∧
      (m.wrapper = .static ∨ ¬m.parameters.positional.isEmpty = true ∨
        m.parameters.rest.isSome = true))
    ⟨fun ⟨h₁, h₂, h₃, h₄⟩ => ⟨h₁, h₂, h₃, h₄.imp_right (Or.imp_left (mt List.isEmpty_iff.2))⟩,
      fun h => ⟨h.name, h.parameters, h.markers,
        h.object.imp_right (Or.imp_left (mt List.isEmpty_iff.1))⟩⟩

/-- The method that such a definition makes. -/
def plain (noted : Parameter → String) (m : Method) : Acceptance.Method :=
  { name := m.name, wrapper := m.wrapper, markers := m.markers.filterMap Expr.marks?
    outerMarkers := [], parameters := m.parameters.made noted m.owner }

/-- The parameters behind the object that take a value each. -/
def behindObject (m : Method) : List Parameter :=
  let positions := m.parameters.positional
  (if m.wrapper = .static then positions else positions.drop 1) ++ m.parameters.nameOnly

/-- The parameters of a method that a step call has to supply. -/
def required (m : Method) : List Parameter := m.behindObject.filter Parameter.isRequired

/-- The definitions of a method whose parameters are kept in some way. -/
def registered (m : Method) (module : String) (kept : Parameter → StepParameter) :
    List StepDefinition :=
  (m.markers.filterMap Expr.marks?).map fun r =>
    { kind := r.kind, pattern := r.pattern, owner := m.owner, module, method := m.name,
      parameters := m.required.map kept }

end Method

/-! ## Names -/

theorem keptName_eq {owner name : String} (h : isGuarded name = false) :
    keptName owner name = name := by
  simp [keptName, h]

theorem impliedWrapper_eq {name : String} (h : isGuarded name = false) :
    impliedWrapper name = .plain := by
  have hne : ∀ guarded : String, isGuarded guarded = true → name ≠ guarded := by
    rintro guarded hguarded rfl
    rw [h] at hguarded
    cases hguarded
  rw [impliedWrapper, if_neg (hne _ (by decide)), if_neg]
  exact not_or.2 ⟨hne _ (by decide), hne _ (by decide)⟩

/-! ## Decorators -/

theorem markerKind?_marker (kind : StepKind) : markerKind? kind.marker = some kind := by
  cases kind <;> decide +kernel

theorem marker_of_ofMarker? {name : String} {kind : StepKind}
    (h : StepKind.ofMarker? name = some kind) : kind.marker = name := by
  simpa using List.find?_some h

/-- A marker is a call by the name of its kind. -/
theorem eq_of_marks? {e : Expr} {r : Registration} (h : e.marks? = some r) :
    ∃ function marked, e = .call function [.text r.pattern marked] [] ∧
      function.calledName? = some r.kind.marker ∧ r.pattern ≠ "" := by
  unfold Expr.marks? at h
  split at h
  · next function pattern marked =>
    obtain ⟨kind, hkind, hmake⟩ := Option.bind_eq_some_iff.1 h
    obtain ⟨name, hname, hmarker⟩ := Option.bind_eq_some_iff.1 hkind
    unfold Registration.make at hmake
    simp only at hmake
    split at hmake
    · cases hmake
    · next hpattern =>
      obtain rfl := Option.some.inj hmake
      exact ⟨function, marked, rfl, by rw [hname, marker_of_ofMarker? hmarker], hpattern⟩
  · cases h

theorem wraps?_of_marks? {e : Expr} {r : Registration} (h : e.marks? = some r) :
    e.wraps? = none := by
  obtain ⟨function, marked, rfl, -⟩ := eq_of_marks? h
  rfl

/-- A marker is read from its source as it is run. -/
theorem registration?_of_marks? {e : Expr} {r : Registration} (h : e.marks? = some r) :
    registration? e = some (r.kind, r.pattern) := by
  obtain ⟨function, marked, rfl, hname, hpattern⟩ := eq_of_marks? h
  have hempty : r.pattern.isEmpty = false := by simpa using hpattern
  unfold Expr.calledName? at hname
  split at hname
  · obtain rfl := Option.some.inj hname
    simp [registration?, hempty, markerKind?_marker]
  · obtain rfl := Option.some.inj hname
    simp [registration?, hempty, markerKind?_marker]
  · cases hname

theorem registration?_of_wraps? {e : Expr} {wrapper : Wrapper} (h : e.wraps? = some wrapper) :
    registration? e = none := by
  unfold Expr.wraps? at h
  split at h
  · rfl
  · rfl
  · cases h

theorem isStatic_of_wraps? {e : Expr} {wrapper : Wrapper} (h : e.wraps? = some wrapper) :
    e.isStatic = decide (wrapper = .static) := by
  unfold Expr.wraps? at h
  split at h
  · cases h
    rfl
  · cases h
    decide
  · cases h

theorem isStatic_of_marks? {e : Expr} {r : Registration} (h : e.marks? = some r) :
    e.isStatic = false := by
  obtain ⟨function, marked, rfl, -⟩ := eq_of_marks? h
  rfl

/-- Markers put on a function leave their registrations in the order of the lines. -/
theorem decorated?_markers {m : Acceptance.Method} {es : List Expr}
    (h : ∀ e ∈ es, e.marks?.isSome = true) (hw : m.wrapper = .plain) :
    decorated? m es = some { m with markers := es.filterMap Expr.marks? ++ m.markers } := by
  induction es with
  | nil => rfl
  | cons e es ih =>
    obtain ⟨r, hr⟩ := Option.isSome_iff_exists.1 (h e List.mem_cons_self)
    rw [decorated?, ih fun e he => h e (List.mem_cons_of_mem _ he), Option.bind_some, decorate?,
      wraps?_of_marks? hr, hr, List.filterMap_cons_some hr]
    simp [hw, register]

namespace Method

variable {m : Method}

/-- The decorators of a method are those below a wrapper, or that wrapper and those. -/
theorem decorators_cases (m : Method) :
    (m.wrapper = .plain ∧ m.decorators = m.markers) ∨
      ∃ e, e.wraps? = some m.wrapper ∧ m.decorators = e :: m.markers := by
  unfold wrapper markers
  cases m.decorators with
  | nil => exact .inl ⟨rfl, rfl⟩
  | cons e below =>
    rw [splitWrapper]
    split
    · next hw => exact .inr ⟨e, hw, rfl⟩
    · exact .inl ⟨rfl, rfl⟩

/-- **Decorators on a function.** -/
theorem made?_eq (noted : Parameter → String) (h : m.Registers) :
    m.made? noted = some (m.plain noted) := by
  have hmarkers := decorated?_markers (m := m.bare noted) h.markers rfl
  have hdecorated : decorated? (m.bare noted) m.decorators = some (m.plain noted) := by
    rcases decorators_cases m with ⟨hplain, hds⟩ | ⟨e, hwraps, hds⟩
    · rw [hds, hmarkers]
      simp [bare, plain, keptName_eq h.name, hplain]
    · rw [hds, decorated?, hmarkers, Option.bind_some, decorate?, hwraps]
      simp [bare, plain, keptName_eq h.name]
  have henter : enter (m.plain noted) = m.plain noted := by
    unfold enter
    split
    · next hplain =>
      rw [show (m.plain noted).name = m.name from rfl, impliedWrapper_eq h.name, ← hplain]
      rfl
    · rfl
  rw [made?, hdecorated, Option.map_some, henter]

/-- The registrations of a method are read from its source in their order. -/
theorem registrations_eq (h : m.Registers) :
    m.decorators.filterMap registration? =
      (m.markers.filterMap Expr.marks?).map fun r => (r.kind, r.pattern) := by
  have hmarkers : m.markers.filterMap registration? =
      (m.markers.filterMap Expr.marks?).map fun r => (r.kind, r.pattern) := by
    rw [List.map_filterMap]
    refine List.filterMap_congr fun e he => ?_
    obtain ⟨r, hr⟩ := Option.isSome_iff_exists.1 (h.markers e he)
    rw [hr, registration?_of_marks? hr, Option.map_some]
  rcases decorators_cases m with ⟨-, hds⟩ | ⟨e, hwraps, hds⟩
  · rw [hds, hmarkers]
  · rw [hds, List.filterMap_cons_none (registration?_of_wraps? hwraps), hmarkers]

/-- A method is marked as static where its wrapper makes it static. -/
theorem isMarked_eq (h : m.Registers) : m.isMarked = decide (m.wrapper = .static) := by
  have hmarkers : m.markers.any Expr.isStatic = false := by
    refine List.any_eq_false.2 fun e he => ?_
    obtain ⟨r, hr⟩ := Option.isSome_iff_exists.1 (h.markers e he)
    rw [isStatic_of_marks? hr]
    exact Bool.false_ne_true
  rw [isMarked]
  rcases decorators_cases m with ⟨hplain, hds⟩ | ⟨e, hwraps, hds⟩
  · rw [hds, hmarkers, hplain]
    rfl
  · rw [hds, List.any_cons, hmarkers, Bool.or_false, isStatic_of_wraps? hwraps]

end Method

/-! ## Parameters -/

/-- What a call of a step supplies for a parameter. -/
def supplied? (p : FunctionParameter) : Option StepParameter :=
  if p.isRequired then some ⟨p.typeName, p.name⟩ else none

/-- The same for a parameter of the source. -/
def Parameter.evaluated? (noted : Parameter → String) (p : Parameter) : Option StepParameter :=
  if p.isRequired then some (p.evaluated noted) else none

theorem filterMap_eq_of_map_eq {α β γ : Type} {f : α → Option γ} {g : β → Option γ} {xs : List α}
    {ys : List β} (h : xs.map f = ys.map g) : xs.filterMap f = ys.filterMap g := by
  have hid : (xs.map f).filterMap id = (ys.map g).filterMap id := by rw [h]
  simpa [List.filterMap_map] using hid

section
variable (noted : Parameter → String) (owner : String)

theorem supplied?_made {role : ParameterRole} {p : Parameter} (h : isGuarded p.name = false)
    (hrest : role ≠ .rest) (hnamed : role ≠ .named) :
    supplied? (p.made noted owner role) = p.evaluated? noted := by
  have hrequired : (p.made noted owner role).isRequired = p.isRequired := by
    rw [FunctionParameter.isRequired, Parameter.made, bne_iff_ne.2 hrest, bne_iff_ne.2 hnamed]
    simp [Parameter.isRequired]
  rw [supplied?, Parameter.evaluated?, hrequired, Parameter.made, keptName_eq h]
  rfl

/-- A parameter that takes all that is left over is never supplied by itself. -/
theorem supplied?_made_open {role : ParameterRole} (h : role = .rest ∨ role = .named)
    (p : Parameter) : supplied? (p.made noted owner role) = none := by
  have hrequired : (p.made noted owner role).isRequired = false := by
    rcases h with rfl | rfl <;> simp [FunctionParameter.isRequired, Parameter.made]
  rw [supplied?, hrequired, if_neg Bool.false_ne_true]

theorem filterMap_supplied?_open {role : ParameterRole} (h : role = .rest ∨ role = .named)
    (ps : List Parameter) :
    (ps.map (Parameter.made noted owner role)).filterMap supplied? = [] := by
  rw [List.filterMap_map]
  exact List.filterMap_eq_nil_iff.2 fun p _ => supplied?_made_open noted owner h p

theorem map_supplied?_made {role : ParameterRole} {ps : List Parameter}
    (h : ∀ p ∈ ps, isGuarded p.name = false) (hrest : role ≠ .rest) (hnamed : role ≠ .named) :
    (ps.map (Parameter.made noted owner role)).map supplied? =
      ps.map (Parameter.evaluated? noted) := by
  rw [List.map_map]
  exact List.map_congr_left fun p hp => supplied?_made noted owner (h p hp) hrest hnamed

variable {ps : Parameters} (h : ∀ p ∈ ps.all, isGuarded p.name = false)

include h

theorem map_supplied?_positionsMade :
    (ps.positionsMade noted owner).map supplied? =
      ps.positional.map (Parameter.evaluated? noted) := by
  have hpositionOnly : ∀ p ∈ ps.positionOnly, isGuarded p.name = false := fun p hp =>
    h p (by simp [Parameters.all, Parameters.positional, hp])
  have heither : ∀ p ∈ ps.either, isGuarded p.name = false := fun p hp =>
    h p (by simp [Parameters.all, Parameters.positional, hp])
  rw [Parameters.positionsMade, List.map_append, Parameters.positional, List.map_append,
    map_supplied?_made noted owner hpositionOnly (by decide) (by decide),
    map_supplied?_made noted owner heither (by decide) (by decide)]

theorem filterMap_supplied?_othersMade :
    (ps.othersMade noted owner).filterMap supplied? =
      ps.nameOnly.filterMap (Parameter.evaluated? noted) := by
  have hnameOnly : ∀ p ∈ ps.nameOnly, isGuarded p.name = false := fun p hp =>
    h p (by simp [Parameters.all, hp])
  rw [Parameters.othersMade, List.filterMap_append, List.filterMap_append,
    filterMap_supplied?_open noted owner (.inl rfl) ps.rest.toList,
    filterMap_supplied?_open noted owner (.inr rfl) ps.named.toList,
    List.nil_append, List.append_nil]
  exact filterMap_eq_of_map_eq (map_supplied?_made noted owner hnameOnly (by decide) (by decide))

end

theorem map_filter_eq_filterMap {α β : Type} (p : α → Bool) (f : α → β) (xs : List α) :
    (xs.filter p).map f = xs.filterMap fun x => if p x then some (f x) else none := by
  rw [← List.filterMap_eq_map, List.filterMap_filter]
  rfl

/-- Where the parameters with a default stand last, the object may be left out before or after
them. -/
theorem filter_drop_one {ps : List Parameter} (h : defaultsLast ps = true) :
    (ps.drop 1).filter Parameter.isRequired = (ps.filter Parameter.isRequired).drop 1 := by
  cases ps with
  | nil => rfl
  | cons p ps =>
    rw [defaultsLast] at h
    split at h
    · next hp =>
      have hnone : ps.filter Parameter.isRequired = [] :=
        filter_isRequired_eq_nil_iff.2 fun q hq => by
          simpa [Parameter.isRequired, Option.isSome_iff_ne_none] using List.all_eq_true.1 h q hq
      have hfirst : p.isRequired = false := by simpa [Parameter.isRequired] using hp
      simp [hfirst, hnone]
    · next hp =>
      have hfirst : p.isRequired = true := by simpa [Parameter.isRequired] using hp
      simp [hfirst]

/-- The first of two rows loses its head, or the second one that yields nothing. -/
theorem filterMap_drop_one {α β : Type} {f : α → Option β} {xs ys : List α}
    (h : xs ≠ [] ∨ ∃ y ∈ ys.head?, f y = none) :
    ((xs ++ ys).drop 1).filterMap f = (xs.drop 1).filterMap f ++ ys.filterMap f := by
  cases xs with
  | cons x xs => simp
  | nil =>
    obtain ⟨y, hy, hnone⟩ := h.resolve_left (fun hne => hne rfl)
    cases ys with
    | nil => rfl
    | cons z zs =>
      obtain rfl : z = y := Option.some.inj hy
      simp [hnone]

namespace Method

variable {m : Method}

/-- The parameters of a definition are the same, whether the object is left out of those that a
call has to supply or out of all. -/
theorem requiredParameters_eq (h : m.Registers)
    (hdefaults : defaultsLast m.parameters.positional = true) :
    requiredParameters m.isMarked m.parameters = m.required.map Parameter.declared := by
  rw [requiredParameters, isMarked_eq h, required, behindObject, List.filter_append]
  by_cases hstatic : m.wrapper = .static
  · simp only [hstatic, decide_true, if_true]
  · simp only [hstatic, decide_false, if_false, filter_drop_one hdefaults, Bool.false_eq_true]

/-- A definition of the class has the parameters of the source behind the object. -/
theorem required_plain (noted : Parameter → String) (h : m.Registers) :
    (m.plain noted).required = m.required.map (Parameter.evaluated noted) := by
  have hpositions := map_supplied?_positionsMade noted m.owner h.parameters
  have hothers := filterMap_supplied?_othersMade noted m.owner h.parameters
  have hdrop : ((m.parameters.positionsMade noted m.owner).drop 1).filterMap supplied? =
      (m.parameters.positional.drop 1).filterMap (Parameter.evaluated? noted) :=
    filterMap_eq_of_map_eq (by rw [List.map_drop, hpositions, List.map_drop])
  have hplace : m.wrapper = .static ∨ m.parameters.positionsMade noted m.owner ≠ [] ∨
      ∃ q ∈ (m.parameters.othersMade noted m.owner).head?, supplied? q = none := by
    rcases h.object with hstatic | hne | hrest
    · exact .inl hstatic
    · refine .inr (.inl fun hnil => hne ?_)
      simpa [hnil] using hpositions
    · refine .inr (.inr ?_)
      obtain ⟨p, hp⟩ := Option.isSome_iff_exists.1 hrest
      exact ⟨p.made noted m.owner .rest, by simp [Parameters.othersMade, hp],
        supplied?_made_open noted m.owner (.inl rfl) p⟩
  have hclass : (m.plain noted).required = (if m.wrapper = .static then
      m.parameters.made noted m.owner else (m.parameters.made noted m.owner).drop 1).filterMap
        supplied? := map_filter_eq_filterMap _ _ _
  have hsource : m.required.map (Parameter.evaluated noted) =
      m.behindObject.filterMap (Parameter.evaluated? noted) := map_filter_eq_filterMap _ _ _
  rw [hclass, hsource, behindObject, List.filterMap_append, Parameters.made, ← hothers]
  by_cases hstatic : m.wrapper = .static
  · rw [if_pos hstatic, if_pos hstatic, List.filterMap_append, filterMap_eq_of_map_eq hpositions]
  · rw [if_neg hstatic, if_neg hstatic, filterMap_drop_one (hplace.resolve_left hstatic), hdrop]

/-! ## Definitions -/

theorem definitions_eq (module : String) (h : m.Registers)
    (hdefaults : defaultsLast m.parameters.positional = true) :
    m.definitions module = m.registered module Parameter.declared := by
  have hparameters := requiredParameters_eq h hdefaults
  rw [isMarked] at hparameters
  rw [definitions, methodDefinitions, registrations_eq h, hparameters, List.map_map]
  rfl

theorem memberDefinitions_plain (noted : Parameter → String) (h : m.Registers) {c : StepClass}
    (howner : m.owner = c.name) :
    c.memberDefinitions (.method (m.plain noted)) =
      m.registered c.module (Parameter.evaluated noted) := by
  have hregistrations : (m.plain noted).registrations = m.markers.filterMap Expr.marks? := by
    unfold Acceptance.Method.registrations
    split
    · exact registerAll_eq _
    · exact registerAll_eq _
  rw [StepClass.memberDefinitions, hregistrations, required_plain noted h, registered, howner]
  rfl

end Method

/-! ## Classes -/

/-- Members of different names stay where they are put. -/
theorem foldl_placeMember {before after : List Member}
    (h : ((before ++ after).map Member.name).Nodup) :
    after.foldl placeMember before = before ++ after := by
  induction after generalizing before with
  | nil => exact (List.append_nil _).symm
  | cons m after ih =>
    have hnew : (before.any fun n => n.name == m.name) = false := by
      refine List.any_eq_false.2 fun n hn heq => ?_
      rw [List.map_append, List.map_cons] at h
      have hdisjoint := (List.nodup_append.1 h).2.2 n.name (List.mem_map_of_mem hn) m.name
      exact hdisjoint List.mem_cons_self (eq_of_beq heq)
    rw [List.foldl_cons, placeMember, hnew, if_neg Bool.false_ne_true, ih, List.append_assoc]
    · rfl
    · rwa [List.append_assoc]

theorem mapM_eq_some_map {α β : Type} {f : α → Option β} {g : α → β} {xs : List α}
    (h : ∀ x ∈ xs, f x = some (g x)) : xs.mapM f = some (xs.map g) := by
  induction xs with
  | nil => rfl
  | cons x xs ih =>
    rw [List.mapM_cons, h x List.mem_cons_self, ih fun x hx => h x (List.mem_cons_of_mem _ hx)]
    rfl

theorem owner_of_mem_bodyMethods {owner : String} {body : List Stmt} {m : Method}
    (h : ∀ s ∈ body, s.isFunction = true) (hm : m ∈ bodyMethods (some owner) body) :
    m.owner = owner := by
  induction body with
  | nil => cases hm
  | cons s ss ih =>
    rcases List.mem_append.1 hm with hm | hm
    · have hs := h s List.mem_cons_self
      unfold Stmt.isFunction at hs
      split at hs
      · rw [List.mem_singleton.1 hm]
      · cases hs
    · exact ih (fun s hs => h s (List.mem_cons_of_mem _ hs)) hm

theorem plainClass?_eq_some_iff {s : Stmt} {c : String × List Stmt} :
    s.plainClass? = some c ↔ s = .classDef c.1 [] c.2 ∧ ∀ t ∈ c.2, t.isFunction = true := by
  constructor
  · intro h
    unfold Stmt.plainClass? at h
    split at h
    · next name body =>
      split at h
      · next hall =>
        obtain rfl := Option.some.inj h
        exact ⟨rfl, List.all_eq_true.1 hall⟩
      · cases h
    · cases h
  · rintro ⟨rfl, hall⟩
    rw [Stmt.plainClass?, if_pos (List.all_eq_true.2 hall)]

theorem made?_classDef (noted : Method → Parameter → String) (module : String) {name : String}
    {body : List Stmt} (hfunctions : ∀ s ∈ body, s.isFunction = true)
    (hregisters : ∀ m ∈ bodyMethods (some name) body, m.Registers) :
    (Stmt.classDef name [] body).made? noted module =
      some ⟨name, module,
        (bodyMethods (some name) body).map fun m => .method (m.plain (noted m))⟩ := by
  have hmethods : (bodyMethods (some name) body).mapM (fun m : Method => m.made? (noted m)) =
      some ((bodyMethods (some name) body).map fun m => m.plain (noted m)) :=
    mapM_eq_some_map fun m hm => Method.made?_eq (noted m) (hregisters m hm)
  have hplain : (Stmt.classDef name [] body).plainClass? = some (name, body) :=
    plainClass?_eq_some_iff.2 ⟨rfl, hfunctions⟩
  rw [Stmt.made?, hplain, Option.bind_some, hmethods, Option.map_some, List.map_map]
  rfl

/-- The definitions of a made class are those of its methods. -/
theorem definitions_made (noted : Method → Parameter → String) (module : String) {name : String}
    {body : List Stmt} (hfunctions : ∀ s ∈ body, s.isFunction = true)
    (hdistinct : ((bodyMethods (some name) body).map (·.name)).Nodup)
    (hregisters : ∀ m ∈ bodyMethods (some name) body, m.Registers) :
    StepClass.definitions
        ⟨name, module, (bodyMethods (some name) body).map fun m => .method (m.plain (noted m))⟩ =
      (bodyMethods (some name) body).flatMap fun m =>
        m.registered module (Parameter.evaluated (noted m)) := by
  have hnames : (([] ++ (bodyMethods (some name) body).map fun m : Method =>
      Member.method (m.plain (noted m))).map Member.name).Nodup := by
    rw [List.nil_append, List.map_map]
    exact hdistinct
  rw [StepClass.definitions, foldl_placeMember hnames, List.nil_append, List.flatMap_map]
  exact List.flatMap_congr fun m hm => Method.memberDefinitions_plain (noted m) (hregisters m hm)
    (owner_of_mem_bodyMethods hfunctions hm)

/-! ## Agreement -/

/-- Whether a parameter has no type note, or one that is the name of the class it stands for. -/
def Parameter.IsPlain (noted : Parameter → String) (p : Parameter) : Prop :=
  p.note = none ∨ ∃ n, p.note = some (.name n) ∧ noted p = n

theorem typeName_eq {noted : Parameter → String} {p : Parameter} (h : p.IsPlain noted) :
    p.declared.typeName = (p.evaluated noted).typeName := by
  rcases h with hnone | ⟨n, hname, hnoted⟩
  · simp [Parameter.declared, Parameter.evaluated, hnone]
  · have hprint : print (.name n) = n := by rw [print, printAt]
    simp [Parameter.declared, Parameter.evaluated, hname, hnoted, hprint]

/-- Definitions of one method that differ in the type texts of their parameters at most, and only
where a type note is not plain. -/
structure SameStep (noted : Parameter → String) (m : Method) (d e : StepDefinition) : Prop where
  method : d.method = m.name
  same : e = { d with parameters := e.parameters }
  parameters : List.Forall₂ (fun q r => ∃ p ∈ m.parameters.all,
    q.name = p.name ∧ r.name = p.name ∧ (p.IsPlain noted → q.typeName = r.typeName))
      d.parameters e.parameters

theorem sameStep_registered (noted : Parameter → String) (m : Method) (module : String) :
    List.Forall₂ (SameStep noted m) (m.registered module Parameter.declared)
      (m.registered module (Parameter.evaluated noted)) := by
  have hall : ∀ p ∈ m.required, p ∈ m.parameters.all := by
    intro p hp
    have hbehind := List.mem_of_mem_filter hp
    unfold Method.behindObject at hbehind
    rcases List.mem_append.1 hbehind with hpositional | hnameOnly
    · have hmem : p ∈ m.parameters.positional := by
        split at hpositional
        · exact hpositional
        · exact List.mem_of_mem_drop hpositional
      simp [Parameters.all, hmem]
    · simp [Parameters.all, hnameOnly]
  have hparameters : List.Forall₂ (fun q r : StepParameter => ∃ p ∈ m.parameters.all,
      q.name = p.name ∧ r.name = p.name ∧ (p.IsPlain noted → q.typeName = r.typeName))
        (m.required.map Parameter.declared) (m.required.map (Parameter.evaluated noted)) := by
    rw [List.forall₂_map_left_iff, List.forall₂_map_right_iff, List.forall₂_same]
    exact fun p hp => ⟨p, hall p hp, rfl, rfl, typeName_eq⟩
  unfold Method.registered
  rw [List.forall₂_map_left_iff, List.forall₂_map_right_iff, List.forall₂_same]
  exact fun r _ => ⟨rfl, rfl, hparameters⟩

/-! ## Top theorem -/

/-- **A class has the definitions of its source.**  What is read from the source and what the class
made from it registers come in the same order and are the same but for the type texts of
parameters, which agree where the type note is plain. -/
theorem builders_agree {text name : String} {body : List Stmt}
    (hread : readSource text = some [.classDef name [] body])
    (hfunctions : ∀ s ∈ body, s.isFunction = true)
    (hdistinct : ((bodyMethods (some name) body).map (·.name)).Nodup)
    (hregisters : ∀ m ∈ bodyMethods (some name) body, m.Registers)
    (noted : Method → Parameter → String) (module : String) :
    ∃ c ds, (Stmt.classDef name [] body).made? noted module = some c ∧
      analyze text module = some ds ∧
      List.Forall₂ (fun d e => ∃ m ∈ bodyMethods (some name) body, SameStep (noted m) m d e)
        ds c.definitions := by
  have hdefaults : ∀ m ∈ bodyMethods (some name) body,
      defaultsLast m.parameters.positional = true := fun m hm =>
    defaultsLast_of_mem_bodyMethods (ordered_of_readSource hread)
      (show m ∈ bodyMethods none [.classDef name [] body] from List.mem_append_left _ hm)
  have hanalyze : analyze text module =
      some ((bodyMethods (some name) body).flatMap fun m =>
        m.registered module Parameter.declared) := by
    rw [analyze, hread, Option.map_some, bodyDefinitions_eq, bodyMethods, bodyMethods,
      List.append_nil, statementMethods]
    exact congrArg some (List.flatMap_congr fun m hm =>
      Method.definitions_eq module (hregisters m hm) (hdefaults m hm))
  have hclass := definitions_made noted module hfunctions hdistinct hregisters
  refine ⟨_, _, made?_classDef noted module hfunctions hregisters, hanalyze, ?_⟩
  rw [hclass, List.flatMap_def, List.flatMap_def]
  refine List.rel_flatten ?_
  rw [List.forall₂_map_left_iff, List.forall₂_map_right_iff, List.forall₂_same]
  exact fun m hm => (sameStep_registered (noted m) m module).imp fun d e h => ⟨m, hm, h⟩

/-- The source of a class with all kinds of parameters, wrappers and markers. -/
def deskSource : String :=
  "class Desk:\n @staticmethod\n @when('pay \x7bsum\x7d in \x7bcoin\x7d')\n" ++
    " @steps.then('paid \x7bsum\x7d')\n" ++
    " def pay(sum: int, /, coin, tip=1, *rest, loud, low=0, **more): pass\n" ++
    " @given(\"open\")\n def open(self=None, /): pass\n"

theorem deskSource_agrees : ∃ body c ds, readSource deskSource = some [.classDef "Desk" [] body] ∧
    (Stmt.classDef "Desk" [] body).made? (fun _ _ => "int") "desk" = some c ∧
    analyze deskSource "desk" = some ds ∧ ds.map (·.method) = ["pay", "pay", "open"] ∧
    List.Forall₂ (fun d e => ∃ m ∈ bodyMethods (some "Desk") body,
      SameStep (fun _ => "int") m d e) ds c.definitions := by
  have hsource : (readSource deskSource).any (fun source => source.length == 1 &&
      source.all fun s => s.plainClass?.any fun c =>
        let ms := bodyMethods (some c.1) c.2
        c.1 == "Desk" && decide (ms.map (·.name)).Nodup && ms.all (fun m => decide m.Registers) &&
          decide ((bodyDefinitions "desk" (some c.1) c.2).map (·.method) =
            ["pay", "pay", "open"])) = true := by decide +kernel
  obtain ⟨source, hread, hcheck⟩ := (Option.any_eq_true _ _).1 hsource
  obtain ⟨hlength, hclass⟩ := Bool.and_eq_true_iff.1 hcheck
  obtain ⟨s, rfl⟩ := List.length_eq_one_iff.1 (eq_of_beq hlength)
  obtain ⟨⟨name, body⟩, hplain, hall⟩ :=
    (Option.any_eq_true _ _).1 (List.all_eq_true.1 hclass s List.mem_cons_self)
  simp only [Bool.and_eq_true, beq_iff_eq, decide_eq_true_eq, List.all_eq_true] at hall
  obtain ⟨⟨⟨rfl, hdistinct⟩, hregisters⟩, hmethods⟩ := hall
  obtain ⟨rfl, hfunctions⟩ := plainClass?_eq_some_iff.1 hplain
  obtain ⟨c, ds, hmade, hanalyze, hagree⟩ :=
    builders_agree hread hfunctions hdistinct hregisters (fun _ _ => "int") "desk"
  refine ⟨body, c, ds, hread, hmade, hanalyze, ?_, hagree⟩
  rw [analyze, hread] at hanalyze
  rw [← Option.some.inj hanalyze, ← hmethods]
  exact congrArg _ (List.append_nil _)

end Acceptance.Source
