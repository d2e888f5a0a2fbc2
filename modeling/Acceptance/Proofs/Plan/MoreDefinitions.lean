import Acceptance.Proofs.Plan.Stubs
import Acceptance.Proofs.Step.LookUp
import Mathlib.Data.List.Induction

/-!
# More definitions

Where definitions that are registered behind those of a catalog accept no line that had an answer
before, every such line keeps its step; and of the stubs just those go whose lines the new
definitions accept.

    keys of the stubs of C ++ D = those of C that D rejects                  (keys_collect_append)
    D accepts no line that C answers → each such line has one step in both plans
                                                              (more_definitions_disturb_no_step)
-/

namespace Acceptance

namespace Plan

/-! ## Stubs -/

theorem eraseDups_filter {α : Type} [BEq α] [LawfulBEq α] (p : α → Bool) (as : List α) :
    (as.filter p).eraseDups = as.eraseDups.filter p := by
  induction as using List.reverseRecOn with
  | nil => rfl
  | append_singleton as a ih =>
    rw [eraseDups_concat, List.filter_append, List.filter_append, ← ih]
    by_cases hp : p a = true
    · rw [List.filter_singleton, hp, cond_true, eraseDups_concat]
      by_cases ha : a ∈ as
      · have hfilter : a ∈ as.filter p := List.mem_filter.2 ⟨ha, hp⟩
        simp [ha, hfilter]
      · have hfilter : a ∉ as.filter p := fun h => ha (List.mem_filter.1 h).1
        simp [ha, hfilter, hp]
    · by_cases ha : a ∈ as <;> simp [ha, hp]

/-- Whether no definition accepts the lines with a key. -/
def isRejected (D : Catalog) (k : StepKind × String) : Bool := (D.findAll k.1.word k.2).isEmpty

theorem isUnmatched_append (C D : Catalog) (l : Occurrence) :
    l.isUnmatched (C ++ D) = (l.isUnmatched C && isRejected D l.key) := by
  rw [Bool.eq_iff_iff, Bool.and_eq_true]
  simp only [Occurrence.isUnmatched, isRejected, Occurrence.key, Option.isNone_iff_eq_none,
    List.isEmpty_iff]
  exact Catalog.find?_append_eq_none_iff

/-- **The stubs that more definitions leave.** -/
theorem keys_collect_append (C D : Catalog) (ls : List Occurrence) :
    (Stub.collect (C ++ D) ls).map Stub.key =
      ((Stub.collect C ls).map Stub.key).filter (isRejected D) := by
  have hlines : (ls.filter (·.isUnmatched (C ++ D))).map Occurrence.key =
      ((ls.filter (·.isUnmatched C)).map Occurrence.key).filter (isRejected D) := by
    rw [List.filter_map, List.filter_filter]
    refine congrArg _ (List.filter_congr fun l _ => ?_)
    rw [isUnmatched_append, Bool.and_comm, Function.comp_apply]
  rw [(stubsOf_collect (C ++ D) ls).keys, (stubsOf_collect C ls).keys, hlines, eraseDups_filter]

/-! ## Steps -/

/-- The step of a line that a definition answers depends on no stub. -/
theorem step_of_resolution {c : Catalog} {x : PlanLine} {r : Resolution} (stubs : List Stub)
    (h : x.line.resolution? c = some r) : x.step c stubs = x.line.planMatched r x.outline := by
  unfold PlanLine.step Occurrence.plan
  rw [h]

/-- A line with an answer keeps its step under definitions that reject it. -/
theorem step_append {C D : Catalog} {x : PlanLine} (stubs stubs' : List Stub)
    (hmatched : x.line.isUnmatched C = false) (hrejected : isRejected D x.line.key = true) :
    x.step (C ++ D) stubs' = x.step C stubs := by
  have hfind := Catalog.find?_append_of_rejected (C := C) (List.isEmpty_iff.1 hrejected)
  have hsame : x.line.resolution? (C ++ D) = x.line.resolution? C := by
    unfold Occurrence.resolution? Catalog.resolve?
    exact congrArg _ hfind
  cases hr : x.line.resolution? C with
  | none =>
    rw [← resolution?_isNone, hr] at hmatched
    cases hmatched
  | some r => rw [step_of_resolution stubs hr, step_of_resolution stubs' (hsame.trans hr)]

/-! ## Top theorem -/

/-- **More definitions disturb no step.**  Where the definitions `D` accept no line that the
catalog `C` answers, every such line has one step in both plans; and the stubs that are left are
those whose lines no definition of `D` accepts, in the same order. -/
theorem more_definitions_disturb_no_step {C D : Catalog} {fileName : String} {d : Gherkin.Document}
    {p q : Plan} (hp : convert C fileName d = .ok p) (hq : convert (C ++ D) fileName d = .ok q)
    (hD : ∀ x ∈ documentLines d, x.line.isUnmatched C = false →
      D.findAll x.line.kind.word x.line.line.text = []) :
    List.Forall₂ (fun (x : PlanLine) (s : Step × Step) => s.1.text = x.line.line.text ∧
      s.2.text = x.line.line.text ∧ (x.line.isUnmatched C = false → s.2 = s.1))
      (documentLines d) (p.allSteps.zip q.allSteps) ∧
    p.allSteps.length = q.allSteps.length ∧
    q.stubs.map Stub.key =
      (p.stubs.map Stub.key).filter fun k => (D.findAll k.1.word k.2).isEmpty := by
  have hstubs : ∀ c (r : Plan), convert c fileName d = .ok r →
      r.stubs = (d.map (stubsOf c)).getD [] := by
    intro c r hr
    cases d with
    | none =>
      obtain rfl := Except.ok.inj hr
      rfl
    | some f =>
      obtain ⟨-, rfl⟩ := convert_some_eq_ok_iff.1 hr
      rfl
  refine ⟨?_, ?_, ?_⟩
  · rw [allSteps_of_convert hp, allSteps_of_convert hq, List.zip_map', List.forall₂_map_right_iff,
      List.forall₂_same]
    intro x hx
    refine ⟨(x.step_text_table C _).1, (x.step_text_table (C ++ D) _).1, fun hmatched => ?_⟩
    exact step_append _ _ hmatched (List.isEmpty_iff.2 (hD x hx hmatched))
  · rw [allSteps_of_convert hp, allSteps_of_convert hq, List.length_map, List.length_map]
  · rw [hstubs C p hp, hstubs (C ++ D) q hq]
    cases d with
    | none => rfl
    | some f => exact keys_collect_append C D (allOccurrences f)

/-- A definition for the second of the stubs of `waitFeature`. -/
def waitDefinition : StepDefinition :=
  { kind := .action, pattern := "a \x7bthing\x7d waits", owner := "Doing", module := "steps",
    method := "wait", parameters := [⟨"str", "thing"⟩] }

theorem waitFeature_implemented :
    ∃ p q, convert [overDefinition] "waiting" (some waitFeature) = .ok p ∧
      convert ([overDefinition] ++ [waitDefinition]) "waiting" (some waitFeature) = .ok q ∧
      p.stubs.map Stub.key = [(.context, "a <thing> waits"), (.action, "a <thing> waits")] ∧
      q.stubs.map Stub.key = [(.context, "a <thing> waits")] ∧
      p.allSteps.length = 4 ∧ q.allSteps[3]? = p.allSteps[3]? := by
  have hp : convert [overDefinition] "waiting" (some waitFeature) =
      .ok (plan [overDefinition] "waiting" waitFeature) :=
    convert_some_eq_ok_iff.2 ⟨by decide +kernel, rfl⟩
  have hq : convert ([overDefinition] ++ [waitDefinition]) "waiting" (some waitFeature) =
      .ok (plan ([overDefinition] ++ [waitDefinition]) "waiting" waitFeature) :=
    convert_some_eq_ok_iff.2 ⟨by decide +kernel, rfl⟩
  obtain ⟨hsteps, hlength, hstubs⟩ := more_definitions_disturb_no_step hp hq (by decide +kernel)
  have hkeys : (plan [overDefinition] "waiting" waitFeature).stubs.map Stub.key =
      [(.context, "a <thing> waits"), (.action, "a <thing> waits")] := by decide +kernel
  generalize plan [overDefinition] "waiting" waitFeature = p at *
  generalize plan ([overDefinition] ++ [waitDefinition]) "waiting" waitFeature = q at *
  have hlines : (documentLines (some waitFeature)).length = 4 := by decide
  have hlast : ∀ x, (documentLines (some waitFeature))[3]? = some x →
      x.line.isUnmatched [overDefinition] = false := by decide +kernel
  have hfour : p.allSteps.length = 4 := by
    rw [← hlines, hsteps.length_eq, List.length_zip, ← hlength, Nat.min_self]
  refine ⟨p, q, hp, hq, hkeys, ?_, hfour, ?_⟩
  · rw [hstubs, hkeys]
    decide +kernel
  · have hp₃ : 3 < p.allSteps.length := by omega
    have hq₃ : 3 < q.allSteps.length := by omega
    have hstep := hsteps.get (i := 3) (by omega) (by rw [List.length_zip]; omega)
    rw [List.get_eq_getElem, List.get_eq_getElem, List.getElem_zip] at hstep
    rw [List.getElem?_eq_getElem hq₃, List.getElem?_eq_getElem hp₃]
    exact congrArg some (hstep.2.2 (hlast _ (List.getElem?_eq_getElem _)))

end Plan

end Acceptance
