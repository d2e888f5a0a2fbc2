import Acceptance.Command.Outcome
import Acceptance.Proofs.Project.SettingUp

/-!
# The command that sets up

The command sets up a project with the configuration that it has, or that of a new one.  Where it
succeeds it has changed nothing but the configuration file, which holds what it held, and it changes
nothing when it is given again.

    (setUp p).ending.code = 0 → SetsUp p c (setUp p).project   for some c      (setsUp_of_success)
    SetsUp p c q → (setUp q).project = q ∧ (setUp q).ending = .success         (SetsUp.again)
-/

namespace Acceptance

namespace Outcome

variable (o : Outcome) (line : String) (lines : List String)

@[simp] theorem say_project : (o.say line).project = o.project := rfl

@[simp] theorem say_ending : (o.say line).ending = o.ending := rfl

@[simp] theorem sayAll_project : (o.sayAll lines).project = o.project := by
  induction lines generalizing o with
  | nil => rfl
  | cons line lines ih => exact ih (o.say line)

@[simp] theorem sayAll_ending : (o.sayAll lines).ending = o.ending := by
  induction lines generalizing o with
  | nil => rfl
  | cons line lines ih => exact ih (o.say line)

end Outcome

namespace Command

variable {p q : Project} {c : Config} {o : Outcome} {made : SetUp → List String}

/-- A project that was set up, and what it was before. -/
structure SetsUp (p : Project) (c : Config) (q : Project) : Prop where
  config : if p.isInitialized then p.loadConfig = .ok c else c = .standard
  made : ∃ s, p.setUp c = ⟨q, .ok s⟩

theorem setUpWith_of_made {s : SetUp} (h : o.project.setUp c = ⟨q, .ok s⟩) :
    (setUpWith o c made).project = q ∧ (setUpWith o c made).ending = o.ending := by
  unfold setUpWith
  simp [h]

theorem made_of_setUpWith (h : (setUpWith o c made).ending.code = 0) :
    ∃ s, o.project.setUp c = ⟨(setUpWith o c made).project, .ok s⟩ := by
  cases hs : o.project.setUp c with
  | mk q result =>
    cases result with
    | ok s =>
      rw [(setUpWith_of_made hs).1]
      exact ⟨s, rfl⟩
    | error e =>
      unfold setUpWith at h
      rw [hs] at h
      cases h

theorem isInitialized_of_loadConfig (h : p.loadConfig = .ok c) : p.isInitialized = true := by
  unfold Project.loadConfig at h
  split at h
  · assumption
  · cases h

theorem settled_standard : Config.standard.Settled :=
  ⟨⟨_, rfl⟩, ⟨_, rfl⟩, trivial, trivial, ⟨trivial, trivial⟩, trivial, trivial, trivial, trivial,
    trivial, trivial⟩

/-- Where the command succeeds the project is set up. -/
theorem setsUp_of_success (h : (setUp p).ending.code = 0) : ∃ c, SetsUp p c (setUp p).project := by
  unfold setUp at h ⊢
  by_cases hinitialized : p.isInitialized = true
  · simp only [if_pos hinitialized, withConfig] at h ⊢
    split at h
    · next c hload =>
      have hload' : p.loadConfig = .ok c := hload
      exact ⟨c, ⟨by rw [if_pos hinitialized]; exact hload', made_of_setUpWith h⟩⟩
    · cases h
    · cases h
  · simp only [if_neg hinitialized] at h ⊢
    exact ⟨.standard, ⟨by rw [if_neg hinitialized], made_of_setUpWith h⟩⟩

namespace SetsUp

theorem settled (h : SetsUp p c q) : c.Settled := by
  have hconfig := h.config
  split at hconfig
  · obtain ⟨s, -, hread⟩ := Project.read_of_loadConfig hconfig
    exact Config.settled_of_read hread
  · rw [hconfig]
    exact settled_standard

theorem loads (h : SetsUp p c q) : q.loadConfig = .ok c := by
  obtain ⟨s, hs⟩ := h.made
  exact Project.setUp_loads hs h.settled

/-- **Setting up again changes nothing.** -/
theorem again (h : SetsUp p c q) : (setUp q).project = q ∧ (setUp q).ending = .success := by
  obtain ⟨s, hs⟩ := h.made
  obtain ⟨s', hs' : q.setUp c = _⟩ := Project.setUp_done hs q (.refl q)
  unfold setUp
  simp only [if_pos (isInitialized_of_loadConfig h.loads), withConfig]
  have hload : ((Outcome.start q).say
      "Warning: Project is already initialized. Keeping configuration.").project.loadConfig =
        .ok c := h.loads
  rw [hload]
  exact setUpWith_of_made hs'

end SetsUp

/-! ## Top theorem -/

/-- **Setting up is done once.**  A command that sets up a project and succeeds keeps whatever
stood in its tree, the configuration file aside.  A configuration that the project had is loaded
as before, and the command changes nothing when it is given again, also with other options. -/
theorem set_up_once {p : Project} {words : List String} {level : Level}
    (asked : CommandLine.ofWords? words = some ⟨level, .setUp⟩)
    (success : (run p words).1.ending.code = 0) :
    (∀ l n, l ≠ p.configPath.place p.tree.here → p.tree.node? l = some n →
      (run p words).1.project.tree.node? l = some n) ∧
    (p.isInitialized = true →
      ∃ c, p.loadConfig = .ok c ∧ (run p words).1.project.loadConfig = .ok c) ∧
    ∀ again level', CommandLine.ofWords? again = some ⟨level', .setUp⟩ →
      (run (run p words).1.project again).1.project = (run p words).1.project ∧
        (run (run p words).1.project again).1.ending = .success := by
  have hrun : ∀ (q : Project) {words : List String} {level : Level},
      CommandLine.ofWords? words = some ⟨level, .setUp⟩ → (run q words).1 = setUp q := by
    intro q words level h
    rw [run, h]
    rfl
  rw [hrun p asked] at success ⊢
  obtain ⟨c, h⟩ := setsUp_of_success success
  obtain ⟨s, hs⟩ := h.made
  refine ⟨fun l n hl hn => (Project.setUp_keeps hs).2.node? hl hn, fun hinitialized => ?_,
    fun again level' hagain => ?_⟩
  · have hconfig := h.config
    rw [if_pos hinitialized] at hconfig
    exact ⟨c, hconfig, h.loads⟩
  · rw [hrun _ hagain]
    exact h.again

/-- A project with nothing but a feature. -/
def fresh : Project :=
  { tree := ((((FileTree.empty ["home"]).putDirectory ["home"]).putDirectory
      ["home", "features"]).putFile ["home", "features", "a.feature"] "Feature: One\n".toUTF8)
    root := ⟨1, ["home"]⟩ }

/-- Such a project is set up, and then set up again with the configuration that it has. -/
theorem fresh_set_up :
    (run fresh ["init"]).1.ending.code = 0 ∧
      (run (run fresh ["init"]).1.project ["--debug", "init"]).1.project =
        (run fresh ["init"]).1.project ∧
      ∃ c, (run fresh ["init"]).1.project.loadConfig = .ok c ∧
        (run (run fresh ["init"]).1.project ["--debug", "init"]).1.project.loadConfig = .ok c := by
  have asked : CommandLine.ofWords? ["init"] = some ⟨.warning, .setUp⟩ := by decide
  have success : (run fresh ["init"]).1.ending.code = 0 := by decide +kernel
  have askedAgain : CommandLine.ofWords? ["--debug", "init"] = some ⟨.debug, .setUp⟩ := by decide
  obtain ⟨-, -, again⟩ := set_up_once asked success
  obtain ⟨hproject, hending⟩ := again _ _ askedAgain
  have initialized : (run fresh ["init"]).1.project.isInitialized = true := by decide +kernel
  obtain ⟨-, loads, -⟩ := set_up_once askedAgain (by rw [hending]; rfl)
  exact ⟨success, hproject, loads initialized⟩

end Command

end Acceptance
