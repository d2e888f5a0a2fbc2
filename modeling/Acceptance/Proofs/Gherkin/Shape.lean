import Acceptance.Gherkin.Reader

/-!
# The shape of features that are read

In a feature that is read, a background stands in front of the scenarios and these in front of the
rules, since a node lists its parts so when it is closed.  That there is at most one background is
the grammar's doing: a background opens only at places that no row leads back to.

    pending r.openNodes ≤ 1              the backgrounds of the feature, the open one included
    Document.read text = .ok (some f) → f.Shaped                                   (read_shaped)
-/

namespace Acceptance.Gherkin

/-- A feature as the reader makes it: at most one background, then scenarios, then rules. -/
def Feature.Shaped (f : Feature) : Prop :=
  ∃ (bs : List Background) (ss : List Scenario) (rs : List Rule),
    f.children = bs.map .background ++ ss.map .scenario ++ rs.map .rule ∧ bs.length ≤ 1

/-! ## Backgrounds of open nodes -/

/-- The backgrounds of the outermost node, one that is open right inside it included. -/
def pending : List Node → Nat
  | [] => 0
  | [n] => n.partBackgrounds.length
  | [m, n] => n.partBackgrounds.length + if m.kind = .background then 1 else 0
  | _ :: m :: n :: rest => pending (m :: n :: rest)

def addedPart (n : Node) (p : Part) : Node := { n with parts := p :: n.parts }

/-- What a closed node amounts to tells backgrounds and features from all else. -/
theorem close_eq_ok {n : Node} {p : Part} (h : n.close = .ok (some p)) :
    (∃ b, p = .background b ∧ n.kind = .background) ∨
    (∃ f, p = .feature f ∧ n.feature? = some f) ∨
    ((∀ b, p ≠ .background b) ∧ ∀ f, p ≠ .feature f) := by
  unfold Node.close at h
  cases hk : n.kind <;> simp only [hk, Except.ok.injEq, Option.some.injEq] at h
  case background =>
    obtain ⟨b, -, rfl⟩ := Option.map_eq_some_iff.1 h
    exact .inl ⟨b, rfl, rfl⟩
  case feature =>
    obtain ⟨f, hf, rfl⟩ := Option.map_eq_some_iff.1 h
    exact .inr (.inl ⟨f, rfl, hf⟩)
  case dataTable =>
    cases hr : n.rows <;> simp only [hr, Except.map, Except.ok.injEq, Option.some.injEq] at h
    · cases h
    · exact .inr (.inr ⟨by simp [← h], by simp [← h]⟩)
  case examplesTable =>
    cases hr : n.rows <;> simp only [hr, Except.map, Except.ok.injEq, Option.some.injEq] at h
    · cases h
    · exact .inr (.inr ⟨by simp [← h], by simp [← h]⟩)
  case tags => exact .inr (.inr ⟨by simp [← h], by simp [← h]⟩)
  case description => exact .inr (.inr ⟨by simp [← h], by simp [← h]⟩)
  case docString => exact .inr (.inr ⟨by simp [← h], by simp [← h]⟩)
  all_goals
    obtain ⟨x, -, rfl⟩ := Option.map_eq_some_iff.1 h
    exact .inr (.inr ⟨by simp, by simp⟩)

theorem length_partBackgrounds_added (n : Node) (p : Part) :
    (addedPart n p).partBackgrounds.length =
      n.partBackgrounds.length + if (p matches .background _) then 1 else 0 := by
  unfold Node.partBackgrounds addedPart
  simp only [List.reverse_cons, List.filterMap_append, List.length_append]
  cases p <;> rfl

/-- A part of a closed node leaves no more backgrounds than the open node counted for. -/
theorem pending_added_le {n m : Node} {rest : List Node} {p : Part} (h : n.close = .ok (some p)) :
    pending (addedPart m p :: rest) ≤ pending (n :: m :: rest) := by
  match rest with
  | [] =>
    simp only [pending, length_partBackgrounds_added]
    cases p with
    | background b =>
      have hk : n.kind = .background := by
        rcases close_eq_ok h with ⟨b, -, hk⟩ | ⟨f, hf, -⟩ | ⟨hb, -⟩
        · exact hk
        · cases hf
        · exact absurd rfl (hb b)
      simp [hk]
    | _ => simp
  | [k] => exact Nat.le_refl _
  | k :: l :: rest => exact Nat.le_refl _

theorem pending_tail_le (n m : Node) (rest : List Node) :
    pending (m :: rest) ≤ pending (n :: m :: rest) := by
  match rest with
  | [] => simp [pending]
  | k :: rest => exact Nat.le_refl _

theorem children_of_feature? {n : Node} {f : Feature} (h : n.feature? = some f) :
    f.children = n.partBackgrounds.map .background ++ n.partScenarios.map .scenario ++
      n.partRules.map .rule := by
  unfold Node.feature? at h
  cases hh : n.partHeader? with
  | none => simp [hh] at h
  | some header =>
    simp only [hh, Option.map_some, Option.some.injEq] at h
    rw [← h]

/-! ## Rows of the grammar -/

/-- Whether no background of the feature was read yet at a place. -/
def Place.isEarly : Place → Bool
  | start | afterLanguage | featureTags | featureHeader | featureDescription => true
  | _ => false

/-- What a row keeps of the open nodes are those around its next place; a background of the feature
opens from an early place only, and no row leads back to one. -/
theorem rows_fit (p : Place) : ∀ t ∈ p.rows,
    t.keep ≤ p.openNodes.length ∧ t.keep ≤ t.next.openNodes.length ∧
    t.next.openNodes.drop (t.next.openNodes.length - t.keep) =
      p.openNodes.drop (p.openNodes.length - t.keep) ∧
    (t.next.isEarly = true → p.isEarly = true) ∧
    (t.keep < 2 → t.next.openNodes.reverse[1]? = some .background →
      p.isEarly = true ∧ t.next.isEarly = false) := by
  cases p <;> (try cases ‹Scope›) <;> (try cases ‹Holder›) <;> decide

namespace Reading

/-! ## Reading keeps what it has read -/

/-- A reading but for its scan and its faults. -/
def core (r : Reading) : Place × List Node × Document := (r.place, r.openNodes, r.document)

theorem core_record (r : Reading) (f : Fault) : (r.record f).core = r.core := by
  unfold record
  split <;> rfl

theorem core_test (r : Reading) (kind : TokenKind) (l : Line) :
    (r.test kind l).1.core = r.core := by
  unfold test
  split
  · rfl
  · exact core_record r _

theorem core_lookAhead (r : Reading) (kind : TokenKind) (ls : List Line) :
    (r.lookAhead kind ls).1.core = r.core := by
  induction ls generalizing r with
  | nil => rfl
  | cons l rest ih =>
    have h₁ := core_test r kind l
    unfold lookAhead
    split
    · next heq => rw [heq] at h₁; exact h₁
    · next r₁ heq =>
      rw [heq] at h₁
      have h₂ := core_test r₁ .empty l
      split
      · next heq => rw [heq] at h₂; rw [ih, h₂, h₁]
      · next r₂ heq =>
        rw [heq] at h₂
        have h₃ := core_test r₂ .comment l
        split
        · next heq => rw [heq] at h₃; rw [ih, h₃, h₂, h₁]
        · next r₃ heq =>
          rw [heq] at h₃
          have h₄ := core_test r₃ .tagLine l
          split
          · next heq => rw [heq] at h₄; rw [ih, h₄, h₃, h₂, h₁]
          · next heq => rw [heq] at h₄; exact h₄.trans (h₃.trans (h₂.trans h₁))

theorem core_passes (r : Reading) (t : Test) (l : Line) (rest : List Line) :
    (r.passes t l rest).1.core = r.core := by
  have h₁ := core_test r t.kind l
  unfold passes
  split
  · next r₁ token kind heq _ =>
    rw [heq] at h₁
    have h₂ := core_lookAhead r₁ kind rest
    split
    · next heq => rw [heq] at h₂; exact h₂.trans h₁
    · next heq => rw [heq] at h₂; exact h₂.trans h₁
  · exact h₁

/-! ## The invariant -/

/-- The feature of a document is shaped, and the open nodes hold at most `bound` backgrounds. -/
structure Bounded (r : Reading) (bound : Nat) : Prop where
  openNodes : pending r.openNodes ≤ bound
  document : ∀ f, r.document = some f → f.Shaped

/-- The open nodes are those of the place, and there is a background only behind early places. -/
structure Inv (r : Reading) : Prop extends Bounded r (if r.place.isEarly then 0 else 1) where
  kinds : r.openNodes.map (·.kind) = r.place.openNodes

theorem inv_of_core {r r' : Reading} (h : r'.core = r.core) (hi : r.Inv) : r'.Inv := by
  simp only [core, Prod.mk.injEq] at h
  obtain ⟨hp, hn, hd⟩ := h
  refine ⟨⟨?_, ?_⟩, ?_⟩
  · rw [hn, hp]; exact hi.openNodes
  · rw [hd]; exact hi.document
  · rw [hn, hp]; exact hi.kinds

/-! ## Closing nodes -/

theorem closeNode_kinds (r : Reading) :
    r.closeNode.openNodes.map (·.kind) = (r.openNodes.map (·.kind)).drop 1 := by
  unfold closeNode
  cases hn : r.openNodes with
  | nil => simp [hn]
  | cons n rest =>
    simp only
    split
    · next p _ =>
      unfold addPart
      cases rest with
      | nil => cases p <;> rfl
      | cons m rest => rfl
    · rfl
    · next f _ =>
      have := core_record { r with openNodes := rest } f
      simp only [core, Prod.mk.injEq] at this
      rw [this.2.1]
      rfl

theorem closeNode_bounded {r : Reading} {bound : Nat} (hb : bound ≤ 1) (h : r.Bounded bound) :
    r.closeNode.Bounded bound := by
  unfold closeNode
  cases hn : r.openNodes with
  | nil => exact h
  | cons n rest =>
    have hpend := h.openNodes
    rw [hn] at hpend
    have htail : pending rest ≤ bound := by
      cases rest with
      | nil => exact Nat.zero_le _
      | cons m rest => exact Nat.le_trans (pending_tail_le n m rest) hpend
    simp only
    split
    · next p hc =>
      unfold addPart
      cases rest with
      | cons m rest => exact ⟨Nat.le_trans (pending_added_le hc) hpend, h.document⟩
      | nil =>
        -- the feature itself is closed, with the backgrounds that were counted for it
        rcases close_eq_ok hc with ⟨b, rfl, -⟩ | ⟨f, rfl, hf⟩ | ⟨-, hne⟩
        · exact ⟨htail, h.document⟩
        · refine ⟨htail, fun g hg => ?_⟩
          obtain rfl := Option.some.inj hg
          exact ⟨_, _, _, children_of_feature? hf, Nat.le_trans hpend hb⟩
        · cases p with
          | feature f => exact absurd rfl (hne f)
          | _ => exact ⟨htail, h.document⟩
    · exact ⟨htail, h.document⟩
    · next f _ =>
      have := core_record { r with openNodes := rest } f
      simp only [core, Prod.mk.injEq] at this
      exact ⟨by rw [this.2.1]; exact htail, by rw [this.2.2]; exact h.document⟩

theorem closeNodes_kinds (k : Nat) (r : Reading) :
    (closeNodes k r).openNodes.map (·.kind) = (r.openNodes.map (·.kind)).drop k := by
  induction k generalizing r with
  | zero => rfl
  | succ k ih => rw [closeNodes, ih, closeNode_kinds, List.drop_drop, Nat.add_comm]

theorem closeNodes_bounded {bound : Nat} (hb : bound ≤ 1) (k : Nat) {r : Reading}
    (h : r.Bounded bound) : (closeNodes k r).Bounded bound := by
  induction k generalizing r with
  | zero => exact h
  | succ k ih => exact ih (closeNode_bounded hb h)

/-! ## Opening nodes -/

theorem openAll_kinds (r : Reading) (kinds : List NodeKind) :
    (r.openAll kinds).openNodes.map (·.kind) = kinds.reverse ++ r.openNodes.map (·.kind) := by
  unfold openAll
  simp only
  generalize r.openNodes = nodes
  induction kinds generalizing nodes with
  | nil => rfl
  | cons k kinds ih =>
    rw [List.foldl_cons, ih]
    simp [Node.empty]

/-- Nodes opened inside two others or more change nothing. -/
theorem pending_foldl_of_two (kinds : List NodeKind) (nodes : List Node) (h : 2 ≤ nodes.length) :
    pending (kinds.foldl (fun nodes k => .empty k :: nodes) nodes) = pending nodes := by
  induction kinds generalizing nodes with
  | nil => rfl
  | cons k kinds ih =>
    rw [List.foldl_cons, ih _ (by simp; omega)]
    match nodes, h with
    | _ :: _ :: _, _ => rfl

/-- A background counts when it is the second node from outside. -/
theorem pending_foldl_le (kinds : List NodeKind) (nodes : List Node) :
    pending (kinds.foldl (fun nodes k => .empty k :: nodes) nodes) ≤ pending nodes +
      if nodes.length < 2 ∧ (kinds.reverse ++ nodes.map (·.kind)).reverse[1]? = some .background
      then 1 else 0 := by
  match nodes, kinds with
  | _ :: _ :: _, kinds => rw [pending_foldl_of_two _ _ (by simp)]; omega
  | [n], [] => exact Nat.le_add_right _ _
  | [n], k :: kinds =>
    rw [List.foldl_cons, pending_foldl_of_two _ _ (by simp)]
    by_cases hk : k = .background <;> simp [pending, Node.empty, hk]
  | [], [] => exact Nat.le_add_right _ _
  | [], [k] => simp [pending, Node.empty, Node.partBackgrounds]
  | [], k :: l :: kinds =>
    rw [List.foldl_cons, List.foldl_cons, pending_foldl_of_two _ _ (by simp)]
    by_cases hl : l = .background <;> simp [pending, Node.empty, Node.partBackgrounds, hl]

/-! ## Moving -/

theorem pending_addToken (r : Reading) (t : Token) (l : Line) :
    pending (r.addToken t l).openNodes = pending r.openNodes := by
  unfold addToken
  split
  · next n rest hn =>
    rw [hn]
    match rest with
    | [] => rfl
    | [m] => rfl
    | k :: m :: rest => rfl
  · rfl

theorem addToken_kinds (r : Reading) (t : Token) (l : Line) :
    (r.addToken t l).openNodes.map (·.kind) = r.openNodes.map (·.kind) := by
  unfold addToken
  split
  · next h => simp [h]
  · rfl

theorem document_addToken (r : Reading) (t : Token) (l : Line) :
    (r.addToken t l).document = r.document := by
  unfold addToken
  split <;> rfl

theorem addToken_bounded {r : Reading} {bound : Nat} (h : r.Bounded bound) (t : Token) (l : Line) :
    (r.addToken t l).Bounded bound :=
  ⟨Nat.le_trans (Nat.le_of_eq (pending_addToken r t l)) h.openNodes, fun f hf =>
    h.document f ((document_addToken r t l).symm.trans hf)⟩

section
variable {r : Reading} {t : Transition}

/-- The nodes that a row leaves open are the outer ones of its next place. -/
theorem kinds_of_closed (hi : r.Inv) (ht : t ∈ r.place.rows) :
    (closeNodes (r.place.openNodes.length - t.keep) r).openNodes.map (·.kind) =
      t.next.openNodes.drop (t.next.openNodes.length - t.keep) := by
  obtain ⟨-, -, hkept, -⟩ := rows_fit r.place t ht
  rw [closeNodes_kinds, hi.kinds, hkept]

variable {closed : Reading} (kinds : closed.openNodes.map (·.kind) =
  t.next.openNodes.drop (t.next.openNodes.length - t.keep))

include kinds

/-- The nodes that a row opens are the inner ones of its next place. -/
theorem kinds_of_opened :
    (closed.openAll (t.next.openNodes.take (t.next.openNodes.length - t.keep)).reverse).openNodes.map
      (·.kind) = t.next.openNodes := by
  rw [openAll_kinds, List.reverse_reverse, kinds, List.take_append_drop]

theorem bounded_of_opened (ht : t ∈ r.place.rows)
    (h : closed.Bounded (if r.place.isEarly then 0 else 1)) :
    (closed.openAll (t.next.openNodes.take (t.next.openNodes.length - t.keep)).reverse).Bounded
      (if t.next.isEarly then 0 else 1) := by
  obtain ⟨-, hto, -, hback, hbackground⟩ := rows_fit r.place t ht
  have hlength : closed.openNodes.length = t.keep := by
    have := congrArg List.length kinds
    simp only [List.length_map, List.length_drop] at this
    omega
  have hle := pending_foldl_le
    (t.next.openNodes.take (t.next.openNodes.length - t.keep)).reverse closed.openNodes
  rw [List.reverse_reverse, kinds, List.take_append_drop, hlength] at hle
  refine ⟨Nat.le_trans hle ?_, h.document⟩
  have hpending := h.openNodes
  by_cases hb : t.keep < 2 ∧ t.next.openNodes.reverse[1]? = some .background
  · -- a background of the feature is opened, so none was read before
    obtain ⟨hearly, hnext⟩ := hbackground hb.1 hb.2
    simp only [hearly, if_true] at hpending
    simp only [if_pos hb, hnext, Bool.false_eq_true, if_false]
    omega
  · rw [if_neg hb]
    refine Nat.le_trans hpending ?_
    cases he : t.next.isEarly with
    | true => simp [hback he]
    | false => split <;> simp

end

/-- **One row.**  Moving along a row keeps the invariant. -/
theorem move_inv {r : Reading} (hi : r.Inv) {t : Transition} (ht : t ∈ r.place.rows)
    (token : Token) (l : Line) : (r.move t token l).Inv := by
  have hone : (if r.place.isEarly then 0 else 1) ≤ 1 := by split <;> omega
  have hkinds := kinds_of_closed hi ht
  have hclosed := closeNodes_bounded hone (r.place.openNodes.length - t.keep) hi.toBounded
  have hmoved := addToken_bounded (bounded_of_opened hkinds ht hclosed) token l
  refine ⟨⟨hmoved.openNodes, hmoved.document⟩, ?_⟩
  exact (addToken_kinds _ token l).trans (kinds_of_opened hkinds)

theorem takeRow_inv {r : Reading} (hi : r.Inv) (l : Line) (rest : List Line)
    (rows : List Transition) (hrows : ∀ t ∈ rows, t ∈ r.place.rows) :
    (r.takeRow l rest rows).Inv := by
  induction rows generalizing r with
  | nil => exact inv_of_core (core_record r _) hi
  | cons t rows ih =>
    have hcore := core_passes r t.test l rest
    unfold takeRow
    split
    · next r₁ token heq =>
      rw [heq] at hcore
      have hi₁ := inv_of_core hcore hi
      split
      · exact hi₁
      · refine move_inv hi₁ ?_ token l
        rw [show r₁.place = r.place from congrArg Prod.fst hcore]
        exact hrows t List.mem_cons_self
    · next r₁ heq =>
      rw [heq] at hcore
      refine ih (inv_of_core hcore hi) fun t ht => ?_
      rw [show r₁.place = r.place from congrArg Prod.fst hcore]
      exact hrows t (List.mem_cons_of_mem _ ht)

/-- **All lines.** -/
theorem readLines_inv {r : Reading} (hi : r.Inv) (ls : List Line) : (r.readLines ls).Inv := by
  induction ls generalizing r with
  | nil => exact hi
  | cons l rest ih =>
    unfold readLines
    split
    · exact hi
    · exact ih (takeRow_inv hi l rest _ fun _ ht => ht)

theorem start_inv : start.Inv :=
  ⟨⟨Nat.zero_le _, fun _ h => nomatch h⟩, rfl⟩

end Reading

/-! ## Top theorem -/

/-- **The shape of what is read.** -/
theorem Document.read_shaped {text : String} {f : Feature}
    (h : Document.read text = .ok (some f)) : f.Shaped := by
  unfold Document.read at h
  simp only at h
  split at h
  · exact (Reading.readLines_inv Reading.start_inv (linesOf text)).document f (Except.ok.inj h)
  · cases h

end Acceptance.Gherkin
