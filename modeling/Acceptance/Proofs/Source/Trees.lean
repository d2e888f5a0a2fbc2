import Acceptance.Source.Statement

/-!
# Trees of sources

What a reader gives is known from the pieces it is made of, whatever it reads.  So it is seen once
along the grammar that no function of a source has a parameter without a default behind one with a
default: the list of the parameters is tried for it, and all else passes the functions on.

    Gives p P → (∀ a, P a → Gives (f a) Q) → Gives (p >>= f) Q                        (gives_bind)
    readSource text = some body → ∀ s ∈ body, s.Ordered                    (ordered_of_readSource)
-/

namespace Acceptance.Text.Scan

variable {ι α β : Type}

/-! ## Values of scans -/

/-- All values that a scan gives satisfy `Q`. -/
def Gives (p : Scan ι α) (Q : α → Prop) : Prop := ∀ ts a rest, p ts = some (a, rest) → Q a

section
variable {p q : Scan ι α} {P Q : α → Prop} {R : β → Prop}

theorem gives_pure {a : α} (h : Q a) : Gives (pure a : Scan ι α) Q := by
  intro ts b rest he
  obtain ⟨rfl, rfl⟩ := Prod.mk.inj (Option.some.inj he)
  exact h

theorem gives_failure : Gives (failure : Scan ι α) Q := nofun

theorem gives_bind {f : α → Scan ι β} (hp : Gives p P) (hf : ∀ a, P a → Gives (f a) R) :
    Gives (p >>= f) R := by
  intro ts b rest h
  obtain ⟨⟨a, more⟩, ha, hb⟩ := Option.bind_eq_some_iff.1 h
  exact hf a (hp ts a more ha) more b rest hb

theorem gives_behind {f : α → Scan ι β} (hf : ∀ a, Gives (f a) R) : Gives (p >>= f) R :=
  gives_bind (P := fun _ => True) (fun _ _ _ _ => trivial) fun a _ => hf a

theorem gives_map {f : α → β} (h : Gives p fun a => R (f a)) : Gives (f <$> p) R :=
  gives_bind h fun _ ha => gives_pure ha

theorem gives_seqRight {r : Scan ι β} (h : Gives r R) : Gives (p *> r) R :=
  gives_behind fun _ => h

theorem gives_orElse (hp : Gives p Q) (hq : Gives q Q) : Gives (p <|> q) Q := by
  intro ts a rest h
  rcases Option.or_eq_some_iff.1 ((Option.orElse_eq_or).symm.trans h) with h | ⟨-, h⟩
  · exact hp ts a rest h
  · exact hq ts a rest h

theorem gives_ofOption {o : Option α} (h : ∀ a, o = some a → Q a) :
    Gives (ofOption o : Scan ι α) Q := by
  cases o with
  | none => exact gives_failure
  | some a => exact gives_pure (h a rfl)

theorem gives_option (h : Gives p Q) : Gives (option p) fun o => ∀ a ∈ o, Q a :=
  gives_orElse (gives_map fun ts a rest ha _ hb => Option.some.inj hb ▸ h ts a rest ha)
    (gives_pure nofun)

theorem gives_atMost (h : Gives p Q) (n : Nat) : Gives (atMost n p) fun as => ∀ a ∈ as, Q a := by
  induction n with
  | zero => exact gives_pure nofun
  | succ n ih =>
    refine gives_bind (gives_option h) fun o ho => ?_
    cases o with
    | none => exact gives_pure nofun
    | some a => exact gives_bind ih fun as has => gives_pure (List.forall_mem_cons.2 ⟨ho a rfl, has⟩)

theorem gives_many (h : Gives p Q) : Gives (many p) fun as => ∀ a ∈ as, Q a :=
  gives_behind fun ts => gives_atMost h ts.length

theorem gives_several (h : Gives p Q) : Gives (several p) fun as => ∀ a ∈ as, Q a :=
  gives_bind h fun _ ha => gives_bind (gives_many h) fun _ has =>
    gives_pure (List.forall_mem_cons.2 ⟨ha, has⟩)

end

end Acceptance.Text.Scan

namespace Acceptance.Source

open Acceptance.Text Scan Source.Parser

/-! ## Parameters -/

/-- A statement in whose classes no function has a parameter without a default behind one with. -/
inductive Stmt.Ordered : Stmt → Prop
  | simple : Ordered .simple
  | classDef {name : String} {decorators : List Expr} {body : List Stmt} :
      (∀ s ∈ body, Ordered s) → Ordered (.classDef name decorators body)
  | functionDef {name : String} {decorators : List Expr} {ps : Parameters} {body : List Stmt} :
      defaultsLast ps.positional = true → Ordered (.functionDef name decorators ps body)
  | compound {blocks : List (List Stmt)} : Ordered (.compound blocks)

theorem defaultsLast_ofSlots? {slots : List Slot} {ps : Parameters}
    (h : Parameters.ofSlots? slots = some ps) : defaultsLast ps.positional = true := by
  unfold Parameters.ofSlots? at h
  simp only at h
  split at h
  · split at h
    · cases h
    · next hn =>
      obtain ⟨⟨star, nameOnly, named⟩, -, rfl⟩ := Option.map_eq_some_iff.1 h
      simp only [Bool.or_eq_true, not_or, Bool.not_eq_true, Bool.not_eq_false'] at hn
      exact hn.2
  · split at h
    · cases h
    · next hn =>
      obtain ⟨⟨star, nameOnly, named⟩, -, rfl⟩ := Option.map_eq_some_iff.1 h
      simp only [Bool.not_eq_true, Bool.not_eq_false'] at hn
      exact hn

theorem gives_parameters (r : Inner) (notes : Bool) (stop : String) :
    Gives (r.parameters notes stop) fun ps => defaultsLast ps.positional = true := by
  refine gives_behind fun stops => ?_
  cases stops with
  | true => exact gives_pure rfl
  | false => exact gives_behind fun _ => gives_ofOption fun _ => defaultsLast_ofSlots?

/-! ## Statements -/

section
variable {s : Scope} {block : Parser (List Stmt)}

theorem gives_line : Gives s.line fun ss => ∀ x ∈ ss, x.Ordered := by
  refine gives_behind fun _ => gives_behind fun _ => gives_behind fun _ => gives_behind fun _ => ?_
  refine gives_pure fun x hx => ?_
  obtain ⟨_, -, rfl⟩ := List.mem_map.1 hx
  exact .simple

theorem gives_functionStatement (decorators : List Expr) :
    Gives (s.functionStatement block decorators) Stmt.Ordered := by
  refine gives_behind fun _ => gives_behind fun _ => ?_
  refine gives_bind (gives_parameters _ _ _) fun ps hps => gives_behind fun _ => ?_
  refine gives_behind fun arrow => ?_
  cases arrow with
  | true => exact gives_behind fun _ => gives_behind fun _ => gives_pure (.functionDef hps)
  | false => exact gives_behind fun _ => gives_pure (.functionDef hps)

theorem gives_classStatement (hblock : Gives block fun ss => ∀ x ∈ ss, x.Ordered)
    (decorators : List Expr) : Gives (s.classStatement block decorators) Stmt.Ordered := by
  have hbody : Gives (Scope.colonBlock block) fun ss => ∀ x ∈ ss, x.Ordered :=
    gives_seqRight hblock
  refine gives_behind fun _ => gives_behind fun opened => ?_
  cases opened with
  | true => exact gives_behind fun _ => gives_bind hbody fun _ h => gives_pure (.classDef h)
  | false => exact gives_bind hbody fun _ h => gives_pure (.classDef h)

theorem gives_decorated (hblock : Gives block fun ss => ∀ x ∈ ss, x.Ordered) :
    Gives (s.decorated block) Stmt.Ordered := by
  refine gives_behind fun _ => gives_behind fun isClass => ?_
  cases isClass with
  | true => exact gives_classStatement hblock _
  | false => exact gives_behind fun _ => gives_behind fun _ => gives_functionStatement _

theorem gives_asyncStatement : Gives (s.asyncStatement block) Stmt.Ordered := by
  refine gives_behind fun t => ?_
  split
  · exact gives_functionStatement []
  · exact gives_behind fun _ => gives_behind fun _ => gives_pure .compound
  · exact gives_map fun _ _ _ _ => .compound
  · exact gives_failure

theorem gives_compound (hblock : Gives block fun ss => ∀ x ∈ ss, x.Ordered) :
    Gives (s.compound block) Stmt.Ordered := by
  refine gives_behind fun t => ?_
  split
  · exact gives_decorated hblock
  · split
    · exact gives_asyncStatement
    · exact gives_asyncStatement
    · exact gives_asyncStatement
    · exact gives_seqRight gives_asyncStatement
    · exact gives_seqRight (gives_classStatement hblock [])
    · exact gives_map fun _ _ _ _ => .compound
    · exact gives_map fun _ _ _ _ => .compound
    · exact gives_map fun _ _ _ _ => .compound
    · exact gives_failure
  · exact gives_map fun _ _ _ _ => .compound
  · exact gives_failure

theorem gives_statement (hblock : Gives block fun ss => ∀ x ∈ ss, x.Ordered) :
    Gives (s.statement block) fun ss => ∀ x ∈ ss, x.Ordered := by
  refine gives_orElse (gives_bind (gives_compound hblock) fun x hx => gives_pure ?_) gives_line
  exact List.forall_mem_singleton.2 hx

theorem ordered_flatten {sss : List (List Stmt)} (h : ∀ ss ∈ sss, ∀ x ∈ ss, x.Ordered) :
    ∀ x ∈ sss.flatten, x.Ordered := by
  intro x hx
  obtain ⟨ss, hss, hx⟩ := List.mem_flatten.1 hx
  exact h ss hss x hx

theorem gives_blockAt (n : Nat) : Gives (s.blockAt n) fun ss => ∀ x ∈ ss, x.Ordered := by
  induction n with
  | zero => exact gives_failure
  | succ n ih =>
    have hstatements : Gives (s.statements (s.blockAt n)) fun ss => ∀ x ∈ ss, x.Ordered :=
      gives_map fun _ _ _ h => ordered_flatten (gives_several (gives_statement ih) _ _ _ h)
    refine gives_behind fun newline => ?_
    cases newline with
    | true =>
      exact gives_behind fun _ => gives_bind hstatements fun _ h => gives_behind fun _ => gives_pure h
    | false => exact gives_line

end

/-- **No function of a source has a parameter without a default behind one with a default.** -/
theorem ordered_of_readSource {text : String} {body : List Stmt} (h : readSource text = some body) :
    ∀ s ∈ body, s.Ordered := by
  have hsource (s : Scope) : Gives s.source fun ss => ∀ x ∈ ss, x.Ordered := by
    refine gives_bind (gives_many (gives_statement (gives_blockAt s.depth))) fun _ hss => ?_
    exact gives_behind fun _ => gives_behind fun _ => gives_pure (ordered_flatten hss)
  unfold readSource at h
  split at h
  · cases h
  · obtain ⟨⟨ss, rest⟩, hread, rfl⟩ := Option.map_eq_some_iff.1 h
    exact hsource _ _ ss rest hread

end Acceptance.Source
