import Acceptance.Proofs.Source.Names
import Acceptance.Source.Expression

/-!
# Reading literals, lists and calls

An expression in one piece with a comma, a closing bracket or the end of the line behind it passes
all levels of the operators as it is.  So text literals are read as they stand, lists of them item
by item, and a call with such lists value by value.

    Ends rest → r.stepped ts = some (e, rest) → r.expression ts = some (e, rest)
                                                                            (expression_of_stepped)
    Reads r item e → Reads r' ("[" item "]") (.list [e])                              (Reads.list)
    name "(" items ")" is read as a call with the items                                 (test_call)
    readLiterals (commaLiterals bodies) = some texts                    (readLiterals_commaLiterals)
-/

namespace Acceptance.Text.Scan

variable {ι α β : Type}

/-! ## Scans -/

theorem bind_of_eq {p : Scan ι α} {f : α → Scan ι β} {ts rest : List ι} {a : α}
    (h : p ts = some (a, rest)) : (p >>= f) ts = f a rest := by
  show (p ts).bind (fun r => f r.1 r.2) = _
  rw [h]
  rfl

theorem bind_of_none {p : Scan ι α} {f : α → Scan ι β} {ts : List ι} (h : p ts = none) :
    (p >>= f) ts = none := by
  show (p ts).bind (fun r => f r.1 r.2) = _
  rw [h]
  rfl

theorem map_of_eq {p : Scan ι α} {f : α → β} {ts rest : List ι} {a : α}
    (h : p ts = some (a, rest)) : (f <$> p) ts = some (f a, rest) := by
  show (p ts).bind (fun r => some (f r.1, r.2)) = _
  rw [h]
  rfl

theorem map_of_none {p : Scan ι α} {f : α → β} {ts : List ι} (h : p ts = none) :
    (f <$> p) ts = none := by
  show (p ts).bind (fun r => some (f r.1, r.2)) = _
  rw [h]
  rfl

theorem option_of_eq {p : Scan ι α} {ts rest : List ι} {a : α} (h : p ts = some (a, rest)) :
    option p ts = some (some a, rest) := by
  show ((some <$> p) ts <|> some (none, ts)) = _
  rw [map_of_eq h]
  rfl

theorem option_of_none {p : Scan ι α} {ts : List ι} (h : p ts = none) :
    option p ts = some (none, ts) := by
  show ((some <$> p) ts <|> some (none, ts)) = _
  rw [map_of_none h]
  rfl

theorem many_of_none {p : Scan ι α} {ts : List ι} (h : p ts = none) : many p ts = some ([], ts) := by
  show atMost ts.length p ts = _
  cases ts.length with
  | zero => rfl
  | succ n => exact bind_of_eq (option_of_none h)

theorem many_of_one {p : Scan ι α} {t : ι} {ts rest : List ι} {a : α}
    (h : p (t :: ts) = some (a, rest)) (hstop : p rest = none) :
    many p (t :: ts) = some ([a], rest) := by
  have hothers : atMost ts.length p rest = some ([], rest) := by
    cases ts.length with
    | zero => rfl
    | succ n => exact bind_of_eq (option_of_none hstop)
  show atMost (ts.length + 1) p (t :: ts) = _
  exact (bind_of_eq (option_of_eq h)).trans (bind_of_eq hothers)

/-- Items of some tokens each, as many as there are.  `Q` says what may follow an item. -/
theorem many_flatMap {p : Scan ι α} {f : β → List ι} {g : β → α} {Q : List ι → Prop}
    {bs : List β} {rest : List ι} (hrest : Q rest) (hstop : p rest = none)
    (hnext : ∀ b more, Q (f b ++ more)) (hlong : ∀ b, f b ≠ [])
    (hitem : ∀ b ∈ bs, ∀ more, Q more → p (f b ++ more) = some (g b, more)) :
    many p (bs.flatMap f ++ rest) = some (bs.map g, rest) := by
  have hmost : ∀ n, bs.length ≤ n → atMost n p (bs.flatMap f ++ rest) = some (bs.map g, rest) := by
    induction bs with
    | nil =>
      rintro (_ | n) -
      · rfl
      · exact bind_of_eq (option_of_none hstop)
    | cons b bs ih =>
      rintro (_ | n) hn
      · simp at hn
      · have hmore : Q (bs.flatMap f ++ rest) := by
          cases bs with
          | nil => exact hrest
          | cons b' bs =>
            rw [List.flatMap_cons, List.append_assoc]
            exact hnext b' _
        have hfirst := hitem b List.mem_cons_self _ hmore
        have hothers := ih (fun b' hb' => hitem b' (List.mem_cons_of_mem _ hb')) n
          (Nat.le_of_succ_le_succ hn)
        rw [List.flatMap_cons, List.append_assoc]
        exact (bind_of_eq (option_of_eq hfirst)).trans (bind_of_eq hothers)
  refine hmost _ ?_
  have hlen : bs.length ≤ (bs.flatMap f).length := by
    clear hmost hitem
    induction bs with
    | nil => simp
    | cons b bs ih =>
      have := List.length_pos_iff.2 (hlong b)
      simp only [List.flatMap_cons, List.length_append, List.length_cons]
      omega
  rw [List.length_append]
  omega

end Acceptance.Text.Scan

namespace Acceptance.Source

open Acceptance.Text Scan Source.Parser

/-! ## Algorithm -/

/-- What may stand behind an operand: a comma, a closing bracket or the end of the line. -/
def Ends (ts : List Token) : Prop :=
  ∃ t rest, ts = t :: rest ∧ t ∈ [.op ",", .op "]", .op ")", Token.newline]

/-- What opens an operand without signs: a literal, a square bracket or a name. -/
inductive Opens : List Token → Prop
  | text (t : TextLiteral) (ts : List Token) : Opens (.text t :: ts)
  | number (n : Number) (ts : List Token) : Opens (.number n :: ts)
  | square (ts : List Token) : Opens (.op "[" :: ts)
  | name (n : String) (ts : List Token) : Opens (.name n :: ts)

/-- The expression that a source text is, up to the end of its line. -/
def readExpression (cs : List Char) : Option Expr :=
  match tokens (.ofList cs) with
  | none => none
  | some ts =>
    match (Inner.atDepth (cs.length + 2)).test ts with
    | some (e, [.newline]) => some e
    | _ => none

def Expr.text? : Expr → Option String
  | .text s _ => some s
  | _ => none

/-- The texts that a source text lists, literal by literal with commas between them. -/
def readLiterals (cs : List Char) : Option (List String) :=
  match tokens (.ofList cs) with
  | none => none
  | some [] => some []
  | some ts =>
    match commas (Inner.atDepth (cs.length + 2)).test ts with
    | some (es, [.newline]) => es.mapM Expr.text?
    | _ => none

theorem Opens.tryMark {ts : List Token} (h : Opens ts) {m : String} (hm : m ≠ "[") :
    tryMark m ts = some (false, ts) := by
  cases h with
  | text t ts => rfl
  | number n ts => rfl
  | name n ts => rfl
  | square ts =>
    have hne : ¬Token.op "[" = .op m := fun he => hm (Token.op.inj he).symm
    show (if Token.op "[" = .op m then _ else _ : Parser Bool) _ = _
    rw [if_neg hne]
    rfl

/-! ## Levels -/

section
variable {r : Inner} {ts rest : List Token} {e : Expr}

theorem step_of_ends (h : Ends rest) : r.step rest = none := by
  obtain ⟨t, rest, rfl, ht⟩ := h
  simp only [List.mem_cons, List.not_mem_nil, or_false] at ht
  rcases ht with rfl | rfl | rfl | rfl <;> rfl

theorem oneOf_of_ends (h : Ends rest) {table : List (String × BinaryOp)}
    (ht : table ∈ Inner.levels) : oneOf table rest = none := by
  obtain ⟨t, rest, rfl, hend⟩ := h
  simp only [Inner.levels, List.mem_cons, List.not_mem_nil, or_false] at ht hend
  rcases ht with rfl | rfl | rfl | rfl | rfl | rfl <;>
    rcases hend with rfl | rfl | rfl | rfl <;> rfl

theorem comparisonOp_of_ends (h : Ends rest) : Inner.comparisonOp rest = none := by
  obtain ⟨t, rest, rfl, ht⟩ := h
  simp only [List.mem_cons, List.not_mem_nil, or_false] at ht
  rcases ht with rfl | rfl | rfl | rfl <;> rfl

theorem word_of_ends (h : Ends rest) (w : String) : word w rest = none := by
  obtain ⟨t, rest, rfl, ht⟩ := h
  simp only [List.mem_cons, List.not_mem_nil, or_false] at ht
  rcases ht with rfl | rfl | rfl | rfl <;> rfl

theorem power_of_stepped (hopens : Opens ts) (hends : Ends rest)
    (h : r.stepped ts = some (e, rest)) : r.power ts = some (e, rest) := by
  have hawait : tryWord "await" ts = some (false, ts) := by cases hopens <;> rfl
  have hpower : tryMark "**" rest = some (false, rest) := by
    obtain ⟨t, rest, rfl, ht⟩ := hends
    simp only [List.mem_cons, List.not_mem_nil, or_false] at ht
    rcases ht with rfl | rfl | rfl | rfl <;> rfl
  rw [Inner.power, bind_of_eq hawait]
  exact (bind_of_eq h).trans (bind_of_eq hpower)

theorem signed_of_power (hopens : Opens ts) (h : r.power ts = some (e, rest)) :
    r.signed ts = some (e, rest) := by
  have hsigns : oneOf Inner.signs ts = none := by cases hopens <;> rfl
  rw [Inner.signed, bind_of_eq (many_of_none hsigns), bind_of_eq h]
  rfl

/-- A sign in front of an operand. -/
theorem signed_of_sign {s : String} {op : UnaryOp} (hopens : Opens ts)
    (hsign : oneOf Inner.signs (.op s :: ts) = some (op, ts)) (h : r.power ts = some (e, rest)) :
    r.signed (.op s :: ts) = some (.unary op e, rest) := by
  have hsigns : oneOf Inner.signs ts = none := by cases hopens <;> rfl
  rw [Inner.signed, bind_of_eq (many_of_one hsign hsigns), bind_of_eq h]
  rfl

theorem chain_of_operand {table : List (String × BinaryOp)} {operand : Parser Expr}
    (hends : oneOf table rest = none) (h : operand ts = some (e, rest)) :
    chain table operand ts = some (e, rest) := by
  rw [chain, bind_of_eq h, bind_of_eq (many_of_none (bind_of_none hends))]
  rfl

theorem combined_of_signed (hends : Ends rest) (h : r.signed ts = some (e, rest)) :
    r.combined ts = some (e, rest) := by
  have hchain : ∀ tables ⊆ Inner.levels, ∀ operand : Parser Expr, operand ts = some (e, rest) →
      tables.foldl (fun operand table => chain table operand) operand ts = some (e, rest) := by
    intro tables
    induction tables with
    | nil => exact fun _ _ h => h
    | cons table tables ih =>
      intro hsub operand h
      obtain ⟨htable, hsub⟩ := List.cons_subset.1 hsub
      exact ih hsub _ (chain_of_operand (oneOf_of_ends hends htable) h)
  exact hchain _ (List.Subset.refl _) _ h

theorem comparison_of_combined (hends : Ends rest) (h : r.combined ts = some (e, rest)) :
    r.comparison ts = some (e, rest) := by
  rw [Inner.comparison, bind_of_eq h,
    bind_of_eq (many_of_none (bind_of_none (comparisonOp_of_ends hends)))]
  rfl

theorem inversion_of_comparison (hnot : word "not" ts = none)
    (h : r.comparison ts = some (e, rest)) : r.inversion ts = some (e, rest) := by
  rw [Inner.inversion, bind_of_eq (many_of_none hnot), bind_of_eq h]
  rfl

theorem joined_of_operand {op : BoolOp} {w : String} {operand : Parser Expr} (hends : Ends rest)
    (h : operand ts = some (e, rest)) : joined op w operand ts = some (e, rest) := by
  have hnone : (word w *> operand) rest = none := bind_of_none (word_of_ends hends w)
  rw [joined, bind_of_eq h, bind_of_eq (many_of_none hnone)]
  rfl

theorem expression_of_alternatives (hlambda : sees [.reserved "lambda"] ts = some (false, ts))
    (hends : Ends rest) (h : r.alternatives ts = some (e, rest)) :
    r.expression ts = some (e, rest) := by
  rw [Inner.expression, bind_of_eq hlambda]
  show r.conditional ts = _
  rw [Inner.conditional, bind_of_eq h,
    bind_of_eq (option_of_none (bind_of_none (word_of_ends hends "if")))]
  rfl

/-- An operand that is read with its signs is read as a whole. -/
theorem expression_of_signed (hnot : word "not" ts = none)
    (hlambda : sees [.reserved "lambda"] ts = some (false, ts)) (hends : Ends rest)
    (h : r.signed ts = some (e, rest)) : r.expression ts = some (e, rest) := by
  have hcomparison := comparison_of_combined hends (combined_of_signed hends h)
  have hinversion := inversion_of_comparison hnot hcomparison
  exact expression_of_alternatives hlambda hends
    (joined_of_operand hends (joined_of_operand hends hinversion))

/-- An expression that is read in one piece is read as a whole. -/
theorem expression_of_stepped (hopens : Opens ts) (hends : Ends rest)
    (h : r.stepped ts = some (e, rest)) : r.expression ts = some (e, rest) := by
  refine expression_of_signed ?_ ?_ hends (signed_of_power hopens (power_of_stepped hopens hends h))
  · cases hopens <;> rfl
  · cases hopens <;> rfl

theorem stepped_of_atom (hends : Ends rest) (h : r.atom ts = some (e, rest)) :
    r.stepped ts = some (e, rest) := by
  rw [Inner.stepped, bind_of_eq h, bind_of_eq (many_of_none (step_of_ends hends))]
  rfl

end

/-! ## Items -/

/-- Tokens that are read as an expression wherever an operand may end; they bind no name. -/
structure Reads (r : Inner) (item : List Token) (e : Expr) : Prop where
  opens : ∀ more, Opens (item ++ more)
  unbound : ∀ more, Ends more → ∀ m ∈ [":=", "="],
    seesNameBefore m (item ++ more) = some (false, item ++ more)
  test : ∀ more, Ends more → r.test (item ++ more) = some (e, more)

/-- A text literal is read as it stands. -/
theorem Reads.literal (n : Nat) {body : List Char} {s : String}
    (h : decodeText false body = some s) :
    Reads (Inner.atDepth (n + 1)) [plainText body] (.text s false) where
  opens _ := .text _ _
  unbound _ _ _ _ := rfl
  test rest hends := by
    refine expression_of_stepped (.text _ _) hends (stepped_of_atom hends ?_)
    have hone : textLiteral (plainText body :: rest) =
        some (⟨false, false, false, false, body⟩, rest) := rfl
    have hno : textLiteral rest = none := by
      obtain ⟨t, rest, rfl, ht⟩ := hends
      simp only [List.mem_cons, List.not_mem_nil, or_false] at ht
      rcases ht with rfl | rfl | rfl | rfl <;> rfl
    have hseveral : several textLiteral (plainText body :: rest) =
        some ([⟨false, false, false, false, body⟩], rest) := by
      rw [several, bind_of_eq hone, bind_of_eq (many_of_none hno)]
      rfl
    show (Inner.atDepth n).literals (plainText body :: rest) = _
    rw [Inner.literals, bind_of_eq hseveral]
    simp only [joinLiterals, List.any_cons, List.any_nil, Bool.or_self, Bool.false_eq_true,
      if_false, List.mapM_cons, List.mapM_nil, h]
    exact congrArg (fun s => some (Expr.text s false, rest)) (by simp [String.join])

/-- A name is read as it stands. -/
theorem Reads.name (n : Nat) (id : String) :
    Reads (Inner.atDepth (n + 1)) [.name id] (.name id) where
  opens _ := .name _ _
  unbound more hends m hm := by
    obtain ⟨t, rest, rfl, ht⟩ := hends
    simp only [List.mem_cons, List.not_mem_nil, or_false] at ht hm
    rcases ht with rfl | rfl | rfl | rfl <;> rcases hm with rfl | rfl <;> rfl
  test _ hends := expression_of_stepped (.name _ _) hends (stepped_of_atom hends rfl)

section
variable {r : Inner} {item more : List Token} {e : Expr}

theorem Reads.named (h : Reads r item e) (hends : Ends more) :
    r.named (item ++ more) = some (e, more) := by
  rw [Inner.named, bind_of_eq (h.unbound more hends ":=" (by simp))]
  exact h.test more hends

theorem Reads.starredNamed (h : Reads r item e) (hends : Ends more) :
    r.starredNamed (item ++ more) = some (e, more) := by
  rw [Inner.starredNamed, bind_of_eq ((h.opens more).tryMark (by decide))]
  exact h.named hends

theorem Reads.argument (h : Reads r item e) (hends : Ends more) :
    r.argument (item ++ more) = some (.plain e, more) := by
  have hnamed := h.named hends
  have hopens := h.opens more
  have hsees := h.unbound more hends "=" (by simp)
  generalize item ++ more = ts at hnamed hopens hsees
  have hstar : ∀ m, m ≠ "[" → Parser.tryMark m ts = some (false, ts) := fun _ => hopens.tryMark
  rw [Inner.argument, bind_of_eq (hstar "*" (by decide))]
  exact (bind_of_eq (hstar "**" (by decide))).trans ((bind_of_eq hsees).trans (map_of_eq hnamed))

theorem seesClause_of_ends (h : Ends more) : Inner.seesClause more = some (false, more) := by
  obtain ⟨t, more, rfl, ht⟩ := h
  simp only [List.mem_cons, List.not_mem_nil, or_false] at ht
  rcases ht with rfl | rfl | rfl | rfl <;> rfl

end

/-! ## Lists and calls -/

section
variable {α : Type} {n : Nat} {rest : List Token} {f : α → List Token} {g : α → Expr} {as : List α}

theorem ends_comma (rest : List Token) : Ends (.op "," :: rest) := ⟨_, _, rfl, by simp⟩

theorem ends_square (rest : List Token) : Ends (.op "]" :: rest) := ⟨_, _, rfl, by simp⟩

theorem ends_round (rest : List Token) : Ends (.op ")" :: rest) := ⟨_, _, rfl, by simp⟩

theorem ends_items (hrest : Ends rest) : Ends (as.flatMap (fun a => .op "," :: f a) ++ rest) := by
  cases as with
  | nil => exact hrest
  | cons a as => exact ends_comma _

/-- Items behind commas. -/
theorem many_commas {β : Type} {p : Parser β} {h : α → β} (hrest : Ends rest)
    (hstop : (mark "," *> p) rest = none)
    (hitem : ∀ a ∈ as, ∀ more, Ends more → p (f a ++ more) = some (h a, more)) :
    many (mark "," *> p) (as.flatMap (fun a => .op "," :: f a) ++ rest) = some (as.map h, rest) :=
  many_flatMap (Q := Ends) hrest hstop (fun _ _ => ends_comma _) (by simp) hitem

/-- **A list of items is read item by item.** -/
theorem Reads.list (hitem : ∀ a ∈ as, Reads (Inner.atDepth n) (f a) (g a)) :
    Reads (Inner.atDepth (n + 1)) (.op "[" :: (commaTokens (as.map f) ++ [.op "]"]))
      (.list (as.map g)) where
  opens _ := .square _
  unbound _ _ _ _ := rfl
  test rest hends := by
    refine expression_of_stepped (.square _) hends (stepped_of_atom hends ?_)
    show (Inner.atDepth n).square (commaTokens (as.map f) ++ [.op "]"] ++ rest) = _
    rw [List.append_assoc, List.singleton_append]
    cases as with
    | nil => rfl
    | cons a as =>
      have hfirst := hitem a List.mem_cons_self
      have hbehind : Ends (as.flatMap (fun a => .op "," :: f a) ++ .op "]" :: rest) :=
        ends_items (ends_square rest)
      have hothers : many (mark "," *> (Inner.atDepth n).starredNamed)
          (as.flatMap (fun a => .op "," :: f a) ++ .op "]" :: rest) = some (as.map g, .op "]" :: rest) :=
        many_commas (ends_square rest) rfl fun a ha _ =>
          (hitem a (List.mem_cons_of_mem _ ha)).starredNamed
      rw [List.map_cons, commaTokens, intercalate_cons, List.append_assoc, List.flatMap_map]
      show (Inner.atDepth n).square (f a ++ (as.flatMap (fun a => .op "," :: f a) ++ _)) = _
      rw [Inner.square, bind_of_eq ((hfirst.opens _).tryMark (by decide))]
      refine (bind_of_eq (hfirst.starredNamed hbehind)).trans ?_
      refine (bind_of_eq (seesClause_of_ends hbehind)).trans ?_
      exact (bind_of_eq hothers).trans rfl

/-- The words behind the last value of a call: a comma may stand before the bracket. -/
def callEnd (trailing : Bool) (rest : List Token) : List Token :=
  (if trailing then [.op ","] else []) ++ .op ")" :: rest

theorem ends_callEnd (trailing : Bool) (rest : List Token) : Ends (callEnd trailing rest) := by
  cases trailing
  · exact ends_round rest
  · exact ends_comma _

/-- The values of a call by their places. -/
theorem arguments_plain (es : List Expr) : Inner.inOrder (es.map .plain) = true ∧
    Inner.positions (es.map .plain) = es ∧ Inner.names (es.map .plain) = [] := by
  induction es with
  | nil => exact ⟨rfl, rfl, rfl⟩
  | cons e es ih =>
    obtain ⟨horder, hpositions, hnames⟩ := ih
    exact ⟨horder, congrArg (e :: ·) hpositions, hnames⟩

/-- **A call is read value by value.** -/
theorem test_call (function : String) {a : α} {trailing : Bool} (hends : Ends rest)
    (hitem : ∀ b ∈ a :: as, Reads (Inner.atDepth (n + 1)) (f b) (g b)) :
    (Inner.atDepth (n + 2)).test (.name function :: .op "(" ::
      (f a ++ (as.flatMap (fun b => .op "," :: f b) ++ callEnd trailing rest))) =
        some (.call (.name function) (g a :: as.map g) [], rest) := by
  have hfirst := hitem a List.mem_cons_self
  have hbehind : Ends (as.flatMap (fun b => .op "," :: f b) ++ callEnd trailing rest) :=
    ends_items (ends_callEnd trailing rest)
  have hstop : (mark "," *> (Inner.atDepth (n + 1)).argument) (callEnd trailing rest) = none := by
    cases trailing <;> rfl
  have hothers : many (mark "," *> (Inner.atDepth (n + 1)).argument)
      (as.flatMap (fun b => .op "," :: f b) ++ callEnd trailing rest) =
        some (as.map fun b => .plain (g b), callEnd trailing rest) :=
    many_commas (ends_callEnd trailing rest) hstop fun b hb _ =>
      (hitem b (List.mem_cons_of_mem _ hb)).argument
  obtain ⟨horder, hpositions, hnames⟩ := arguments_plain (g a :: as.map g)
  have harguments : (Inner.atDepth (n + 1)).arguments true
      (f a ++ (as.flatMap (fun b => .op "," :: f b) ++ callEnd trailing rest)) =
        some ((g a :: as.map g, []), rest) := by
    rw [Inner.arguments, bind_of_eq ((hfirst.opens _).tryMark (by decide))]
    refine (bind_of_eq (hfirst.argument hbehind)).trans ?_
    refine (bind_of_eq (seesClause_of_ends hbehind)).trans ?_
    refine (bind_of_eq hothers).trans ?_
    have hcomma : discard (tryMark ",") (callEnd trailing rest) = some ((), .op ")" :: rest) := by
      cases trailing <;> rfl
    have hclose : mark ")" (.op ")" :: rest) = some ((), rest) := rfl
    refine (bind_of_eq hcomma).trans ((bind_of_eq hclose).trans ?_)
    rw [List.map_cons, List.map_map] at horder hpositions hnames
    show (ensure (Inner.inOrder (.plain (g a) :: as.map (.plain ∘ g))) >>= fun _ =>
      pure (Inner.positions (.plain (g a) :: as.map (.plain ∘ g)),
        Inner.names (.plain (g a) :: as.map (.plain ∘ g))) : Parser (List Expr × List Named)) rest = _
    rw [horder, hpositions, hnames]
    rfl
  have hstep : (Inner.atDepth (n + 1)).step (.op "(" ::
      (f a ++ (as.flatMap (fun b => .op "," :: f b) ++ callEnd trailing rest))) =
        some (fun e => .call e (g a :: as.map g) [], rest) := by
    show ((Inner.atDepth (n + 1)).arguments true >>= fun r =>
      (pure fun e => .call e r.1 r.2 : Parser (Expr → Expr))) _ = _
    rw [bind_of_eq harguments]
    rfl
  refine expression_of_stepped (.name _ _) hends ?_
  have hname : ∀ ts, (Inner.atDepth (n + 1)).atom (.name function :: ts) =
      some (.name function, ts) := fun _ => rfl
  rw [Inner.stepped, bind_of_eq (hname _), bind_of_eq (many_of_one hstep (step_of_ends hends))]
  rfl

end

/-! ## Lists of literals -/

section
variable {body : String → List Char} {value : String → String}

theorem onOneLine_commaLiterals {bodies : List (List Char)} (h : ∀ b ∈ bodies, Contained b) :
    OnOneLine (commaLiterals bodies) := by
  intro c hc
  have hquoted : ∀ b ∈ bodies, c ∈ inQuotes b → c ≠ '\n' ∧ c ≠ '\r' := by
    intro b hb hc
    simp only [inQuotes, List.mem_cons, List.mem_append, List.not_mem_nil, or_false] at hc
    rcases hc with rfl | hc | rfl
    · decide
    · exact (h b hb).line c hc
    · decide
  cases bodies with
  | nil => cases hc
  | cons b bs =>
    rw [commaLiterals, List.map_cons, intercalate_cons, List.flatMap_map] at hc
    rcases List.mem_append.1 hc with hc | hc
    · exact hquoted b List.mem_cons_self hc
    · obtain ⟨b', hb', hc⟩ := List.mem_flatMap.1 hc
      rcases List.mem_append.1 hc with hc | hc
      · simp only [List.mem_cons, List.not_mem_nil, or_false] at hc
        rcases hc with rfl | rfl <;> decide
      · exact hquoted b' (List.mem_cons_of_mem _ hb') hc

theorem tokens_commaLiterals (hcontained : ∀ s, Contained (body s)) (s : String) (ss : List String) :
    tokens (.ofList (commaLiterals ((s :: ss).map body))) =
      some (commaTokens (((s :: ss).map body).map fun body => [plainText body]) ++ [.newline]) := by
  have hbodies : ∀ b ∈ (s :: ss).map body, Contained b := by
    intro b hb
    obtain ⟨t, -, rfl⟩ := List.mem_map.1 hb
    exact hcontained t
  have hscans := scans_commaLiterals [] ['\n'] hbodies (by simp)
  have hline := onOneLine_commaLiterals hbodies
  have hreturn : '\r' ∉ commaLiterals ((s :: ss).map body) := fun h => (hline _ h).2 rfl
  have hlast : (commaLiterals ((s :: ss).map body)).getLast? ≠ some '\n' :=
    fun h => (hline _ (List.mem_of_getLast? h)).1 rfl
  obtain ⟨cs, hcs⟩ : ∃ cs, commaLiterals ((s :: ss).map body) = '"' :: cs := by
    rw [commaLiterals, List.map_cons, List.map_cons, intercalate_cons]
    exact ⟨_, rfl⟩
  rw [hcs] at hscans hreturn hlast ⊢
  exact tokens_of_scans (by decide) hreturn hlast hscans

/-- **Literals with commas between them are read as their texts.** -/
theorem readLiterals_commaLiterals (hcontained : ∀ s, Contained (body s))
    (hdecode : ∀ s, decodeText false (body s) = some (value s)) (ss : List String) :
    readLiterals (commaLiterals (ss.map body)) = some (ss.map value) := by
  cases ss with
  | nil => rfl
  | cons s ss =>
    generalize hn : (commaLiterals ((s :: ss).map body)).length = n
    have hreads : ∀ t, Reads (Inner.atDepth (n + 2)) [plainText (body t)] (.text (value t) false) :=
      fun t => .literal (n + 1) (hdecode t)
    have hends : Ends [Token.newline] := ⟨_, _, rfl, by simp⟩
    have hothers : many (mark "," *> (Inner.atDepth (n + 2)).test)
        (ss.flatMap (fun t => .op "," :: [plainText (body t)]) ++ [.newline]) =
          some (ss.map fun t => .text (value t) false, [.newline]) :=
      many_commas hends rfl fun t _ more => (hreads t).test more
    have hwords : commaTokens (((s :: ss).map body).map fun body => [plainText body]) ++ [.newline] =
        plainText (body s) :: (ss.flatMap (fun t => .op "," :: [plainText (body t)]) ++ [.newline]) := by
      rw [List.map_map, List.map_cons, commaTokens, intercalate_cons, List.flatMap_map]
      rfl
    have hcommas : commas (Inner.atDepth (n + 2)).test
        (plainText (body s) :: (ss.flatMap (fun t => .op "," :: [plainText (body t)]) ++ [.newline])) =
          some ((s :: ss).map fun t => .text (value t) false, [.newline]) :=
      (bind_of_eq ((hreads s).test _ (ends_items hends))).trans (bind_of_eq hothers)
    have htexts : ∀ ts : List String,
        (ts.map fun t => Expr.text (value t) false).mapM Expr.text? = some (ts.map value) := by
      intro ts
      induction ts with
      | nil => rfl
      | cons t ts ih => simp [Expr.text?, ih]
    rw [readLiterals, tokens_commaLiterals hcontained, hwords, hn]
    simp only [hcommas, htexts]

end

end Acceptance.Source
