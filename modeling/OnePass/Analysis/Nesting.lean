import OnePass.Analysis.Parse
/-!
# Nesting is bounded by the tokens to come

Every rule accepts a token, and from any point at most three rules are entered before one is
accepted. So the allowance that a run is given is never used up, and a rule does what its procedure
says with the other rules run in the same way: `runRule_eq`.
-/
namespace OnePass

/-- The tokens that may still be accepted. -/
def Analyser.acceptable (analyser : Analyser) : Nat :=
  analyser.source.remaining +
    match analyser.lookahead with
    | some token => if token.kind = .endOfFile then 0 else 1
    | none => 0

namespace Analysis

/-- What a step makes of an analyser: at least `n` tokens have been accepted if it gives a result,
and it does not stop for want of allowance. -/
def Fits {α : Type} (n : Nat) (s : Analyser) : EStateM.Result Stop Analyser α → Prop
  | .ok _ s' => s'.acceptable + n ≤ s.acceptable
  | .error stop _ => stop ≠ .allowanceUsedUp

/-- Wherever fewer than `k` tokens may still be accepted, the two analyses do the same, and what
they do fits. -/
def Agree {α : Type} (k n : Nat) (x y : Analysis α) : Prop :=
  ∀ s, s.acceptable < k → x s = y s ∧ Fits n s (x s)

private theorem acceptable_pull {s s' : Analyser} {t : Token} (h : pull s = .ok t s') :
    s'.acceptable ≤ s.source.remaining := by
  unfold pull at h
  split at h
  next token source hnext =>
    cases h
    have hle := s.source.remaining_next
    simp only [Analyser.acceptable]
    rw [hnext] at hle
    split
    · exact hle
    · next hkind =>
      have hlt := Source.remaining_next_lt (congrArg Prod.fst hnext) hkind
      rw [hnext] at hlt
      exact hlt
  next => cases h

theorem accept_eq (kind : Kind) (s : Analyser) :
    accept kind s =
      match s.lookahead with
      | none => .error .notStarted s
      | some token =>
        if token.kind = kind then
          match pull { s with journal := s.journal.terminal token } with
          | .ok _ s' => .ok token s'
          | .error stop s' => .error stop s'
        else report (.expected kind) s := by
  change EStateM.bind lookahead _ s = _
  unfold EStateM.bind lookahead
  cases hlookahead : s.lookahead with
  | none => rfl
  | some token =>
    by_cases hkind : token.kind = kind
    · simp only [hkind, if_true]
      rw [← hlookahead]
      change EStateM.bind pull _ { s with journal := s.journal.terminal token } = _
      unfold EStateM.bind
      cases pull { s with journal := s.journal.terminal token } <;> rfl
    · simp only [hkind, if_false]

private theorem pull_ne_allowanceUsedUp (s s' : Analyser) :
    pull s ≠ .error .allowanceUsedUp s' := by
  unfold pull
  split <;> simp

namespace Agree

variable {α β : Type} {k k' m n n' : Nat} {x y : Analysis α} {f g : α → Analysis β}

private theorem of_fits (h : ∀ s, Fits n s (x s)) : Agree k n x x :=
  fun s _ => ⟨rfl, h s⟩

private theorem weaken (h : Agree k n x y) (hk : k' ≤ k) (hn : n' ≤ n) : Agree k' n' x y := by
  intro s hs
  obtain ⟨heq, hfits⟩ := h s (by omega)
  refine ⟨heq, ?_⟩
  cases hx : x s with
  | ok a s' =>
    rw [hx] at hfits
    simp only [Fits] at hfits ⊢
    omega
  | error stop s' =>
    rw [hx] at hfits
    exact hfits

private theorem bind (hx : Agree k m x y) (hf : ∀ a, Agree (k - m) n (f a) (g a)) :
    Agree k (m + n) (x >>= f) (y >>= g) := by
  intro s hs
  obtain ⟨heq, hfits⟩ := hx s hs
  change EStateM.bind x f s = EStateM.bind y g s ∧ Fits (m + n) s (EStateM.bind x f s)
  unfold EStateM.bind
  rw [← heq]
  cases hfirst : x s with
  | error stop t =>
    rw [hfirst] at hfits
    exact ⟨rfl, hfits⟩
  | ok a t =>
    rw [hfirst] at hfits
    simp only [Fits] at hfits
    obtain ⟨heq', hfits'⟩ := hf a t (by omega)
    refine ⟨heq', ?_⟩
    change Fits (m + n) s (f a t)
    cases hrest : f a t with
    | error stop u =>
      rw [hrest] at hfits'
      exact hfits'
    | ok b u =>
      rw [hrest] at hfits'
      simp only [Fits] at hfits' ⊢
      omega

private theorem next (hx : Agree k 1 x y) (hf : ∀ a, Agree (k - 1) 0 (f a) (g a)) :
    Agree k 1 (x >>= f) (y >>= g) :=
  hx.bind hf

private theorem andThen (hx : Agree k m x y) (hf : ∀ a, Agree k n (f a) (g a)) :
    Agree k n (x >>= f) (y >>= g) :=
  ((hx.weaken (Nat.le_refl k) (Nat.zero_le m)).bind hf).weaken (Nat.le_refl k) (by omega)

private theorem enclose (h : Agree k n x y) (rule : Rule) :
    Agree k n (Analysis.enclose rule x) (Analysis.enclose rule y) := by
  intro s hs
  obtain ⟨heq, hfits⟩ := h { s with journal := s.journal.commence rule.name } hs
  simp only [Analysis.enclose]
  rw [← heq]
  refine ⟨rfl, ?_⟩
  cases hx : x { s with journal := s.journal.commence rule.name } with
  | ok a t =>
    rw [hx] at hfits
    exact hfits
  | error stop t =>
    rw [hx] at hfits
    cases stop <;> simp_all [Fits, Stop.through]

private theorem pure (a : α) : Agree k 0 (Pure.pure a : Analysis α) (Pure.pure a) :=
  of_fits fun _ => Nat.le_refl _

private theorem lookahead : Agree k 0 Analysis.lookahead Analysis.lookahead :=
  of_fits fun s => by
    unfold Analysis.lookahead
    split
    · exact Nat.le_refl _
    · simp [Fits]

private theorem note (change : Journal → Journal) :
    Agree k 0 (Analysis.note change) (Analysis.note change) :=
  of_fits fun _ => Nat.le_refl _

private theorem get : Agree k 0 (MonadState.get : Analysis Analyser) MonadState.get :=
  of_fits fun _ => Nat.le_refl _

private theorem declare (identifier : String) (type : VarType) :
    Agree k 0 (Analysis.declare identifier type) (Analysis.declare identifier type) :=
  of_fits fun _ => Nat.le_refl _

private theorem report (complaint : Complaint) :
    Agree k n (Analysis.report complaint : Analysis α) (Analysis.report complaint) := by
  refine lookahead.andThen fun token => get.andThen fun s => (note _).andThen fun _ => ?_
  refine of_fits fun _ => ?_
  show Stop.rejected _ ≠ .allowanceUsedUp
  exact Stop.noConfusion

private theorem accept {kind : Kind} (hkind : kind ≠ .endOfFile) :
    Agree k 1 (Analysis.accept kind) (Analysis.accept kind) :=
  of_fits fun s => by
    rw [accept_eq]
    split
    · simp [Fits]
    next token hlookahead =>
      split
      next hsame =>
        cases hpull : pull { s with journal := s.journal.terminal token } with
        | error stop s' =>
          simp only [Fits]
          rintro rfl
          exact pull_ne_allowanceUsedUp _ _ hpull
        | ok t s' =>
          have hle := acceptable_pull hpull
          simp only [Fits, Analyser.acceptable, hlookahead] at hle ⊢
          rw [if_neg (hsame ▸ hkind)]
          omega
      next =>
        have hfits := (report (n := 1) (α := Token) (.expected kind) (k := s.acceptable + 1) s
          (Nat.lt_succ_self _)).2
        exact hfits

private theorem acceptVariable : Agree k 1 Analysis.acceptVariable Analysis.acceptVariable := by
  refine lookahead.andThen fun token => ?_
  split
  · refine get.andThen fun s => ?_
    split
    · exact (accept (by decide)).next fun _ => pure _
    · exact report _
  · exact report _

private theorem checkAdding (operator : Kind) (left right : VarType) :
    Agree k 0 (Analysis.checkAdding operator left right)
      (Analysis.checkAdding operator left right) := by
  unfold Analysis.checkAdding
  split
  · exact pure ()
  · exact report _

private theorem checkMultiplying (operator : Kind) (side : Side) (type : VarType) :
    Agree k 0 (Analysis.checkMultiplying operator side type)
      (Analysis.checkMultiplying operator side type) := by
  unfold Analysis.checkMultiplying
  split
  · exact report _
  · exact pure ()

end Agree

end Analysis

/-- How many rules may be entered, the first of them this one, before a token is accepted. -/
def Rule.rank : Rule → Nat
  | .statementList => 3
  | .statement => 2
  | .expression => 3
  | .term => 2
  | _ => 1

private theorem Rule.rank_le (rule : Rule) : rule.rank ≤ 3 := by
  cases rule <;> decide

private theorem Rule.one_le_rank (rule : Rule) : 1 ≤ rule.rank := by
  cases rule <;> decide

/-- Two runs agree where the depth left is enough for the tokens left. -/
def Run.Agree (depth : Nat) (run run' : Run) : Prop :=
  ∀ k (rule : Rule), 3 * k + rule.rank ≤ depth → Analysis.Agree k 1 (run rule) (run' rule)

namespace Procedure

open Analysis

variable {depth k : Nat} {run run' : Run}

private theorem inner (h : Run.Agree depth run run') (hk : 3 * k ≤ depth) (hdepth : 3 ≤ depth)
    (rule : Rule) : Agree (k - 1) 1 (run rule) (run' rule) :=
  h _ _ (by have hrank := rule.rank_le; omega)

variable (h : Run.Agree depth run run') (hdepth : 3 ≤ depth)
include h hdepth

private theorem agree_statementPart (hk : 3 * k ≤ depth) :
    Agree k 1 (statementPart run) (statementPart run') := by
  refine (Agree.accept (by decide)).next fun opening => ?_
  refine (inner h hk hdepth .statementList).andThen fun body => ?_
  exact (Agree.accept (by decide)).andThen fun closing => .pure _

private theorem agree_statementList (hk : 3 * k + 2 ≤ depth) :
    Agree k 1 (statementList run) (statementList run') := by
  refine (h k .statement hk).next fun statement => ?_
  refine Agree.lookahead.andThen fun token => ?_
  split
  · refine (Agree.accept (by decide)).andThen fun semicolon => ?_
    refine Agree.lookahead.andThen fun token => ?_
    split
    · exact (inner h (by omega) hdepth .statementList).weaken (Nat.le_refl _) (by decide)
    · exact .pure _
  · exact .pure _

omit hdepth in
private theorem agree_statement (hk : 3 * k + 1 ≤ depth) :
    Agree k 1 (statement run) (statement run') := by
  refine Agree.lookahead.andThen fun token => ?_
  split
  · exact (h k .assignmentStatement hk).next fun target => .pure _
  · exact h k .ifStatement hk
  · exact h k .whileStatement hk
  · exact h k .procedureStatement hk
  · exact h k .untilStatement hk
  · exact h k .forStatement hk
  · exact .report _

private theorem agree_assignmentStatement (hk : 3 * k ≤ depth) :
    Agree k 1 (assignmentStatement run) (assignmentStatement run') := by
  refine (Agree.accept (by decide)).next fun target => ?_
  refine (Agree.accept (by decide)).andThen fun becomes => ?_
  refine Agree.lookahead.andThen fun token => ?_
  split
  · exact (Agree.accept (by decide)).andThen fun value => .declare _ _
  · exact (inner h hk hdepth .expression).andThen fun type => .declare _ _

private theorem agree_alternative (hk : 3 * k ≤ depth) :
    Agree (k - 1) 0 (alternative run) (alternative run') := by
  refine Agree.lookahead.andThen fun token => ?_
  split
  · refine (Agree.accept (by decide)).andThen fun elseWord => ?_
    exact (inner h hk hdepth .statementList).weaken (Nat.le_refl _) (by decide)
  · exact .pure _

private theorem agree_ifStatement (hk : 3 * k ≤ depth) :
    Agree k 1 (ifStatement run) (ifStatement run') := by
  refine (Agree.accept (by decide)).next fun opening => ?_
  refine (inner h hk hdepth .condition).andThen fun condition => ?_
  refine (Agree.accept (by decide)).andThen fun thenWord => ?_
  refine (inner h hk hdepth .statementList).andThen fun body => ?_
  refine (agree_alternative h hdepth hk).andThen fun alternative => ?_
  refine (Agree.accept (by decide)).andThen fun endWord => ?_
  exact (Agree.accept (by decide)).andThen fun closing => .pure _

private theorem agree_whileStatement (hk : 3 * k ≤ depth) :
    Agree k 1 (whileStatement run) (whileStatement run') := by
  refine (Agree.accept (by decide)).next fun opening => ?_
  refine (inner h hk hdepth .condition).andThen fun condition => ?_
  refine (Agree.accept (by decide)).andThen fun loopWord => ?_
  refine (inner h hk hdepth .statementList).andThen fun body => ?_
  refine (Agree.accept (by decide)).andThen fun endWord => ?_
  exact (Agree.accept (by decide)).andThen fun closing => .pure _

private theorem agree_procedureStatement (hk : 3 * k ≤ depth) :
    Agree k 1 (procedureStatement run) (procedureStatement run') := by
  refine (Agree.accept (by decide)).next fun opening => ?_
  refine (Agree.accept (by decide)).andThen fun callee => ?_
  refine (Agree.accept (by decide)).andThen fun leftParenthesis => ?_
  refine (inner h hk hdepth .argumentList).andThen fun arguments => ?_
  exact (Agree.accept (by decide)).andThen fun rightParenthesis => .pure _

private theorem agree_untilStatement (hk : 3 * k ≤ depth) :
    Agree k 1 (untilStatement run) (untilStatement run') := by
  refine (Agree.accept (by decide)).next fun opening => ?_
  refine (inner h hk hdepth .statementList).andThen fun body => ?_
  refine (Agree.accept (by decide)).andThen fun untilWord => ?_
  exact (inner h hk hdepth .condition).weaken (Nat.le_refl _) (by decide)

private theorem agree_forStatement (hk : 3 * k ≤ depth) :
    Agree k 1 (forStatement run) (forStatement run') := by
  refine (Agree.accept (by decide)).next fun opening => ?_
  refine (Agree.accept (by decide)).andThen fun leftParenthesis => ?_
  refine (inner h hk hdepth .assignmentStatement).andThen fun initial => ?_
  refine (Agree.accept (by decide)).andThen fun first => ?_
  refine (inner h hk hdepth .condition).andThen fun condition => ?_
  refine (Agree.accept (by decide)).andThen fun second => ?_
  refine (inner h hk hdepth .assignmentStatement).andThen fun step => ?_
  refine (Agree.accept (by decide)).andThen fun rightParenthesis => ?_
  refine (Agree.accept (by decide)).andThen fun doWord => ?_
  refine (inner h hk hdepth .statementList).andThen fun body => ?_
  refine (Agree.accept (by decide)).andThen fun endWord => ?_
  refine (Agree.accept (by decide)).andThen fun closing => ?_
  exact (Agree.note _).andThen fun initialDropped => .note _

private theorem agree_argumentList (hk : 3 * k ≤ depth) :
    Agree k 1 (argumentList run) (argumentList run') := by
  refine Agree.acceptVariable.next fun argument => ?_
  refine Agree.lookahead.andThen fun token => ?_
  split
  · refine (Agree.accept (by decide)).andThen fun comma => ?_
    exact (inner h hk hdepth .argumentList).weaken (Nat.le_refl _) (by decide)
  · exact .pure _

private theorem agree_condition (hk : 3 * k ≤ depth) :
    Agree k 1 (condition run) (condition run') := by
  refine Agree.acceptVariable.next fun left => ?_
  refine (inner h hk hdepth .conditionalOperator).andThen fun operator => ?_
  refine Agree.lookahead.andThen fun token => ?_
  split
  · exact Agree.acceptVariable.andThen fun right => .pure _
  · exact (Agree.accept (by decide)).andThen fun right => .pure _
  · exact (Agree.accept (by decide)).andThen fun right => .pure _
  · exact .report _

private theorem agree_expression (hk : 3 * k + 2 ≤ depth) :
    Agree k 1 (expression run) (expression run') := by
  refine (h k .term hk).next fun left => ?_
  refine Agree.lookahead.andThen fun operator => ?_
  split
  next hadding =>
    refine (Agree.accept (Kind.ne_endOfFile_of_adding hadding)).andThen fun operator => ?_
    refine (inner h (by omega) hdepth .expression).andThen fun right => ?_
    exact (Agree.checkAdding _ _ _).andThen fun checked => .pure _
  next => exact .pure _

private theorem agree_term (hk : 3 * k + 1 ≤ depth) : Agree k 1 (term run) (term run') := by
  refine (h k .factor hk).next fun left => ?_
  refine Agree.lookahead.andThen fun operator => ?_
  split
  next hmultiplying =>
    refine (Agree.checkMultiplying _ _ _).andThen fun leftChecked => ?_
    refine (Agree.accept (Kind.ne_endOfFile_of_multiplying hmultiplying)).andThen
      fun operator => ?_
    refine (inner h (by omega) hdepth .term).andThen fun right => ?_
    exact (Agree.checkMultiplying _ _ _).andThen fun rightChecked => .pure _
  next => exact .pure _

private theorem agree_factor (hk : 3 * k ≤ depth) : Agree k 1 (factor run) (factor run') := by
  refine Agree.lookahead.andThen fun token => ?_
  split
  · exact Agree.acceptVariable.next fun v => .pure _
  · exact (Agree.accept (by decide)).next fun number => .pure _
  · refine (Agree.accept (by decide)).next fun leftParenthesis => ?_
    refine (inner h hk hdepth .expression).andThen fun type => ?_
    exact (Agree.accept (by decide)).andThen fun rightParenthesis => .pure _
  · exact .report _

omit h hdepth in
private theorem agree_conditionalOperator : Agree k 1 conditionalOperator conditionalOperator := by
  refine Agree.lookahead.andThen fun operator => ?_
  split
  next hrelational =>
    exact (Agree.accept (Kind.ne_endOfFile_of_relational hrelational)).next fun operator => .pure _
  next => exact .report _

end Procedure

private theorem Run.Agree.procedure {depth : Nat} {run run' : Run} (h : Run.Agree depth run run')
    (hdepth : 3 ≤ depth) : Run.Agree (depth + 1) (procedure run) (procedure run') := by
  intro k rule hk
  -- A procedure takes one level of the depth, and the rules that it runs have the rest.
  cases rule with
  | statementPart => exact Procedure.agree_statementPart h hdepth (Nat.le_of_succ_le_succ hk)
  | statementList => exact Procedure.agree_statementList h hdepth (Nat.le_of_succ_le_succ hk)
  | statement => exact Procedure.agree_statement h (Nat.le_of_succ_le_succ hk)
  | assignmentStatement =>
    exact Procedure.agree_assignmentStatement h hdepth (Nat.le_of_succ_le_succ hk)
  | ifStatement => exact Procedure.agree_ifStatement h hdepth (Nat.le_of_succ_le_succ hk)
  | whileStatement => exact Procedure.agree_whileStatement h hdepth (Nat.le_of_succ_le_succ hk)
  | procedureStatement =>
    exact Procedure.agree_procedureStatement h hdepth (Nat.le_of_succ_le_succ hk)
  | untilStatement => exact Procedure.agree_untilStatement h hdepth (Nat.le_of_succ_le_succ hk)
  | forStatement => exact Procedure.agree_forStatement h hdepth (Nat.le_of_succ_le_succ hk)
  | argumentList => exact Procedure.agree_argumentList h hdepth (Nat.le_of_succ_le_succ hk)
  | condition => exact Procedure.agree_condition h hdepth (Nat.le_of_succ_le_succ hk)
  | conditionalOperator => exact Procedure.agree_conditionalOperator
  | expression => exact Procedure.agree_expression h hdepth (Nat.le_of_succ_le_succ hk)
  | term => exact Procedure.agree_term h hdepth (Nat.le_of_succ_le_succ hk)
  | factor => exact Procedure.agree_factor h hdepth (Nat.le_of_succ_le_succ hk)

private theorem agree_runWithin (allowance allowance' depth : Nat) (h : depth ≤ allowance + 3)
    (h' : depth ≤ allowance' + 3) :
    Run.Agree depth (runWithin allowance) (runWithin allowance') := by
  induction allowance generalizing allowance' depth with
  | zero =>
    intro k rule hk s hs
    have hrank := rule.one_le_rank
    omega
  | succ allowance ih =>
    intro k rule hk s hs
    have hrank := rule.one_le_rank
    cases allowance' with
    | zero => omega
    | succ allowance' =>
      have hinner := ih allowance' (min (allowance + 3) (allowance' + 3))
        (Nat.min_le_left _ _) (Nat.min_le_right _ _)
      exact ((hinner.procedure (by omega)) k rule (by omega)).enclose rule s hs

namespace Analyser

private theorem acceptable_le (analyser : Analyser) :
    analyser.acceptable ≤ analyser.source.remaining + 1 := by
  unfold acceptable
  split
  · split <;> omega
  · omega

end Analyser

/-- Every allowance from the analyser's own on leads to the same. -/
theorem Analysis.runWithin_eq_runRule (rule : Rule) (analyser : Analyser) (allowance : Nat)
    (h : 3 * analyser.acceptable + rule.rank ≤ allowance) :
    runWithin allowance rule analyser = runRule rule analyser := by
  have hrank := rule.rank_le
  have hacceptable := analyser.acceptable_le
  have hagree := agree_runWithin allowance analyser.allowance
    (3 * (analyser.acceptable + 1) + rule.rank) (by omega) (by unfold Analyser.allowance; omega)
  exact (hagree (analyser.acceptable + 1) rule (Nat.le_refl _) analyser (Nat.lt_succ_self _)).1

private theorem run_agree_runRule (allowance : Nat) :
    Run.Agree (allowance + 3) (runWithin allowance) Analysis.runRule := by
  intro k rule hk s hs
  have hagree := agree_runWithin allowance allowance (allowance + 3) (Nat.le_refl _) (Nat.le_refl _)
  refine ⟨?_, (hagree k rule hk s hs).2⟩
  exact Analysis.runWithin_eq_runRule rule s allowance (by omega)

/-- A rule that is run is entered, does what its procedure says with the other rules run in the same
way, and is left. -/
theorem Analysis.runRule_eq (rule : Rule) :
    Analysis.runRule rule = Analysis.enclose rule (procedure Analysis.runRule rule) := by
  funext s
  have hrank := rule.rank_le
  have hacceptable := s.acceptable_le
  have hagree := (run_agree_runRule (3 * (s.source.remaining + 1) + 2)).procedure (by omega)
    (s.acceptable + 1) rule (by omega)
  exact (hagree.enclose rule s (Nat.lt_succ_self _)).1

namespace Analysis

private theorem runRule_fits (rule : Rule) (s : Analyser) : Fits 1 s (runRule rule s) := by
  have hrank := rule.rank_le
  have hacceptable := s.acceptable_le
  have hagree := agree_runWithin s.allowance s.allowance (s.allowance + 3) (Nat.le_refl _)
    (Nat.le_refl _)
  exact (hagree (s.acceptable + 1) rule (by unfold Analyser.allowance; omega) s
    (Nat.lt_succ_self _)).2

theorem runRule_ne_allowanceUsedUp (rule : Rule) (s s' : Analyser) :
    runRule rule s ≠ .error .allowanceUsedUp s' := by
  intro hrun
  have hfits := runRule_fits rule s
  rw [hrun] at hfits
  exact hfits rfl

end Analysis

end OnePass
