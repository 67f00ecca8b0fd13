import OnePass.Proofs.Derivation.Cursor
import OnePass.Proofs.Derivation.Start
import OnePass.Proofs.Derivation.Account
import OnePass.Proofs.Scoping.Story
/-!
# Rules that are entered before a terminal is accepted

From one terminal to the next the ranks of the rules that are entered fall. So a story is told under
a budget: a rule may be entered if its rank is within the budget and leaves less than its rank, and
a terminal brings the budget back to the highest rank. Main statement: every procedure keeps to the
budget that its rule leaves it.
-/
namespace OnePass

open Analysis

private theorem Rule.ofName?_name (rule : Rule) : ofName? rule.name = some rule := by
  cases rule <;> decide

private theorem Rule.rank_pos (rule : Rule) : 0 < rule.rank := by
  cases rule <;> decide

/-- The budget after an occurrence, if it is within the budget before it. -/
def Occurrence.spend (budget : Nat) : Occurrence → Option Nat
  | .commence name => (Rule.ofName? name).bind fun rule =>
    if rule.rank ≤ budget then some (rule.rank - 1) else none
  | .terminal _ => some 3
  | _ => some budget

namespace Story

def spend (budget : Nat) (story : Story) : Option Nat :=
  story.foldlM Occurrence.spend budget

variable {budget left : Nat} {story front back : Story}

private theorem spend_append (front back : Story) (budget : Nat) :
    spend budget (front ++ back) = (spend budget front).bind fun middle => spend middle back :=
  List.foldlM_append

theorem spend_append_eq_some :
    spend budget (front ++ back) = some left ↔
      ∃ middle, spend budget front = some middle ∧ spend middle back = some left := by
  rw [spend_append, Option.bind_eq_some_iff]

private theorem spend_cons_eq_some {occurrence : Occurrence} :
    spend budget (occurrence :: story) = some left ↔
      ∃ middle, occurrence.spend budget = some middle ∧ spend middle story = some left := by
  rw [spend, List.foldlM_cons]
  exact Option.bind_eq_some_iff

private theorem spend_commence {name : String} {middle : Nat} :
    (Occurrence.commence name).spend budget = some middle ↔
      ∃ rule : Rule, Rule.ofName? name = some rule ∧ rule.rank ≤ budget ∧
        middle = rule.rank - 1 := by
  simp only [Occurrence.spend, Option.bind_eq_some_iff, Option.ite_none_right_eq_some,
    Option.some.injEq, @eq_comm _ middle]

theorem length_openAfter_le (h : spend budget story = some left) (rules : List String) :
    (openAfter rules story).length + left ≤
      rules.length + 3 * (story.filterMap Occurrence.terminal?).length + budget := by
  induction story generalizing budget rules with
  | nil =>
      cases h
      exact Nat.le_refl _
  | cons occurrence story ih =>
      obtain ⟨middle, hfirst, hrest⟩ := spend_cons_eq_some.mp h
      have hle := ih hrest (occurrence.reopen rules)
      change (openAfter (occurrence.reopen rules) story).length + left ≤ _
      cases occurrence with
      | commence name =>
          obtain ⟨rule, -, hrank, rfl⟩ := spend_commence.mp hfirst
          have hpos := rule.rank_pos
          rw [List.filterMap_cons_none rfl]
          simp only [Occurrence.reopen, List.length_cons] at hle ⊢
          omega
      | terminal token =>
          cases hfirst
          have hterminals : List.filterMap Occurrence.terminal? (.terminal token :: story) =
              token :: story.filterMap Occurrence.terminal? := rfl
          rw [hterminals, List.length_cons]
          simp only [Occurrence.reopen] at hle ⊢
          omega
      | finish name =>
          cases hfirst
          rw [List.filterMap_cons_none rfl]
          simp only [Occurrence.reopen, List.length_tail] at hle ⊢
          omega
      | declare | remove | complaint =>
          cases hfirst
          exact hle

private theorem le_of_spend (h : spend budget story = some left)
    (hnone : story.filterMap Occurrence.terminal? = []) : left ≤ budget := by
  induction story generalizing budget with
  | nil =>
      cases h
      exact Nat.le_refl _
  | cons occurrence story ih =>
      obtain ⟨middle, hfirst, hrest⟩ := spend_cons_eq_some.mp h
      cases occurrence with
      | commence name =>
          obtain ⟨rule, -, hrank, rfl⟩ := spend_commence.mp hfirst
          have hle := ih hrest hnone
          omega
      | terminal token => cases hnone
      | finish | declare | remove | complaint =>
          cases hfirst
          exact ih hrest hnone

theorem terminal_of_reentered {rule : Rule} {inner : Story}
    (h : spend budget (front ++ .commence rule.name :: inner ++ .commence rule.name :: back) =
      some left) : inner.filterMap Occurrence.terminal? ≠ [] := by
  intro hnone
  rw [List.append_assoc, List.cons_append, spend_append_eq_some] at h
  obtain ⟨before, -, h⟩ := h
  obtain ⟨entered, hfirst, h⟩ := spend_cons_eq_some.mp h
  obtain ⟨after, hinner, h⟩ := spend_append_eq_some.mp h
  obtain ⟨_, hsecond, -⟩ := spend_cons_eq_some.mp h
  obtain ⟨_, hname, -, rfl⟩ := spend_commence.mp hfirst
  obtain ⟨_, hname', hrank, -⟩ := spend_commence.mp hsecond
  rw [rule.ofName?_name] at hname hname'
  cases hname
  cases hname'
  have hle := le_of_spend hinner hnone
  have hpos := rule.rank_pos
  omega

end Story

namespace Journal

private theorem exists_declare (journal : Journal) (v : Variable) (budget : Nat) :
    ∃ story : Story, (journal.declare v).2.occurrences = journal.occurrences ++ story ∧
      story.spend budget = some budget := by
  rw [declare_eq_follow, occurrences_follow]
  refine ⟨_, rfl, ?_⟩
  split <;> rfl

private theorem exists_drop (journal : Journal) (v : Variable) (budget : Nat) :
    ∃ story : Story, (journal.drop v).occurrences = journal.occurrences ++ story ∧
      story.spend budget = some budget := by
  rw [drop_eq_follow, occurrences_follow]
  refine ⟨_, rfl, ?_⟩
  split <;> rfl

end Journal

namespace Analysis

variable {α β : Type} {budget middle left : Nat}

/-- A step adds the story to what has happened. -/
def Adds (s s' : Analyser) (story : Story) : Prop :=
  s'.journal.occurrences = s.journal.occurrences ++ story

/-- What the analysis records is within the budget, and leaves the second one if there is a
result. -/
structure Spends (x : Analysis α) (budget left : Nat) : Prop where
  ok : ∀ {s s' : Analyser} {a : α}, x s = .ok a s' →
    ∃ story, Adds s s' story ∧ story.spend budget = some left
  error : ∀ {s s' : Analyser} {stop : Stop}, x s = .error stop s' →
    ∃ story rest, Adds s s' story ∧ story.spend budget = some rest

namespace Spends

private theorem bind {x : Analysis α} {f : α → Analysis β} (hx : Spends x budget middle)
    (hf : ∀ a, Spends (f a) middle left) : Spends (x >>= f) budget left where
  ok h := by
    obtain ⟨a, s', hstep, hrest⟩ := of_bind_eq_ok h
    obtain ⟨front, hfront, hspend⟩ := hx.ok hstep
    obtain ⟨back, hback, hspend'⟩ := (hf a).ok hrest
    refine ⟨front ++ back, ?_, Story.spend_append_eq_some.mpr ⟨middle, hspend, hspend'⟩⟩
    rw [Adds, hback, hfront, List.append_assoc]
  error {s s'' stop} h := by
    cases hstep : x s with
    | ok a s' =>
        rw [bind_eq_of_ok hstep] at h
        obtain ⟨front, hfront, hspend⟩ := hx.ok hstep
        obtain ⟨back, rest, hback, hspend'⟩ := (hf a).error h
        refine ⟨front ++ back, rest, ?_, Story.spend_append_eq_some.mpr ⟨middle, hspend, hspend'⟩⟩
        rw [Adds, hback, hfront, List.append_assoc]
    | error stop s' =>
        rw [bind_eq_of_error hstep] at h
        cases h
        exact hx.error hstep

private theorem of_ok {x : Analysis α}
    (h : ∀ s, ∃ a s' story, x s = .ok a s' ∧ Adds s s' story ∧ story.spend budget = some left) :
    Spends x budget left where
  ok {s s' a} hok := by
    obtain ⟨_, _, story, hstep, hadds⟩ := h s
    rw [hstep] at hok
    cases hok
    exact ⟨story, hadds⟩
  error {s s' stop} herror := by
    obtain ⟨_, _, _, hstep, -⟩ := h s
    rw [hstep] at herror
    cases herror

private theorem of_silent {x : Analysis α}
    (hok : ∀ {s s' a}, x s = .ok a s' → s'.journal.occurrences = s.journal.occurrences)
    (herror : ∀ {s s' stop}, x s = .error stop s' →
      s'.journal.occurrences = s.journal.occurrences) : Spends x budget budget where
  ok h := ⟨[], by rw [Adds, hok h, List.append_nil], rfl⟩
  error h := ⟨[], budget, by rw [Adds, herror h, List.append_nil], rfl⟩

protected theorem pure (a : α) : Spends (pure a) budget budget :=
  .of_silent (fun h => by cases h; rfl) nofun

protected theorem get : Spends get budget budget :=
  .of_silent (fun h => by cases h; rfl) nofun

private theorem note {change : Journal → Journal}
    (h : ∀ journal, ∃ story : Story, (change journal).occurrences =
      journal.occurrences ++ story ∧ story.spend budget = some left) :
    Spends (note change) budget left :=
  .of_ok fun s => by
    obtain ⟨story, hadds, hspend⟩ := h s.journal
    exact ⟨(), { s with journal := change s.journal }, story, rfl, hadds, hspend⟩

protected theorem lookahead : Spends lookahead budget budget := by
  refine .of_silent (fun {s s' a} h => ?_) (fun {s s' stop} h => ?_)
  all_goals
    unfold lookahead at h
    split at h <;> cases h
    rfl

protected theorem pull : Spends pull budget budget := by
  refine .of_silent (fun {s s' a} h => ?_) (fun {s s' stop} h => ?_)
  all_goals
    unfold pull at h
    split at h <;> cases h
    rfl

protected theorem report (complaint : Complaint) :
    Spends (report complaint : Analysis α) budget left where
  ok {s s' a} h := by
    obtain ⟨source, lookahead, journal⟩ := s
    cases lookahead <;> cases h
  error {s s' stop} h := by
    obtain ⟨source, lookahead, journal⟩ := s
    cases lookahead with
    | none =>
        cases h
        exact ⟨[], budget, (List.append_nil _).symm, rfl⟩
    | some token =>
        cases h
        exact ⟨[.complaint _ _], budget, journal.occurrences_tell (.complaint _ _), rfl⟩

protected theorem require {p : Prop} [Decidable p] {complaint : Complaint} :
    Spends (if p then pure () else report complaint) budget budget := by
  split
  · exact .pure ()
  · exact .report _

protected theorem checkAdding (operator : Kind) (left right : VarType) :
    Spends (checkAdding operator left right) budget budget := by
  rw [checkAdding_eq]
  exact .require

protected theorem checkMultiplying (operator : Kind) (side : Side) (type : VarType) :
    Spends (checkMultiplying operator side type) budget budget := by
  rw [checkMultiplying_eq]
  exact .require

protected theorem declare (identifier : String) (type : VarType) :
    Spends (declare identifier type) budget budget :=
  .of_ok fun s => by
    have hstory := Journal.exists_declare
      { s.journal with scope := (s.journal.scope.issue identifier type).2 }
      (s.journal.scope.issue identifier type).1 budget
    obtain ⟨story, hadds, hspend⟩ := hstory
    exact ⟨_, _, story, rfl, hadds, hspend⟩

protected theorem drop (v : Variable) : Spends (Analysis.note (·.drop v)) budget budget :=
  .note fun journal => journal.exists_drop v budget

protected theorem accept (kind : Kind) : Spends (accept kind) budget 3 := by
  refine Spends.lookahead.bind fun token => ?_
  split
  · have hnote : Spends (Analysis.note (·.terminal token)) budget 3 :=
      .note fun journal => ⟨_, journal.occurrences_tell (.terminal token), rfl⟩
    exact hnote.bind fun _ => Spends.pull.bind fun _ => .pure token
  · exact .report _

protected theorem acceptVariable : Spends acceptVariable budget 3 := by
  refine Spends.lookahead.bind fun token => ?_
  split
  · refine Spends.get.bind fun s => ?_
    split
    · exact (Spends.accept .identifier).bind fun _ => .pure _
    · exact .report _
  · exact .report _

private theorem enclose {x : Analysis α} {rule : Rule} (hx : Spends x (rule.rank - 1) left)
    (hrank : rule.rank ≤ budget) : Spends (enclose rule x) budget left := by
  have hcommence : (Occurrence.commence rule.name).spend budget = some (rule.rank - 1) :=
    Story.spend_commence.mpr ⟨rule, rule.ofName?_name, hrank, rfl⟩
  have hentered (s : Analyser) : (s.journal.commence rule.name).occurrences =
      s.journal.occurrences ++ [.commence rule.name] :=
    s.journal.occurrences_tell (.commence rule.name)
  constructor
  · intro s s' a h
    unfold Analysis.enclose at h
    cases hinner : x { s with journal := s.journal.commence rule.name } with
    | error stop after =>
        rw [hinner] at h
        cases h
    | ok a after =>
        rw [hinner] at h
        cases h
        obtain ⟨story, hadds, hspend⟩ := hx.ok hinner
        refine ⟨.commence rule.name :: story ++ [.finish rule.name], ?_, ?_⟩
        · change (after.journal.tell (.finish rule.name)).occurrences = _
          rw [Journal.occurrences_tell, hadds, hentered]
          simp
        · exact Story.spend_append_eq_some.mpr
            ⟨left, Story.spend_cons_eq_some.mpr ⟨_, hcommence, hspend⟩, rfl⟩
  · intro s s' stop h
    unfold Analysis.enclose at h
    cases hinner : x { s with journal := s.journal.commence rule.name } with
    | ok a after =>
        rw [hinner] at h
        cases h
    | error inner after =>
        rw [hinner] at h
        cases h
        obtain ⟨story, rest, hadds, hspend⟩ := hx.error hinner
        refine ⟨.commence rule.name :: story, rest, ?_,
          Story.spend_cons_eq_some.mpr ⟨_, hcommence, hspend⟩⟩
        rw [Adds, hadds, hentered]
        simp

end Spends

end Analysis

/-- Every rule keeps to a budget that has room for it, and brings it back to the highest rank. -/
def Run.Spends (run : Run) : Prop :=
  ∀ {budget : Nat} (rule : Rule), rule.rank ≤ budget → Analysis.Spends (run rule) budget 3

namespace Procedure

open Analysis

variable {run : Run} {budget : Nat} (h : Run.Spends run)
include h

private theorem spends_statementPart : Spends (statementPart run) 0 3 := by
  refine (Spends.accept _).bind fun opening => ?_
  refine (h .statementList (by decide)).bind fun body => ?_
  exact (Spends.accept _).bind fun closing => .pure _

private theorem spends_statementList : Spends (statementList run) 2 3 := by
  refine (h .statement (by decide)).bind fun statement => ?_
  refine Spends.lookahead.bind fun token => ?_
  split
  · refine (Spends.accept _).bind fun semicolon => ?_
    refine Spends.lookahead.bind fun token => ?_
    split
    · exact h .statementList (by decide)
    · exact .pure _
  · exact .pure _

private theorem spends_statement : Spends (statement run) 1 3 := by
  refine Spends.lookahead.bind fun token => ?_
  split
  · exact (h .assignmentStatement (by decide)).bind fun target => .pure _
  · exact h .ifStatement (by decide)
  · exact h .whileStatement (by decide)
  · exact h .procedureStatement (by decide)
  · exact h .untilStatement (by decide)
  · exact h .forStatement (by decide)
  · exact .report _

private theorem spends_assignmentStatement : Spends (assignmentStatement run) 0 3 := by
  refine (Spends.accept _).bind fun target => ?_
  refine (Spends.accept _).bind fun becomes => ?_
  refine Spends.lookahead.bind fun token => ?_
  split
  · exact (Spends.accept _).bind fun value => .declare _ _
  · exact (h .expression (by decide)).bind fun type => .declare _ _

private theorem spends_alternative : Spends (alternative run) 3 3 := by
  refine Spends.lookahead.bind fun token => ?_
  split
  · exact (Spends.accept _).bind fun elseWord => h .statementList (by decide)
  · exact .pure _

private theorem spends_ifStatement : Spends (ifStatement run) 0 3 := by
  refine (Spends.accept _).bind fun opening => ?_
  refine (h .condition (by decide)).bind fun condition => ?_
  refine (Spends.accept _).bind fun thenWord => ?_
  refine (h .statementList (by decide)).bind fun body => ?_
  refine (spends_alternative h).bind fun alternative => ?_
  refine (Spends.accept _).bind fun endWord => ?_
  exact (Spends.accept _).bind fun closing => .pure _

private theorem spends_whileStatement : Spends (whileStatement run) 0 3 := by
  refine (Spends.accept _).bind fun opening => ?_
  refine (h .condition (by decide)).bind fun condition => ?_
  refine (Spends.accept _).bind fun loopWord => ?_
  refine (h .statementList (by decide)).bind fun body => ?_
  refine (Spends.accept _).bind fun endWord => ?_
  exact (Spends.accept _).bind fun closing => .pure _

private theorem spends_procedureStatement : Spends (procedureStatement run) 0 3 := by
  refine (Spends.accept _).bind fun opening => ?_
  refine (Spends.accept _).bind fun callee => ?_
  refine (Spends.accept _).bind fun leftParenthesis => ?_
  refine (h .argumentList (by decide)).bind fun arguments => ?_
  exact (Spends.accept _).bind fun rightParenthesis => .pure _

private theorem spends_untilStatement : Spends (untilStatement run) 0 3 := by
  refine (Spends.accept _).bind fun opening => ?_
  refine (h .statementList (by decide)).bind fun body => ?_
  exact (Spends.accept _).bind fun untilWord => h .condition (by decide)

private theorem spends_forStatement : Spends (forStatement run) 0 3 := by
  refine (Spends.accept _).bind fun opening => ?_
  refine (Spends.accept _).bind fun leftParenthesis => ?_
  refine (h .assignmentStatement (by decide)).bind fun initial => ?_
  refine (Spends.accept _).bind fun first => ?_
  refine (h .condition (by decide)).bind fun condition => ?_
  refine (Spends.accept _).bind fun second => ?_
  refine (h .assignmentStatement (by decide)).bind fun step => ?_
  refine (Spends.accept _).bind fun rightParenthesis => ?_
  refine (Spends.accept _).bind fun doWord => ?_
  refine (h .statementList (by decide)).bind fun body => ?_
  refine (Spends.accept _).bind fun endWord => ?_
  refine (Spends.accept _).bind fun closing => ?_
  exact (Spends.drop initial).bind fun dropped => .drop step

private theorem spends_argumentList : Spends (argumentList run) 0 3 := by
  refine Spends.acceptVariable.bind fun argument => ?_
  refine Spends.lookahead.bind fun token => ?_
  split
  · exact (Spends.accept _).bind fun comma => h .argumentList (by decide)
  · exact .pure _

private theorem spends_condition : Spends (condition run) 0 3 := by
  refine Spends.acceptVariable.bind fun left => ?_
  refine (h .conditionalOperator (by decide)).bind fun operator => ?_
  refine Spends.lookahead.bind fun token => ?_
  split
  · exact Spends.acceptVariable.bind fun right => .pure _
  · exact (Spends.accept _).bind fun right => .pure _
  · exact (Spends.accept _).bind fun right => .pure _
  · exact .report _

omit h in
private theorem spends_conditionalOperator : Spends conditionalOperator 0 3 := by
  refine Spends.lookahead.bind fun operator => ?_
  split
  · exact (Spends.accept _).bind fun operator => .pure _
  · exact .report _

private theorem spends_expression : Spends (expression run) 2 3 := by
  refine (h .term (by decide)).bind fun left => ?_
  refine Spends.lookahead.bind fun token => ?_
  split
  · refine (Spends.accept _).bind fun operator => ?_
    refine (h .expression (by decide)).bind fun right => ?_
    exact (Spends.checkAdding _ left right).bind fun checked => .pure _
  · exact .pure _

private theorem spends_term : Spends (term run) 1 3 := by
  refine (h .factor (by decide)).bind fun left => ?_
  refine Spends.lookahead.bind fun token => ?_
  split
  · refine (Spends.checkMultiplying _ _ left).bind fun leftChecked => ?_
    refine (Spends.accept _).bind fun operator => ?_
    refine (h .term (by decide)).bind fun right => ?_
    exact (Spends.checkMultiplying _ _ right).bind fun rightChecked => .pure _
  · exact .pure _

private theorem spends_factor : Spends (factor run) 0 3 := by
  refine Spends.lookahead.bind fun token => ?_
  split
  · exact Spends.acceptVariable.bind fun v => .pure _
  · exact (Spends.accept _).bind fun number => .pure _
  · refine (Spends.accept _).bind fun leftParenthesis => ?_
    refine (h .expression (by decide)).bind fun type => ?_
    exact (Spends.accept _).bind fun rightParenthesis => .pure _
  · exact .report _

end Procedure

namespace Run.Spends

private theorem procedure {run : Run} (h : Run.Spends run) (rule : Rule) :
    Analysis.Spends (procedure run rule) (rule.rank - 1) 3 := by
  cases rule with
  | statementPart => exact Procedure.spends_statementPart h
  | statementList => exact Procedure.spends_statementList h
  | statement => exact Procedure.spends_statement h
  | assignmentStatement => exact Procedure.spends_assignmentStatement h
  | ifStatement => exact Procedure.spends_ifStatement h
  | whileStatement => exact Procedure.spends_whileStatement h
  | procedureStatement => exact Procedure.spends_procedureStatement h
  | untilStatement => exact Procedure.spends_untilStatement h
  | forStatement => exact Procedure.spends_forStatement h
  | argumentList => exact Procedure.spends_argumentList h
  | condition => exact Procedure.spends_condition h
  | conditionalOperator => exact Procedure.spends_conditionalOperator
  | expression => exact Procedure.spends_expression h
  | term => exact Procedure.spends_term h
  | factor => exact Procedure.spends_factor h

private theorem runWithin (allowance : Nat) : Run.Spends (runWithin allowance) := by
  induction allowance with
  | zero =>
      intro budget rule hrank
      exact ⟨nofun, fun herror => by
        cases herror
        exact ⟨[], budget, (List.append_nil _).symm, rfl⟩⟩
  | succ allowance ih =>
      intro budget rule hrank
      exact (ih.procedure rule).enclose hrank

private theorem runRule : Run.Spends runRule := fun rule hrank =>
  ⟨fun h => (runWithin _ rule hrank).ok h, fun h => (runWithin _ rule hrank).error h⟩

end Run.Spends

namespace Analysis

private theorem spends_program : Spends program 1 3 := by
  refine (Run.Spends.runRule .statementPart (by decide)).bind fun _ =>
    Spends.lookahead.bind fun token => ?_
  split
  · exact .report _
  · exact .pure ()

theorem spends_parse : Spends parse 1 3 := by
  have hfirst : Spends (pull >>= fun _ => program) 1 3 :=
    Spends.pull.bind fun _ => spends_program
  constructor
  · intro s s' u hparse
    obtain ⟨source, lookahead, journal⟩ := s
    cases lookahead with
    | none => exact hfirst.ok hparse
    | some token => cases hparse
  · intro s s' stop hparse
    obtain ⟨source, lookahead, journal⟩ := s
    cases lookahead with
    | none => exact hfirst.error hparse
    | some token =>
        cases hparse
        exact ⟨[], 1, (List.append_nil _).symm, rfl⟩

end Analysis

end OnePass
