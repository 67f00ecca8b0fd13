import OnePass.Proofs.Derivation.Cursor
/-!
# How an analysis starts and ends

A rule runs only from a place in a source. The analysis of a whole program runs one rule from the
first place, and wants the end of the text at the place that this rule leads to.
-/
namespace OnePass

namespace Analysis

variable {α β : Type}

/-- The journal that an analysis leaves, whether or not it has accepted the program. -/
def finalJournal : EStateM.Result Stop Analyser Unit → Journal
  | .ok _ s => s.journal
  | .error _ s => s.journal

/-- Whether the analysis gives a result. -/
def succeeds (x : Analysis α) (s : Analyser) : Bool :=
  match x s with
  | .ok _ _ => true
  | .error _ _ => false

theorem exists_of_succeeds {x : Analysis α} {s : Analyser} (h : succeeds x s = true) :
    ∃ a s', x s = .ok a s' := by
  unfold succeeds at h
  cases hx : x s with
  | ok a s' => exact ⟨a, s', rfl⟩
  | error stop s' =>
      rw [hx] at h
      cases h

/-- Whether the analysis rejects the program in the way asked for. -/
def rejects (x : Analysis α) (s : Analyser) (how : Failure → Analyser → Bool) : Bool :=
  match x s with
  | .error (.rejected failure) s' => how failure s'
  | _ => false

theorem exists_of_rejects {x : Analysis α} {s : Analyser} {how : Failure → Analyser → Bool}
    (h : rejects x s how = true) :
    ∃ failure s', x s = .error (.rejected failure) s' ∧ how failure s' = true := by
  unfold rejects at h
  split at h
  next failure s' hx => exact ⟨failure, s', hx, h⟩
  next => cases h

/-- The analysis stops where no token has been read yet. -/
private def Waits (x : Analysis α) : Prop :=
  ∀ s, s.lookahead = none → ∃ s', x s = .error .notStarted s'

private theorem Waits.bind {x : Analysis α} {f : α → Analysis β} (hx : Waits x) :
    Waits (x >>= f) := by
  intro s hs
  obtain ⟨s', hstop⟩ := hx s hs
  exact ⟨s', bind_eq_of_error hstop⟩

private theorem waits_lookahead : Waits lookahead := by
  intro s hs
  refine ⟨s, ?_⟩
  unfold lookahead
  rw [hs]

private theorem waits_accept (kind : Kind) : Waits (accept kind) :=
  waits_lookahead.bind

private theorem waits_acceptVariable : Waits acceptVariable :=
  waits_lookahead.bind

private theorem waits_runRule_of_procedure {rule : Rule} (h : Waits (procedure runRule rule)) :
    Waits (runRule rule) := by
  intro s hs
  obtain ⟨s', hstop⟩ := h { s with journal := s.journal.commence rule.name } hs
  refine ⟨s', ?_⟩
  rw [runRule_eq]
  unfold enclose
  rw [hstop]
  rfl

private theorem waits_runRule (rule : Rule) : Waits (runRule rule) := by
  have hstatement : Waits (runRule .statement) := waits_runRule_of_procedure waits_lookahead.bind
  have hfactor : Waits (runRule .factor) := waits_runRule_of_procedure waits_lookahead.bind
  have hterm : Waits (runRule .term) := waits_runRule_of_procedure hfactor.bind
  cases rule with
  | statementList => exact waits_runRule_of_procedure hstatement.bind
  | statement => exact hstatement
  | argumentList | condition => exact waits_runRule_of_procedure waits_acceptVariable.bind
  | conditionalOperator => exact waits_runRule_of_procedure waits_lookahead.bind
  | expression => exact waits_runRule_of_procedure hterm.bind
  | term => exact hterm
  | factor => exact hfactor
  | statementPart | assignmentStatement | ifStatement | whileStatement | procedureStatement
  | untilStatement | forStatement => exact waits_runRule_of_procedure (waits_accept _).bind

theorem exists_cursor_of_runRule {rule : Rule} {a : rule.Result} {s s' : Analyser}
    (h : runRule rule s = .ok a s') : ∃ c : Cursor, s = c.analyser s.journal := by
  obtain ⟨source, lookahead, journal⟩ := s
  cases lookahead with
  | none =>
      obtain ⟨stopped, hstop⟩ := waits_runRule rule ⟨source, none, journal⟩ rfl
      rw [hstop] at h
      cases h
  | some token => exact ⟨⟨token, source⟩, rfl⟩

theorem category_of_runRule {rule : Rule} {s s' : Analyser} {failure : Failure}
    (h : runRule rule s = .error (.rejected failure) s') :
    failure.category = failure.root.category := by
  rw [runRule_eq] at h
  unfold enclose at h
  cases hinner : procedure runRule rule { s with journal := s.journal.commence rule.name } with
  | ok a after =>
      rw [hinner] at h
      cases h
  | error stop after =>
      rw [hinner] at h
      cases stop with
      | rejected inner =>
          cases h
          rfl
      | notStarted | alreadyStarted | allowanceUsedUp => cases h

/-- The analysis of a whole program, from the first place of its source. -/
def program : Analysis Unit :=
  runRule .statementPart >>= fun _ => lookahead >>= fun token =>
    if token.kind ≠ .endOfFile then report (.expected .endOfFile) else pure ()

theorem parse_of_place? {s : Analyser} {c : Cursor} (hnew : s.lookahead = none)
    (hplace : s.source.place? = some c) : parse s = program (c.analyser s.journal) := by
  have hpull := pull_of_place? hplace
  obtain ⟨source, lookahead, journal⟩ := s
  cases hnew
  exact bind_eq_of_ok hpull

theorem parse_eq_ok {s s' : Analyser} {u : Unit} (h : parse s = .ok u s') :
    ∃ c c' : Cursor, s.lookahead = none ∧ s.source.place? = some c ∧
      runRule .statementPart (c.analyser s.journal) = .ok () s' ∧ s' = c'.analyser s'.journal ∧
      c'.token.kind = .endOfFile := by
  cases hnew : s.lookahead with
  | some token =>
      obtain ⟨source, lookahead, journal⟩ := s
      cases hnew
      cases h
  | none =>
      cases hplace : s.source.place? with
      | none =>
          obtain ⟨failure, source, -, hpull⟩ := pull_of_place?_eq_none hplace
          obtain ⟨source, lookahead, journal⟩ := s
          cases hnew
          change (pull >>= _ : Analysis Unit) _ = _ at h
          rw [bind_eq_of_error hpull] at h
          cases h
      | some c =>
          rw [parse_of_place? hnew hplace] at h
          obtain ⟨_, after, hrun, hend⟩ := of_bind_eq_ok h
          obtain ⟨token, after', hlookahead, hend⟩ := of_bind_eq_ok hend
          obtain ⟨source, lookahead, journal⟩ := after
          cases lookahead with
          | none => cases hlookahead
          | some token' =>
              cases hlookahead
              by_cases hkind : token.kind ≠ .endOfFile
              · rw [if_pos hkind] at hend
                cases hend
              · rw [if_neg hkind] at hend
                cases hend
                exact ⟨c, ⟨token, source⟩, rfl, rfl, hrun, rfl, Decidable.not_not.mp hkind⟩

end Analysis

end OnePass
