import OnePass.Proofs.Derivation.Outcome
import OnePass.Proofs.Derivation.Sequence
/-!
# Programs one behind the other

Two statement lists, one behind the other, make a program that is accepted just if the first list
is accepted, and the second one is from the scope that the first leaves. One after the other they do
the same to the variables.
-/
namespace OnePass

open Grammar

/-- What stands around the statements of a program, and whether its analysis echoes. -/
structure Enclosure where
  filename : String
  opening : Leaf [.beginWord]
  closing : Leaf [.endWord]
  echo : Bool

/-- The tokens of the program. -/
def Enclosure.around (enclosure : Enclosure) (statements : List Token) : List Token :=
  enclosure.opening.val :: statements ++ [enclosure.closing.val]

namespace Analysis

/-- The analysis of the statements as a program, from a scope. -/
def parseWithin (enclosure : Enclosure) (statements : List Token) (scope : Scope) :
    EStateM.Result Stop Analyser Unit :=
  parse (.ofSource (.ofTokens enclosure.filename (enclosure.around statements))
    (.start scope enclosure.echo))

/-- What an accepted program has done to the variables. -/
def changes : EStateM.Result Stop Analyser Unit → Option (Unit × Scope × List Occurrence)
  | .ok _ s => some ((), s.journal.scope, s.journal.occurrences.filter Occurrence.ofVariable)
  | .error _ _ => none

private theorem changes_of_endsAs {c : Cursor} {y : Account Unit} {scope : Scope} {echo : Bool}
    {result : EStateM.Result Stop Analyser Unit}
    (h : EndsAs c (.start scope echo) (y scope) result) : changes result = y.changes scope := by
  unfold Account.changes
  cases hy : y scope with
  | none =>
      rw [hy] at h
      cases result with
      | ok => exact h.elim
      | error => rfl
  | some told =>
      obtain ⟨_, after, story⟩ := told
      rw [hy] at h
      cases h
      simp only [changes, Cursor.analyser, Journal.occurrences_follow]
      rfl

private theorem changes_parseWithin (enclosure : Enclosure) (list : Tree .statementList)
    (scope : Scope) :
    changes (parseWithin enclosure list.yield scope) = list.account.changes scope := by
  let t : Tree .statementPart := .program enclosure.opening list enclosure.closing
  have htokens : t.yield = enclosure.around list.yield := by
    simp [t, Enclosure.around, Tree.yield, Tree.trace]
  have hyield : t.yield = Token.beforeEnd (enclosure.around list.yield) := by
    rw [← htokens, Token.beforeEnd_yield]
  obtain ⟨last, hends⟩ := parse_endsAs enclosure.filename hyield (.start scope enclosure.echo)
  exact (changes_of_endsAs hends).trans (congrFun (Tree.changes_program _ list _) scope)

private theorem changes_eq_some {result : EStateM.Result Stop Analyser Unit} {after : Scope}
    {story : List Occurrence} :
    changes result = some ((), after, story) ↔ ∃ s, result = .ok () s ∧
      s.journal.scope = after ∧ s.journal.occurrences.filter Occurrence.ofVariable = story := by
  cases result with
  | ok _ s => simp [changes]
  | error => simp [changes]

private theorem changes_parseWithin_append (a b : Tree .statementList)
    (hopen : ∀ token ∈ a.yield.getLast?, token.kind ≠ .semicolon) (semicolon : Leaf [.semicolon])
    (whole first second : Enclosure) (scope : Scope) {after : Scope} {story : List Occurrence} :
    changes (parseWithin whole (a.yield ++ semicolon.val :: b.yield) scope) =
        some ((), after, story) ↔
      ∃ middle front back, changes (parseWithin first a.yield scope) = some ((), middle, front) ∧
        changes (parseWithin second b.yield middle) = some ((), after, back) ∧
        story = front ++ back := by
  rw [← Tree.yield_append a b semicolon hopen, changes_parseWithin, Tree.changes_append,
    Account.bind_eq_some]
  simp only [changes_parseWithin]
  constructor
  · rintro ⟨_, middle, front, back, hfirst, hsecond, hstory⟩
    exact ⟨middle, front, back, hfirst, hsecond, hstory⟩
  · rintro ⟨middle, front, back, hfirst, hsecond, hstory⟩
    exact ⟨(), middle, front, back, hfirst, hsecond, hstory⟩

/-- Behind a statement list that does not end in a semicolon, one semicolon leads on to a second
list. The program is accepted from a scope just if the first list is and the second one is from the
scope that the first leaves. Then the scopes are the same in the end, and the variables declared and
removed are those of the first list and then those of the second. -/
theorem parse_of_composed {A B : List Token} (hA : ∃ a : Tree .statementList, a.yield = A)
    (hB : ∃ b : Tree .statementList, b.yield = B)
    (hopen : ∀ token ∈ A.getLast?, token.kind ≠ .semicolon) (semicolon : Leaf [.semicolon])
    (whole first second : Enclosure) (scope : Scope) :
    ((∃ s, parseWithin whole (A ++ semicolon.val :: B) scope = .ok () s) ↔
      ∃ s₁ s₂, parseWithin first A scope = .ok () s₁ ∧
        parseWithin second B s₁.journal.scope = .ok () s₂) ∧
    ∀ s s₁ s₂, parseWithin whole (A ++ semicolon.val :: B) scope = .ok () s →
      parseWithin first A scope = .ok () s₁ →
      parseWithin second B s₁.journal.scope = .ok () s₂ →
      s.journal.scope = s₂.journal.scope ∧
        s.journal.occurrences.filter Occurrence.ofVariable =
          s₁.journal.occurrences.filter Occurrence.ofVariable ++
            s₂.journal.occurrences.filter Occurrence.ofVariable := by
  obtain ⟨a, rfl⟩ := hA
  obtain ⟨b, rfl⟩ := hB
  have hcompose := @changes_parseWithin_append a b hopen semicolon whole first second scope
  -- The two programs one after the other tell what the analysis of the whole comes to.
  have hwhole : ∀ s₁ s₂, parseWithin first a.yield scope = .ok () s₁ →
      parseWithin second b.yield s₁.journal.scope = .ok () s₂ →
      ∃ s, parseWithin whole (a.yield ++ semicolon.val :: b.yield) scope = .ok () s ∧
        s.journal.scope = s₂.journal.scope ∧
        s.journal.occurrences.filter Occurrence.ofVariable =
          s₁.journal.occurrences.filter Occurrence.ofVariable ++
            s₂.journal.occurrences.filter Occurrence.ofVariable := by
    intro s₁ s₂ hfirst hsecond
    exact changes_eq_some.mp (hcompose.mpr ⟨_, _, _, changes_eq_some.mpr ⟨s₁, hfirst, rfl, rfl⟩,
      changes_eq_some.mpr ⟨s₂, hsecond, rfl, rfl⟩, rfl⟩)
  refine ⟨⟨?_, ?_⟩, ?_⟩
  · rintro ⟨s, hparse⟩
    obtain ⟨middle, front, back, hchanges₁, hchanges₂, -⟩ :=
      hcompose.mp (changes_eq_some.mpr ⟨s, hparse, rfl, rfl⟩)
    obtain ⟨s₁, hfirst, rfl, -⟩ := changes_eq_some.mp hchanges₁
    obtain ⟨s₂, hsecond, -⟩ := changes_eq_some.mp hchanges₂
    exact ⟨s₁, s₂, hfirst, hsecond⟩
  · rintro ⟨s₁, s₂, hfirst, hsecond⟩
    obtain ⟨s, hparse, -⟩ := hwhole s₁ s₂ hfirst hsecond
    exact ⟨s, hparse⟩
  · intro s s₁ s₂ hparse hfirst hsecond
    obtain ⟨s', hparse', hsame⟩ := hwhole s₁ s₂ hfirst hsecond
    rw [hparse] at hparse'
    cases hparse'
    exact hsame

/-- The second list uses the variable of the first one, and ends in a semicolon. -/
theorem parse_of_two_assignments :
    let A : List Token := [⟨.identifier, "i", 1⟩, ⟨.becomes, ":=", 1⟩, ⟨.numberConstant, "1", 1⟩]
    let B : List Token := [⟨.identifier, "n", 2⟩, ⟨.becomes, ":=", 2⟩, ⟨.identifier, "i", 2⟩,
      ⟨.semicolon, ";", 2⟩]
    let enclosure : Enclosure :=
      ⟨"t", ⟨⟨.beginWord, "begin", 1⟩, by decide⟩, ⟨⟨.endWord, "end", 3⟩, by decide⟩, false⟩
    ∃ s s₁ s₂, parseWithin enclosure (A ++ ⟨.semicolon, ";", 1⟩ :: B) .empty = .ok () s ∧
      parseWithin enclosure A .empty = .ok () s₁ ∧
      parseWithin enclosure B s₁.journal.scope = .ok () s₂ ∧
      s.journal.scope = s₂.journal.scope ∧
        s.journal.occurrences.filter Occurrence.ofVariable =
          s₁.journal.occurrences.filter Occurrence.ofVariable ++
            s₂.journal.occurrences.filter Occurrence.ofVariable := by
  intro A B enclosure
  let a : Tree .statementList := .last (.assignment (.assignValue
    ⟨⟨.identifier, "i", 1⟩, by decide⟩ ⟨⟨.becomes, ":=", 1⟩, by decide⟩
    (.lone (.single (.number ⟨⟨.numberConstant, "1", 1⟩, by decide⟩)))))
  let b : Tree .statementList := .closed (.assignment (.assignValue
    ⟨⟨.identifier, "n", 2⟩, by decide⟩ ⟨⟨.becomes, ":=", 2⟩, by decide⟩
    (.lone (.single (.name ⟨⟨.identifier, "i", 2⟩, by decide⟩)))))
    ⟨⟨.semicolon, ";", 2⟩, by decide⟩
  have hsucceeds : succeeds parse (.ofSource
      (.ofTokens enclosure.filename (enclosure.around (A ++ ⟨.semicolon, ";", 1⟩ :: B)))
      (.start .empty enclosure.echo)) = true := by
    decide +kernel
  obtain ⟨_, s, hwhole⟩ := exists_of_succeeds hsucceeds
  obtain ⟨haccepted, hsame⟩ := parse_of_composed ⟨a, rfl⟩ ⟨b, rfl⟩ (by decide)
    ⟨⟨.semicolon, ";", 1⟩, by decide⟩ enclosure enclosure enclosure .empty
  obtain ⟨s₁, s₂, hfirst, hsecond⟩ := haccepted.mp ⟨s, hwhole⟩
  exact ⟨s, s₁, s₂, hwhole, hfirst, hsecond, hsame s s₁ s₂ hwhole hfirst hsecond⟩

end Analysis

end OnePass
