import OnePass.Failure
/-!
# Layers of rules around a failure

A rule that passes a failure on puts a layer around it. The category and the text of the layer are
those of the root, whatever layers stand in between. Its line is that of the layer which was the
outermost one so far, so that a layer with a line of its own hands that line on.
-/
namespace OnePass.Failure

/-- Passes a failure out of rules one after the other, the innermost rule first. -/
def wrapAll (rules : List String) (failure : Failure) : Failure :=
  rules.foldl (fun inner rule => inner.wrap rule) failure

private theorem wrapAll_cons (rule : String) (rules : List String) (failure : Failure) :
    failure.wrapAll (rule :: rules) = (failure.wrap rule).wrapAll rules := rfl

private theorem root_wrapAll (rules : List String) (failure : Failure) :
    (failure.wrapAll rules).root = failure.root := by
  induction rules generalizing failure with
  | nil => rfl
  | cons rule rules ih => rw [wrapAll_cons, ih]; rfl

private theorem line_wrapAll (rules : List String) (failure : Failure) :
    (failure.wrapAll rules).line = failure.line := by
  induction rules generalizing failure with
  | nil => rfl
  | cons rule rules ih => rw [wrapAll_cons, ih]; rfl

private theorem ruleTrace_wrapAll (rules : List String) (failure : Failure) :
    (failure.wrapAll rules).ruleTrace = rules.reverse ++ failure.ruleTrace := by
  induction rules generalizing failure with
  | nil => rfl
  | cons rule rules ih =>
      rw [wrapAll_cons, ih, ruleTrace_wrap, List.reverse_cons, List.append_assoc,
        List.singleton_append]

private theorem exists_chain_wrapAll (rules : List String) (failure : Failure) :
    ∃ added, (failure.wrapAll rules).chain = added ++ failure.chain ∧
      added.length = rules.length ∧
      ∀ layer ∈ added, layer.category = failure.root.category ∧ layer.line = failure.line := by
  induction rules generalizing failure with
  | nil => exact ⟨[], rfl, rfl, by simp⟩
  | cons rule rules ih =>
      obtain ⟨outer, hchain, hlength, houter⟩ := ih (failure.wrap rule)
      refine ⟨outer ++ [(failure.wrap rule).head], ?_, ?_, ?_⟩
      · rw [wrapAll_cons, hchain, List.append_assoc]
        rfl
      · rw [List.length_append, hlength]
        rfl
      · intro layer hlayer
        rcases List.mem_append.mp hlayer with hlayer | hlayer
        · exact houter layer hlayer
        · rw [List.mem_singleton.mp hlayer]
          exact ⟨rfl, rfl⟩

/-- A failure may have any layers, and has been passed out of any rules already. A further rule puts
a layer around it that has the category and the text of the root, and the line of the failure. The
rules have added a layer each, of the category of the root and on the line of the failure; that is
the line of the root in every new layer just if the failure was on it to begin with. -/
theorem layers_of_wrapAll (failure : Failure) (rules : List String) :
    let inner := failure.wrapAll rules
    (∀ rule, let outer := inner.wrap rule
      outer.category = failure.root.category ∧ outer.line = failure.line ∧
        outer.message = s!"in {rule}: {failure.root.message}" ∧ outer.root = failure.root ∧
        outer.chain = outer.head :: inner.chain ∧ outer.ruleTrace = rule :: inner.ruleTrace) ∧
      inner.ruleTrace = rules.reverse ++ failure.ruleTrace ∧
      ∃ added, inner.chain = added ++ failure.chain ∧ added.length = rules.length ∧
        (∀ layer ∈ added, layer.category = failure.root.category ∧ layer.line = failure.line) ∧
        ((∀ layer ∈ added, layer.line = failure.root.line) ↔
          rules = [] ∨ failure.line = failure.root.line) := by
  intro inner
  obtain ⟨added, hchain, hlength, hadded⟩ := exists_chain_wrapAll rules failure
  have hroot : inner.root = failure.root := root_wrapAll rules failure
  refine ⟨fun rule => ?_, ruleTrace_wrapAll rules failure, added, hchain, hlength, hadded, ?_⟩
  · refine ⟨?_, line_wrapAll rules failure, ?_, hroot, rfl, ruleTrace_wrap rule inner⟩
    · rw [← hroot]
      rfl
    · rw [← hroot]
      rfl
  · constructor
    · intro hline
      cases added with
      | nil => exact .inl (List.length_eq_zero_iff.mp hlength.symm)
      | cons layer added =>
          have hhead := List.mem_cons_self (a := layer) (l := added)
          exact .inr ((hadded layer hhead).2.symm.trans (hline layer hhead))
    · rintro (rfl | hline) layer hlayer
      · rw [List.length_eq_zero_iff.mp hlength] at hlayer
        cases hlayer
      · rw [(hadded layer hlayer).2, hline]

/-- A layer between the root and a rule hands its own line to the rule. -/
theorem line_of_layer_between :
    let failure := (diagnostic .semantic "root" 1).under ⟨.general, "mid", 5, some "Mid"⟩
    (failure.wrap "Top").line = 5 ∧ (failure.wrap "Top").line ≠ failure.root.line := by
  decide

end OnePass.Failure
