import OnePass.Proofs.Derivation.Reading
import OnePass.Proofs.Recording.OpenRules
/-!
# What a rejection leaves behind

An analysis that gives a result has left every rule that it entered. One that is rejected has left
open exactly the rules that its failure passes through, since the layer of a rule is put around the
failure in place of the end of the rule.
-/
namespace OnePass

open Analysis Story

namespace Failure

/-- All layers tell of the root: its category, its line, and its text behind the name of the rule
that adds the layer. -/
structure Uniform (failure : Failure) : Prop where
  rule_root : failure.root.rule = none
  category : ∀ layer ∈ failure.chain, layer.category = failure.root.category
  line : ∀ layer ∈ failure.chain, layer.line = failure.root.line
  message : ∀ layer ∈ failure.chain, ∀ rule, layer.rule = some rule →
    layer.message = s!"in {rule}: {failure.root.message}"

private theorem head_mem_chain (failure : Failure) : failure.head ∈ failure.chain := by
  obtain ⟨outer, root⟩ := failure
  cases outer <;> simp [head, chain]

namespace Uniform

private theorem diagnostic (category : Category) (message : String) (line : Int) :
    (diagnostic category message line).Uniform := by
  have hroot : ∀ layer ∈ (Failure.diagnostic category message line).chain,
      layer = ⟨category, message, line, none⟩ := fun layer hlayer => List.mem_singleton.mp hlayer
  constructor
  · rfl
  · intro layer hlayer
    rw [hroot layer hlayer]
    rfl
  · intro layer hlayer
    rw [hroot layer hlayer]
    rfl
  · intro layer hlayer rule hrule
    rw [hroot layer hlayer] at hrule
    cases hrule

theorem wrap {failure : Failure} (h : failure.Uniform) (rule : String) :
    (failure.wrap rule).Uniform := by
  have hline := h.line failure.head failure.head_mem_chain
  constructor
  · exact h.rule_root
  · intro layer hlayer
    rcases List.mem_cons.mp hlayer with rfl | hinner
    · rfl
    · exact h.category layer hinner
  · intro layer hlayer
    rcases List.mem_cons.mp hlayer with rfl | hinner
    · exact hline
    · exact h.line layer hinner
  · intro layer hlayer name hname
    rcases List.mem_cons.mp hlayer with rfl | hinner
    · cases hname
      rfl
    · exact h.message layer hinner name hname

end Uniform

end Failure

namespace Analysis

variable {α β : Type} {c : Cursor} {j : Journal}

/-- What an analysis records on the way to an outcome: a balanced story without complaints if it
gives a result, and otherwise a story that leaves open the rules of its failure. -/
def Outlines (story : Story) : Except Stop α → Prop
  | .ok _ => Balanced story ∧ story.filterMap Occurrence.complaint? = []
  | .error (.rejected failure) => Nests story failure.ruleTrace ∧ failure.Uniform
  | .error stop => stop = .allowanceUsedUp

/-- An analysis stays at a place of its source and adds a story to its journal. -/
def Records (x : Analysis α) (c : Cursor) (j : Journal) : Prop :=
  ∃ (outcome : Except Stop α) (c' : Cursor) (scope : Scope) (story : Story),
    x (c.analyser j) = ending outcome (c'.analyser (j.follow scope story)) ∧ Outlines story outcome

namespace Outlines

variable {front back : Story}

private theorem nil (a : α) : Outlines [] (.ok a : Except Stop α) :=
  ⟨.nil, rfl⟩

private theorem append {outcome : Except Stop β} {a : α}
    (hfront : Outlines front (.ok a : Except Stop α))
    (hback : Outlines back outcome) : Outlines (front ++ back) outcome := by
  obtain ⟨hbalanced, hquiet⟩ := hfront
  match outcome with
  | .ok _ =>
      constructor
      · exact hbalanced.append hback.1
      · rw [List.filterMap_append, hquiet, hback.2, List.append_nil]
  | .error (.rejected _) => exact ⟨hbalanced.nests.append hback.1, hback.2⟩
  | .error .notStarted | .error .alreadyStarted | .error .allowanceUsedUp => exact hback

end Outlines

namespace Records

private theorem plain {x : Analysis α} {a : α} {c' : Cursor} (occurrence : Occurrence)
    (hpassage : occurrence.passage? = none) (hcomplaint : occurrence.complaint? = none)
    (scope : Scope) (h : x (c.analyser j) = .ok a (c'.analyser (j.follow scope [occurrence]))) :
    Records x c j := by
  refine ⟨.ok a, c', scope, [occurrence], h, .plain hpassage, ?_⟩
  rw [List.filterMap_cons_none hcomplaint, List.filterMap_nil]

private theorem fail {x : Analysis α} {c' : Cursor} {category : Category} {message : String}
    {line : Int} (occurrence : Occurrence) (hpassage : occurrence.passage? = none)
    (h : x (c.analyser j) = .error (.rejected (.diagnostic category message line))
      (c'.analyser (j.follow j.scope [occurrence]))) : Records x c j :=
  ⟨.error (.rejected (.diagnostic category message line)), c', j.scope, [occurrence], h,
    .plain hpassage, .diagnostic category message line⟩

theorem congr {x y : Analysis α} (h : Records x c j) (heq : y (c.analyser j) = x (c.analyser j)) :
    Records y c j := by
  obtain ⟨outcome, c', scope, story, hx, houtlines⟩ := h
  exact ⟨outcome, c', scope, story, heq.trans hx, houtlines⟩

theorem bind {x : Analysis α} {f : α → Analysis β} (hx : Records x c j)
    (hf : ∀ a c' j', Records (f a) c' j') : Records (x >>= f) c j := by
  obtain ⟨outcome, c', scope, front, hx, hfront⟩ := hx
  match outcome with
  | .error stop =>
      refine ⟨.error stop, c', scope, front, bind_eq_of_error hx, ?_⟩
      cases stop <;> exact hfront
  | .ok a =>
      obtain ⟨outcome, c'', scope', back, hfa, hback⟩ := hf a c' (j.follow scope front)
      refine ⟨outcome, c'', scope', front ++ back, ?_, hfront.append hback⟩
      rw [bind_eq_of_ok hx, hfa, Journal.follow_follow]

protected theorem pure (a : α) : Records (pure a) c j :=
  ⟨.ok a, c, j.scope, [], rfl, .nil a⟩

protected theorem lookahead : Records lookahead c j :=
  ⟨.ok c.token, c, j.scope, [], rfl, .nil c.token⟩

protected theorem report (complaint : Complaint) :
    Records (report complaint : Analysis α) c j :=
  .fail (.complaint _ _) rfl (report_eq complaint)

protected theorem require {p : Prop} [Decidable p] (complaint : Complaint) :
    Records (if p then pure () else report complaint) c j := by
  split
  · exact .pure ()
  · exact .report complaint

/-- A token that is accepted is recorded even if the source fails behind it. -/
protected theorem accept (kind : Kind) : Records (accept kind) c j := by
  by_cases hkind : c.token.kind = kind
  · cases hnext : c.next? with
    | none =>
        obtain ⟨failure, source, hfails, haccept⟩ := accept_of_next?_eq_none (j := j) hkind hnext
        obtain ⟨filename, line, rfl⟩ :=
          Source.exists_unterminated_of_error (congrArg Prod.fst hfails)
        exact .fail (.terminal c.token) rfl haccept
    | some c' =>
        exact .plain (.terminal c.token) rfl rfl j.scope (accept_of_next? hkind hnext)
  · exact (Records.report (.expected kind)).congr (accept_of_kind_ne hkind)

protected theorem acceptVariable : Records acceptVariable c j := by
  by_cases hkind : c.token.kind = .identifier
  · cases hfind : j.scope.find? c.token.text with
    | none =>
        apply (Records.report (.undeclared c.token.text)).congr
        rw [acceptVariable_eq, if_pos hkind, hfind]
    | some v =>
        apply ((Records.accept .identifier).bind fun _ _ _ => Records.pure v).congr
        rw [acceptVariable_eq, if_pos hkind, hfind]
  · apply (Records.report (.expected .identifier)).congr
    rw [acceptVariable_eq, if_neg hkind]

private theorem revise {x : Analysis α} {a : α} {p : Prop} [Decidable p] {occurrence : Occurrence}
    (hpassage : occurrence.passage? = none) (hcomplaint : occurrence.complaint? = none)
    (scope : Scope) (h : x (c.analyser j) =
      .ok a (c.analyser (j.follow scope (if p then [occurrence] else [])))) : Records x c j := by
  split at h
  · exact .plain occurrence hpassage hcomplaint scope h
  · exact ⟨.ok a, c, scope, [], h, .nil a⟩

protected theorem declare (identifier : String) (type : VarType) :
    Records (declare identifier type) c j := by
  let issued := j.scope.issue identifier type
  have hdeclare : declare identifier type (c.analyser j) =
      .ok issued.1 (c.analyser ({ j with scope := issued.2 }.declare issued.1).2) := rfl
  rw [Journal.declare_eq_follow, Journal.follow_with_scope] at hdeclare
  exact .revise rfl rfl _ hdeclare

protected theorem drop (v : Variable) : Records (note (·.drop v)) c j := by
  have hdrop : note (·.drop v) (c.analyser j) = .ok () (c.analyser (j.drop v)) := rfl
  rw [Journal.drop_eq_follow] at hdrop
  exact .revise rfl rfl _ hdrop

private theorem enclose {x : Analysis α} (rule : Rule) (h : Records x c (j.commence rule.name)) :
    Records (enclose rule x) c j := by
  obtain ⟨outcome, c', scope, story, hx, houtlines⟩ := h
  match outcome with
  | .ok a =>
      refine ⟨.ok a, c', scope, .commence rule.name :: story ++ [.finish rule.name], ?_,
        houtlines.1.within rule.name, ?_⟩
      · rw [enclose_of_ok hx, ← Journal.finish_follow_commence]
        rfl
      · rw [filterMap_complaint?_within]
        exact houtlines.2
  | .error stop =>
      refine ⟨.error (stop.through rule), c', scope, .commence rule.name :: story,
        enclose_of_error hx, ?_⟩
      cases stop with
      | rejected failure =>
          have hnests := houtlines.1.commence rule.name
          rw [← Failure.ruleTrace_wrap] at hnests
          exact ⟨hnests, houtlines.2.wrap rule.name⟩
      | notStarted | alreadyStarted | allowanceUsedUp => exact houtlines

end Records

end Analysis

/-- A script records what its steps record. -/
theorem Script.records {run : Run} {α : Type} {L : Language Kind} {x : Analysis α}
    (h : Script run L x) (hrun : ∀ rule c j, Records (run rule) c j) : ∀ c j, Records x c j := by
  induction h with
  | pure a => exact fun _ _ => .pure a
  | lookahead => exact fun _ _ => .lookahead
  | accept kind => exact fun _ _ => .accept kind
  | acceptVariable => exact fun _ _ => .acceptVariable
  | declare identifier type => exact fun _ _ => .declare identifier type
  | drop v => exact fun _ _ => .drop v
  | checkAdding operator left right =>
      intro c j
      rw [checkAdding_eq]
      exact .require _
  | checkMultiplying operator side type =>
      intro c j
      rw [checkMultiplying_eq]
      exact .require _
  | refuse => exact fun _ _ => .report _
  | rule rule => exact hrun rule
  | bind _ _ ihx ihf => exact fun c j => (ihx c j).bind ihf
  | weaken _ _ ih => exact ih

theorem runWithin_records (allowance : Nat) (rule : Rule) (c : Cursor) (j : Journal) :
    Records (runWithin allowance rule) c j := by
  induction allowance generalizing rule c j with
  | zero => exact ⟨.error .allowanceUsedUp, c, j.scope, [], rfl, rfl⟩
  | succ allowance ih =>
      exact .enclose rule ((procedure_script (runWithin allowance) rule).records ih c _)

end OnePass
