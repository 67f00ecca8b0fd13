import OnePass.Proofs.Derivation.Account
import OnePass.Proofs.Derivation.Beginning
/-!
# The trace of a tree

The trace of a tree spells the tree: it can be told from what stands behind it where the tree ends,
and no other tree has the same trace. It is also what the account of the tree tells, the variables
left aside.
-/
namespace OnePass.Grammar

namespace Mark

/-- The mark as a journal records it. -/
def occurrence : Mark → Occurrence
  | .enter rule => .commence rule.name
  | .token t => .terminal t
  | .leave rule => .finish rule.name

theorem occurrence_injective : Function.Injective occurrence := by
  intro m m' h
  cases m <;> cases m' <;> simp only [occurrence, reduceCtorEq, Occurrence.commence.injEq,
    Occurrence.finish.injEq, Occurrence.terminal.injEq] at h
  · rw [Rule.name_injective h]
  · rw [h]
  · rw [Rule.name_injective h]

variable {kinds kinds' : List Kind}

@[simp] theorem ofLeaf_inj {leaf leaf' : Leaf kinds} :
    ofLeaf leaf = ofLeaf leaf' ↔ leaf = leaf' := by
  simp [ofLeaf, Subtype.ext_iff]

private theorem ofLeaf_ne_of_disjoint (leaf : Leaf kinds) (leaf' : Leaf kinds')
    (h : ∀ kind ∈ kinds, kind ∉ kinds') : ofLeaf leaf ≠ ofLeaf leaf' := by
  intro heq
  have htoken : leaf.val = leaf'.val := by simpa [ofLeaf] using heq
  exact h _ leaf.property (htoken ▸ leaf'.property)

@[simp] theorem ofLeaf_ne_leave (leaf : Leaf kinds) (rule : Rule) : ofLeaf leaf ≠ .leave rule :=
  nofun

@[simp] theorem enter_ne_ofLeaf (leaf : Leaf kinds) (rule : Rule) : .enter rule ≠ ofLeaf leaf :=
  nofun

@[simp] theorem leave_ne_ofLeaf (leaf : Leaf kinds) (rule : Rule) : .leave rule ≠ ofLeaf leaf :=
  nofun

end Mark

namespace Tree

open Mark (around ofLeaf ofLeaf_ne_of_disjoint)

private theorem exists_trace_eq_cons {rule : Rule} (t : Tree rule) :
    ∃ marks, t.trace = .enter rule :: marks := by
  cases t <;> exact ⟨_, rfl⟩

private theorem trace_append_ne {rule rule' : Rule} (hne : rule ≠ rule') (t : Tree rule)
    (t' : Tree rule') (back back' : List Mark) : t.trace ++ back ≠ t'.trace ++ back' := by
  obtain ⟨marks, ht⟩ := t.exists_trace_eq_cons
  obtain ⟨marks', ht'⟩ := t'.exists_trace_eq_cons
  simp [ht, ht', hne]

private theorem trace_append_ne_cons {rule : Rule} (t : Tree rule) {mark : Mark}
    (hmark : .enter rule ≠ mark) (back back' : List Mark) : t.trace ++ back ≠ mark :: back' := by
  obtain ⟨marks, ht⟩ := t.exists_trace_eq_cons
  simp [ht, hmark]

private theorem cons_ne_trace_append {rule : Rule} (t : Tree rule) {mark : Mark}
    (hmark : .enter rule ≠ mark) (back back' : List Mark) : mark :: back' ≠ t.trace ++ back :=
  (t.trace_append_ne_cons hmark back back').symm

private theorem trace_append_inj {rule : Rule} (t t' : Tree rule) (back back' : List Mark) :
    t.trace ++ back = t'.trace ++ back' ↔ t = t' ∧ back = back' := by
  induction t generalizing back back' with
  | program opening body closing ih =>
      cases t' with
      | program => simp [trace, around, ih, and_assoc]
  | last statement ih =>
      cases t' <;> simp [trace, around, ih]
  | closed statement semicolon ih =>
      cases t' <;> simp [trace, around, ih, and_assoc, cons_ne_trace_append]
  | more statement semicolon rest ih ihrest =>
      cases t' <;> simp [trace, around, ih, ihrest, and_assoc, trace_append_ne_cons]
  | assignment statement ih | choice statement ih | loop statement ih | call statement ih
  | repetition statement ih | iteration statement ih =>
      cases t' <;> simp [trace, around, ih, trace_append_ne]
  | assignValue target becomes value ih =>
      cases t' <;> simp [trace, around, ih, and_assoc, trace_append_ne_cons]
  | assignString target becomes value =>
      cases t' <;> simp [trace, around, and_assoc, cons_ne_trace_append]
  | ifThen opening condition thenWord body endWord closing ihcondition ihbody =>
      cases t' <;> simp [trace, around, ihcondition, ihbody, and_assoc, ofLeaf_ne_of_disjoint]
  | ifThenElse opening condition thenWord body elseWord alternative endWord closing ihcondition
      ihbody ihalternative =>
      cases t' <;> simp [trace, around, ihcondition, ihbody, ihalternative, and_assoc,
        ofLeaf_ne_of_disjoint]
  | whileLoop opening condition loopWord body endWord closing ihcondition ihbody =>
      cases t' with
      | whileLoop => simp [trace, around, ihcondition, ihbody, and_assoc]
  | callProcedure opening callee leftParenthesis arguments rightParenthesis ih =>
      cases t' with
      | callProcedure => simp [trace, around, ih, and_assoc]
  | doUntil opening body untilWord condition ihbody ihcondition =>
      cases t' with
      | doUntil => simp [trace, around, ihbody, ihcondition, and_assoc]
  | forLoop opening leftParenthesis initial first condition second step rightParenthesis doWord
      body endWord closing ihinitial ihcondition ihstep ihbody =>
      cases t' with
      | forLoop => simp [trace, around, ihinitial, ihcondition, ihstep, ihbody, and_assoc]
  | lastArgument token =>
      cases t' <;> simp [trace, around]
  | moreArguments token comma rest ih =>
      cases t' <;> simp [trace, around, ih, and_assoc]
  | comparison left operator right ih =>
      cases t' with
      | comparison => simp [trace, around, ih, and_assoc]
  | relation operator =>
      cases t' with
      | relation => simp [trace, around]
  | lone term ih =>
      cases t' <;> simp [trace, around, ih]
  | sum term operator rest ih ihrest =>
      cases t' <;> simp [trace, around, ih, ihrest, and_assoc]
  | single factor ih =>
      cases t' <;> simp [trace, around, ih]
  | product factor operator rest ih ihrest =>
      cases t' <;> simp [trace, around, ih, ihrest, and_assoc]
  | name token | number token =>
      cases t' <;> simp [trace, around, ofLeaf_ne_of_disjoint]
  | parenthesised leftParenthesis value rightParenthesis ih =>
      cases t' <;> simp [trace, around, ih, and_assoc, ofLeaf_ne_of_disjoint]

theorem trace_injective {rule : Rule} : Function.Injective (@trace rule) := by
  intro t t' h
  have happend : t.trace ++ [] = t'.trace ++ [] := by rw [h]
  exact ((t.trace_append_inj t' [] []).mp happend).1

end Tree

end OnePass.Grammar

namespace OnePass

open Grammar

/-- The occurrence is the declaration or the removal of a variable. -/
def Occurrence.ofVariable : Occurrence → Bool
  | .declare _ | .remove _ => true
  | _ => false

private theorem filter_ofVariable_ite {p : Prop} [Decidable p] {occurrence : Occurrence}
    (h : occurrence.ofVariable = true) :
    (if p then [occurrence] else []).filter (!·.ofVariable) = [] := by
  split <;> simp [h]

/-- The marks are what the account tells, its variables left aside. -/
def Account.Marks {α : Type} (y : Account α) (marks : List Mark) : Prop :=
  ∀ scope a after story, y scope = some (a, after, story) →
    story.filter (!·.ofVariable) = marks.map Mark.occurrence

namespace Account.Marks

variable {α β : Type} {y : Account α} {g : α → Account β} {marks front back : List Mark}

protected theorem pure (a : α) : (pure a : Account α).Marks [] := by
  intro scope b after story h
  cases h
  rfl

private theorem bind (hy : y.Marks front) (hg : ∀ a, (g a).Marks back) :
    (y >>= g).Marks (front ++ back) := by
  intro scope b after story h
  obtain ⟨a, middle, first, rest, hfirst, hrest, rfl⟩ := bind_eq_some.mp h
  rw [List.filter_append, List.map_append, hy scope a middle first hfirst,
    hg a middle b after rest hrest]

private theorem within (rule : Rule) (hy : y.Marks marks) :
    (Account.within rule y).Marks (Mark.around rule marks) := by
  intro scope a after story h
  obtain ⟨inner, hinner, rfl⟩ := within_eq_some.mp h
  rw [List.cons_append, List.filter_cons_of_pos rfl, List.filter_append,
    hy scope a after inner hinner]
  simp [Mark.around, Mark.occurrence, Occurrence.ofVariable]

private theorem accept {kinds : List Kind} (leaf : Leaf kinds) :
    (Account.accept leaf).Marks [.ofLeaf leaf] := by
  intro scope a after story h
  cases h
  rfl

private theorem accept_bind {kinds : List Kind} (leaf : Leaf kinds) {g : Unit → Account β}
    (hg : (g ()).Marks back) : (Account.accept leaf >>= g).Marks (.ofLeaf leaf :: back) :=
  (accept leaf).bind fun _ => hg

private theorem acceptVariable {kinds : List Kind} (leaf : Leaf kinds) :
    (Account.acceptVariable leaf).Marks [.ofLeaf leaf] := by
  intro scope a after story h
  unfold Account.acceptVariable at h
  cases hfind : scope.find? leaf.val.text with
  | none => simp [hfind] at h
  | some v =>
      rw [hfind] at h
      cases h
      rfl

private theorem require (p : Prop) [Decidable p] : (Account.require p).Marks [] := by
  intro scope a after story h
  unfold Account.require at h
  by_cases hp : p
  · rw [if_pos hp] at h
    cases h
    rfl
  · rw [if_neg hp] at h
    cases h

private theorem declare (identifier : String) (type : VarType) :
    (Account.declare identifier type).Marks [] := by
  intro scope a after story h
  cases h
  exact filter_ofVariable_ite rfl

private theorem drop (v : Variable) : (Account.drop v).Marks [] := by
  intro scope a after story h
  cases h
  exact filter_ofVariable_ite rfl

end Account.Marks

namespace Grammar.Tree

open Account.Marks

private theorem marks_within {rule : Rule} {α : Type} {y : Account α} {marks parts : List Mark}
    (hy : y.Marks parts) (hmarks : marks = Mark.around rule parts) :
    (Account.within rule y).Marks marks :=
  hmarks ▸ .within rule hy

/-- The account of a tree tells its trace. -/
theorem account_marks {rule : Rule} (t : Tree rule) : t.account.Marks t.trace := by
  induction t with
  | program opening body closing ih =>
      exact marks_within (accept_bind opening (ih.bind fun _ => accept closing)) rfl
  | last statement ih => exact marks_within ih rfl
  | closed statement semicolon ih =>
      exact marks_within (ih.bind fun _ => accept semicolon) rfl
  | more statement semicolon rest ih ihrest =>
      exact marks_within (ih.bind fun _ => accept_bind semicolon ihrest) rfl
  | assignment statement ih =>
      exact marks_within (ih.bind fun _ => .pure ()) (by simp [trace])
  | choice statement ih | loop statement ih | call statement ih | repetition statement ih
  | iteration statement ih => exact marks_within ih rfl
  | assignValue target becomes value ih =>
      exact marks_within (accept_bind target (accept_bind becomes
        (ih.bind fun type => declare _ type))) (by simp [trace])
  | assignString target becomes value =>
      exact marks_within (accept_bind target (accept_bind becomes
        (accept_bind value (declare _ _)))) rfl
  | ifThen opening condition thenWord body endWord closing ihcondition ihbody =>
      simp only [trace, List.append_assoc, List.cons_append]
      refine .within _ (accept_bind opening ?_)
      refine ihcondition.bind fun _ => accept_bind thenWord ?_
      exact ihbody.bind fun _ => accept_bind endWord (accept closing)
  | ifThenElse opening condition thenWord body elseWord alternative endWord closing ihcondition
      ihbody ihalternative =>
      simp only [trace, List.append_assoc, List.cons_append]
      refine .within _ (accept_bind opening ?_)
      refine ihcondition.bind fun _ => accept_bind thenWord ?_
      refine ihbody.bind fun _ => accept_bind elseWord ?_
      exact ihalternative.bind fun _ => accept_bind endWord (accept closing)
  | whileLoop opening condition loopWord body endWord closing ihcondition ihbody =>
      simp only [trace, List.append_assoc, List.cons_append]
      refine .within _ (accept_bind opening ?_)
      refine ihcondition.bind fun _ => accept_bind loopWord ?_
      exact ihbody.bind fun _ => accept_bind endWord (accept closing)
  | callProcedure opening callee leftParenthesis arguments rightParenthesis ih =>
      exact marks_within (accept_bind opening (accept_bind callee (accept_bind leftParenthesis
        (ih.bind fun _ => accept rightParenthesis)))) rfl
  | doUntil opening body untilWord condition ihbody ihcondition =>
      exact marks_within (accept_bind opening (ihbody.bind fun _ =>
        accept_bind untilWord ihcondition)) rfl
  | forLoop opening leftParenthesis initial first condition second step rightParenthesis doWord
      body endWord closing ihinitial ihcondition ihstep ihbody =>
      simp only [trace, List.append_assoc, List.cons_append]
      refine .within _ (accept_bind opening (accept_bind leftParenthesis ?_))
      refine ihinitial.bind fun v => accept_bind first ?_
      refine ihcondition.bind fun _ => accept_bind second ?_
      refine ihstep.bind fun w => accept_bind rightParenthesis (accept_bind doWord ?_)
      refine ihbody.bind fun _ => accept_bind endWord (accept_bind closing ?_)
      exact (drop v).bind fun _ => drop w
  | lastArgument token =>
      exact marks_within ((acceptVariable token).bind fun _ => .pure ()) rfl
  | moreArguments token comma rest ih =>
      exact marks_within ((acceptVariable token).bind fun _ => accept_bind comma ih) rfl
  | comparison left operator right ih =>
      refine marks_within ((acceptVariable left).bind fun _ => ih.bind fun _ => ?_) rfl
      by_cases hkind : right.val.kind = .identifier
      · rw [if_pos hkind]
        exact (acceptVariable right).bind fun _ => .pure ()
      · rw [if_neg hkind]
        exact accept right
  | relation operator => exact marks_within (accept operator) rfl
  | lone term ih => exact marks_within ih rfl
  | sum term operator rest ih ihrest =>
      exact marks_within (ih.bind fun left => accept_bind operator (ihrest.bind fun right =>
        (require _).bind fun _ => .pure left)) (by simp [trace])
  | single factor ih => exact marks_within ih rfl
  | product factor operator rest ih ihrest =>
      exact marks_within (ih.bind fun left => (require _).bind fun _ => accept_bind operator
        (ihrest.bind fun right => (require _).bind fun _ => .pure left)) (by simp [trace])
  | name token => exact marks_within ((acceptVariable token).bind fun v => .pure v.type) rfl
  | number token => exact marks_within (accept_bind token (.pure _)) rfl
  | parenthesised leftParenthesis value rightParenthesis ih =>
      exact marks_within (accept_bind leftParenthesis (ih.bind fun type =>
        accept_bind rightParenthesis (.pure type))) rfl

end Grammar.Tree

end OnePass
