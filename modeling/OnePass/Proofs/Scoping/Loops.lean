import OnePass.Proofs.Scoping.Headers
/-!
# Loops

Whatever names the assignments in the header of a loop share with each other, with the body or with
the surroundings, the loop ends by removing those of the two that it has declared, and no others.
-/
namespace OnePass

open Grammar Story
open Occurrence (passage? declared? removed?)

namespace Story

private theorem steady_removals {old live removed : List Variable} (hlive : old <+: live)
    (habsent : ∀ v ∈ removed, v ∉ old) : Steady old live (removed.map .remove) := by
  induction removed generalizing live with
  | nil => exact .nil hlive
  | cons v removed ih =>
      have hv : v ∉ old := habsent v List.mem_cons_self
      have herase : old <+: live.erase v := by
        obtain ⟨more, rfl⟩ := hlive
        rw [List.erase_append_right _ hv]
        exact List.prefix_append _ _
      have hhead : Steady old live [.remove v] := .single hlive herase
      apply hhead.append
      exact ih herase fun u hu => habsent u (List.mem_cons_of_mem v hu)

private theorem liveAfter_removals {old removed : List Variable} (more : List Variable)
    (habsent : ∀ v ∈ removed, v ∉ old) :
    liveAfter (old ++ removed ++ more) (removed.map .remove) = old ++ more := by
  induction removed with
  | nil => rw [List.append_nil]; rfl
  | cons v removed ih =>
      have hv : v ∉ old := habsent v List.mem_cons_self
      have herase : (old ++ v :: removed ++ more).erase v = old ++ removed ++ more := by
        rw [List.append_assoc, List.erase_append_right _ hv, List.cons_append,
          List.erase_cons_head, List.append_assoc]
      change liveAfter ((old ++ v :: removed ++ more).erase v) (removed.map .remove) = _
      rw [herase]
      exact ih fun u hu => habsent u (List.mem_cons_of_mem v hu)

private theorem Balanced.removals (removed : List Variable) : Balanced (removed.map .remove) := by
  induction removed with
  | nil => exact .nil
  | cons v removed ih =>
      have hhead : Balanced [.remove v] := .plain rfl
      exact hhead.append ih

end Story

private theorem Scoped.of_loop {rules : List String} {before inner last after : Scope}
    {header body tail : Story} {fresh : List Variable} (hheader : Heads before header inner fresh)
    (hbody : Scoped (Rule.forStatement.name :: rules) inner body last) (htail : Silent tail)
    (hentries : after.entries =
      before.entries ++ declarations false (Rule.forStatement.name :: rules) body)
    (hissued : after.issued = last.issued) :
    Scoped rules before (.commence Rule.forStatement.name ::
      (header ++ (body ++ (tail ++ fresh.map .remove))) ++ [.finish Rule.forStatement.name])
      after := by
  have hundeclared : (tail ++ fresh.map Occurrence.remove).filterMap declared? = [] := by
    simp [htail.undeclared, declared?]
  have hlast : last.entries = before.entries ++ fresh ++
      declarations false (Rule.forStatement.name :: rules) body := by
    rw [hbody.entries, hheader.entries]
  have habsent : ∀ v ∈ fresh, v ∉ before.entries := fun v hv => hheader.issued.not_mem_entries hv
  have hremoved : (fresh.map Occurrence.remove).filterMap removed? = fresh := by
    rw [List.filterMap_map]
    exact List.filterMap_some
  have hlive : liveAfter before.entries (header ++ (body ++ (tail ++ fresh.map .remove))) =
      after.entries := by
    rw [liveAfter_append, hheader.live, liveAfter_append, hbody.live, hlast, liveAfter_append,
      liveAfter_of_silent _ htail.undeclared htail.unremoved, liveAfter_removals _ habsent,
      hentries]
  exact {
    balanced := by
      apply Balanced.within
      exact hheader.balanced.append
        (hbody.balanced.append (htail.balanced.append (.removals fresh)))
    entries := by
      rw [declarations_within, declarations_append, declarations_append,
        hheader.balanced.openAfter, hbody.balanced.openAfter, hheader.declarations_eq,
        declarations_eq_nil _ _ hundeclared, List.append_nil]
      exact hentries
    issued := by
      have hissued' := hheader.issued.append hbody.issued
      rw [filterMap_declared?_within, List.filterMap_append, List.filterMap_append,
        hheader.declared, hundeclared, List.append_nil]
      exact ⟨hissued ▸ hissued'.issued_le, hissued ▸ hissued'.stamp_mem, hissued'.nodup⟩
    removals := by
      rw [filterMap_removed?_within, declarations_within, declarations_append, declarations_append,
        hheader.balanced.openAfter, hbody.balanced.openAfter, hheader.declarations_eq,
        declarations_eq_nil _ _ hundeclared, List.append_nil, List.filterMap_append,
        List.filterMap_append, List.filterMap_append, hheader.removed, htail.unremoved, hremoved]
      exact (hbody.removals.append_right fresh).trans List.perm_append_comm
    released := by
      have hends : ∀ v ∈ fresh, EndsLoop v (body ++ (tail ++ fresh.map .remove) ++
          [.finish Rule.forStatement.name]) := by
        intro v hv
        refine ⟨body ++ tail, fresh.map .remove, [], ?_, hbody.balanced.append htail.balanced,
          List.mem_map_of_mem hv, ?_⟩
        · simp only [List.append_assoc]
        · simp [removed?]
      rw [List.cons_append, released_cons, List.append_assoc]
      refine ⟨by simp, ?_⟩
      apply hheader.released _ _ hends
      rw [List.append_assoc]
      apply hbody.released.append
      apply Released.of_undeclared
      rw [List.filterMap_append, hundeclared]
      rfl
    live := (liveAfter_within _ _ _).trans hlive
    steady := by
      have hinner : before.entries <+: inner.entries := hheader.entries ▸ List.prefix_append _ _
      have hprefix : before.entries <+: last.entries :=
        hlast ▸ (List.prefix_append _ _).trans (List.prefix_append _ _)
      have hend : Steady before.entries last.entries (tail ++ fresh.map .remove) := by
        apply (Steady.of_silent hprefix htail).append
        rw [liveAfter_of_silent _ htail.undeclared htail.unremoved]
        exact steady_removals hprefix habsent
      have hafter : before.entries <+: after.entries := hentries ▸ List.prefix_append _ _
      apply Steady.within _ (List.prefix_refl _) (hlive ▸ hafter)
      · apply (hheader.steady _ (List.prefix_refl _)).append
        rw [hheader.live]
        have hsteady : Steady before.entries inner.entries body :=
          fun moment hmoment => hinner.trans (hbody.steady moment hmoment)
        apply hsteady.append
        rw [hbody.live]
        exact hend }

private theorem erase_fresh {old fresh more : List Variable} {v : Variable}
    (hfresh : fresh = [] ∨ fresh = [v]) (hold : v ∉ old) (hmore : v ∉ more) :
    (old ++ fresh ++ more).erase v = old ++ more ∧
      (if v ∈ old ++ fresh ++ more then [Occurrence.remove v] else []) = fresh.map .remove := by
  rcases hfresh with rfl | rfl
  · have habsent : v ∉ old ++ more := by simp [hold, hmore]
    rw [List.append_nil, List.erase_of_not_mem habsent, if_neg habsent]
    exact ⟨rfl, rfl⟩
  · have hpresent : v ∈ old ++ [v] ++ more := by simp
    rw [if_pos hpresent, List.append_assoc, List.erase_append_right _ hold]
    refine ⟨?_, rfl⟩
    rw [List.singleton_append, List.erase_cons_head]

theorem Assigns.erase_both {rules : List String} {scope s₁ s₂ s₃ : Scope} {a₁ a₂ b : Story}
    {v w : Variable} {fresh fresh' : List Variable} (h : Assigns scope a₁ s₁ v fresh)
    (h' : Assigns s₁ a₂ s₂ w fresh') (hbody : Scoped rules s₂ b s₃) :
    (s₃.entries.erase v).erase w = scope.entries ++ declarations false rules b ∧
      (if v ∈ s₃.entries then [Occurrence.remove v] else []) ++
        (if w ∈ s₃.entries.erase v then [.remove w] else []) =
          (fresh ++ fresh').map .remove := by
  have hissued := h.issued
  have hissued' := h'.issued
  have hstamp := h.stamp
  have hstamp' := h'.stamp
  have hkept : ∀ u, u.stamp < s₂.issued → u ∉ declarations false rules b := by
    intro u hu hmem
    exact hbody.issued.not_mem_of_stamp_lt hu ((declarations_sublist _ _ _).mem hmem)
  have hv : v ∉ scope.entries := Scope.not_mem_of_issued_le (by omega)
  have hw : w ∉ scope.entries := Scope.not_mem_of_issued_le (by omega)
  have hv' : v ∉ fresh' ++ declarations false rules b := by
    rw [List.mem_append]
    rintro (hmem | hmem)
    · rw [h'.mem_fresh hmem] at hstamp
      omega
    · exact hkept v (by omega) hmem
  have hentries : s₃.entries =
      scope.entries ++ fresh ++ (fresh' ++ declarations false rules b) := by
    rw [hbody.entries, h'.entries, h.entries, List.append_assoc]
  obtain ⟨herase, hremove⟩ := erase_fresh h.fresh_eq hv hv'
  rw [← List.append_assoc scope.entries] at herase
  obtain ⟨herase', hremove'⟩ := erase_fresh h'.fresh_eq hw (hkept w (by omega))
  rw [hentries, herase, herase', hremove, hremove', List.map_append]
  exact ⟨rfl, rfl⟩

namespace Grammar.Tree

variable {opening : Leaf [.forWord]} {leftParenthesis : Leaf [.leftParenthesis]}
  {initial step : Tree .assignmentStatement} {first second : Leaf [.semicolon]}
  {condition : Tree .condition} {rightParenthesis : Leaf [.rightParenthesis]}
  {doWord : Leaf [.doWord]} {body : Tree .statementList} {endWord : Leaf [.endWord]}
  {closing : Leaf [.loopWord]}

private theorem account_forLoop_eq_some {scope after : Scope} {u : Unit} {story : Story}
    (h : (Tree.forLoop opening leftParenthesis initial first condition second step rightParenthesis
      doWord body endWord closing).account scope = some (u, after, story)) :
    ∃ v w s₁ s₂ s₃ a₁ a₂ b q q₁ q₂ q₃, initial.account scope = some (v, s₁, a₁) ∧
      step.account s₁ = some (w, s₂, a₂) ∧ body.account s₂ = some ((), s₃, b) ∧
      Silent q ∧ Silent q₁ ∧ Silent q₂ ∧ Silent q₃ ∧
      after.entries = (s₃.entries.erase v).erase w ∧ after.issued = s₃.issued ∧
      story = .commence Rule.forStatement.name :: (q ++ (a₁ ++ (q₁ ++ (a₂ ++ (q₂ ++ (b ++ (q₃ ++
        ((if v ∈ s₃.entries then [.remove v] else []) ++
          if w ∈ s₃.entries.erase v then [.remove w] else [])))))))) ++
        [.finish Rule.forStatement.name] := by
  obtain ⟨_, h₁, rfl⟩ := Account.within_eq_some.mp h
  obtain ⟨_, h₂, rfl⟩ := Account.accept_bind_eq_some.mp h₁
  obtain ⟨_, h₃, rfl⟩ := Account.accept_bind_eq_some.mp h₂
  obtain ⟨v, s₁, a₁, _, hinitial, h₄, rfl⟩ := Account.bind_eq_some.mp h₃
  obtain ⟨_, h₅, rfl⟩ := Account.accept_bind_eq_some.mp h₄
  obtain ⟨_, s₁', c, _, hcondition, h₆, rfl⟩ := Account.bind_eq_some.mp h₅
  obtain ⟨rfl, hquiet⟩ := condition.account_quiet (by decide) _ _ _ _ hcondition
  obtain ⟨_, h₇, rfl⟩ := Account.accept_bind_eq_some.mp h₆
  obtain ⟨w, s₂, a₂, _, hstep, h₈, rfl⟩ := Account.bind_eq_some.mp h₇
  obtain ⟨_, h₉, rfl⟩ := Account.accept_bind_eq_some.mp h₈
  obtain ⟨_, h₁₀, rfl⟩ := Account.accept_bind_eq_some.mp h₉
  obtain ⟨_, s₃, b, _, hbody, h₁₁, rfl⟩ := Account.bind_eq_some.mp h₁₀
  obtain ⟨_, h₁₂, rfl⟩ := Account.accept_bind_eq_some.mp h₁₁
  obtain ⟨_, h₁₃, rfl⟩ := Account.accept_bind_eq_some.mp h₁₂
  obtain ⟨_, s₄, _, _, hv, hw, rfl⟩ := Account.bind_eq_some.mp h₁₃
  obtain ⟨hentries, hissued, rfl⟩ := Account.drop_eq_some hv
  obtain ⟨hentries', hissued', rfl⟩ := Account.drop_eq_some hw
  refine ⟨v, w, s₁', s₂, s₃, a₁, a₂, b, [.terminal opening.val, .terminal leftParenthesis.val],
    [.terminal first.val] ++ c ++ [.terminal second.val],
    [.terminal rightParenthesis.val, .terminal doWord.val],
    [.terminal endWord.val, .terminal closing.val], hinitial, hstep, hbody, ?_, ?_, ?_, ?_,
    ?_, hissued'.trans hissued, ?_⟩
  · exact (Silent.terminal _).append (.terminal _)
  · exact ((Silent.terminal _).append hquiet).append (.terminal _)
  · exact (Silent.terminal _).append (.terminal _)
  · exact (Silent.terminal _).append (.terminal _)
  · rw [hentries', hentries]
  · simp [hentries]

theorem exists_loop {rules : List String} {scope after : Scope} {u : Unit} {story : Story}
    (hbody : body.account.Keeps (Rule.forStatement.name :: rules))
    (h : (Tree.forLoop opening leftParenthesis initial first condition second step rightParenthesis
      doWord body endWord closing).account scope = some (u, after, story)) :
    ∃ inner last header b tail fresh, Heads scope header inner fresh ∧
      Scoped (Rule.forStatement.name :: rules) inner b last ∧ Silent tail ∧
      after.entries = scope.entries ++ declarations false (Rule.forStatement.name :: rules) b ∧
      after.issued = last.issued ∧
      (∀ name ∈ initial.targets ++ step.targets,
        name ∈ inner.entries.map Variable.identifier) ∧
      body.account inner = some ((), last, b) ∧
      story = .commence Rule.forStatement.name :: (header ++ (b ++ (tail ++ fresh.map .remove))) ++
        [.finish Rule.forStatement.name] := by
  obtain ⟨v, w, s₁, s₂, s₃, a₁, a₂, b, q, q₁, q₂, q₃, hinitial, hstep, hlast, hq, hq₁, hq₂, hq₃,
    hentries, hissued, rfl⟩ := account_forLoop_eq_some h
  obtain ⟨htargets, fresh, hassigns⟩ := Assigns.of_account hinitial
  obtain ⟨htargets', fresh', hassigns'⟩ := Assigns.of_account hstep
  have hscoped := hbody s₂ () s₃ b hlast
  have hhead := Heads.of_assigns hassigns
  have hhead' := Heads.of_assigns hassigns'
  have hheader : Heads scope (q ++ (a₁ ++ (q₁ ++ (a₂ ++ q₂)))) s₂ (fresh ++ fresh') := by
    have hback : Heads s₁ (q₁ ++ (a₂ ++ q₂)) s₂ ([] ++ (fresh' ++ [])) :=
      (Heads.of_silent hq₁).append (hhead'.append (.of_silent hq₂))
    have hall := (Heads.of_silent hq).append (hhead.append hback)
    rwa [List.nil_append, List.nil_append, List.append_nil] at hall
  obtain ⟨herase, hremovals⟩ := hassigns.erase_both hassigns' hscoped
  rw [herase] at hentries
  refine ⟨s₂, s₃, q ++ (a₁ ++ (q₁ ++ (a₂ ++ q₂))), b, q₃, fresh ++ fresh', hheader, hscoped, hq₃,
    hentries, hissued, ?_, hlast, ?_⟩
  · intro name hname
    rw [htargets, htargets'] at hname
    rcases List.mem_append.mp hname with hname | hname
    · rw [List.mem_singleton.mp hname, hassigns'.entries, List.map_append]
      exact List.mem_append_left _ hassigns.live
    · rw [List.mem_singleton.mp hname]
      exact hassigns'.live
  · rw [hremovals]
    simp only [List.append_assoc]

end Grammar.Tree

theorem not_inHeader {rule outer : Rule} {rules : List String}
    (h : rule ≠ .assignmentStatement ∨ outer ≠ .forStatement) :
    ¬ InHeader (rule.name :: outer.name :: rules) := by
  intro hheader
  unfold InHeader at hheader
  rw [List.cons_prefix_cons, List.cons_prefix_cons] at hheader
  rcases h with h | h
  · exact h (Rule.name_injective hheader.1.symm)
  · exact h (Rule.name_injective hheader.2.1.symm)

/-- A tree that is not itself an assignment in the header of a loop removes exactly what it declares
in the headers of its loops. -/
theorem Grammar.Tree.account_keeps {rule : Rule} (t : Tree rule) {rules : List String}
    (hrules : ¬ InHeader (rule.name :: rules)) : t.account.Keeps rules := by
  induction t generalizing rules with
  | program opening body closing ih =>
      refine .within ((Account.Keeps.accept opening).bind fun _ => ?_)
      exact (ih (not_inHeader (by decide))).bind fun _ => .accept closing
  | last statement ih => exact .within (ih (not_inHeader (by decide)))
  | closed statement semicolon ih =>
      exact .within ((ih (not_inHeader (by decide))).bind fun _ => .accept semicolon)
  | more statement semicolon rest ih ihrest =>
      refine .within ((ih (not_inHeader (by decide))).bind fun _ => ?_)
      exact (Account.Keeps.accept semicolon).bind fun _ => ihrest (not_inHeader (by decide))
  | assignment statement ih =>
      exact .within ((ih (not_inHeader (by decide))).bind fun _ => .of_quiet (.pure ()))
  | choice statement ih | loop statement ih | call statement ih | repetition statement ih
  | iteration statement ih => exact .within (ih (not_inHeader (by decide)))
  | assignValue target becomes value =>
      have hvalue := value.account_quiet (by decide)
      refine .within ((Account.Keeps.accept target).bind fun _ => ?_)
      refine (Account.Keeps.accept becomes).bind fun _ => ?_
      exact (Account.Keeps.of_quiet hvalue).bind fun type => .declare hrules _ _
  | assignString target becomes value =>
      refine .within ((Account.Keeps.accept target).bind fun _ => ?_)
      refine (Account.Keeps.accept becomes).bind fun _ => ?_
      exact (Account.Keeps.accept value).bind fun _ => .declare hrules _ _
  | ifThen opening condition thenWord body endWord closing _ ih =>
      have hcondition := condition.account_quiet (by decide)
      refine .within ((Account.Keeps.accept opening).bind fun _ => ?_)
      refine (Account.Keeps.of_quiet hcondition).bind fun _ => ?_
      refine (Account.Keeps.accept thenWord).bind fun _ => ?_
      refine (ih (not_inHeader (by decide))).bind fun _ => ?_
      exact (Account.Keeps.accept endWord).bind fun _ => .accept closing
  | ifThenElse opening condition thenWord body elseWord alternative endWord closing _ ih ihelse =>
      have hcondition := condition.account_quiet (by decide)
      refine .within ((Account.Keeps.accept opening).bind fun _ => ?_)
      refine (Account.Keeps.of_quiet hcondition).bind fun _ => ?_
      refine (Account.Keeps.accept thenWord).bind fun _ => ?_
      refine (ih (not_inHeader (by decide))).bind fun _ => ?_
      refine (Account.Keeps.accept elseWord).bind fun _ => ?_
      refine (ihelse (not_inHeader (by decide))).bind fun _ => ?_
      exact (Account.Keeps.accept endWord).bind fun _ => .accept closing
  | whileLoop opening condition loopWord body endWord closing _ ih =>
      have hcondition := condition.account_quiet (by decide)
      refine .within ((Account.Keeps.accept opening).bind fun _ => ?_)
      refine (Account.Keeps.of_quiet hcondition).bind fun _ => ?_
      refine (Account.Keeps.accept loopWord).bind fun _ => ?_
      refine (ih (not_inHeader (by decide))).bind fun _ => ?_
      exact (Account.Keeps.accept endWord).bind fun _ => .accept closing
  | callProcedure opening callee leftParenthesis arguments rightParenthesis =>
      have harguments := arguments.account_quiet (by decide)
      refine .within ((Account.Keeps.accept opening).bind fun _ => ?_)
      refine (Account.Keeps.accept callee).bind fun _ => ?_
      refine (Account.Keeps.accept leftParenthesis).bind fun _ => ?_
      exact (Account.Keeps.of_quiet harguments).bind fun _ => .accept rightParenthesis
  | doUntil opening body untilWord condition ih =>
      refine .within ((Account.Keeps.accept opening).bind fun _ => ?_)
      refine (ih (not_inHeader (by decide))).bind fun _ => ?_
      refine (Account.Keeps.accept untilWord).bind fun _ => ?_
      exact .of_quiet (condition.account_quiet (by decide))
  | forLoop opening leftParenthesis initial first condition second step rightParenthesis doWord body
      endWord closing _ _ _ ih =>
      intro scope u after story h
      have hbody : body.account.Keeps (Rule.forStatement.name :: rules) :=
        ih (not_inHeader (by decide))
      obtain ⟨inner, last, header, b, tail, fresh, hheader, hscoped, htail, hentries, hissued, -, -,
        rfl⟩ := exists_loop hbody h
      exact .of_loop hheader hscoped htail hentries hissued
  | lastArgument | moreArguments | comparison | relation | lone | sum | single | product | name
  | number | parenthesised => exact .of_quiet (account_quiet _ (by decide))

end OnePass
