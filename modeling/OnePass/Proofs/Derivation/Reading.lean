import OnePass.Proofs.Derivation.Account
import OnePass.Proofs.Derivation.Cursor
import OnePass.Proofs.Derivation.Script
/-!
# What an analysis reads

An analysis accepts the tokens up to some place, looks at the one there and at nothing behind it. It
does the same wherever the same tokens come next. What it has accepted spells a word of its language
when it gives a result, and can be completed to one when it rejects the program.
-/
namespace OnePass

open Analysis

variable {α β : Type} {L M : Language Kind} {word front back : List Kind} {c c' : Cursor}
  {j j' : Journal}

/-- The kinds can be completed to a word of the language. -/
def Viable (L : Language Kind) (word : List Kind) : Prop :=
  ∃ rest, word ++ rest ∈ L

namespace Viable

theorem of_mem (h : word ∈ L) : Viable L word :=
  ⟨[], (List.append_nil word).symm ▸ h⟩

private theorem weaken (h : Viable L word) (hsubset : ∀ word ∈ L, word ∈ M) : Viable M word := by
  obtain ⟨rest, hrest⟩ := h
  exact ⟨rest, hsubset _ hrest⟩

private theorem mul_left (h : Viable L word) (hword : ∃ word, word ∈ M) : Viable (L * M) word := by
  obtain ⟨rest, hrest⟩ := h
  obtain ⟨more, hmore⟩ := hword
  refine ⟨rest ++ more, ?_⟩
  rw [← List.append_assoc]
  exact Language.append_mem_mul hrest hmore

private theorem mul_right (hfront : front ∈ L) (h : Viable M back) :
    Viable (L * M) (front ++ back) := by
  obtain ⟨rest, hrest⟩ := h
  refine ⟨rest, ?_⟩
  rw [List.append_assoc]
  exact Language.append_mem_mul hfront hrest

end Viable

/-- A failure is due to a complaint about the token at hand. A kind that the complaint names could
have stood there. -/
def Blames (L : Language Kind) (word : List Kind) (c : Cursor) (failure : Failure) : Prop :=
  ∃ complaint : Complaint,
    failure.root = ⟨complaint.category, complaint.message c.source.filename c.token, c.token.line,
      none⟩ ∧
    (complaint.category = .syntactic ∨ complaint.category = .semantic) ∧
    ∀ kind, complaint.Names kind → Viable L (word ++ [kind])

/-- What has been accepted on the way to the outcome fits the language. -/
def Spells (L : Language Kind) (word : List Kind) (c : Cursor) : Except Stop α → Prop
  | .ok _ => word ∈ L
  | .error (.rejected failure) => Viable L word ∧ Blames L word c failure
  | .error stop => stop = .allowanceUsedUp

namespace Spells

variable {outcome : Except Stop α} {stop : Stop}

private theorem weaken (h : Spells L word c outcome) (hsubset : ∀ word ∈ L, word ∈ M) :
    Spells M word c outcome := by
  match outcome with
  | .ok _ => exact hsubset _ h
  | .error (.rejected failure) =>
      obtain ⟨hviable, complaint, hroot, hcategory, hnames⟩ := h
      refine ⟨hviable.weaken hsubset, complaint, hroot, hcategory, ?_⟩
      intro kind hkind
      exact (hnames kind hkind).weaken hsubset
  | .error .notStarted | .error .alreadyStarted | .error .allowanceUsedUp => exact h

private theorem mul_left (h : Spells L word c (.error stop : Except Stop α))
    (hword : ∃ word, word ∈ M) : Spells (L * M) word c (.error stop : Except Stop β) := by
  match stop with
  | .rejected failure =>
      obtain ⟨hviable, complaint, hroot, hcategory, hnames⟩ := h
      refine ⟨hviable.mul_left hword, complaint, hroot, hcategory, ?_⟩
      intro kind hkind
      exact (hnames kind hkind).mul_left hword
  | .notStarted | .alreadyStarted | .allowanceUsedUp => exact h

private theorem mul_right (hfront : front ∈ L) (h : Spells M back c outcome) :
    Spells (L * M) (front ++ back) c outcome := by
  match outcome with
  | .ok _ => exact Language.append_mem_mul hfront h
  | .error (.rejected failure) =>
      obtain ⟨hviable, complaint, hroot, hcategory, hnames⟩ := h
      refine ⟨.mul_right hfront hviable, complaint, hroot, hcategory, ?_⟩
      intro kind hkind
      rw [List.append_assoc]
      exact .mul_right hfront (hnames kind hkind)
  | .error .notStarted | .error .alreadyStarted | .error .allowanceUsedUp => exact h

private theorem through (h : Spells L word c (.error stop : Except Stop α)) (rule : Rule) :
    Spells L word c (.error (stop.through rule) : Except Stop α) := by
  cases stop with
  | rejected failure => exact h
  | notStarted | alreadyStarted | allowanceUsedUp => exact h

end Spells

namespace Analysis

/-- An outcome, with the analyser it is come to. -/
def ending (outcome : Except Stop α) (s : Analyser) : EStateM.Result Stop Analyser α :=
  match outcome with
  | .ok a => .ok a s
  | .error stop => .error stop s

theorem ending_inj {outcome outcome' : Except Stop α} {s s' : Analyser}
    (h : ending outcome s = ending outcome' s') : outcome = outcome' ∧ s = s' := by
  cases outcome <;> cases outcome' <;> cases h <;> exact ⟨rfl, rfl⟩

/-- From the first place an analysis reads the tokens and looks at the one behind them. It comes to
the outcome wherever it does so. -/
structure Reaches (L : Language Kind) (x : Analysis α) (c : Cursor) (j : Journal)
    (tokens : List Token) (c' : Cursor) (j' : Journal) (outcome : Except Stop α) : Prop where
  passes : c.Passes tokens c'
  terminals : j'.terminals = j.terminals ++ tokens
  spells : Spells L (tokens.map Token.kind) c' outcome
  elsewhere : ∀ d d' : Cursor, d.Passes tokens d' → d'.token = c'.token →
    d.source.filename = c.source.filename → x (d.analyser j) = ending outcome (d'.analyser j')

theorem Reaches.here {x : Analysis α} {tokens : List Token} {outcome : Except Stop α}
    (h : Reaches L x c j tokens c' j' outcome) :
    x (c.analyser j) = ending outcome (c'.analyser j') :=
  h.elsewhere c c' h.passes rfl rfl

/-- The source fails behind a token that has been accepted. -/
structure Starves (c : Cursor) (j : Journal) (result : EStateM.Result Stop Analyser α)
    (tokens : List Token) (c' : Cursor) (failure : Failure) (source : Source) (journal : Journal) :
    Prop where
  passes : c.Passes tokens c'
  fails : c'.source.next = (.error failure, source)
  terminals : journal.terminals = j.terminals ++ tokens ++ [c'.token]
  stops : ∃ inner, result = .error (.rejected inner) (Cursor.analyser ⟨c'.token, source⟩ journal) ∧
    inner.root = failure.root

/-- An analysis either comes to an outcome by what it reads, or starves. -/
def Reads (L : Language Kind) (x : Analysis α) (c : Cursor) (j : Journal) : Prop :=
  (∃ tokens c' j' outcome, Reaches L x c j tokens c' j' outcome) ∨
    ∃ tokens c' failure source journal,
      Starves c j (x (c.analyser j)) tokens c' failure source journal

namespace Reads

private theorem stay {x : Analysis α} (outcome : Except Stop α) (j' : Journal)
    (hterminals : j'.terminals = j.terminals) (hspells : Spells L [] c outcome)
    (hx : ∀ d : Cursor, d.token = c.token → d.source.filename = c.source.filename →
      x (d.analyser j) = ending outcome (d.analyser j')) : Reads L x c j := by
  refine .inl ⟨[], c, j', outcome, .here c, ?_, hspells, ?_⟩
  · rw [hterminals, List.append_nil]
  · intro d d' hpasses htoken hfilename
    cases hpasses.eq_of_nil
    exact hx d htoken hfilename

private theorem congr {x y : Analysis α} (h : Reads L x c j)
    (heq : ∀ d : Cursor, d.token = c.token → y (d.analyser j) = x (d.analyser j)) :
    Reads L y c j := by
  rcases h with ⟨tokens, c', j', outcome, hx⟩ | ⟨tokens, c', failure, source, journal, hx⟩
  · refine .inl ⟨tokens, c', j', outcome, hx.passes, hx.terminals, hx.spells, ?_⟩
    intro d d' hpasses htoken hfilename
    rw [heq d (hx.passes.token_eq hpasses htoken)]
    exact hx.elsewhere d d' hpasses htoken hfilename
  · refine .inr ⟨tokens, c', failure, source, journal, ?_⟩
    rw [heq c rfl]
    exact hx

private theorem weaken {x : Analysis α} (h : Reads L x c j) (hsubset : ∀ word ∈ L, word ∈ M) :
    Reads M x c j := by
  rcases h with ⟨tokens, c', j', outcome, hx⟩ | hstarves
  · exact .inl ⟨tokens, c', j', outcome, hx.passes, hx.terminals, hx.spells.weaken hsubset,
      hx.elsewhere⟩
  · exact .inr hstarves

private theorem bind {x : Analysis α} {f : α → Analysis β} (hx : Reads L x c j)
    (hf : ∀ a c' j', Reads M (f a) c' j') (hword : ∃ word, word ∈ M) :
    Reads (L * M) (x >>= f) c j := by
  rcases hx with ⟨tokens, c', j', outcome, hx⟩ | ⟨tokens, c', failure, source, journal, hx⟩
  · match outcome with
    | .error stop =>
        refine .inl ⟨tokens, c', j', .error stop, hx.passes, hx.terminals,
          hx.spells.mul_left hword, ?_⟩
        intro d d' hpasses htoken hfilename
        exact bind_eq_of_error (hx.elsewhere d d' hpasses htoken hfilename)
    | .ok a =>
        have hrun := bind_eq_of_ok (f := f) hx.here
        rcases hf a c' j' with ⟨tokens', c'', j'', outcome, hfa⟩ |
          ⟨tokens', c'', failure, source, journal, hfa⟩
        · refine .inl ⟨tokens ++ tokens', c'', j'', outcome, hx.passes.append hfa.passes, ?_, ?_,
            ?_⟩
          · rw [hfa.terminals, hx.terminals, List.append_assoc]
          · rw [List.map_append]
            exact .mul_right hx.spells hfa.spells
          · intro d d'' hpasses htoken hfilename
            obtain ⟨d', hfront, hback⟩ := hpasses.split
            have hmiddle := hfa.passes.token_eq hback htoken
            rw [bind_eq_of_ok (hx.elsewhere d d' hfront hmiddle hfilename)]
            refine hfa.elsewhere d' d'' hback htoken ?_
            rw [hfront.filename, hfilename, hx.passes.filename]
        · obtain ⟨inner, hstop, hroot⟩ := hfa.stops
          refine .inr ⟨tokens ++ tokens', c'', failure, source, journal,
            hx.passes.append hfa.passes, hfa.fails, ?_, inner, hrun.trans hstop, hroot⟩
          simp only [hfa.terminals, hx.terminals, List.append_assoc]
  · obtain ⟨inner, hstop, hroot⟩ := hx.stops
    exact .inr ⟨tokens, c', failure, source, journal, hx.passes, hx.fails, hx.terminals, inner,
      bind_eq_of_error hstop, hroot⟩

protected theorem pure (a : α) : Reads 1 (pure a) c j :=
  stay (.ok a) j rfl Language.nil_mem_one fun _ _ _ => rfl

protected theorem lookahead : Reads 1 lookahead c j :=
  stay (.ok c.token) j rfl Language.nil_mem_one fun d htoken _ => by
    rw [← htoken]
    rfl

protected theorem declare (identifier : String) (type : VarType) :
    Reads 1 (declare identifier type) c j := by
  let issued := j.scope.issue identifier type
  refine stay (.ok issued.1) ({ j with scope := issued.2 }.declare issued.1).2 ?_
    Language.nil_mem_one fun _ _ _ => rfl
  rw [Journal.declare_eq_follow, Journal.terminals_follow]
  split
  · exact List.append_nil _
  · exact List.append_nil _

protected theorem drop (v : Variable) : Reads 1 (note (·.drop v)) c j := by
  refine stay (.ok ()) (j.drop v) ?_ Language.nil_mem_one fun _ _ _ => rfl
  rw [Journal.drop_eq_follow, Journal.terminals_follow]
  split
  · exact List.append_nil _
  · exact List.append_nil _

protected theorem report {complaint : Complaint} (hword : ∃ word, word ∈ L)
    (hcategory : complaint.category = .syntactic ∨ complaint.category = .semantic)
    (hnames : ∀ kind, complaint.Names kind → Viable L [kind]) :
    Reads L (report complaint : Analysis α) c j := by
  refine stay (.error (.rejected (.diagnostic complaint.category
      (complaint.message c.source.filename c.token) c.token.line)))
    (j.complain (complaint.message c.source.filename c.token) c.token.line) ?_
    ⟨hword, complaint, rfl, hcategory, hnames⟩ ?_
  · exact (j.terminals_tell (.complaint _ _)).trans (List.append_nil _)
  · intro d htoken hfilename
    rw [report_eq, htoken, hfilename]
    rfl

protected theorem require {p : Prop} [Decidable p] {complaint : Complaint}
    (hcategory : complaint.category = .semantic) :
    Reads 1 (if p then pure () else report complaint) c j := by
  split
  · exact .pure ()
  · refine .report ⟨[], Language.nil_mem_one⟩ (.inr hcategory) ?_
    intro kind hnames
    rw [hnames.1] at hcategory
    cases hcategory

protected theorem accept (kind : Kind) : Reads {[kind]} (accept kind) c j := by
  by_cases hkind : c.token.kind = kind
  · cases hnext : c.next? with
    | none =>
        obtain ⟨failure, source, hfails, haccept⟩ := accept_of_next?_eq_none (j := j) hkind hnext
        refine .inr ⟨[], c, failure, source, _, .here c, hfails, ?_, failure, haccept, rfl⟩
        rw [List.append_nil]
        exact j.terminals_tell (.terminal c.token)
    | some c' =>
        refine .inl ⟨[c.token], c', j.terminal c.token, .ok c.token, .single hnext, ?_, ?_, ?_⟩
        · exact j.terminals_tell (.terminal c.token)
        · exact congrArg (fun kind => [kind]) hkind
        · intro d d' hpasses _ _
          obtain ⟨htoken, middle, hnext', hrest⟩ := hpasses.of_cons
          cases hrest.eq_of_nil
          rw [← htoken] at hkind ⊢
          exact accept_of_next? hkind hnext'
  · have hreport : Reads {[kind]} (report (.expected kind) : Analysis Token) c j := by
      refine .report ⟨_, rfl⟩ (.inl rfl) ?_
      intro kind' hnames
      rw [Complaint.eq_of_names_expected hnames]
      exact .of_mem rfl
    refine hreport.congr ?_
    intro d htoken
    rw [← htoken] at hkind
    exact accept_of_kind_ne hkind

protected theorem acceptVariable : Reads {[.identifier]} acceptVariable c j := by
  by_cases hkind : c.token.kind = .identifier
  · cases hfind : j.scope.find? c.token.text with
    | none =>
        have hreport : Reads {[.identifier]}
            (report (.undeclared c.token.text) : Analysis Variable) c j := by
          refine .report ⟨_, rfl⟩ (.inr rfl) ?_
          intro kind hnames
          cases hnames.1
        refine hreport.congr ?_
        intro d htoken
        rw [acceptVariable_eq, htoken, if_pos hkind, hfind]
    | some v =>
        have haccept := (Reads.accept (c := c) (j := j) .identifier).bind
          (fun _ _ _ => Reads.pure v) ⟨[], Language.nil_mem_one⟩
        rw [mul_one] at haccept
        refine haccept.congr ?_
        intro d htoken
        rw [acceptVariable_eq, htoken, if_pos hkind, hfind]
  · have hreport : Reads {[.identifier]}
        (report (.expected .identifier) : Analysis Variable) c j := by
      refine .report ⟨_, rfl⟩ (.inl rfl) ?_
      intro kind hnames
      rw [Complaint.eq_of_names_expected hnames]
      exact .of_mem rfl
    refine hreport.congr ?_
    intro d htoken
    rw [acceptVariable_eq, htoken, if_neg hkind]

private theorem enclose {x : Analysis α} (rule : Rule) (h : Reads L x c (j.commence rule.name)) :
    Reads L (enclose rule x) c j := by
  have hcommence : (j.commence rule.name).terminals = j.terminals :=
    (j.terminals_tell (.commence rule.name)).trans (List.append_nil _)
  rcases h with ⟨tokens, c', j', outcome, hx⟩ | ⟨tokens, c', failure, source, journal, hx⟩
  · match outcome with
    | .ok a =>
        refine .inl ⟨tokens, c', j'.finish rule.name, .ok a, hx.passes, ?_, hx.spells, ?_⟩
        · rw [← hcommence, ← hx.terminals]
          exact (j'.terminals_tell (.finish rule.name)).trans (List.append_nil _)
        · intro d d' hpasses htoken hfilename
          exact enclose_of_ok (hx.elsewhere d d' hpasses htoken hfilename)
    | .error stop =>
        refine .inl ⟨tokens, c', j', .error (stop.through rule), hx.passes, ?_,
          hx.spells.through rule, ?_⟩
        · rw [hx.terminals, hcommence]
        · intro d d' hpasses htoken hfilename
          exact enclose_of_error (hx.elsewhere d d' hpasses htoken hfilename)
  · obtain ⟨inner, hstop, hroot⟩ := hx.stops
    refine .inr ⟨tokens, c', failure, source, journal, hx.passes, hx.fails, ?_,
      inner.wrap rule.name, enclose_of_error hstop, hroot⟩
    rw [hx.terminals, hcommence]

end Reads

end Analysis

namespace Script

variable {run : Run} {x : Analysis α}

private theorem exists_word (h : Script run L x) : ∃ word, word ∈ L := by
  induction h with
  | pure | lookahead | declare | drop | checkAdding | checkMultiplying =>
      exact ⟨[], Language.nil_mem_one⟩
  | accept | acceptVariable => exact ⟨_, rfl⟩
  | refuse _ hword => exact hword
  | rule rule => exact rule.exists_mem_language
  | @bind α _ inhabited _ _ _ _ _ _ ihx ihf =>
      obtain ⟨a⟩ := inhabited
      obtain ⟨front, hfront⟩ := ihx
      obtain ⟨back, hback⟩ := ihf a
      exact ⟨front ++ back, Language.append_mem_mul hfront hback⟩
  | weaken _ hsubset ih =>
      obtain ⟨word, hword⟩ := ih
      exact ⟨word, hsubset word hword⟩

theorem category_of_mem_choices {complaint : Complaint} (h : complaint ∈ Complaint.choices) :
    complaint.category = .syntactic := by
  revert complaint
  decide

private theorem reads (h : Script run L x) (hrun : ∀ rule c j, Reads rule.language (run rule) c j) :
    ∀ c j, Reads L x c j := by
  induction h with
  | pure a => exact fun _ _ => .pure a
  | lookahead => exact fun _ _ => .lookahead
  | accept kind => exact fun _ _ => .accept kind
  | acceptVariable => exact fun _ _ => .acceptVariable
  | declare identifier type => exact fun _ _ => .declare identifier type
  | drop v => exact fun _ _ => .drop v
  | checkAdding operator left right =>
      intro c j
      rw [checkAdding_eq]
      exact .require rfl
  | checkMultiplying operator side type =>
      intro c j
      rw [checkMultiplying_eq]
      exact .require rfl
  | refuse hcomplaint hword =>
      intro c j
      refine .report hword (.inl (category_of_mem_choices hcomplaint)) ?_
      exact fun kind hnames => absurd hnames (Complaint.not_names_of_mem_choices hcomplaint kind)
  | rule rule => exact hrun rule
  | @bind α _ inhabited _ _ _ _ _ hf ihx ihf =>
      obtain ⟨a⟩ := inhabited
      exact fun c j => (ihx c j).bind ihf (hf a).exists_word
  | weaken _ hsubset ih => exact fun c j => (ih c j).weaken hsubset

end Script

private theorem runWithin_reads (allowance : Nat) (rule : Rule) (c : Cursor) (j : Journal) :
    Reads rule.language (runWithin allowance rule) c j := by
  induction allowance generalizing rule c j with
  | zero => exact .stay (.error .allowanceUsedUp) j rfl rfl fun _ _ _ => rfl
  | succ allowance ih =>
      exact .enclose rule ((procedure_script (runWithin allowance) rule).reads ih c _)

private theorem Analysis.Reaches.not_starves {x : Analysis α} {tokens tokens' : List Token}
    {c'' : Cursor} {outcome : Except Stop α} {result : EStateM.Result Stop Analyser α}
    {failure : Failure} {source : Source} {journal : Journal}
    (h : Reaches L x c j tokens c' j' outcome)
    (hresult : result = ending outcome (c'.analyser j')) :
    ¬ Starves c j result tokens' c'' failure source journal := by
  intro hstarves
  obtain ⟨inner, hstop, -⟩ := hstarves.stops
  have hsame : ending (.error (.rejected inner) : Except Stop α)
      (Cursor.analyser ⟨c''.token, source⟩ journal) = ending outcome (c'.analyser j') :=
    hstop.symm.trans hresult
  obtain ⟨-, hanalyser⟩ := ending_inj hsame
  obtain ⟨-, rfl⟩ := Cursor.analyser_inj hanalyser
  -- The journal tells that the token is accepted, so that the source has gone on behind it.
  have htokens : tokens' ++ [c''.token] = tokens := by
    have hterminals := hstarves.terminals.symm.trans h.terminals
    rw [List.append_assoc] at hterminals
    exact List.append_cancel_left hterminals
  have hpasses := h.passes
  rw [← htokens] at hpasses
  obtain ⟨middle, hfront, hback⟩ := hpasses.split
  obtain ⟨-, after, hnext, -⟩ := hback.of_cons
  rw [hfront.unique hstarves.passes] at hnext
  simp [Cursor.next?, Source.place?, hstarves.fails] at hnext

/-- The tokens that a rule reads decide what it does, and what it accepts spells a word of the rule
or can be completed to one. -/
theorem runRule_reads (rule : Rule) (c : Cursor) (j : Journal) :
    Reads rule.language (runRule rule) c j := by
  rcases runWithin_reads (c.analyser j).allowance rule c j with
    ⟨tokens, c', j', outcome, hx⟩ | hstarves
  · refine .inl ⟨tokens, c', j', outcome, hx.passes, hx.terminals, hx.spells, ?_⟩
    intro d d' hpasses htoken hfilename
    -- An allowance that is enough in both places leads to the same in each.
    let enough (e : Cursor) : Nat := 3 * (e.analyser j).acceptable + rule.rank
    let allowance : Nat := max (enough c) (enough d)
    have hc := runWithin_eq_runRule rule (c.analyser j) allowance (Nat.le_max_left _ _)
    have hd := runWithin_eq_runRule rule (d.analyser j) allowance (Nat.le_max_right _ _)
    have hresult : runWithin allowance rule (c.analyser j) = ending outcome (c'.analyser j') :=
      hc.trans hx.here
    rcases runWithin_reads allowance rule c j with
      ⟨tokens', c'', j'', outcome', hx'⟩ | ⟨tokens', c'', failure, source, journal, hstarves⟩
    · obtain ⟨rfl, hanalyser⟩ := ending_inj (hx'.here.symm.trans hresult)
      obtain ⟨rfl, rfl⟩ := Cursor.analyser_inj hanalyser
      have htokens : tokens' = tokens :=
        List.append_cancel_left (hx'.terminals.symm.trans hx.terminals)
      rw [← hd]
      exact hx'.elsewhere d d' (htokens ▸ hpasses) htoken hfilename
    · exact absurd hstarves (hx.not_starves hresult)
  · exact .inr hstarves

end OnePass
