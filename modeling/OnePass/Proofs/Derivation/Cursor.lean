import OnePass.Analysis.Nesting
/-!
# Places in a source

Once an analysis has started it stands at a place: the token at hand, and the source from which the
others come. Tokens that are accepted lead from one place to the next, so that what an analysis has
read is the list of tokens between two places.
-/
namespace OnePass

/-- The token at hand and the source of those behind it. -/
structure Cursor where
  token : Token
  source : Source

/-- The place at the next token of a source, unless the source fails there. -/
def Source.place? (source : Source) : Option Cursor :=
  match source.next with
  | (.ok token, rest) => some ⟨token, rest⟩
  | (.error _, _) => none

theorem Source.filename_of_place? {source : Source} {c : Cursor} (h : source.place? = some c) :
    c.source.filename = source.filename := by
  have hkept := source.filename_next
  unfold place? at h
  split at h
  next token rest hnext =>
    cases h
    rw [hnext] at hkept
    exact hkept
  next => cases h

namespace Cursor

/-- The analyser that stands at a place. -/
def analyser (c : Cursor) (journal : Journal) : Analyser :=
  ⟨c.source, some c.token, journal⟩

/-- The place behind the token at hand. -/
def next? (c : Cursor) : Option Cursor :=
  c.source.place?

/-- The tokens lead from the first place to the second. -/
inductive Passes : Cursor → List Token → Cursor → Prop where
  | here (c : Cursor) : Passes c [] c
  | step {c c' c'' : Cursor} {tokens : List Token} (hnext : c.next? = some c')
    (hrest : Passes c' tokens c'') : Passes c (c.token :: tokens) c''

theorem analyser_inj {c c' : Cursor} {j j' : Journal} (h : c.analyser j = c'.analyser j') :
    c = c' ∧ j = j' := by
  obtain ⟨token, source⟩ := c
  obtain ⟨token', source'⟩ := c'
  simp only [analyser, Analyser.mk.injEq, Option.some.injEq] at h
  obtain ⟨rfl, rfl, rfl⟩ := h
  exact ⟨rfl, rfl⟩

namespace Passes

variable {c c' c'' d d' : Cursor} {tokens front back : List Token}

theorem single (h : c.next? = some c') : c.Passes [c.token] c' :=
  .step h (.here c')

theorem append (hfront : c.Passes front c') (hback : c'.Passes back c'') :
    c.Passes (front ++ back) c'' := by
  induction hfront with
  | here c => exact hback
  | step hnext _ ih => exact .step hnext (ih hback)

theorem eq_of_nil (h : c.Passes [] c') : c = c' := by
  cases h
  rfl

theorem of_cons {token : Token} (h : c.Passes (token :: tokens) c'') :
    c.token = token ∧ ∃ c', c.next? = some c' ∧ c'.Passes tokens c'' := by
  cases h with
  | step hnext hrest => exact ⟨rfl, _, hnext, hrest⟩

theorem split (h : c.Passes (front ++ back) c'') :
    ∃ c', c.Passes front c' ∧ c'.Passes back c'' := by
  induction front generalizing c with
  | nil => exact ⟨c, .here c, h⟩
  | cons token front ih =>
      obtain ⟨rfl, middle, hnext, hrest⟩ := h.of_cons
      obtain ⟨c', hfront, hback⟩ := ih hrest
      exact ⟨c', .step hnext hfront, hback⟩

theorem unique (h : c.Passes tokens c') (h' : c.Passes tokens c'') : c' = c'' := by
  induction h with
  | here c => exact h'.eq_of_nil
  | step hnext _ ih =>
      obtain ⟨-, middle, hnext', hrest⟩ := h'.of_cons
      rw [hnext] at hnext'
      cases hnext'
      exact ih hrest

theorem filename (h : c.Passes tokens c') : c'.source.filename = c.source.filename := by
  induction h with
  | here c => rfl
  | step hnext _ ih => exact ih.trans (Source.filename_of_place? hnext)

theorem token_eq (h : c.Passes tokens c') (h' : d.Passes tokens d') (hend : d'.token = c'.token) :
    d.token = c.token := by
  cases h with
  | here c => exact h'.eq_of_nil ▸ hend
  | step hnext hrest => exact h'.of_cons.1

end Passes

end Cursor

namespace Analysis

variable {α β : Type} {x : Analysis α} {f : α → Analysis β}

theorem bind_eq_of_ok {s s' : Analyser} {a : α} (h : x s = .ok a s') : (x >>= f) s = f a s' := by
  change EStateM.bind x f s = _
  simp only [EStateM.bind, h]

theorem bind_eq_of_error {s s' : Analyser} {stop : Stop} (h : x s = .error stop s') :
    (x >>= f) s = .error stop s' := by
  change EStateM.bind x f s = _
  simp only [EStateM.bind, h]

theorem of_bind_eq_ok {s s'' : Analyser} {b : β} (h : (x >>= f) s = .ok b s'') :
    ∃ a s', x s = .ok a s' ∧ f a s' = .ok b s'' := by
  cases hx : x s with
  | ok a s' => exact ⟨a, s', rfl, (bind_eq_of_ok hx).symm.trans h⟩
  | error stop s' =>
      rw [bind_eq_of_error hx] at h
      cases h

variable {c c' : Cursor} {j : Journal}

theorem pull_of_place? {s : Analyser} (h : s.source.place? = some c) :
    pull s = .ok c.token (c.analyser s.journal) := by
  unfold Source.place? at h
  unfold pull
  rcases hnext : s.source.next with ⟨failure | token, source⟩
  · rw [hnext] at h
    cases h
  · rw [hnext] at h
    cases h
    rfl

theorem pull_of_place?_eq_none {s : Analyser} (h : s.source.place? = none) :
    ∃ failure source, s.source.next = (.error failure, source) ∧
      pull s = .error (.rejected failure) { s with source } := by
  unfold Source.place? at h
  unfold pull
  rcases hnext : s.source.next with ⟨failure | token, source⟩
  · exact ⟨failure, source, rfl, rfl⟩
  · rw [hnext] at h
    cases h

private theorem accept_of_kind {kind : Kind} (hkind : c.token.kind = kind) :
    accept kind (c.analyser j) = match pull (c.analyser (j.terminal c.token)) with
      | .ok _ s => .ok c.token s
      | .error stop s => .error stop s := by
  rw [accept_eq]
  exact if_pos hkind

theorem accept_of_next? {kind : Kind} (hkind : c.token.kind = kind) (hnext : c.next? = some c') :
    accept kind (c.analyser j) = .ok c.token (c'.analyser (j.terminal c.token)) := by
  have hpull : pull (c.analyser (j.terminal c.token)) = .ok c'.token _ := pull_of_place? hnext
  rw [accept_of_kind hkind, hpull]
  rfl

theorem accept_of_kind_ne {kind : Kind} (hkind : c.token.kind ≠ kind) :
    accept kind (c.analyser j) = report (.expected kind) (c.analyser j) := by
  rw [accept_eq]
  exact if_neg hkind

theorem accept_of_next?_eq_none {kind : Kind} (hkind : c.token.kind = kind)
    (hnext : c.next? = none) :
    ∃ failure source, c.source.next = (.error failure, source) ∧
      accept kind (c.analyser j) = .error (.rejected failure)
        (Cursor.analyser ⟨c.token, source⟩ (j.terminal c.token)) := by
  obtain ⟨failure, source, hsource, hpull⟩ :=
    pull_of_place?_eq_none (s := c.analyser (j.terminal c.token)) hnext
  refine ⟨failure, source, hsource, ?_⟩
  rw [accept_of_kind hkind, hpull]
  rfl

theorem report_eq (complaint : Complaint) :
    (report complaint : Analysis α) (c.analyser j) =
      .error (.rejected (.diagnostic complaint.category
          (complaint.message c.source.filename c.token) c.token.line))
        (c.analyser (j.complain (complaint.message c.source.filename c.token) c.token.line)) :=
  rfl

theorem enclose_of_ok {rule : Rule} {a : α} {s : Analyser}
    (h : x (c.analyser (j.commence rule.name)) = .ok a s) :
    enclose rule x (c.analyser j) = .ok a { s with journal := s.journal.finish rule.name } := by
  have hx : x { c.analyser j with journal := j.commence rule.name } = .ok a s := h
  unfold enclose
  rw [show (c.analyser j).journal = j from rfl, hx]

theorem enclose_of_error {rule : Rule} {stop : Stop} {s : Analyser}
    (h : x (c.analyser (j.commence rule.name)) = .error stop s) :
    enclose rule x (c.analyser j) = .error (stop.through rule) s := by
  have hx : x { c.analyser j with journal := j.commence rule.name } = .error stop s := h
  unfold enclose
  rw [show (c.analyser j).journal = j from rfl, hx]

theorem of_enclose_eq_ok {rule : Rule} {a : α} {s : Analyser}
    (h : enclose rule x (c.analyser j) = .ok a s) :
    ∃ s', x (c.analyser (j.commence rule.name)) = .ok a s' ∧
      s = { s' with journal := s'.journal.finish rule.name } := by
  cases hx : x (c.analyser (j.commence rule.name)) with
  | ok a' s' =>
      rw [enclose_of_ok hx] at h
      cases h
      exact ⟨s', rfl, rfl⟩
  | error stop s' =>
      rw [enclose_of_error hx] at h
      cases h

theorem lookahead_bind_eq {f : Token → Analysis β} :
    (lookahead >>= f) (c.analyser j) = f c.token (c.analyser j) :=
  rfl

theorem acceptVariable_eq :
    acceptVariable (c.analyser j) =
      (if c.token.kind = .identifier then
        match j.scope.find? c.token.text with
        | some v => accept .identifier >>= fun _ => pure v
        | none => report (.undeclared c.token.text)
      else report (.expected .identifier) : Analysis Variable) (c.analyser j) := by
  change (if _ then _ else _ : Analysis Variable) (c.analyser j) = _
  split <;> rfl

theorem accept_eq_ok {kind : Kind} {token : Token} {s : Analyser}
    (h : accept kind (c.analyser j) = .ok token s) :
    c.token.kind = kind ∧ token = c.token ∧
      ∃ c', c.next? = some c' ∧ s = c'.analyser (j.terminal c.token) := by
  by_cases hkind : c.token.kind = kind
  · cases hnext : c.next? with
    | none =>
        obtain ⟨failure, source, -, haccept⟩ := accept_of_next?_eq_none (j := j) hkind hnext
        rw [haccept] at h
        cases h
    | some c' =>
        rw [accept_of_next? hkind hnext] at h
        cases h
        exact ⟨hkind, rfl, c', rfl, rfl⟩
  · rw [accept_of_kind_ne hkind, report_eq] at h
    cases h

theorem acceptVariable_eq_ok {v : Variable} {s : Analyser}
    (h : acceptVariable (c.analyser j) = .ok v s) :
    c.token.kind = .identifier ∧ j.scope.find? c.token.text = some v ∧
      ∃ c', c.next? = some c' ∧ s = c'.analyser (j.terminal c.token) := by
  rw [acceptVariable_eq] at h
  by_cases hkind : c.token.kind = .identifier
  · rw [if_pos hkind] at h
    cases hfind : j.scope.find? c.token.text with
    | none =>
        rw [hfind] at h
        cases h
    | some u =>
        rw [hfind] at h
        obtain ⟨token, s', haccept, hpure⟩ := of_bind_eq_ok h
        obtain ⟨-, -, c', hnext, rfl⟩ := accept_eq_ok haccept
        cases hpure
        exact ⟨hkind, rfl, c', hnext, rfl⟩
  · rw [if_neg hkind] at h
    cases h

end Analysis

end OnePass
