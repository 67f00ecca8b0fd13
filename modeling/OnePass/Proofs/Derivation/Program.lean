import OnePass.Proofs.Derivation.Outcome
import OnePass.Proofs.Derivation.Reading
/-!
# What becomes of a program

From the first place of a source a program is accepted up to the end of its text, or refused at the
token at hand, or the source fails. In the first two cases the tokens that have been read decide,
and no other.
-/
namespace OnePass

open Grammar

theorem Rule.kind_ne_of_mem_language {rule : Rule} {word : List Kind} (h : word ∈ rule.language)
    {kind : Kind} (hkind : kind ∈ word) : kind ≠ .endOfFile := by
  obtain ⟨t, rfl⟩ := h
  obtain ⟨token, htoken, rfl⟩ := List.mem_map.mp hkind
  exact t.kind_ne_endOfFile token htoken

theorem Viable.kind_ne {rule : Rule} {word : List Kind} (h : Viable rule.language word) {kind : Kind}
    (hkind : kind ∈ word) : kind ≠ .endOfFile := by
  obtain ⟨rest, hrest⟩ := h
  exact Rule.kind_ne_of_mem_language hrest (List.mem_append_left rest hkind)

/-- The kinds could be followed by the kind, which may be that of the end of the text. -/
def Awaits (word : List Kind) (kind : Kind) : Prop :=
  if kind = .endOfFile then word ∈ Rule.statementPart.language
  else Viable Rule.statementPart.language (word ++ [kind])

namespace Analysis

variable {c c' : Cursor} {j j' : Journal} {tokens : List Token} {failure : Failure}

/-- The program is accepted, and its end comes behind the tokens. -/
structure Accepts (c : Cursor) (j : Journal) (tokens : List Token) (c' : Cursor) (j' : Journal) :
    Prop where
  passes : c.Passes tokens c'
  terminals : j'.terminals = j.terminals ++ tokens
  sentence : tokens.map Token.kind ∈ Rule.statementPart.language
  ends : c'.token.kind = .endOfFile
  elsewhere : ∀ d d' : Cursor, d.Passes tokens d' → d'.token = c'.token →
    d.source.filename = c.source.filename → program (d.analyser j) = .ok () (d'.analyser j')

/-- The program is refused at the token behind those that have been accepted. -/
structure Refuses (c : Cursor) (j : Journal) (tokens : List Token) (c' : Cursor) (j' : Journal)
    (failure : Failure) : Prop where
  passes : c.Passes tokens c'
  terminals : j'.terminals = j.terminals ++ tokens
  viable : Viable Rule.statementPart.language (tokens.map Token.kind)
  blames : ∃ complaint : Complaint,
    failure.root = ⟨complaint.category, complaint.message c'.source.filename c'.token,
      c'.token.line, none⟩ ∧
    (complaint.category = .syntactic ∨ complaint.category = .semantic) ∧
    ∀ kind, complaint.Names kind → Awaits (tokens.map Token.kind) kind
  elsewhere : ∀ d d' : Cursor, d.Passes tokens d' → d'.token = c'.token →
    d.source.filename = c.source.filename →
      program (d.analyser j) = .error (.rejected failure) (d'.analyser j')

theorem Accepts.here (h : Accepts c j tokens c' j') :
    program (c.analyser j) = .ok () (c'.analyser j') :=
  h.elsewhere c c' h.passes rfl rfl

theorem Refuses.here (h : Refuses c j tokens c' j' failure) :
    program (c.analyser j) = .error (.rejected failure) (c'.analyser j') :=
  h.elsewhere c c' h.passes rfl rfl

private theorem accepts_of_ends {u : Unit}
    (hrun : Reaches Rule.statementPart.language (runRule .statementPart) c j tokens c' j' (.ok u))
    (hend : c'.token.kind = .endOfFile) : Accepts c j tokens c' j' := by
  refine ⟨hrun.passes, hrun.terminals, hrun.spells, hend, ?_⟩
  intro d d' hpasses htoken hfilename
  unfold program
  rw [bind_eq_of_ok (hrun.elsewhere d d' hpasses htoken hfilename), lookahead_bind_eq, htoken,
    if_neg (not_not.mpr hend)]
  rfl

private theorem refuses_of_goes_on {u : Unit}
    (hrun : Reaches Rule.statementPart.language (runRule .statementPart) c j tokens c' j' (.ok u))
    (hend : c'.token.kind ≠ .endOfFile) : ∃ j'' failure, Refuses c j tokens c' j'' failure := by
  let complaint : Complaint := .expected .endOfFile
  let message := complaint.message c'.source.filename c'.token
  refine ⟨j'.complain message c'.token.line,
    .diagnostic complaint.category message c'.token.line, hrun.passes, ?_, .of_mem hrun.spells,
    ⟨complaint, rfl, .inl rfl, ?_⟩, ?_⟩
  · rw [← hrun.terminals]
    exact (j'.terminals_tell (.complaint _ _)).trans (List.append_nil _)
  · intro kind hnames
    rw [Complaint.eq_of_names_expected hnames]
    exact hrun.spells
  · intro d d' hpasses htoken hfilename
    have hfilename' : d'.source.filename = c'.source.filename := by
      rw [hpasses.filename, hfilename, hrun.passes.filename]
    unfold program
    rw [bind_eq_of_ok (hrun.elsewhere d d' hpasses htoken hfilename), lookahead_bind_eq, htoken,
      if_pos hend, report_eq, htoken, hfilename']

private theorem refuses_of_rejected
    (hrun : Reaches Rule.statementPart.language (runRule .statementPart) c j tokens c' j'
      (.error (.rejected failure))) : Refuses c j tokens c' j' failure := by
  obtain ⟨hviable, complaint, hroot, hcategory, hnames⟩ := hrun.spells
  refine ⟨hrun.passes, hrun.terminals, hviable, ⟨complaint, hroot, hcategory, ?_⟩, ?_⟩
  · intro kind hkind
    have hnext := hnames kind hkind
    have hother : kind ≠ .endOfFile := hnext.kind_ne (by simp)
    rw [Awaits, if_neg hother]
    exact hnext
  · intro d d' hpasses htoken hfilename
    exact bind_eq_of_error (hrun.elsewhere d d' hpasses htoken hfilename)

theorem program_cases (c : Cursor) (j : Journal) :
    (∃ tokens c' j', Accepts c j tokens c' j') ∨
      (∃ tokens c' j' failure, Refuses c j tokens c' j' failure) ∨
      ∃ tokens c' failure source journal,
        Starves c j (program (c.analyser j)) tokens c' failure source journal := by
  rcases runRule_reads .statementPart c j with
    ⟨tokens, c', j', outcome, hrun⟩ | ⟨tokens, c', failure, source, journal, hstarves⟩
  · match outcome with
    | .ok u =>
        by_cases hend : c'.token.kind = .endOfFile
        · exact .inl ⟨tokens, c', j', accepts_of_ends hrun hend⟩
        · obtain ⟨j'', failure, hrefuses⟩ := refuses_of_goes_on hrun hend
          exact .inr (.inl ⟨tokens, c', j'', failure, hrefuses⟩)
    | .error (.rejected failure) =>
        exact .inr (.inl ⟨tokens, c', j', failure, refuses_of_rejected hrun⟩)
    | .error .allowanceUsedUp => exact absurd hrun.here (runRule_ne_allowanceUsedUp _ _ _)
    | .error .notStarted | .error .alreadyStarted => cases hrun.spells
  · obtain ⟨inner, hstop, hroot⟩ := hstarves.stops
    exact .inr (.inr ⟨tokens, c', failure, source, journal, hstarves.passes, hstarves.fails,
      hstarves.terminals, inner, bind_eq_of_error hstop, hroot⟩)

theorem Refuses.category_of_tree (h : Refuses c j tokens c' j' failure) {d d' last : Cursor}
    (hread : d.Passes tokens d') (htoken : d'.token = c'.token)
    (hfilename : d.source.filename = c.source.filename) {t : Tree .statementPart}
    (hpasses : d.Passes t.yield last) (hend : last.token.kind = .endOfFile) :
    failure.root.category = .semantic := by
  have hprogram := h.elsewhere d d' hread htoken hfilename
  have hends := program_endsAs hpasses hend j
  rw [hprogram] at hends
  cases haccount : t.account j.scope with
  | some told =>
      rw [haccount] at hends
      cases hends
  | none =>
      rw [haccount] at hends
      exact hends

end Analysis

end OnePass
