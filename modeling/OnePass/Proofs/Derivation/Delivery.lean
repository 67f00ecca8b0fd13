import OnePass.Proofs.Derivation.Program
import OnePass.Proofs.Lexing.Transcript
/-!
# What a source hands out call by call

A source is asked for one token after the other, and what comes of the first calls is a list of
outcomes. The analysis of a program asks once for each token that it accepts and once more for the
one that it looks at, or has the source fail in place of that one. So a program is accepted, or
refused, or the source fails behind tokens that could have begun a program.
-/
namespace OnePass

open Analysis

namespace Source

/-- What comes of so many calls, and the source that they leave. -/
def deliver : (calls : Nat) → Source → List (Except Failure Token) × Source
  | 0, source => ([], source)
  | calls + 1, source =>
    let later := deliver calls source.next.2
    (source.next.1 :: later.1, later.2)

variable {source rest : Source} {c c' : Cursor} {tokens : List Token}

theorem deliver_succ (calls : Nat) (source : Source) :
    source.deliver (calls + 1) =
      (source.next.1 :: (source.next.2.deliver calls).1, (source.next.2.deliver calls).2) := rfl

private theorem deliver_append {outcomes : List (Except Failure Token)} {calls : Nat} (more : Nat)
    (h : source.deliver calls = (outcomes, rest)) :
    source.deliver (calls + more) =
      (outcomes ++ (rest.deliver more).1, (rest.deliver more).2) := by
  induction calls generalizing source outcomes with
  | zero =>
      obtain ⟨rfl, rfl⟩ := Prod.mk.inj h
      rw [Nat.zero_add]
      rfl
  | succ calls ih =>
      rw [deliver_succ] at h
      obtain ⟨rfl, hrest⟩ := Prod.mk.inj h
      have hlater := ih (Prod.ext rfl hrest)
      rw [Nat.add_right_comm, deliver_succ, hlater]
      rfl

theorem take_deliver {calls more : Nat} (hle : calls ≤ more) :
    (source.deliver more).1.take calls = (source.deliver calls).1 := by
  induction calls generalizing source more with
  | zero => rfl
  | succ calls ih =>
      cases more with
      | zero => omega
      | succ more =>
          have hlater : (source.next.2.deliver more).1.take calls =
              (source.next.2.deliver calls).1 := ih (Nat.le_of_succ_le_succ hle)
          simp only [deliver_succ, List.take_succ_cons, hlater]

theorem deliver_of_passes (hplace : source.place? = some c) (hpasses : c.Passes tokens c') :
    source.deliver (tokens.length + 1) = ((tokens ++ [c'.token]).map .ok, c'.source) := by
  induction hpasses generalizing source with
  | here c =>
      have hnext := next_of_place? hplace
      simp [deliver, hnext]
  | step hstep _ ih =>
      have hnext := next_of_place? hplace
      have hlater := ih hstep
      rw [List.length_cons, deliver_succ, hnext, hlater]
      rfl

theorem exists_passes_of_deliver {token : Token}
    (h : source.deliver (tokens.length + 1) = ((tokens ++ [token]).map .ok, rest)) :
    ∃ c, source.place? = some c ∧ c.Passes tokens ⟨token, rest⟩ := by
  induction tokens generalizing source with
  | nil =>
      have hnext : source.next = (.ok token, rest) := by
        simpa [deliver, Prod.ext_iff] using h
      refine ⟨⟨token, rest⟩, ?_, .here _⟩
      simp only [place?, hnext]
  | cons first tokens ih =>
      rw [List.length_cons, deliver_succ] at h
      obtain ⟨houtcomes, hrest⟩ := Prod.mk.inj h
      obtain ⟨hfirst, hlater⟩ := List.cons.inj houtcomes
      obtain ⟨c, hplace, hpasses⟩ := ih (Prod.ext hlater hrest)
      have hnext : source.next = (.ok first, source.next.2) := Prod.ext hfirst rfl
      refine ⟨⟨first, source.next.2⟩, ?_, .step hplace hpasses⟩
      unfold place?
      rw [hnext]

private theorem transcript_eq_nil_iff {last : Token} :
    source.transcript = ⟨[], last⟩ ↔ source.next.1 = .ok last ∧ last.kind = .endOfFile := by
  rcases hnext : source.next with ⟨failure | token, rest⟩
  · rw [transcript_of_error hnext]
    constructor <;> nofun
  · by_cases hend : token.kind = .endOfFile
    · rw [transcript_of_end hnext hend]
      constructor
      · intro h
        cases h
        exact ⟨rfl, hend⟩
      · rintro ⟨hlast, -⟩
        cases hlast
        rfl
    · rw [transcript_of_ne_end hnext hend]
      constructor
      · nofun
      · rintro ⟨hlast, hkind⟩
        cases hlast
        exact absurd hkind hend

private theorem transcript_eq_cons_iff {first last : Token}
    {outcomes : List (Except Failure Token)} :
    source.transcript = ⟨.ok first :: outcomes, last⟩ ↔
      source.next.1 = .ok first ∧ first.kind ≠ .endOfFile ∧
        source.next.2.transcript = ⟨outcomes, last⟩ := by
  rcases hnext : source.next with ⟨failure | token, rest⟩
  · rw [transcript_of_error hnext]
    constructor <;> nofun
  · by_cases hend : token.kind = .endOfFile
    · rw [transcript_of_end hnext hend]
      constructor
      · nofun
      · rintro ⟨hfirst, hkind, -⟩
        cases hfirst
        exact absurd hend hkind
    · rw [transcript_of_ne_end hnext hend]
      constructor
      · intro h
        cases h
        exact ⟨rfl, hend, rfl⟩
      · rintro ⟨hfirst, -, hlater⟩
        cases hfirst
        rw [hlater]
        rfl

/-- A transcript holds no failure where the calls come to its tokens, up to the first one for the
end of the text. -/
theorem transcript_eq_iff {last : Token} :
    source.transcript = ⟨tokens.map .ok, last⟩ ↔
      (source.deliver (tokens.length + 1)).1 = (tokens ++ [last]).map .ok ∧
        last.kind = .endOfFile ∧ ∀ token ∈ tokens, token.kind ≠ .endOfFile := by
  induction tokens generalizing source with
  | nil =>
      rw [List.map_nil, transcript_eq_nil_iff]
      simp [deliver]
  | cons first tokens ih =>
      rw [List.map_cons, transcript_eq_cons_iff, ih, List.length_cons,
        deliver_succ (tokens.length + 1)]
      simp only [List.cons_append, List.map_cons, List.cons.injEq, List.forall_mem_cons]
      constructor
      · rintro ⟨hfirst, hkind, hlater, hend, hkinds⟩
        exact ⟨⟨hfirst, hlater⟩, hend, hkind, hkinds⟩
      · rintro ⟨⟨hfirst, hlater⟩, hend, hkind, hkinds⟩
        exact ⟨hfirst, hkind, hlater, hend, hkinds⟩

theorem deliver_replay (filename : String) (tokens : List Token) (line : Int) :
    ((replay filename tokens line).deliver tokens.length).1 = tokens.map .ok := by
  induction tokens generalizing line with
  | nil => rfl
  | cons token tokens ih =>
      have hlater := ih token.line
      simp only [List.length_cons, deliver_succ, next, hlater, List.map_cons]

theorem length_le_of_deliver {outcome : Except Failure Token} {front : List Token} {last : Token}
    (h : (source.deliver (tokens.length + 1)).1 = (tokens ++ [last]).map .ok)
    (hend : last.kind = .endOfFile)
    (hfront : (source.deliver (front.length + 1)).1 = front.map .ok ++ [outcome])
    (hkinds : ∀ token ∈ front, token.kind ≠ .endOfFile) : front.length ≤ tokens.length := by
  by_contra hlonger
  have hle : tokens.length + 1 ≤ front.length := by omega
  have htake : (source.deliver (front.length + 1)).1.take (tokens.length + 1) =
      (source.deliver (tokens.length + 1)).1 := take_deliver (by omega)
  rw [hfront, h, List.take_append_of_le_length (by simpa using hle), ← List.map_take] at htake
  have hsame : front.take (tokens.length + 1) = tokens ++ [last] :=
    List.map_injective_iff.mpr (fun _ _ => Except.ok.inj) htake
  have hmem : last ∈ front.take (tokens.length + 1) := by simp [hsame]
  exact hkinds last (List.mem_of_mem_take hmem) hend

theorem category_of_error {failure : Failure} (h : source.next = (.error failure, rest)) :
    failure.root.category = .lexical := by
  obtain ⟨filename, line, rfl⟩ := exists_unterminated_of_error (congrArg Prod.fst h)
  rfl

end Source

namespace Cursor.Passes

variable {c c' : Cursor} {tokens front back : List Token} {token : Token}

private theorem exists_of_append (h : c.Passes tokens c')
    (htokens : tokens ++ [c'.token] = front ++ token :: back) :
    ∃ c'', c.Passes front c'' ∧ c''.token = token := by
  rcases List.eq_nil_or_concat back with rfl | ⟨back', last, rfl⟩
  · obtain ⟨rfl, hlast⟩ := List.append_inj' htokens rfl
    exact ⟨c', h, (List.cons.inj hlast).1⟩
  · have hfront : tokens ++ [c'.token] = (front ++ token :: back') ++ [last] := by
      rw [htokens]
      simp
    obtain ⟨rfl, -⟩ := List.append_inj' hfront rfl
    obtain ⟨c'', hpasses, hrest⟩ := h.split
    exact ⟨c'', hpasses, hrest.of_cons.1⟩

end Cursor.Passes

theorem Viable.kind_notMem {rule : Rule} {word : List Kind} (h : Viable rule.language word)
    {kind : Kind} (hkind : kind ∈ word) : kind ∉ [Kind.endOfFile, .illegalSymbol] := by
  obtain ⟨rest, t, hyield⟩ := h
  have hmem : kind ∈ t.yield.map Token.kind := by
    rw [hyield]
    exact List.mem_append_left rest hkind
  obtain ⟨token, htoken, rfl⟩ := List.mem_map.mp hmem
  exact t.kind_notMem token htoken

namespace Analysis

variable {c c' : Cursor} {j journal : Journal} {tokens : List Token} {failure : Failure}
  {source : Source}

private theorem not_starves_ofTokens {filename : String} {pending : List Token} {line : Int}
    {result : EStateM.Result Stop Analyser Unit} :
    ¬ Starves (.ofTokens filename pending line) j result tokens c' failure source journal := by
  intro hstarves
  obtain ⟨back, line', rfl, -⟩ := hstarves.passes.exists_ofTokens
  have hnever : (Cursor.ofTokens filename back line').next? ≠ none := by
    cases back <;> simp
  apply hnever
  simp [Cursor.next?, Source.place?, hstarves.fails]

theorem replay_cases (filename : String) (pending : List Token) (j : Journal) :
    (∃ front d j', Accepts (.ofTokens filename pending 1) j front d j') ∨
      ∃ front d j' failure, Refuses (.ofTokens filename pending 1) j front d j' failure := by
  rcases program_cases (.ofTokens filename pending 1) j with
    haccepts | hrefuses | ⟨front, d, failure, source, journal, hstarves⟩
  · exact .inl haccepts
  · exact .inr hrefuses
  · exact absurd hstarves not_starves_ofTokens

private theorem exists_outcome (filename : String) (pending : List Token) (j : Journal) :
    ∃ front d' j' outcome, (Cursor.ofTokens filename pending 1).Passes front d' ∧
      j'.terminals = j.terminals ++ front ∧
      Viable Rule.statementPart.language (front.map Token.kind) ∧
      ∀ e e' : Cursor, e.Passes front e' → e'.token = d'.token → e.source.filename = filename →
        program (e.analyser j) = ending outcome (e'.analyser j') := by
  have hname := Cursor.filename_ofTokens filename pending 1
  rcases replay_cases filename pending j with
    ⟨front, d', j', haccepts⟩ | ⟨front, d', j', failure, hrefuses⟩
  · refine ⟨front, d', j', .ok (), haccepts.passes, haccepts.terminals,
      .of_mem haccepts.sentence, ?_⟩
    intro e e' hpasses htoken hfilename
    exact haccepts.elsewhere e e' hpasses htoken (hfilename.trans hname.symm)
  · refine ⟨front, d', j', .error (.rejected failure), hrefuses.passes, hrefuses.terminals,
      hrefuses.viable, ?_⟩
    intro e e' hpasses htoken hfilename
    exact hrefuses.elsewhere e e' hpasses htoken (hfilename.trans hname.symm)

private theorem Starves.viable
    (h : Starves c j (program (c.analyser j)) tokens c' failure source journal) :
    Viable Rule.statementPart.language ((tokens ++ [c'.token]).map Token.kind) := by
  obtain ⟨front, d', j', outcome, hpasses, hterminals, hviable, helsewhere⟩ :=
    exists_outcome c.source.filename (tokens ++ [c'.token]) j
  obtain ⟨back, line, rfl, hpending⟩ := hpasses.exists_ofTokens
  have htokens : tokens ++ [c'.token] = front ++ back :=
    hpending fun token hmem => hviable.kind_ne (List.mem_map_of_mem hmem)
  cases back with
  | nil =>
      rw [List.append_nil] at htokens
      rwa [htokens]
  | cons token back =>
      -- The same run would have ended before the failure.
      obtain ⟨c'', hfront, htoken⟩ := h.passes.exists_of_append htokens
      have hrun := helsewhere c c'' hfront htoken rfl
      obtain ⟨inner, hstop, -⟩ := h.stops
      have hsame : ending (.error (.rejected inner)) (Cursor.analyser ⟨c'.token, source⟩ journal) =
          ending outcome (c''.analyser j') := hstop.symm.trans hrun
      obtain ⟨-, hanalyser⟩ := ending_inj hsame
      obtain ⟨-, rfl⟩ := Cursor.analyser_inj hanalyser
      have hjournal := h.terminals.symm.trans hterminals
      rw [List.append_assoc, htokens] at hjournal
      have hempty := List.append_cancel_left hjournal
      simp at hempty

/-- The analysis of a program stops since the source fails behind the tokens. -/
structure Fails (source : Source) (j : Journal) (tokens : List Token) (failure : Failure)
    (s : Analyser) : Prop where
  stops : parse (.ofSource source j) = .error (.rejected failure) s
  terminals : s.journal.terminals = j.terminals ++ tokens
  viable : Viable Rule.statementPart.language (tokens.map Token.kind)
  category : failure.root.category = .lexical
  delivers : ∃ cause : Failure, cause.root = failure.root ∧
    source.deliver (tokens.length + 1) = (tokens.map .ok ++ [.error cause], s.source)

private theorem fails_at_first (hplace : source.place? = none) :
    ∃ failure s, Fails source j [] failure s := by
  let start := Analyser.ofSource source j
  obtain ⟨failure, rest, hfails, hpull⟩ := pull_of_place?_eq_none (s := start) hplace
  have hnext : source.next = (.error failure, rest) := hfails
  have hstops : parse start = .error (.rejected failure) { start with source := rest } := by
    change (pull >>= _ : Analysis Unit) start = _
    exact bind_eq_of_error hpull
  obtain ⟨word, hword⟩ := Rule.statementPart.exists_mem_language
  refine ⟨failure, { start with source := rest }, hstops, (List.append_nil _).symm, ⟨word, hword⟩,
    Source.category_of_error hnext, failure, rfl, ?_⟩
  simp [Source.deliver, hnext]

private theorem fails_of_starves (hplace : source.place? = some c) {rest : Source}
    (h : Starves c j (program (c.analyser j)) tokens c' failure rest journal) :
    ∃ inner s, Fails source j (tokens ++ [c'.token]) inner s := by
  obtain ⟨inner, hstop, hroot⟩ := h.stops
  have hparse : parse (.ofSource source j) = program (c.analyser j) := parse_of_place? rfl hplace
  have hdelivered := Source.deliver_of_passes hplace h.passes
  have hcalls := Source.deliver_append 1 hdelivered
  refine ⟨inner, _, hparse.trans hstop, ?_, h.viable, ?_, failure, hroot.symm, ?_⟩
  · exact h.terminals.trans (List.append_assoc _ _ _)
  · rw [hroot]
    exact Source.category_of_error h.fails
  · rw [List.length_append, List.length_singleton, hcalls]
    simp [Source.deliver, h.fails, Cursor.analyser]

/-- A program is accepted or refused by the tokens that its source hands out, or its source fails.
-/
theorem parse_cases (source : Source) (j : Journal) :
    (∃ c tokens c' j', source.place? = some c ∧ Accepts c j tokens c' j' ∧
      parse (.ofSource source j) = .ok () (c'.analyser j')) ∨
    (∃ c tokens c' j' failure, source.place? = some c ∧ Refuses c j tokens c' j' failure ∧
      parse (.ofSource source j) = .error (.rejected failure) (c'.analyser j')) ∨
    ∃ tokens failure s, Fails source j tokens failure s := by
  cases hplace : source.place? with
  | none =>
      obtain ⟨failure, s, hfails⟩ := fails_at_first (j := j) hplace
      exact .inr (.inr ⟨[], failure, s, hfails⟩)
  | some c =>
      have hparse : parse (.ofSource source j) = program (c.analyser j) :=
        parse_of_place? rfl hplace
      rcases program_cases c j with ⟨tokens, c', j', haccepts⟩ |
        ⟨tokens, c', j', failure, hrefuses⟩ | ⟨tokens, c', failure, rest, journal, hstarves⟩
      · exact .inl ⟨c, tokens, c', j', rfl, haccepts, hparse.trans haccepts.here⟩
      · exact .inr (.inl ⟨c, tokens, c', j', failure, rfl, hrefuses, hparse.trans hrefuses.here⟩)
      · obtain ⟨inner, s, hfails⟩ := fails_of_starves hplace hstarves
        exact .inr (.inr ⟨_, inner, s, hfails⟩)

/-- A program is accepted or rejected, and its analysis stops for no other reason. -/
theorem parse_ok_or_rejected (source : Source) (j : Journal) :
    (∃ s, parse (.ofSource source j) = .ok () s) ∨
      ∃ failure s, parse (.ofSource source j) = .error (.rejected failure) s := by
  rcases parse_cases source j with ⟨c, tokens, c', j', -, -, hparse⟩ |
    ⟨c, tokens, c', j', failure, -, -, hparse⟩ | ⟨tokens, failure, s, hfails⟩
  · exact .inl ⟨_, hparse⟩
  · exact .inr ⟨failure, _, hparse⟩
  · exact .inr ⟨failure, s, hfails.stops⟩

end Analysis

end OnePass
