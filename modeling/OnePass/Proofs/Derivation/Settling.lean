import OnePass.Proofs.Derivation.Delivery
/-!
# Analyses that are settled by the tokens

A program that is accepted, or rejected for what it says, is settled by the tokens up to the one
that is looked at last. The analysis then comes to the same wherever these tokens come from.
-/
namespace OnePass

namespace Analysis

/-- What an analysis comes to, its source left aside. -/
structure Verdict (α : Type) where
  outcome : Except Stop α
  lookahead : Option Token
  journal : Journal

def verdict {α : Type} (x : Analysis α) (s : Analyser) : Verdict α :=
  match x s with
  | .ok a s' => ⟨.ok a, s'.lookahead, s'.journal⟩
  | .error stop s' => ⟨.error stop, s'.lookahead, s'.journal⟩

private theorem verdict_of_ok {α : Type} {x : Analysis α} {s s' : Analyser} {a : α}
    (h : x s = .ok a s') :
    verdict x s = ⟨.ok a, s'.lookahead, s'.journal⟩ := by
  unfold verdict
  rw [h]

private theorem verdict_of_error {α : Type} {x : Analysis α} {s s' : Analyser} {stop : Stop}
    (h : x s = .error stop s') : verdict x s = ⟨.error stop, s'.lookahead, s'.journal⟩ := by
  unfold verdict
  rw [h]

/-- How often the source has been asked, where it has not failed. -/
def Verdict.calls {α : Type} (verdict : Verdict α) : Nat :=
  verdict.journal.terminals.length + 1

/-- The analysis is not stopped by a failure of its source. -/
def Verdict.Settled {α : Type} (verdict : Verdict α) : Prop :=
  ∀ failure, verdict.outcome = .error (.rejected failure) →
    failure.root.category = .syntactic ∨ failure.root.category = .semantic

theorem settled_of_error {α : Type} {x : Analysis α} {s s' : Analyser} {failure : Failure}
    (h : x s = .error (.rejected failure) s')
    (hcategory : failure.root.category = .syntactic ∨ failure.root.category = .semantic) :
    (verdict x s).Settled := by
  intro failure' hfailure
  rw [verdict_of_error h] at hfailure
  cases hfailure
  exact hcategory

theorem calls_of_error {α : Type} {x : Analysis α} {s s' : Analyser} {stop : Stop} {n : Nat}
    (h : x s = .error stop s') (hterminals : s'.journal.terminals.length = n) :
    (verdict x s).calls = n + 1 := by
  rw [verdict_of_error h, Verdict.calls, hterminals]

/-- The analysis of a program comes to the outcome by the tokens and the one behind them, whatever
source of the same name hands them out. -/
structure Settles (source : Source) (j : Journal) (tokens : List Token) (last : Token)
    (outcome : Except Stop Unit) (j' : Journal) : Prop where
  delivers : (source.deliver (tokens.length + 1)).1 = (tokens ++ [last]).map .ok
  terminals : j'.terminals = j.terminals ++ tokens
  kinds : ∀ token ∈ tokens, token.kind ≠ .endOfFile
  category : ∀ failure, outcome = .error (.rejected failure) →
    failure.root.category = .syntactic ∨ failure.root.category = .semantic
  elsewhere : ∀ source' : Source, source'.filename = source.filename →
    (source'.deliver (tokens.length + 1)).1 = (source.deliver (tokens.length + 1)).1 →
    verdict parse (.ofSource source' j) = ⟨outcome, some last, j'⟩

variable {source source' : Source} {scope : Scope} {echo : Bool} {c c' : Cursor} {j j' : Journal}
  {tokens : List Token} {last : Token} {outcome : Except Stop Unit}

private theorem exists_same_places (hfilename : source'.filename = source.filename)
    (hplace : source.place? = some c) (hpasses : c.Passes tokens c')
    (hsame : (source'.deliver (tokens.length + 1)).1 = (source.deliver (tokens.length + 1)).1) :
    ∃ d d' : Cursor, source'.place? = some d ∧ d.Passes tokens d' ∧ d'.token = c'.token ∧
      d.source.filename = c.source.filename := by
  have hdelivered := Source.deliver_of_passes hplace hpasses
  have hdelivered' : source'.deliver (tokens.length + 1) =
      ((tokens ++ [c'.token]).map .ok, (source'.deliver (tokens.length + 1)).2) := by
    refine Prod.ext ?_ rfl
    rw [hsame, hdelivered]
  obtain ⟨d, hplace', hpasses'⟩ := Source.exists_passes_of_deliver hdelivered'
  refine ⟨d, _, hplace', hpasses', rfl, ?_⟩
  rw [Source.filename_of_place? hplace', hfilename, Source.filename_of_place? hplace]

private theorem verdict_of_program (hplace : source.place? = some c)
    (hprogram : program (c.analyser j) = ending outcome (c'.analyser j')) :
    verdict parse (.ofSource source j) = ⟨outcome, some c'.token, j'⟩ := by
  have hparse : parse (.ofSource source j) = program (c.analyser j) := parse_of_place? rfl hplace
  cases outcome with
  | ok u => exact verdict_of_ok (hparse.trans hprogram)
  | error stop => exact verdict_of_error (hparse.trans hprogram)

private theorem elsewhere_of_program (hplace : source.place? = some c)
    (hpasses : c.Passes tokens c')
    (helsewhere : ∀ d d' : Cursor, d.Passes tokens d' → d'.token = c'.token →
      d.source.filename = c.source.filename →
        program (d.analyser j) = ending outcome (d'.analyser j'))
    (hfilename : source'.filename = source.filename)
    (hsame : (source'.deliver (tokens.length + 1)).1 = (source.deliver (tokens.length + 1)).1) :
    verdict parse (.ofSource source' j) = ⟨outcome, some c'.token, j'⟩ := by
  obtain ⟨d, d', hplace', hpasses', htoken, hname⟩ :=
    exists_same_places hfilename hplace hpasses hsame
  rw [verdict_of_program hplace' (helsewhere d d' hpasses' htoken hname), htoken]

private theorem Accepts.settles (hplace : source.place? = some c)
    (h : Accepts c j tokens c' j') : Settles source j tokens c'.token (.ok ()) j' where
  delivers := congrArg Prod.fst (Source.deliver_of_passes hplace h.passes)
  terminals := h.terminals
  kinds _ hmem := Rule.kind_ne_of_mem_language h.sentence (List.mem_map_of_mem hmem)
  category := nofun
  elsewhere _ hfilename hsame :=
    elsewhere_of_program hplace h.passes h.elsewhere hfilename hsame

private theorem Refuses.settles {failure : Failure} (hplace : source.place? = some c)
    (h : Refuses c j tokens c' j' failure) :
    Settles source j tokens c'.token (.error (.rejected failure)) j' where
  delivers := congrArg Prod.fst (Source.deliver_of_passes hplace h.passes)
  terminals := h.terminals
  kinds _ hmem := h.viable.kind_ne (List.mem_map_of_mem hmem)
  category _ hfailure := by
    obtain ⟨complaint, hroot, hcategory, -⟩ := h.blames
    cases hfailure
    rw [hroot]
    exact hcategory
  elsewhere _ hfilename hsame :=
    elsewhere_of_program hplace h.passes h.elsewhere hfilename hsame

theorem settles_or_fails (source : Source) (j : Journal) :
    (∃ tokens last outcome j', Settles source j tokens last outcome j') ∨
      ∃ tokens failure s, Fails source j tokens failure s := by
  rcases parse_cases source j with ⟨c, tokens, c', j', hplace, haccepts, -⟩ |
    ⟨c, tokens, c', j', failure, hplace, hrefuses, -⟩ | hfails
  · exact .inl ⟨tokens, c'.token, .ok (), j', haccepts.settles hplace⟩
  · exact .inl ⟨tokens, c'.token, .error (.rejected failure), j', hrefuses.settles hplace⟩
  · exact .inr hfails

theorem Settles.here (h : Settles source j tokens last outcome j') :
    verdict parse (.ofSource source j) = ⟨outcome, some last, j'⟩ :=
  h.elsewhere source rfl rfl

theorem Settles.calls_eq (h : Settles source (.start scope echo) tokens last outcome j') :
    (verdict parse (.ofSource source (.start scope echo))).calls = tokens.length + 1 := by
  have hterminals : j'.terminals = tokens := h.terminals
  rw [h.here, Verdict.calls, hterminals]

private theorem Fails.not_settled {failure : Failure} {s : Analyser}
    (h : Fails source j tokens failure s) :
    ¬ (verdict parse (.ofSource source j)).Settled := by
  intro hsettled
  rw [verdict_of_error h.stops] at hsettled
  have hcategory := hsettled failure rfl
  rw [h.category] at hcategory
  rcases hcategory with hlexical | hlexical <;> cases hlexical

theorem verdict_of_deliver_eq (hfilename : source'.filename = source.filename)
    (hsettled : (verdict parse (.ofSource source (.start scope echo))).Settled)
    (hsame : (source'.deliver (verdict parse (.ofSource source (.start scope echo))).calls).1 =
      (source.deliver (verdict parse (.ofSource source (.start scope echo))).calls).1) :
    verdict parse (.ofSource source' (.start scope echo)) =
      verdict parse (.ofSource source (.start scope echo)) := by
  rcases settles_or_fails source (.start scope echo) with
    ⟨tokens, last, outcome, j', hsettles⟩ | ⟨tokens, failure, s, hfails⟩
  · rw [hsettles.calls_eq] at hsame
    rw [hsettles.elsewhere source' hfilename hsame, hsettles.here]
  · exact absurd hsettled hfails.not_settled

end Analysis

end OnePass
