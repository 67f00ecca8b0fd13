import OnePass.Proofs.Derivation.Delivery
import OnePass.Proofs.Recording.OpenRules
/-!
# Failures and the complaints about them

A rejection either complains about the token at hand, and then the complaint is the last thing that
is recorded, or it comes out of the source, which has no journal to write to. Nothing else is ever
complained about.
-/
namespace OnePass

open Analysis

namespace Journal

private theorem complaints_eq (journal : Journal) :
    journal.complaints = journal.occurrences.filterMap Occurrence.complaint? := by
  unfold complaints occurrences
  rw [List.filterMap_map]
  rfl

private theorem complaints_follow (journal : Journal) (scope : Scope) (story : Story) :
    (journal.follow scope story).complaints =
      journal.complaints ++ story.filterMap Occurrence.complaint? := by
  rw [complaints_eq, complaints_eq, occurrences_follow, List.filterMap_append]

theorem complaints_tell (journal : Journal) (occurrence : Occurrence) :
    (journal.tell occurrence).complaints = journal.complaints ++ occurrence.complaint?.toList := by
  rw [complaints_eq, complaints_eq, occurrences_tell, List.filterMap_append]
  cases occurrence <;> rfl

private theorem complaints_commence (journal : Journal) (rule : String) :
    (journal.commence rule).complaints = journal.complaints :=
  (journal.complaints_tell (.commence rule)).trans (List.append_nil _)

private theorem complaints_finish (journal : Journal) (rule : String) :
    (journal.finish rule).complaints = journal.complaints :=
  (journal.complaints_tell (.finish rule)).trans (List.append_nil _)

private theorem complaints_terminal (journal : Journal) (token : Token) :
    (journal.terminal token).complaints = journal.complaints :=
  (journal.complaints_tell (.terminal token)).trans (List.append_nil _)

private theorem complaints_declare (journal : Journal) (v : Variable) :
    (journal.declare v).2.complaints = journal.complaints := by
  rw [declare_eq_follow, complaints_follow]
  split <;> exact List.append_nil _

private theorem complaints_drop (journal : Journal) (v : Variable) :
    (journal.drop v).complaints = journal.complaints := by
  rw [drop_eq_follow, complaints_follow]
  split <;> exact List.append_nil _

/-- How a journal goes on when a program is rejected. -/
inductive Reports (before after : Journal) (failure : Failure) : Prop where
  | ofSource (hcategory : failure.root.category = .lexical)
    (hquiet : after.complaints = before.complaints)
  | ofToken (hcategory : failure.root.category = .syntactic ∨ failure.root.category = .semantic)
    (journal : Journal) (hquiet : journal.complaints = before.complaints)
    (hlast : after = journal.complain failure.root.message failure.line)

namespace Reports

variable {before before' after : Journal} {failure : Failure}

private theorem of_complaints_eq (h : before'.Reports after failure)
    (hquiet : before'.complaints = before.complaints) : before.Reports after failure := by
  cases h with
  | ofSource hcategory hsame => exact .ofSource hcategory (hsame.trans hquiet)
  | ofToken hcategory journal hsame hlast =>
      exact .ofToken hcategory journal (hsame.trans hquiet) hlast

private theorem wrap (h : before.Reports after failure) (rule : String) :
    before.Reports after (failure.wrap rule) := by
  cases h with
  | ofSource hcategory hquiet => exact .ofSource hcategory hquiet
  | ofToken hcategory journal hquiet hlast => exact .ofToken hcategory journal hquiet hlast

end Reports

end Journal

namespace Analysis

variable {α β : Type}

/-- An analysis complains only if it rejects the program, and then only of what it rejects it for.
-/
structure Reports (x : Analysis α) : Prop where
  quiet : ∀ {s s' : Analyser} {a : α}, x s = .ok a s' → s'.journal.complaints = s.journal.complaints
  files : ∀ {s s' : Analyser} {failure : Failure}, x s = .error (.rejected failure) s' →
    s.journal.Reports s'.journal failure

namespace Reports

private theorem bind {x : Analysis α} {f : α → Analysis β} (hx : Reports x)
    (hf : ∀ a, Reports (f a)) :
    Reports (x >>= f) where
  quiet h := by
    obtain ⟨a, s', hstep, hrest⟩ := of_bind_eq_ok h
    rw [(hf a).quiet hrest, hx.quiet hstep]
  files {s s'' failure} h := by
    cases hstep : x s with
    | ok a s' =>
        rw [bind_eq_of_ok hstep] at h
        exact ((hf a).files h).of_complaints_eq (hx.quiet hstep)
    | error stop s' =>
        rw [bind_eq_of_error hstep] at h
        cases h
        exact hx.files hstep

private theorem of_ok {x : Analysis α}
    (h : ∀ s, ∃ a s', x s = .ok a s' ∧ s'.journal.complaints = s.journal.complaints) :
    Reports x where
  quiet {s s' a} hok := by
    obtain ⟨_, _, hstep, hquiet⟩ := h s
    rw [hstep] at hok
    cases hok
    exact hquiet
  files {s s' failure} herror := by
    obtain ⟨_, _, hstep, -⟩ := h s
    rw [hstep] at herror
    cases herror

protected theorem pure (a : α) : Reports (pure a) :=
  .of_ok fun s => ⟨a, s, rfl, rfl⟩

protected theorem get : Reports get :=
  .of_ok fun s => ⟨s, s, rfl, rfl⟩

private theorem note {change : Journal → Journal}
    (h : ∀ journal, (change journal).complaints = journal.complaints) : Reports (note change) :=
  .of_ok fun s => ⟨(), { s with journal := change s.journal }, rfl, h s.journal⟩

protected theorem declare (identifier : String) (type : VarType) :
    Reports (declare identifier type) :=
  .of_ok fun _ => ⟨_, _, rfl, Journal.complaints_declare _ _⟩

protected theorem lookahead : Reports lookahead where
  quiet {s s' token} h := by
    unfold lookahead at h
    split at h <;> cases h
    rfl
  files {s s' failure} h := by
    unfold lookahead at h
    split at h <;> cases h

protected theorem pull : Reports pull where
  quiet {s s' token} h := by
    unfold pull at h
    split at h <;> cases h
    rfl
  files {s s' failure} h := by
    unfold pull at h
    split at h
    · cases h
    next failure source hnext =>
      cases h
      exact .ofSource (Source.category_of_error hnext) rfl

protected theorem report {complaint : Complaint}
    (hcategory : complaint.category = .syntactic ∨ complaint.category = .semantic) :
    Reports (report complaint : Analysis α) where
  quiet {s s' a} h := by
    obtain ⟨source, lookahead, journal⟩ := s
    cases lookahead <;> cases h
  files {s s' failure} h := by
    obtain ⟨source, lookahead, journal⟩ := s
    cases lookahead with
    | none => cases h
    | some token =>
        cases h
        exact .ofToken hcategory journal rfl rfl

protected theorem require {p : Prop} [Decidable p] {complaint : Complaint}
    (hcategory : complaint.category = .syntactic ∨ complaint.category = .semantic) :
    Reports (if p then pure () else report complaint) := by
  split
  · exact .pure ()
  · exact .report hcategory

protected theorem accept (kind : Kind) : Reports (accept kind) := by
  refine Reports.lookahead.bind fun token => ?_
  split
  · have hnote : Reports (Analysis.note (·.terminal token)) :=
      .note fun journal => journal.complaints_terminal token
    exact hnote.bind fun _ => Reports.pull.bind fun _ => .pure token
  · exact .report (.inl rfl)

protected theorem acceptVariable : Reports acceptVariable := by
  refine Reports.lookahead.bind fun token => ?_
  split
  · refine Reports.get.bind fun s => ?_
    split
    · exact (Reports.accept .identifier).bind fun _ => .pure _
    · exact .report (.inr rfl)
  · exact .report (.inl rfl)

private theorem enclose {x : Analysis α} (rule : Rule) (hx : Reports x) :
    Reports (enclose rule x) where
  quiet {s s' a} h := by
    unfold Analysis.enclose at h
    cases hinner : x { s with journal := s.journal.commence rule.name } with
    | error stop after =>
        rw [hinner] at h
        cases h
    | ok a after =>
        rw [hinner] at h
        cases h
        have hquiet := hx.quiet hinner
        exact (after.journal.complaints_finish rule.name).trans
          (hquiet.trans (s.journal.complaints_commence rule.name))
  files {s s' failure} h := by
    unfold Analysis.enclose at h
    cases hinner : x { s with journal := s.journal.commence rule.name } with
    | ok a after =>
        rw [hinner] at h
        cases h
    | error stop after =>
        rw [hinner] at h
        cases stop with
        | rejected inner =>
            cases h
            have hfiles := hx.files hinner
            exact (hfiles.of_complaints_eq (s.journal.complaints_commence rule.name)).wrap rule.name
        | notStarted | alreadyStarted | allowanceUsedUp => cases h

end Reports

end Analysis

private theorem Script.reports {run : Run} {α : Type} {L : Language Kind} {x : Analysis α}
    (h : Script run L x) (hrun : ∀ rule, Reports (run rule)) : Reports x := by
  induction h with
  | pure a => exact .pure a
  | lookahead => exact .lookahead
  | accept kind => exact .accept kind
  | acceptVariable => exact .acceptVariable
  | declare identifier type => exact .declare identifier type
  | drop v => exact .note fun journal => journal.complaints_drop v
  | checkAdding operator left right =>
      rw [checkAdding_eq]
      exact .require (.inr rfl)
  | checkMultiplying operator side type =>
      rw [checkMultiplying_eq]
      exact .require (.inr rfl)
  | refuse hcomplaint => exact .report (.inl (Script.category_of_mem_choices hcomplaint))
  | rule rule => exact hrun rule
  | bind _ _ ihx ihf => exact ihx.bind ihf
  | weaken _ _ ih => exact ih

private theorem runWithin_reports (allowance : Nat) (rule : Rule) :
    Reports (runWithin allowance rule) := by
  induction allowance generalizing rule with
  | zero => exact ⟨nofun, nofun⟩
  | succ allowance ih => exact .enclose rule ((procedure_script _ rule).reports ih)

private theorem runRule_reports (rule : Rule) : Reports (runRule rule) where
  quiet h := (runWithin_reports _ rule).quiet h
  files h := (runWithin_reports _ rule).files h

private theorem program_reports : Reports program := by
  refine (runRule_reports .statementPart).bind fun _ => Reports.lookahead.bind fun token => ?_
  split
  · exact .report (.inl rfl)
  · exact .pure ()

theorem parse_reports : Reports parse := by
  have hfirst : Reports (pull >>= fun _ => program) := Reports.pull.bind fun _ => program_reports
  constructor
  · intro s s' u hparse
    obtain ⟨source, lookahead, journal⟩ := s
    cases lookahead with
    | none => exact hfirst.quiet hparse
    | some token => cases hparse
  · intro s s' failure hparse
    obtain ⟨source, lookahead, journal⟩ := s
    cases lookahead with
    | none => exact hfirst.files hparse
    | some token => cases hparse

end OnePass
