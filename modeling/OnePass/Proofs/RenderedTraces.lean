import OnePass.Proofs.Recording.Histories
import OnePass.Proofs.SideBySide.Breaks
import OnePass.Trace.Entry
/-!
# What a rendered trace tells

A rendered trace loses nothing but on which lines the terminals stand and which variables its events
are about, as long as no text in it breaks a line. In an analysis only the name of the program could
do so.
-/
namespace OnePass

namespace Story

/-- The terminals of a story, each with the rules that are open around it. -/
def leaves : (rules : List String) → Story → List (List String × Kind × String)
  | _, [] => []
  | rules, .terminal token :: story => (rules, token.kind, token.text) :: leaves rules story
  | rules, occurrence :: story => leaves (occurrence.reopen rules) story

private theorem leaves_eq {story story' : Story} (h : List.Forall₂ Occurrence.Agrees story story')
    (rules : List String) : leaves rules story = leaves rules story' := by
  induction h generalizing rules with
  | nil => rfl
  | cons hoccurrence _ ih =>
      cases hoccurrence with
      | terminal hkind htext => simp only [leaves, hkind, htext, ih]
      | commence | finish | declare | remove | complaint => exact ih _

end Story

namespace Journal

open Story

/-- The free text that an operation hands to the journal. -/
def Operation.text : Operation → String
  | .commence rule => rule
  | .finish rule => rule
  | .terminal token => token.text
  | .complain message _ => message
  | .declare v => v.identifier
  | .drop v => v.identifier

private theorem Operation.text_recorded {scope : Scope} {operation : Operation}
    {occurrence : Occurrence}
    (h : occurrence ∈ operation.recorded scope) : occurrence.text = operation.text := by
  cases operation with
  | commence | finish | terminal | complain =>
      rw [List.mem_singleton.mp h]
      rfl
  | declare | drop =>
      simp only [recorded] at h
      split at h
      · rw [List.mem_singleton.mp h]
        rfl
      · cases h

private theorem unbroken_iff {journal : Journal} :
    journal.Unbroken ↔ ∀ occurrence ∈ journal.occurrences, '\n' ∉ occurrence.text.toList := by
  rw [occurrences, List.forall_mem_map]
  rfl

private theorem unbroken_performAll {journal : Journal} (hjournal : journal.Unbroken)
    {history : List Operation} (h : ∀ operation ∈ history, '\n' ∉ operation.text.toList) :
    (journal.performAll history).Unbroken := by
  induction history using List.reverseRecOn with
  | nil => exact hjournal
  | append_singleton history operation ih =>
      rw [List.forall_mem_append, List.forall_mem_singleton] at h
      rw [performAll_concat, unbroken_iff, occurrences_perform, List.forall_mem_append]
      refine ⟨unbroken_iff.mp (ih h.1), fun occurrence hmem => ?_⟩
      rw [Operation.text_recorded hmem]
      exact h.2

private theorem render_entries (journal : Journal) :
    (journal.events.toList.mapM fun event => event.entry.render?) =
      some (journal.events.toList.map Event.render) := by
  simp only [Event.render?_entry]
  exact List.mapM_pure

/-- A journal is rendered as the entries of its events are, all of which can be shown. Journals that
have been driven by operations whose texts break no line, and those that analyses leave under names
that break no line, agree event by event if they are rendered alike. So analyses that are rendered
alike have accepted the same terminals in the same rules. -/
theorem events_agree_of_render_eq :
    (∀ journal : Journal,
      (journal.events.toList.mapM fun event : Event => event.entry.render?).map
        "\n".intercalate = some journal.render) ∧
    (∀ (scope scope' : Scope) (echo echo' : Bool) (history history' : List Operation),
      let journal := (start scope echo).performAll history
      let journal' := (start scope' echo').performAll history'
      (∀ operation ∈ history, '\n' ∉ operation.text.toList) →
      (∀ operation ∈ history', '\n' ∉ operation.text.toList) → journal.render = journal'.render →
        List.Forall₂ Event.Agrees journal.events.toList journal'.events.toList) ∧
    ∀ (filename filename' text text' : String) (echo echo' : Bool),
      let journal := Analysis.finalJournal (analyseText filename text echo)
      let journal' := Analysis.finalJournal (analyseText filename' text' echo')
      '\n' ∉ filename.toList → '\n' ∉ filename'.toList → journal.render = journal'.render →
        List.Forall₂ Event.Agrees journal.events.toList journal'.events.toList ∧
          leaves [] journal.occurrences = leaves [] journal'.occurrences := by
  refine ⟨?_, ?_, ?_⟩
  · intro journal
    rw [render_entries]
    rfl
  · intro scope scope' echo echo' history history' journal journal' hhistory hhistory' hrender
    have hstart (scope : Scope) (echo : Bool) : (start scope echo).Unbroken := nofun
    exact forall₂_agrees_of_render_eq (unbroken_performAll (hstart scope echo) hhistory)
      (unbroken_performAll (hstart scope' echo') hhistory') hrender
  · intro filename filename' text text' echo echo' journal journal' hfilename hfilename' hrender
    have hevents := forall₂_agrees_of_render_eq
      (Analysis.unbroken_analyseText hfilename text echo)
      (Analysis.unbroken_analyseText hfilename' text' echo') hrender
    refine ⟨hevents, leaves_eq ?_ []⟩
    rw [occurrences, occurrences, List.forall₂_map_left_iff, List.forall₂_map_right_iff]
    exact hevents.imp fun _ _ hevent => hevent.occurrence

/-- Terminals on other lines, with texts that look like the end of a line, and two texts that have
the same tokens. -/
theorem events_agree_of_moved_tokens :
    (List.Forall₂ Event.Agrees
      ((start .empty false).performAll
        [.commence "A", .terminal ⟨.stringConstant, "' (identifier)", 1⟩]).events.toList
      ((start .empty true).performAll
        [.commence "A", .terminal ⟨.stringConstant, "' (identifier)", 7⟩]).events.toList) ∧
    leaves [] (Analysis.finalJournal (analyseText "a" "begin x := 1 end" false)).occurrences =
      leaves [] (Analysis.finalJournal (analyseText "b" "begin\n x := 1\nend" true)).occurrences := by
  constructor
  · exact events_agree_of_render_eq.2.1 .empty .empty false true _ _ (by decide +kernel)
      (by decide +kernel) (by decide +kernel)
  · exact (events_agree_of_render_eq.2.2 "a" "b" _ _ false true (by decide +kernel)
      (by decide +kernel) (by decide +kernel)).2

end Journal

end OnePass
