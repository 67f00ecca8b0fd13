import OnePass.Command.Report
import OnePass.Proofs.Derivation.Start
import OnePass.Proofs.RuleTrace
/-!
# What an echoing journal prints

A journal that echoes has printed each of its events on a line of its own, and any other journal has
printed nothing, however the analysis ends. So what is printed live is what can be shown afterwards.
-/
namespace OnePass

open Analysis

namespace Journal

/-- The events as they are shown, each on a line. -/
def lines (journal : Journal) : List String :=
  journal.events.toList.map Event.render

structure Echoes (journal : Journal) : Prop where
  printed : journal.printed.toList = if journal.echo then journal.lines else []

private theorem echoes_start (scope : Scope) (echo : Bool) : (start scope echo).Echoes :=
  ⟨(ite_self []).symm⟩

private theorem echo_tell (journal : Journal) (occurrence : Occurrence) :
    (journal.tell occurrence).echo = journal.echo := by
  cases occurrence <;> rfl

private theorem echo_follow (journal : Journal) (scope : Scope) (story : Story) :
    (journal.follow scope story).echo = journal.echo := by
  change (story.foldl tell journal).echo = _
  induction story generalizing journal with
  | nil => rfl
  | cons occurrence story ih => rw [List.foldl_cons, ih, echo_tell]

namespace Echoes

variable {journal : Journal}

private theorem record (h : journal.Echoes) (occurrence : Occurrence) :
    (journal.record occurrence).Echoes := by
  constructor
  have hprinted := h.printed
  unfold Journal.record lines
  cases hecho : journal.echo with
  | false =>
      rw [hecho] at hprinted
      simpa using hprinted
  | true =>
      rw [hecho] at hprinted
      simpa [lines] using hprinted

private theorem tell (h : journal.Echoes) (occurrence : Occurrence) :
    (journal.tell occurrence).Echoes := by
  cases occurrence with
  | commence rule => exact ⟨(h.record (.commence rule)).printed⟩
  | finish rule =>
      have hinner : { journal with depth := journal.depth - 1 }.Echoes := ⟨h.printed⟩
      exact hinner.record (.finish rule)
  | terminal | declare | remove | complaint => exact h.record _

private theorem follow (h : journal.Echoes) (scope : Scope) (story : Story) :
    (journal.follow scope story).Echoes := by
  suffices hstory : (story.foldl Journal.tell journal).Echoes from ⟨hstory.printed⟩
  induction story generalizing journal with
  | nil => exact h
  | cons occurrence story ih => exact ih (h.tell occurrence)

private theorem output_eq (h : journal.Echoes) :
    journal.output = if journal.echo then Report.unlines journal.lines else "" := by
  unfold output
  rw [h.printed]
  split <;> rfl

end Echoes

private theorem unlines_eq {lines : List String} (h : lines ≠ []) :
    Report.unlines lines = "\n".intercalate lines ++ "\n" := by
  induction lines with
  | nil => contradiction
  | cons line lines ih =>
      have hcons : Report.unlines (line :: lines) = line ++ "\n" ++ Report.unlines lines :=
        String.join_cons
      rw [hcons]
      cases lines with
      | nil => simp [Report.unlines]
      | cons next lines =>
          rw [ih (List.cons_ne_nil next lines), String.intercalate_cons_cons]
          simp only [String.append_assoc]

theorem unlines_lines (journal : Journal) :
    Report.unlines journal.lines = if journal.events = #[] then "" else journal.render ++ "\n" := by
  split
  next hnone =>
    rw [lines, hnone]
    rfl
  next hsome =>
    apply unlines_eq
    simpa [lines] using hsome

end Journal

namespace Analysis

private theorem program_records (c : Cursor) (j : Journal) : Records program c j := by
  refine (runRule_records .statementPart c j).bind fun _ c' j' =>
    Records.lookahead.bind fun token c'' j'' => ?_
  split
  · exact .report _
  · exact .pure ()

private theorem exists_follow_of_parse (source : Source) (j : Journal) :
    ∃ outcome s scope story, parse (.ofSource source j) = ending outcome s ∧
      s.journal = j.follow scope story := by
  cases hplace : source.place? with
  | none =>
      obtain ⟨failure, rest, -, hpull⟩ :=
        pull_of_place?_eq_none (s := .ofSource source j) hplace
      have hparse : parse (.ofSource source j) = .error (.rejected failure) ⟨rest, none, j⟩ := by
        change (pull >>= _ : Analysis Unit) (.ofSource source j) = _
        exact bind_eq_of_error hpull
      exact ⟨.error (.rejected failure), ⟨rest, none, j⟩, j.scope, [], hparse, rfl⟩
  | some c =>
      obtain ⟨outcome, c', scope, story, hprogram, -⟩ := program_records c j
      have hparse : parse (.ofSource source j) = program (c.analyser j) :=
        parse_of_place? rfl hplace
      exact ⟨outcome, _, scope, story, hparse.trans hprogram, rfl⟩

/-- Whatever an analysis comes to, it has printed its events if the journal echoes. -/
theorem output_of_parse {source : Source} {scope : Scope} {echo : Bool}
    (outcome : Except Stop Unit) {s : Analyser}
    (h : parse (.ofSource source (.start scope echo)) = ending outcome s) :
    s.journal.output = if echo then Report.unlines s.journal.lines else "" := by
  obtain ⟨outcome', s', scope', story, hparse, hjournal⟩ :=
    exists_follow_of_parse source (.start scope echo)
  obtain ⟨-, rfl⟩ := ending_inj (h.symm.trans hparse)
  have hechoes : s.journal.Echoes :=
    hjournal ▸ (Journal.echoes_start scope echo).follow scope' story
  have hecho : s.journal.echo = echo := hjournal ▸ Journal.echo_follow _ scope' story
  rw [hechoes.output_eq, hecho]

end Analysis

end OnePass
