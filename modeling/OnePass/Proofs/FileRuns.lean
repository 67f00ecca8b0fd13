import OnePass.Proofs.Reporting.Decoding
import OnePass.Proofs.Reporting.Echo
import OnePass.Proofs.SideBySide.Naming
/-!
# A program in a file and the same program as a text

The report on a file that holds a text in UTF-8 is the report on the text with its line ends
unified. Only the name of the program differs, and it stands in front: of the line on success, of
the error, and of the message in the line of the trace that complains.
-/
namespace OnePass

open Analysis

namespace Text

/-- Writes a line feed for a carriage return with a line feed behind it. -/
def joinLineEnds : List Char → List Char
  | [] => []
  | '\r' :: '\n' :: rest => '\n' :: joinLineEnds rest
  | c :: rest => c :: joinLineEnds rest

private theorem unifyLineEnds_eq (s : List Char) :
    unifyLineEnds s = (joinLineEnds s).map fun c => if c = '\r' then '\n' else c := by
  fun_induction unifyLineEnds s with
  | case1 => rfl
  | case2 rest ih => rw [ih, joinLineEnds, List.map_cons, if_neg (by decide)]
  | case3 c rest hshort ih =>
      rw [ih, joinLineEnds, List.map_cons]
      exact hshort

/-- A text with line feeds for all its line ends. -/
def unified (text : String) : String :=
  .ofList ((joinLineEnds text.toList).map fun c => if c = '\r' then '\n' else c)

end Text

private theorem textOfBytes_utf8 (text : String) :
    textOfBytes text.toUTF8.data.toList = .ok (Text.unified text) := by
  unfold textOfBytes Text.unified
  rw [Text.Utf8.decode_utf8, ← Text.unifyLineEnds_eq]

namespace Report

/-- A report without the name of the program, which is filled in where something is said about
it. -/
inductive Template where
  | accepted (trace : List Event) (symbols : List String)
  | rejected (trace : List Event) (message : String) (rules : List String)

def Template.fill (name : String) : Template → Report
  | .accepted trace symbols =>
    ⟨0, unlines ((trace.map (Event.named name)).map Event.render ++
      s!"{name}: parsed successfully" :: symbols), ""⟩
  | .rejected trace message rules =>
    ⟨1, unlines ((trace.map (Event.named name)).map Event.render),
      unlines (s!"error: {name}{message}" :: rules)⟩

private theorem unlines_append (front back : List String) :
    unlines (front ++ back) = unlines front ++ unlines back := by
  rw [unlines, List.map_append, String.join_append]
  rfl

private theorem exists_template (text : String) (trace verbose symbols : Bool) :
    ∃ template : Template, ∀ name source inline,
      ofLexer ⟨source, inline, trace, verbose, symbols⟩ (.ofString name text) =
        template.fill name := by
  obtain ⟨judgement, hjudgement⟩ := exists_judgement text .empty
  cases judgement with
  | accepted events scope =>
      refine ⟨.accepted (if trace then events else [])
        (if symbols then symbolLines scope else []), fun name source inline => ?_⟩
      obtain ⟨s, hparse, hevents, hscope⟩ := hjudgement name trace
      have houtput := output_of_parse (.ok ()) hparse
      unfold ofLexer
      rw [hparse]
      simp only [accepted, Template.fill, houtput, hscope, unlines_append, Journal.lines, hevents]
      cases trace <;> rfl
  | rejected events message rules =>
      refine ⟨.rejected (if trace then events else []) message
        (if verbose then ["rule trace: " ++ " > ".intercalate rules] else []),
        fun name source inline => ?_⟩
      obtain ⟨failure, s, hparse, hevents, hmessage, hrules⟩ := hjudgement name trace
      have houtput := output_of_parse (.error (.rejected failure)) hparse
      unfold ofLexer
      rw [hparse]
      simp only [stopped, Template.fill, houtput, Stop.message, Stop.ruleTrace, hmessage, hrules,
        Journal.lines, hevents]
      cases trace <;> rfl

/-- A file that holds a text in UTF-8 and the text itself, its line ends unified, are reported on
alike under their names. -/
theorem ofRequest_file (text : String) (trace verbose symbols : Bool) :
    ∃ template : Template,
      (∀ (read : Reader) (path : String), '\x00' ∉ path.toList →
        read path = .ok text.toUTF8.data.toList →
        ofRequest read ⟨path, false, trace, verbose, symbols⟩ = .ok (template.fill path)) ∧
      ∀ read : Reader, ofRequest read ⟨Text.unified text, true, trace, verbose, symbols⟩ =
        .ok (template.fill Lexer.inlineName) := by
  obtain ⟨template, hreport⟩ := exists_template (Text.unified text) trace verbose symbols
  refine ⟨template, ?_, ?_⟩
  · intro read path hpath hread
    have hlexer : Lexer.ofFile read path = .ok (.ofString path (Text.unified text)) := by
      rw [Lexer.ofFile, hread]
      change (textOfBytes _).map _ = _
      rw [textOfBytes_utf8]
      rfl
    simp only [ofRequest, if_neg hpath, hlexer, hreport]
    rfl
  · intro read
    exact congrArg Except.ok (hreport _ _ _)

/-- A file of two lines with a character beyond ASCII. -/
theorem ofRequest_file_of_two_lines :
    let text := "begin x := \"é\"\r\nend"
    let read : Reader := fun _ => .ok text.toUTF8.data.toList
    ∃ template : Template,
      ofRequest read ⟨"a.txt", false, true, true, true⟩ = .ok (template.fill "a.txt") ∧
        ofRequest read ⟨Text.unified text, true, true, true, true⟩ =
          .ok (template.fill "<string>") := by
  intro text read
  obtain ⟨template, hfile, hinline⟩ := ofRequest_file text true true true
  exact ⟨template, hfile read "a.txt" (by decide) rfl, hinline read⟩

end Report

end OnePass
