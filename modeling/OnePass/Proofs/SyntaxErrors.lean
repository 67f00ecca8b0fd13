import OnePass.Proofs.Derivation.Delivery
import OnePass.Proofs.Derivation.Spelling
/-!
# Syntax errors come at the first token that fits no program

What has been accepted when a program is rejected can be completed to a program. If the rejection is
about the grammar, the token at hand fits no such completion, and a kind that is asked for in its
place fits one.
-/
namespace OnePass

open Grammar

private theorem Complaint.text_eq_of_message_eq {complaint complaint' : Complaint}
    {filename : String}
    {token : Token} (h : complaint.message filename token = complaint'.message filename token) :
    complaint.text = complaint'.text :=
  (String.append_right_inj _).mp h

private theorem Viable.exists_prefix {L : Language Kind} {word : List Kind} (h : Viable L word) :
    ∃ sentence ∈ L, word <+: sentence := by
  obtain ⟨rest, hrest⟩ := h
  exact ⟨_, hrest, List.prefix_append word rest⟩

namespace Analysis

variable {filename : String} {tokens front : List Token} {line : Int} {j j' : Journal}
  {c' : Cursor} {failure : Failure}

private theorem parse_eq_program (filename : String) (tokens : List Token) (j : Journal) :
    parse (.ofSource (.ofTokens filename tokens) j) =
      program ((Cursor.ofTokens filename tokens 1).analyser j) :=
  parse_of_place? rfl (Source.place?_replay filename tokens 1)

private theorem exists_refuses {s : Analyser}
    (h : parse (.ofSource (.ofTokens filename tokens) j) = .error (.rejected failure) s) :
    ∃ front c' j', Refuses (.ofTokens filename tokens 1) j front c' j' failure ∧
      s = c'.analyser j' := by
  rw [parse_eq_program] at h
  rcases replay_cases filename tokens j with
    ⟨front, c', j', haccepts⟩ | ⟨front, c', j', failure', hrefuses⟩
  · rw [haccepts.here] at h
    cases h
  · rw [hrefuses.here] at h
    cases h
    exact ⟨front, c', j', hrefuses, rfl⟩

private theorem kind_ne_of_refuses
    (h : Refuses (.ofTokens filename tokens line) j front c' j' failure) :
    ∀ token ∈ front, token.kind ≠ .endOfFile := by
  intro token hmem
  exact h.viable.kind_ne (List.mem_map_of_mem hmem)

private theorem prefix_of_refuses
    (h : Refuses (.ofTokens filename tokens line) j front c' j' failure) :
    ∃ line', front ++ [c'.token] <+: tokens ++ [.endOfFile line'] := by
  obtain ⟨back, line', rfl, htokens⟩ := h.passes.exists_ofTokens
  refine ⟨line', ?_⟩
  rw [htokens (kind_ne_of_refuses h), List.append_assoc]
  cases back with
  | nil => exact List.prefix_rfl
  | cons token back => exact (List.prefix_append_right_inj front).mpr ⟨_, rfl⟩

private theorem not_prefix_of_refuses
    (h : Refuses (.ofTokens filename tokens line) j front c' j' failure)
    (hcategory : failure.root.category = .syntactic) {sentence : List Kind}
    (hsentence : sentence ∈ Rule.statementPart.language) :
    ¬ front.map Token.kind ++ [c'.token.kind] <+: sentence ++ [.endOfFile] := by
  rintro ⟨rest, hrest⟩
  -- A program that goes on with the token would be refused in the same way.
  let completed := front ++ c'.token :: rest.map fun kind => ⟨kind, "", 1⟩
  have hkinds : completed.map Token.kind = sentence ++ [.endOfFile] := by
    rw [← hrest]
    simp [completed, Function.comp_def]
  obtain ⟨body, ending, hcompleted, hbody, hending⟩ := List.map_eq_append_iff.mp hkinds
  obtain ⟨last, rfl, hlast⟩ := List.map_eq_singleton_iff.mp hending
  rw [← hbody] at hsentence
  obtain ⟨t, rfl⟩ := Tree.exists_yield_eq hsentence
  obtain ⟨line₁, hread⟩ :=
    Cursor.exists_passes_ofTokens filename front
      (c'.token :: rest.map fun kind => ⟨kind, "", 1⟩) 1
  obtain ⟨line₂, hpasses⟩ := Cursor.exists_passes_ofTokens filename t.yield [last] 1
  rw [← hcompleted] at hpasses
  have hsemantic := h.category_of_tree hread rfl
    (by rw [Cursor.filename_ofTokens, Cursor.filename_ofTokens]) hpasses hlast
  rw [hsemantic] at hcategory
  cases hcategory

private theorem awaits_of_refuses
    (h : Refuses (.ofTokens filename tokens line) j front c' j' failure)
    (hcategory : failure.root.category = .syntactic) {kind : Kind}
    (hmessage : failure.root.message = (Complaint.expected kind).message filename c'.token) :
    Awaits (front.map Token.kind) kind := by
  obtain ⟨complaint, hroot, -, hnames⟩ := h.blames
  have hfilename : c'.source.filename = filename := by
    rw [h.passes.filename, Cursor.filename_ofTokens]
  rw [hroot] at hcategory hmessage
  rw [hfilename] at hmessage
  exact hnames kind ⟨hcategory, Complaint.text_eq_of_message_eq hmessage⟩

private theorem category_of_sentence {s : Analyser}
    (hsentence : (Token.beforeEnd tokens).map Token.kind ∈ Rule.statementPart.language)
    (hparse : parse (.ofSource (.ofTokens filename tokens) j) = .error (.rejected failure) s) :
    failure.root.category = .semantic := by
  obtain ⟨front, c', j', hrefuses, -⟩ := exists_refuses hparse
  obtain ⟨t, hyield⟩ := Tree.exists_yield_eq hsentence
  obtain ⟨last, hpasses, hend⟩ := Cursor.exists_passes_beforeEnd filename tokens 1
  rw [← hyield] at hpasses
  exact hrefuses.category_of_tree hrefuses.passes rfl rfl hpasses hend

private theorem exists_rejection (filename : String) (j : Journal)
    (hother : (Token.beforeEnd tokens).map Token.kind ∉ Rule.statementPart.language) :
    ∃ failure s,
      parse (.ofSource (.ofTokens filename tokens) j) = .error (.rejected failure) s ∧
      (failure.root.category = .syntactic ∨ failure.root.category = .semantic) := by
  rcases replay_cases filename tokens j with
    ⟨front, c', j', haccepts⟩ | ⟨front, c', j', failure, hrefuses⟩
  · refine absurd ?_ hother
    obtain ⟨last, hpasses, hend⟩ := Cursor.exists_passes_beforeEnd filename tokens 1
    have hfront : ∀ token ∈ front, token.kind ≠ .endOfFile := fun token hmem =>
      Rule.kind_ne_of_mem_language haccepts.sentence (List.mem_map_of_mem hmem)
    obtain ⟨rfl, -⟩ := haccepts.passes.eq_of_ends hpasses hfront
      (fun token => Cursor.kind_ne_of_mem_beforeEnd) haccepts.ends hend
    exact haccepts.sentence
  · obtain ⟨complaint, hroot, hcategory, -⟩ := hrefuses.blames
    refine ⟨failure, _, (parse_eq_program filename tokens j).trans hrefuses.here, ?_⟩
    rw [hroot]
    exact hcategory

/-- A program that is rejected has been read up to the first token that breaks the grammar or a
static rule; a list that is no program is rejected. -/
theorem correct_prefix_of_parse (filename : String) (tokens : List Token) (scope : Scope)
    (echo : Bool) :
    (∀ failure s,
      parse (.ofSource (.ofTokens filename tokens) (.start scope echo)) =
        .error (.rejected failure) s →
      ∃ token line, s.lookahead = some token ∧
        s.journal.terminals ++ [token] <+: tokens ++ [.endOfFile line] ∧
        (∃ sentence ∈ Rule.statementPart.language,
          s.journal.terminals.map Token.kind <+: sentence) ∧
        (failure.root.category = .syntactic →
          (∀ sentence ∈ Rule.statementPart.language,
            ¬ s.journal.terminals.map Token.kind ++ [token.kind] <+: sentence ++ [.endOfFile]) ∧
          ∀ kind, failure.root.message = (Complaint.expected kind).message filename token →
            if kind = .endOfFile then
              s.journal.terminals.map Token.kind ∈ Rule.statementPart.language
            else ∃ sentence ∈ Rule.statementPart.language,
              s.journal.terminals.map Token.kind ++ [kind] <+: sentence)) ∧
    ((Token.beforeEnd tokens).map Token.kind ∈ Rule.statementPart.language →
      ∀ failure s,
        parse (.ofSource (.ofTokens filename tokens) (.start scope echo)) =
          .error (.rejected failure) s →
        failure.root.category = .semantic) ∧
    ((Token.beforeEnd tokens).map Token.kind ∉ Rule.statementPart.language →
      ∃ failure s,
        parse (.ofSource (.ofTokens filename tokens) (.start scope echo)) =
          .error (.rejected failure) s ∧
        (failure.root.category = .syntactic ∨ failure.root.category = .semantic)) := by
  refine ⟨?_, ?_, ?_⟩
  · intro failure s hparse
    obtain ⟨front, c', j', hrefuses, rfl⟩ := exists_refuses hparse
    have hterminals : (c'.analyser j').journal.terminals = front := hrefuses.terminals
    obtain ⟨line, hprefix⟩ := prefix_of_refuses hrefuses
    rw [hterminals]
    refine ⟨c'.token, line, rfl, hprefix, hrefuses.viable.exists_prefix, ?_⟩
    intro hcategory
    refine ⟨fun sentence => not_prefix_of_refuses hrefuses hcategory, ?_⟩
    intro kind hmessage
    have hawaits := awaits_of_refuses hrefuses hcategory hmessage
    unfold Awaits at hawaits
    by_cases hkind : kind = .endOfFile
    · rw [if_pos hkind] at hawaits ⊢
      exact hawaits
    · rw [if_neg hkind] at hawaits ⊢
      exact hawaits.exists_prefix
  · intro hsentence failure s hparse
    exact category_of_sentence hsentence hparse
  · intro hother
    exact exists_rejection filename _ hother

/-- A second assignment that no semicolon separates from the first. -/
theorem correct_prefix_of_missing_semicolon :
    ∃ failure s,
      parse (.ofSource (.ofTokens "source"
        [⟨.beginWord, "begin", 1⟩, ⟨.identifier, "x", 1⟩, ⟨.becomes, ":=", 1⟩,
          ⟨.numberConstant, "1", 1⟩, ⟨.identifier, "y", 2⟩]) (.start .empty false)) =
        .error (.rejected failure) s ∧
      failure.root.message = "source:2: found 'y' (identifier), expected 'end'" ∧
      (∃ sentence ∈ Rule.statementPart.language,
        [.beginWord, .identifier, .becomes, .numberConstant, .endWord] <+: sentence) ∧
      ∀ sentence ∈ Rule.statementPart.language,
        ¬ [.beginWord, .identifier, .becomes, .numberConstant, .identifier] <+:
          sentence ++ [.endOfFile] := by
  let tokens : List Token :=
    [⟨.beginWord, "begin", 1⟩, ⟨.identifier, "x", 1⟩, ⟨.becomes, ":=", 1⟩,
      ⟨.numberConstant, "1", 1⟩, ⟨.identifier, "y", 2⟩]
  have hrejects : rejects parse (.ofSource (.ofTokens "source" tokens) (.start .empty false))
      (fun failure s => failure.root.category = .syntactic &&
        failure.root.message = "source:2: found 'y' (identifier), expected 'end'" &&
        s.lookahead = some ⟨.identifier, "y", 2⟩ &&
        s.journal.terminals.map Token.kind =
          [.beginWord, .identifier, .becomes, .numberConstant]) = true := by
    decide +kernel
  obtain ⟨failure, s, hparse, hhow⟩ := exists_of_rejects hrejects
  simp only [Bool.and_eq_true, decide_eq_true_eq] at hhow
  obtain ⟨⟨⟨hcategory, hmessage⟩, hlookahead⟩, hterminals⟩ := hhow
  obtain ⟨token, line, htoken, -, -, hsyntactic⟩ :=
    (correct_prefix_of_parse "source" tokens .empty false).1 failure s hparse
  rw [hlookahead] at htoken
  cases htoken
  obtain ⟨hfits, hexpected⟩ := hsyntactic hcategory
  rw [hterminals] at hfits hexpected
  refine ⟨failure, s, hparse, hmessage, ?_, hfits⟩
  have hend := hexpected .endWord (hmessage.trans (by decide +kernel))
  rwa [if_neg (by decide)] at hend

end Analysis

end OnePass
