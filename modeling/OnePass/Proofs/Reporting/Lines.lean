import Mathlib.Data.List.Forall2
import OnePass.Trace.Journal
/-!
# Reading the lines of a trace

A line of a trace can be read in one way only, whatever its free text is. Its indentation tells the
depth, and its first letters tell what kind of thing has happened. In front of a kind of token or of
a type the text may hold anything, but none of these ends with another one. In front of a message
stands a number, which ends at the first colon. So a trace whose texts do not break a line tells its
events.
-/
namespace OnePass

/-- What has happened is the same as far as a line tells it. It leaves out on which line a terminal
stands, and of variables which ones they are, and the type of those removed. -/
inductive Occurrence.Agrees : Occurrence → Occurrence → Prop where
  | commence (rule : String) : Agrees (.commence rule) (.commence rule)
  | finish (rule : String) : Agrees (.finish rule) (.finish rule)
  | terminal {t t' : Token} (hkind : t.kind = t'.kind) (htext : t.text = t'.text) :
    Agrees (.terminal t) (.terminal t')
  | declare {v v' : Variable} (hidentifier : v.identifier = v'.identifier)
    (htype : v.type = v'.type) : Agrees (.declare v) (.declare v')
  | remove {v v' : Variable} (hidentifier : v.identifier = v'.identifier) :
    Agrees (.remove v) (.remove v')
  | complaint (message : String) (line : Int) :
    Agrees (.complaint message line) (.complaint message line)

structure Event.Agrees (event event' : Event) : Prop where
  depth : event.depth = event'.depth
  occurrence : event.occurrence.Agrees event'.occurrence

namespace Text

private theorem append_mark_inj {β : Type} {mark : β → List Char}
    (hmark : ∀ b b', mark b <:+ mark b' → b = b') {front front' : List Char} {b b' : β}
    (h : front ++ mark b = front' ++ mark b') : front = front' ∧ b = b' := by
  -- Of two marks at the end of one text, the one ends with the other.
  have hb : b = b' := by
    have hsuffix : mark b <:+ front' ++ mark b' := ⟨front, h⟩
    rcases List.suffix_or_suffix_of_suffix hsuffix (List.suffix_append front' (mark b')) with
      hend | hend
    · exact hmark b b' hend
    · exact (hmark b' b hend).symm
  subst hb
  exact ⟨List.append_cancel_right h, rfl⟩

private theorem heading_append_inj {β : Type} {heading : β → List Char}
    (hheading : ∀ b b', heading b <+: heading b' → b = b') {back back' : List Char} {b b' : β}
    (h : heading b ++ back = heading b' ++ back') : b = b' ∧ back = back' := by
  have hb : b = b' := by
    have hprefix : heading b <+: heading b' ++ back' := ⟨back, h⟩
    rcases List.prefix_or_prefix_of_prefix hprefix (List.prefix_append (heading b') back') with
      hbegin | hbegin
    · exact hheading b b' hbegin
    · exact (hheading b' b hbegin).symm
  subst hb
  exact ⟨rfl, List.append_cancel_left h⟩

private theorem append_separator_inj {c : Char} {front front' back back' : List Char}
    (hfront : c ∉ front) (hfront' : c ∉ front') (h : front ++ c :: back = front' ++ c :: back') :
    front = front' ∧ back = back' := by
  have htake := congrArg (List.takeWhile (· != c)) h
  have hdrop := congrArg (List.dropWhile (· != c)) h
  have hother : ∀ d ∈ front, (d != c) = true := by
    intro d hd
    exact bne_iff_ne.mpr (ne_of_mem_of_not_mem hd hfront)
  have hother' : ∀ d ∈ front', (d != c) = true := by
    intro d hd
    exact bne_iff_ne.mpr (ne_of_mem_of_not_mem hd hfront')
  rw [List.takeWhile_append_of_pos hother, List.takeWhile_append_of_pos hother'] at htake
  rw [List.dropWhile_append_of_pos hother, List.dropWhile_append_of_pos hother'] at hdrop
  exact ⟨by simpa using htake, by simpa using hdrop⟩

private theorem indentation_inj {n n' : Nat} {l l' : List Char} (hl : l.head? ≠ some ' ')
    (hl' : l'.head? ≠ some ' ')
    (h : List.replicate n ' ' ++ l = List.replicate n' ' ' ++ l') : n = n' ∧ l = l' := by
  induction n generalizing n' with
  | zero =>
      cases n' with
      | zero => exact ⟨rfl, h⟩
      | succ n' =>
          rw [List.replicate_zero, List.nil_append] at h
          rw [h] at hl
          exact absurd rfl hl
  | succ n ih =>
      cases n' with
      | zero =>
          rw [List.replicate_zero, List.nil_append] at h
          rw [← h] at hl'
          exact absurd rfl hl'
      | succ n' =>
          obtain ⟨hn, hrest⟩ := ih (List.cons.inj h).2
          exact ⟨congrArg (· + 1) hn, hrest⟩

private theorem filter_splitOn_intercalate {c : Char} {lines : List (List Char)}
    (h : ∀ line ∈ lines, line ≠ [] ∧ c ∉ line) :
    (([c].intercalate lines).splitOn c).filter (· ≠ []) = lines := by
  by_cases hnone : lines = []
  · rw [hnone]
    rfl
  · rw [List.splitOn_intercalate c (fun line hline => (h line hline).2) hnone, List.filter_eq_self]
    exact fun line hline => decide_eq_true (h line hline).1

theorem notMem_append {c : Char} {front back : String} :
    c ∉ (front ++ back).toList ↔ c ∉ front.toList ∧ c ∉ back.toList := by
  rw [String.toList_append, List.mem_append, not_or]

private theorem notMem_repr {c : Char} (hc : c.isDigit = false) (n : Nat) :
    c ∉ n.repr.toList := by
  rw [Nat.repr_eq_ofList_toDigits, String.toList_ofList]
  intro hmem
  have hdigit := Nat.isDigit_of_mem_toDigits (by decide) (by decide) hmem
  rw [hc] at hdigit
  cases hdigit

theorem notMem_toList_int {c : Char} (hc : c ≠ '-' ∧ c.isDigit = false) (n : Int) :
    c ∉ (toString n).toList := by
  rw [Int.toString_eq_repr, Int.repr_eq_if]
  split
  · exact notMem_repr hc.2 _
  · exact notMem_append.mpr ⟨mt List.mem_singleton.mp hc.1, notMem_repr hc.2 _⟩

private theorem natRepr_inj {m n : Nat} (h : m.repr = n.repr) : m = n := by
  have hvalue := congrArg (fun s => Nat.ofDigitChars 10 s.toList 0) h
  simpa only [Nat.repr_eq_ofList_toDigits, String.toList_ofList, Nat.ofDigitChars_ten_toDigits]
    using hvalue

private theorem dash_append_ne_repr (m n : Nat) : "-" ++ m.repr ≠ n.repr := by
  intro h
  apply notMem_repr (c := '-') (by decide) n
  rw [← h, String.toList_append]
  exact List.mem_append_left _ (by decide)

private theorem toString_int_inj {m n : Int} (h : toString m = toString n) : m = n := by
  rw [Int.toString_eq_repr, Int.toString_eq_repr, Int.repr_eq_if, Int.repr_eq_if] at h
  split at h <;> split at h
  -- In the mixed cases the dash in front tells the numbers apart.
  · have hvalue := natRepr_inj h
    omega
  · exact absurd h.symm (dash_append_ne_repr _ _)
  · exact absurd h (dash_append_ne_repr _ _)
  · have hvalue := natRepr_inj ((String.append_right_inj _).mp h)
    omega

end Text

/-- What kind of thing an event tells. -/
inductive EventKind where
  | commence | finish | terminal | declare | remove | complaint
  deriving DecidableEq, Repr

namespace EventKind

/-- How the line begins. -/
def heading : EventKind → String
  | .commence => "begin "
  | .finish => "end "
  | .terminal => "terminal '"
  | .declare => "DECL "
  | .remove => "DROP "
  | .complaint => "ERROR line "

private theorem eq_of_heading_prefix (kind kind' : EventKind)
    (h : kind.heading.toList <+: kind'.heading.toList) : kind = kind' := by
  cases kind <;> cases kind' <;> revert h <;> decide +kernel

private theorem heading_ne_nil (kind : EventKind) : kind.heading.toList ≠ [] := by
  cases kind <;> decide +kernel

private theorem head?_heading (kind : EventKind) : kind.heading.toList.head? ≠ some ' ' := by
  cases kind <;> decide +kernel

private theorem unbroken_heading (kind : EventKind) : '\n' ∉ kind.heading.toList := by
  cases kind <;> decide +kernel

end EventKind

namespace Kind

/-- What stands behind the text of a terminal. -/
def closing (kind : Kind) : String :=
  "' (" ++ kind.display ++ ")"

private theorem unbroken_of_mem_all : ∀ kind ∈ all, '\n' ∉ kind.display.toList := by
  decide +kernel

private theorem eq_of_mem_all : ∀ kind ∈ all, ∀ kind' ∈ all,
    kind.closing.toList <:+ kind'.closing.toList → kind = kind' := by
  decide +kernel

theorem unbroken_display (kind : Kind) : '\n' ∉ kind.display.toList :=
  unbroken_of_mem_all kind kind.mem_all

private theorem eq_of_closing_suffix (kind kind' : Kind)
    (h : kind.closing.toList <:+ kind'.closing.toList) : kind = kind' :=
  eq_of_mem_all kind kind.mem_all kind' kind'.mem_all h

end Kind

namespace VarType

/-- What stands behind the name of a variable. -/
def closing (type : VarType) : String :=
  ": " ++ type.name

theorem unbroken_name (type : VarType) : '\n' ∉ type.name.toList := by
  cases type <;> decide +kernel

private theorem eq_of_closing_suffix (type type' : VarType)
    (h : type.closing.toList <:+ type'.closing.toList) : type = type' := by
  cases type <;> cases type' <;> revert h <;> decide +kernel

end VarType

namespace Occurrence

def kind : Occurrence → EventKind
  | .commence _ => .commence
  | .finish _ => .finish
  | .terminal _ => .terminal
  | .declare _ => .declare
  | .remove _ => .remove
  | .complaint _ _ => .complaint

/-- The free text of what has happened. -/
def text : Occurrence → String
  | .commence rule => rule
  | .finish rule => rule
  | .terminal token => token.text
  | .declare v => v.identifier
  | .remove v => v.identifier
  | .complaint message _ => message

/-- How the line goes on behind its heading. -/
def body : Occurrence → String
  | .commence rule => rule
  | .finish rule => rule
  | .terminal token => token.text ++ token.kind.closing
  | .declare v => v.identifier ++ v.type.closing
  | .remove v => v.identifier
  | .complaint message line => toString line ++ (": " ++ message)

variable {occurrence occurrence' : Occurrence}

private theorem describe_eq (occurrence : Occurrence) :
    occurrence.describe = occurrence.kind.heading ++ occurrence.body := by
  cases occurrence with
  | commence | finish | remove => rfl
  | terminal | declare | complaint =>
      simp only [describe, kind, EventKind.heading, body, Kind.closing, VarType.closing,
        Variable.label, String.append_assoc]
      rfl

private theorem kind_body_inj (h : occurrence.describe = occurrence'.describe) :
    occurrence.kind = occurrence'.kind ∧ occurrence.body = occurrence'.body := by
  have hline := congrArg String.toList h
  simp only [describe_eq, String.toList_append] at hline
  obtain ⟨hkind, hbody⟩ := Text.heading_append_inj EventKind.eq_of_heading_prefix hline
  exact ⟨hkind, String.toList_inj.mp hbody⟩

private theorem head?_describe (occurrence : Occurrence) :
    occurrence.describe.toList.head? ≠ some ' ' := by
  rw [describe_eq, String.toList_append,
    List.head?_append_of_ne_nil _ occurrence.kind.heading_ne_nil]
  exact occurrence.kind.head?_heading

private theorem agrees_of_describe_eq (h : occurrence.describe = occurrence'.describe) :
    occurrence.Agrees occurrence' := by
  obtain ⟨hkind, hbody⟩ := kind_body_inj h
  have hchars := congrArg String.toList hbody
  cases occurrence <;> cases occurrence' <;> try cases hkind
  case commence.commence rule rule' =>
    have hrule : rule = rule' := hbody
    exact hrule ▸ .commence rule
  case finish.finish rule rule' =>
    have hrule : rule = rule' := hbody
    exact hrule ▸ .finish rule
  case terminal.terminal token token' =>
    simp only [body, String.toList_append] at hchars
    obtain ⟨htext, hkind⟩ := Text.append_mark_inj Kind.eq_of_closing_suffix hchars
    exact .terminal hkind (String.toList_inj.mp htext)
  case declare.declare v v' =>
    simp only [body, String.toList_append] at hchars
    obtain ⟨hidentifier, htype⟩ := Text.append_mark_inj VarType.eq_of_closing_suffix hchars
    exact .declare (String.toList_inj.mp hidentifier) htype
  case remove.remove v v' => exact .remove hbody
  case complaint.complaint message line message' line' =>
    simp only [body, String.toList_append] at hchars
    have hnumber : ∀ n : Int, ':' ∉ (toString n).toList := Text.notMem_toList_int (by decide)
    obtain ⟨hline, hrest⟩ :=
      Text.append_separator_inj (hnumber line) (hnumber line') hchars
    have hmessage : message = message' := String.toList_inj.mp (List.cons.inj hrest).2
    rw [hmessage, Text.toString_int_inj (String.toList_inj.mp hline)]
    exact .complaint message' line'

private theorem unbroken_describe (h : '\n' ∉ occurrence.text.toList) :
    '\n' ∉ occurrence.describe.toList := by
  rw [describe_eq, Text.notMem_append]
  refine ⟨occurrence.kind.unbroken_heading, ?_⟩
  cases occurrence with
  | commence | finish | remove => exact h
  | terminal token =>
      simp only [body, text, Kind.closing, Text.notMem_append] at h ⊢
      exact ⟨h, ⟨by decide +kernel, token.kind.unbroken_display⟩, by decide +kernel⟩
  | declare v =>
      simp only [body, text, VarType.closing, Text.notMem_append] at h ⊢
      exact ⟨h, by decide +kernel, v.type.unbroken_name⟩
  | complaint message line =>
      simp only [body, text, Text.notMem_append] at h ⊢
      exact ⟨Text.notMem_toList_int (by decide) line, by decide +kernel, h⟩

end Occurrence

namespace Event

variable {event event' : Event}

private theorem toList_render (event : Event) : event.render.toList =
    List.replicate (2 * event.depth) ' ' ++ event.occurrence.describe.toList := by
  rw [render, indent, String.toList_append, String.toList_ofList]

private theorem agrees_of_render_eq (h : event.render = event'.render) : event.Agrees event' := by
  have hline := congrArg String.toList h
  rw [toList_render, toList_render] at hline
  obtain ⟨hindent, hdescribe⟩ := Text.indentation_inj (Occurrence.head?_describe _)
    (Occurrence.head?_describe _) hline
  exact ⟨by omega, Occurrence.agrees_of_describe_eq (String.toList_inj.mp hdescribe)⟩

private theorem unbroken_render (h : '\n' ∉ event.occurrence.text.toList) :
    '\n' ∉ event.render.toList := by
  rw [toList_render, List.mem_append, not_or]
  refine ⟨fun hmem => ?_, Occurrence.unbroken_describe h⟩
  cases List.eq_of_mem_replicate hmem

private theorem toList_render_ne_nil (event : Event) : event.render.toList ≠ [] := by
  rw [toList_render, Occurrence.describe_eq, String.toList_append]
  exact List.append_ne_nil_of_right_ne_nil _
    (List.append_ne_nil_of_left_ne_nil event.occurrence.kind.heading_ne_nil _)

end Event

namespace Journal

variable {journal journal' : Journal}

/-- No text of an event breaks a line. -/
def Unbroken (journal : Journal) : Prop :=
  ∀ event ∈ journal.events.toList, '\n' ∉ event.occurrence.text.toList

private theorem lines_render (h : journal.Unbroken) :
    (journal.render.toList.splitOn '\n').filter (· ≠ []) =
      journal.events.toList.map fun event => event.render.toList := by
  rw [render, String.toList_intercalate, List.map_map]
  apply Text.filter_splitOn_intercalate
  intro line hline
  obtain ⟨event, hevent, rfl⟩ := List.mem_map.mp hline
  exact ⟨event.toList_render_ne_nil, Event.unbroken_render (h event hevent)⟩

/-- Traces that are rendered alike tell of the same events. -/
theorem forall₂_agrees_of_render_eq (hunbroken : journal.Unbroken) (hunbroken' : journal'.Unbroken)
    (h : journal.render = journal'.render) :
    List.Forall₂ Event.Agrees journal.events.toList journal'.events.toList := by
  have hlines := lines_render hunbroken
  rw [h, lines_render hunbroken', ← List.forall₂_eq_eq_eq, List.forall₂_map_left_iff,
    List.forall₂_map_right_iff] at hlines
  exact hlines.flip.imp fun _ _ hline => Event.agrees_of_render_eq (String.toList_inj.mp hline).symm

end Journal

end OnePass
