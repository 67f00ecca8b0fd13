import OnePass.Proofs.Lexing.Classes
import OnePass.Token.Trivia
/-!
# Blanks separate tokens

A blank behind a token is looked at and not taken up: the token is scanned as if the text ended
there. A string that is not closed ends at a line feed only, and so does a comment.
-/
namespace OnePass

namespace Trivia

variable {inComment : Bool} {cs trivia after : List Char} {c : Char}

private theorem startsComment_append (c : Char) (cs more : List Char) :
    startsComment (c :: cs ++ '\n' :: more) = startsComment (c :: cs) := by
  cases cs with
  | nil => simp [startsComment]
  | cons d cs => by_cases hc : c = '-' <;> by_cases hd : d = '-' <;> simp [startsComment, hc, hd]

theorem split_of_no_trivia (hblank : Text.isBlank c = false)
    (hcomment : startsComment (c :: cs) = false) : split false (c :: cs) = ([], c :: cs) := by
  simp [split, hblank, hcomment]

theorem split_append_of_cons (h : split inComment cs = (trivia, c :: after)) (more : List Char) :
    split inComment (cs ++ '\n' :: more) = (trivia, c :: after ++ '\n' :: more) := by
  induction cs generalizing inComment trivia with
  | nil => simp [split] at h
  | cons d cs ih =>
      have hcomment := startsComment_append d cs more
      rw [List.cons_append] at hcomment ⊢
      rw [split] at h ⊢
      rw [hcomment]
      by_cases htrivia : (inComment || Text.isBlank d || startsComment (d :: cs)) = true
      · rw [if_pos htrivia] at h ⊢
        obtain ⟨rfl, hafter⟩ := Prod.mk.inj h
        rw [ih (Prod.ext rfl hafter)]
      · rw [if_neg htrivia] at h ⊢
        cases h
        rfl

/-- Where all is trivia up to a line feed, it goes on behind the line feed outside a comment. -/
theorem split_append_of_nil (h : (split inComment cs).2 = []) (more : List Char) :
    split inComment (cs ++ '\n' :: more) =
      (cs ++ '\n' :: (split false more).1, (split false more).2) := by
  induction cs generalizing inComment with
  | nil =>
      rw [List.nil_append, split]
      cases inComment <;> simp
  | cons d cs ih =>
      have hcomment := startsComment_append d cs more
      rw [List.cons_append] at hcomment ⊢
      rw [split] at h ⊢
      rw [hcomment]
      by_cases htrivia : (inComment || Text.isBlank d || startsComment (d :: cs)) = true
      · rw [if_pos htrivia] at h ⊢
        rw [ih h]
        rfl
      · rw [if_neg htrivia] at h
        cases h

end Trivia

namespace Scan

/-- The same scan in a text that goes on for longer. -/
def extend (more : List Char) : Scan → Scan
  | .finished => .finished
  | .token kind text taken rest => .token kind text taken (rest ++ more)
  | .unterminated taken rest => .unterminated taken (rest ++ more)

@[simp] theorem taken_extend (more : List Char) (scan : Scan) :
    (scan.extend more).taken = scan.taken := by
  cases scan <;> rfl

theorem rest_extend (more : List Char) {scan : Scan} (h : scan ≠ .finished) :
    (scan.extend more).rest = scan.rest ++ more := by
  cases scan with
  | finished => exact absurd rfl h
  | token kind text taken rest => rfl
  | unterminated taken rest => rfl

section TakeWhile

variable {p : Char → Bool} {b : Char} {cs : List Char}

private theorem takeWhile_append_cons (hb : cs.dropWhile p = [] → p b = false) (more : List Char) :
    (cs ++ b :: more).takeWhile p = cs.takeWhile p := by
  induction cs with
  | nil => simp [hb rfl]
  | cons c cs ih =>
      rw [List.dropWhile_cons] at hb
      rw [List.cons_append, List.takeWhile_cons, List.takeWhile_cons]
      by_cases hc : p c = true
      · rw [if_pos hc] at hb
        rw [if_pos hc, if_pos hc, ih hb]
      · rw [if_neg hc, if_neg hc]

private theorem dropWhile_append_cons (hb : cs.dropWhile p = [] → p b = false) (more : List Char) :
    (cs ++ b :: more).dropWhile p = cs.dropWhile p ++ b :: more := by
  induction cs with
  | nil => simp [hb rfl]
  | cons c cs ih =>
      rw [List.dropWhile_cons] at hb
      rw [List.cons_append, List.dropWhile_cons, List.dropWhile_cons]
      by_cases hc : p c = true
      · rw [if_pos hc] at hb
        rw [if_pos hc, if_pos hc, ih hb]
      · rw [if_neg hc, if_neg hc, List.cons_append]

end TakeWhile

variable {b : Char}

private theorem word_append (hb : Text.isBlank b = true) (cs more : List Char) :
    word (cs ++ b :: more) = (word cs).extend (b :: more) := by
  have hname := Text.isNamePart_of_isBlank hb
  have htake := takeWhile_append_cons (fun _ : cs.dropWhile isNamePart = [] => hname) more
  have hdrop := dropWhile_append_cons (fun _ : cs.dropWhile isNamePart = [] => hname) more
  simp only [word, htake, hdrop, extend]

private theorem splitFraction_cons_of_ne {d : Char} (hd : d ≠ '.') (cs : List Char) :
    splitFraction (d :: cs) = ([], d :: cs) := by
  unfold splitFraction
  split
  next hpoint => exact absurd (List.cons.inj hpoint).1 hd
  next => rfl

private theorem splitFraction_append (hb : Text.isBlank b = true) (cs more : List Char) :
    splitFraction (cs ++ b :: more) =
      ((splitFraction cs).1, (splitFraction cs).2 ++ b :: more) := by
  have hdigit := Text.isDigit_of_isBlank hb
  have hpoint : b ≠ '.' := by
    rintro rfl
    cases hb
  cases cs with
  | nil => exact splitFraction_cons_of_ne hpoint more
  | cons d cs =>
      by_cases hd : d = '.'
      · subst hd
        cases cs with
        | nil => simp [splitFraction, hdigit]
        | cons c cs =>
            by_cases hc : Text.isDigit c = true
            · have hend : (c :: cs).dropWhile Text.isDigit = [] → Text.isDigit b = false :=
                fun _ => hdigit
              have htake := takeWhile_append_cons hend more
              have hdrop := dropWhile_append_cons hend more
              rw [List.cons_append] at htake hdrop
              simp only [splitFraction, List.cons_append, htake, hdrop, if_pos hc]
            · simp [splitFraction, hc]
      · rw [List.cons_append, splitFraction_cons_of_ne hd, splitFraction_cons_of_ne hd]
        rfl

private theorem number_append (hb : Text.isBlank b = true) (cs more : List Char) :
    number (cs ++ b :: more) = (number cs).extend (b :: more) := by
  have hdigit := Text.isDigit_of_isBlank hb
  have htake := takeWhile_append_cons (fun _ : cs.dropWhile Text.isDigit = [] => hdigit) more
  have hdrop := dropWhile_append_cons (fun _ : cs.dropWhile Text.isDigit = [] => hdigit) more
  simp only [number, htake, hdrop, splitFraction_append hb, extend]

private theorem string_append {cs : List Char} (hend : cs.dropWhile inString = [] → b = '\n')
    (more : List Char) :
    string (cs ++ b :: more) = (string cs).extend (b :: more) := by
  have hstring : cs.dropWhile inString = [] → inString b = false := by
    intro hopen
    rw [hend hopen]
    rfl
  have htake := takeWhile_append_cons hstring more
  have hdrop := dropWhile_append_cons hstring more
  unfold string
  simp only [htake, hdrop]
  cases hrest : cs.dropWhile inString with
  | nil =>
      have hquote : b ≠ quote := by
        rw [hend hrest]
        decide
      simp [hquote, extend]
  | cons c rest =>
      by_cases hc : c = quote
      · simp [hc, extend]
      · simp [hc, extend]

private theorem not_isBlank_of_mem_symbols :
    ∀ entry ∈ Kind.symbols, entry.1.toList.all (!Text.isBlank ·) = true := by
  decide +kernel

private theorem symbol?_eq_none {text : List Char} (hb : Text.isBlank b = true) (hmem : b ∈ text) :
    Kind.symbol? (String.ofList text) = none := by
  unfold Kind.symbol?
  rw [List.lookup_eq_none_iff]
  intro entry hentry
  rw [bne_iff_ne]
  intro hspelling
  have hnot := not_isBlank_of_mem_symbols entry hentry
  rw [← hspelling, String.toList_ofList, List.all_eq_true] at hnot
  simpa [hb] using hnot b hmem

theorem symbol?_eq (cs : List Char) :
    symbol? cs = match Kind.symbol? (String.ofList (cs.take 2)) with
      | some kind => some (.token kind (cs.take 2) (cs.take 2) (cs.drop 2))
      | none => (Kind.symbol? (String.ofList (cs.take 1))).map fun kind =>
        .token kind (cs.take 1) (cs.take 1) (cs.drop 1) := by
  unfold symbol?
  rw [List.findSome?_cons]
  cases Kind.symbol? (String.ofList (cs.take 2)) with
  | some kind => rfl
  | none =>
      rw [Option.map_none, List.findSome?_cons, List.findSome?_nil]
      cases Kind.symbol? (String.ofList (cs.take 1)) <;> rfl

private theorem symbol?_append (hb : Text.isBlank b = true) (c : Char) (cs more : List Char) :
    symbol? (c :: cs ++ b :: more) = (symbol? (c :: cs)).map (extend (b :: more)) := by
  rw [symbol?_eq, symbol?_eq]
  cases cs with
  | nil =>
      have hnone : Kind.symbol? (String.ofList [c, b]) = none := symbol?_eq_none hb (by simp)
      simp only [List.cons_append, List.nil_append, List.take, List.drop, hnone]
      cases Kind.symbol? (String.ofList [c]) <;> rfl
  | cons d cs =>
      simp only [List.cons_append, List.take, List.drop]
      cases Kind.symbol? (String.ofList [c, d]) with
      | some kind => rfl
      | none => cases Kind.symbol? (String.ofList [c]) <;> rfl

theorem front_append (hb : Text.isBlank b = true) {c : Char} {cs : List Char}
    (hend : ∀ taken rest, front (c :: cs) = .unterminated taken rest → b = '\n')
    (more : List Char) :
    front (c :: cs ++ b :: more) = (front (c :: cs)).extend (b :: more) := by
  simp only [front, List.cons_append] at hend ⊢
  by_cases hletter : Text.isLetter c = true
  · rw [if_pos hletter, if_pos hletter]
    exact word_append hb (c :: cs) more
  rw [if_neg hletter] at hend ⊢
  rw [if_neg hletter]
  by_cases hdigit : Text.isDigit c = true
  · rw [if_pos hdigit, if_pos hdigit]
    exact number_append hb (c :: cs) more
  rw [if_neg hdigit] at hend ⊢
  rw [if_neg hdigit]
  by_cases hquote : c = quote
  · rw [if_pos hquote] at hend ⊢
    rw [if_pos hquote]
    apply string_append
    intro hopen
    apply hend (quote :: cs.takeWhile inString) []
    simp only [string, hopen]
  · rw [if_neg hquote, if_neg hquote]
    have hsymbol := symbol?_append hb c cs more
    rw [List.cons_append] at hsymbol
    rw [hsymbol]
    cases symbol? (c :: cs) <;> rfl

end Scan

end OnePass
