import OnePass.Proofs.Lexing.Layout
import OnePass.Proofs.Lexing.Steps
/-!
# What stands at the front of a text

Trivia and tokens are told from the text alone, without a word on how it is scanned: the trivia in
front is as long as it can be, and so is the token behind it. A string is the exception, since it
ends at the first quote. Main statements: the trivia that is split off and the scan behind it are
the ones so described, and no others are.
-/
namespace OnePass

namespace Trivia

/-- The first text is made of blanks and comments, where the second one follows it. A comment goes
on up to a line feed or the end of the text. -/
inductive Precedes : (trivia after : List Char) → Prop where
  | nothing (after : List Char) : Precedes [] after
  | blank {c : Char} {trivia after : List Char} (hc : Text.isBlank c = true)
    (hrest : Precedes trivia after) : Precedes (c :: trivia) after
  | comment (remark : Remark) {trivia after : List Char}
    (hend : ∀ c ∈ (trivia ++ after).head?, c = '\n') (hrest : Precedes trivia after) :
    Precedes (remark.text ++ trivia) after

/-- The trivia in front of the second text is all that there is. -/
structure Longest (trivia after : List Char) : Prop where
  precedes : Precedes trivia after
  longest : ∀ trivia' after', Precedes trivia' after' → trivia' ++ after' = trivia ++ after →
    trivia'.length ≤ trivia.length

theorem split_cons_of_isBlank {c : Char} (hc : Text.isBlank c = true) (cs : List Char) :
    split false (c :: cs) = (c :: (split false cs).1, (split false cs).2) := by
  simp [split, hc]

theorem split_remark_append (remark : Remark) {more : List Char}
    (hend : ∀ c ∈ more.head?, c = '\n') :
    split false (remark.text ++ more) =
      (remark.text ++ (split false more).1, (split false more).2) := by
  have hself := split_remark remark
  cases more with
  | nil => simpa [split] using hself
  | cons c more =>
      have hc : c = '\n' := hend c rfl
      subst hc
      have hnil : (split false remark.text).2 = [] := by rw [hself]
      rw [split_append_of_nil hnil, split_cons_of_isBlank Text.isBlank_newline]

private theorem Precedes.split_append {trivia after : List Char} (h : Precedes trivia after) :
    split false (trivia ++ after) = (trivia ++ (split false after).1, (split false after).2) := by
  induction h with
  | nothing after => rfl
  | blank hc _ ih => rw [List.cons_append, split_cons_of_isBlank hc, ih, List.cons_append]
  | comment remark hend _ ih =>
      rw [List.append_assoc, split_remark_append remark hend, ih, List.append_assoc]

private theorem head_dropWhile_line (cs : List Char) :
    ∀ c ∈ (cs.dropWhile (· != '\n')).head?, c = '\n' := by
  intro c hc
  have hnot := List.head?_dropWhile_not (· != '\n') cs
  rw [Option.mem_def.mp hc] at hnot
  simpa using hnot

private theorem precedes_split (cs : List Char) :
    Precedes (split false cs).1 (split false cs).2 := by
  induction hlength : cs.length using Nat.strongRecOn generalizing cs with
  | ind length ih =>
      cases cs with
      | nil => exact .nothing []
      | cons c cs =>
          by_cases hblank : Text.isBlank c = true
          · rw [split_cons_of_isBlank hblank]
            have hshorter : cs.length < length := by simp [← hlength]
            exact .blank hblank (ih _ hshorter cs rfl)
          by_cases hcomment : startsComment (c :: cs) = true
          · -- The two dashes are taken up, and the rest of the line with them.
            unfold startsComment at hcomment
            split at hcomment
            next _ rest hdashes =>
              rw [hdashes] at hlength ⊢
              let line := rest.takeWhile (· != '\n')
              let behind := rest.dropWhile (· != '\n')
              have hunbroken : '\n' ∉ line := by
                intro hmem
                simpa using List.mem_takeWhile_imp hmem
              have hsplit := split_remark_append ⟨line, hunbroken⟩ (head_dropWhile_line rest)
              have htext : Remark.text ⟨line, hunbroken⟩ ++ behind = '-' :: '-' :: rest := by
                simp [Remark.text, line, behind]
              rw [htext] at hsplit
              have hshorter : behind.length < length := by
                have hle := (List.dropWhile_suffix (l := rest) (· != '\n')).length_le
                simp only [List.length_cons] at hlength
                change (rest.dropWhile (· != '\n')).length < length
                omega
              have hbehind := ih _ hshorter behind rfl
              rw [hsplit]
              apply Precedes.comment _ _ hbehind
              rw [append_split]
              exact head_dropWhile_line rest
            next => cases hcomment
          · have hnone := split_of_no_trivia (Bool.eq_false_iff.mpr hblank)
              (Bool.eq_false_iff.mpr hcomment)
            rw [hnone]
            exact .nothing _

private theorem longest_split (cs : List Char) : Longest (split false cs).1 (split false cs).2 := by
  constructor
  · exact precedes_split cs
  · intro trivia' after' hprecedes hwhole
    have hsplit := hprecedes.split_append
    rw [hwhole, append_split] at hsplit
    have hfront := congrArg (List.length ∘ Prod.fst) hsplit
    simp only [Function.comp_apply, List.length_append] at hfront
    omega

theorem Longest.split_eq {trivia after : List Char} (h : Longest trivia after) :
    split false (trivia ++ after) = (trivia, after) := by
  have hskipped := longest_split (trivia ++ after)
  have hwhole := append_split false (trivia ++ after)
  have hle := h.longest _ _ hskipped.precedes hwhole
  have hge := hskipped.longest _ _ h.precedes hwhole.symm
  obtain ⟨hfront, hback⟩ := List.append_inj hwhole (Nat.le_antisymm hle hge)
  exact Prod.ext hfront hback

end Trivia

/-- A keyword, a symbol, a name or a number. -/
def Lexeme.isPlain : Lexeme → Bool
  | .fixed _ _ => true
  | .name _ _ _ _ _ => true
  | .number _ _ => true
  | .string _ _ => false
  | .illegal _ _ _ _ _ _ => false

namespace Scan

/-- What stands at the front of a text that does not begin with trivia. A string ends at the first
quote, if that comes before the end of the line. Otherwise the longest keyword, symbol, name or
number is there, or a character that none of them begins with. -/
inductive Matches (cs : List Char) : (scan : Scan) → Prop where
  | finished (hcs : cs = []) : Matches cs .finished
  | closed {body rest : List Char} (hcs : cs = quote :: body ++ quote :: rest)
    (hbody : ∀ c ∈ body, inString c = true) :
    Matches cs (.token .stringConstant body (quote :: body ++ [quote]) rest)
  | unclosed {body rest : List Char} (hcs : cs = quote :: body ++ rest)
    (hbody : ∀ c ∈ body, inString c = true) (hrest : ∀ c ∈ rest.head?, c = '\n') :
    Matches cs (.unterminated (quote :: body) rest)
  | longest {lexeme : Lexeme} {rest : List Char} (hcs : cs = lexeme.spelling ++ rest)
    (hplain : lexeme.isPlain = true)
    (hlongest : ∀ (other : Lexeme) back, other.isPlain = true → cs = other.spelling ++ back →
      other.spelling.length ≤ lexeme.spelling.length) :
    Matches cs (.token lexeme.kind lexeme.text lexeme.spelling rest)
  | illegal {c : Char} {rest : List Char} (hcs : cs = c :: rest) (hquote : c ≠ quote)
    (hnone : ∀ (other : Lexeme) back, other.isPlain = true → cs ≠ other.spelling ++ back) :
    Matches cs (.token .illegalSymbol [c] [c] rest)

theorem front_of_isLetter {c : Char} (hletter : Text.isLetter c = true) (cs : List Char) :
    front (c :: cs) = word (c :: cs) := by
  simp [front, hletter]

theorem front_of_isDigit {c : Char} (hdigit : Text.isDigit c = true) (cs : List Char) :
    front (c :: cs) = number (c :: cs) := by
  simp [front, hdigit, Text.isLetter_of_isDigit hdigit]

theorem front_quote (cs : List Char) : front (quote :: cs) = string cs := by
  have hletter : Text.isLetter quote = false := by decide
  have hdigit : Text.isDigit quote = false := by decide
  simp [front, hletter, hdigit]

theorem front_of_other {c : Char} (hletter : Text.isLetter c = false)
    (hdigit : Text.isDigit c = false) (hquote : c ≠ quote) (cs : List Char) :
    front (c :: cs) = (symbol? (c :: cs)).getD (.token .illegalSymbol [c] [c] cs) := by
  simp [front, hletter, hdigit, hquote]

/-! ### The scan takes up all of a lexeme -/

private theorem letters_of_mem_keywords : ∀ entry ∈ Kind.keywords,
    (entry.1.toList.all Text.isLetter && entry.1.toList.head?.any Text.isLetter) = true := by
  decide +kernel

private theorem shape_of_mem_symbols : ∀ entry ∈ Kind.symbols,
    (entry.1.toList.head?.any (fun c => !Text.isLetter c && !Text.isDigit c && c != quote) &&
      entry.1.toList.length ≤ 2 && Kind.symbol? entry.1 == some entry.2) = true := by
  decide +kernel

private theorem kind_of_mem_tables : ∀ entry ∈ Kind.keywords ++ Kind.symbols,
    entry.2 ∉ [Kind.stringConstant, .illegalSymbol] := by
  decide

/-- The scan is a token that takes up so many characters or more, and is neither a string nor an
illegal symbol. -/
def Covers (size : Nat) (scan : Scan) : Prop :=
  ∃ kind text taken rest, scan = .token kind text taken rest ∧
    kind ∉ [Kind.stringConstant, .illegalSymbol] ∧ size ≤ taken.length

private theorem covers_word {name : List Char} (hname : ∀ c ∈ name, isNamePart c = true)
    (back : List Char) : (word (name ++ back)).Covers name.length := by
  have htaken : (name ++ back).takeWhile isNamePart = name ++ back.takeWhile isNamePart :=
    List.takeWhile_append_of_pos hname
  refine ⟨_, _, _, _, rfl, ?_, ?_⟩
  · cases hkeyword : Kind.keyword? (String.ofList ((name ++ back).takeWhile isNamePart)) with
    | none => simp
    | some kind =>
        have hmem := Kind.mem_of_lookup hkeyword
        exact kind_of_mem_tables _ (List.mem_append_left _ hmem)
  · rw [htaken, List.length_append]
    omega

private theorem number_eq (cs : List Char) :
    number cs = .token .numberConstant
      (cs.takeWhile Text.isDigit ++ (splitFraction (cs.dropWhile Text.isDigit)).1)
      (cs.takeWhile Text.isDigit ++ (splitFraction (cs.dropWhile Text.isDigit)).1)
      (splitFraction (cs.dropWhile Text.isDigit)).2 := rfl

private theorem covers_number (whole : Digits) (fraction : Option Digits) (back : List Char) :
    (number (whole.text ++ Digits.fraction fraction ++ back)).Covers
      (whole.text ++ Digits.fraction fraction).length := by
  have hwhole : ∀ c ∈ whole.text, Text.isDigit c = true := whole.digits
  rw [number_eq]
  refine ⟨_, _, _, _, rfl, by simp, ?_⟩
  rw [List.append_assoc, List.takeWhile_append_of_pos hwhole, List.dropWhile_append_of_pos hwhole]
  cases fraction with
  | none =>
      simp only [Digits.fraction, List.length_append, List.length_nil]
      omega
  | some digits =>
      have hpoint : Text.isDigit '.' = false := by decide
      have hfirst : Text.isDigit digits.first = true := digits.digits _ List.mem_cons_self
      have hbehind : (Digits.fraction (some digits) ++ back).dropWhile Text.isDigit =
          '.' :: (digits.text ++ back) := by
        simp [Digits.fraction, hpoint]
      have hsplit : (splitFraction ('.' :: (digits.text ++ back))).1 =
          '.' :: (digits.text ++ back).takeWhile Text.isDigit := by
        simp [splitFraction, Digits.text, hfirst]
      have hdigits : (digits.text ++ back).takeWhile Text.isDigit =
          digits.text ++ back.takeWhile Text.isDigit :=
        List.takeWhile_append_of_pos digits.digits
      rw [hbehind, hsplit, hdigits]
      simp only [Digits.fraction, Digits.text, List.length_append, List.length_cons]
      omega

private theorem covers_symbol {entry : String × Kind} (hentry : entry ∈ Kind.symbols)
    (back : List Char) : (front (entry.1.toList ++ back)).Covers entry.1.toList.length := by
  have hshape := shape_of_mem_symbols entry hentry
  simp only [Bool.and_eq_true, decide_eq_true_eq, beq_iff_eq] at hshape
  obtain ⟨⟨hhead, hshort⟩, hself⟩ := hshape
  have hkind : ∀ {spelling : String} {kind : Kind}, Kind.symbol? spelling = some kind →
      kind ∉ [Kind.stringConstant, .illegalSymbol] := by
    intro spelling kind hsymbol
    exact kind_of_mem_tables _ (List.mem_append_right _ (Kind.mem_of_lookup hsymbol))
  obtain ⟨spelling, kind⟩ := entry
  simp only at hhead hshort hself ⊢
  rw [← String.ofList_toList (s := spelling)] at hself
  generalize spelling.toList = cs at hhead hshort hself ⊢
  match cs, hshort with
  | [], _ => cases hhead
  | [c], _ =>
      simp only [List.head?_cons, Option.any_some, Bool.and_eq_true, Bool.not_eq_true',
        bne_iff_ne] at hhead
      rw [List.singleton_append, front_of_other hhead.1.1 hhead.1.2 hhead.2, symbol?_eq]
      cases hlong : Kind.symbol? (String.ofList ((c :: back).take 2)) with
      | some longer => exact ⟨_, _, _, _, rfl, hkind hlong, by simp⟩
      | none =>
          simp only [List.take, hself, Option.map_some, Option.getD_some]
          exact ⟨_, _, _, _, rfl, hkind hself, by simp⟩
  | [c, d], _ =>
      simp only [List.head?_cons, Option.any_some, Bool.and_eq_true, Bool.not_eq_true',
        bne_iff_ne] at hhead
      rw [List.cons_append, front_of_other hhead.1.1 hhead.1.2 hhead.2, symbol?_eq]
      simp only [List.cons_append, List.nil_append, List.take, hself, Option.getD_some]
      exact ⟨_, _, _, _, rfl, hkind hself, by simp⟩

end Scan

namespace Lexeme

private theorem covers_spelling {lexeme : Lexeme} (hplain : lexeme.isPlain = true)
    (back : List Char) :
    (Scan.front (lexeme.spelling ++ back)).Covers lexeme.spelling.length := by
  cases lexeme with
  | fixed entry hentry =>
      rcases List.mem_append.mp hentry with hkeyword | hsymbol
      · have hletters := Scan.letters_of_mem_keywords entry hkeyword
        simp only [Bool.and_eq_true, List.all_eq_true] at hletters
        have hparts : ∀ c ∈ entry.1.toList, Scan.isNamePart c = true := by
          intro c hc
          simp [Scan.isNamePart, hletters.1 c hc]
        have hcovers := Scan.covers_word hparts back
        change (Scan.front (entry.1.toList ++ back)).Covers entry.1.toList.length
        cases hspelling : entry.1.toList with
        | nil =>
            rw [hspelling] at hletters
            cases hletters.2
        | cons c cs =>
            rw [hspelling] at hletters hcovers
            have hletter : Text.isLetter c = true := hletters.2
            rw [List.cons_append] at hcovers ⊢
            rwa [Scan.front_of_isLetter hletter]
      · exact Scan.covers_symbol hsymbol back
  | name first others hfirst hothers hword =>
      have hparts : ∀ c ∈ first :: others, Scan.isNamePart c = true := by
        simpa [Scan.isNamePart, hfirst] using hothers
      have hcovers := Scan.covers_word hparts back
      rw [List.cons_append] at hcovers
      change (Scan.front (first :: (others ++ back))).Covers (first :: others).length
      rwa [Scan.front_of_isLetter hfirst]
  | number whole fraction =>
      have hfirst : Text.isDigit whole.first = true := whole.digits _ List.mem_cons_self
      have hfront := Scan.front_of_isDigit hfirst (whole.others ++ Digits.fraction fraction ++ back)
      change (Scan.front (whole.first :: (whole.others ++ Digits.fraction fraction ++ back))).Covers
        (whole.text ++ Digits.fraction fraction).length
      rw [hfront]
      exact Scan.covers_number whole fraction back
  | string | illegal => cases hplain

end Lexeme

namespace Scan

variable {c : Char} {cs text taken rest : List Char} {kind : Kind}

private theorem length_spelling_le {other : Lexeme} {back : List Char}
    (hplain : other.isPlain = true)
    (hcs : cs = other.spelling ++ back) (hfront : front cs = .token kind text taken rest) :
    kind ∉ [Kind.stringConstant, .illegalSymbol] ∧ other.spelling.length ≤ taken.length := by
  obtain ⟨kind', text', taken', rest', hother, hkind, hlength⟩ := Lexeme.covers_spelling hplain back
  rw [← hcs, hfront] at hother
  cases hother
  exact ⟨hkind, hlength⟩

/-! ### A token that is no string is a lexeme -/

private theorem exists_lexeme_word (hletter : Text.isLetter c = true) (cs : List Char) :
    ∃ (lexeme : Lexeme) (rest : List Char), lexeme.isPlain = true ∧
      word (c :: cs) = .token lexeme.kind lexeme.text lexeme.spelling rest := by
  have hname : (c :: cs).takeWhile isNamePart = c :: cs.takeWhile isNamePart := by
    simp [isNamePart, hletter]
  have hothers : ∀ d ∈ cs.takeWhile isNamePart, isNamePart d = true :=
    fun d hd => List.mem_takeWhile_imp hd
  cases hkeyword : Kind.keyword? (String.ofList (c :: cs.takeWhile isNamePart)) with
  | none =>
      refine ⟨.name c (cs.takeWhile isNamePart) hletter hothers hkeyword,
        (c :: cs).dropWhile isNamePart, rfl, ?_⟩
      simp only [word, hname, hkeyword, Option.getD_none]
      rfl
  | some kind =>
      have hentry := List.mem_append_left Kind.symbols (Kind.mem_of_lookup hkeyword)
      refine ⟨.fixed _ hentry, (c :: cs).dropWhile isNamePart, rfl, ?_⟩
      simp only [word, hname, hkeyword, Option.getD_some, Lexeme.spelling, Lexeme.text,
        String.toList_ofList]
      rfl

private theorem exists_fraction (cs : List Char) :
    ∃ fraction : Option Digits, (splitFraction cs).1 = Digits.fraction fraction := by
  unfold splitFraction
  split
  next d rest =>
    by_cases hdigit : Text.isDigit d = true
    · have hdigits : ∀ e ∈ d :: rest.takeWhile Text.isDigit, Text.isDigit e = true := by
        intro e he
        rcases List.mem_cons.mp he with rfl | he
        · exact hdigit
        · exact List.mem_takeWhile_imp he
      refine ⟨some ⟨d, rest.takeWhile Text.isDigit, hdigits⟩, ?_⟩
      simp [hdigit, Digits.fraction, Digits.text]
    · exact ⟨none, by simp [hdigit, Digits.fraction]⟩
  next => exact ⟨none, rfl⟩

private theorem exists_lexeme_number (hdigit : Text.isDigit c = true) (cs : List Char) :
    ∃ (lexeme : Lexeme) (rest : List Char), lexeme.isPlain = true ∧
      number (c :: cs) = .token lexeme.kind lexeme.text lexeme.spelling rest := by
  have hwhole : (c :: cs).takeWhile Text.isDigit = c :: cs.takeWhile Text.isDigit := by
    simp [hdigit]
  have hdigits : ∀ d ∈ c :: cs.takeWhile Text.isDigit, Text.isDigit d = true := by
    rw [← hwhole]
    exact fun d hd => List.mem_takeWhile_imp hd
  obtain ⟨fraction, hfraction⟩ := exists_fraction ((c :: cs).dropWhile Text.isDigit)
  refine ⟨.number ⟨c, cs.takeWhile Text.isDigit, hdigits⟩ fraction,
    (splitFraction ((c :: cs).dropWhile Text.isDigit)).2, rfl, ?_⟩
  rw [number_eq, hwhole, hfraction]
  rfl

theorem exists_lexeme_symbol {scan : Scan} (hsymbol : symbol? cs = some scan) :
    ∃ (lexeme : Lexeme) (rest : List Char), lexeme.isPlain = true ∧
      scan = .token lexeme.kind lexeme.text lexeme.spelling rest := by
  obtain ⟨size, -, hsize⟩ := List.exists_of_findSome?_eq_some hsymbol
  obtain ⟨kind, hkind, rfl⟩ := Option.map_eq_some_iff.mp hsize
  have hentry := List.mem_append_right Kind.keywords (Kind.mem_of_lookup hkind)
  refine ⟨.fixed _ hentry, cs.drop size, rfl, ?_⟩
  simp [Lexeme.spelling, Lexeme.text, Lexeme.kind]

private theorem front_cases (hquote : c ≠ quote) (cs : List Char) :
    (∃ (lexeme : Lexeme) (rest : List Char), lexeme.isPlain = true ∧
      front (c :: cs) = .token lexeme.kind lexeme.text lexeme.spelling rest) ∨
      front (c :: cs) = .token .illegalSymbol [c] [c] cs := by
  by_cases hletter : Text.isLetter c = true
  · rw [front_of_isLetter hletter]
    exact .inl (exists_lexeme_word hletter cs)
  by_cases hdigit : Text.isDigit c = true
  · rw [front_of_isDigit hdigit]
    exact .inl (exists_lexeme_number hdigit cs)
  rw [front_of_other (Bool.eq_false_iff.mpr hletter) (Bool.eq_false_iff.mpr hdigit) hquote]
  cases hsymbol : symbol? (c :: cs) with
  | none => exact .inr rfl
  | some scan =>
      obtain ⟨lexeme, rest, hplain, rfl⟩ := exists_lexeme_symbol hsymbol
      exact .inl ⟨lexeme, rest, hplain, rfl⟩

private theorem matches_string (cs : List Char) : Matches (quote :: cs) (string cs) := by
  have hbody : ∀ c ∈ cs.takeWhile inString, inString c = true :=
    fun c hc => List.mem_takeWhile_imp hc
  have hwhole := List.takeWhile_append_dropWhile (p := inString) (l := cs)
  have hstop := List.head?_dropWhile_not inString cs
  unfold string
  cases hrest : cs.dropWhile inString with
  | nil =>
      rw [hrest] at hwhole
      exact .unclosed (by simpa using hwhole.symm) hbody (by simp)
  | cons c rest =>
      rw [hrest] at hwhole hstop
      by_cases hc : c = quote
      · subst hc
        simp only [if_true]
        exact .closed (by simpa using hwhole.symm) hbody
      · simp only [if_neg hc]
        -- A string goes on over every character but a quote and a line feed.
        have hline : c = '\n' := by simpa [inString, hc] using hstop
        exact .unclosed (by simpa using hwhole.symm) hbody (by simp [hline])

private theorem matches_front (cs : List Char) : Matches cs (front cs) := by
  cases cs with
  | nil => exact .finished rfl
  | cons c cs =>
      by_cases hquote : c = quote
      · subst hquote
        rw [front_quote]
        exact matches_string cs
      · have hwhole := taken_append_rest_front (c :: cs)
        rcases front_cases hquote cs with ⟨lexeme, rest, hplain, hfront⟩ | hfront
        · rw [hfront] at hwhole ⊢
          refine .longest hwhole.symm hplain ?_
          intro other back hother hcs
          exact (length_spelling_le hother hcs hfront).2
        · rw [hfront]
          refine .illegal rfl hquote ?_
          intro other back hother hcs
          exact (length_spelling_le hother hcs hfront).1 (by simp)

example : front ['1', '.', '2', '.', '3'] =
    .token .numberConstant ['1', '.', '2'] ['1', '.', '2'] ['.', '3'] := by
  decide +kernel

private theorem Matches.front_eq {scan : Scan} (h : Matches cs scan) : front cs = scan := by
  have hquote : inString quote = false := by decide
  cases h with
  | finished hcs =>
      subst hcs
      rfl
  | @closed body rest hcs hbody =>
      have htake : (body ++ quote :: rest).takeWhile inString = body := by
        simp [List.takeWhile_append_of_pos hbody, hquote]
      have hdrop : (body ++ quote :: rest).dropWhile inString = quote :: rest := by
        simp [List.dropWhile_append_of_pos hbody, hquote]
      rw [hcs, List.cons_append, front_quote]
      simp [string, htake, hdrop]
  | @unclosed body rest hcs hbody hrest =>
      have hstop : ∀ c ∈ rest.head?, inString c = false := by
        intro c hc
        rw [hrest c hc]
        rfl
      rw [hcs, List.cons_append, front_quote]
      cases rest with
      | nil =>
          have hself := List.takeWhile_eq_self_iff.mpr hbody
          have hnil := List.dropWhile_eq_nil_iff.mpr hbody
          simp [string, hself, hnil]
      | cons c rest =>
          have hc : c = '\n' := hrest c rfl
          have htake : (body ++ c :: rest).takeWhile inString = body := by
            simp [List.takeWhile_append_of_pos hbody, hstop c rfl]
          have hdrop : (body ++ c :: rest).dropWhile inString = c :: rest := by
            simp [List.dropWhile_append_of_pos hbody, hstop c rfl]
          have hother : c ≠ quote := by
            rw [hc]
            decide
          simp [string, htake, hdrop, hother]
  | @longest lexeme rest hcs hplain hlongest =>
      obtain ⟨kind, text, taken, rest', hfront, hkind, hlength⟩ :=
        Lexeme.covers_spelling hplain rest
      rw [← hcs] at hfront
      have hmatches := matches_front cs
      rw [hfront] at hmatches ⊢
      cases hmatches with
      | closed => simp at hkind
      | illegal => simp at hkind
      | @longest other rest' hcs' hother hlongest' =>
          -- Two lexemes of one length at the front have one spelling, which tells the token.
          have hsame := Nat.le_antisymm hlength (hlongest other rest' hother hcs')
          obtain ⟨hspelling, rfl⟩ := List.append_inj (hcs.symm.trans hcs') hsame
          have hself := lexeme.front_spelling
          rw [hspelling, other.front_spelling] at hself
          injection hself with hkinds htexts
          rw [hkinds, htexts, hspelling]
  | @illegal c rest hcs hother hnone =>
      subst hcs
      rcases front_cases hother rest with ⟨lexeme, rest', hplain, hfront⟩ | hfront
      · have hwhole := taken_append_rest_front (c :: rest)
        rw [hfront] at hwhole
        exact absurd hwhole.symm (hnone lexeme rest' hplain)
      · exact hfront

end Scan

/-- All the trivia in front of a text, and what stands behind it. -/
structure Munch (cs trivia : List Char) (scan : Scan) : Prop where
  whole : cs = trivia ++ (scan.taken ++ scan.rest)
  longest : Trivia.Longest trivia (scan.taken ++ scan.rest)
  found : Scan.Matches (scan.taken ++ scan.rest) scan

namespace Munch

theorem of_split {cs trivia after : List Char} (hsplit : Trivia.split false cs = (trivia, after)) :
    Munch cs trivia (Scan.front after) := by
  have hwhole := Trivia.append_split false cs
  have hlongest := Trivia.longest_split cs
  have hafter := Scan.taken_append_rest_front after
  rw [hsplit] at hwhole hlongest
  constructor
  · rw [hafter]
    exact hwhole.symm
  · rw [hafter]
    exact hlongest
  · rw [hafter]
    exact Scan.matches_front after

/-- A text has one munch. -/
theorem unique {cs trivia trivia' : List Char} {scan scan' : Scan} (h : Munch cs trivia scan)
    (h' : Munch cs trivia' scan') : trivia' = trivia ∧ scan' = scan := by
  have hsplit := h.longest.split_eq
  have hsplit' := h'.longest.split_eq
  rw [← h.whole] at hsplit
  rw [← h'.whole, hsplit] at hsplit'
  obtain ⟨htrivia, hafter⟩ := Prod.mk.inj hsplit'
  have hscan := h.found.front_eq
  rw [hafter, h'.found.front_eq] at hscan
  exact ⟨htrivia.symm, hscan⟩

end Munch

end OnePass
