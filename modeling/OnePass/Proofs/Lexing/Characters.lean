import OnePass.Proofs.Lexing.Munch
/-!
# Lexing character by character

The lexer takes up trivia and tokens as a whole. Here they are read one character at a time, in
loops that look at what is at hand and then read it. A loop that read on without looking would be
refused a character at the end of the text. Main statement: none is, since reading a token character
by character comes to what taking it up as a whole does.
-/
namespace OnePass

namespace Lexer

/-- What keeps a reading from its result. -/
inductive Interruption where
  | refused (refusal : Text.Stream.Refusal)
  | failed (failure : Failure)
  deriving DecidableEq, Repr

abbrev Reading : Type → Type :=
  EStateM Interruption Lexer

variable {α β : Type} {x : Reading α} {lexer later : Lexer} {a : α}

theorem bind_of_ok (h : x lexer = .ok a later) (f : α → Reading β) :
    (x >>= f) lexer = f a later := by
  change EStateM.bind x f lexer = _
  rw [EStateM.bind, h]

private theorem bind_of_error {interruption : Interruption}
    (h : x lexer = .error interruption later)
    (f : α → Reading β) : (x >>= f) lexer = .error interruption later := by
  change EStateM.bind x f lexer = _
  rw [EStateM.bind, h]

private theorem bind_get (f : Lexer → Reading α) (lexer : Lexer) :
    (get >>= f) lexer = f lexer lexer := rfl

private theorem bind_pure_ok (h : x lexer = .ok a later) (f : α → β) :
    (x >>= fun a => pure (f a)) lexer = .ok (f a) later := bind_of_ok h _

@[simp] theorem rest_past (lexer : Lexer) (taken rest : List Char) :
    (lexer.past taken rest).rest = rest := rfl

@[simp] theorem peek_past (lexer : Lexer) (taken rest : List Char) :
    (lexer.past taken rest).peek = rest.head? := rfl

/-- The character so many places on. -/
def peekAt (lexer : Lexer) (offset : Nat) : Option Char :=
  lexer.rest[offset]?

def read : Reading Char := fun lexer =>
  match lexer.advance with
  | (.ok c, later) => .ok c later
  | (.error refusal, later) => .error (.refused refusal) later

private theorem read_of_rest_eq_cons {c : Char} {rest : List Char} (h : lexer.rest = c :: rest) :
    read lexer = .ok c (lexer.past [c] rest) := by
  simp only [read, advance, h]

theorem past_nil_of_rest_eq {rest : List Char} (h : lexer.rest = rest) :
    lexer.past [] rest = lexer := by
  rw [← h, past_nil]

private theorem length_rest_of_read {c : Char} (h : read lexer = .ok c later) :
    later.rest.length < lexer.rest.length := by
  cases hrest : lexer.rest with
  | nil =>
      simp only [read, advance, hrest] at h
      cases h
  | cons d rest =>
      rw [read_of_rest_eq_cons hrest] at h
      cases h
      simp [past]

/-- Reads characters for as long as the guard holds before each. -/
def readWhile (guard : Lexer → Bool) (lexer : Lexer) :
    EStateM.Result Interruption Lexer (List Char) :=
  if guard lexer then
    match _hread : read lexer with
    | .error interruption later => .error interruption later
    | .ok c later =>
      match readWhile guard later with
      | .error interruption last => .error interruption last
      | .ok cs last => .ok (c :: cs) last
  else .ok [] lexer
termination_by lexer.rest.length
decreasing_by exact length_rest_of_read _hread

private theorem readWhile_of_false {guard : Lexer → Bool} {lexer : Lexer}
    (h : guard lexer = false) :
    readWhile guard lexer = .ok [] lexer := by
  rw [readWhile, h]
  rfl

private theorem readWhile_of_true {guard : Lexer → Bool} {lexer : Lexer} (h : guard lexer = true) :
    readWhile guard lexer =
      (do let c ← read; let cs ← readWhile guard; return c :: cs : Reading (List Char)) lexer := by
  change _ = EStateM.bind read _ lexer
  rw [readWhile, if_pos h]
  unfold EStateM.bind
  split
  next hread => rw [hread]
  next hread =>
    rw [hread]
    change _ = EStateM.bind (readWhile guard) _ _
    unfold EStateM.bind
    split
    next hlater => rw [hlater]
    next hlater => rw [hlater]; rfl

private theorem readWhile_eq {guard : Lexer → Bool} {p : Char → Bool}
    (hguard : ∀ lexer, guard lexer = lexer.peek.any p) {lexer : Lexer} {cs : List Char}
    (hrest : lexer.rest = cs) :
    readWhile guard lexer =
      .ok (cs.takeWhile p) (lexer.past (cs.takeWhile p) (cs.dropWhile p)) := by
  -- The guard fails at the end of the text, so that no character is asked for that is not there.
  induction cs generalizing lexer with
  | nil =>
      have hstop : guard lexer = false := by simp [hguard, peek, hrest]
      rw [readWhile_of_false hstop, List.takeWhile_nil, List.dropWhile_nil,
        past_nil_of_rest_eq hrest]
  | cons c cs ih =>
      have hpeek : guard lexer = p c := by simp [hguard, peek, hrest]
      by_cases hp : p c = true
      · rw [readWhile_of_true (hpeek.trans hp), bind_of_ok (read_of_rest_eq_cons hrest),
          bind_of_ok (ih rfl), past_past, List.takeWhile_cons_of_pos hp,
          List.dropWhile_cons_of_pos hp]
        rfl
      · rw [readWhile_of_false (hpeek.trans (Bool.eq_false_iff.mpr hp)),
          List.takeWhile_cons_of_neg hp, List.dropWhile_cons_of_neg hp, past_nil_of_rest_eq hrest]

def readComment : Reading Unit := do
  let _ ← readWhile fun lexer => !lexer.atEnd && lexer.peek != some '\n'

theorem readComment_eq (lexer : Lexer) : readComment lexer = .ok () lexer.skipComment := by
  have hguard : ∀ lexer : Lexer,
      (!lexer.atEnd && lexer.peek != some '\n') = lexer.peek.any (· != '\n') := by
    intro lexer
    cases hrest : lexer.rest <;> simp [atEnd, peek, hrest, bne]
  rw [readComment, bind_of_ok (readWhile_eq hguard rfl)]
  rfl

private theorem length_rest_skipComment_lt {lexer : Lexer} (h : lexer.peek = some '-') :
    lexer.skipComment.rest.length < lexer.rest.length := by
  obtain ⟨rest, hrest⟩ := List.head?_eq_some_iff.mp h
  have hle := (List.dropWhile_suffix (l := rest) (· != '\n')).length_le
  have hskip : lexer.skipComment.rest = rest.dropWhile (· != '\n') := by
    simp [skipComment, past, hrest]
  rw [hskip, hrest, List.length_cons]
  omega

/-- Skips a blank or a comment at a time. -/
def readTrivia (lexer : Lexer) : EStateM.Result Interruption Lexer Unit :=
  if lexer.atEnd then .ok () lexer
  else if lexer.peek.any Text.isBlank then
    match _hread : read lexer with
    | .error interruption later => .error interruption later
    | .ok _ later => readTrivia later
  else if _hdashes : lexer.peek.toList ++ (lexer.peekAt 1).toList = ['-', '-'] then
    match _hcomment : readComment lexer with
    | .error interruption later => .error interruption later
    | .ok _ later => readTrivia later
  else .ok () lexer
termination_by lexer.rest.length
decreasing_by
  · exact length_rest_of_read _hread
  · rw [readComment_eq] at _hcomment
    cases _hcomment
    apply length_rest_skipComment_lt
    cases hpeek : lexer.peek <;> simp_all [peekAt, peek]

private theorem dashes_iff (lexer : Lexer) :
    lexer.peek.toList ++ (lexer.peekAt 1).toList = ['-', '-'] ↔
      Trivia.startsComment lexer.rest = true := by
  unfold Trivia.startsComment
  split
  next hrest => simp [peek, peekAt, hrest]
  next hother =>
    match hrest : lexer.rest with
    | [] => simp [peek, peekAt, hrest]
    | [c] => simp [peek, peekAt, hrest]
    | c :: d :: rest =>
        have hne : c = '-' → d ≠ '-' := by
          rintro rfl rfl
          exact hother rest hrest
        simpa [peek, peekAt, hrest] using hne

private theorem skipTrivia_skipComment {lexer : Lexer}
    (h : Trivia.startsComment lexer.rest = true) :
    lexer.skipComment.skipTrivia = lexer.skipTrivia := by
  unfold Trivia.startsComment at h
  split at h
  next rest hrest =>
    have hunbroken : '\n' ∉ rest.takeWhile (· != '\n') := by
      intro hmem
      simpa using List.mem_takeWhile_imp hmem
    have hend : ∀ c ∈ (rest.dropWhile (· != '\n')).head?, c = '\n' := by
      intro c hc
      have hnot := List.head?_dropWhile_not (· != '\n') rest
      rw [Option.mem_def.mp hc] at hnot
      simpa using hnot
    have hsplit := Trivia.split_remark_append ⟨_, hunbroken⟩ hend
    simp only [Remark.text, List.cons_append, List.takeWhile_append_dropWhile] at hsplit
    have hcomment : lexer.skipComment =
        lexer.past ('-' :: '-' :: rest.takeWhile (· != '\n')) (rest.dropWhile (· != '\n')) := by
      simp [skipComment, hrest]
    rw [hcomment, skipTrivia, skipTrivia, hrest, hsplit, past_past]
    rfl
  next => cases h

theorem readTrivia_eq (lexer : Lexer) : readTrivia lexer = .ok () lexer.skipTrivia := by
  induction hlength : lexer.rest.length using Nat.strongRecOn generalizing lexer with
  | ind length ih =>
      cases hrest : lexer.rest with
      | nil =>
          have hend : lexer.atEnd = true := by simp [atEnd, hrest]
          rw [readTrivia, if_pos hend, skipTrivia, hrest]
          exact congrArg (EStateM.Result.ok ()) (past_nil_of_rest_eq hrest).symm
      | cons c cs =>
          have hsome : ¬ lexer.atEnd = true := by simp [atEnd, hrest]
          have hpeek : lexer.peek.any Text.isBlank = Text.isBlank c := by simp [peek, hrest]
          rw [readTrivia, if_neg hsome, hpeek]
          by_cases hblank : Text.isBlank c = true
          · have hshorter : (lexer.past [c] cs).rest.length < length := by
              simp [← hlength, hrest, past]
            rw [if_pos hblank, read_of_rest_eq_cons hrest]
            simp only
            rw [ih _ hshorter _ rfl, skipTrivia, skipTrivia, hrest,
              Trivia.split_cons_of_isBlank hblank, past_past]
            rfl
          rw [if_neg hblank]
          by_cases hcomment : Trivia.startsComment lexer.rest = true
          · have hdash : lexer.peek = some '-' := by
              have hdashes := lexer.dashes_iff.mpr hcomment
              simp_all [peek]
            have hshorter := length_rest_skipComment_lt hdash
            rw [hlength] at hshorter
            rw [dif_pos (lexer.dashes_iff.mpr hcomment), readComment_eq]
            simp only
            rw [ih _ hshorter _ rfl, skipTrivia_skipComment hcomment]
          · rw [dif_neg (mt lexer.dashes_iff.mp hcomment)]
            rw [hrest] at hcomment
            rw [skipTrivia, hrest, Trivia.split_of_no_trivia (Bool.eq_false_iff.mpr hblank)
              (Bool.eq_false_iff.mpr hcomment)]
            exact congrArg (EStateM.Result.ok ()) (past_nil_of_rest_eq hrest).symm

/-- A point and the digits behind it, if a digit follows the point directly. -/
def readFraction : Reading (List Char) := do
  let lexer ← get
  if lexer.peek = some '.' ∧ (lexer.peekAt 1).any Text.isDigit then
    let point ← read
    let digits ← readWhile fun lexer => lexer.peek.any Text.isDigit
    return point :: digits
  else return []

def readNumber : Reading (List Char) := do
  let whole ← readWhile fun lexer => lexer.peek.any Text.isDigit
  let fraction ← readFraction
  return whole ++ fraction

private theorem readFraction_eq (lexer : Lexer) :
    readFraction lexer = .ok (Scan.splitFraction lexer.rest).1
      (lexer.past (Scan.splitFraction lexer.rest).1 (Scan.splitFraction lexer.rest).2) := by
  rw [readFraction, bind_get]
  by_cases hpoint : lexer.peek = some '.' ∧ (lexer.peekAt 1).any Text.isDigit
  · obtain ⟨hpeek, hdigit⟩ := hpoint
    obtain ⟨rest, hrest⟩ := List.head?_eq_some_iff.mp hpeek
    obtain ⟨d, hd, hdigit⟩ := (Option.any_eq_true _ _).mp hdigit
    obtain ⟨more, rfl⟩ : ∃ more, rest = d :: more := by
      cases rest <;> simp_all [peekAt]
    rw [if_pos ⟨hpeek, by simp [peekAt, hrest, hdigit]⟩, bind_of_ok (read_of_rest_eq_cons hrest),
      bind_pure_ok (readWhile_eq (fun _ => rfl) rfl), past_past]
    simp [Scan.splitFraction, hrest, hdigit, past]
  · rw [if_neg hpoint]
    have hnone : Scan.splitFraction lexer.rest = ([], lexer.rest) := by
      unfold Scan.splitFraction
      split
      next d rest hrest =>
        have hdigit : Text.isDigit d = false := by
          simpa [peek, peekAt, hrest] using hpoint
        simp [hdigit, hrest]
      next => rfl
    rw [hnone]
    rfl

private theorem readNumber_eq (lexer : Lexer) :
    readNumber lexer = .ok (Scan.number lexer.rest).taken
      (lexer.past (Scan.number lexer.rest).taken (Scan.number lexer.rest).rest) := by
  rw [readNumber, bind_of_ok (readWhile_eq (fun _ => rfl) rfl), bind_pure_ok (readFraction_eq _),
    past_past]
  rfl

/-- The text of a string, which ends at a quote on the line it starts on. -/
def readString : Reading (List Char) := do
  let opening ← get
  let _ ← read
  let body ← readWhile fun lexer => lexer.peek ∉ [some Scan.quote, some '\n', none]
  let lexer ← get
  if lexer.peek ≠ some Scan.quote then
    throw (.failed (unterminatedString opening.filename opening.line))
  else
    let _ ← read
    return body

private theorem readString_eq {rest : List Char} (h : lexer.rest = Scan.quote :: rest) :
    readString lexer =
      if (rest.dropWhile Scan.inString).head? = some Scan.quote then
        .ok (rest.takeWhile Scan.inString)
          (lexer.past (Scan.quote :: rest.takeWhile Scan.inString ++ [Scan.quote])
            (rest.dropWhile Scan.inString).tail)
      else
        .error (.failed (unterminatedString lexer.filename lexer.line))
          (lexer.past (Scan.quote :: rest.takeWhile Scan.inString)
            (rest.dropWhile Scan.inString)) := by
  have hguard : ∀ lexer : Lexer, decide (lexer.peek ∉ [some Scan.quote, some '\n', none]) =
      lexer.peek.any Scan.inString := by
    intro lexer
    cases hrest : lexer.rest <;> simp [peek, hrest, Scan.inString, bne, beq_eq_decide]
  rw [readString, bind_get, bind_of_ok (read_of_rest_eq_cons h),
    bind_of_ok (readWhile_eq hguard rfl), bind_get, past_past, peek_past, rest_past]
  by_cases hclosed : (rest.dropWhile Scan.inString).head? = some Scan.quote
  · obtain ⟨back, hback⟩ := List.head?_eq_some_iff.mp hclosed
    rw [if_pos hclosed, if_neg (not_not.mpr hclosed)]
    rw [bind_pure_ok (read_of_rest_eq_cons hback), past_past, hback]
    rfl
  · rw [if_neg hclosed, if_pos hclosed]
    rfl

private theorem string_eq (cs : List Char) :
    Scan.string cs =
      if (cs.dropWhile Scan.inString).head? = some Scan.quote then
        .token .stringConstant (cs.takeWhile Scan.inString)
          (Scan.quote :: cs.takeWhile Scan.inString ++ [Scan.quote])
          (cs.dropWhile Scan.inString).tail
      else .unterminated (Scan.quote :: cs.takeWhile Scan.inString)
        (cs.dropWhile Scan.inString) := by
  unfold Scan.string
  cases cs.dropWhile Scan.inString <;> simp

/-- The longest symbol among the first characters, which are looked at one by one as far as there
are any. -/
def longestSymbol (lexer : Lexer) : (offsets : List Nat) → (candidate longest : List Char) →
    List Char
  | [], _, longest => longest
  | offset :: offsets, candidate, longest =>
    match lexer.peekAt offset with
    | none => longest
    | some c =>
      if (Kind.symbol? (String.ofList (candidate ++ [c]))).isSome then
        longestSymbol lexer offsets (candidate ++ [c]) (candidate ++ [c])
      else longestSymbol lexer offsets (candidate ++ [c]) longest

/-- The length of the longest symbols. -/
def symbolLength : Nat :=
  (Kind.symbols.map fun entry => entry.1.length).foldl max 0

def readSymbol : Reading (Option Token) := do
  let lexer ← get
  let longest := lexer.longestSymbol (List.range symbolLength) [] []
  if longest = [] then return none
  longest.forM fun _ => discard read
  return (Kind.symbol? (String.ofList longest)).map fun kind =>
    ⟨kind, String.ofList longest, lexer.line⟩

private theorem forM_read {taken : List Char} {rest : List Char}
    (h : lexer.rest = taken ++ rest) :
    (taken.forM fun _ => discard read : Reading Unit) lexer = .ok () (lexer.past taken rest) := by
  induction taken generalizing lexer with
  | nil => exact congrArg (EStateM.Result.ok ()) (past_nil_of_rest_eq h).symm
  | cons c taken ih =>
      have hread : (discard read : Reading Unit) lexer = .ok () (lexer.past [c] (taken ++ rest)) :=
        bind_pure_ok (read_of_rest_eq_cons h) _
      change ((discard read : Reading Unit) >>= fun _ => taken.forM fun _ => discard read) lexer = _
      rw [bind_of_ok hread, ih rfl, past_past]
      rfl

private theorem longestSymbol_eq (lexer : Lexer) :
    lexer.longestSymbol (List.range symbolLength) [] [] =
      if (Kind.symbol? (String.ofList (lexer.rest.take 2))).isSome then lexer.rest.take 2
      else if (Kind.symbol? (String.ofList (lexer.rest.take 1))).isSome then lexer.rest.take 1
      else [] := by
  have hrange : List.range symbolLength = [0, 1] := by decide
  have hempty : Kind.symbol? (String.ofList []) = none := by decide
  rw [hrange]
  match hrest : lexer.rest with
  | [] => simp [longestSymbol, peekAt, hrest, hempty]
  | [c] =>
      simp only [longestSymbol, peekAt, hrest, List.getElem?_cons_zero, List.getElem?_cons_succ,
        List.getElem?_nil, List.nil_append, List.take]
      split <;> simp_all
  | c :: d :: rest =>
      simp only [longestSymbol, peekAt, hrest, List.getElem?_cons_zero, List.getElem?_cons_succ,
        List.nil_append, List.singleton_append, List.take]
      split <;> simp_all

theorem readSymbol_eq (lexer : Lexer) :
    readSymbol lexer = .ok lexer.matchSymbol.1 lexer.matchSymbol.2 := by
  have hempty : Kind.symbol? (String.ofList []) = none := by decide
  have hread : ∀ (size : Nat) (kind : Kind),
      Kind.symbol? (String.ofList (lexer.rest.take size)) = some kind →
      lexer.longestSymbol (List.range symbolLength) [] [] = lexer.rest.take size →
      readSymbol lexer = .ok (some ⟨kind, String.ofList (lexer.rest.take size), lexer.line⟩)
        (lexer.past (lexer.rest.take size) (lexer.rest.drop size)) := by
    intro size kind hkind hlongest
    have hsome : lexer.rest.take size ≠ [] := by
      intro hnil
      rw [hnil, hempty] at hkind
      cases hkind
    rw [readSymbol, bind_get, hlongest, if_neg hsome,
      bind_pure_ok (forM_read (List.take_append_drop ..).symm), hkind]
    rfl
  rw [longestSymbol_eq] at hread
  unfold matchSymbol
  rw [Scan.symbol?_eq]
  cases htwo : Kind.symbol? (String.ofList (lexer.rest.take 2)) with
  | some kind => exact hread 2 kind htwo (by simp [htwo])
  | none =>
      cases hone : Kind.symbol? (String.ofList (lexer.rest.take 1)) with
      | some kind => exact hread 1 kind hone (by simp [htwo, hone])
      | none =>
          rw [readSymbol, bind_get, longestSymbol_eq, htwo, hone]
          rfl

theorem matchSymbol_eq (lexer : Lexer) :
    (Scan.symbol? lexer.rest = none ∧ lexer.matchSymbol = (none, lexer)) ∨
      ∃ kind taken rest, Scan.symbol? lexer.rest = some (.token kind taken taken rest) ∧
        lexer.matchSymbol =
          (some ⟨kind, String.ofList taken, lexer.line⟩, lexer.past taken rest) := by
  cases hsymbol : Scan.symbol? lexer.rest with
  | none => exact .inl ⟨rfl, by simp only [matchSymbol, hsymbol]⟩
  | some scan =>
      obtain ⟨size, -, hsize⟩ := List.exists_of_findSome?_eq_some hsymbol
      obtain ⟨kind, -, rfl⟩ := Option.map_eq_some_iff.mp hsize
      exact .inr ⟨kind, _, _, rfl, by simp only [matchSymbol, hsymbol]⟩

def readToken : Reading Token := do
  readTrivia
  let lexer ← get
  if lexer.atEnd then
    return .endOfFile lexer.line
  else if lexer.peek.any Text.isLetter then
    let name ← readWhile fun lexer => lexer.peek.any Scan.isNamePart
    let kind := (Kind.keyword? (String.ofList name)).getD .identifier
    return ⟨kind, String.ofList name, lexer.line⟩
  else if lexer.peek.any Text.isDigit then
    let number ← readNumber
    return ⟨.numberConstant, String.ofList number, lexer.line⟩
  else if lexer.peek = some Scan.quote then
    let body ← readString
    return ⟨.stringConstant, String.ofList body, lexer.line⟩
  else
    match ← readSymbol with
    | some token => return token
    | none =>
      let c ← read
      return ⟨.illegalSymbol, String.ofList [c], lexer.line⟩

/-- What an operation of the lexer comes to as the result of a reading. -/
def asResult {α : Type} : Except Failure α × Lexer → EStateM.Result Interruption Lexer α
  | (.ok a, later) => .ok a later
  | (.error failure, later) => .error (.failed failure) later

/-- Main statement: reading a token character by character is refused no character, and comes to
what the lexer does in one go. -/
theorem readToken_eq (lexer : Lexer) : readToken lexer = asResult lexer.next := by
  rw [readToken, bind_of_ok (readTrivia_eq lexer), bind_get, next]
  generalize lexer.skipTrivia = lexer
  cases hrest : lexer.rest with
  | nil =>
      have hend : lexer.atEnd = true := by simp [atEnd, hrest]
      rw [if_pos hend, token_of_rest_eq_nil hrest]
      rfl
  | cons c cs =>
      have hsome : ¬ lexer.atEnd = true := by simp [atEnd, hrest]
      have hpeek : lexer.peek = some c := by simp [peek, hrest]
      have htoken : lexer.token = ((Scan.front (c :: cs)).outcome lexer.filename lexer.line,
          lexer.past (Scan.front (c :: cs)).taken (Scan.front (c :: cs)).rest) := by
        rw [token_of_ne_nil (by simp [hrest]), hrest]
      rw [if_neg hsome, hpeek, Option.any_some, Option.any_some, htoken]
      by_cases hletter : Text.isLetter c = true
      · rw [if_pos hletter, bind_pure_ok (readWhile_eq (fun _ => rfl) hrest),
          Scan.front_of_isLetter hletter]
        rfl
      rw [if_neg hletter]
      by_cases hdigit : Text.isDigit c = true
      · rw [if_pos hdigit, bind_pure_ok (readNumber_eq lexer), Scan.front_of_isDigit hdigit, hrest]
        rfl
      rw [if_neg hdigit]
      by_cases hquote : c = Scan.quote
      · subst hquote
        rw [if_pos rfl, Scan.front_quote, string_eq]
        have hstring := readString_eq hrest
        by_cases hclosed : (cs.dropWhile Scan.inString).head? = some Scan.quote
        · rw [if_pos hclosed] at hstring ⊢
          exact bind_pure_ok hstring _
        · rw [if_neg hclosed] at hstring ⊢
          exact bind_of_error hstring _
      have hother : some c ≠ some Scan.quote := fun h => hquote (Option.some.inj h)
      rw [if_neg hother, bind_of_ok (readSymbol_eq lexer), Scan.front_of_other
        (Bool.eq_false_iff.mpr hletter) (Bool.eq_false_iff.mpr hdigit) hquote, ← hrest]
      rcases lexer.matchSymbol_eq with ⟨hnone, hmatch⟩ | ⟨kind, taken, rest, hsymbol, hmatch⟩
      · rw [hmatch, hnone]
        exact bind_pure_ok (read_of_rest_eq_cons hrest) _
      · rw [hmatch, hsymbol]
        rfl

end Lexer

end OnePass
