import OnePass.Text.Blank
/-!
# Blanks and comments

Trivia may stand before every token. It is made of blanks and of comments, which run from two dashes
up to the end of the line.
-/
namespace OnePass.Trivia

def startsComment : List Char → Bool
  | '-' :: '-' :: _ => true
  | _ => false

/-- The trivia at the front and what follows it. -/
def split : (inComment : Bool) → List Char → List Char × List Char
  | _, [] => ([], [])
  | inComment, c :: rest =>
    if inComment || Text.isBlank c || startsComment (c :: rest) then
      let scanned := split (if inComment then c ≠ '\n' else !Text.isBlank c) rest
      (c :: scanned.1, scanned.2)
    else ([], c :: rest)

theorem append_split (inComment : Bool) (cs : List Char) :
    (split inComment cs).1 ++ (split inComment cs).2 = cs := by
  induction cs generalizing inComment with
  | nil => rfl
  | cons c rest ih =>
    rw [split]
    split
    · simp [ih]
    · rfl

theorem split_eq_cons {inComment : Bool} {cs trivia after : List Char} {c : Char}
    (h : split inComment cs = (trivia, c :: after)) :
    Text.isBlank c = false ∧ startsComment (c :: after) = false := by
  induction cs generalizing inComment trivia with
  | nil => simp [split] at h
  | cons d rest ih =>
    rw [split] at h
    split at h
    · simp only [Prod.mk.injEq] at h
      exact ih (Prod.ext rfl h.2)
    · simp_all

end OnePass.Trivia
