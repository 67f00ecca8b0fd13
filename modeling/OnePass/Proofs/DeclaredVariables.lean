import OnePass.Proofs.Recording.Histories
/-!
# Declarations and removals of a name

The declarations and removals that a journal records of one name come in rounds: a variable is
declared and then removed, and the next round may be of another variable. A round that has begun is
under way as long as its variable is live. The variable may be declared again meanwhile, and that is
recorded once more.
-/
namespace OnePass

/-- Whether a variable of the name is declared or removed. -/
def Occurrence.concerns (identifier : String) : Occurrence → Bool
  | .declare v => v.identifier = identifier
  | .remove v => v.identifier = identifier
  | _ => false

/-- A variable is declared, perhaps again and again, and removed. -/
structure Round where
  subject : Variable
  again : Nat
  deriving DecidableEq, Repr

namespace Round

/-- The declarations of a round. -/
def declarations (round : Round) : Story :=
  List.replicate (round.again + 1) (.declare round.subject)

def story (round : Round) : Story :=
  round.declarations ++ [.remove round.subject]

/-- A round of the name, which declares its variable just once if `strict` holds. -/
structure Fits (strict : Prop) (identifier : String) (round : Round) : Prop where
  identifier_eq : round.subject.identifier = identifier
  once : strict → round.again = 0

end Round

/-- What has been recorded of a name: rounds that are complete, and the declarations of the variable
that is live, if one is. -/
inductive Alternates (strict : Prop) (identifier : String) : Option Variable → Story → Prop where
  | idle (rounds : List Round) (hrounds : ∀ round ∈ rounds, round.Fits strict identifier) :
    Alternates strict identifier none (rounds.flatMap Round.story)
  | underway (rounds : List Round) (round : Round)
    (hrounds : ∀ round ∈ rounds, round.Fits strict identifier)
    (hround : round.Fits strict identifier) :
    Alternates strict identifier (some round.subject)
      (rounds.flatMap Round.story ++ round.declarations)

namespace Alternates

variable {strict : Prop} {identifier : String} {story : Story}

private theorem declare (h : Alternates strict identifier none story) {v : Variable}
    (hname : v.identifier = identifier) :
    Alternates strict identifier (some v) (story ++ [.declare v]) := by
  cases h with
  | idle rounds hrounds => exact .underway rounds ⟨v, 0⟩ hrounds ⟨hname, fun _ => rfl⟩

private theorem declareAgain {v : Variable} (h : Alternates strict identifier (some v) story)
    (hlax : ¬ strict) : Alternates strict identifier (some v) (story ++ [.declare v]) := by
  cases h with
  | underway rounds round hrounds hround =>
      have hmore : rounds.flatMap Round.story ++ round.declarations ++ [.declare round.subject] =
          rounds.flatMap Round.story ++
            (Round.mk round.subject (round.again + 1)).declarations := by
        rw [List.append_assoc, Round.declarations, ← List.replicate_succ']
        rfl
      rw [hmore]
      exact .underway rounds ⟨round.subject, round.again + 1⟩ hrounds
        ⟨hround.identifier_eq, fun hstrict => absurd hstrict hlax⟩

private theorem remove {v : Variable} (h : Alternates strict identifier (some v) story) :
    Alternates strict identifier none (story ++ [.remove v]) := by
  cases h with
  | underway rounds round hrounds hround =>
      have hcomplete : rounds.flatMap Round.story ++ round.declarations ++ [.remove round.subject] =
          (rounds ++ [round]).flatMap Round.story := by
        rw [List.append_assoc, List.flatMap_append, List.flatMap_singleton]
        rfl
      rw [hcomplete]
      refine .idle (rounds ++ [round]) fun other hother => ?_
      rcases List.mem_append.mp hother with hother | hother
      · exact hrounds other hother
      · rw [List.mem_singleton.mp hother]
        exact hround

end Alternates

namespace Scope

open Journal (Operation)

variable {strict : Prop} {identifier : String} {story : Story} {scope : Scope}

private theorem alternates_add (h : Alternates strict identifier (scope.find? identifier) story)
    (v : Variable) (hanew : strict → scope.find? v.identifier ≠ some v) :
    Alternates strict identifier ((scope.add v).2.find? identifier)
      (story ++ (Operation.recorded scope (.declare v)).filter (·.concerns identifier)) := by
  rw [find?_add, Operation.recorded]
  by_cases hname : v.identifier = identifier
  · subst hname
    cases hfind : scope.find? v.identifier with
    | none =>
        rw [hfind] at h
        simpa [Occurrence.concerns] using h.declare rfl
    | some stored =>
        rw [hfind] at h
        by_cases hsame : stored = v
        · subst hsame
          have hlax : ¬ strict := fun hstrict => hanew hstrict hfind
          simpa [Occurrence.concerns] using h.declareAgain hlax
        · simpa [hsame] using h
  · rw [if_neg hname, Option.or_none]
    split <;> simpa [Occurrence.concerns, hname] using h

private theorem alternates_remove (h : Alternates strict identifier (scope.find? identifier) story)
    (v : Variable) :
    Alternates strict identifier ((scope.remove v).2.find? identifier)
      (story ++ (Operation.recorded scope (.drop v)).filter (·.concerns identifier)) := by
  rw [find?_remove, Operation.recorded]
  by_cases hname : v.identifier = identifier
  · subst hname
    by_cases hlive : scope.find? v.identifier = some v
    · rw [hlive] at h ⊢
      simpa [Occurrence.concerns] using h.remove
    · simpa [hlive] using h
  · have hother : scope.find? identifier ≠ some v := by
      intro hfind
      exact hname (find?_eq_some.mp hfind).2
    rw [if_neg hother]
    split <;> simpa [Occurrence.concerns, hname] using h

end Scope

namespace Journal

private theorem alternates_perform {strict : Prop} {identifier : String} {journal : Journal}
    (h : Alternates strict identifier (journal.scope.find? identifier)
      (journal.occurrences.filter (·.concerns identifier)))
    (operation : Operation)
    (hanew : strict → ∀ v, operation = .declare v → journal.scope.find? v.identifier ≠ some v) :
    Alternates strict identifier ((journal.perform operation).scope.find? identifier)
      ((journal.perform operation).occurrences.filter (·.concerns identifier)) := by
  rw [scope_perform, occurrences_perform, List.filter_append]
  cases operation with
  | commence | finish | terminal | complain => exact (List.append_nil _).symm ▸ h
  | declare v => exact Scope.alternates_add h v fun hstrict => hanew hstrict v rfl
  | drop v => exact Scope.alternates_remove h v

/-- No variable is declared while it is live itself. -/
def DeclaresAnew (journal : Journal) (history : List Operation) : Prop :=
  ∀ front v back, history = front ++ .declare v :: back →
    (journal.performAll front).scope.find? v.identifier ≠ some v

private theorem DeclaresAnew.of_concat {journal : Journal} {history : List Operation}
    {operation : Operation} (h : journal.DeclaresAnew (history ++ [operation])) :
    journal.DeclaresAnew history := by
  rintro front v back rfl
  exact h front v (back ++ [operation]) (by simp)

private theorem alternates_performAll (echo : Bool) (history : List Operation)
    (identifier : String) :
    Alternates ((start .empty echo).DeclaresAnew history) identifier
      (((start .empty echo).performAll history).scope.find? identifier)
      (((start .empty echo).performAll history).occurrences.filter (·.concerns identifier)) := by
  -- The condition is on every cut of the history, so that it hands itself down to the front.
  suffices h : ∀ strict : Prop, (strict → (start .empty echo).DeclaresAnew history) →
      Alternates strict identifier
        (((start .empty echo).performAll history).scope.find? identifier)
        (((start .empty echo).performAll history).occurrences.filter (·.concerns identifier)) from
    h _ id
  intro strict hstrict
  induction history using List.reverseRecOn with
  | nil => exact .idle [] nofun
  | append_singleton history operation ih =>
      rw [performAll_concat]
      refine alternates_perform (ih fun hholds => (hstrict hholds).of_concat) operation ?_
      rintro hholds v rfl
      exact hstrict hholds history v [] rfl

/-- After any history from an empty scope the live variables settle what an operation records: a
declaration if its name is not live, or the very variable is, and a removal if the variable is live.
The live variables change accordingly. What is recorded of a name comes in rounds, and made again,
all declarations and removals lead to the scope. -/
theorem variables_of_history (echo : Bool) (history : List Operation) :
    let journal := (start .empty echo).performAll history
    (∀ operation, (journal.perform operation).occurrences =
        journal.occurrences ++ operation.recorded journal.scope) ∧
      (∀ v, (journal.perform (.declare v)).scope.entries =
        if journal.scope.find? v.identifier = none then journal.scope.entries ++ [v]
        else journal.scope.entries) ∧
      (∀ v, (journal.perform (.drop v)).scope.entries =
        if journal.scope.find? v.identifier = some v then journal.scope.entries.erase v
        else journal.scope.entries) ∧
      (∀ identifier, Alternates ((start .empty echo).DeclaresAnew history) identifier
        (journal.scope.find? identifier)
        (journal.occurrences.filter (·.concerns identifier))) ∧
      Scope.empty.replay journal.occurrences = journal.scope := by
  intro journal
  refine ⟨journal.occurrences_perform, ?_, ?_, alternates_performAll echo history,
    replay_occurrences .empty echo history⟩
  · intro v
    rw [scope_perform]
    cases hfind : journal.scope.find? v.identifier with
    | none => exact (Scope.add_eq_of_find?_eq_none hfind).2
    | some stored =>
        simp only [Operation.revise, Scope.add_eq_of_find?_eq_some hfind]
        rfl
  · intro v
    rw [scope_perform]
    simp only [Operation.revise, Scope.entries_remove, Scope.find?_eq_some_iff]
    split
    · rfl
    next hgone => exact List.erase_of_not_mem hgone

/-- A variable that is declared twice is recorded twice, although its name is live the second
time. -/
theorem recorded_again :
    let v : Variable := ⟨"a", .unknown, 0⟩
    let journal := (start .empty false).performAll [.declare v]
    journal.scope.find? v.identifier = some v ∧
      (journal.declare v).2.occurrences = [.declare v, .declare v] := by
  decide

end Journal

end OnePass
