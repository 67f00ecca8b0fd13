import Mathlib.Data.Finset.Card
import Mathlib.Data.List.DropRight
import OnePass.Proofs.Recording.Histories
import OnePass.Proofs.Reporting.Symbols
/-!
# Calls on a scope

A scope may be called upon in any way and any number of times. The log of its calls and answers is
all that is needed to say what is live: of each name the first variable that has been added since a
variable of that name was last removed. Main statement: every call is answered, and changes the
scope, as the log up to then asks for.
-/
namespace OnePass.Scope

inductive Call where
  | add (v : Variable)
  | find (identifier : String)
  | remove (v : Variable)
  | contains (identifier : String)
  | size
  | entries
  | snapshot
  deriving DecidableEq, Repr

inductive Answer where
  | stored (v : Variable)
  | found (v : Option Variable)
  | removed (done : Bool)
  | contained (yes : Bool)
  | counted (n : Nat)
  | listed (vs : List Variable)
  | typed (types : List (String × VarType))
  deriving DecidableEq, Repr

/-- The answer to a call, and the scope that it leaves. -/
def serve (scope : Scope) : Call → Answer × Scope
  | .add v => (.stored (scope.add v).1, (scope.add v).2)
  | .find identifier => (.found (scope.find? identifier), scope)
  | .remove v => (.removed (scope.remove v).1, (scope.remove v).2)
  | .contains identifier => (.contained (scope.contains identifier), scope)
  | .size => (.counted scope.size, scope)
  | .entries => (.listed scope.entries, scope)
  | .snapshot => (.typed scope.snapshot, scope)

structure Exchange where
  call : Call
  answer : Answer
  deriving DecidableEq, Repr

namespace Exchange

/-- Whether the live variable of a name has been removed. -/
def drops (identifier : String) : Exchange → Bool
  | ⟨.remove v, .removed done⟩ => done && v.identifier = identifier
  | _ => false

/-- The variable of a name that was to be added. -/
def added? (identifier : String) : Exchange → Option Variable
  | ⟨.add v, _⟩ => if v.identifier = identifier then some v else none
  | _ => none

end Exchange

abbrev Log := List Exchange

namespace Log

/-- The first variable of a name that has been added since the last removal of one. -/
def live (log : Log) (identifier : String) : Option Variable :=
  (log.rtakeWhile fun exchange => !exchange.drops identifier).findSome? (·.added? identifier)

/-- The exchange at a place makes a variable live, and no variable of its name has been removed
since. -/
def Makes (log : Log) (place : Nat) (v : Variable) : Prop :=
  ∃ front answer back, log = front ++ ⟨.add v, answer⟩ :: back ∧ front.length = place ∧
    live front v.identifier = none ∧ ∀ exchange ∈ back, exchange.drops v.identifier = false

/-- The variables have been made live one after the other. -/
def Dates (log : Log) (vs : List Variable) : Prop :=
  ∃ dated : List (Nat × Variable), dated.map Prod.snd = vs ∧
    dated.Pairwise (fun entry later => entry.1 < later.1) ∧
    ∀ entry ∈ dated, log.Makes entry.1 entry.2

/-- What a log asks of the answer to the next call. -/
inductive Asks (log : Log) : Call → Answer → Prop where
  | add (v : Variable) : Asks log (.add v) (.stored ((log.live v.identifier).getD v))
  | find (identifier : String) : Asks log (.find identifier) (.found (log.live identifier))
  | remove (v : Variable) :
    Asks log (.remove v) (.removed (log.live v.identifier = some v))
  | contains (identifier : String) :
    Asks log (.contains identifier) (.contained (log.live identifier).isSome)
  | size (names : Finset String) (hnames : ∀ name, name ∈ names ↔ log.live name ≠ none) :
    Asks log .size (.counted names.card)
  | entries (vs : List Variable) (hnodup : vs.Nodup) (hdates : log.Dates vs)
    (hlive : ∀ v, v ∈ vs ↔ log.live v.identifier = some v) : Asks log .entries (.listed vs)
  | snapshot (types : List (String × VarType))
    (hsorted : types.Pairwise fun entry later => entry.1 < later.1)
    (hlive : ∀ name type, (name, type) ∈ types ↔ ∃ v, log.live name = some v ∧ v.type = type) :
    Asks log .snapshot (.typed types)

private theorem live_concat (log : Log) (exchange : Exchange) (identifier : String) :
    live (log ++ [exchange]) identifier =
      if exchange.drops identifier then none
      else (log.live identifier).or (exchange.added? identifier) := by
  unfold live
  rw [List.rtakeWhile_concat]
  cases hdrops : exchange.drops identifier with
  | true => simp
  | false => simp [List.findSome?_append]

private theorem Makes.lt_length {log : Log} {place : Nat} {v : Variable} (h : log.Makes place v) :
    place < log.length := by
  obtain ⟨front, answer, back, rfl, rfl, -⟩ := h
  simp

private theorem Makes.concat {log : Log} {place : Nat} {v : Variable} (h : log.Makes place v)
    {exchange : Exchange} (hkept : exchange.drops v.identifier = false) :
    Makes (log ++ [exchange]) place v := by
  obtain ⟨front, answer, back, rfl, hplace, hnone, hback⟩ := h
  refine ⟨front, answer, back ++ [exchange], by simp, hplace, hnone, ?_⟩
  intro later hlater
  rcases List.mem_append.mp hlater with hlater | hlater
  · exact hback later hlater
  · rw [List.mem_singleton.mp hlater]
    exact hkept

end Log

/-- The exchange that a call on a scope makes. -/
def exchange (scope : Scope) (call : Call) : Exchange :=
  ⟨call, (scope.serve call).1⟩

private theorem drops_exchange {scope : Scope} {call : Call} {identifier : String} :
    (scope.exchange call).drops identifier = true ↔
      ∃ v, call = .remove v ∧ scope.find? identifier = some v := by
  cases call with
  | remove v =>
      simp only [exchange, serve, Exchange.drops, Bool.and_eq_true, fst_remove, decide_eq_true_iff,
        Call.remove.injEq, exists_eq_left', find?_eq_some]
  | add | find | contains | size | entries | snapshot =>
      constructor
      · nofun
      · rintro ⟨v, hcall, -⟩
        cases hcall

private theorem find?_serve (scope : Scope) (call : Call) (identifier : String) :
    (scope.serve call).2.find? identifier =
      if (scope.exchange call).drops identifier then none
      else (scope.find? identifier).or ((scope.exchange call).added? identifier) := by
  cases call with
  | add v => exact find?_add scope v identifier
  | remove v =>
      have hdrops : (scope.exchange (.remove v)).drops identifier = true ↔
          scope.find? identifier = some v := by simp [drops_exchange]
      have hadded : (scope.exchange (.remove v)).added? identifier = none := rfl
      rw [hadded, Option.or_none, if_congr hdrops rfl rfl]
      exact find?_remove scope v identifier
  | find | contains | size | entries | snapshot => exact Option.or_none.symm

/-- The variable that a call makes live, if it makes one live. -/
def newcomer? (scope : Scope) : Call → Option Variable
  | .add v => if scope.find? v.identifier = none then some v else none
  | _ => none

private theorem newcomer?_add (scope : Scope) (v : Variable) :
    scope.newcomer? (.add v) = if scope.find? v.identifier = none then some v else none := rfl

private theorem newcomer?_eq_some {scope : Scope} {call : Call} {v : Variable} :
    scope.newcomer? call = some v ↔ call = .add v ∧ scope.find? v.identifier = none := by
  cases call with
  | add u =>
      rw [newcomer?_add, Option.ite_none_right_eq_some, Call.add.injEq, Option.some.injEq]
      constructor
      · rintro ⟨hnone, rfl⟩
        exact ⟨rfl, hnone⟩
      · rintro ⟨rfl, hnone⟩
        exact ⟨hnone, rfl⟩
  | find | remove | contains | size | entries | snapshot =>
      constructor
      · nofun
      · rintro ⟨hcall, -⟩
        cases hcall

private theorem entries_serve (scope : Scope) (call : Call) :
    (scope.serve call).2.entries =
      (scope.entries.filter fun u => !(scope.exchange call).drops u.identifier) ++
        (scope.newcomer? call).toList := by
  cases call with
  | add v =>
      have hkeep : (scope.entries.filter fun u =>
          !(scope.exchange (.add v)).drops u.identifier) = scope.entries := List.filter_true _
      rw [hkeep]
      cases hfind : scope.find? v.identifier with
      | none => simp [serve, newcomer?_add, hfind, (add_eq_of_find?_eq_none hfind).2]
      | some stored => simp [serve, newcomer?_add, hfind, add_eq_of_find?_eq_some hfind]
  | remove v =>
      have hnodup : scope.entries.Nodup := scope.identifiers_nodup.of_map
      have hentries : (scope.serve (.remove v)).2.entries = scope.entries.filter (· != v) :=
        (scope.entries_remove v).trans (hnodup.erase_eq_filter v)
      have hnone : scope.newcomer? (.remove v) = none := rfl
      rw [hentries, hnone, Option.toList_none, List.append_nil]
      refine List.filter_congr fun u hu => ?_
      have hdrops : (scope.exchange (.remove v)).drops u.identifier = true ↔ u = v := by
        simp [drops_exchange, find?_eq_some_iff.mpr hu]
      rw [Bool.eq_iff_iff, bne_iff_ne, Bool.not_eq_true', ← Bool.not_eq_true, hdrops]
  | find | contains | size | entries | snapshot =>
      exact (List.append_nil _).symm ▸ (List.filter_true _).symm

/-- A scope, and the log of all calls that have been made on it. -/
structure Session where
  log : Log
  scope : Scope

namespace Session

def fresh : Session :=
  ⟨[], .empty⟩

def ask (session : Session) (call : Call) : Session :=
  ⟨session.log ++ [session.scope.exchange call], (session.scope.serve call).2⟩

def askAll (session : Session) (calls : List Call) : Session :=
  calls.foldl ask session

private theorem askAll_concat (session : Session) (calls : List Call) (call : Call) :
    session.askAll (calls ++ [call]) = (session.askAll calls).ask call :=
  List.foldl_append

private theorem calls_askAll (calls : List Call) :
    (fresh.askAll calls).log.map Exchange.call = calls := by
  induction calls using List.reverseRecOn with
  | nil => rfl
  | append_singleton calls call ih =>
      rw [askAll_concat, ask, List.map_append, ih]
      rfl

/-- The scope is what its log says. -/
structure Sound (session : Session) : Prop where
  find?_eq : ∀ identifier, session.scope.find? identifier = session.log.live identifier
  dates : session.log.Dates session.scope.entries

namespace Sound

variable {session : Session}

private theorem fresh : Session.fresh.Sound :=
  ⟨fun _ => rfl, [], rfl, .nil, by simp⟩

private theorem ask (h : session.Sound) (call : Call) : (session.ask call).Sound where
  find?_eq identifier := by
    change (session.scope.serve call).2.find? identifier = _
    rw [find?_serve, h.find?_eq]
    exact (Log.live_concat ..).symm
  dates := by
    obtain ⟨dated, hentries, hsorted, hmakes⟩ := h.dates
    let kept := dated.filter fun entry =>
      !(session.scope.exchange call).drops entry.2.identifier
    let new := (session.scope.newcomer? call).toList.map fun v => (session.log.length, v)
    refine ⟨kept ++ new, ?_, ?_, ?_⟩
    · change _ = (session.scope.serve call).2.entries
      rw [entries_serve, ← hentries, List.filter_map, List.map_append, List.map_map]
      simp [kept, Function.comp_def]
    · rw [List.pairwise_append]
      refine ⟨hsorted.filter _, ?_, fun entry hentry later hlater => ?_⟩
      · cases hnew : session.scope.newcomer? call <;> simp [new, hnew]
      · obtain ⟨v, -, rfl⟩ := List.mem_map.mp hlater
        exact (hmakes entry (List.mem_of_mem_filter hentry)).lt_length
    · intro entry hentry
      rcases List.mem_append.mp hentry with hentry | hentry
      · obtain ⟨hmem, hkept⟩ := List.mem_filter.mp hentry
        rw [Bool.not_eq_true'] at hkept
        exact (hmakes entry hmem).concat hkept
      · obtain ⟨v, hv, rfl⟩ := List.mem_map.mp hentry
        obtain ⟨rfl, hnone⟩ := newcomer?_eq_some.mp (Option.mem_toList.mp hv)
        exact ⟨session.log, _, [], rfl, rfl, (h.find?_eq _).symm.trans hnone, by simp⟩

private theorem askAll (calls : List Call) : (Session.fresh.askAll calls).Sound := by
  induction calls using List.reverseRecOn with
  | nil => exact fresh
  | append_singleton calls call ih =>
      rw [askAll_concat]
      exact ih.ask call

end Sound

end Session

private theorem card_names (scope : Scope) :
    (scope.entries.map Variable.identifier).toFinset.card = scope.size := by
  rw [List.toFinset_card_of_nodup scope.identifiers_nodup, List.length_map]
  rfl

private theorem Session.Sound.asks {session : Session} (h : session.Sound) (call : Call) :
    session.log.Asks call (session.scope.serve call).1 := by
  cases call with
  | add v =>
      have hstored : (session.scope.add v).1 = (session.log.live v.identifier).getD v := by
        rw [← h.find?_eq]
        cases hfind : session.scope.find? v.identifier with
        | none => exact (add_eq_of_find?_eq_none hfind).1
        | some stored => rw [add_eq_of_find?_eq_some hfind, Option.getD_some]
      change session.log.Asks _ (.stored _)
      rw [hstored]
      exact .add v
  | find identifier =>
      change session.log.Asks _ (.found _)
      rw [h.find?_eq]
      exact .find identifier
  | remove v =>
      have hremoved : (session.scope.remove v).1 =
          decide (session.log.live v.identifier = some v) := by
        rw [← h.find?_eq, Bool.eq_iff_iff, fst_remove_eq_true_iff, decide_eq_true_iff]
      change session.log.Asks _ (.removed _)
      rw [hremoved]
      exact .remove v
  | contains identifier =>
      change session.log.Asks _ (.contained (session.scope.find? identifier).isSome)
      rw [h.find?_eq]
      exact .contains identifier
  | size =>
      change session.log.Asks _ (.counted _)
      rw [← card_names]
      refine .size _ fun name => ?_
      rw [List.mem_toFinset, ← h.find?_eq, Ne, find?_eq_none, not_not]
  | entries =>
      refine .entries session.scope.entries session.scope.identifiers_nodup.of_map h.dates
        fun v => ?_
      rw [← h.find?_eq, find?_eq_some_iff]
  | snapshot =>
      refine .snapshot session.scope.snapshot ?_ fun name type => ?_
      · rw [snapshot_eq, List.pairwise_map]
        exact session.scope.sorted_pairwise
      · simp only [snapshot_eq, List.mem_map, session.scope.sorted_perm.mem_iff, ← h.find?_eq,
          find?_eq_some, Prod.mk.injEq, and_assoc]

/-- After any calls on an empty scope, the log of them says what is live, and a further call is
answered as the log asks for. The log of that call says what is live behind it; the removal of a
variable that is not live itself changes nothing. -/
theorem answers_of_calls (before : List Call) (call : Call) :
    let session := Session.fresh.askAll before
    let later := session.ask call
    session.log.map Exchange.call = before ∧
      session.log.Asks call (session.scope.serve call).1 ∧
      (∀ identifier, later.scope.find? identifier = later.log.live identifier) ∧
      ∀ v, call = .remove v →
        if session.log.live v.identifier = some v
        then later.scope.entries = session.scope.entries.erase v else later.scope = session.scope := by
  intro session later
  have hsession : session.Sound := .askAll before
  refine ⟨Session.calls_askAll before, hsession.asks call, (hsession.ask call).find?_eq, ?_⟩
  rintro v rfl
  rw [← hsession.find?_eq]
  split
  · exact session.scope.entries_remove v
  next hother =>
    change (session.scope.remove v).2 = _
    rw [remove, if_neg hother]

end OnePass.Scope
