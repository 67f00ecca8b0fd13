import OnePass.Proofs.Derivation.Replay
/-!
# What a source hands out

The transcript of a source is what comes of asking it for tokens until it hands out one for the end
of the text. A failure does not end it: the source is asked again from where it stands.
-/
namespace OnePass

/-- What a source hands out before the first token for the end of the text, and that token. -/
structure Transcript where
  outcomes : List (Except Failure Token)
  ending : Token

/-- The transcript with one more outcome in front. -/
def Transcript.cons (outcome : Except Failure Token) (later : Transcript) : Transcript :=
  ⟨outcome :: later.outcomes, later.ending⟩

namespace Source

def transcript (source : Source) : Transcript :=
  match _hnext : source.next with
  | (.error failure, rest) =>
    let later := rest.transcript
    { later with outcomes := .error failure :: later.outcomes }
  | (.ok token, rest) =>
    if _hend : token.kind = .endOfFile then ⟨[], token⟩
    else
      let later := rest.transcript
      { later with outcomes := .ok token :: later.outcomes }
termination_by source.remaining
decreasing_by
  · have hlt := remaining_next_lt_of_error (congrArg Prod.fst _hnext)
    rwa [_hnext] at hlt
  · have hlt := remaining_next_lt (congrArg Prod.fst _hnext) _hend
    rwa [_hnext] at hlt

theorem transcript_of_end {source rest : Source} {token : Token}
    (hnext : source.next = (.ok token, rest)) (hend : token.kind = .endOfFile) :
    source.transcript = ⟨[], token⟩ := by
  rw [transcript]
  split
  next hother => simp [hnext] at hother
  next hsame =>
    rw [hnext] at hsame
    cases hsame
    rw [dif_pos hend]

theorem transcript_of_ne_end {source rest : Source} {token : Token}
    (hnext : source.next = (.ok token, rest)) (hend : token.kind ≠ .endOfFile) :
    source.transcript = .cons (.ok token) rest.transcript := by
  rw [transcript]
  split
  next hother => simp [hnext] at hother
  next hsame =>
    rw [hnext] at hsame
    cases hsame
    rw [dif_neg hend]
    rfl

theorem transcript_of_error {source rest : Source} {failure : Failure}
    (hnext : source.next = (.error failure, rest)) :
    source.transcript = .cons (.error failure) rest.transcript := by
  rw [transcript]
  split
  next hsame =>
    rw [hnext] at hsame
    cases hsame
    rfl
  next hother => simp [hnext] at hother

theorem next_of_place? {source : Source} {c : Cursor} (h : source.place? = some c) :
    source.next = (.ok c.token, c.source) := by
  unfold place? at h
  split at h
  next token rest hnext =>
    cases h
    exact hnext
  next => cases h

/-- The tokens between the first place of a source and the end of its text are its transcript. -/
theorem transcript_of_passes {source : Source} {c c' : Cursor} {tokens : List Token}
    (hplace : source.place? = some c) (hpasses : c.Passes tokens c')
    (hkinds : ∀ token ∈ tokens, token.kind ≠ .endOfFile) (hend : c'.token.kind = .endOfFile) :
    source.transcript = ⟨tokens.map .ok, c'.token⟩ := by
  induction hpasses generalizing source with
  | here c => exact transcript_of_end (next_of_place? hplace) hend
  | step hnext _ ih =>
      rw [List.forall_mem_cons] at hkinds
      have hlater := ih hnext hkinds.2 hend
      rw [transcript_of_ne_end (next_of_place? hplace) hkinds.1, hlater]
      rfl

end Source

end OnePass
