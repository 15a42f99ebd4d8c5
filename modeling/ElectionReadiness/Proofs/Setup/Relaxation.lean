import ElectionReadiness.Proofs.Setup.FirstViolation

/-!
# Relaxing the requirements never loses progress

Requirements are relaxed by asking for fewer candidates or trustees, or for names of candidates
no more (`Requirements.Relaxes`).  An outcome changes only where the shortfall is about a
requirement that has changed: too few of something of which fewer are asked for now, or a blank
name where names are no longer asked for (`Requirements.Lifts`).

So a check either has the same outcome under relaxed requirements, or it failed with such a
shortfall before (`Setup.check_of_relaxes`).  What passes still passes, and an assessment that
did not stop at such a shortfall stays as it is (`Setup.relaxing_keeps_progress`).  Where names
alone are waived, the stage at which the assessment stops is known from the shortfall
(`Setup.active_eq_stage_of_shortfall?`): it is the candidates, and they become complete.
-/

set_option autoImplicit false

namespace ElectionReadiness

/-! ## Relaxed requirements -/

namespace Requirements

/-- The same requirements, with names asked for strictly or not. -/
def withNames (requirements : Requirements) (names : NameCheck) : Requirements :=
  { requirements with candidateNames := names }

/-- Requirements that ask for no more: no more candidates, no more trustees, and no names where
none were asked for. -/
structure Relaxes (relaxed requirements : Requirements) : Prop where
  minCandidates : relaxed.minCandidates ≤ requirements.minCandidates
  minTrustees : relaxed.minTrustees ≤ requirements.minTrustees
  candidateNames : relaxed.candidateNames = requirements.candidateNames ∨
    relaxed.candidateNames = .lenient

/-- A shortfall is about a requirement that has been relaxed. -/
inductive Lifts (relaxed requirements : Requirements) : Shortfall → Prop
  | tooFewCandidates (fewer : relaxed.minCandidates < requirements.minCandidates) (found : Nat) :
      Lifts relaxed requirements (.tooFewCandidates found requirements.minCandidates)
  | blankCandidateName (waived : relaxed.candidateNames ≠ requirements.candidateNames)
      (index : Nat) : Lifts relaxed requirements (.blankCandidateName index)
  | tooFewTrustees (fewer : relaxed.minTrustees < requirements.minTrustees) (found : Nat) :
      Lifts relaxed requirements (.tooFewTrustees found requirements.minTrustees)

theorem lenient_relaxes_strict (requirements : Requirements) :
    (requirements.withNames .lenient).Relaxes (requirements.withNames .strict) :=
  ⟨Nat.le_refl _, Nat.le_refl _, .inr rfl⟩

/-- Where names alone are waived, only blank names are lifted. -/
theorem eq_blank_of_lifts {requirements : Requirements} {shortfall : Shortfall}
    (lifted : (requirements.withNames .lenient).Lifts (requirements.withNames .strict) shortfall) :
    ∃ index, shortfall = .blankCandidateName index := by
  cases lifted with
  | tooFewCandidates fewer => exact absurd fewer (Nat.lt_irrefl _)
  | blankCandidateName _ index => exact ⟨index, rfl⟩
  | tooFewTrustees fewer => exact absurd fewer (Nat.lt_irrefl _)

end Requirements

/-! ## Checks under relaxed requirements -/

section

variable {requirements relaxed : Requirements}

theorem checkCandidates_of_relaxes (relaxes : relaxed.Relaxes requirements)
    (candidates : List Candidate) :
    checkCandidates relaxed candidates = checkCandidates requirements candidates ∨
      ∃ shortfall, checkCandidates requirements candidates = .error shortfall ∧
        relaxed.Lifts requirements shortfall := by
  unfold checkCandidates
  by_cases few : candidates.length < requirements.minCandidates
  · rw [if_pos few]
    rcases Nat.eq_or_lt_of_le relaxes.minCandidates with same | fewer
    · exact .inl (by rw [same, if_pos few])
    · exact .inr ⟨_, rfl, .tooFewCandidates fewer _⟩
  · have enough : ¬candidates.length < relaxed.minCandidates :=
      fun less => few (Nat.lt_of_lt_of_le less relaxes.minCandidates)
    rw [if_neg few, if_neg enough]
    rcases relaxes.candidateNames with same | lenient
    · exact .inl (by rw [same])
    · rw [lenient]
      cases names : requirements.candidateNames with
      | lenient => exact .inl rfl
      | strict =>
          cases firstBlank? (candidates.map Candidate.name) with
          | none => exact .inl rfl
          | some index =>
              have waived : relaxed.candidateNames ≠ requirements.candidateNames := by
                simp [lenient, names]
              exact .inr ⟨_, rfl, .blankCandidateName waived index⟩

theorem checkTrustees_of_relaxes (relaxes : relaxed.Relaxes requirements)
    (trustees : List Trustee) :
    checkTrustees relaxed trustees = checkTrustees requirements trustees ∨
      ∃ shortfall, checkTrustees requirements trustees = .error shortfall ∧
        relaxed.Lifts requirements shortfall := by
  unfold checkTrustees
  by_cases few : trustees.length < requirements.minTrustees
  · rw [if_pos few]
    rcases Nat.eq_or_lt_of_le relaxes.minTrustees with same | fewer
    · exact .inl (by rw [same, if_pos few])
    · exact .inr ⟨_, rfl, .tooFewTrustees fewer _⟩
  · have enough : ¬trustees.length < relaxed.minTrustees :=
      fun less => few (Nat.lt_of_lt_of_le less relaxes.minTrustees)
    rw [if_neg few, if_neg enough]
    exact .inl rfl

/-- Candidates with a blank name pass where names are waived. -/
theorem checkCandidates_lenient {candidates : List Candidate} {index : Nat}
    (blank : checkCandidates (requirements.withNames .strict) candidates =
      .error (.blankCandidateName index)) :
    checkCandidates (requirements.withNames .lenient) candidates = .ok () := by
  rw [checkCandidates_eq_ok_iff]
  refine ⟨?_, fun strict => nomatch strict⟩
  by_contra few
  have less : candidates.length < (requirements.withNames .strict).minCandidates :=
    Nat.lt_of_not_le few
  rw [checkCandidates, if_pos less] at blank
  cases blank

end

namespace Setup

variable {Instant : Type} [LT Instant] [DecidableLT Instant]

section

variable {requirements relaxed : Requirements} (setup : Setup) (calendar : Calendar Instant)

/-- A check has the same outcome under relaxed requirements, unless it failed for a requirement
that has been relaxed. -/
theorem check_of_relaxes (relaxes : relaxed.Relaxes requirements) (stage : Stage) :
    setup.check relaxed calendar stage = setup.check requirements calendar stage ∨
      ∃ shortfall, setup.check requirements calendar stage = .error shortfall ∧
        relaxed.Lifts requirements shortfall := by
  cases stage with
  | candidates =>
      rw [check, check]
      cases setup.candidates with
      | none => exact .inl rfl
      | some candidates => exact checkCandidates_of_relaxes relaxes candidates
  | trustees =>
      rw [check, check]
      cases setup.trustees with
      | none => exact .inl rfl
      | some trustees => exact checkTrustees_of_relaxes relaxes trustees
  | _ => exact .inl rfl

/-- What passes still passes under relaxed requirements. -/
theorem passes_of_relaxes (relaxes : relaxed.Relaxes requirements) (stage : Stage)
    (passes : setup.check requirements calendar stage = .ok ()) :
    setup.check relaxed calendar stage = .ok () := by
  rcases setup.check_of_relaxes calendar relaxes stage with same | ⟨shortfall, fails, _⟩
  · rw [same, passes]
  · rw [passes] at fails
    cases fails

/-- Relaxed requirements change nothing for a setup whose shortfall they do not lift. -/
theorem assess_eq_of_not_lifted (relaxes : relaxed.Relaxes requirements)
    (kept : ∀ shortfall, (setup.assess requirements calendar).shortfall? = some shortfall →
      ¬relaxed.Lifts requirements shortfall) :
    setup.assess relaxed calendar = setup.assess requirements calendar := by
  refine assess_eq_of_agree fun stage reached => ?_
  rcases setup.check_of_relaxes calendar relaxes stage with same | ⟨shortfall, fails, lifted⟩
  · exact same
  · exact absurd lifted (kept shortfall (shortfall?_of_check_eq_error reached fails))

end

section

variable (setup : Setup) (requirements : Requirements) (calendar : Calendar Instant)

/-- A setup that stops at a blank name has complete candidates where names are waived. -/
theorem candidates_complete_of_blank {index : Nat}
    (blank : (setup.assess (requirements.withNames .strict) calendar).shortfall? =
      some (.blankCandidateName index)) :
    .candidates ∈
      (setup.assess (requirements.withNames .lenient) calendar).progress.completed := by
  have stopped := active_eq_stage_of_shortfall? blank
  have fails := setup.check_active (requirements.withNames .strict) calendar
  rw [blank, stopped] at fails
  have here : setup.check (requirements.withNames .lenient) calendar .candidates = .ok () := by
    rw [check]
    cases listed : setup.candidates with
    | none => simp [Shortfall.stage, check, checkSection, listed] at fails
    | some candidates =>
        simp only [Shortfall.stage, check, checkSection, listed] at fails
        exact checkCandidates_lenient fails
  rw [mem_completed_iff_passes]
  refine ⟨by decide, fun earlier upTo => ?_⟩
  rcases Nat.eq_or_lt_of_le upTo with same | before
  · rw [Stage.rank_injective same, here]
  · have complete : earlier ∈
        (setup.assess (requirements.withNames .strict) calendar).progress.completed := by
      rw [mem_completed_iff, stopped]
      exact before
    rw [mem_completed_iff_passes] at complete
    exact setup.passes_of_relaxes calendar requirements.lenient_relaxes_strict earlier
      (complete.2 earlier (Nat.le_refl _))

/-- **Relaxing the requirements never loses progress.**  Under requirements that ask for no more,
the active stage is no earlier and every complete stage is still complete.  Nothing changes
unless there were too few candidates or trustees or a candidate with a blank name.  Where names
alone are waived, nothing changes unless there was such a name, and then the candidates become
complete. -/
theorem relaxing_keeps_progress :
    (∀ relaxed : Requirements, relaxed.Relaxes requirements →
      (setup.assess requirements calendar).progress.active ≤
          (setup.assess relaxed calendar).progress.active ∧
        (∀ stage ∈ (setup.assess requirements calendar).progress.completed,
          stage ∈ (setup.assess relaxed calendar).progress.completed) ∧
        ((∀ found required, (setup.assess requirements calendar).shortfall? ≠
              some (.tooFewCandidates found required)) →
          (∀ index, (setup.assess requirements calendar).shortfall? ≠
              some (.blankCandidateName index)) →
          (∀ found required, (setup.assess requirements calendar).shortfall? ≠
              some (.tooFewTrustees found required)) →
            setup.assess relaxed calendar = setup.assess requirements calendar)) ∧
      ((∀ index, (setup.assess (requirements.withNames .strict) calendar).shortfall? ≠
          some (.blankCandidateName index)) →
        setup.assess (requirements.withNames .lenient) calendar =
          setup.assess (requirements.withNames .strict) calendar) ∧
      ∀ index, (setup.assess (requirements.withNames .strict) calendar).shortfall? =
          some (.blankCandidateName index) →
        .candidates ∈
          (setup.assess (requirements.withNames .lenient) calendar).progress.completed := by
  refine ⟨fun relaxed relaxes => ?_, fun named => ?_, fun index blank => ?_⟩
  · have further : (setup.assess requirements calendar).progress.active ≤
        (setup.assess relaxed calendar).progress.active :=
      active_le_of_checks (setup.passes_of_relaxes calendar relaxes)
    refine ⟨further, mem_completed_of_active_le further, fun candidates named trustees => ?_⟩
    refine setup.assess_eq_of_not_lifted calendar relaxes fun shortfall found lifted => ?_
    cases lifted with
    | tooFewCandidates _ count => exact candidates count _ found
    | blankCandidateName _ index => exact named index found
    | tooFewTrustees _ count => exact trustees count _ found
  · refine setup.assess_eq_of_not_lifted calendar requirements.lenient_relaxes_strict ?_
    intro shortfall found lifted
    obtain ⟨index, rfl⟩ := Requirements.eq_blank_of_lifts lifted
    exact named index found
  · exact setup.candidates_complete_of_blank requirements calendar blank

end

/-- One candidate of two has no name.  That keeps the candidates from being complete as long as
names are asked for.  A setup without candidates is no better off when fewer are asked for. -/
theorem candidates_complete_without_names :
    let calendar : Calendar Nat := ⟨fun zone => zone == "UTC", fun text =>
      if text = "now" then some 1 else none⟩
    let relaxed : Requirements :=
      { minCandidates := 1, minTrustees := 0, candidateNames := .lenient }
    let window : Option Window := some ⟨some "now", some "now"⟩
    let unlisted : Setup :=
      { name := "Town Vote"
        encryptionParameters := some ⟨"Ag", "Aw", "AQ"⟩
        timing := some
          { timeZone := "UTC"
            parameterConfirmation := window
            voterRegistration := window
            voteCasting := window
            tallyDecryption := window } }
    let listed : Setup := { unlisted with candidates := some (Candidate.ofNames ["Anna", "\t"]) }
    (unlisted.assess .usual calendar).shortfall? = some .missingCandidates ∧
      unlisted.assess relaxed calendar = unlisted.assess .usual calendar ∧
      (listed.assess .usual calendar).shortfall? = some (.blankCandidateName 1) ∧
      Stage.candidates ≤ (listed.assess relaxed calendar).progress.active ∧
      Stage.candidates ∈
        (listed.assess (Requirements.usual.withNames .lenient) calendar).progress.completed := by
  intro calendar relaxed window unlisted listed
  have relaxes : relaxed.Relaxes .usual := ⟨by decide, by decide, .inr rfl⟩
  have missing : (unlisted.assess .usual calendar).shortfall? = some .missingCandidates := rfl
  have blank : (listed.assess .usual calendar).shortfall? = some (.blankCandidateName 1) := rfl
  have same := ((unlisted.relaxing_keeps_progress .usual calendar).1 relaxed relaxes).2.2
  have keeps := listed.relaxing_keeps_progress .usual calendar
  refine ⟨missing, same ?_ ?_ ?_, blank, (keeps.1 relaxed relaxes).1, keeps.2.2 1 blank⟩
  · intro found required
    simp [missing]
  · intro index
    simp [missing]
  · intro found required
    simp [missing]

end Setup

end ElectionReadiness
