/-!
# What is required of a setup

How many candidates and trustees an election needs, and whether its candidates
must have names.
-/

set_option autoImplicit false

namespace ElectionReadiness

/-- How strictly the names of candidates are checked. -/
inductive NameCheck where
  /-- A blank name keeps the candidates incomplete. -/
  | strict
  | lenient
  deriving DecidableEq, Repr

/-- What an election is required to have. -/
structure Requirements where
  minCandidates : Nat := 2
  minTrustees : Nat := 3
  candidateNames : NameCheck := .strict
  deriving DecidableEq, Repr

/-- The usual requirements. -/
def Requirements.usual : Requirements := {}

end ElectionReadiness
