import ElectionReadiness.Proofs.TimeZone.Almanac.Histories
import ElectionReadiness.Proofs.TimeZone.Dublin
import ElectionReadiness.TimeZone.Lookup

/-!
# The order of resolved times in all zones

The kernel works out the changes of every zone of the catalog and finds that the spans of
all of them start in order, but for Dublin and its other name, whose changes begin with the
ones of 1916 and go on in order (`catalog_isOrderly`).  So resolving keeps the order of any
two civil times in every zone, except for the times of that night in Dublin, whose order it
reverses (`resolve_order`).
-/

set_option autoImplicit false

namespace ElectionReadiness.TimeZone

/-- The names of the zone of Dublin. -/
def dublinNames : List String := ["Eire", "Europe/Dublin"]

/-- The order of two times is reversed in a zone. -/
def Reversed (zone : String) (earlier later : CivilTime) : Prop :=
  zone ∈ dublinNames ∧ Dublin.Reversed earlier later

instance (zone : String) (earlier later : CivilTime) : Decidable (Reversed zone earlier later) :=
  inferInstanceAs (Decidable (_ ∧ _))

/-! ## Zones that begin like Dublin -/

namespace Almanac

/-- Marks begin with some, and the readings of the others ascend from a bound. -/
noncomputable def beginsWith (bound : Nat) (expected : List Mark) : List Mark → Bool :=
  fold (β := List Mark → Bool)
    (fun mark later marks =>
      List.rec false (fun here rest _ =>
        pick (Nat.beq mark.instant here.instant)
          (pick (Nat.beq mark.amount here.amount) (later rest) false) false) marks)
    (fun marks => ascends Mark.reading marks bound) expected

theorem exists_of_beginsWith {bound : Nat} {expected marks : List Mark}
    (begins : beginsWith bound expected marks = true) :
    ∃ rest, marks = expected ++ rest ∧ ascends Mark.reading rest bound = true := by
  induction expected generalizing marks with
  | nil => exact ⟨marks, rfl, begins⟩
  | cons mark expected ih =>
      cases marks with
      | nil => cases begins
      | cons here rest =>
          have parts : Nat.beq mark.instant here.instant = true ∧
              Nat.beq mark.amount here.amount = true ∧ beginsWith bound expected rest = true := by
            rw [beginsWith, fold_cons, ← beginsWith] at begins
            simpa only [pick_eq_and, Bool.and_eq_true] using begins
          obtain ⟨same_instant, same_amount, begins⟩ := parts
          obtain ⟨others, rfl, ascending⟩ := ih begins
          have same : mark = here := by
            obtain ⟨_, _⟩ := mark
            obtain ⟨_, _⟩ := here
            rw [Mark.mk.injEq]
            exact ⟨Nat.eq_of_beq_eq_true same_instant, Nat.eq_of_beq_eq_true same_amount⟩
          exact ⟨others, by rw [same, List.cons_append], ascending⟩

/-- The changes of Dublin up to the one that puts the clocks back. -/
def dublinMarks : List Mark :=
  [⟨59314033521, 171279⟩, ⟨60443720721, 174879⟩, ⟨60455208321, 176400⟩, ⟨60455210400, 172800⟩]

theorem dublinMarks_offsetChange :
    dublinMarks.map Mark.offsetChange = Dublin.earlyChanges ++ [Dublin.turn] := by decide

/-- A zone begins like Dublin, and its spans start in order afterwards. -/
noncomputable def isLikeDublin (history : ZoneHistory) : Bool :=
  pick (isReckonable history)
    (pick (Nat.beq (first history) 171279)
      (beginsWith 60455383200 dublinMarks (settled history)) false) false

theorem exists_of_isLikeDublin {history : ZoneHistory} (alike : isLikeDublin history = true) :
    history.timeline.first = Dublin.meanOffset ∧
      ∃ later, history.timeline.changes = Dublin.earlyChanges ++ Dublin.turn :: later ∧
        StartsInOrder (Dublin.turn :: later) := by
  simp only [isLikeDublin, pick_eq_and, Bool.and_eq_true] at alike
  obtain ⟨reckonable, mean, begins⟩ := alike
  obtain ⟨rest, settled_eq, ascending⟩ := exists_of_beginsWith begins
  refine ⟨?_, rest.map Mark.offsetChange, ?_, ?_⟩
  · rw [first_offset reckonable, Nat.eq_of_beq_eq_true mean]
    decide
  · rw [← settled_offsetChange reckonable, settled_eq, List.map_append,
      dublinMarks_offsetChange, List.append_assoc, List.singleton_append]
  · have turned : ascends Mark.reading (⟨60455210400, 172800⟩ :: rest) 0 = true :=
      ascends_cons.mpr ⟨Nat.zero_le _, ascending⟩
    exact startsInOrder_map turned

/-! ## The whole catalog -/

/-- The spans of a zone start in order, or it is Dublin. -/
noncomputable def isOrderly (entry : String × ZoneHistory) : Bool :=
  pick (dublinNames.contains entry.1) (isLikeDublin entry.2) (isOrdered entry.2)

theorem catalog_isOrderly : every isOrderly catalog = true := by decide +kernel

end Almanac

/-! ## Resolving in a zone -/

theorem mem_catalog_of_history? {zone : String} {history : ZoneHistory}
    (known : history? zone = some history) : (zone, history) ∈ catalog := by
  obtain ⟨before, after, catalog_eq, _⟩ := List.lookup_eq_some_iff.mp known
  rw [catalog_eq]
  exact List.mem_append_right _ (List.mem_cons_self ..)

/-- **In every zone, resolving keeps the order of two civil times, except for the times of
one night in Dublin, whose order it reverses.** -/
theorem resolve_order {zone : String} {earlier later universal universal' : CivilTime}
    (resolved : resolve zone earlier = some universal)
    (resolved' : resolve zone later = some universal') (order : earlier < later) :
    (Reversed zone earlier later → universal' < universal) ∧
      (¬Reversed zone earlier later → universal < universal') := by
  obtain ⟨history, known, resolved⟩ := Option.bind_eq_some_iff.mp resolved
  obtain ⟨history', known', resolved'⟩ := Option.bind_eq_some_iff.mp resolved'
  rw [known, Option.some.injEq] at known'
  subst known'
  have orderly :=
    Almanac.every_iff.mp Almanac.catalog_isOrderly _ (mem_catalog_of_history? known)
  rw [Almanac.isOrderly, Almanac.pick_eq_ite] at orderly
  split at orderly
  · next inDublin =>
    obtain ⟨mean, later, turns, starts⟩ := Almanac.exists_of_isLikeDublin orderly
    obtain ⟨reverses, keeps⟩ := Dublin.resolve_order mean turns starts resolved resolved' order
    have named : zone ∈ dublinNames := List.contains_iff_mem.mp inDublin
    exact ⟨fun reversed => reverses reversed.2,
      fun kept => keeps fun reversed => kept ⟨named, reversed⟩⟩
  · next elsewhere =>
    have starts := Almanac.startsInOrder_of orderly
    have unnamed : zone ∉ dublinNames := fun named =>
      elsewhere (List.contains_iff_mem.mpr named)
    exact ⟨fun reversed => absurd reversed.1 unnamed,
      fun _ => Timeline.resolve_lt_of_lt starts resolved resolved' order⟩

end ElectionReadiness.TimeZone
