import ElectionReadiness.Proofs.TimeZone.Almanac
import ElectionReadiness.Proofs.TimeZone.SpanOrder

/-!
# The changes of a zone in natural numbers

The changes that the regimes of a zone bring, worked out a second time from the entries of
the almanac.  A `Mark` is a change in natural numbers: its instant counts seconds from the
day before the year 1, and its amount is a saving moved up by a day or an offset moved up by
two.  `settled_offsetChange` says that the settled marks of a zone are the changes of its
timeline, if its numbers are modest and its changes come in the order of time
(`isReckonable`); both are themselves questions for the kernel.
-/

set_option autoImplicit false

namespace ElectionReadiness.TimeZone.Almanac

/-- A change of saving or of offset in natural numbers. -/
structure Mark where
  instant : Nat
  amount : Nat

/-- The change of saving of a mark. -/
def Mark.savingChange (mark : Mark) : SavingChange :=
  ⟨(mark.instant : Int) - 62135683200, (mark.amount : Int) - 86400⟩

/-- The change of offset of a mark. -/
def Mark.offsetChange (mark : Mark) : OffsetChange :=
  ⟨(mark.instant : Int) - 62135683200, (mark.amount : Int) - 172800⟩

/-! ## Following the entries -/

/-- The instant of an entry, by the offset and the saving in force until then. -/
noncomputable def instant (offset saving : Nat) (entry : Entry) : Nat :=
  Clock.rec (entry.reading + 172800 - offset - saving) (entry.reading + 86400 - offset)
    entry.reading entry.clock

theorem instant_eq {offset saving : Nat} {entry : Entry} (offset_le : offset ≤ 172800)
    (saving_le : saving ≤ 172800) (sound : entry.Sound) :
    entry.occurrence.instant ((offset : Int) - 86400) ((saving : Int) - 86400) =
      (instant offset saving entry : Int) - 62135683200 := by
  obtain ⟨reading, clock, amount⟩ := entry
  have large : 691200 ≤ reading := sound.reading_large
  cases clock <;> simp only [Entry.occurrence, Occurrence.instant, instant] <;> omega

/-- The regime is over at an instant. -/
noncomputable def isOver (offset saving : Nat) (stop : Option Nat) (at_ : Nat) : Bool :=
  Option.rec false (fun reading => Nat.ble (reading + 172800 - offset - saving) at_) stop

/-- The changes that entries make, from a saving in force, until the clock reads `stop`. -/
noncomputable def follow (offset : Nat) (stop : Option Nat) (entries : List Entry) :
    Nat → List Mark :=
  fold (β := Nat → List Mark)
    (fun entry later saving =>
      pick (isOver offset saving stop (instant offset saving entry)) []
        (⟨instant offset saving entry, entry.saving⟩ :: later entry.saving))
    (fun _ => []) entries

theorem follow_cons (offset : Nat) (stop : Option Nat) (entry : Entry) (rest : List Entry)
    (saving : Nat) :
    follow offset stop (entry :: rest) saving =
      if isOver offset saving stop (instant offset saving entry) = true then []
      else ⟨instant offset saving entry, entry.saving⟩ :: follow offset stop rest entry.saving :=
  pick_eq_ite ..

/-- The entries of a regime bring the changes that its occurrences bring. -/
theorem follow_savingChange {offset : Nat} (offset_le : offset ≤ 172800) {stop : Option Nat}
    (stop_large : ∀ reading ∈ stop, 691200 ≤ reading) {entries : List Entry}
    (sound : ∀ entry ∈ entries, entry.Sound) {saving : Nat} (saving_le : saving ≤ 172800) :
    (follow offset stop entries saving).map Mark.savingChange =
      followOccurrences ((offset : Int) - 86400)
        (stop.map fun (reading : Nat) => (reading : Int) - 62135683200) ((saving : Int) - 86400)
        (entries.map Entry.occurrence) := by
  induction entries generalizing saving with
  | nil => rfl
  | cons entry rest ih =>
      rw [List.forall_mem_cons] at sound
      have time := instant_eq offset_le saving_le sound.1
      have rest_eq := ih sound.2 sound.1.saving_le
      cases stop with
      | none =>
          simp only [follow_cons, isOver, Option.map_none, Bool.false_eq_true, if_false,
            List.map_cons, followOccurrences, time]
          rw [rest_eq]
          rfl
      | some reading =>
          have large := stop_large reading rfl
          have same : (reading : Int) - 62135683200 - ((offset : Int) - 86400) -
                ((saving : Int) - 86400) ≤
                (instant offset saving entry : Int) - 62135683200 ↔
              reading + 172800 - offset - saving ≤ instant offset saving entry := by omega
          simp only [follow_cons, isOver, Option.map_some, Nat.ble_eq, decide_eq_true_eq, same,
            List.map_cons, followOccurrences, time]
          split
          · rfl
          · rw [List.map_cons, rest_eq]
            rfl

theorem follow_amount_le {offset : Nat} {stop : Option Nat} {entries : List Entry}
    (sound : ∀ entry ∈ entries, entry.Sound) {saving : Nat} :
    ∀ mark ∈ follow offset stop entries saving, mark.amount ≤ 172800 := by
  induction entries generalizing saving with
  | nil => intro mark mem; cases mem
  | cons entry rest ih =>
      rw [List.forall_mem_cons] at sound
      intro mark mem
      rw [follow_cons] at mem
      split at mem
      · cases mem
      · rcases List.mem_cons.mp mem with rfl | mem
        · exact sound.1.saving_le
        · exact ih sound.2 mark mem

/-- The saving after marks. -/
noncomputable def last (marks : List Mark) : Nat → Nat :=
  fold (fun mark later _ => later mark.amount) (fun saving => saving) marks

theorem last_cons (mark : Mark) (rest : List Mark) (saving : Nat) :
    last (mark :: rest) saving = last rest mark.amount := rfl

theorem last_eq (marks : List Mark) (saving : Nat) :
    last marks saving = (marks.getLast?.map Mark.amount).getD saving := by
  induction marks generalizing saving with
  | nil => rfl
  | cons mark rest ih =>
      rw [last_cons, ih, List.getLast?_cons]
      cases rest.getLast? <;> rfl

theorem last_le {marks : List Mark} (all : ∀ mark ∈ marks, mark.amount ≤ 172800) {saving : Nat}
    (saving_le : saving ≤ 172800) : last marks saving ≤ 172800 := by
  induction marks generalizing saving with
  | nil => exact saving_le
  | cons mark rest ih =>
      rw [List.forall_mem_cons] at all
      exact ih all.2 all.1

/-! ## Regimes -/

/-- The offset of a regime. -/
noncomputable def offset (regime : Regime) : Nat := raised 1 regime.offset

/-- The saving of a regime before any change. -/
noncomputable def initial (regime : Regime) : Nat :=
  Saving.rec (fun minutes => raised 60 minutes) (fun _ => 86400) regime.saving

/-- The offset and the savings of a regime are modest. -/
noncomputable def isModestRegime (regime : Regime) : Bool :=
  pick (isModest 1 regime.offset)
    (Saving.rec (fun minutes => isModest 60 minutes) (fun rules => every isModestRule rules)
      regime.saving) false

/-- A reading of the wall clock. -/
noncomputable def wallReading (wall : WallTime) : Nat :=
  86400 * dayCount wall.year wall.month wall.day +
    Int.rec (fun seconds => seconds) (fun _ => 0) wall.seconds

/-- A reading lies in the years of rules, and not before midnight. -/
noncomputable def isModestWall (wall : WallTime) : Bool :=
  pick (Nat.ble 1800 wall.year)
    (pick (Nat.ble wall.year 2099) (Int.rec (fun _ => true) (fun _ => false) wall.seconds) false)
    false

/-- What is known of a modest regime. -/
structure ModestRegime (regime : Regime) : Prop where
  offset_modest : isModest 1 regime.offset = true
  fixed_modest : ∀ minutes, regime.saving = .fixed minutes → isModest 60 minutes = true
  rules_modest : ∀ rules, regime.saving = .following rules →
    ∀ change ∈ rules, isModestRule change = true

theorem modestRegime_of {regime : Regime} (modest : isModestRegime regime = true) :
    ModestRegime regime := by
  obtain ⟨seconds, saving⟩ := regime
  rw [isModestRegime, pick_eq_and, Bool.and_eq_true] at modest
  refine ⟨modest.1, ?_, ?_⟩
  · rintro minutes rfl
    exact modest.2
  · rintro rules rfl
    exact every_iff.mp modest.2

/-- What is known of a modest reading. -/
structure ModestWall (wall : WallTime) : Prop where
  year_ge : 1800 ≤ wall.year
  year_le : wall.year ≤ 2099
  seconds_nonneg : 0 ≤ wall.seconds

theorem modestWall_of {wall : WallTime} (modest : isModestWall wall = true) :
    ModestWall wall := by
  obtain ⟨year, month, day, seconds⟩ := wall
  simp only [isModestWall, pick_eq_and, Bool.and_eq_true, Nat.ble_eq] at modest
  refine ⟨modest.1, modest.2.1, ?_⟩
  cases seconds with
  | ofNat n => exact Int.natCast_nonneg n
  | negSucc n => cases modest.2.2

section

variable {regime : Regime} (modest : ModestRegime regime)
include modest

theorem offset_eq : (offset regime : Int) = regime.offset + 86400 := by
  rw [offset, raised_eq modest.offset_modest, Int.natCast_one, Int.one_mul]

theorem offset_le : offset regime ≤ 172800 := raised_le modest.offset_modest

theorem initial_eq : (initial regime : Int) = regime.initialSaving + 86400 := by
  unfold initial Regime.initialSaving
  cases kept : regime.saving with
  | fixed minutes => exact raised_eq (modest.fixed_modest minutes kept)
  | following rules => rfl

theorem initial_le : initial regime ≤ 172800 := by
  unfold initial
  cases kept : regime.saving with
  | fixed minutes => exact raised_le (modest.fixed_modest minutes kept)
  | following rules => exact (by decide : 86400 ≤ 172800)

end

theorem wallReading_eq {wall : WallTime} (modest : ModestWall wall) :
    wall.reading = (wallReading wall : Int) - 62135683200 := by
  have day := dayCount_eq modest.year_ge wall.month wall.day
  have nonneg := modest.seconds_nonneg
  unfold WallTime.reading wallReading
  cases kept : wall.seconds with
  | ofNat n =>
      simp only [Int.ofNat_eq_natCast]
      omega
  | negSucc n => omega

theorem wallReading_large {wall : WallTime} (modest : ModestWall wall) :
    691200 ≤ wallReading wall := by
  have := dayCount_large modest.year_ge wall.month wall.day
  unfold wallReading
  omega

/-! ## The changes of a regime -/

/-- The changes that a regime's rules make. -/
noncomputable def changes (regime : Regime) (stop : Option WallTime) : List Mark :=
  Saving.rec (fun _ => [])
    (fun rules => follow (offset regime) (stop.map wallReading)
      (entries rules (Option.rec 2099 (fun wall => wall.year) stop)) 86400)
    regime.saving

section

variable {regime : Regime} (modest : ModestRegime regime)
include modest

theorem changes_savingChange {stop : Option WallTime} (ends : ∀ wall ∈ stop, ModestWall wall) :
    (changes regime stop).map Mark.savingChange = regime.savingChanges stop := by
  unfold changes Regime.savingChanges
  cases kept : regime.saving with
  | fixed minutes => rfl
  | following rules =>
      have modestRules := modest.rules_modest rules kept
      have large : ∀ reading ∈ stop.map wallReading, 691200 ≤ reading := by
        intro reading mem
        obtain ⟨wall, isStop, rfl⟩ := Option.map_eq_some_iff.mp mem
        exact wallReading_large (ends wall isStop)
      have same_offset : (offset regime : Int) - 86400 = regime.offset := by
        rw [offset_eq modest, Int.add_sub_cancel]
      simp only []
      rw [follow_savingChange (offset_le modest) large (entries_sound modestRules _) (by decide),
        same_offset, Option.map_map]
      cases stop with
      | none => rw [entries_occurrence modestRules (Nat.le_refl 2099)]; rfl
      | some wall =>
          have wallModest := ends wall rfl
          rw [entries_occurrence modestRules wallModest.year_le, Option.map_some,
            Option.map_some, wallReading_eq wallModest]
          rfl

theorem changes_amount_le (stop : Option WallTime) :
    ∀ mark ∈ changes regime stop, mark.amount ≤ 172800 := by
  unfold changes
  cases kept : regime.saving with
  | fixed minutes => intro mark mem; cases mem
  | following rules =>
      exact follow_amount_le (entries_sound (modest.rules_modest rules kept) _)

/-- The saving after the changes that marks stand for. -/
theorem savingAfter_eq (marks : List Mark) :
    regime.savingAfter (marks.map Mark.savingChange) =
      (last marks (initial regime) : Int) - 86400 := by
  rw [Regime.savingAfter, last_eq, List.getLast?_map]
  cases marks.getLast? with
  | none =>
      simp only [Option.map_none, Option.getD_none]
      rw [initial_eq modest, Int.add_sub_cancel]
  | some mark => rfl

end

/-- The instant at which a regime ends. -/
noncomputable def finish (regime : Regime) (wall : WallTime) : Nat :=
  wallReading wall + 172800 - offset regime - last (changes regime (some wall)) (initial regime)

theorem finish_eq {regime : Regime} (modest : ModestRegime regime) {wall : WallTime}
    (wallModest : ModestWall wall) :
    regime.endInstant wall = (finish regime wall : Int) - 62135683200 := by
  have ends : ∀ other ∈ some wall, ModestWall other := by
    rintro other ⟨⟩
    exact wallModest
  have saving_le :=
    last_le (changes_amount_le modest (some wall)) (initial_le modest)
  have := offset_le modest
  have := offset_eq modest
  have := wallReading_large wallModest
  rw [Regime.endInstant, ← changes_savingChange modest ends, savingAfter_eq modest,
    wallReading_eq wallModest, finish]
  omega

/-- Changes of saving as changes of offset. -/
noncomputable def shifted (offset : Nat) (marks : List Mark) : List Mark :=
  fold (fun mark later => ⟨mark.instant, offset + mark.amount⟩ :: later) [] marks

theorem shifted_cons (offset : Nat) (mark : Mark) (rest : List Mark) :
    shifted offset (mark :: rest) =
      ⟨mark.instant, offset + mark.amount⟩ :: shifted offset rest := rfl

theorem shifted_offsetChange {regime : Regime} (modest : ModestRegime regime)
    (marks : List Mark) :
    (shifted (offset regime) marks).map Mark.offsetChange =
      (marks.map Mark.savingChange).map regime.offsetChange := by
  induction marks with
  | nil => rfl
  | cons mark rest ih =>
      have same := offset_eq modest
      rw [shifted_cons, List.map_cons, List.map_cons, List.map_cons, ih, List.cons.injEq]
      refine ⟨?_, rfl⟩
      simp only [Mark.offsetChange, Regime.offsetChange, Mark.savingChange,
        OffsetChange.mk.injEq, true_and]
      omega

/-- The changes of offset of a regime that starts at an instant, with a saving in force
before its changes. -/
noncomputable def since (offset start : Nat) (marks : List Mark) : Nat → List Mark :=
  List.rec (motive := fun _ => Nat → List Mark) (fun saving => [⟨start, offset + saving⟩])
    (fun mark rest later saving =>
      pick (Nat.ble mark.instant start) (later mark.amount)
        (⟨start, offset + saving⟩ :: shifted offset (mark :: rest)))
    marks

theorem since_cons (offset start : Nat) (mark : Mark) (rest : List Mark) (saving : Nat) :
    since offset start (mark :: rest) saving =
      if mark.instant ≤ start then since offset start rest mark.amount
      else ⟨start, offset + saving⟩ :: shifted offset (mark :: rest) :=
  pick_ble ..

theorem since_eq (offset start : Nat) (marks : List Mark) (saving : Nat) :
    since offset start marks saving =
      ⟨start, offset + last (marks.takeWhile (·.instant ≤ start)) saving⟩ ::
        shifted offset (marks.dropWhile (·.instant ≤ start)) := by
  induction marks generalizing saving with
  | nil => rfl
  | cons mark rest ih =>
      rw [since_cons]
      by_cases early : mark.instant ≤ start
      · rw [if_pos early, ih, List.takeWhile_cons_of_pos (by simpa using early),
          List.dropWhile_cons_of_pos (by simpa using early), last_cons]
      · rw [if_neg early, List.takeWhile_cons_of_neg (by simpa using early),
          List.dropWhile_cons_of_neg (by simpa using early)]
        rfl

theorem since_offsetChange {regime : Regime} (modest : ModestRegime regime)
    {stop : Option WallTime} (ends : ∀ wall ∈ stop, ModestWall wall) (start : Nat) :
    (since (offset regime) start (changes regime stop) (initial regime)).map Mark.offsetChange =
      regime.offsetChanges ((start : Int) - 62135683200) stop := by
  have early : ((fun change : SavingChange =>
        decide (change.instant ≤ (start : Int) - 62135683200)) ∘ Mark.savingChange) =
      fun mark : Mark => decide (mark.instant ≤ start) := by
    funext mark
    refine decide_eq_decide.mpr ?_
    simp only [Mark.savingChange]
    omega
  have same := offset_eq modest
  simp only [Regime.offsetChanges]
  rw [since_eq, ← changes_savingChange modest ends, List.takeWhile_map, List.dropWhile_map, early,
    savingAfter_eq modest, List.map_cons, shifted_offsetChange modest, List.cons.injEq]
  refine ⟨?_, rfl⟩
  simp only [Mark.offsetChange, OffsetChange.mk.injEq, true_and]
  omega

end ElectionReadiness.TimeZone.Almanac
