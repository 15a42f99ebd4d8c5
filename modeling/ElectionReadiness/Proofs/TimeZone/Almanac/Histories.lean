import ElectionReadiness.Proofs.TimeZone.Almanac.Marks

/-!
# The settled changes of a zone in natural numbers

The regimes of a zone one after the other, and their changes with the shadowed ones
settled.  `settled_offsetChange` says that the settled marks of a zone are the changes of its
timeline, if its numbers are modest and its changes come in the order of time
(`isReckonable`).  Both conditions, and whether the spans start in order, are questions for
the kernel (`startsInOrder_of`).
-/

set_option autoImplicit false

namespace ElectionReadiness.TimeZone.Almanac

/-! ## One regime after the other -/

/-- All regimes of a history, and their ends, are modest. -/
noncomputable def isModestHistory (history : ZoneHistory) : Bool :=
  pick (isModestRegime history.present)
    (every (fun ended => pick (isModestRegime ended.1) (isModestWall ended.2) false) history.past)
    false

/-- What is known of a modest history. -/
structure ModestHistory (history : ZoneHistory) : Prop where
  present_modest : ModestRegime history.present
  past_modest : ∀ ended ∈ history.past, ModestRegime ended.1 ∧ ModestWall ended.2

theorem modestHistory_of {history : ZoneHistory} (modest : isModestHistory history = true) :
    ModestHistory history := by
  rw [isModestHistory, pick_eq_and, Bool.and_eq_true, every_iff] at modest
  refine ⟨modestRegime_of modest.1, ?_⟩
  intro ended mem
  have both := modest.2 ended mem
  rw [pick_eq_and, Bool.and_eq_true] at both
  exact ⟨modestRegime_of both.1, modestWall_of both.2⟩

/-- The changes of the regimes from an instant on. -/
noncomputable def following (past : List (Regime × WallTime)) (present : Regime) :
    Nat → List Mark :=
  fold (β := Nat → List Mark)
    (fun ended later start =>
      append (since (offset ended.1) start (changes ended.1 (some ended.2)) (initial ended.1))
        (later (finish ended.1 ended.2)))
    (fun start => since (offset present) start (changes present none) (initial present)) past

theorem following_offsetChange {past : List (Regime × WallTime)} {present : Regime}
    (presentModest : ModestRegime present)
    (pastModest : ∀ ended ∈ past, ModestRegime ended.1 ∧ ModestWall ended.2) (start : Nat) :
    (following past present start).map Mark.offsetChange =
      laterChanges ((start : Int) - 62135683200) past present := by
  induction past generalizing start with
  | nil =>
      have never : ∀ wall ∈ (none : Option WallTime), ModestWall wall := by simp
      exact since_offsetChange presentModest never start
  | cons ended rest ih =>
      rw [List.forall_mem_cons] at pastModest
      have ends : ∀ wall ∈ some ended.2, ModestWall wall := by
        rintro wall ⟨⟩
        exact pastModest.1.2
      rw [following, fold_cons, ← following, append_eq, List.map_append,
        since_offsetChange pastModest.1.1 ends, ih pastModest.2, laterChanges,
        finish_eq pastModest.1.1 pastModest.1.2]

/-- All changes of a zone. -/
noncomputable def marks (history : ZoneHistory) : List Mark :=
  List.rec (shifted (offset history.present) (changes history.present none))
    (fun ended rest _ =>
      append (shifted (offset ended.1) (changes ended.1 (some ended.2)))
        (following rest history.present (finish ended.1 ended.2)))
    history.past

theorem marks_offsetChange {history : ZoneHistory} (modest : ModestHistory history) :
    (marks history).map Mark.offsetChange = history.offsetChanges := by
  obtain ⟨past, present⟩ := history
  cases past with
  | nil =>
      have never : ∀ wall ∈ (none : Option WallTime), ModestWall wall := by simp
      rw [ZoneHistory.offsetChanges, ← changes_savingChange modest.present_modest never,
        ← shifted_offsetChange modest.present_modest]
      rfl
  | cons ended rest =>
      obtain ⟨regime, wall⟩ := ended
      have pastModest := modest.past_modest
      rw [List.forall_mem_cons] at pastModest
      have ends : ∀ other ∈ some wall, ModestWall other := by
        rintro other ⟨⟩
        exact pastModest.1.2
      have own := changes_savingChange pastModest.1.1 ends
      have later := following_offsetChange modest.present_modest pastModest.2 (finish regime wall)
      rw [← finish_eq pastModest.1.1 pastModest.1.2] at later
      simp only [ZoneHistory.offsetChanges]
      rw [← own, ← later, ← shifted_offsetChange pastModest.1.1, ← List.map_append, ← append_eq]
      rfl

/-- The offset of a zone before any change. -/
noncomputable def first (history : ZoneHistory) : Nat :=
  List.rec (offset history.present + initial history.present)
    (fun ended _ _ => offset ended.1 + initial ended.1) history.past

theorem first_eq {history : ZoneHistory} (modest : ModestHistory history) :
    history.firstOffset = (first history : Int) - 172800 := by
  obtain ⟨past, present⟩ := history
  cases past with
  | nil =>
      have := offset_eq modest.present_modest
      have := initial_eq modest.present_modest
      simp only [ZoneHistory.firstOffset, first] at *
      omega
  | cons ended rest =>
      have endedModest := (modest.past_modest ended (List.mem_cons_self ..)).1
      have := offset_eq endedModest
      have := initial_eq endedModest
      simp only [ZoneHistory.firstOffset, first]
      omega

/-! ## Marks in order -/

/-- The keys of marks ascend from a bound. -/
noncomputable def ascends (key : Mark → Nat) (marks : List Mark) : Nat → Bool :=
  fold (β := Nat → Bool)
    (fun mark later bound => pick (Nat.ble bound (key mark)) (later (key mark)) false)
    (fun _ => true) marks

theorem ascends_cons {key : Mark → Nat} {mark : Mark} {rest : List Mark} {bound : Nat} :
    ascends key (mark :: rest) bound = true ↔
      bound ≤ key mark ∧ ascends key rest (key mark) = true := by
  rw [ascends, fold_cons, ← ascends, pick_eq_and, Bool.and_eq_true, Nat.ble_eq]

theorem le_of_ascends {key : Mark → Nat} {marks : List Mark} {bound : Nat}
    (ascending : ascends key marks bound = true) : ∀ mark ∈ marks, bound ≤ key mark := by
  induction marks generalizing bound with
  | nil => simp
  | cons mark rest ih =>
      rw [ascends_cons] at ascending
      rw [List.forall_mem_cons]
      exact ⟨ascending.1, fun other mem =>
        Nat.le_trans ascending.1 (ih ascending.2 other mem)⟩

theorem pairwise_of_ascends {key : Mark → Nat} {marks : List Mark} {bound : Nat}
    (ascending : ascends key marks bound = true) :
    marks.Pairwise fun earlier later => key earlier ≤ key later := by
  induction marks generalizing bound with
  | nil => exact .nil
  | cons mark rest ih =>
      rw [ascends_cons] at ascending
      exact List.pairwise_cons.mpr ⟨le_of_ascends ascending.2, ih ascending.2⟩

/-- What the wall clock reads right after a mark. -/
noncomputable def Mark.reading (mark : Mark) : Nat := mark.instant + mark.amount

theorem startsInOrder_map {marks : List Mark} {bound : Nat}
    (ascending : ascends Mark.reading marks bound = true) :
    StartsInOrder (marks.map Mark.offsetChange) := by
  rw [StartsInOrder, List.pairwise_map]
  refine (pairwise_of_ascends ascending).imp ?_
  intro earlier later order
  simp only [Mark.reading, OffsetChange.reading, Mark.offsetChange] at *
  omega

theorem inOrder_map {marks : List Mark} {bound : Nat}
    (ascending : ascends Mark.instant marks bound = true) :
    InOrder (marks.map Mark.offsetChange) := by
  rw [InOrder, List.pairwise_map]
  refine (pairwise_of_ascends ascending).imp ?_
  intro earlier later order
  simp only [Mark.offsetChange]
  omega

/-- Changes in order stay as they are. -/
theorem sortChanges_of_inOrder {changes : List OffsetChange} (inOrder : InOrder changes) :
    sortChanges changes = changes := by
  induction changes with
  | nil => rfl
  | cons change rest ih =>
      have parts := List.pairwise_cons.mp inOrder
      have rest_eq : sortChanges rest = rest := ih parts.2
      rw [sortChanges, List.foldr_cons, ← sortChanges, rest_eq]
      cases rest with
      | nil => rfl
      | cons next later =>
          rw [insertChange, if_pos (parts.1 next (List.mem_cons_self ..))]

/-! ## Shadowed marks -/

/-- Takes a mark, made when the amount was `before`, together with those that shadow it. -/
noncomputable def settledFrom (marks : List Mark) : Nat → Mark → List Mark :=
  fold (β := Nat → Mark → List Mark)
    (fun next later before mark =>
      pick (Nat.ble (next.instant + mark.amount) (mark.instant + before))
        (later before ⟨mark.instant, next.amount⟩) (mark :: later mark.amount next))
    (fun _ mark => [mark]) marks

theorem settledFrom_cons (next : Mark) (rest : List Mark) (before : Nat) (mark : Mark) :
    settledFrom (next :: rest) before mark =
      if next.instant + mark.amount ≤ mark.instant + before then
        settledFrom rest before ⟨mark.instant, next.amount⟩
      else mark :: settledFrom rest mark.amount next :=
  pick_ble ..

theorem settledFrom_offsetChange (marks : List Mark) (before : Nat) (mark : Mark) :
    (settledFrom marks before mark).map Mark.offsetChange =
      settleFrom ((before : Int) - 172800) mark.offsetChange (marks.map Mark.offsetChange) := by
  induction marks generalizing before mark with
  | nil => rfl
  | cons next rest ih =>
      have shadows : next.offsetChange.instant + mark.offsetChange.offset ≤
            mark.offsetChange.instant + ((before : Int) - 172800) ↔
          next.instant + mark.amount ≤ mark.instant + before := by
        simp only [Mark.offsetChange]
        omega
      rw [settledFrom_cons, List.map_cons, settleFrom]
      simp only [shadows]
      split
      · exact ih before ⟨mark.instant, next.amount⟩
      · rw [List.map_cons, ih mark.amount next]
        rfl

/-- The changes of a zone, with every shadowed one settled. -/
noncomputable def settled (history : ZoneHistory) : List Mark :=
  List.rec [] (fun mark rest _ => settledFrom rest (first history) mark) (marks history)

/-- The numbers of a zone are modest, and its changes come in the order of time. -/
noncomputable def isReckonable (history : ZoneHistory) : Bool :=
  pick (isModestHistory history) (ascends Mark.instant (marks history) 0) false

/-- **The settled marks of a zone are the changes of its timeline.** -/
theorem settled_offsetChange {history : ZoneHistory} (reckonable : isReckonable history = true) :
    (settled history).map Mark.offsetChange = history.timeline.changes := by
  rw [isReckonable, pick_eq_and, Bool.and_eq_true] at reckonable
  have modest := modestHistory_of reckonable.1
  have inOrder := inOrder_map reckonable.2
  have settling : history.timeline.changes =
      settle history.firstOffset (sortChanges history.offsetChanges) := rfl
  rw [settling, ← marks_offsetChange modest, sortChanges_of_inOrder inOrder, first_eq modest,
    settled]
  cases marks history with
  | nil => rfl
  | cons mark rest => exact settledFrom_offsetChange rest (first history) mark

theorem first_offset {history : ZoneHistory} (reckonable : isReckonable history = true) :
    history.timeline.first = (first history : Int) - 172800 := by
  rw [isReckonable, pick_eq_and, Bool.and_eq_true] at reckonable
  exact first_eq (modestHistory_of reckonable.1)

/-- The spans of a zone start in order. -/
noncomputable def isOrdered (history : ZoneHistory) : Bool :=
  pick (isReckonable history) (ascends Mark.reading (settled history) 0) false

theorem startsInOrder_of {history : ZoneHistory} (ordered : isOrdered history = true) :
    StartsInOrder history.timeline.changes := by
  rw [isOrdered, pick_eq_and, Bool.and_eq_true] at ordered
  rw [← settled_offsetChange ordered.1]
  exact startsInOrder_map ordered.2

end ElectionReadiness.TimeZone.Almanac
