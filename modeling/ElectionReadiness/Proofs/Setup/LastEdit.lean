import ElectionReadiness.Setup.Assessment
import ElectionReadiness.Setup.Edit
import Mathlib.Data.List.Induction
import Mathlib.Data.List.Nodup

/-!
# The last edit of each slot decides

Edits fill in ten slots of a setup.  The zone and the four windows lie together in the
timing, which the first edit of any of them starts, so an edit of one of these must find
the others as they were, in whatever order they come.

One edit puts its content into its own slot (`Setup.content_edit_self`) and leaves the other
slots alone (`Setup.content_edit_of_ne`).  Over a list of edits a slot therefore holds what
the last of its edits puts there (`Setup.content_editAll_of_last`), or what it held before
(`Setup.content_editAll_of_unwritten`).  Timing is there if it was there or an edit started
it (`Setup.isSome_timing_editAll`).  A setup is known from its slots and from whether it has
timing (`Setup.eq_of_contents`), so `Setup.last_edits_decide` follows: the order of the edits
counts only within a slot.
-/

set_option autoImplicit false

namespace ElectionReadiness

/-! ## Slots -/

/-- A place of a setup that edits fill in. -/
inductive Slot where
  | name
  | encryptionParameters
  | timeZone
  | window (phase : Phase)
  | candidates
  | trustees
  | registrar
  deriving DecidableEq, Repr

/-- What a slot can hold. -/
def Slot.Content : Slot → Type
  | .name => String
  | .encryptionParameters => Option EncryptionParameters
  | .timeZone => String
  | .window _ => Option Window
  | .candidates => Option (List Candidate)
  | .trustees => Option (List Trustee)
  | .registrar => Option Registrar

/-- The slots that lie in the timing. -/
def Slot.isOfTiming : Slot → Bool
  | .timeZone | .window _ => true
  | _ => false

/-- What a setup holds in a slot.  Without timing there is no window and the zone is empty. -/
def Setup.content (setup : Setup) : (slot : Slot) → slot.Content
  | .name => setup.name
  | .encryptionParameters => setup.encryptionParameters
  | .timeZone => setup.startedTiming.timeZone
  | .window phase => setup.startedTiming.window phase
  | .candidates => setup.candidates
  | .trustees => setup.trustees
  | .registrar => setup.registrar

namespace Edit

/-- The slot that an edit fills in. -/
def slot : Edit → Slot
  | .name _ => .name
  | .encryptionParameters .. => .encryptionParameters
  | .timeZone _ => .timeZone
  | .window phase .. => .window phase
  | .candidates _ => .candidates
  | .trustees _ => .trustees
  | .registrar .. => .registrar

/-- What an edit puts into its slot. -/
def content : (edit : Edit) → edit.slot.Content
  | .name value => value
  | .encryptionParameters g p q => some (⟨g, p, q⟩ : EncryptionParameters)
  | .timeZone zone => zone
  | .window _ opens closes => some (⟨some opens, some closes⟩ : Window)
  | .candidates names => some (Candidate.ofNames names)
  | .trustees names => some (Trustee.ofNames names)
  | .registrar office url =>
    some ({ id := "registrar", name := office, registrationUrl := some url } : Registrar)

end Edit

/-! ## The last edit of a slot -/

/-- The last of some edits that fills in a slot. -/
def lastEdit? (edits : List Edit) (slot : Slot) : Option Edit :=
  edits.reverse.find? fun edit => edit.slot = slot

section

variable {edits earlier : List Edit} {edit : Edit} {slot : Slot}

theorem lastEdit?_concat_self : lastEdit? (earlier ++ [edit]) edit.slot = some edit := by
  simp [lastEdit?]

theorem lastEdit?_concat_of_ne (different : edit.slot ≠ slot) :
    lastEdit? (earlier ++ [edit]) slot = lastEdit? earlier slot := by
  simp [lastEdit?, different]

theorem slot_of_lastEdit? (last : lastEdit? edits slot = some edit) : edit.slot = slot := by
  simpa using List.find?_some last

theorem lastEdit?_eq_none_iff :
    lastEdit? edits slot = none ↔ ∀ edit ∈ edits, edit.slot ≠ slot := by
  simp [lastEdit?]

/-- A slot has a last edit if it has any. -/
theorem isSome_lastEdit?_iff :
    (lastEdit? edits slot).isSome ↔ ∃ edit ∈ edits, edit.slot = slot := by
  simp [lastEdit?, List.find?_isSome]

theorem exists_edit_of_timing_iff :
    (∃ edit ∈ edits, edit.slot.isOfTiming) ↔
      ∃ slot : Slot, slot.isOfTiming ∧ (lastEdit? edits slot).isSome := by
  simp only [isSome_lastEdit?_iff]
  constructor
  · rintro ⟨edit, mem, ofTiming⟩
    exact ⟨edit.slot, ofTiming, edit, mem, rfl⟩
  · rintro ⟨_, ofTiming, edit, mem, rfl⟩
    exact ⟨edit, mem, ofTiming⟩

end

/-! ## Numbered people -/

/-- The entries bear the names in the order given and the ids `label-1`, `label-2` and so on,
no two of them the same. -/
structure IsNumbered {Entry : Type} (label : String) (names : List String)
    (id name : Entry → String) (entries : List Entry) : Prop where
  names_eq : entries.map name = names
  ids_eq : entries.map id =
    (List.range names.length).map fun index => label ++ "-" ++ Decimal.text (index + 1)
  nodup_ids : (entries.map id).Nodup

theorem map_snd_numbered (label : String) (names : List String) :
    (numbered label names).map Prod.snd = names := by
  rw [numbered, List.mapIdx_eq_zipIdx_map, List.map_map]
  exact List.zipIdx_map_fst 0 names

theorem map_fst_numbered (label : String) (names : List String) :
    (numbered label names).map Prod.fst =
      (List.range names.length).map fun index => label ++ "-" ++ Decimal.text (index + 1) := by
  rw [numbered, List.mapIdx_eq_zipIdx_map, List.map_map, List.range_eq_range',
    ← List.zipIdx_map_snd 0 names, List.map_map]
  rfl

/-- Numbering gives no id twice. -/
theorem nodup_map_fst_numbered (label : String) (names : List String) :
    ((numbered label names).map Prod.fst).Nodup := by
  rw [map_fst_numbered]
  apply List.nodup_range.map
  intro index other same
  have numerals := (String.append_right_inj _).mp same
  have numbers := Decimal.text_injective numerals
  exact Nat.succ.inj numbers

/-- Entries made from numbered names are numbered. -/
theorem isNumbered_map_numbered {Entry : Type} {label : String} {names : List String}
    {id name : Entry → String} {make : String × String → Entry}
    (ids : ∀ pair, id (make pair) = pair.1) (kept : ∀ pair, name (make pair) = pair.2) :
    IsNumbered label names id name ((numbered label names).map make) := by
  have madeIds : ((numbered label names).map make).map id = (numbered label names).map Prod.fst := by
    rw [List.map_map]
    exact List.map_congr_left fun pair _ => ids pair
  have madeNames :
      ((numbered label names).map make).map name = (numbered label names).map Prod.snd := by
    rw [List.map_map]
    exact List.map_congr_left fun pair _ => kept pair
  refine ⟨?_, ?_, ?_⟩
  · rw [madeNames, map_snd_numbered]
  · rw [madeIds, map_fst_numbered]
  · rw [madeIds]
    exact nodup_map_fst_numbered label names

theorem Candidate.isNumbered_ofNames (names : List String) :
    IsNumbered "candidate" names Candidate.id Candidate.name (Candidate.ofNames names) :=
  isNumbered_map_numbered (fun _ => rfl) fun _ => rfl

theorem Trustee.isNumbered_ofNames (names : List String) :
    IsNumbered "trustee" names Trustee.id Trustee.name (Trustee.ofNames names) :=
  isNumbered_map_numbered (fun _ => rfl) fun _ => rfl

/-! ## Edits and slots -/

namespace Setup

variable {setup other : Setup} {edit : Edit} {edits : List Edit} {slot : Slot}

/-- An edit puts its content into its slot. -/
theorem content_edit_self : (setup.edit edit).content edit.slot = edit.content := by
  cases edit with
  | window phase opens closes => exact Timing.window_setWindow_self ..
  | _ => rfl

/-- An edit leaves the other slots alone, those next to its own in the timing too. -/
theorem content_edit_of_ne (different : edit.slot ≠ slot) :
    (setup.edit edit).content slot = setup.content slot := by
  cases edit with
  | window phase opens closes =>
      cases slot with
      | window another =>
          apply Timing.window_setWindow_of_ne
          rintro rfl
          exact different rfl
      | timeZone => exact Timing.timeZone_setWindow ..
      | _ => rfl
  | timeZone zone =>
      cases slot with
      | timeZone => exact absurd rfl different
      | window phase => cases phase <;> rfl
      | _ => rfl
  | _ => cases slot <;> first | rfl | exact absurd rfl different

/-- An edit starts the timing if its slot lies there. -/
theorem isSome_timing_edit :
    (setup.edit edit).timing.isSome ↔ setup.timing.isSome ∨ edit.slot.isOfTiming := by
  cases edit <;> simp [Setup.edit, Edit.slot, Slot.isOfTiming]

theorem editAll_concat :
    setup.editAll (edits ++ [edit]) = (setup.editAll edits).edit edit := by
  simp [editAll]

/-! ## Many edits -/

/-- After edits a slot holds what the last of its edits put there. -/
theorem content_editAll_of_last (last : lastEdit? edits slot = some edit) :
    (setup.editAll edits).content edit.slot = edit.content := by
  induction edits using List.reverseRecOn with
  | nil => cases last
  | append_singleton earlier final ih =>
      rw [editAll_concat]
      by_cases here : final.slot = slot
      · subst here
        rw [lastEdit?_concat_self] at last
        cases last
        exact content_edit_self
      · rw [lastEdit?_concat_of_ne here] at last
        have own := slot_of_lastEdit? last
        rw [content_edit_of_ne (own ▸ here)]
        exact ih last

/-- A slot without edits holds what it held at the start. -/
theorem content_editAll_of_unwritten (unwritten : lastEdit? edits slot = none) :
    (setup.editAll edits).content slot = setup.content slot := by
  induction edits using List.reverseRecOn with
  | nil => rfl
  | append_singleton earlier final ih =>
      rw [editAll_concat]
      have elsewhere : final.slot ≠ slot := by
        rintro rfl
        rw [lastEdit?_concat_self] at unwritten
        cases unwritten
      rw [lastEdit?_concat_of_ne elsewhere] at unwritten
      rw [content_edit_of_ne elsewhere, ih unwritten]

/-- After edits there is timing if there was at the start, or an edit lies there. -/
theorem isSome_timing_editAll :
    (setup.editAll edits).timing.isSome ↔
      setup.timing.isSome ∨ ∃ edit ∈ edits, edit.slot.isOfTiming := by
  induction edits using List.reverseRecOn with
  | nil => simp [editAll]
  | append_singleton earlier final ih =>
      rw [editAll_concat, isSome_timing_edit, ih, or_assoc]
      simp only [List.mem_append, List.mem_singleton, or_and_right, exists_or, exists_eq_left]

/-! ## A setup is known from its slots -/

theorem startedTiming_eq_of_contents
    (contents : ∀ slot, setup.content slot = other.content slot) :
    setup.startedTiming = other.startedTiming := by
  have zone := contents .timeZone
  have windows := fun phase => contents (.window phase)
  simp only [content] at zone windows
  generalize setup.startedTiming = first at *
  generalize other.startedTiming = second at *
  cases first
  cases second
  congr 1
  · exact windows .parameterConfirmation
  · exact windows .voterRegistration
  · exact windows .voteCasting
  · exact windows .tallyDecryption

/-- Setups that hold the same in every slot are equal if both or neither have timing. -/
theorem eq_of_contents (contents : ∀ slot, setup.content slot = other.content slot)
    (timing : setup.timing.isSome ↔ other.timing.isSome) : setup = other := by
  have started := startedTiming_eq_of_contents contents
  have sameTiming : setup.timing = other.timing := by
    cases here : setup.timing with
    | none =>
        rw [here] at timing
        exact (Option.not_isSome_iff_eq_none.mp (mt timing.mpr (by simp))).symm
    | some first =>
        rw [here] at timing
        obtain ⟨second, there⟩ := Option.isSome_iff_exists.mp (timing.mp rfl)
        rw [startedTiming, startedTiming, here, there] at started
        rw [there, show first = second from started]
  have name := contents .name
  have parameters := contents .encryptionParameters
  have candidates := contents .candidates
  have trustees := contents .trustees
  have registrar := contents .registrar
  cases setup
  cases other
  simp only [content] at *
  congr

/-- The same last edits build the same setup, in whatever order the slots are filled in. -/
theorem editAll_eq_of_lastEdit?_eq {others : List Edit}
    (same : ∀ slot, lastEdit? others slot = lastEdit? edits slot) :
    setup.editAll others = setup.editAll edits := by
  apply eq_of_contents
  · intro slot
    cases last : lastEdit? edits slot with
    | none =>
        rw [content_editAll_of_unwritten last,
          content_editAll_of_unwritten ((same slot).trans last)]
    | some edit =>
        have own := slot_of_lastEdit? last
        subst own
        rw [content_editAll_of_last last,
          content_editAll_of_last ((same edit.slot).trans last)]
  · rw [isSome_timing_editAll, isSome_timing_editAll]
    simp only [exists_edit_of_timing_iff, same]

/-- **The last edit of each slot decides.**  A slot holds what its last edit puts there, or what
the start held if it has none.  There is timing just if the start had some or an edit filled in
the zone or a window; if the start had none, what was not filled in is empty.  Listed people
keep their order and are numbered.  Edits with the same last edits, in any order, build the
same setup, with the same assessment. -/
theorem last_edits_decide (setup : Setup) (edits : List Edit) {Instant : Type} [LT Instant]
    [DecidableLT Instant] (requirements : Requirements) (calendar : Calendar Instant) :
    (∀ slot edit, lastEdit? edits slot = some edit →
        edit.slot = slot ∧ (setup.editAll edits).content edit.slot = edit.content) ∧
      (∀ slot, lastEdit? edits slot = none →
        (∀ edit ∈ edits, edit.slot ≠ slot) ∧
          (setup.editAll edits).content slot = setup.content slot) ∧
      ((setup.editAll edits).timing.isSome ↔
        setup.timing.isSome ∨ ∃ edit ∈ edits, edit.slot.isOfTiming) ∧
      (setup.timing = none → ∀ timing, (setup.editAll edits).timing = some timing →
        (lastEdit? edits .timeZone = none → timing.timeZone = "") ∧
          ∀ phase, lastEdit? edits (.window phase) = none → timing.window phase = none) ∧
      (∀ names, lastEdit? edits .candidates = some (.candidates names) →
        ∃ candidates, (setup.editAll edits).candidates = some candidates ∧
          IsNumbered "candidate" names Candidate.id Candidate.name candidates) ∧
      (∀ names, lastEdit? edits .trustees = some (.trustees names) →
        ∃ trustees, (setup.editAll edits).trustees = some trustees ∧
          IsNumbered "trustee" names Trustee.id Trustee.name trustees) ∧
      ∀ others, (∀ slot, lastEdit? others slot = lastEdit? edits slot) →
        setup.editAll others = setup.editAll edits ∧
          (setup.editAll others).assess requirements calendar =
            (setup.editAll edits).assess requirements calendar := by
  refine ⟨fun slot edit last => ?_, fun slot unwritten => ?_, isSome_timing_editAll,
    fun untimed timing built => ?_, fun names last => ?_, fun names last => ?_,
    fun others same => ?_⟩
  · exact ⟨slot_of_lastEdit? last, content_editAll_of_last last⟩
  · exact ⟨lastEdit?_eq_none_iff.mp unwritten, content_editAll_of_unwritten unwritten⟩
  · have started : (setup.editAll edits).startedTiming = timing := by
      rw [startedTiming, built, Option.getD_some]
    have bare : setup.startedTiming = {} := by rw [startedTiming, untimed, Option.getD_none]
    refine ⟨fun unwritten => ?_, fun phase unwritten => ?_⟩
    · have zone : (setup.editAll edits).content .timeZone = setup.content .timeZone :=
        content_editAll_of_unwritten unwritten
      simp only [content, started, bare] at zone
      exact zone
    · have window : (setup.editAll edits).content (.window phase) =
          setup.content (.window phase) := content_editAll_of_unwritten unwritten
      simp only [content, started, bare] at window
      rw [window]
      cases phase <;> rfl
  · exact ⟨_, content_editAll_of_last last, Candidate.isNumbered_ofNames names⟩
  · exact ⟨_, content_editAll_of_last last, Trustee.isNumbered_ofNames names⟩
  · have built : setup.editAll others = setup.editAll edits := editAll_eq_of_lastEdit?_eq same
    exact ⟨built, by rw [built]⟩

/-- A zone and a window set twice, around each other and a third edit.  The order in which the
last of them come does not show, and the other windows of the timing they start are missing. -/
theorem reordered_edits_build_the_same :
    let calendar : Calendar Nat := ⟨fun zone => zone == "UTC", fun text => text.toNat?⟩
    let draft : Setup := { name := "Draft" }
    let edits : List Edit :=
      [.window .voteCasting "1" "2", .timeZone "Mars", .candidates ["Anna", "Bob", "Anna"],
        .window .voteCasting "3" "4", .timeZone "UTC"]
    let others : List Edit :=
      [.candidates [], .timeZone "UTC", .candidates ["Anna", "Bob", "Anna"],
        .window .voteCasting "3" "4"]
    draft.editAll others = draft.editAll edits ∧
      (draft.editAll others).assess .usual calendar =
        (draft.editAll edits).assess .usual calendar ∧
      (draft.editAll edits).content .timeZone = "UTC" ∧
      (draft.editAll edits).content .name = "Draft" ∧
      (∃ timing, (draft.editAll edits).timing = some timing ∧
        timing.window .tallyDecryption = none) ∧
      ∃ candidates, (draft.editAll edits).candidates = some candidates ∧
        IsNumbered "candidate" ["Anna", "Bob", "Anna"] Candidate.id Candidate.name candidates := by
  intro calendar draft edits others
  have decided := draft.last_edits_decide edits .usual calendar
  have same : ∀ slot, lastEdit? others slot = lastEdit? edits slot := by
    intro slot
    cases slot with
    | window phase => cases phase <;> rfl
    | _ => rfl
  obtain ⟨last, unwritten, timed, bare, candidates, -, reordered⟩ := decided
  refine ⟨(reordered others same).1, (reordered others same).2, ?_, ?_, ?_, ?_⟩
  · exact (last .timeZone (.timeZone "UTC") rfl).2
  · exact (unwritten .name rfl).2
  · obtain ⟨timing, built⟩ := Option.isSome_iff_exists.mp (timed.mpr (.inr (by decide)))
    exact ⟨timing, built, (bare rfl timing built).2 .tallyDecryption rfl⟩
  · exact candidates ["Anna", "Bob", "Anna"] rfl

end Setup

end ElectionReadiness
