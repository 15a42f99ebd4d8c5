import ElectionReadiness.Proofs.Text.Delimited
import ElectionReadiness.Proofs.Text.SpelledPart

/-!
# Templates of messages

A message is a fixed wording with values in it: quoted texts and numbers.  A template lists the
places of a message, and `Fills` says which texts fill them with which values.  Filling loses
nothing, as long as no wording goes on with a digit after a number: two texts that fill one
template with different values are different (`Fills.values_unique`).

Different templates can still be filled by the same text, if the wording of one reads like a value
of the other.  `apart` finds that this is impossible: at the first place where two templates
differ, no character begins what both of them have there (`Fills.not_apart`).
-/

set_option autoImplicit false

namespace ElectionReadiness

open Json (NoDigitFirst)

/-! ## Templates -/

/-- A place of a message: a character of its wording, or a place for a value. -/
inductive Place where
  | wording (c : Char)
  | quoted
  | number
  deriving DecidableEq

/-- A value in a message. -/
inductive MessageValue where
  | text (value : String)
  | number (n : Nat)
  deriving DecidableEq

/-- A text fills the places of a template with values. -/
inductive Fills : List Place → List MessageValue → List Char → Prop
  | done : Fills [] [] []
  | wording {c : Char} {places : List Place} {values : List MessageValue} {text : List Char}
      (later : Fills places values text) : Fills (.wording c :: places) values (c :: text)
  | quoted {value : String} {places : List Place} {values : List MessageValue}
      {text : List Char} (later : Fills places values text) :
      Fills (.quoted :: places) (.text value :: values) (Quoted.quote value.toList ++ text)
  | number {n : Nat} {places : List Place} {values : List MessageValue} {text : List Char}
      (later : Fills places values text) :
      Fills (.number :: places) (.number n :: values) (Decimal.digits n ++ text)

theorem Fills.append {places places' : List Place} {values values' : List MessageValue}
    {text text' : List Char} (one : Fills places values text)
    (other : Fills places' values' text') :
    Fills (places ++ places') (values ++ values') (text ++ text') := by
  induction one with
  | done => exact other
  | wording _ ih => exact .wording ih
  | quoted _ ih =>
      rw [List.append_assoc]
      exact .quoted ih
  | number _ ih =>
      rw [List.append_assoc]
      exact .number ih

/-- The places of some wording. -/
def wording (text : String) : List Place := text.toList.map .wording

/-- A string fills the places of a template with values. -/
def FillsText (places : List Place) (values : List MessageValue) (text : String) : Prop :=
  Fills places values text.toList

namespace FillsText

theorem append {places places' : List Place} {values values' : List MessageValue}
    {text text' : String} (one : FillsText places values text)
    (other : FillsText places' values' text') :
    FillsText (places ++ places') (values ++ values') (text ++ text') := by
  rw [FillsText, String.toList_append]
  exact Fills.append one other

theorem wording (text : String) : FillsText (ElectionReadiness.wording text) [] text := by
  unfold FillsText ElectionReadiness.wording
  induction text.toList with
  | nil => exact .done
  | cons c others ih => exact .wording ih

theorem quoted (value : String) : FillsText [.quoted] [.text value] (Quoted.text value) := by
  rw [FillsText, Quoted.text, String.toList_ofList, ← List.append_nil (Quoted.quote _)]
  exact .quoted .done

theorem number (n : Nat) : FillsText [.number] [.number n] (Decimal.text n) := by
  rw [FillsText, Decimal.text, String.toList_ofList, ← List.append_nil (Decimal.digits n)]
  exact .number .done

end FillsText

/-! ## How places begin -/

namespace Place

/-- A character may begin what stands in a place. -/
def begins : Place → Char → Bool
  | wording c, d => d = c
  | quoted, d => d = '"'
  | number, d => Decimal.isDigit d

/-- No character begins what stands in both of two places. -/
def disjoint : Place → Place → Bool
  | wording c, other => !other.begins c
  | place, wording c => !place.begins c
  | quoted, number => true
  | number, quoted => true
  | _, _ => false

theorem not_begins_of_disjoint {place other : Place} {c : Char}
    (apart : place.disjoint other = true) (first : place.begins c = true) :
    other.begins c = false := by
  cases place with
  | wording d =>
      obtain rfl : c = d := of_decide_eq_true first
      have stops : (!other.begins c) = true := apart
      simpa using stops
  | quoted =>
      obtain rfl : c = '"' := of_decide_eq_true first
      cases other with
      | wording d =>
          refine decide_eq_false ?_
          rintro rfl
          cases apart
      | quoted => cases apart
      | number => decide
  | number =>
      cases other with
      | wording d =>
          refine decide_eq_false ?_
          rintro rfl
          have stops : (!number.begins c) = true := apart
          rw [first] at stops
          cases stops
      | quoted =>
          refine decide_eq_false ?_
          rintro rfl
          exact absurd first (by decide)
      | number => cases apart

end Place

/-- What fills a template begins as its first place may. -/
theorem Fills.exists_begins {place : Place} {places : List Place} {values : List MessageValue}
    {text : List Char} (filled : Fills (place :: places) values text) :
    ∃ c rest, text = c :: rest ∧ place.begins c = true := by
  cases filled with
  | wording later => exact ⟨_, _, rfl, decide_eq_true rfl⟩
  | quoted later => exact ⟨'"', _, rfl, rfl⟩
  | @number n _ _ text later =>
      obtain ⟨c, others, written, digit⟩ :=
        Scan.exists_cons_of_areDigits (Json.isWhole_digits n).areDigits
      exact ⟨c, others ++ text, by rw [written, List.cons_append], digit⟩

/-! ## Reading values off -/

/-- A template does not go on with a digit. -/
def stopsNumber (places : List Place) : Bool := places.head?.all (·.disjoint .number)

/-- No wording of a template goes on with a digit after a number. -/
def endsNumbers : List Place → Bool
  | [] => true
  | place :: later => (place ≠ .number || stopsNumber later) && endsNumbers later

theorem endsNumbers_cons {place : Place} {later : List Place}
    (ends : endsNumbers (place :: later) = true) :
    (place = .number → stopsNumber later = true) ∧ endsNumbers later = true := by
  rw [endsNumbers, Bool.and_eq_true, Bool.or_eq_true, decide_eq_true_eq] at ends
  exact ⟨fun isNumber => ends.1.resolve_left (not_not_intro isNumber), ends.2⟩

/-- What fills a template that does not go on with a digit does not start with one. -/
theorem Fills.noDigitFirst {places : List Place} {values : List MessageValue} {text : List Char}
    (filled : Fills places values text) (stops : stopsNumber places = true) :
    NoDigitFirst text := by
  cases places with
  | nil =>
      cases filled
      exact fun c absent => nomatch absent
  | cons place later =>
      obtain ⟨c, rest, rfl, begins⟩ := filled.exists_begins
      rintro _ ⟨⟩
      have apart : place.disjoint .number = true := by simpa [stopsNumber] using stops
      exact Place.not_begins_of_disjoint apart begins

section

variable {places places' : List Place} {values values' : List MessageValue}

/-- Where two templates have the same place, a text that fills both has the same value there. -/
theorem Fills.uncons {place : Place} {text text' : List Char}
    (one : Fills (place :: places) values text) (other : Fills (place :: places') values' text')
    (stops : place = .number → stopsNumber places = true)
    (stops' : place = .number → stopsNumber places' = true) (same : text = text') :
    ∃ here later later' rest, values = here ++ later ∧ values' = here ++ later' ∧
      Fills places later rest ∧ Fills places' later' rest := by
  cases one with
  | wording filled =>
      cases other with
      | wording filled' =>
          cases same
          exact ⟨[], _, _, _, rfl, rfl, filled, filled'⟩
  | @quoted value _ _ _ filled =>
      cases other with
      | quoted filled' =>
          obtain ⟨quoted, rfl⟩ := Quoted.quote_append_inj same
          cases String.toList_inj.mp quoted
          exact ⟨[.text value], _, _, _, rfl, rfl, filled, filled'⟩
  | @number n _ _ _ filled =>
      cases other with
      | number filled' =>
          obtain ⟨rfl, rfl⟩ := Decimal.digits_append_inj (filled.noDigitFirst (stops rfl))
            (filled'.noDigitFirst (stops' rfl)) same
          exact ⟨[.number n], _, _, _, rfl, rfl, filled, filled'⟩

/-- **A text fills a template with no more than one list of values.** -/
theorem Fills.values_unique {text : List Char} (one : Fills places values text)
    (other : Fills places values' text) (ends : endsNumbers places = true) : values = values' := by
  induction places generalizing values values' text with
  | nil =>
      cases one
      cases other
      rfl
  | cons place later ih =>
      obtain ⟨stops, laterEnds⟩ := endsNumbers_cons ends
      obtain ⟨here, left, left', rest, rfl, rfl, filled, filled'⟩ :=
        one.uncons other stops stops rfl
      rw [ih filled filled' laterEnds]

/-! ## Different templates -/

/-- No text fills both of two templates: where they first differ, they begin differently. -/
def apart : List Place → List Place → Bool
  | [], [] => false
  | [], _ :: _ => true
  | _ :: _, [] => true
  | place :: later, place' :: later' =>
    if place = place' then apart later later' else place.disjoint place'

/-- **A text does not fill templates that are apart.** -/
theorem Fills.not_apart {text : List Char} (one : Fills places values text)
    (other : Fills places' values' text) (ends : endsNumbers places = true)
    (ends' : endsNumbers places' = true) : apart places places' = false := by
  induction places generalizing places' values values' text with
  | nil =>
      cases one
      cases places' with
      | nil => rfl
      | cons place' later' =>
          obtain ⟨c, rest, absent, _⟩ := other.exists_begins
          cases absent
  | cons place later ih =>
      obtain ⟨c, rest, rfl, begins⟩ := one.exists_begins
      cases places' with
      | nil => cases other
      | cons place' later' =>
          obtain ⟨stops, laterEnds⟩ := endsNumbers_cons ends
          obtain ⟨stops', laterEnds'⟩ := endsNumbers_cons ends'
          rw [apart]
          by_cases same : place = place'
          · subst same
            obtain ⟨here, left, left', rest, _, _, filled, filled'⟩ :=
              one.uncons other stops stops' rfl
            rw [if_pos rfl]
            exact ih filled filled' laterEnds laterEnds'
          · obtain ⟨_, _, ⟨⟩, begins'⟩ := other.exists_begins
            rw [if_neg same]
            by_contra disjoint
            rw [Bool.not_eq_false] at disjoint
            rw [Place.not_begins_of_disjoint disjoint begins] at begins'
            cases begins'

end

end ElectionReadiness
