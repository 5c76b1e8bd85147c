import Mathlib.Data.Nat.Bits
import SquareSums.Pattern.Reach

/-! Steps between the places of a text, and the sets of places that can be reached by them. Sets are numbers,
and a place is in one if the binary digit of its position is set. Repeating a step by squaring, and stopping
where squaring adds nothing, reaches what the repeated step does. -/

namespace SquareSums.Pattern

def Steps (step : Nat → Nat → Prop) : (count : Nat) → Nat → Nat → Prop
  | 0, first, last => last = first
  | count + 1, first, last => ∃ next, step first next ∧ Steps step count next last

section Steps

variable {step : Nat → Nat → Prop} {first last : Nat}

theorem steps_one : Steps step 1 first last ↔ step first last := by
  constructor
  · rintro ⟨_, stepped, rfl⟩
    exact stepped
  · intro stepped
    exact ⟨last, stepped, rfl⟩

theorem steps_add (earlier later : Nat) :
    Steps step (earlier + later) first last ↔ ∃ next, Steps step earlier first next ∧ Steps step later next last := by
  induction earlier generalizing first with
  | zero => simp [Steps]
  | succ earlier ih =>
    rw [Nat.succ_add]
    simp only [Steps, ih]
    constructor
    · intro ⟨near, stepped, far, before, after⟩
      exact ⟨far, ⟨near, stepped, before⟩, after⟩
    · intro ⟨far, ⟨near, stepped, before⟩, after⟩
      exact ⟨near, stepped, far, before, after⟩

theorem steps_double {double : Nat → Nat → Prop}
    (doubles : ∀ first last, double first last ↔ ∃ next, step first next ∧ step next last) (count : Nat) :
    Steps double count first last ↔ Steps step (2 * count) first last := by
  induction count generalizing first with
  | zero => exact Iff.rfl
  | succ count ih =>
    constructor
    · intro ⟨far, two, more⟩
      obtain ⟨near, one, other⟩ := (doubles first far).mp two
      exact ⟨near, one, far, other, ih.mp more⟩
    · intro ⟨near, one, far, other, more⟩
      exact ⟨far, (doubles first far).mpr ⟨near, one, other⟩, ih.mpr more⟩

/-- Where two steps lead no further than one does, no number of steps does. -/
theorem steps_settled (settled : ∀ first last, step first last ↔ ∃ next, step first next ∧ step next last)
    {count : Nat} (some : count ≠ 0) : Steps step count first last ↔ step first last := by
  obtain ⟨count, rfl⟩ := Nat.exists_eq_succ_of_ne_zero some
  induction count generalizing first with
  | zero => exact steps_one
  | succ count ih =>
    rw [settled]
    exact exists_congr fun next => and_congr_right fun _ => ih (Nat.succ_ne_zero count)

section Within

variable {most : Nat} (within : ∀ first last, first ≤ most → step first last → first ≤ last ∧ last ≤ most)
include within

theorem steps_within {count : Nat} (begins : first ≤ most) (stepped : Steps step count first last) :
    first ≤ last ∧ last ≤ most := by
  induction count generalizing first with
  | zero =>
    cases stepped
    exact ⟨Nat.le_refl _, begins⟩
  | succ count ih =>
    obtain ⟨next, one, later⟩ := stepped
    obtain ⟨ahead, inside⟩ := within first next begins one
    obtain ⟨further, ends⟩ := ih inside later
    exact ⟨Nat.le_trans ahead further, ends⟩

/-- No more steps are needed than there are places between. -/
theorem steps_shorten {count : Nat} (begins : first ≤ most) (stepped : Steps step count first last) :
    ∃ fewer ≤ count, fewer ≤ last - first ∧ Steps step fewer first last := by
  induction count generalizing first with
  | zero => exact ⟨0, Nat.le_refl 0, Nat.zero_le _, stepped⟩
  | succ count ih =>
    obtain ⟨next, one, later⟩ := stepped
    obtain ⟨ahead, inside⟩ := within first next begins one
    obtain ⟨further, _⟩ := steps_within within inside later
    obtain ⟨fewer, few, short, rest⟩ := ih inside later
    rcases Nat.eq_or_lt_of_le ahead with rfl | ahead
    · exact ⟨fewer, Nat.le_succ_of_le few, short, rest⟩
    · exact ⟨fewer + 1, Nat.succ_le_succ few, by omega, next, one, rest⟩

/-- Steps that may be left out are so many or fewer steps. -/
theorem steps_or_stay (begins : first ≤ most) (count : Nat) :
    Steps (fun first last => (last = first ∧ first ≤ most) ∨ step first last) count first last ↔
      ∃ fewer ≤ count, Steps step fewer first last := by
  induction count generalizing first with
  | zero => simp [Steps]
  | succ count ih =>
    constructor
    · rintro ⟨next, ⟨rfl, _⟩ | stepped, more⟩
      · obtain ⟨fewer, few, stepped⟩ := (ih begins).mp more
        exact ⟨fewer, Nat.le_succ_of_le few, stepped⟩
      · obtain ⟨fewer, few, later⟩ := (ih (within _ _ begins stepped).2).mp more
        exact ⟨fewer + 1, Nat.succ_le_succ few, next, stepped, later⟩
    · rintro ⟨_ | fewer, few, more⟩
      · exact ⟨first, .inl ⟨rfl, begins⟩, (ih begins).mpr ⟨0, Nat.zero_le _, more⟩⟩
      · obtain ⟨next, stepped, later⟩ := more
        have fewer_le := Nat.le_of_succ_le_succ few
        exact ⟨next, .inr stepped, (ih (within _ _ begins stepped).2).mpr ⟨fewer, fewer_le, later⟩⟩

theorem steps_congr {other : Nat → Nat → Prop}
    (same : ∀ first last, first ≤ most → (other first last ↔ step first last)) (begins : first ≤ most)
    (count : Nat) : Steps other count first last ↔ Steps step count first last := by
  induction count generalizing first with
  | zero => exact Iff.rfl
  | succ count ih =>
    refine exists_congr fun next => ?_
    rw [same first next begins]
    exact and_congr_right fun stepped => ih (within first next begins stepped).2

end Within

end Steps

theorem testBit_placesWhere {α : Type} (test : α → Bool) (items : List α) (place : Nat) :
    (placesWhere test items).testBit place = items[place]?.any test := by
  induction items generalizing place with
  | nil => exact Nat.zero_testBit place
  | cons item items ih =>
    have shifted : placesWhere test (item :: items) = Nat.bit (test item) (placesWhere test items) :=
      (Nat.bit_val _ _).symm
    rw [shifted]
    cases place with
    | zero => exact Nat.testBit_bit_zero _ _
    | succ place => rw [Nat.testBit_bit_succ, ih, List.getElem?_cons_succ]

namespace Reach

/-- Whether a place can be reached from another. -/
def Leads (reach : Reach) (first last : Nat) : Prop := ∃ places, reach[first]? = some places ∧ places.testBit last = true

theorem testBit_follow (reach : Reach) (places : Places) (last : Nat) :
    (follow reach places).testBit last = true ↔ ∃ next, places.testBit next = true ∧ reach.Leads next last := by
  induction reach generalizing places with
  | nil => simp [follow, Leads]
  | cons reached later ih =>
    have here : Leads (reached :: later) 0 last ↔ reached.testBit last = true := by simp [Leads]
    have shifted : (∃ next, places.testBit (next + 1) = true ∧ Leads (reached :: later) (next + 1) last) ↔
        (follow later (places / 2)).testBit last = true := by
      rw [ih]
      simp only [Nat.testBit_add_one]
      rfl
    rw [← Nat.or_exists_add_one, shifted, here, follow, Nat.testBit_zero, decide_eq_true_eq]
    by_cases odd : places % 2 = 1
    · rw [if_pos odd, Nat.testBit_or, Bool.or_eq_true, and_iff_right odd]
    · rw [if_neg odd, or_iff_right fun both => odd both.1]

section Leads

variable {start step : Reach} {first last : Nat}

theorem leads_map {change : Places → Places} :
    Leads (start.map change) first last ↔
      ∃ places, start[first]? = some places ∧ (change places).testBit last = true := by
  rw [Leads, List.getElem?_map]
  constructor
  · intro ⟨changed, mapped, bit⟩
    obtain ⟨places, held, rfl⟩ := Option.map_eq_some_iff.mp mapped
    exact ⟨places, held, bit⟩
  · intro ⟨places, held, bit⟩
    exact ⟨change places, Option.map_eq_some_iff.mpr ⟨places, held, rfl⟩, bit⟩

theorem leads_andThen :
    (start.andThen step).Leads first last ↔ ∃ next, start.Leads first next ∧ step.Leads next last := by
  rw [andThen, leads_map]
  simp only [testBit_follow]
  constructor
  · intro ⟨places, held, next, bit, leads⟩
    exact ⟨next, ⟨places, held, bit⟩, leads⟩
  · intro ⟨next, ⟨places, held, bit⟩, leads⟩
    exact ⟨places, held, next, bit, leads⟩

theorem leads_or {other : Reach} (same : start.length = other.length) :
    (start.or other).Leads first last ↔ start.Leads first last ∨ other.Leads first last := by
  rw [Reach.or, Leads, Leads, Leads, List.getElem?_zipWith]
  rcases Nat.lt_or_ge first start.length with within | beyond
  · rw [List.getElem?_eq_getElem within, List.getElem?_eq_getElem (same ▸ within)]
    simp [Nat.testBit_or]
  · rw [List.getElem?_eq_none beyond, List.getElem?_eq_none (same ▸ beyond)]
    simp

theorem length_stay (text : List Char) : (stay text).length = text.length + 1 := by
  rw [stay, List.length_map, List.length_range]

theorem leads_stay {text : List Char} : (stay text).Leads first last ↔ last = first ∧ first ≤ text.length := by
  have held (place : Nat) :
      (List.range (text.length + 1))[first]? = some place ↔ first = place ∧ first ≤ text.length := by
    rw [List.getElem?_eq_some_iff]
    simp only [List.length_range, List.getElem_range, Nat.lt_succ_iff, exists_prop, and_comm]
  rw [stay, leads_map]
  simp only [held]
  constructor
  · rintro ⟨_, ⟨rfl, within⟩, bit⟩
    exact ⟨(of_decide_eq_true (Nat.testBit_two_pow.symm.trans bit)).symm, within⟩
  · rintro ⟨rfl, within⟩
    exact ⟨last, ⟨rfl, within⟩, Nat.testBit_two_pow_self⟩

theorem leads_times (count : Nat) :
    (start.times step count).Leads first last ↔ ∃ next, start.Leads first next ∧ Steps step.Leads count next last := by
  fun_induction times start step count with
  | case1 => simp [Steps]
  | case2 start step =>
    rw [leads_andThen]
    simp only [steps_one]
  | case3 start step count some several double settled =>
    have settled : double = step := eq_of_beq settled
    have same (first last : Nat) : step.Leads first last ↔ ∃ next, step.Leads first next ∧ step.Leads next last := by
      rw [← leads_andThen]
      exact iff_of_eq (congrArg (Leads · first last) settled.symm)
    rw [leads_andThen]
    simp only [steps_settled same some]
  | case4 start step count some several double unsettled ih =>
    have doubles (first last : Nat) : double.Leads first last ↔ _ := leads_andThen
    simp only [dite_eq_ite, steps_double doubles] at ih
    rw [ih]
    rcases Nat.mod_two_eq_zero_or_one count with even | odd
    · rw [if_neg (by omega), show 2 * (count / 2) = count by omega]
    · rw [if_pos odd]
      have whole : count = 1 + 2 * (count / 2) := by omega
      simp only [leads_andThen]
      constructor
      · intro ⟨far, ⟨near, began, one⟩, more⟩
        refine ⟨near, began, ?_⟩
        rw [whole, steps_add]
        exact ⟨far, steps_one.mpr one, more⟩
      · intro ⟨near, began, all⟩
        rw [whole, steps_add] at all
        obtain ⟨far, one, more⟩ := all
        exact ⟨far, ⟨near, began, steps_one.mp one⟩, more⟩

theorem leads_past {text : List Char} {accepts : Char → Bool} :
    (start.past text accepts).Leads first last ↔
      ∃ next, start.Leads first next ∧ last = next + 1 ∧ text[next]?.any accepts = true := by
  rw [past, leads_map]
  constructor
  · intro ⟨places, held, bit⟩
    cases last with
    | zero => simp [Nat.testBit_zero] at bit
    | succ next =>
      rw [Nat.testBit_add_one, Nat.mul_div_cancel_left _ (by decide), Nat.testBit_and, Bool.and_eq_true,
        testBit_placesWhere] at bit
      exact ⟨next, ⟨places, held, bit.1⟩, rfl, bit.2⟩
  · rintro ⟨next, ⟨places, held, bit⟩, rfl, accepted⟩
    refine ⟨places, held, ?_⟩
    rw [Nat.testBit_add_one, Nat.mul_div_cancel_left _ (by decide), Nat.testBit_and, bit, testBit_placesWhere, accepted]
    rfl

theorem not_leads_of_isNowhere (nowhere : start.isNowhere = true) : ¬ start.Leads first last := by
  intro ⟨places, held, bit⟩
  have none := List.all_eq_true.mp nowhere places (List.mem_of_getElem? held)
  rw [eq_of_beq none, Nat.zero_testBit] at bit
  cases bit

theorem exists_leads_of_not_isNowhere (somewhere : start.isNowhere = false) : ∃ first last, start.Leads first last := by
  obtain ⟨places, member, some⟩ := List.all_eq_false.mp somewhere
  obtain ⟨first, held⟩ := List.getElem?_of_mem member
  obtain ⟨last, bit⟩ := Nat.exists_testBit_of_ne_zero (fun zero => some (beq_iff_eq.mpr zero))
  exact ⟨first, last, places, held, bit⟩

end Leads
end Reach

end SquareSums.Pattern
