import SquareSums.Proofs.PlaceSets

/-! What a regular expression matches, told by its parts alone: a repetition by how often its body matches in
a row, whatever the text. The search for matches bounds every repetition by the length of the text and never
looks where nothing was reached; it finds the matches all the same. -/

namespace SquareSums.Pattern

def before? (text : List Char) (place : Nat) : Option Char := if place = 0 then none else text[place - 1]?

mutual
/-- Whether an expression matches what stands between two places of a text. -/
def Matches (text : List Char) : Pattern → (first last : Nat) → Prop
  | empty, first, last => last = first
  | literal characters, first, last => last = first + characters.length ∧ characters <+: text.drop first
  | oneOf members _, first, last => last = first + 1 ∧ text[first]?.any members.contains = true
  | look condition, first, last => last = first ∧ condition.holds (before? text first) text[first]? = true
  | capture _ body, first, last => body.Matches text first last
  | repeated least most _ body, first, last =>
    ∃ more, (∀ greatest, most = some greatest → more ≤ greatest - least) ∧
      Steps (body.Matches text) (least + more) first last
  | sequence parts, first, last => AllMatch text parts first last
  | choice branches, first, last => AnyMatches text branches first last

/-- One part matches after the other. -/
def AllMatch (text : List Char) : List Pattern → (first last : Nat) → Prop
  | [], first, last => last = first
  | part :: later, first, last => ∃ next, part.Matches text first next ∧ AllMatch text later next last

def AnyMatches (text : List Char) : List Pattern → (first last : Nat) → Prop
  | [], _, _ => False
  | branch :: others, first, last => branch.Matches text first last ∨ AnyMatches text others first last
end

section Within

variable {text : List Char}

mutual
/-- A match ends behind its beginning and within the text. -/
theorem matches_within (pattern : Pattern) {first last : Nat} (begins : first ≤ text.length)
    (found : pattern.Matches text first last) : first ≤ last ∧ last ≤ text.length := by
  cases pattern with
  | empty =>
    cases found
    exact ⟨Nat.le_refl _, begins⟩
  | literal characters =>
    obtain ⟨rfl, starts⟩ := found
    have := starts.length_le
    rw [List.length_drop] at this
    omega
  | oneOf members _ =>
    obtain ⟨rfl, accepted⟩ := found
    have : first < text.length := by
      obtain ⟨character, held, _⟩ := (Option.any_eq_true _ _).mp accepted
      exact (List.getElem?_eq_some_iff.mp held).1
    omega
  | look condition =>
    obtain ⟨rfl, _⟩ := found
    exact ⟨Nat.le_refl _, begins⟩
  | capture _ body => exact matches_within body begins found
  | repeated least most _ body =>
    obtain ⟨more, _, stepped⟩ := found
    exact steps_within (fun _ _ begins => matches_within body begins) begins stepped
  | sequence parts => exact allMatch_within parts begins found
  | choice branches => exact anyMatches_within branches begins found

theorem allMatch_within (parts : List Pattern) {first last : Nat} (begins : first ≤ text.length)
    (found : AllMatch text parts first last) : first ≤ last ∧ last ≤ text.length := by
  cases parts with
  | nil =>
    cases found
    exact ⟨Nat.le_refl _, begins⟩
  | cons part later =>
    obtain ⟨next, one, rest⟩ := found
    obtain ⟨ahead, inside⟩ := matches_within part begins one
    obtain ⟨further, ends⟩ := allMatch_within later inside rest
    exact ⟨Nat.le_trans ahead further, ends⟩

theorem anyMatches_within (branches : List Pattern) {first last : Nat} (begins : first ≤ text.length)
    (found : AnyMatches text branches first last) : first ≤ last ∧ last ≤ text.length := by
  cases branches with
  | nil => cases found
  | cons branch others =>
    rcases found with one | other
    · exact matches_within branch begins one
    · exact anyMatches_within others begins other
end

theorem leads_repeated {start step : Reach} {body : Pattern} (sized : step.length = text.length + 1)
    (inside : ∀ first last, start.Leads first last → last ≤ text.length)
    (steps : ∀ first last, step.Leads first last ↔ first ≤ text.length ∧ body.Matches text first last)
    (least : Nat) (most : Option Nat) (isLazy : Bool) (first last : Nat) :
    (start.repeated step text least most).Leads first last ↔
      ∃ next, start.Leads first next ∧ (repeated least most isLazy body).Matches text next last := by
  have within (first last : Nat) (begins : first ≤ text.length) (found : body.Matches text first last) :
      first ≤ last ∧ last ≤ text.length := matches_within body begins found
  have exactly {first : Nat} (begins : first ≤ text.length) (count last : Nat) :
      Steps step.Leads count first last ↔ Steps (body.Matches text) count first last :=
    steps_congr within (fun first last begins => (steps first last).trans (and_iff_right begins)) begins count
  have orStay (first last : Nat) : ((Reach.stay text).or step).Leads first last ↔
      (last = first ∧ first ≤ text.length) ∨ first ≤ text.length ∧ body.Matches text first last := by
    rw [Reach.leads_or ((Reach.length_stay text).trans sized.symm), Reach.leads_stay, steps]
  have upTo {first : Nat} (begins : first ≤ text.length) (count last : Nat) :
      Steps ((Reach.stay text).or step).Leads count first last ↔
        ∃ fewer ≤ count, Steps (body.Matches text) fewer first last := by
    rw [← steps_or_stay within begins]
    refine steps_congr (fun first last (begins : first ≤ text.length) stepped => ?_) (fun first last begins => ?_)
      begins count
    · rcases stepped with ⟨rfl, _⟩ | found
      · exact ⟨Nat.le_refl _, begins⟩
      · exact within first last begins found
    · rw [orStay, and_iff_right begins]
  rw [Reach.repeated, Reach.leads_times]
  simp only [Reach.leads_times]
  constructor
  · intro ⟨near, ⟨next, begun, before⟩, after⟩
    have begins := inside first next begun
    have before := (exactly begins least near).mp before
    obtain ⟨more, few, after⟩ := (upTo (steps_within within begins before).2 _ last).mp after
    refine ⟨next, begun, more, ?_, (steps_add least more).mpr ⟨near, before, after⟩⟩
    rintro greatest rfl
    exact Nat.le_trans few (Nat.min_le_left _ _)
  · intro ⟨next, begun, more, allowed, all⟩
    have begins := inside first next begun
    obtain ⟨near, before, after⟩ := (steps_add least more).mp all
    have reached := (steps_within within begins before).2
    have ends := (steps_within within reached after).2
    obtain ⟨fewer, few, short, after⟩ := steps_shorten within reached after
    have room : fewer ≤ text.length := by omega
    have before := (exactly begins least near).mpr before
    refine ⟨near, ⟨next, begun, before⟩, (upTo reached _ last).mpr ⟨fewer, ?_, after⟩⟩
    cases most with
    | none => exact room
    | some greatest => exact Nat.le_min.mpr ⟨Nat.le_trans few (allowed greatest rfl), room⟩

theorem getElem?_surroundings {place : Nat} (within : place ≤ text.length) :
    (surroundings text)[place]? = some (before? text place, text[place]?) := by
  have after : (text.map some ++ [none])[place]? = some text[place]? := by
    rcases Nat.eq_or_lt_of_le within with rfl | inside
    · simp
    · rw [List.getElem?_append_left (by simpa using inside), List.getElem?_map, List.getElem?_eq_getElem inside]
      rfl
  have before : (none :: text.map some)[place]? = some (before? text place) := by
    cases place with
    | zero => rfl
    | succ place =>
      rw [List.getElem?_cons_succ, List.getElem?_map, before?, if_neg (Nat.succ_ne_zero place), Nat.add_sub_cancel,
        List.getElem?_eq_getElem within]
      rfl
  rw [surroundings, List.getElem?_zip_eq_some]
  exact ⟨before, after⟩

theorem cons_prefix_drop_iff {character : Char} {later : List Char} {place : Nat} :
    character :: later <+: text.drop place ↔ text[place]? = some character ∧ later <+: text.drop (place + 1) := by
  rcases Nat.lt_or_ge place text.length with inside | beyond
  · rw [List.drop_eq_getElem_cons inside, List.cons_prefix_cons, List.getElem?_eq_getElem inside, Option.some_inj,
      eq_comm]
  · rw [List.drop_eq_nil_of_le beyond, List.getElem?_eq_none beyond]
    simp

theorem leads_pastAll {start : Reach} {characters : List Char} {first last : Nat} :
    (start.pastAll text characters).Leads first last ↔
      ∃ next, start.Leads first next ∧ last = next + characters.length ∧ characters <+: text.drop next := by
  induction characters generalizing start with
  | nil => simp [Reach.pastAll]
  | cons character later ih =>
    rw [Reach.pastAll]
    by_cases nowhere : start.isNowhere = true
    · rw [if_pos nowhere]
      have none (last : Nat) : ¬ start.Leads first last := Reach.not_leads_of_isNowhere nowhere
      simp [none]
    · rw [if_neg nowhere, ih]
      simp only [Reach.leads_past, cons_prefix_drop_iff, List.length_cons]
      constructor
      · rintro ⟨_, ⟨next, begun, rfl, here⟩, rfl, rest⟩
        obtain ⟨_, held, same⟩ := (Option.any_eq_true _ _).mp here
        cases eq_of_beq same
        exact ⟨next, begun, by omega, held, rest⟩
      · rintro ⟨next, begun, rfl, held, rest⟩
        refine ⟨next + 1, ⟨next, begun, rfl, ?_⟩, by omega, rest⟩
        rw [held, Option.any_some, beq_self_eq_true]

theorem Reach.length_pastAll (start : Reach) (characters : List Char) :
    (start.pastAll text characters).length = start.length := by
  induction characters generalizing start with
  | nil => rfl
  | cons character later ih =>
    rw [pastAll]
    by_cases nowhere : start.isNowhere = true
    · rw [if_pos nowhere]
    · rw [if_neg nowhere, ih, past, List.length_map]

theorem Reach.length_times (start step : Reach) (count : Nat) : (start.times step count).length = start.length := by
  fun_induction times start step count with
  | case1 => rfl
  | case2 | case3 => exact List.length_map _
  | case4 start step count _ _ _ _ ih =>
    simp only [dite_eq_ite] at ih
    rw [ih]
    split
    · exact List.length_map _
    · rfl

mutual
theorem length_extend (pattern : Pattern) (start : Reach) : (pattern.extend text start).length = start.length := by
  cases pattern with
  | empty => rfl
  | literal characters => exact start.length_pastAll characters
  | oneOf members _ => exact List.length_map _
  | look condition => exact List.length_map _
  | capture _ body => exact length_extend body start
  | repeated least most _ body =>
    rw [extend]
    split
    · rfl
    · rw [Reach.repeated, Reach.length_times, Reach.length_times]
  | sequence parts => exact length_extendThrough parts start
  | choice branches =>
    rw [extend, length_extendAny branches start _ (List.length_map _)]
    exact List.length_map _

theorem length_extendThrough (parts : List Pattern) (start : Reach) :
    (extendThrough text start parts).length = start.length := by
  cases parts with
  | nil => rfl
  | cons part later =>
    rw [extendThrough]
    split
    · rfl
    · rw [length_extendThrough, length_extend]

theorem length_extendAny (branches : List Pattern) (start found : Reach) (same : found.length = start.length) :
    (extendAny text start found branches).length = found.length := by
  cases branches with
  | nil => rfl
  | cons branch others =>
    have joined : (found.or (branch.extend text start)).length = found.length := by
      rw [Reach.or, List.length_zipWith, length_extend, same, Nat.min_self]
    rw [extendAny, length_extendAny others start _ (joined.trans same), joined]
end

mutual
/-- From the places of a start an expression reaches the ends of its matches that begin there. -/
theorem leads_extend (pattern : Pattern) {start : Reach}
    (inside : ∀ first last, start.Leads first last → last ≤ text.length) {first last : Nat} :
    (pattern.extend text start).Leads first last ↔
      ∃ next, start.Leads first next ∧ pattern.Matches text next last := by
  cases pattern with
  | empty => simp [extend, Matches]
  | literal characters => exact leads_pastAll
  | oneOf members _ => exact Reach.leads_past
  | look condition =>
    rw [extend, Reach.leads_map]
    simp only [Nat.testBit_and, Bool.and_eq_true, testBit_placesWhere]
    constructor
    · intro ⟨places, held, begun, holds⟩
      rw [getElem?_surroundings (inside first last ⟨places, held, begun⟩)] at holds
      exact ⟨last, ⟨places, held, begun⟩, rfl, holds⟩
    · rintro ⟨_, ⟨places, held, begun⟩, rfl, holds⟩
      refine ⟨places, held, begun, ?_⟩
      rw [getElem?_surroundings (inside first last ⟨places, held, begun⟩)]
      exact holds
  | capture _ body => exact leads_extend body inside
  | repeated least most isLazy body =>
    rw [extend]
    by_cases nowhere : start.isNowhere = true
    · rw [if_pos nowhere]
      have none (last : Nat) : ¬ start.Leads first last := Reach.not_leads_of_isNowhere nowhere
      simp [none]
    · rw [if_neg nowhere]
      refine leads_repeated ((length_extend body _).trans (Reach.length_stay text)) inside (fun first last => ?_)
        least most isLazy first last
      rw [leads_extend body fun _ _ stayed => (Reach.leads_stay.mp stayed).1 ▸ (Reach.leads_stay.mp stayed).2]
      simp only [Reach.leads_stay]
      constructor
      · rintro ⟨_, ⟨rfl, begins⟩, found⟩
        exact ⟨begins, found⟩
      · intro ⟨begins, found⟩
        exact ⟨first, ⟨rfl, begins⟩, found⟩
  | sequence parts => exact leads_extendThrough parts inside
  | choice branches =>
    have nothing : ¬ Reach.Leads (start.map fun _ => 0) first last := by
      rw [Reach.leads_map]
      intro ⟨_, _, bit⟩
      rw [Nat.zero_testBit] at bit
      cases bit
    rw [extend, leads_extendAny branches inside (List.length_map _), or_iff_right nothing]
    simp only [Matches]

theorem leads_extendThrough (parts : List Pattern) {start : Reach}
    (inside : ∀ first last, start.Leads first last → last ≤ text.length) {first last : Nat} :
    (extendThrough text start parts).Leads first last ↔
      ∃ next, start.Leads first next ∧ AllMatch text parts next last := by
  cases parts with
  | nil => simp [extendThrough, AllMatch]
  | cons part later =>
    rw [extendThrough]
    by_cases nowhere : start.isNowhere = true
    · rw [if_pos nowhere]
      have none (last : Nat) : ¬ start.Leads first last := Reach.not_leads_of_isNowhere nowhere
      simp [none]
    · have stays (first last : Nat) (reached : (part.extend text start).Leads first last) : last ≤ text.length := by
        obtain ⟨next, begun, found⟩ := (leads_extend part inside).mp reached
        exact (matches_within part (inside first next begun) found).2
      rw [if_neg nowhere, leads_extendThrough later stays]
      simp only [leads_extend part inside, AllMatch]
      constructor
      · intro ⟨middle, ⟨next, begun, found⟩, rest⟩
        exact ⟨next, begun, middle, found, rest⟩
      · intro ⟨next, begun, middle, found, rest⟩
        exact ⟨middle, ⟨next, begun, found⟩, rest⟩

theorem leads_extendAny (branches : List Pattern) {start found : Reach}
    (inside : ∀ first last, start.Leads first last → last ≤ text.length) (same : found.length = start.length)
    {first last : Nat} :
    (extendAny text start found branches).Leads first last ↔
      found.Leads first last ∨ ∃ next, start.Leads first next ∧ AnyMatches text branches next last := by
  cases branches with
  | nil => simp [extendAny, AnyMatches]
  | cons branch others =>
    have sized : found.length = (branch.extend text start).length := same.trans (length_extend branch start).symm
    have joined : (found.or (branch.extend text start)).length = start.length := by
      rw [Reach.or, List.length_zipWith, ← sized, Nat.min_self, same]
    rw [extendAny, leads_extendAny others inside joined, Reach.leads_or sized, leads_extend branch inside, or_assoc]
    simp only [AnyMatches, and_or_left, exists_or]
end

end Within

/-- An expression occurs in a text if it matches what stands between two of its places. -/
theorem occursIn_iff (pattern : Pattern) (text : String) :
    pattern.occursIn text = true ↔
      ∃ first last, first ≤ text.toList.length ∧ pattern.Matches text.toList first last := by
  have everywhere (first last : Nat) :
      Reach.Leads [Nat.pow 2 (text.toList.length + 1) - 1] first last ↔ first = 0 ∧ last ≤ text.toList.length := by
    cases first with
    | zero =>
      have bit : (Nat.pow 2 (text.toList.length + 1) - 1).testBit last = decide (last < text.toList.length + 1) :=
        Nat.testBit_two_pow_sub_one _ _
      simp only [Reach.Leads, List.getElem?_cons_zero, Option.some_inj, exists_eq_left', bit, decide_eq_true_eq,
        Nat.lt_succ_iff, true_and]
    | succ first => simp [Reach.Leads]
  have inside (first last : Nat) (begun : Reach.Leads [Nat.pow 2 (text.toList.length + 1) - 1] first last) :
      last ≤ text.toList.length := ((everywhere first last).mp begun).2
  have reaches (first last : Nat) : (pattern.extend text.toList _).Leads first last ↔ _ := leads_extend pattern inside
  rw [occursIn, Bool.not_eq_true']
  constructor
  · intro somewhere
    obtain ⟨first, last, reached⟩ := Reach.exists_leads_of_not_isNowhere somewhere
    obtain ⟨next, begun, found⟩ := (reaches first last).mp reached
    exact ⟨next, last, ((everywhere first next).mp begun).2, found⟩
  · intro occurs
    obtain ⟨first, last, begins, found⟩ := occurs
    rw [Bool.eq_false_iff]
    intro nowhere
    have reached := (reaches 0 last).mpr ⟨first, (everywhere 0 first).mpr ⟨rfl, begins⟩, found⟩
    exact Reach.not_leads_of_isNowhere nowhere reached

end SquareSums.Pattern
