import SquareSums.Proofs.CharacterSets
import SquareSums.Proofs.ListRelations
import SquareSums.Proofs.PatternMatches

/-! The functions that build a regular expression in its simplest form. What they build matches what the
parts do that they are given, put together as the name of the function says. -/

namespace SquareSums.Pattern

variable {text : List Char}

theorem anyMatches_iff {branches : List Pattern} {first last : Nat} :
    AnyMatches text branches first last ↔ ∃ branch ∈ branches, branch.Matches text first last := by
  induction branches with
  | nil => simp [AnyMatches]
  | cons branch others ih => simp [AnyMatches, ih]

theorem allMatch_append {earlier later : List Pattern} {first last : Nat} :
    AllMatch text (earlier ++ later) first last ↔
      ∃ next, AllMatch text earlier first next ∧ AllMatch text later next last := by
  induction earlier generalizing first with
  | nil => simp [AllMatch]
  | cons part earlier ih =>
    simp only [List.cons_append, AllMatch, ih]
    constructor
    · intro ⟨near, found, far, before, after⟩
      exact ⟨far, ⟨near, found, before⟩, after⟩
    · intro ⟨far, ⟨near, found, before⟩, after⟩
      exact ⟨near, found, far, before, after⟩

theorem matches_literal_append {earlier later : List Char} {first last : Nat} :
    (literal (earlier ++ later)).Matches text first last ↔
      ∃ next, (literal earlier).Matches text first next ∧ (literal later).Matches text next last := by
  simp only [Matches, List.length_append]
  constructor
  · rintro ⟨rfl, rest, whole⟩
    rw [List.append_assoc] at whole
    refine ⟨first + earlier.length, ⟨rfl, later ++ rest, whole⟩, by omega, rest, ?_⟩
    rw [← List.drop_drop, ← whole, List.drop_left]
  · rintro ⟨_, ⟨rfl, behind, begins⟩, rfl, rest, ends⟩
    rw [← List.drop_drop, ← begins, List.drop_left] at ends
    refine ⟨by omega, rest, ?_⟩
    rw [List.append_assoc, ends, begins]

theorem allMatch_singleton {part : Pattern} {first last : Nat} :
    AllMatch text [part] first last ↔ part.Matches text first last := by
  simp [AllMatch]

namespace Joining

def Means (text : List Char) (joining : Joining) (first last : Nat) : Prop :=
  ∃ next, AllMatch text joining.parts.reverse first next ∧ (literal joining.text.reverse).Matches text next last

theorem allMatch_finish {joining : Joining} {first last : Nat} :
    AllMatch text joining.finish.reverse first last ↔ joining.Means text first last := by
  rw [finish, Means]
  by_cases none : joining.text = []
  · simp [none, Matches]
  · rw [if_neg (by simpa using none), List.reverse_cons, allMatch_append]
    simp only [allMatch_singleton]

theorem means_add {joining : Joining} {part : Pattern} {first last : Nat} :
    (joining.add part).Means text first last ↔ ∃ next, joining.Means text first next ∧ part.Matches text next last := by
  have other (part : Pattern) : Means text ⟨part :: joining.finish, []⟩ first last ↔
      ∃ next, joining.Means text first next ∧ part.Matches text next last := by
    rw [Means, List.reverse_cons]
    simp only [allMatch_append, allMatch_finish, allMatch_singleton]
    simp [Matches]
  cases part with
  | empty => simp [add, Matches]
  | literal characters =>
    rw [add, Means, List.reverseAux_eq, List.reverse_append, List.reverse_reverse]
    simp only [matches_literal_append]
    constructor
    · intro ⟨near, before, far, inside, behind⟩
      exact ⟨far, ⟨near, before, inside⟩, behind⟩
    · intro ⟨far, ⟨near, before, inside⟩, behind⟩
      exact ⟨near, before, far, inside, behind⟩
  | _ => exact other _

theorem means_foldl {join : Joining → Pattern → Joining}
    (joins : ∀ joining part first last, (join joining part).Means text first last ↔
      ∃ next, joining.Means text first next ∧ part.Matches text next last)
    {joining : Joining} {parts : List Pattern} {first last : Nat} :
    (parts.foldl join joining).Means text first last ↔
      ∃ next, joining.Means text first next ∧ AllMatch text parts next last := by
  induction parts generalizing joining with
  | nil => simp [AllMatch]
  | cons part parts ih =>
    rw [List.foldl_cons, ih]
    simp only [joins, AllMatch]
    constructor
    · intro ⟨far, ⟨near, before, found⟩, behind⟩
      exact ⟨near, before, far, found, behind⟩
    · intro ⟨near, before, far, found, behind⟩
      exact ⟨far, ⟨near, before, found⟩, behind⟩

end Joining

theorem matches_ofSequence {parts : List Pattern} {first last : Nat} :
    (ofSequence parts).Matches text first last ↔ AllMatch text parts first last := by
  rw [ofSequence]
  generalize folded : List.foldl _ _ parts = joined
  have means : joined.Means text first last ↔ AllMatch text parts first last := by
    rw [← folded, Joining.means_foldl]
    · simp [Joining.Means, AllMatch, Matches]
    · intro joining part first last
      cases part with
      | sequence inner => exact Joining.means_foldl fun _ _ _ _ => Joining.means_add
      | _ => exact Joining.means_add
  rw [← means, ← Joining.allMatch_finish]
  rcases joined.finish with _ | ⟨part, _ | ⟨other, earlier⟩⟩
  · rfl
  · exact allMatch_singleton.symm
  · rfl

theorem matches_literal_single {character : Char} {first last : Nat} :
    (literal [character]).Matches text first last ↔ last = first + 1 ∧ text[first]? = some character := by
  rw [Matches, cons_prefix_drop_iff, and_iff_left List.nil_prefix]
  rfl

theorem matches_oneOf {members : CharSet} {isBytes : Bool} {first last : Nat} :
    (oneOf members isBytes).Matches text first last ↔
      last = first + 1 ∧ ∃ character, text[first]? = some character ∧
        CharSet.Covers members.ranges character.toNat := by
  simp only [Matches, Option.any_eq_true, CharSet.contains_iff]

theorem matches_ofSet {members : CharSet} {isBytes : Bool} {first last : Nat} :
    (ofSet members isBytes).Matches text first last ↔ (oneOf members isBytes).Matches text first last := by
  rw [ofSet]
  cases single : members.single? with
  | none => rfl
  | some character =>
    have only (other : Char) : CharSet.Covers members.ranges other.toNat ↔ other = character := by
      rw [CharSet.ranges_of_single? single, ← Char.toNat_inj]
      simp only [CharSet.Covers, List.mem_singleton, exists_eq_left]
      omega
    simp only [matches_literal_single, matches_oneOf, only, exists_eq_right]

section Repetition

theorem steps_of_still {step : Nat → Nat → Prop} (still : ∀ first last, step first last → last = first)
    {count first last : Nat} :
    Steps step count first last ↔ last = first ∧ (count = 0 ∨ step first first) := by
  induction count generalizing first with
  | zero => simp [Steps]
  | succ count ih =>
    simp only [Steps, ih, Nat.succ_ne_zero, false_or]
    constructor
    · intro steps
      obtain ⟨next, stepped, same, _⟩ := steps
      cases still first next stepped
      exact ⟨same, stepped⟩
    · intro stays
      exact ⟨first, stays.2, stays.1, .inr stays.2⟩

mutual
theorem eq_of_isOnlyEmpty (pattern : Pattern) (none : pattern.isOnlyEmpty = true) {first last : Nat}
    (found : pattern.Matches text first last) : last = first := by
  cases pattern with
  | empty => exact found
  | look condition => exact found.1
  | literal _ | oneOf _ _ => cases none
  | capture _ body => exact eq_of_isOnlyEmpty body none found
  | repeated _ _ _ body =>
    obtain ⟨_, _, stepped⟩ := found
    exact ((steps_of_still fun _ _ => eq_of_isOnlyEmpty body none).mp stepped).1
  | sequence parts => exact (eq_of_areOnlyEmpty parts none).1 found
  | choice branches => exact (eq_of_areOnlyEmpty branches none).2 found

theorem eq_of_areOnlyEmpty (parts : List Pattern) (none : areOnlyEmpty parts = true) {first last : Nat} :
    (AllMatch text parts first last → last = first) ∧ (AnyMatches text parts first last → last = first) := by
  cases parts with
  | nil => exact ⟨id, False.elim⟩
  | cons part later =>
    have one : part.isOnlyEmpty = true := by
      rw [areOnlyEmpty] at none
      split at none
      · assumption
      · cases none
    have others : areOnlyEmpty later = true := by rwa [areOnlyEmpty, if_pos one] at none
    constructor
    · intro ⟨next, found, rest⟩
      cases eq_of_isOnlyEmpty part one found
      exact (eq_of_areOnlyEmpty later others).1 rest
    · rintro (found | other)
      · exact eq_of_isOnlyEmpty part one found
      · exact (eq_of_areOnlyEmpty later others).2 other
end

variable {least : Nat} {most : Option Nat} {isLazy : Bool} {body : Pattern} {first last : Nat}

/-- How often nothing is repeated makes no difference, once it is. -/
theorem matches_repeated_of_isOnlyEmpty (none : body.isOnlyEmpty = true) :
    (repeated least most isLazy body).Matches text first last ↔
      last = first ∧ (least = 0 ∨ body.Matches text first first) := by
  have still (first last : Nat) : body.Matches text first last → last = first := eq_of_isOnlyEmpty body none
  simp only [Matches, steps_of_still still]
  constructor
  · intro ⟨more, _, same, matched⟩
    exact ⟨same, matched.imp_left Nat.eq_zero_of_add_eq_zero_right⟩
  · intro ⟨same, matched⟩
    exact ⟨0, fun _ _ => Nat.zero_le _, same, matched⟩

theorem matches_repeated_simply (ordered : ∀ greatest, most = some greatest → least ≤ greatest) :
    (if most == some 0 then empty
      else if least == 1 && most == some 1 then body
      else repeated least most isLazy body).Matches text first last ↔
      (repeated least most isLazy body).Matches text first last := by
  by_cases never : most = some 0
  · subst never
    cases Nat.le_zero.mp (ordered 0 rfl)
    simp [Matches, Steps]
  · rw [if_neg (by simpa using never)]
    by_cases once : least = 1 ∧ most = some 1
    · obtain ⟨rfl, rfl⟩ := once
      simp [Matches, steps_one]
    · rw [if_neg (by simpa using once)]

theorem matches_ofRepetition (ordered : ∀ greatest, most = some greatest → least ≤ greatest) :
    (ofRepetition least most isLazy body).Matches text first last ↔
      (repeated least most isLazy body).Matches text first last := by
  rw [ofRepetition]
  cases none : body.isOnlyEmpty with
  | false => exact matches_repeated_simply ordered
  | true =>
    have zero : min least 1 = 0 ↔ least = 0 := by omega
    refine (matches_repeated_simply ?_).trans ?_
    · rintro _ ⟨⟩
      cases most with
      | none => exact Nat.min_le_right least 1
      | some greatest =>
        have enough := Nat.le_trans (Nat.min_le_left least 1) (ordered greatest rfl)
        exact Nat.le_min.mpr ⟨enough, Nat.min_le_right _ _⟩
    · rw [matches_repeated_of_isOnlyEmpty none, matches_repeated_of_isOnlyEmpty none, if_pos rfl, zero]

end Repetition

section Choice

mutual
theorem eq_of_same (one other : Pattern) (alike : one.same other = true) : one = other := by
  cases one with
  | empty =>
    cases other with
    | empty => rfl
    | _ => cases alike
  | literal text =>
    cases other with
    | literal other => rw [eq_of_beq alike]
    | _ => cases alike
  | oneOf members isBytes =>
    cases other with
    | oneOf others areBytes =>
      obtain ⟨members, bytes⟩ := Bool.and_eq_true_iff.mp alike
      rw [eq_of_beq members, eq_of_beq bytes]
    | _ => cases alike
  | look condition =>
    cases other with
    | look other => rw [eq_of_beq alike]
    | _ => cases alike
  | capture index body =>
    cases other with
    | capture other otherBody =>
      obtain ⟨index, bodies⟩ := Bool.and_eq_true_iff.mp alike
      rw [eq_of_beq index, eq_of_same body otherBody bodies]
    | _ => cases alike
  | repeated least most isLazy body =>
    cases other with
    | repeated otherLeast otherMost otherLazy otherBody =>
      obtain ⟨counts, bodies⟩ := Bool.and_eq_true_iff.mp alike
      obtain ⟨counts, kind⟩ := Bool.and_eq_true_iff.mp counts
      obtain ⟨least, most⟩ := Bool.and_eq_true_iff.mp counts
      rw [eq_of_beq least, eq_of_beq most, eq_of_beq kind, eq_of_same body otherBody bodies]
    | _ => cases alike
  | sequence parts =>
    cases other with
    | sequence others => rw [eq_of_allSame parts others alike]
    | _ => cases alike
  | choice branches =>
    cases other with
    | choice others => rw [eq_of_allSame branches others alike]
    | _ => cases alike

theorem eq_of_allSame (parts others : List Pattern) (alike : allSame parts others = true) : parts = others := by
  cases parts with
  | nil =>
    cases others with
    | nil => rfl
    | cons _ _ => cases alike
  | cons part parts =>
    cases others with
    | nil => cases alike
    | cons other others =>
      rw [allSame] at alike
      split at alike
      next first => rw [eq_of_same part other first, eq_of_allSame parts others alike]
      next => cases alike
end

theorem commonStart_starts (parts others : List Pattern) :
    commonStart parts others <+: parts ∧ commonStart parts others <+: others := by
  induction parts generalizing others with
  | nil => exact ⟨List.nil_prefix, List.nil_prefix⟩
  | cons part parts ih =>
    cases others with
    | nil => exact ⟨List.nil_prefix, List.nil_prefix⟩
    | cons other others =>
      rw [commonStart]
      split
      next alike =>
        rw [eq_of_same part other alike]
        obtain ⟨one, two⟩ := ih others
        exact ⟨List.cons_prefix_cons.mpr ⟨rfl, one⟩, List.cons_prefix_cons.mpr ⟨rfl, two⟩⟩
      next => exact ⟨List.nil_prefix, List.nil_prefix⟩

theorem foldl_commonStart_starts (first : List Pattern) (others : List (List Pattern)) :
    ∀ parts ∈ first :: others, others.foldl commonStart first <+: parts := by
  induction others generalizing first with
  | nil =>
    intro parts member
    cases List.mem_singleton.mp member
    exact List.prefix_refl first
  | cons other others ih =>
    obtain ⟨starts, rest⟩ := List.forall_mem_cons.mp (ih (commonStart first other))
    obtain ⟨ofFirst, ofOther⟩ := commonStart_starts first other
    exact List.forall_mem_cons.mpr ⟨starts.trans ofFirst, List.forall_mem_cons.mpr ⟨starts.trans ofOther, rest⟩⟩

theorem anyMatches_classes {branches : List Pattern} {ranges : List (List (Nat × Nat))}
    (stand : List.Forall₂ (fun branch range => ∀ first last, branch.Matches text first last ↔
      last = first + 1 ∧ ∃ character, text[first]? = some character ∧ CharSet.Covers range character.toNat)
      branches ranges) {first last : Nat} :
    AnyMatches text branches first last ↔
      last = first + 1 ∧ ∃ character, text[first]? = some character ∧ CharSet.Covers ranges.flatten character.toNat := by
  induction stand with
  | nil => simp [AnyMatches, CharSet.Covers]
  | cons stands _ ih =>
    rw [AnyMatches, stands, ih, List.flatten_cons, ← and_or_left, ← exists_or]
    simp only [CharSet.covers_append, and_or_left]

theorem anyMatches_of_asSet? {branches : List Pattern} {members : CharSet} (single : asSet? branches = some members)
    {first last : Nat} :
    AnyMatches text branches first last ↔
      last = first + 1 ∧ ∃ character, text[first]? = some character ∧ CharSet.Covers members.ranges character.toNat := by
  obtain ⟨ranges, joined, rfl⟩ := Option.map_eq_some_iff.mp single
  simp only [CharSet.covers_ofRanges]
  rcases Option.or_eq_some_iff.mp joined with characters | ⟨_, classes⟩
  · have flat : (ranges.map fun range => [range]).flatten = ranges := List.flatMap_singleton' ranges
    rw [← flat]
    apply anyMatches_classes
    rw [List.forall₂_map_right_iff]
    refine (mapM_eq_some_iff.mp characters).imp fun branch range read first last => ?_
    unfold character? at read
    split at read
    next character =>
      cases read
      rw [matches_literal_single]
      simp only [CharSet.Covers, List.mem_singleton, exists_eq_left, ← Nat.le_antisymm_iff, Char.toNat_inj]
      simp
    next => cases read
  · obtain ⟨lists, read, rfl⟩ := Option.map_eq_some_iff.mp classes
    apply anyMatches_classes
    refine (mapM_eq_some_iff.mp read).imp fun branch range read first last => ?_
    unfold ranges? at read
    split at read
    next members isBytes =>
      cases read
      exact matches_oneOf
    next => cases read

theorem matches_ofBranches {branches : List Pattern} {first last : Nat} :
    (ofBranches branches).Matches text first last ↔ AnyMatches text branches first last := by
  unfold ofBranches
  split
  next branch => simp [AnyMatches]
  next =>
    split
    next members single => rw [matches_ofSet, matches_oneOf, anyMatches_of_asSet? single]
    next => rfl

theorem anyMatches_append {earlier later : List Pattern} {first last : Nat} :
    AnyMatches text (earlier ++ later) first last ↔
      AnyMatches text earlier first last ∨ AnyMatches text later first last := by
  simp only [anyMatches_iff, List.mem_append, or_and_right, exists_or]

theorem anyMatches_alternatives {branches : List Pattern} {first last : Nat} :
    AnyMatches text (branches.flatMap alternatives) first last ↔ AnyMatches text branches first last := by
  induction branches with
  | nil => rfl
  | cons branch branches ih =>
    have one : AnyMatches text branch.alternatives first last ↔ branch.Matches text first last := by
      cases branch with
      | choice inner => rfl
      | _ => exact iff_of_eq (or_false _)
    rw [List.flatMap_cons, anyMatches_append, ih, one, AnyMatches]

theorem anyMatches_sequences {branches : List Pattern} {lists : List (List Pattern)}
    (sequences : branches.mapM parts? = some lists) {first last : Nat} :
    AnyMatches text branches first last ↔ ∃ parts ∈ lists, AllMatch text parts first last := by
  have listed := mapM_eq_some_iff.mp sequences
  clear sequences
  induction listed with
  | nil => simp [AnyMatches]
  | cons read _ ih =>
    unfold parts? at read
    split at read
    next parts =>
      cases read
      simp only [List.mem_cons, or_and_right, exists_or, exists_eq_left]
      exact or_congr Iff.rfl ih
    next => cases read

/-- What all begin with can be matched first. -/
theorem allMatch_common {common : List Pattern} {lists : List (List Pattern)} {rest : Pattern}
    (shared : ∀ parts ∈ lists, common <+: parts) {first last : Nat}
    (rests : ∀ first last, rest.Matches text first last ↔
      AnyMatches text (lists.map fun parts => ofSequence (parts.drop common.length)) first last) :
    AllMatch text (common ++ [rest]) first last ↔ ∃ parts ∈ lists, AllMatch text parts first last := by
  have whole (parts : List Pattern) (member : parts ∈ lists) : common ++ parts.drop common.length = parts :=
    List.prefix_iff_eq_append.mp (shared parts member)
  simp only [allMatch_append, allMatch_singleton, rests, anyMatches_iff, List.mem_map, exists_exists_and_eq_and,
    matches_ofSequence]
  constructor
  · intro ⟨next, before, parts, member, after⟩
    refine ⟨parts, member, ?_⟩
    rw [← whole parts member, allMatch_append]
    exact ⟨next, before, after⟩
  · intro ⟨parts, member, found⟩
    rw [← whole parts member, allMatch_append] at found
    obtain ⟨next, before, after⟩ := found
    exact ⟨next, before, parts, member, after⟩

theorem matches_choose (rounds : Nat) (branches : List Pattern) {first last : Nat} :
    (choose rounds branches).Matches text first last ↔ AnyMatches text branches first last := by
  induction rounds generalizing branches first last with
  | zero => exact matches_ofBranches
  | succ rounds ih =>
    rw [choose, ← anyMatches_alternatives]
    split
    next one two others sequences =>
      dsimp only
      split
      next => exact matches_ofBranches
      next =>
        rw [matches_ofSequence, anyMatches_sequences sequences]
        exact allMatch_common (foldl_commonStart_starts one (two :: others)) fun first last => ih _
    next => exact matches_ofBranches

theorem matches_ofChoice {branches : List Pattern} {first last : Nat} :
    (ofChoice branches).Matches text first last ↔ AnyMatches text branches first last :=
  matches_choose _ branches

end Choice

end SquareSums.Pattern
