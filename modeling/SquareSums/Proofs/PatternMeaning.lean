import SquareSums.Pattern.Refusal
import SquareSums.Proofs.PatternBuilding
import SquareSums.Proofs.PatternReading

/-! What a written regular expression finds, told by the expression as it is written and the flags that hold
where its parts stand. Its meaning matches just that, so nothing is lost on the way from the text of an
expression to the search for its matches. -/

namespace SquareSums.Pattern

/-- A character that belongs to a class, and the place behind it. -/
def Passes (text : List Char) (accepts : Char → Bool) (first last : Nat) : Prop :=
  last = first + 1 ∧ text[first]?.any accepts = true

def ShortClass.holds (kind : ShortClass) (character : Char) : Bool :=
  match kind with
  | digit => character.isDigit
  | space => character == ' ' || ('\t'.toNat ≤ character.toNat && character.toNat ≤ '\r'.toNat)
  | word => isWordCharacter character

namespace Flags

def accepts (flags : Flags) (written character : Char) : Bool :=
  if flags.caseless then character.toLower == written.toLower else character == written

def acceptsAny (flags : Flags) (character : Char) : Bool :=
  flags.dotAll || (character != '\n' && !(flags.carriageReturns && character == '\r'))

end Flags

mutual
/-- The flags that hold behind an expression. A group keeps its flags to itself. -/
def Tree.flagsBehind (flags : Flags) : Tree → Flags
  | .flags _ changes => flags.apply changes
  | .repetition _ _ _ _ body => body.flagsBehind flags
  | .sequence _ parts => Tree.flagsBehindAll flags parts
  | .choice _ branches => Tree.flagsBehindAll flags branches
  | .empty _ | .literal .. | .dot _ | .anchor .. | .property .. | .short .. | .bracket .. | .group .. => flags

def Tree.flagsBehindAll (flags : Flags) : List Tree → Flags
  | [] => flags
  | tree :: later => Tree.flagsBehindAll (tree.flagsBehind flags) later
end

mutual
/-- Whether an expression finds what stands between two places of a text, under the flags that hold before it. -/
def Tree.Finds (text : List Char) (flags : Flags) : Tree → (first last : Nat) → Prop
  | .empty _, first, last => last = first
  | .flags .., first, last => last = first
  | .literal _ written, first, last => Passes text (flags.accepts written.character) first last
  | .dot _, first, last => Passes text flags.acceptsAny first last
  | .anchor _ condition, first, last =>
    last = first ∧ (condition.meaning flags).holds (before? text first) text[first]? = true
  | .property .., _, _ => False
  | .short _ kind negated, first, last => Passes text (fun character => kind.holds character != negated) first last
  | .bracket span negated content, first, last =>
    ∃ members, (Members.bracket span negated content).meaning flags = .ok members ∧
      Passes text members.contains first last
  | .repetition _ least most _ body, first, last =>
    ∃ count, least ≤ count ∧ (∀ greatest, most = some greatest → count ≤ greatest) ∧
      Steps (body.Finds text flags) count first last
  | .group _ kind body, first, last =>
    match kind with
    | .capture _ => body.Finds text flags first last
    | .plain changes => body.Finds text (flags.apply changes) first last
  | .sequence _ parts, first, last => Tree.AllFind text flags parts first last
  | .choice _ branches, first, last => Tree.AnyFinds text flags branches first last

/-- One part finds what stands behind what the other has found, under the flags that hold there. -/
def Tree.AllFind (text : List Char) (flags : Flags) : List Tree → (first last : Nat) → Prop
  | [], first, last => last = first
  | tree :: later, first, last =>
    ∃ next, tree.Finds text flags first next ∧ Tree.AllFind text (tree.flagsBehind flags) later next last

/-- Flags that are set in a branch hold in the branches behind it, too. -/
def Tree.AnyFinds (text : List Char) (flags : Flags) : List Tree → (first last : Nat) → Prop
  | [], _, _ => False
  | branch :: others, first, last =>
    branch.Finds text flags first last ∨ Tree.AnyFinds text (branch.flagsBehind flags) others first last
end

/-- A meaning, with the flags behind it, of an expression. -/
structure Tree.Means (text : List Char) (flags : Flags) (tree : Tree) (meaning : Pattern × Flags) : Prop where
  behind : meaning.2 = tree.flagsBehind flags
  finds : ∀ first last, meaning.1.Matches text first last ↔ tree.Finds text flags first last

/-- The meanings of expressions, put behind what has been found before. -/
structure Tree.AllMean (text : List Char) (flags : Flags) (found : List Pattern) (trees : List Tree)
    (meanings : List Pattern × Flags) : Prop where
  behind : meanings.2 = Tree.flagsBehindAll flags trees
  all : ∀ first last, AllMatch text meanings.1 first last ↔
    ∃ next, AllMatch text found.reverse first next ∧ Tree.AllFind text flags trees next last
  any : ∀ first last, AnyMatches text meanings.1 first last ↔
    AnyMatches text found.reverse first last ∨ Tree.AnyFinds text flags trees first last

variable {text : List Char} {first last : Nat}

theorem matches_ofSet_iff_passes {members : CharSet} {isBytes : Bool} {accepts : Char → Bool}
    (alike : ∀ character, members.contains character = accepts character) :
    (ofSet members isBytes).Matches text first last ↔ Passes text accepts first last := by
  have same : members.contains = accepts := funext alike
  rw [matches_ofSet, ← same]
  simp only [Matches, Passes]

theorem Literal.gives_meaning (written : Literal) (flags : Flags) (span : Span) :
    Gives (· = written.character) (written.meaning flags span) := by
  unfold Literal.meaning
  split
  · exact gives_error
  · exact gives_ok rfl

theorem Flags.gives_literal (flags : Flags) (span : Span) (written : Literal) :
    Gives (fun pattern => ∀ first last, pattern.Matches text first last ↔
      Passes text (flags.accepts written.character) first last) (flags.literal span written) := by
  refine gives_bind fun character read => ?_
  cases written.gives_meaning flags span character read
  split
  next plain =>
    have plain : flags.caseless = false := Bool.not_eq_true' _ ▸ plain
    apply gives_ok
    intro first last
    simp only [matches_literal_single, Passes, Option.any_eq_true, accepts, plain, Bool.false_eq_true, if_false,
      beq_iff_eq, exists_eq_right]
  next cased =>
    have caseless : flags.caseless = true := by simpa using cased
    split
    · exact gives_error
    · apply gives_ok
      intro first last
      apply matches_ofSet_iff_passes
      intro other
      rw [Bool.eq_iff_iff, CharSet.contains_caseless, accepts, if_pos caseless, beq_iff_eq, eq_comm]
      simp only [CharSet.contains_ofChar, exists_eq_left]

theorem Flags.acceptsAny_iff {flags : Flags} {character : Char} :
    flags.acceptsAny character = true ↔
      flags.dotAll = true ∨ character.toNat ≠ 0xA ∧ (flags.carriageReturns = true → character.toNat ≠ 0xD) := by
  have lineFeed : character = '\n' ↔ character.toNat = 0xA := Char.toNat_inj.symm
  have carriageReturn : character = '\r' ↔ character.toNat = 0xD := Char.toNat_inj.symm
  simp only [acceptsAny, Bool.or_eq_true, Bool.and_eq_true, bne_iff_ne, Bool.not_eq_true', Bool.and_eq_false_imp,
    beq_eq_false_iff_ne, ne_eq, lineFeed, carriageReturn]

theorem Flags.gives_dot (flags : Flags) (span : Span) :
    Gives (fun pattern => ∀ first last, pattern.Matches text first last ↔ Passes text flags.acceptsAny first last)
      (flags.dot span) := by
  have bounded (character : Char) : character.toNat ≤ 0x10FFFF := by
    rcases character.valid with small | ⟨_, small⟩
    · have : character.toNat < 0xD800 := small
      omega
    · exact Nat.le_of_lt_succ small
  have dot {members : CharSet} (alike : ∀ character, CharSet.Covers members.ranges character.toNat ↔
      flags.acceptsAny character = true) : Gives (fun pattern => ∀ first last, pattern.Matches text first last ↔
        Passes text flags.acceptsAny first last) (.ok (oneOf members false) : Except Flaw Pattern) := by
    apply gives_ok
    intro first last
    have same : members.contains = flags.acceptsAny := by
      funext character
      rw [Bool.eq_iff_iff, CharSet.contains_iff, alike]
    simp only [Matches, Passes, same]
  unfold Flags.dot
  repeat' split
  · exact gives_error
  next every =>
    apply dot
    intro character
    refine iff_of_true ⟨(0, 0x10FFFF), List.mem_singleton_self _, Nat.zero_le _, bounded character⟩ ?_
    exact acceptsAny_iff.mpr (.inl every)
  next kept carriageReturns =>
    apply dot
    intro character
    have others : (CharSet.complement ⟨[(0xA, 0xA), (0xD, 0xD)]⟩).ranges = [(0, 9), (0xB, 0xC), (0xE, 0x10FFFF)] := rfl
    have := bounded character
    rw [others, acceptsAny_iff, or_iff_right kept, forall_prop_of_true carriageReturns]
    simp only [CharSet.covers_cons, CharSet.not_covers_nil, or_false]
    omega
  next kept none =>
    apply dot
    intro character
    have others : (CharSet.complement ⟨[(0xA, 0xA)]⟩).ranges = [(0, 9), (0xB, 0x10FFFF)] := rfl
    have := bounded character
    rw [others, acceptsAny_iff, or_iff_right kept, and_iff_left fun carriageReturns => absurd carriageReturns none]
    simp only [CharSet.covers_cons, CharSet.not_covers_nil, or_false]
    omega

theorem ShortClass.gives_meaning (kind : ShortClass) (flags : Flags) (span : Span) (negated : Bool) :
    Gives (fun members => ∀ character, members.contains character = (kind.holds character != negated))
      (kind.meaning flags span negated) := by
  unfold ShortClass.meaning
  repeat' split
  · exact gives_error
  · exact gives_error
  next _ plain =>
    apply gives_ok
    intro character
    rw [Bool.eq_false_iff.mpr plain, Bool.bne_false]
    have digit : character.isDigit = true ↔ 0x30 ≤ character.toNat ∧ character.toNat ≤ 0x39 := Char.isDigit_iff_toNat
    have blank : character = ' ' ↔ character.toNat = 0x20 := Char.toNat_inj.symm
    have line : character = '_' ↔ character.toNat = 0x5F := Char.toNat_inj.symm
    rw [Bool.eq_iff_iff, CharSet.contains_iff]
    cases kind with
    | digit => simp only [members, CharSet.covers_cons, CharSet.not_covers_nil, or_false, holds, digit]
    | space =>
      change _ ↔ (character == ' ' || (0x9 ≤ character.toNat && character.toNat ≤ 0xD : Bool)) = true
      simp only [members, CharSet.covers_cons, CharSet.not_covers_nil, or_false, Bool.or_eq_true, Bool.and_eq_true,
        beq_iff_eq, decide_eq_true_eq, blank]
      omega
    | word =>
      change _ ↔ (character.isUpper || character.isLower || character.isDigit || character == '_') = true
      simp only [members, CharSet.covers_cons, CharSet.not_covers_nil, or_false, Bool.or_eq_true, beq_iff_eq,
        isUpper_iff, isLower_iff, digit, line]
      omega

theorem finds_repetition {least : Nat} {most : Option Nat} {isLazy isLater : Bool} {span : Span} {body : Tree}
    {pattern : Pattern} {flags : Flags} (ordered : Repetition.Ordered ⟨least, most, isLazy⟩)
    (finds : ∀ first last, pattern.Matches text first last ↔ body.Finds text flags first last) :
    (ofRepetition least most isLater pattern).Matches text first last ↔
      (Tree.repetition span least most isLazy body).Finds text flags first last := by
  have same : pattern.Matches text = body.Finds text flags := by
    funext first last
    exact propext (finds first last)
  rw [matches_ofRepetition ordered]
  simp only [Matches, Tree.Finds, same]
  constructor
  · intro ⟨more, few, stepped⟩
    refine ⟨least + more, Nat.le_add_right least more, fun greatest bounded => ?_, stepped⟩
    have most := few greatest bounded
    have enough : least ≤ greatest := ordered greatest bounded
    omega
  · intro ⟨count, enough, allowed, stepped⟩
    refine ⟨count - least, fun greatest bounded => Nat.sub_le_sub_right (allowed greatest bounded) least, ?_⟩
    rwa [Nat.add_sub_cancel' enough]

mutual
theorem Tree.gives_meaning (tree : Tree) (flags : Flags) (ordered : tree.Ordered) :
    Gives (tree.Means text flags) (tree.meaning flags) := by
  cases tree with
  | empty span => exact gives_ok ⟨rfl, fun _ _ => Iff.rfl⟩
  | flags span changes => exact gives_ok ⟨rfl, fun _ _ => Iff.rfl⟩
  | literal span written =>
    exact gives_bind fun pattern read => gives_ok ⟨rfl, flags.gives_literal span written pattern read⟩
  | dot span => exact gives_bind fun pattern read => gives_ok ⟨rfl, flags.gives_dot span pattern read⟩
  | anchor span condition => exact gives_ok ⟨rfl, fun _ _ => Iff.rfl⟩
  | property span name => exact gives_error
  | short span kind negated =>
    refine gives_bind fun members read => gives_ok ⟨rfl, fun first last => ?_⟩
    exact matches_ofSet_iff_passes (kind.gives_meaning flags span negated members read)
  | bracket span negated content =>
    refine gives_bind fun members read => gives_ok ⟨rfl, fun first last => ?_⟩
    rw [matches_ofSet_iff_passes fun _ => rfl]
    simp only [Tree.Finds, read, Except.ok.injEq, exists_eq_left']
  | repetition span least most isLazy body =>
    obtain ⟨counts, inner⟩ := ordered
    refine gives_bind fun (pattern, after) read => ?_
    have means := body.gives_meaning flags inner _ read
    exact gives_ok ⟨means.behind, fun first last => finds_repetition counts means.finds⟩
  | group span kind body =>
    cases kind with
    | capture index =>
      refine gives_bind fun (pattern, after) read => ?_
      have means := body.gives_meaning flags ordered _ read
      exact gives_ok ⟨rfl, means.finds⟩
    | plain changes =>
      refine gives_bind fun (pattern, after) read => ?_
      have means := body.gives_meaning (flags.apply changes) ordered _ read
      exact gives_ok ⟨rfl, means.finds⟩
  | sequence span parts =>
    refine gives_bind fun (patterns, after) read => ?_
    have means := Tree.gives_meanings parts flags [] ordered _ read
    refine gives_ok ⟨means.behind, fun first last => ?_⟩
    rw [matches_ofSequence, means.all]
    simp [AllMatch, Tree.Finds]
  | choice span branches =>
    refine gives_bind fun (patterns, after) read => ?_
    have means := Tree.gives_meanings branches flags [] ordered _ read
    refine gives_ok ⟨means.behind, fun first last => ?_⟩
    rw [matches_ofChoice, means.any]
    simp [AnyMatches, Tree.Finds]

theorem Tree.gives_meanings (trees : List Tree) (flags : Flags) (found : List Pattern)
    (ordered : Tree.AllOrdered trees) :
    Gives (Tree.AllMean text flags found trees) (Tree.meanings flags found trees) := by
  cases trees with
  | nil =>
    refine gives_ok ⟨rfl, fun first last => ?_, fun first last => ?_⟩
    · simp [Tree.AllFind]
    · simp [Tree.AnyFinds]
  | cons tree later =>
    obtain ⟨one, others⟩ := ordered
    unfold Tree.meanings
    split
    · exact gives_error
    next pattern after read =>
      have means := tree.gives_meaning flags one _ read
      intro meanings all
      have rest := Tree.gives_meanings later after (pattern :: found) others meanings all
      cases means.behind
      refine ⟨rest.behind, fun first last => ?_, fun first last => ?_⟩
      · simp only [rest.all, List.reverse_cons, allMatch_append, allMatch_singleton, means.finds, Tree.AllFind]
        constructor
        · intro ⟨far, ⟨near, before, one⟩, behind⟩
          exact ⟨near, before, far, one, behind⟩
        · intro ⟨near, before, far, one, behind⟩
          exact ⟨far, ⟨near, before, one⟩, behind⟩
      · simp only [rest.any, List.reverse_cons, anyMatches_append, AnyMatches, means.finds, Tree.AnyFinds, or_false,
          or_assoc]
end

theorem eq_ok_of_mapError {ε δ α : Type} {result : Except ε α} {change : ε → δ} {value : α}
    (changed : result.mapError change = .ok value) : result = .ok value := by
  cases result with
  | error failure => cases changed
  | ok _ =>
    cases changed
    rfl

theorem gives_ofText (written : List Char) :
    Gives (fun pattern => ∃ tree after, Tree.ofText written = .ok tree ∧
      tree.meaning Flags.initial = .ok (pattern, after)) (ofText written) := by
  refine gives_bind fun tree parsed => gives_bind fun _ _ => gives_bind fun (pattern, after) meant => ?_
  have kept : ∃ tree after, Tree.ofText written = .ok tree ∧ tree.meaning Flags.initial = .ok (pattern, after) :=
    ⟨tree, after, eq_ok_of_mapError parsed, eq_ok_of_mapError meant⟩
  change Gives _ pattern.check
  unfold Pattern.check
  repeat' split
  · exact gives_ok kept
  · exact gives_ok kept
  · exact gives_error

/-- An expression that can be read occurs in a message just if what is written finds part of it. -/
theorem occursIn_iff_finds {written : List Char} {pattern : Pattern} (read : ofText written = .ok pattern) :
    ∃ tree, Tree.ofText written = .ok tree ∧ ∀ message : String,
      pattern.occursIn message = true ↔
        ∃ first last, first ≤ message.toList.length ∧ tree.Finds message.toList Flags.initial first last := by
  obtain ⟨tree, after, parsed, meant⟩ := gives_ofText written pattern read
  refine ⟨tree, parsed, fun message => ?_⟩
  have means : tree.Means message.toList Flags.initial (pattern, after) :=
    tree.gives_meaning Flags.initial (Tree.ordered_ofText parsed) _ meant
  simp only [occursIn_iff, means.finds]

end SquareSums.Pattern
