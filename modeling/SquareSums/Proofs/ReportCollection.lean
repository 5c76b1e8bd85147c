import SquareSums.Proofs.CatalogMembers
import SquareSums.Proofs.SieveTerms
import SquareSums.Report

/-! What is collected depends on the findings only through their members and their counts: the report lists
each member once and in order, whatever was found, how often, and in which order. Nothing is asked of
what was found; it need not be a progression of the table at all. -/

namespace SquareSums

/-- The counts of the findings are words, as those of a search are. -/
structure Findings.Fits (findings : Findings) : Prop where
  bisquareCount : findings.bisquareCount < UInt64.size
  pairsTested : findings.pairsTested < UInt64.size

/-- Findings that no report tells apart. -/
structure Findings.Alike (one other : Findings) : Prop where
  members : ∀ progression, progression ∈ one.found ↔ progression ∈ other.found
  bisquareCount : one.bisquareCount = other.bisquareCount
  pairsTested : one.pairsTested = other.pairsTested
  elapsedMs : one.elapsedMs = other.elapsedMs

namespace Report

/-- What a report on findings must say: every field of it is settled. -/
structure IsAccountOf (report : Report) (bound length : UInt64) (findings : Findings) : Prop where
  length_eq : report.length = length
  bound_eq : report.bound = bound
  tableSize_eq : report.tableSize.toNat = 2 * (bound.toNat * bound.toNat) + 1
  bisquareCount_eq : report.bisquareCount.toNat = findings.bisquareCount
  pairsTested_eq : report.pairsTested.toNat = findings.pairsTested
  elapsedMs_eq : report.elapsedMs = findings.elapsedMs
  ordered : report.progressions.Pairwise Progression.Precedes
  members : ∀ progression, progression ∈ report.progressions ↔ progression ∈ findings.found

theorem IsAccountOf.unique {report other : Report} {bound length : UInt64} {findings others : Findings}
    (first : report.IsAccountOf bound length findings) (second : other.IsAccountOf bound length others)
    (alike : findings.Alike others) : report = other := by
  have members (progression : Progression) :
      progression ∈ report.progressions ↔ progression ∈ other.progressions := by
    rw [first.members, alike.members, second.members]
  have progressions := first.ordered.eq_of_mem_iff second.ordered members
  have tableSize := UInt64.toNat_inj.mp (first.tableSize_eq.trans second.tableSize_eq.symm)
  have bisquareCount : report.bisquareCount = other.bisquareCount := by
    rw [← UInt64.toNat_inj, first.bisquareCount_eq, second.bisquareCount_eq, alike.bisquareCount]
  have pairsTested : report.pairsTested = other.pairsTested := by
    rw [← UInt64.toNat_inj, first.pairsTested_eq, second.pairsTested_eq, alike.pairsTested]
  have elapsedMs := first.elapsedMs_eq.trans (alike.elapsedMs.trans second.elapsedMs_eq.symm)
  cases report
  cases other
  cases first.length_eq.trans second.length_eq.symm
  cases first.bound_eq.trans second.bound_eq.symm
  congr

theorem IsAccountOf.alike {report : Report} {bound length : UInt64} {findings others : Findings}
    (first : report.IsAccountOf bound length findings) (second : report.IsAccountOf bound length others) :
    findings.Alike others where
  members progression := (first.members progression).symm.trans (second.members progression)
  bisquareCount := first.bisquareCount_eq.symm.trans second.bisquareCount_eq
  pairsTested := first.pairsTested_eq.symm.trans second.pairsTested_eq
  elapsedMs := first.elapsedMs_eq.symm.trans second.elapsedMs_eq

section

variable {sieve : Sieve} {length : UInt64} {findings : Findings}

theorem progressions_collect :
    (collect sieve length findings).value.progressions = (Catalog.ofList findings.found).toList := rfl

theorem progressions_collect_ascending :
    (collect sieve length findings).value.progressions.Pairwise Progression.Precedes :=
  Catalog.toList_ascending _

theorem mem_progressions_collect {progression : Progression} :
    progression ∈ (collect sieve length findings).value.progressions ↔ progression ∈ findings.found := by
  rw [progressions_collect, Catalog.mem_toList_ofList]

theorem tableSize_collect (faithful : sieve.Faithful) :
    (collect sieve length findings).value.tableSize.toNat = 2 * (sieve.bound.toNat * sieve.bound.toNat) + 1 :=
  (UInt64.toNat_ofNat_of_lt' faithful.size_lt_word).trans faithful.size_eq

end

theorem isAccountOf_collect {sieve : Sieve} (faithful : sieve.Faithful) (length : UInt64) {findings : Findings}
    (fits : findings.Fits) : (collect sieve length findings).value.IsAccountOf sieve.bound length findings where
  length_eq := rfl
  bound_eq := rfl
  tableSize_eq := tableSize_collect faithful
  bisquareCount_eq := UInt64.toNat_ofNat_of_lt' fits.bisquareCount
  pairsTested_eq := UInt64.toNat_ofNat_of_lt' fits.pairsTested
  elapsedMs_eq := rfl
  ordered := progressions_collect_ascending
  members _ := mem_progressions_collect

/-- The report of any findings at all is settled by their members and counts: it tells the request, the table
and the counts, and lists the members. Collecting what it lists gives the same report again. -/
theorem collect_is_canonical {bound : UInt64} {memory : Nat} {sieve : Sieve}
    (built : (Sieve.build bound memory).value = .ok sieve) (length : UInt64) {findings : Findings}
    (fits : findings.Fits) :
    let report := (collect sieve length findings).value
    report.IsAccountOf bound length findings ∧
      (∀ others : Findings, others.Fits →
        ((collect sieve length others).value = report ↔ others.Alike findings)) ∧
      (collect sieve length { findings with found := report.progressions }).value = report := by
  intro report
  obtain ⟨rfl, faithful⟩ := Sieve.faithful_of_build built
  have account : report.IsAccountOf sieve.bound length findings := isAccountOf_collect faithful length fits
  refine ⟨account, ?_, ?_⟩
  · intro others othersFit
    have second := isAccountOf_collect faithful length othersFit
    constructor
    · intro same
      rw [same] at second
      exact second.alike account
    · intro alike
      exact second.unique account alike
  · have fitsAgain : Findings.Fits { findings with found := report.progressions } :=
      ⟨fits.bisquareCount, fits.pairsTested⟩
    have again := isAccountOf_collect faithful length fitsAgain
    apply again.unique account
    exact ⟨account.members, rfl, rfl, rfl⟩

theorem collect_is_canonical_of_repeated :
    let findings : Findings := ⟨[⟨12, 5⟩, ⟨4, 1⟩, ⟨12, 5⟩, ⟨0, 3⟩], 0xFFFFFFFFFFFFFFFF, 0, 9⟩
    let others : Findings := ⟨[⟨0, 3⟩, ⟨4, 1⟩, ⟨12, 5⟩], 0xFFFFFFFFFFFFFFFF, 0, 9⟩
    ∃ sieve, (Sieve.build 7).value = .ok sieve ∧ findings.Fits ∧ others.Fits ∧ others.Alike findings ∧
      (collect sieve 5 findings).value.IsAccountOf 7 5 findings ∧
      (collect sieve 5 others).value = (collect sieve 5 findings).value := by
  intro findings others
  have fits : findings.Fits := ⟨by decide, by decide⟩
  have othersFit : others.Fits := ⟨by decide, by decide⟩
  have alike : others.Alike findings := by
    refine ⟨fun progression => ?_, rfl, rfl, rfl⟩
    simp only [findings, others, List.mem_cons, List.not_mem_nil, or_false]
    tauto
  have built : (Sieve.build 7).value = .ok ⟨7, Sieve.mark 7 99⟩ := rfl
  obtain ⟨account, settled, _⟩ := collect_is_canonical built 5 fits
  exact ⟨_, built, fits, othersFit, alike, account, (settled others othersFit).mpr alike⟩

end Report
end SquareSums
