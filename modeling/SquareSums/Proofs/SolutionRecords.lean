import SquareSums.Proofs.SearchResults

/-! What is recorded on the way to a report. Collecting tells each progression that came before, at each place where it
comes again, and then how many there are; of a search nothing comes again, so an answered request leaves three records, whose
numbers are those of its report. -/

namespace SquareSums

namespace Report

/-- The progressions that stand at an earlier place too, each with its place. -/
def comeAgain (progressions : List Progression) : List (Progression × Nat) :=
  progressions.zipIdx.filter fun placed => placed.1 ∈ progressions.take placed.2

theorem comeAgain_concat (progressions : List Progression) (last : Progression) :
    comeAgain (progressions ++ [last]) =
      comeAgain progressions ++ if last ∈ progressions then [(last, progressions.length)] else [] := by
  have earlier : ∀ placed ∈ progressions.zipIdx,
      decide (placed.1 ∈ (progressions ++ [last]).take placed.2) = decide (placed.1 ∈ progressions.take placed.2) := by
    intro placed member
    have inside := List.snd_lt_of_mem_zipIdx member
    rw [List.take_append_of_le_length (by omega)]
  rw [comeAgain, List.zipIdx_append, List.filter_append, List.filter_congr earlier, comeAgain]
  congr 1
  by_cases again : last ∈ progressions
  · simp [again]
  · simp [again]

theorem mem_comeAgain {progressions : List Progression} {progression : Progression} {place : Nat} :
    (progression, place) ∈ comeAgain progressions ↔
      progressions[place]? = some progression ∧ ∃ earlier < place, progressions[earlier]? = some progression := by
  rw [comeAgain, List.mem_filter, List.mem_zipIdx_iff_getElem?, decide_eq_true_iff, List.mem_iff_getElem?]
  refine and_congr_right fun _ => exists_congr fun earlier => ?_
  rw [List.getElem?_take]
  split <;> simp_all

theorem comeAgain_ascending (progressions : List Progression) :
    (comeAgain progressions).Pairwise fun before after => before.2 < after.2 := by
  apply List.Pairwise.filter
  rw [← List.pairwise_map, List.zipIdx_map_snd]
  exact List.pairwise_lt_range'

/-- Each place holds either a progression that came before or one that is new there. -/
theorem length_comeAgain_add_card (progressions : List Progression) :
    (comeAgain progressions).length + progressions.toFinset.card = progressions.length := by
  induction progressions using List.reverseRecOn with
  | nil => rfl
  | append_singleton progressions last ih =>
    have members : (progressions ++ [last]).toFinset = insert last progressions.toFinset := by
      simp only [List.toFinset_append, List.toFinset_cons, List.toFinset_nil, Finset.union_insert, Finset.union_empty]
    rw [comeAgain_concat, members, List.length_append, List.length_append, List.length_singleton]
    by_cases again : last ∈ progressions
    · rw [if_pos again, Finset.insert_eq_of_mem (List.mem_toFinset.mpr again), List.length_singleton]
      omega
    · rw [if_neg again, Finset.card_insert_of_notMem (mt List.mem_toFinset.mp again), List.length_nil]
      omega

theorem comeAgain_of_nodup {progressions : List Progression} (distinct : progressions.Nodup) :
    comeAgain progressions = [] := by
  have partition := length_comeAgain_add_card progressions
  rw [List.toFinset_card_of_nodup distinct] at partition
  exact List.eq_nil_of_length_eq_zero (by omega)

theorem repetitions_insertAll (progressions : List Progression) :
    repetitions progressions (Catalog.insertAll ∅ progressions).1 =
      (comeAgain progressions).map fun placed => .repeated placed.1 := by
  induction progressions using List.reverseRecOn with
  | nil => rfl
  | append_singleton progressions last ih =>
    have verdict : ((Catalog.insertAll ∅ progressions).2.insert last).1 = decide (last ∉ progressions) := by
      apply Bool.eq_iff_iff.mpr
      rw [Catalog.insert_isNew, decide_eq_true_iff]
      exact not_congr Catalog.mem_toList_ofList
    have split : repetitions (progressions ++ [last]) (Catalog.insertAll ∅ (progressions ++ [last])).1 =
        repetitions progressions (Catalog.insertAll ∅ progressions).1 ++
          repetitions [last] [((Catalog.insertAll ∅ progressions).2.insert last).1] := by
      rw [Catalog.insertAll_concat, repetitions, List.zip_append (Catalog.length_insertAll ∅ progressions).symm,
        List.filterMap_append]
      rfl
    rw [split, ih, verdict, comeAgain_concat, List.map_append]
    by_cases again : last ∈ progressions
    · simp [again, repetitions]
    · simp [again, repetitions]

theorem length_progressions_collect (sieve : Sieve) (length : UInt64) (findings : Findings) :
    (collect sieve length findings).value.progressions.length = findings.found.toFinset.card := by
  rw [← List.toFinset_card_of_nodup progressions_collect_ascending.nodup]
  congr 1
  ext progression
  rw [List.mem_toFinset, List.mem_toFinset, mem_progressions_collect]

theorem events_collect (sieve : Sieve) (length : UInt64) (findings : Findings) :
    (collect sieve length findings).events =
      (comeAgain findings.found).map (fun placed => .repeated placed.1) ++
        [.collected (UInt64.ofNat findings.found.toFinset.card) length sieve.bound] := by
  rw [← repetitions_insertAll, ← length_progressions_collect sieve length findings]
  rfl

/-- Whatever was found, one record for each place at which a progression comes again, in the order of the places, and behind
them one record of how many there are; each place counts in one of the two. -/
theorem collect_tells_repetitions (sieve : Sieve) (length : UInt64) (findings : Findings) :
    let events := (collect sieve length findings).events
    let again := comeAgain findings.found
    let count := findings.found.toFinset.card
    events = again.map (fun placed => .repeated placed.1) ++ [.collected (UInt64.ofNat count) length sieve.bound] ∧
    again.Pairwise (fun before after => before.2 < after.2) ∧
    (∀ progression place, (progression, place) ∈ again ↔
      findings.found[place]? = some progression ∧
        ∃ earlier < place, findings.found[earlier]? = some progression) ∧
    (events.filter (·.level = .debug)).map Event.message = again.map (fun placed =>
      "duplicate progression " ++ (Decimal.write placed.1.first ++ " " ++ Decimal.write placed.1.difference)) ∧
    events.filter (·.level = .info) = [.collected (UInt64.ofNat count) length sieve.bound] ∧
    again.length + count = findings.found.length ∧
    (findings.found.length < UInt64.size → (UInt64.ofNat count).toNat = count) := by
  intro events again count
  have recorded := events_collect sieve length findings
  have partition : again.length + count = findings.found.length := length_comeAgain_add_card findings.found
  have debugged : events.filter (·.level = .debug) = again.map fun placed => .repeated placed.1 := by
    simp [events, recorded, List.filter_map, Function.comp_def, Event.level, again]
  have informed : events.filter (·.level = .info) = [.collected (UInt64.ofNat count) length sieve.bound] := by
    simp [events, recorded, List.filter_map, Function.comp_def, Event.level, count]
  refine ⟨recorded, comeAgain_ascending findings.found, fun _ _ => mem_comeAgain, ?_, informed, partition, ?_⟩
  · rw [debugged, List.map_map]
    rfl
  · intro fits
    exact UInt64.toNat_ofNat_of_lt' (by omega)

/-- One progression comes three times and another twice, in turns; the table and the length play no part. -/
theorem collect_tells_repetitions_of_turns :
    let one : Progression := ⟨4, 1⟩
    let other : Progression := ⟨0xFFFFFFFFFFFFFFFF, 0⟩
    let findings : Findings := ⟨[one, other, one, other, one], 0, 0, 0⟩
    let events := (collect ⟨7, #[]⟩ 0 findings).events
    findings.found.length < UInt64.size ∧
      events = [.repeated one, .repeated other, .repeated one, .collected 2 0 7] ∧
      (events.filter (·.level = .debug)).map Event.message =
        ["duplicate progression 1 4", "duplicate progression 0 18446744073709551615", "duplicate progression 1 4"] ∧
      (UInt64.ofNat findings.found.toFinset.card).toNat = findings.found.toFinset.card ∧ 3 + 2 = findings.found.length := by
  intro one other findings events
  have fits : findings.found.length < UInt64.size := by decide
  obtain ⟨recorded, _, _, messages, _, _, exact⟩ := collect_tells_repetitions ⟨7, #[]⟩ 0 findings
  exact ⟨fits, recorded.trans (by decide), messages.trans (by decide), exact fits, rfl⟩

end Report

namespace Sieve

theorem build_eq_of_ok {bound : UInt64} {memory : Nat} {sieve : Sieve}
    (built : (build bound memory).value = .ok sieve) :
    build bound memory = ⟨.ok sieve, [.sieved bound (UInt64.ofNat sieve.size)]⟩ := by
  obtain ⟨size, sized, room, rfl⟩ := build_eq_ok_iff.mp built
  rw [build, sized]
  change (if memory < size then _ else _) = _
  rw [if_neg (Nat.not_lt.mpr room), Sieve.size, size_mark]
  rfl

end Sieve

namespace Query

theorem solve_eq {bound : UInt64} {memory : Nat} {sieve : Sieve}
    (built : (Sieve.build bound memory).value = .ok sieve) (length : UInt64) :
    let findings := (sieve.findPairs length).value
    let collected := Report.collect sieve length findings
    solve ⟨length, bound⟩ memory =
      ⟨.ok collected.value, .sieved bound (UInt64.ofNat sieve.size) ::
        .searched length (UInt64.ofNat findings.bisquareCount) (UInt64.ofNat findings.pairsTested)
          (UInt64.ofNat findings.found.length) :: collected.events⟩ := by
  rw [solve, search, Sieve.build_eq_of_ok built]
  exact congrArg (Logged.mk _) (congrArg (_ :: _ :: ·) (List.append_nil _))

/-- An answered request leaves three records, and all their numbers are those of the report: what the search counted
as found is what is listed, so nothing comes again. -/
theorem solve_tells_three_records {bound : UInt64} {memory : Nat} {sieve : Sieve}
    (built : (Sieve.build bound memory).value = .ok sieve) (length : UInt64) :
    ∃ report, let count := UInt64.ofNat report.progressions.length
      let events := (solve ⟨length, bound⟩ memory).events
      (solve ⟨length, bound⟩ memory).value = .ok report ∧
      events = [.sieved bound report.tableSize,
        .searched length report.bisquareCount report.pairsTested count, .collected count length bound] ∧
      events.map Event.level = [.debug, .debug, .info] ∧
      (∀ progression, .repeated progression ∉ events) ∧
      report.length = length ∧ report.bound = bound ∧
      report.tableSize.toNat = 2 * (bound.toNat * bound.toNat) + 1 ∧
      (sieve.findPairs length).value.found.length = report.progressions.length ∧
      (report.progressions.length < UInt64.size → count.toNat = report.progressions.length) ∧
      (bound ≤ 65535 → report.progressions.length < UInt64.size) := by
  obtain ⟨rfl, faithful⟩ := Sieve.faithful_of_build built
  have distinct := (faithful.findPairs_ascending length).nodup
  let report := (Report.collect sieve length (sieve.findPairs length).value).value
  have counted : report.progressions.length = (sieve.findPairs length).value.found.length := by
    rw [Report.length_progressions_collect, List.toFinset_card_of_nodup distinct]
  have recorded : (solve ⟨length, sieve.bound⟩ memory).events =
      [.sieved sieve.bound report.tableSize,
        .searched length report.bisquareCount report.pairsTested (UInt64.ofNat report.progressions.length),
        .collected (UInt64.ofNat report.progressions.length) length sieve.bound] := by
    rw [solve_eq built, Report.events_collect, Report.comeAgain_of_nodup distinct, List.toFinset_card_of_nodup distinct, counted]
    rfl
  refine ⟨report, by rw [solve_eq built], recorded, by rw [recorded]; rfl, ?_, rfl, rfl, Report.tableSize_collect faithful,
    counted.symm, UInt64.toNat_ofNat_of_lt', ?_⟩
  · intro progression member
    rw [recorded] at member
    simp at member
  · intro small
    obtain ⟨few, _⟩ := sieve.length_found_le length
    rw [sieve.pairsTested_findPairs, faithful.length_values] at few
    have limited := card_bisquares_choose_two_lt (UInt64.le_iff_toNat_le.mp small)
    rw [counted]
    exact Nat.lt_trans (Nat.lt_of_le_of_lt few limited) (by decide)

/-- At length zero every pair of the six values 0, 1, 2, 4, 5 and 8 is found and listed. -/
theorem solve_tells_three_records_of_two :
    ∃ sieve report, (Sieve.build 2).value = .ok sieve ∧ (solve ⟨0, 2⟩).value = .ok report ∧
      (solve ⟨0, 2⟩).events = [.sieved 2 report.tableSize,
        .searched 0 report.bisquareCount report.pairsTested (UInt64.ofNat report.progressions.length),
        .collected (UInt64.ofNat report.progressions.length) 0 2] ∧
      (solve ⟨0, 2⟩).events = [.sieved 2 9, .searched 0 6 15 15, .collected 15 0 2] ∧
      (∀ progression, .repeated progression ∉ (solve ⟨0, 2⟩).events) ∧
      (sieve.findPairs 0).value.found.length = report.progressions.length ∧ (2 : UInt64) ≤ 65535 ∧
      report.progressions.length < UInt64.size ∧
      (UInt64.ofNat report.progressions.length).toNat = report.progressions.length := by
  have built : (Sieve.build 2).value = .ok ⟨2, Sieve.mark 2 9⟩ := rfl
  obtain ⟨report, solved, recorded, _, noneAgain, _, _, _, same, exact, fits⟩ := solve_tells_three_records built 0
  have few := fits (by decide)
  exact ⟨_, report, built, solved, recorded, by decide +kernel, noneAgain, same, by decide, few, exact few⟩

end Query
end SquareSums
