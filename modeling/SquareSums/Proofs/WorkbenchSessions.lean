import SquareSums.Proofs.ReportCollection
import SquareSums.Proofs.SearchResults
import SquareSums.Workbench

/-! A session at the workbench. Each step is answered from the parts that are there and makes at most one
anew, and a step that fails makes none. So wherever a session stands, its table is true to its bound, its
report is in order, and the next step gets the answer that the numbers call for. -/

namespace SquareSums.Workbench

namespace Step

/-- The parts that a step works with, in the order in which they are missed. -/
def needs : Step → List Part
  | build _ => []
  | contains _ | check .. | findPairs _ | findExhaustively _ => [.sieve]
  | edit _ => [.findings]
  | collect _ => [.sieve, .findings]
  | render _ => [.report]

/-- The only part that a step may change. -/
def makes? : Step → Option Part
  | build _ => some .sieve
  | findPairs _ | findExhaustively _ | edit _ => some .findings
  | collect _ => some .report
  | contains _ | check .. | render _ => none

end Step

def lacks (bench : Workbench) : Part → Bool
  | .sieve => bench.sieve.isNone
  | .findings => bench.findings.isNone
  | .report => bench.report.isNone

/-- What stands in the way of a step: the first part that it lacks, or a table that cannot be built. -/
inductive Hinders (bench : Workbench) : Step → Obstacle → Prop where
  | absent {step : Step} {part : Part} (first : step.needs.find? bench.lacks = some part) :
      Hinders bench step (.absent part)
  | fault {bound : UInt64} {fault : Fault} (refused : (Sieve.build bound).value = .error fault) :
      Hinders bench (.build bound) (.fault fault)

/-- The findings of a search: all that it looks for, in the order of their discovery, and the count of the table. -/
structure Finds (findings : Findings) (bound : Nat) (wanted : (first difference : Nat) → Prop) : Prop where
  ordered : findings.found.Pairwise Progression.FoundBefore
  members : ∀ progression, progression ∈ findings.found ↔ wanted progression.first.toNat progression.difference.toNat
  counted : findings.bisquareCount = (bisquares bound).card

/-- The answer that a step must get, and what it must make. -/
def Step.Deserves (bench next : Workbench) : Step → Reply → Prop
  | build bound, reply =>
    ∃ sieve isSame, next.sieve = some sieve ∧ sieve.bound = bound ∧
      reply = .built (2 * (bound.toNat * bound.toNat) + 1) (bisquares bound.toNat).card isSame ∧
      (isSame = true ↔ ∃ earlier, bench.sieve = some earlier ∧ earlier.bound = bound)
  | contains word, reply =>
    ∃ sieve holds, bench.sieve = some sieve ∧ reply = .verdict holds ∧
      (holds = true ↔ IsBisquare sieve.bound.toNat word.toNat)
  | check length progression, reply =>
    ∃ sieve holds, bench.sieve = some sieve ∧ reply = .verdict holds ∧
      (holds = true ↔ ∀ index < length.toNat,
        IsBisquare sieve.bound.toNat (progression.first.toNat + index * progression.difference.toNat))
  | findPairs length, reply =>
    ∃ sieve findings, bench.sieve = some sieve ∧ next.findings = some findings ∧ reply = .searched findings ∧
      Finds findings sieve.bound.toNat (IsBisquareProgression sieve.bound.toNat length.toNat)
  | findExhaustively length, reply =>
    ∃ sieve findings, bench.sieve = some sieve ∧ next.findings = some findings ∧ reply = .searched findings ∧
      Finds findings sieve.bound.toNat fun first difference =>
        (IsBisquare sieve.bound.toNat first ∧ 1 ≤ difference ∧
          difference ≤ 2 * (sieve.bound.toNat * sieve.bound.toNat) - first) ∧
        ∀ index < length.toNat, IsBisquare sieve.bound.toNat (first + index * difference)
  | .edit change, reply =>
    ∃ findings, bench.findings = some findings ∧ reply = .edited (change.apply findings.found) ∧
      next.findings = some { findings with found := change.apply findings.found }
  | collect length, reply =>
    ∃ sieve findings report isSame events, bench.sieve = some sieve ∧ bench.findings = some findings ∧
      next.report = some report ∧ report.length = length ∧ report.bound = sieve.bound ∧
      (∀ progression, progression ∈ report.progressions ↔ progression ∈ findings.found) ∧
      reply = .collected report.progressions isSame events ∧ (isSame = true ↔ bench.report = some report)
  | render rendering, reply => ∃ report, bench.report = some report ∧ reply = .rendered (report.render rendering)

/-- What holds of a bench throughout a session. -/
structure Sound (bench : Workbench) : Prop where
  sieve : ∀ sieve, bench.sieve = some sieve → (Sieve.build sieve.bound).value = .ok sieve
  report : ∀ report, bench.report = some report →
    report.progressions.Pairwise Progression.Precedes ∧
      report.tableSize.toNat = 2 * (report.bound.toNat * report.bound.toNat) + 1

def Keeps (bench next : Workbench) : Part → Prop
  | .sieve => next.sieve = bench.sieve
  | .findings => next.findings = bench.findings
  | .report => next.report = bench.report

/-- A step that succeeds: it keeps the bench sound, gets its answer, and leaves the other parts alone. -/
structure Serves (bench next : Workbench) (step : Step) (reply : Reply) : Prop where
  sound : next.Sound
  deserved : step.Deserves bench next reply
  kept : ∀ part, step.makes? ≠ some part → bench.Keeps next part

theorem sound_empty : Sound ∅ := ⟨nofun, nofun⟩

section Steps

variable {bench next : Workbench} {reply : Reply}

theorem Sound.faithful (sound : bench.Sound) {sieve : Sieve} (present : bench.sieve = some sieve) :
    sieve.Faithful :=
  (Sieve.faithful_of_build (sound.sieve sieve present)).2

theorem serves_build (sound : bench.Sound) {bound : UInt64} {sieve : Sieve}
    (built : (Sieve.build bound).value = .ok sieve) :
    Serves bench { bench with sieve := some sieve } (.build bound)
      (.built sieve.size sieve.count (bench.sieve == some sieve)) := by
  obtain ⟨rfl, faithful⟩ := Sieve.faithful_of_build built
  refine ⟨⟨?_, sound.report⟩, ⟨sieve, bench.sieve == some sieve, rfl, rfl, ?_, ?_⟩, ?_⟩
  · intro made same
    cases same
    exact built
  · rw [faithful.size_eq, sieve.count_eq_length_values, faithful.length_values]
  · rw [beq_iff_eq]
    constructor
    · intro same
      exact ⟨sieve, same, rfl⟩
    · intro ⟨earlier, present, bound⟩
      have again := sound.sieve earlier present
      rw [bound, built] at again
      rw [present, Except.ok.inj again]
  · intro part other
    cases part with
    | sieve => exact absurd rfl other
    | findings | report => rfl

theorem serves_look (sound : bench.Sound) {looks : Step} (deserved : looks.Deserves bench bench reply) :
    Serves bench bench looks reply := by
  refine ⟨sound, deserved, fun part _ => ?_⟩
  cases part <;> rfl

theorem serves_findings (sound : bench.Sound) {finds : Step} {findings : Findings}
    (makes : finds.makes? = some .findings)
    (deserved : finds.Deserves bench { bench with findings := some findings } reply) :
    Serves bench { bench with findings := some findings } finds reply := by
  refine ⟨⟨sound.sieve, sound.report⟩, deserved, fun part other => ?_⟩
  cases part with
  | findings => exact absurd makes other
  | sieve | report => rfl

theorem serves_collect (sound : bench.Sound) (length : UInt64) {sieve : Sieve} {findings : Findings}
    (present : bench.sieve = some sieve) (searched : bench.findings = some findings) :
    let collected := Report.collect sieve length findings
    Serves bench { bench with report := some collected.value } (.collect length)
      (.collected collected.value.progressions (bench.report == some collected.value) collected.events) := by
  intro collected
  refine ⟨⟨sound.sieve, ?_⟩, ?_, ?_⟩
  · intro report same
    cases same
    exact ⟨Report.progressions_collect_ascending, Report.tableSize_collect (sound.faithful present)⟩
  · exact ⟨sieve, findings, collected.value, _, _, present, searched, rfl, rfl, rfl,
      fun _ => Report.mem_progressions_collect, rfl, beq_iff_eq⟩
  · intro part other
    cases part with
    | report => exact absurd rfl other
    | sieve | findings => rfl

/-- Every step fails of what hinders it, or it serves. -/
theorem step_cases (sound : bench.Sound) (step : Step) :
    (∃ obstacle, bench.step step = .error obstacle ∧ Hinders bench step obstacle) ∨
    ∃ reply next, bench.step step = .ok (reply, next) ∧ Serves bench next step reply := by
  obtain ⟨sieve, findings, report⟩ := bench
  cases step with
  | build bound =>
    rw [Workbench.step]
    cases built : (Sieve.build bound).value with
    | error fault => exact .inl ⟨_, rfl, .fault built⟩
    | ok sieve => exact .inr ⟨_, _, rfl, serves_build sound built⟩
  | contains word =>
    cases sieve with
    | none => exact .inl ⟨_, rfl, .absent rfl⟩
    | some sieve =>
      have faithful : sieve.Faithful := sound.faithful rfl
      exact .inr ⟨_, _, rfl, serves_look sound ⟨sieve, _, rfl, rfl, faithful.contains_iff word⟩⟩
  | check length progression =>
    cases sieve with
    | none => exact .inl ⟨_, rfl, .absent rfl⟩
    | some sieve =>
      have faithful : sieve.Faithful := sound.faithful rfl
      exact .inr ⟨_, _, rfl, serves_look sound ⟨sieve, _, rfl, rfl, faithful.hasProgression_iff length progression⟩⟩
  | findPairs length =>
    cases sieve with
    | none => exact .inl ⟨_, rfl, .absent rfl⟩
    | some sieve =>
      have faithful : sieve.Faithful := sound.faithful rfl
      exact .inr ⟨_, _, rfl, serves_findings sound rfl ⟨sieve, _, rfl, rfl, rfl,
        faithful.findPairs_ascending length, fun _ => faithful.mem_findPairs, faithful.length_values⟩⟩
  | findExhaustively length =>
    cases sieve with
    | none => exact .inl ⟨_, rfl, .absent rfl⟩
    | some sieve =>
      have faithful : sieve.Faithful := sound.faithful rfl
      exact .inr ⟨_, _, rfl, serves_findings sound rfl ⟨sieve, _, rfl, rfl, rfl,
        faithful.findExhaustively_ascending length, fun _ => faithful.mem_findExhaustively, faithful.length_values⟩⟩
  | edit change =>
    cases findings with
    | none => exact .inl ⟨_, rfl, .absent rfl⟩
    | some findings => exact .inr ⟨_, _, rfl, serves_findings sound rfl ⟨findings, rfl, rfl, rfl⟩⟩
  | collect length =>
    cases sieve with
    | none => exact .inl ⟨_, rfl, .absent rfl⟩
    | some sieve =>
      cases findings with
      | none => exact .inl ⟨_, rfl, .absent rfl⟩
      | some findings => exact .inr ⟨_, _, rfl, serves_collect sound length rfl rfl⟩
  | render rendering =>
    cases report with
    | none => exact .inl ⟨_, rfl, .absent rfl⟩
    | some report => exact .inr ⟨_, _, rfl, serves_look sound ⟨report, rfl, rfl⟩⟩

end Steps

def after (bench : Workbench) (step : Step) : Workbench :=
  match bench.step step with
  | .error _ => bench
  | .ok (_, next) => next

theorem Sound.after {bench : Workbench} (sound : bench.Sound) (step : Step) : (bench.after step).Sound := by
  rw [Workbench.after]
  rcases step_cases sound step with ⟨obstacle, failed, _⟩ | ⟨reply, next, taken, serves⟩
  · rw [failed]
    exact sound
  · rw [taken]
    exact serves.sound

theorem sound_foldl {bench : Workbench} (sound : bench.Sound) (steps : List Step) : (steps.foldl after bench).Sound := by
  induction steps generalizing bench with
  | nil => exact sound
  | cons step steps ih => exact ih (sound.after step)

theorem run_cons (bench : Workbench) (step : Step) (later : List Step) :
    bench.run (step :: later) = (bench.step step).map Prod.fst :: (bench.after step).run later := by
  rw [run, after]
  cases bench.step step with
  | error obstacle => rfl
  | ok result => rfl

theorem run_append (bench : Workbench) (before later : List Step) :
    bench.run (before ++ later) = bench.run before ++ (before.foldl after bench).run later := by
  induction before generalizing bench with
  | nil => rfl
  | cons step before ih =>
    rw [List.cons_append, run_cons, run_cons, ih]
    rfl

theorem length_run (bench : Workbench) (steps : List Step) : (bench.run steps).length = steps.length := by
  induction steps generalizing bench with
  | nil => rfl
  | cons step steps ih => rw [run_cons, List.length_cons, List.length_cons, ih]

/-- Wherever a session stands, its bench is sound. The next step is refused for what hinders it and leaves the
bench as it was; or it is answered as it deserves and changes no part but the one it makes. -/
theorem session_is_sound (before later : List Step) (step : Step) :
    let bench := before.foldl after ∅
    let next := bench.after step
    let result := (run ∅ (before ++ step :: later))[before.length]?
    bench.Sound ∧
    ((∃ obstacle, result = some (.error obstacle) ∧ Hinders bench step obstacle ∧ next = bench) ∨
    ∃ reply, result = some (.ok reply) ∧ Serves bench next step reply) := by
  intro bench next result
  have sound : bench.Sound := sound_foldl sound_empty before
  have found : result = some ((bench.step step).map Prod.fst) := by
    change (run ∅ (before ++ step :: later))[before.length]? = _
    rw [run_append, run_cons, ← length_run ∅ before, List.getElem?_append_right (Nat.le_refl _), Nat.sub_self]
    rfl
  have moves : next = bench.after step := rfl
  rw [after] at moves
  refine ⟨sound, ?_⟩
  rcases step_cases sound step with ⟨obstacle, failed, hindered⟩ | ⟨reply, made, taken, serves⟩
  · rw [failed] at found moves
    exact .inl ⟨obstacle, found, hindered, moves⟩
  · rw [taken] at found moves
    rw [moves]
    exact .inr ⟨reply, found, serves⟩

end SquareSums.Workbench
