import SquareSums.Proofs.CommandReading
import SquareSums.Proofs.SimulatedRuns
import SquareSums.Proofs.StreamReading

/-! Where a run reads and where it writes. What is asked and answered does not depend on it: a request is
the same from a file and from standard input, and a named output receives what would have been printed. -/

namespace SquareSums.Console

theorem Command.output_eq_none {arguments : List String} {settings : Settings}
    (unnamed : ∀ path, .output path ∉ items arguments) (asked : ofArguments arguments = .ok (.run settings)) :
    settings.output = none := by
  rw [← Settings.eq_of_passes (Settings.passes_withOutput none unnamed) rfl asked]
  rfl

theorem Command.source_eq_none {arguments : List String} {settings : Settings}
    (noFile : ∀ path, .file path ∉ items arguments) (noStdin : .fromStdin ∉ items arguments)
    (asked : ofArguments arguments = .ok (.run settings)) : settings.source = none := by
  rw [← Settings.eq_of_passes (Settings.passes_withSource none false noFile noStdin) rfl asked]
  rfl

namespace Invocation

/-- Whatever is printed or written to a file is taken. -/
structure TakesAll (invocation : Invocation) : Prop where
  printing : invocation.printing = .ample
  writing : invocation.writing = .ample

theorem TakesAll.delivered {invocation : Invocation} (takes : invocation.TakesAll) (output : Option String)
    (text : String) :
    invocation.delivered output text =
      match output.map invocation.disk.target with
      | none => (text, invocation.disk, .ok ())
      | some (.error fault) => ("", invocation.disk, .error fault)
      | some (.ok place) => ("", invocation.disk.put place text.toUTF8, .ok ()) := by
  rw [Invocation.delivered, takes.printing, takes.writing]
  rfl

/-- How a run that prints compares with the same run whose output has a path. -/
structure RedirectedTo (printed redirected : Invocation) (path : String) : Prop where
  failed : printed.run.code ≠ 0 →
    printed.Agrees redirected ∧ redirected.run.stdout = "" ∧ redirected.run.disk = printed.disk
  written : ∀ place emptied, printed.run.code = 0 → printed.disk.create path = .ok (place, emptied) →
    redirected.run.code = 0 ∧ redirected.run.stdout = "" ∧ redirected.run.stderr = printed.run.stderr ∧
      redirected.run.events = printed.run.events ∧
      redirected.run.disk.read path = .ok printed.run.stdout.toUTF8 ∧
      printed.disk.Replaced redirected.run.disk place printed.run.stdout.toUTF8
  refused : ∀ fault, printed.run.code = 0 → printed.disk.create path = .error fault →
    redirected.run =
      ⟨1, "", printed.run.stderr ++ [faultLine (.unreadable fault.reason)], printed.run.events, printed.disk⟩

theorem redirectedTo_of_failed {printed redirected : Invocation} {path : String} (failed : printed.run.code ≠ 0)
    (agrees : printed.Agrees redirected) (silent : redirected.run.stdout = "")
    (kept : redirected.run.disk = printed.disk) : printed.RedirectedTo redirected path :=
  ⟨fun _ => ⟨agrees, silent, kept⟩, fun _ _ zero => absurd zero failed, fun _ zero => absurd zero failed⟩

theorem redirectedTo_of_asked {printed redirected : Invocation} (takes : printed.TakesAll) {settings : Settings}
    {path : String} (asked : Command.ofArguments printed.arguments = .ok (.run settings))
    (prints : settings.output = none)
    (redirects : redirected.run = .ofAnswer printed (some path) (settings.shown printed) (settings.answer printed)) :
    printed.RedirectedTo redirected path := by
  have ran := run_of_asked asked
  rw [Settings.run_eq, prints] at ran
  rcases answered : settings.answer printed with fault | text
  · rw [answered] at ran redirects
    refine redirectedTo_of_failed ?_ (agrees_of_eq asked (redirects.trans ran.symm)) ?_ ?_
    · rw [ran]
      exact show (1 : UInt8) ≠ 0 by decide
    all_goals rw [redirects, Outcome.ofAnswer]
  · rw [answered, Outcome.ofAnswer, takes.delivered] at ran redirects
    rw [Option.map_none] at ran
    rw [Option.map_some] at redirects
    refine ⟨?_, ?_, ?_⟩
    · intro failed
      rw [ran] at failed
      exact absurd rfl failed
    · intro place emptied _ created
      have leads := (Disk.create_eq_ok_iff.mp created).1
      have replaced := printed.disk.replaced_put place text.toUTF8
      rw [leads] at redirects
      rw [redirects, ran]
      exact ⟨rfl, rfl, rfl, rfl, replaced.read_eq leads, replaced⟩
    · intro fault _ refused
      rw [Disk.create_eq_error_iff.mp refused] at redirects
      rw [redirects, ran]

theorem agrees_of_map {one other : Invocation} {change : Settings → Settings}
    (reads : Command.ofArguments other.arguments = (Command.ofArguments one.arguments).map (Command.map change))
    (disk : other.disk = one.disk) (printing : other.printing = one.printing)
    (ran : ∀ settings, Command.ofArguments one.arguments = .ok (.run settings) →
      (change settings).run other = settings.run one) : one.Agrees other := by
  cases asked : Command.ofArguments one.arguments with
  | error fault =>
    rw [asked] at reads
    exact agrees_of_refused asked reads disk
  | ok command =>
    rw [asked] at reads
    refine agrees_of_eq asked ?_
    rw [run_eq, run_eq, asked, reads, disk, printing]
    cases command with
    | run settings => exact ran settings asked
    | version | help => rfl

end Invocation

theorem Settings.run_eq_of_content {settings otherSettings : Settings} {one other : Invocation}
    (alike : { otherSettings with file := settings.file, fromStdin := settings.fromStdin } = settings)
    (around : { other with arguments := one.arguments, stdin := one.stdin } = one)
    (same : otherSettings.content other = settings.content one) :
    otherSettings.run other = settings.run one := by
  rw [run_eq, run_eq, answer, answer, shown, shown, same, ← around, ← alike]
  rfl

namespace Invocation

end Invocation
end SquareSums.Console
