import SquareSums.Proofs.CommandReading

/-! The requests that make settings. Items ask for settings exactly if they are their requests in some
order; they are refused exactly if one of them cannot be taken or comes once more than it may. -/

namespace SquareSums.Console

namespace Item

def isRequest : Item → Bool
  | version | help | malformed _ => false
  | file _ | output _ | fromStdin | json | verbose => true

end Item

inductive Single where
  | file
  | output
  | fromStdin
  | json
deriving DecidableEq, Repr

def Single.names : Single → Item → Bool
  | file, .file _ | output, .output _ | fromStdin, .fromStdin | json, .json => true
  | _, _ => false

namespace Settings

/-- The requests that make the settings, in one order of many. -/
def requests (settings : Settings) : List Item :=
  settings.file.toList.map .file ++ settings.output.toList.map .output ++
    List.replicate settings.fromStdin.toNat .fromStdin ++ List.replicate settings.json.toNat .json ++
    List.replicate settings.verbosity .verbose

variable {settings : Settings}

theorem isRequest_of_mem_requests {item : Item} (member : item ∈ settings.requests) : item.isRequest = true := by
  simp only [requests, List.mem_append, List.mem_map, List.mem_replicate] at member
  rcases member with (((⟨_, _, rfl⟩ | ⟨_, _, rfl⟩) | ⟨_, rfl⟩) | ⟨_, rfl⟩) | ⟨_, rfl⟩ <;> rfl

theorem file_mem_requests {path : String} : .file path ∈ settings.requests ↔ settings.file = some path := by
  simp [requests]

theorem output_mem_requests {path : String} : .output path ∈ settings.requests ↔ settings.output = some path := by
  simp [requests]

theorem fromStdin_mem_requests : .fromStdin ∈ settings.requests ↔ settings.fromStdin = true := by
  simp [requests]

theorem json_mem_requests : .json ∈ settings.requests ↔ settings.json = true := by
  simp [requests]

theorem count_verbose_requests : settings.requests.count .verbose = settings.verbosity := by
  have noFile : (settings.file.toList.map Item.file).count .verbose = 0 := List.count_eq_zero.mpr (by simp)
  have noOutput : (settings.output.toList.map Item.output).count .verbose = 0 := List.count_eq_zero.mpr (by simp)
  simp [requests, List.count_replicate, noFile, noOutput]

/-- Settings are determined by their requests, whatever the order. -/
theorem eq_of_perm_requests {other : Settings} (same : settings.requests.Perm other.requests) : settings = other := by
  have file : settings.file = other.file := Option.ext fun path => by
    rw [← file_mem_requests, ← file_mem_requests, same.mem_iff]
  have output : settings.output = other.output := Option.ext fun path => by
    rw [← output_mem_requests, ← output_mem_requests, same.mem_iff]
  have fromStdin : settings.fromStdin = other.fromStdin := Bool.eq_iff_iff.mpr (by
    rw [← fromStdin_mem_requests, ← fromStdin_mem_requests, same.mem_iff])
  have json : settings.json = other.json := Bool.eq_iff_iff.mpr (by
    rw [← json_mem_requests, ← json_mem_requests, same.mem_iff])
  have verbosity : settings.verbosity = other.verbosity := by
    rw [← count_verbose_requests, ← count_verbose_requests, same.count_eq]
  cases settings
  cases other
  simp_all

def holds (settings : Settings) : Single → Bool
  | .file => settings.file.isSome
  | .output => settings.output.isSome
  | .fromStdin => settings.fromStdin
  | .json => settings.json

theorem countP_requests (settings : Settings) (single : Single) :
    settings.requests.countP single.names = (settings.holds single).toNat := by
  simp only [requests, List.countP_append, List.countP_replicate, List.countP_map]
  cases single with
  | file => cases file : settings.file <;> simp [holds, Single.names, Function.comp_def, file]
  | output => cases output : settings.output <;> simp [holds, Single.names, Function.comp_def, output]
  | fromStdin => simp [holds, Single.names, Function.comp_def]
  | json => simp [holds, Single.names, Function.comp_def]

theorem exists_single_of_hasTaken {item : Item} (taken : settings.hasTaken item = true) :
    ∃ single : Single, single.names item = true ∧ settings.holds single = true := by
  cases item with
  | file _ => exact ⟨.file, rfl, taken⟩
  | output _ => exact ⟨.output, rfl, taken⟩
  | fromStdin => exact ⟨.fromStdin, rfl, taken⟩
  | json => exact ⟨.json, rfl, taken⟩
  | verbose | version | help | malformed _ => cases taken

theorem requests_take {item : Item} (request : item.isRequest = true) (fresh : settings.hasTaken item = false) :
    (settings.take item).requests.Perm (item :: settings.requests) := by
  refine List.perm_iff_count.mpr fun other => ?_
  cases item with
  | file path =>
    have none : settings.file = none := Option.isSome_eq_false_iff.mp fresh |> Option.isNone_iff_eq_none.mp
    simp only [take, requests, none, List.count_cons, List.count_append, Option.toList, List.map, List.count_nil]
    omega
  | output path =>
    have none : settings.output = none := Option.isSome_eq_false_iff.mp fresh |> Option.isNone_iff_eq_none.mp
    simp only [take, requests, none, List.count_cons, List.count_append, Option.toList, List.map, List.count_nil]
    omega
  | fromStdin =>
    have none : settings.fromStdin = false := fresh
    simp only [take, requests, none, Bool.toNat_true, Bool.toNat_false, List.replicate, List.count_cons,
      List.count_append, List.count_nil]
    omega
  | json =>
    have none : settings.json = false := fresh
    simp only [take, requests, none, Bool.toNat_true, Bool.toNat_false, List.replicate, List.count_cons,
      List.count_append, List.count_nil]
    omega
  | verbose =>
    simp only [take, requests, List.replicate_succ, List.count_cons, List.count_append]
    omega
  | version | help | malformed _ => cases request

theorem append_requests_take {item : Item} (request : item.isRequest = true) (fresh : settings.hasTaken item = false)
    (items : List Item) : (items ++ (settings.take item).requests).Perm (item :: items ++ settings.requests) :=
  ((requests_take request fresh).append_left items).trans List.perm_middle

theorem apply_cons_fresh {item : Item} (request : item.isRequest = true) (fresh : settings.hasTaken item = false)
    (later : List Item) : settings.apply (item :: later) = (settings.take item).apply later := by
  cases item with
  | file _ | output _ | fromStdin | json => exact if_neg (Bool.eq_false_iff.mp fresh)
  | verbose => rfl
  | version | help | malformed _ => cases request

theorem apply_cons_taken {item : Item} (taken : settings.hasTaken item = true) (later : List Item) :
    ∃ fault, settings.apply (item :: later) = .error fault := by
  cases item with
  | file _ | output _ | fromStdin | json => exact ⟨_, if_pos taken⟩
  | verbose | version | help | malformed _ => cases taken

theorem apply_cons_of_not_isRequest {item : Item} (other : item.isRequest = false) (later : List Item)
    (settled : Settings) : settings.apply (item :: later) ≠ .ok (.run settled) := by
  cases item with
  | version | help | malformed _ => rintro ⟨⟩
  | file _ | output _ | fromStdin | json | verbose => cases other

/-- Items ask for settings exactly if they are what is missing of the requests, in any order. -/
theorem apply_eq_run_iff {items : List Item} {settled : Settings} :
    settings.apply items = .ok (.run settled) ↔ settled.requests.Perm (items ++ settings.requests) := by
  induction items generalizing settings with
  | nil =>
    rw [apply, List.nil_append]
    constructor
    · rintro ⟨⟩
      rfl
    · intro same
      rw [eq_of_perm_requests same]
  | cons item items ih =>
    cases request : item.isRequest with
    | false =>
      refine iff_of_false (apply_cons_of_not_isRequest request items settled) fun same => ?_
      rw [isRequest_of_mem_requests (same.mem_iff.mpr List.mem_cons_self)] at request
      cases request
    | true =>
      cases taken : settings.hasTaken item with
      | false =>
        rw [apply_cons_fresh request taken, ih]
        have moved := append_requests_take request taken items
        exact ⟨fun same => same.trans moved, fun same => same.trans moved.symm⟩
      | true =>
        obtain ⟨fault, refused⟩ := apply_cons_taken taken items
        obtain ⟨single, named, held⟩ := exists_single_of_hasTaken taken
        refine iff_of_false (by rw [refused]; rintro ⟨⟩) fun same => ?_
        have count := same.countP_eq single.names
        have most := Bool.toNat_le (settled.holds single)
        rw [countP_requests, List.countP_append, List.countP_cons_of_pos named, countP_requests, held,
          Bool.toNat_true] at count
        omega

/-- An item that cannot be taken, or a request for what may come only once when it has come. -/
def HasDefect (settings : Settings) (items : List Item) : Prop :=
  (∃ fault, .malformed fault ∈ items) ∨ ∃ single : Single, 2 ≤ (items ++ settings.requests).countP single.names

theorem not_hasDefect_of_apply {items : List Item} {settled : Settings}
    (asked : settings.apply items = .ok (.run settled)) : ¬ settings.HasDefect items := by
  have same := apply_eq_run_iff.mp asked
  rintro (⟨fault, member⟩ | ⟨single, twice⟩)
  · have isRequest := isRequest_of_mem_requests (same.mem_iff.mpr (List.mem_append_left _ member))
    cases isRequest
  · have most := Bool.toNat_le (settled.holds single)
    rw [← same.countP_eq, countP_requests] at twice
    omega

/-- Without a request for the version or for help there are settings, or a defect and a fault about it. -/
theorem apply_settled {items : List Item} (noVersion : .version ∉ items) (noHelp : .help ∉ items) :
    (∃ settled, settings.apply items = .ok (.run settled)) ∨
      settings.HasDefect items ∧ ∃ fault, settings.apply items = .error fault := by
  induction items generalizing settings with
  | nil => exact .inl ⟨settings, rfl⟩
  | cons item items ih =>
    rw [List.mem_cons, not_or] at noVersion noHelp
    cases request : item.isRequest with
    | false =>
      cases item with
      | malformed fault => exact .inr ⟨.inl ⟨fault, List.mem_cons_self⟩, fault, rfl⟩
      | version => exact absurd rfl noVersion.1
      | help => exact absurd rfl noHelp.1
      | file _ | output _ | fromStdin | json | verbose => cases request
    | true =>
      cases taken : settings.hasTaken item with
      | false =>
        rw [apply_cons_fresh request taken]
        refine (ih noVersion.2 noHelp.2).imp_right fun ⟨defect, refused⟩ => ⟨?_, refused⟩
        rcases defect with ⟨fault, member⟩ | ⟨single, twice⟩
        · exact .inl ⟨fault, List.mem_cons_of_mem _ member⟩
        · rw [(append_requests_take request taken items).countP_eq] at twice
          exact .inr ⟨single, twice⟩
      | true =>
        obtain ⟨single, named, held⟩ := exists_single_of_hasTaken taken
        refine .inr ⟨.inr ⟨single, ?_⟩, apply_cons_taken taken items⟩
        rw [List.countP_append, List.countP_cons_of_pos named, countP_requests, held, Bool.toNat_true]
        omega

theorem exists_apply_eq_error_iff {items : List Item} (noVersion : .version ∉ items) (noHelp : .help ∉ items) :
    (∃ fault, settings.apply items = .error fault) ↔ settings.HasDefect items := by
  rcases apply_settled noVersion noHelp with ⟨settled, asked⟩ | ⟨defect, refused⟩
  · refine iff_of_false ?_ (not_hasDefect_of_apply asked)
    rw [asked]
    rintro ⟨_, ⟨⟩⟩
  · exact iff_of_true refused defect

end Settings

theorem Command.ofArguments_eq_run_iff {arguments : List String} {settings : Settings} :
    ofArguments arguments = .ok (.run settings) ↔ (items arguments).Perm settings.requests := by
  rw [ofArguments, Settings.apply_eq_run_iff]
  have nothing : Settings.initial.requests = [] := rfl
  rw [nothing, List.append_nil]
  exact List.perm_comm

end SquareSums.Console
