import PushBench.Proofs.CommandLine.Trace
import PushBench.Script

/-!
# Listing cases

A run that lists cases does nothing with them: no body is invoked, no contents are built, and
nothing is written. Whether a run lists its cases is decided by the command, and by the switch for a
dry run only where there is no command.
-/

namespace PushBench

variable {flags : Flags} {place : Place} {register : Workload → Option DuplicateName × Registry}

namespace Job

theorem isListing_iff :
    isListing flags = true ↔
      flags.command = some .list ∨ flags.command = none ∧ flags.dryRun = true := by
  unfold isListing
  split <;> simp_all

/-- A run that lists cases has no other job than to show the plan. -/
theorem ofFlags_of_isListing (hlisting : isListing flags = true) :
    ofFlags flags place register =
      match settingsFor flags place with
      | .error error => .error error
      | .ok settings =>
        (selectedFrom (register settings.workload) flags.filter).map fun registry ↦
          .present (registry.planText settings.workload) := by
  have hinit : flags.command ≠ some .init := by
    rcases isListing_iff.mp hlisting with hlist | ⟨hnone, -⟩
    · simp [hlist]
    · simp [hnone]
  have hjob (settings : RunSettings) : forCases flags settings = fun registry ↦
      .present (registry.planText settings.workload) :=
    funext fun registry ↦ if_pos hlisting
  cases hsettings : settingsFor flags place <;>
    simp only [ofFlags, if_neg hinit, hjob, hsettings]

/-- Where there is a command, the switch for a dry run makes no difference. -/
theorem ofFlags_dryRun (hcommand : flags.command ≠ none) (dryRun : Bool) :
    ofFlags { flags with dryRun } place register = ofFlags flags place register := by
  have hlisting : isListing { flags with dryRun } = isListing flags := by
    unfold isListing
    split <;> simp_all
  have hjob (settings : RunSettings) (registry : Registry) :
      forCases { flags with dryRun } settings registry = forCases flags settings registry := by
    rw [forCases, forCases, hlisting]
  simp only [ofFlags, settingsFor, configFor, funext (hjob _)]
  rfl

end Job

/-- A run that lists cases, because that is its command or because it is a dry run without a
command, comes to an end and does nothing on the way: it invokes no body, builds no contents and
writes nothing. What is on the console is the plan of the cases that are selected, or nothing if it
fails before. A command decides alone, so beside any command the switch for a dry run makes no
difference, neither to the run nor to what is done. -/
theorem listing_does_nothing (flags : Flags) (place : Place)
    (register : Workload → Option DuplicateName × Registry) (limit : Nat) (timestamp : Timestamp) :
    (flags.command = some .list ∨ flags.command = none ∧ flags.dryRun = true →
      ∃ transcript, flags.run place register limit timestamp = some transcript ∧
        flags.runTraced place register limit timestamp = some (transcript, []) ∧
        transcript.files = place.files ∧ transcript.result = none ∧
        match Job.settingsFor flags place with
        | .error error => transcript.console = "" ∧ transcript.ending = .failed error
        | .ok settings =>
          match Job.selectedFrom (register settings.workload) flags.filter with
          | .error error => transcript.console = "" ∧ transcript.ending = .failed error
          | .ok registry =>
            transcript.console = registry.planText settings.workload ∧
              transcript.ending = .succeeded) ∧
    (flags.command ≠ none → ∀ dryRun,
      { flags with dryRun }.run place register limit timestamp =
          flags.run place register limit timestamp ∧
        { flags with dryRun }.runTraced place register limit timestamp =
          flags.runTraced place register limit timestamp) := by
  refine ⟨fun hlisting ↦ ?_, fun hcommand dryRun ↦ ?_⟩
  · rw [Flags.run, Flags.runTraced, Job.ofFlags_of_isListing (Job.isListing_iff.mpr hlisting)]
    cases Job.settingsFor flags place with
    | error error => exact ⟨_, rfl, rfl, rfl, rfl, rfl, rfl⟩
    | ok settings =>
      dsimp only
      cases Job.selectedFrom (register settings.workload) flags.filter with
      | error error => exact ⟨_, rfl, rfl, rfl, rfl, rfl, rfl⟩
      | ok registry => exact ⟨_, rfl, rfl, rfl, rfl, rfl, rfl⟩
  · have htraced : { flags with dryRun }.runTraced place register limit timestamp =
        flags.runTraced place register limit timestamp := by
      rw [Flags.runTraced, Job.ofFlags_dryRun hcommand]
      rfl
    refine ⟨?_, htraced⟩
    rw [← Flags.runTraced_map_fst, htraced, Flags.runTraced_map_fst]

/-- A dry run of a single case lists it, and the command to list does the same with the switch for a
dry run and without. -/
theorem listing_does_nothing_custom :
    let register (_ : Workload) : Option DuplicateName × Registry :=
      (none, ⟨[Script.toCase "steady" (.steady 10)], .ofList ["steady"]⟩)
    let text := "pvbench plan (3 pushes per invocation):\n├── steady [custom]\n1 cases found.\n"
    let dry : Flags := { dryRun := true, len := some 3, verify := true }
    let listed : Flags := { command := some .list }
    (∃ transcript, dry.run ⟨.empty, []⟩ register 5 ⟨0, 0, 0⟩ = some transcript ∧
        dry.runTraced ⟨.empty, []⟩ register 5 ⟨0, 0, 0⟩ = some (transcript, []) ∧
        transcript.console = text) ∧
      { listed with dryRun := true }.run ⟨.empty, []⟩ register 5 ⟨0, 0, 0⟩ =
          listed.run ⟨.empty, []⟩ register 5 ⟨0, 0, 0⟩ ∧
      { listed with dryRun := true }.runTraced ⟨.empty, []⟩ register 5 ⟨0, 0, 0⟩ =
          listed.runTraced ⟨.empty, []⟩ register 5 ⟨0, 0, 0⟩ := by
  intro register text dry listed
  refine ⟨?_, (listing_does_nothing listed ⟨.empty, []⟩ register 5 ⟨0, 0, 0⟩).2
    (by simp [listed]) true⟩
  obtain ⟨transcript, hrun, htraced, -⟩ :=
    (listing_does_nothing dry ⟨.empty, []⟩ register 5 ⟨0, 0, 0⟩).1 (.inr ⟨rfl, rfl⟩)
  have hconsole : (dry.run ⟨.empty, []⟩ register 5 ⟨0, 0, 0⟩).map Transcript.console =
      some text := by decide +kernel
  rw [hrun] at hconsole
  exact ⟨transcript, hrun, htraced, Option.some.inj hconsole⟩

/-- Beside a command, the switch for a dry run does not keep cases from being run. -/
theorem not_dryRun_does_nothing :
    ¬ ∀ (flags : Flags) (place : Place) (register : Workload → Option DuplicateName × Registry)
      (limit : Nat) (timestamp : Timestamp) (transcript : Transcript)
      (actions : List ProgramAction), flags.dryRun = true → flags.command ≠ some .init →
      flags.run place register limit timestamp = some transcript →
      flags.runTraced place register limit timestamp = some (transcript, actions) →
        ∀ case elapsed, .measured (.invoked case elapsed) ∉ actions := by
  intro h
  let flags : Flags :=
    { command := some .run, dryRun := true, window := some "20ns", minSamples := some 2,
      target := some 100.0 }
  let register (_ : Workload) : Option DuplicateName × Registry :=
    (none, ⟨[Script.toCase "steady" (.steady 10)], .ofList ["steady"]⟩)
  let invokes : ProgramAction → Bool
    | .measured (.invoked 0 10) => true
    | _ => false
  have htraced : (flags.runTraced ⟨.empty, []⟩ register 5 ⟨0, 0, 0⟩).map (·.2.any invokes) =
      some true := by decide +kernel
  obtain ⟨⟨transcript, actions⟩, htraced, hinvokes⟩ := Option.map_eq_some_iff.mp htraced
  obtain ⟨action, hmem, haction⟩ := List.any_eq_true.mp hinvokes
  obtain rfl : action = .measured (.invoked 0 10) := by
    simp only [invokes] at haction
    split at haction
    next => rfl
    next => cases haction
  exact h flags ⟨.empty, []⟩ register 5 ⟨0, 0, 0⟩ transcript actions rfl (by simp [flags])
    (Flags.run_of_runTraced htraced) htraced 0 10 hmem

end PushBench
