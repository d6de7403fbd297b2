import FrameStream.Configuration
import FrameStream.Proofs.Pieces

namespace FrameStream

theorem ok_of_bind {first : Except fault middle} {second : middle → Except fault value}
    (succeeded : (do second (← first)) = .ok result) :
    ∃ between, first = .ok between ∧ second between = .ok result := by
  cases first with
  | error error => cases succeeded
  | ok between => exact ⟨between, rfl, succeeded⟩

theorem ok_of_mapError {answer : Except fault value}
    (succeeded : answer.mapError convert = .ok result) : answer = .ok result := by
  cases answer with
  | error error => cases succeeded
  | ok reached =>
    cases succeeded
    rfl

theorem Framing.check_eq_ok {maximumPayload markerSize : Nat} {syncEnabled cadence : Bool}
    {framing : { framing : Framing // framing.syncEnabled = true → cadence = true }}
    (checked : Framing.check maximumPayload syncEnabled cadence markerSize = .ok framing) :
    framing.1.maximumPayload = maximumPayload ∧ framing.1.syncEnabled = syncEnabled ∧
      framing.1.markerSize = markerSize := by
  unfold Framing.check at checked
  split at checked
  · split at checked
    · cases checked
      exact ⟨rfl, rfl, rfl⟩
    · split at checked
      · split at checked
        · cases checked
          exact ⟨rfl, rfl, rfl⟩
        · cases checked
      · cases checked
  · cases checked

theorem Framing.eq_of_parts {left right : Framing}
    (payload : left.maximumPayload = right.maximumPayload)
    (sync : left.syncEnabled = right.syncEnabled) (marker : left.markerSize = right.markerSize) :
    left = right := by
  cases left
  cases right
  subst payload sync marker
  rfl

variable {inputParameters : InputParameters} {outputParameters : OutputParameters}
  {configuration : InputConfiguration}

theorem InputConfiguration.packetsPerFrame_eq
    (made : InputConfiguration.ofParameters inputParameters layer = .ok configuration) :
    configuration.packetsPerFrame = pieceCount configuration.maximumPayload layer.frameSize := by
  obtain ⟨_, _, made⟩ := ok_of_bind made
  obtain ⟨framing, _, made⟩ := ok_of_bind made
  cases made
  rfl

theorem InputConfiguration.padsFrames_eq
    (made : InputConfiguration.ofParameters inputParameters layer = .ok configuration) :
    configuration.padsFrames = inputParameters.padsFrames := by
  obtain ⟨_, _, made⟩ := ok_of_bind made
  obtain ⟨framing, _, made⟩ := ok_of_bind made
  cases made
  rfl

theorem InputConfiguration.framing_parts
    (made : InputConfiguration.ofParameters inputParameters layer = .ok configuration) :
    configuration.maximumPayload = inputParameters.maximumPayload.toNat ∧
      configuration.syncEnabled = inputParameters.syncEnabled ∧
      configuration.markerSize = inputParameters.markerSize.toNat := by
  obtain ⟨_, _, made⟩ := ok_of_bind made
  obtain ⟨framing, checked, made⟩ := ok_of_bind made
  cases made
  exact Framing.check_eq_ok checked

theorem OutputConfiguration.framing_parts {configuration : OutputConfiguration}
    (made : OutputConfiguration.ofParameters outputParameters layer = .ok configuration) :
    configuration.maximumPayload = outputParameters.maximumPayload.toNat ∧
      configuration.syncEnabled = outputParameters.syncEnabled ∧
      configuration.markerSize = outputParameters.markerSize.toNat := by
  obtain ⟨_, _, made⟩ := ok_of_bind made
  obtain ⟨framing, checked, made⟩ := ok_of_bind made
  cases made
  exact Framing.check_eq_ok checked

/-- Both sides of a stream have the same framing if they were asked for the same. -/
theorem framing_eq_of_parameters {configuration' : OutputConfiguration}
    (sending : InputConfiguration.ofParameters inputParameters inputLayer = .ok configuration)
    (receiving : OutputConfiguration.ofParameters outputParameters outputLayer = .ok configuration')
    (payload : outputParameters.maximumPayload = inputParameters.maximumPayload)
    (sync : outputParameters.syncEnabled = inputParameters.syncEnabled)
    (marker : outputParameters.markerSize = inputParameters.markerSize) :
    configuration'.toFraming = configuration.toFraming := by
  have ⟨sentPayload, sentSync, sentMarker⟩ := InputConfiguration.framing_parts sending
  have ⟨takenPayload, takenSync, takenMarker⟩ := OutputConfiguration.framing_parts receiving
  apply Framing.eq_of_parts
  · rw [takenPayload, payload, sentPayload]
  · rw [takenSync, sync, sentSync]
  · rw [takenMarker, marker, sentMarker]

end FrameStream
