import Glasshouse.Proofs.RoundTrip

/-!
# States written one after the other

The encodings of two states put one after the other are decoded to one state: the second has the
last word on every value that it sets, lists are joined, and a report of another kind replaces the
one before it. Decoding stays stateful all the way down, so the second encoding is followed from what
the first one has left (`combines_deviceState`). Main statement: `written_states_combine`.
-/

namespace Glasshouse.Status

open Wire Wire.Message

/-- Two encodings in a row are decoded to the combination of the two states with positive zeros. -/
theorem written_states_combine (first second : DeviceState)
    (hfirst : (encode first).length < Nat.pow 2 63)
    (hsecond : (encode second).length < Nat.pow 2 63) :
    decode (encode first ++ encode second) = .ok (first.combine second).positiveZeros := by
  have hdepth : 2 ≤ maxDepth := by decide
  have hfront : Folds maxDepth blank (encode first) first.positiveZeros :=
    readsBack_deviceState maxDepth first hdepth hfirst
  have hback : Folds maxDepth first.positiveZeros (encode second)
      (first.positiveZeros.combine second.positiveZeros) :=
    combines_deviceState.folds maxDepth first.positiveZeros second hdepth hsecond
  rw [← DeviceState.positiveZeros_combine]
  exact (hfront.append hback).decode_eq

/-- Of two readings the second has a negative zero for the temperature and leaves it alone, and its
pressure replaces a negative zero; of two task lists the tasks stand in order; figures of the memory
behind a task list replace it. -/
theorem pairs_of_states_combine :
    let reading (temperature pressure : Number.Binary32) : Reading :=
      { (blank : Reading) with tempIndoor := temperature, pressure := pressure }
    let pump : TaskEntry := ⟨"pump", -3, 0, 0, 0, 0⟩
    let fan : TaskEntry := ⟨"fan", 1, 2, 0, 0, 0⟩
    let combined (first second : DeviceState) : Except DecodeError DeviceState :=
      decode (encode first ++ encode second)
    combined ⟨9, some (.telemetry (reading ⟨0x41ac0000⟩ ⟨0x80000000⟩))⟩
        ⟨0, some (.telemetry (reading ⟨0x80000000⟩ ⟨0x40000000⟩))⟩ =
          .ok ⟨9, some (.telemetry (reading ⟨0x41ac0000⟩ ⟨0x40000000⟩))⟩ ∧
      combined ⟨0, some (.tasks ⟨[pump]⟩)⟩ ⟨7, some (.tasks ⟨[fan, pump]⟩)⟩ =
        .ok ⟨7, some (.tasks ⟨[pump, fan, pump]⟩)⟩ ∧
      combined ⟨0, some (.tasks ⟨[pump]⟩)⟩ ⟨0, some (.memory ⟨0, 5⟩)⟩ =
        .ok ⟨0, some (.memory ⟨0, 5⟩)⟩ := by
  intro reading pump fan combined
  have hcombined (first second expected : DeviceState)
      (hfirst : (encode first).length < Nat.pow 2 63)
      (hsecond : (encode second).length < Nat.pow 2 63)
      (h : (first.combine second).positiveZeros = expected) :
      combined first second = .ok expected := by
    rw [← h]
    exact written_states_combine first second hfirst hsecond
  refine ⟨hcombined _ _ _ ?_ ?_ ?_, hcombined _ _ _ ?_ ?_ ?_, hcombined _ _ _ ?_ ?_ ?_⟩
  all_goals decide +kernel

end Glasshouse.Status
