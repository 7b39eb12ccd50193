/-
This file says what is asked of the port library. It takes three counts of stop bits, and refuses
any other one before it looks at the port, so no port is granted with it. A plan of faults
knows nothing of settings: where it stands for that library, it makes such an opening fail.
With the counts that are taken the settings have a short form.
-/

import KeyFeed.Rig.Run

namespace KeyFeed

/-- The port library takes the stop bits: 1, 1.5 or 2. -/
inductive Link.IsTaken : Given BitCount → Prop where
  | one : IsTaken (.value (.whole 1))
  | oneReal : IsTaken (.value (.real 1))
  | onePointFive : IsTaken (.value (.real 1.5))
  | two : IsTaken (.value (.whole 2))
  | twoReal : IsTaken (.value (.real 2))

/-- The next opening is one by the port library: a port is granted only with stop bits that it
takes. -/
def Rig.Vets (rig : Rig) : Prop :=
  rig.plan.fault? .opening (rig.tally.opening + 1) = none → Link.IsTaken rig.settings.stopBits

namespace Link

open Number (Binary)

theorem shortStopBits_of_isTaken {stopBits : Given BitCount} (taken : IsTaken stopBits) :
    (shortStopBits stopBits).isOk = true := by
  have finite {count : Float} {isNegative : Bool} {mantissa : Nat} {exponent : Int}
      (unpacked : Binary.ofFloat count = .finite isNegative mantissa exponent) :
      (shortStopBits (.value (.real count))).isOk = true := by
    simp only [shortStopBits, unpacked]
    rfl
  cases taken with
  | one | two => rfl
  | oneReal => exact @finite 1 false (1 <<< 52) (-52) (by decide +kernel)
  | onePointFive => exact @finite 1.5 false (3 <<< 51) (-52) (by decide +kernel)
  | twoReal => exact @finite 2 false (1 <<< 52) (-51) (by decide +kernel)

/-- The named stop bits are taken. -/
theorem isTaken_count (stopBits : StopBits) : IsTaken (.value stopBits.count) := by
  cases stopBits with
  | one => exact .one
  | onePointFive => exact .onePointFive
  | two => exact .two

/-- Settings with stop bits that are taken have a short form. -/
theorem describe_of_isTaken {settings : Settings} (taken : IsTaken settings.stopBits) :
    ∃ short, settings.describe = .ok short := by
  have isOk := shortStopBits_of_isTaken taken
  unfold Settings.describe
  cases short : shortStopBits settings.stopBits with
  | error refusal =>
    rw [short] at isOk
    cases isOk
  | ok text => exact ⟨_, rfl⟩

end Link

end KeyFeed
