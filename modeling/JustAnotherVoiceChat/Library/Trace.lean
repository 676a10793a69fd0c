import Mathlib.Data.List.Basic

set_option autoImplicit false

namespace Trace

variable {ε : Type}

-- Every entry was in order when it was added to the older ones.
def Lawful (ok : List ε → ε → Prop) : List ε → Prop
  | [] => True
  | entry :: older => ok older entry ∧ Lawful ok older

variable {ok : List ε → ε → Prop}

theorem lawful_split {newer older : List ε} {entry : ε}
    (lawful : Lawful ok (newer ++ entry :: older)) : ok older entry ∧ Lawful ok older := by
  induction newer with
  | nil => exact lawful
  | cons _ newer ih => exact ih lawful.2

theorem lawful_append {newer older : List ε} (lawful : Lawful ok older)
    (each : ∀ later entry before, newer = later ++ entry :: before → ok (before ++ older) entry) :
    Lawful ok (newer ++ older) := by
  induction newer with
  | nil => exact lawful
  | cons entry rest ih =>
    refine ⟨each [] entry rest rfl, ih fun later e before split => ?_⟩
    exact each (entry :: later) e before (by rw [split]; rfl)

end Trace
