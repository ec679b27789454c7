import ReplicaRouter.Proofs.Bearing
import ReplicaRouter.Proofs.Lasting
import ReplicaRouter.Proofs.Session
/-
What the calls of the application do to the world: they keep every relation between worlds that bears the elementary
steps of the programs that they run.
Main statements: a call keeps what every call to the driver keeps (`World.Patient.keeps_taken`), and so does a run
(`World.Patient.keeps_run`). So along a run no closed connection is opened again (`Run.lapses`).
-/
namespace ReplicaRouter

variable {D : Type} {others R : World D → World D → Prop}

namespace World.Forbearing

open Split

variable [Backend D] (hR : World.Forbearing others R) [Frame others R]
include hR

theorem keeps_leaveOperation (op : Operation) (ans : Answer) :
    Split.Keeps others R (leaveOperation (D := D) op ans) := by
  cases ans with
  | ok reply => exact keeps_pure _
  | error e =>
    unfold leaveOperation
    dsimp only
    split
    · exact keeps_bind (hR.keeps_line _ _) fun _ => keeps_bind hR.keeps_discardKept fun _ =>
        keeps_bind keeps_service fun _ => keeps_bind (hR.keeps_setStale _) fun _ => keeps_pure _
    · exact keeps_pure _

theorem keeps_leaveFor (op : Operation) (ans : Answer) : Split.Keeps others R (leaveFor (D := D) op ans) := by
  cases op with
  | close =>
    exact keeps_bind hR.keeps_discardKept fun _ => keeps_bind (hR.keeps_setStale _) fun _ =>
      keeps_bind (Split.keeps_modify _) fun _ => keeps_pure _
  | _ => exact hR.keeps_leaveOperation _ ans

end World.Forbearing

namespace World.Patient

open Split

variable [Backend D] (hR : World.Patient others R) [Frame others R]
include hR

theorem keeps_enterOperation (op : Operation) : Split.Keeps others R (enterOperation (D := D) op) := by
  have hrecover : Split.Keeps others R (recover (D := D)) := by
    refine keeps_bind keeps_get fun s => keeps_bind keeps_service fun v => ?_
    split
    · exact keeps_bind (hR.keeps_line _ _) fun _ => hR.keeps_switchTo _
    · exact keeps_pure _
  have hbalance : Split.Keeps others R (balance (D := D) op) := by
    refine keeps_bind keeps_get fun s => keeps_bind keeps_service fun v => ?_
    split
    · exact hR.keeps_rotateReader
    · exact keeps_pure _
  refine keeps_bind hrecover fun r => ?_
  cases r with
  | error e => exact keeps_pure _
  | ok _ => exact keeps_bind hbalance fun _ => keeps_pure _

theorem keeps_onExecute (op : Operation) :
    Split.Keeps others R (plugin.onExecute op : Split D (OperationHandling D)) := by
  cases op with
  | setReadOnly readOnly =>
    refine keeps_bind (hR.keeps_switchTo readOnly) fun r => ?_
    cases r with
    | error e => exact keeps_pure _
    | ok _ => exact keeps_bind (Split.keeps_modify _) fun _ => keeps_pure _
  | close => exact keeps_pure _
  | _ => exact hR.keeps_enterOperation _

theorem keeps_execute (op : Operation) : Act.Keeps others R (Service.execute (D := D) op) := fun _ _ _ h => by
  cases Service.executes_execute h with
  | missing => exact Frame.refl others _
  | runs _ performs => exact (hR.keeps_perform (fun _ _ => trivial) op).ends performs

variable [Bystanders others]

/-- A call of the application keeps what every call to the driver keeps. -/
theorem keeps_taken {k : Leg D} (h : k.Taken others) : R k.before.world k.after.world := by
  rcases h.course with ⟨_, stays, _, _⟩ | ⟨_, _, _, _, entered⟩ | ⟨passes⟩
  · rw [show k.after.world = k.before.world from congrArg (fun s => s.world) stays]
    exact Frame.refl others _
  · exact hR.keeps_onExecute _ entered
  · have hentered := hR.keeps_onExecute _ passes.entered
    have hperformed := hR.keeps_execute _ passes.performed
    have hleft := hR.keeps_leaveFor _ _ passes.left
    exact Frame.trans others hentered (Frame.trans others hperformed hleft)

/-- So does a run. -/
theorem keeps_run {s s' : Session D} {ks : List (Leg D)} (h : Run others s ks s') : R s.world s'.world := by
  induction h with
  | start => exact Frame.refl others _
  | aside _ change _ ih => exact Frame.trans others ih (Frame.bears change)
  | call _ taken ih => exact Frame.trans others ih (hR.keeps_taken taken)

end World.Patient

/-- Along a run no closed connection is opened again. -/
theorem Run.lapses [Backend D] [Backend.Lasting D] [Lasting others] {s s' : Session D} {ks : List (Leg D)}
    (h : Run others s ks s') : s.world.Lapses s'.world :=
  (World.patient_lapses others).keeps_run h

end ReplicaRouter
