import Mathlib.Data.List.Perm.Basic
import Circuitry.Proofs.Simulation.Frame

/-!
# Instances evaluate in isolation

Evaluating the instance in a slot reads only that instance and the logic blocks it shares, the
global instance's, and writes only that slot. Evaluation changes levels, never logic blocks,
so the shared blocks are the same before and after any evaluation; and a slot's instance is
changed only by evaluating that slot. Hence two evaluations of different slots commute, in the
engine they leave and in the results they give (`Engine.evaluateAt_isolated`), and when every
instance evaluates without a fault a run leaves the same engine whatever order it visits the
instances in. Nothing here depends on how the engine was set up: it holds in every engine.
-/

namespace Circuitry

namespace Engine

theorem sharedAt_evaluateAt (e : Engine) (s t : Slot) :
    (e.evaluateAt s).2.1.sharedAt t = e.sharedAt t := by
  unfold evaluateAt
  split
  · rfl
  · rename_i inst taken
    cases t with
    | global => rfl
    | component i =>
      -- Only evaluating the global instance could touch the shared blocks, and it keeps its
      -- logic blocks.
      cases s with
      | global =>
        cases taken
        rfl
      | component j => rfl

theorem evaluateAt_result_congr {e e' : Engine} {t : Slot} (same : e'.at? t = e.at? t)
    (sameShared : e'.sharedAt t = e.sharedAt t) : (e'.evaluateAt t).1 = (e.evaluateAt t).1 := by
  cases taken : e.at? t with
  | none => rw [evaluateAt_of_none taken, evaluateAt_of_none (same.trans taken)]
  | some inst => rw [evaluateAt_of_at? taken, evaluateAt_of_at? (same.trans taken), sameShared]

theorem evaluateAt_put_of_ne (e : Engine) {s t : Slot} (apart : s ≠ t) (inst : Instance)
    (sameShared : (e.put s inst).sharedAt t = e.sharedAt t) :
    (e.put s inst).evaluateAt t =
      ((e.evaluateAt t).1, (e.evaluateAt t).2.1.put s inst, (e.evaluateAt t).2.2) := by
  have same := at?_put_of_ne e inst apart
  cases taken : e.at? t with
  | none => rw [evaluateAt_of_none taken, evaluateAt_of_none (same.trans taken)]
  | some old =>
    rw [evaluateAt_of_at? taken, evaluateAt_of_at? (same.trans taken), sameShared,
      put_comm e _ _ apart]

theorem evaluateAt_comm (e : Engine) {a b : Slot} (apart : a ≠ b) :
    ((e.evaluateAt a).2.1.evaluateAt b).2.1 = ((e.evaluateAt b).2.1.evaluateAt a).2.1 ∧
      ((e.evaluateAt a).2.1.evaluateAt b).1 = (e.evaluateAt b).1 ∧
      ((e.evaluateAt b).2.1.evaluateAt a).1 = (e.evaluateAt a).1 := by
  cases taken : e.at? a with
  | none =>
    have emptyLater : (e.evaluateAt b).2.1.at? a = none := by
      rw [evaluateAt_other e apart, taken]
    rw [evaluateAt_of_none taken, evaluateAt_of_none emptyLater]
    exact ⟨rfl, rfl, rfl⟩
  | some inst =>
    have sameShared := sharedAt_evaluateAt e a b
    rw [evaluateAt_of_at? taken] at sameShared ⊢
    dsimp only
    have first := evaluateAt_put_of_ne e apart _ sameShared
    have second := evaluateAt_of_at? ((evaluateAt_other e apart).trans taken)
    rw [sharedAt_evaluateAt] at second
    rw [first, second]
    exact ⟨rfl, rfl, rfl⟩

theorem evaluateAll_of_ok {e : Engine} {order : List Slot} (once : order.Nodup)
    (fine : ∀ s ∈ order, (e.evaluateAt s).1 = .ok ()) :
    (e.evaluateAll order).1 = .ok () ∧
      (e.evaluateAll order).2.1 = order.foldl (fun acc s => (acc.evaluateAt s).2.1) e := by
  induction order generalizing e with
  | nil => exact ⟨rfl, rfl⟩
  | cons s rest ih =>
    obtain ⟨notLater, restOnce⟩ := List.nodup_cons.1 once
    -- The slots still to come are not `s`, so evaluating `s` does not change their results.
    have fineRest : ∀ t ∈ rest, ((e.evaluateAt s).2.1.evaluateAt t).1 = .ok () := by
      intro t member
      have apart : t ≠ s := fun same => notLater (same ▸ member)
      rw [evaluateAt_result_congr (evaluateAt_other e apart) (sharedAt_evaluateAt e s t)]
      exact fine t (List.mem_cons_of_mem s member)
    have rest' := ih restOnce fineRest
    simp only [evaluateAll, fine s (List.mem_cons_self ..), List.foldl_cons]
    exact rest'

theorem run_engine (e : Engine) : e.run.2.1 = (e.evaluateAll e.slots).2.1 := by
  simp only [run]
  split
  · rfl
  · split <;> rfl

theorem slots_nodup (e : Engine) : e.slots.Nodup := by
  unfold slots
  apply List.Nodup.append ((List.nodup_range).map fun _ _ same => Slot.component.inj same)
    (List.nodup_singleton _)
  simp

/-- Instances are isolated: evaluating two different slots in either order leaves the same
engine and gives the same pair of results; and when every instance evaluates without a fault,
evaluating them in any order faults nowhere and leaves the engine a run leaves. -/
theorem evaluateAt_isolated (e : Engine) :
    (∀ a b, a ≠ b →
      ((e.evaluateAt a).2.1.evaluateAt b).2.1 = ((e.evaluateAt b).2.1.evaluateAt a).2.1 ∧
        ((e.evaluateAt a).1, ((e.evaluateAt a).2.1.evaluateAt b).1) =
          (((e.evaluateAt b).2.1.evaluateAt a).1, (e.evaluateAt b).1)) ∧
    ((∀ s ∈ e.slots, (e.evaluateAt s).1 = .ok ()) →
      ∀ order, order.Perm e.slots →
        (e.evaluateAll order).1 = .ok () ∧ (e.evaluateAll order).2.1 = e.run.2.1) := by
  refine ⟨fun a b apart => ?_, fun fine order visits => ?_⟩
  · obtain ⟨engines, resultB, resultA⟩ := evaluateAt_comm e apart
    rw [engines, resultB, resultA]
    exact ⟨rfl, rfl⟩
  · have inOrder := evaluateAll_of_ok (visits.nodup_iff.2 (slots_nodup e))
      fun s member => fine s (visits.subset member)
    have inRunOrder := evaluateAll_of_ok (slots_nodup e) fine
    refine ⟨inOrder.1, ?_⟩
    rw [run_engine, inOrder.2, inRunOrder.2]
    apply visits.foldl_eq'
    intro a _ b _ acc
    by_cases same : a = b
    · rw [same]
    · exact (evaluateAt_comm acc same).1

/-- A buffer component beside an empty global instance: the two evaluate in either order to the
same engine, and a run visiting the global instance first leaves what a run leaves. -/
theorem buffer_evaluation_isolated :
    (((bufferEngine .high .z).evaluateAt (.component 0)).2.1.evaluateAt .global).2.1 =
      (((bufferEngine .high .z).evaluateAt .global).2.1.evaluateAt (.component 0)).2.1 ∧
    ((bufferEngine .high .z).evaluateAll [.global, .component 0]).2.1 = (bufferEngine .high .z).run.2.1 := by
  have isolated := evaluateAt_isolated (bufferEngine .high .z)
  refine ⟨(isolated.1 (.component 0) .global (by decide)).1,
    (isolated.2 ?_ [.global, .component 0] (List.Perm.swap _ _ [])).2⟩
  simp [bufferEngine, bufferAt, slots, evaluateAt, at?, sharedAt, Instance.evaluate, passFrom, pipeline,
    value, Net.find?, connectionTargets, connectLanes, drive, Outcome.andThen, Outcome.pure, connectWord]

end Engine

end Circuitry
