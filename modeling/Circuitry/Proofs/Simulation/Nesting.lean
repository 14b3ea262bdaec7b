import Mathlib.Data.List.Dedup
import Mathlib.Data.List.Perm.Subperm
import Circuitry.Proofs.Simulation.Trace

/-!
# How deep block runs nest

Evaluation is a total function; its recursion is measured by the pair of the number of scope
names not yet running and the size of the syntax at hand. This module states what makes the
first component fall, in terms of the trace of a pass. Read as a stack of running blocks,
innermost first, the trace enters a block only when the block is in scope and not running, and
leaves exactly the innermost running block, whether its body finished or stopped at a fault.
Every run of a block is left, so each evaluation function leaves the stack as it found it.

From the stack discipline alone: the running blocks are pairwise distinct names of the scope at
every point of a pass, so the nesting of block runs is never deeper than the number of
distinct block names the instance can resolve, whatever its blocks refer to. Main statement:
`Instance.evaluation_nesting`.
-/

namespace Circuitry

def Access.nest (names : List String) (running : List String) : Access → Option (List String)
  | .enter b => if b ∈ names ∧ b ∉ running then some (b :: running) else none
  | .leave b =>
    match running with
    | b' :: rest => if b = b' then some rest else none
    | [] => none
  | .read _ | .write _ => some running

namespace Access

variable {names : List String}

theorem nest_keeps {running running' : List String} {a : Access}
    (step : nest names running a = some running') (distinct : running.Nodup) (inScope : running ⊆ names) :
    running'.Nodup ∧ running' ⊆ names := by
  cases a with
  | enter b =>
    simp only [nest] at step
    split at step
    · rename_i fresh
      cases step
      exact ⟨List.nodup_cons.2 ⟨fresh.2, distinct⟩, List.cons_subset.2 ⟨fresh.1, inScope⟩⟩
    · cases step
  | leave b =>
    simp only [nest] at step
    split at step
    · rename_i b' rest
      split at step
      · cases step
        exact ⟨(List.nodup_cons.1 distinct).2, (List.cons_subset.1 inScope).2⟩
      · cases step
    · cases step
  | read n =>
    cases step
    exact ⟨distinct, inScope⟩
  | write n =>
    cases step
    exact ⟨distinct, inScope⟩

theorem foldlM_nest_keeps {t : List Access} {running running' : List String}
    (run : t.foldlM (nest names) running = some running') (distinct : running.Nodup)
    (inScope : running ⊆ names) : running'.Nodup ∧ running' ⊆ names := by
  induction t generalizing running with
  | nil =>
    cases run
    exact ⟨distinct, inScope⟩
  | cons a rest ih =>
    rw [List.foldlM_cons] at run
    cases step : nest names running a with
    | none => simp [step] at run
    | some mid =>
      rw [step] at run
      obtain ⟨distinct', inScope'⟩ := nest_keeps step distinct inScope
      exact ih run distinct' inScope'

theorem length_le_dedup {running : List String} (distinct : running.Nodup) (inScope : running ⊆ names) :
    running.length ≤ names.dedup.length :=
  (distinct.subperm fun _ member => List.mem_dedup.2 (inScope member)).length_le

/-- A trace that, run from `running`, keeps the rules and ends with `running` again. -/
abbrev Restores (names : List String) (running : List String) (t : List Access) : Prop :=
  t.foldlM (nest names) running = some running

theorem Restores.nil (running : List String) : Restores names running [] := rfl

theorem Restores.append {running : List String} {t u : List Access} (first : Restores names running t)
    (second : Restores names running u) : Restores names running (t ++ u) := by
  rw [Restores, List.foldlM_append, first]
  exact second

theorem Restores.writes (running : List String) (ws : List (String × Level)) :
    Restores names running (ws.map fun w => .write w.1) := by
  induction ws with
  | nil => rfl
  | cons w rest ih => exact ih

theorem Restores.enclose {running : List String} {b : String} {t : List Access} (named : b ∈ names)
    (idle : b ∉ running) (body : Restores names (b :: running) t) :
    Restores names running (.enter b :: t ++ [.leave b]) := by
  rw [Restores, List.foldlM_append, List.foldlM_cons]
  simp only [nest, named, idle, not_false_eq_true, and_self, if_true]
  change (t.foldlM (nest names) (b :: running) >>= fun s => [Access.leave b].foldlM (nest names) s) = _
  rw [body]
  simp [nest]

theorem Restores.traceThen {running : List String} {o : Outcome α} {k : α → List Net → List Access}
    (next : ∀ a, o.result = .ok a → Restores names running (k a o.nets)) :
    Restores names running (o.traceThen k) := by
  cases done : o.result with
  | ok a =>
    rw [Outcome.traceThen_of_ok done]
    exact next a done
  | error f =>
    rw [Outcome.traceThen_of_error done]
    rfl

end Access

section Evaluation

variable (sc : Scope)

theorem evaluation_restores :
    (∀ active e nets, Access.Restores sc.names active (valueTrace sc active e nets)) ∧
    (∀ active items nets, Access.Restores sc.names active (valuesTrace sc active items nets)) ∧
    (∀ active name body found nets,
      Access.Restores sc.names active (runLogicTrace sc active name body found nets)) ∧
    (∀ active body (_last : Bundle) nets, Access.Restores sc.names active (runBodyTrace sc active body nets)) ∧
    (∀ active items nets, Access.Restores sc.names active (pipelineTrace sc active items nets)) ∧
    (∀ active e nets, Access.Restores sc.names active (bodyItemTrace sc active e nets)) := by
  apply value.mutual_induct sc
  · intro active nets n net located
    rw [valueTrace_name_net located]
    rfl
  · intro active nets n missing body found ih
    rw [valueTrace_name_logic missing found]
    exact ih
  · intro active nets n missing absent
    rw [valueTrace_name_undeclared missing absent]
    rfl
  · intro active nets digits
    rw [valueTrace.eq_2]
    rfl
  · intro active nets items ih
    rw [valueTrace.eq_3]
    exact ih
  · intro active nets lhs rhs ih
    rw [valueTrace.eq_4, if_pos rfl]
    refine ih.append (Access.Restores.traceThen fun source _ => ?_)
    split
    · exact Access.Restores.writes active _
    · rfl
  · intro active nets op lhs rhs notConnect g gate ihl ihr
    simp only [valueTrace.eq_4, if_neg notConnect, gate]
    exact ihl.append (Access.Restores.traceThen fun _ _ => ihr _)
  · intro active nets op lhs rhs notConnect unknown
    simp only [valueTrace.eq_4, if_neg notConnect, unknown]
    rfl
  · intro active nets
    rw [valuesTrace.eq_1]
    rfl
  · intro active nets x xs ihx ihxs
    rw [valuesTrace.eq_2]
    exact ihx.append (Access.Restores.traceThen fun _ _ => ihxs _)
  · intro active name body found nets idle _ ih
    rw [runLogicTrace.eq_1, dif_pos idle]
    exact Access.Restores.enclose (Scope.mem_names_of_lookup found) (by simpa using idle) ih
  · intro active name body found nets busy
    rw [runLogicTrace.eq_1, dif_neg busy]
    rfl
  · intro active last nets
    rw [runBodyTrace.eq_1]
    rfl
  · intro active last nets root rest ihroot ihrest
    rw [runBodyTrace.eq_2]
    exact ihroot.append (Access.Restores.traceThen fun v _ => ihrest v _)
  · intro active last nets items rest ihitems ihrest
    rw [runBodyTrace.eq_3]
    exact ihitems.append (Access.Restores.traceThen fun _ _ => ihrest _)
  · intro active last nets head rest notExpression notPipeline ih
    rw [runBodyTrace.eq_4 sc active nets head rest notExpression notPipeline]
    exact ih
  · intro active nets
    rw [pipelineTrace.eq_1]
    rfl
  · intro active nets n rest body found ih ihrest
    rw [pipelineTrace_name_logic found]
    exact ih.append (Access.Restores.traceThen fun _ _ => ihrest _)
  · intro active nets n rest absent
    rw [pipelineTrace_name_missing absent]
    rfl
  · intro active nets x rest notName ih ihrest
    rw [pipelineTrace.eq_3 sc active nets x rest notName]
    exact ih.append (Access.Restores.traceThen fun _ _ => ihrest _)
  · intro active nets n net located
    rw [bodyItemTrace_name_net located]
    rfl
  · intro active nets n missing body found ih
    rw [bodyItemTrace_name_logic missing found]
    exact ih
  · intro active nets n missing absent
    rw [bodyItemTrace_name_undeclared missing absent]
    rfl
  · intro active nets other notName ih
    rw [bodyItemTrace.eq_2 sc active other nets notName]
    exact ih

theorem passTrace_restores (pipelines : List (List Expr)) (nets : List Net) :
    Access.Restores sc.names [] (passTrace sc pipelines nets) := by
  induction pipelines generalizing nets with
  | nil => rfl
  | cons items rest ih =>
    rw [passTrace]
    exact ((evaluation_restores sc).2.2.2.2.1 [] items nets).append
      (Access.Restores.traceThen fun _ _ => ih _)

end Evaluation

/-- Evaluation nests block runs no deeper than the instance has block names. For every instance,
shared blocks and state, the trace of a pass enters a block only when it is in scope and not
running and leaves exactly the innermost running block, also when the block stops at a fault, so
that no block is left running at the end; and after every prefix of the trace the running
blocks are distinct, no more of them than the distinct names of the instance's own and shared
blocks. -/
theorem Instance.evaluation_nesting (inst : Instance) (shared : List LogicBlock) :
    (inst.trace shared).foldlM (Access.nest (Scope.names ⟨inst.name, inst.logic, shared⟩)) [] = some [] ∧
    ∀ k, ∃ running,
      ((inst.trace shared).take k).foldlM (Access.nest (Scope.names ⟨inst.name, inst.logic, shared⟩)) [] =
          some running ∧
        running.Nodup ∧ running.length ≤ (Scope.names ⟨inst.name, inst.logic, shared⟩).dedup.length := by
  have whole := passTrace_restores ⟨inst.name, inst.logic, shared⟩ inst.pipelines inst.nets
  unfold Instance.trace
  refine ⟨whole, fun k => ?_⟩
  rw [Access.Restores, ← List.take_append_drop k (passTrace _ _ _), List.foldlM_append] at whole
  cases opening : ((passTrace ⟨inst.name, inst.logic, shared⟩ inst.pipelines inst.nets).take k).foldlM
      (Access.nest (Scope.names ⟨inst.name, inst.logic, shared⟩)) [] with
  | none => simp [opening] at whole
  | some running =>
    obtain ⟨distinct, inScope⟩ := Access.foldlM_nest_keeps opening List.nodup_nil (List.nil_subset _)
    exact ⟨running, rfl, distinct, Access.length_le_dedup distinct inScope⟩

end Circuitry
