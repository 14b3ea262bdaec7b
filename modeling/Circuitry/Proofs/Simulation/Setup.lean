import Mathlib.Data.List.Nodup
import Mathlib.Data.List.Perm.Basic
import Circuitry.Simulation.Engine

/-!
# What setting up an instance does

Setting up walks a body's declarations in order and fails at the first one it cannot take.
This module says, for every body, exactly when it succeeds and what it builds.

The inventory of a body is read off its syntax: the nets its sections and variables declare
(hoisted out of logic blocks at any depth, and out of global blocks), the logic blocks it
registers (nested ones after the block that holds them) and the pipelines it runs. A body is
admissible when it holds no component, a global block only in the global instance, no bare
expression outside a logic block, and no wire in a public section; the body of a logic block
is hoistable when it holds no component and no global block.

The main statement, `collect_adds`: setting up a body succeeds exactly when the body is
admissible and the names of all nets and logic blocks of the result are pairwise distinct,
and then the instance is the old one with the body's inventory added after its own.
-/

namespace Circuitry

namespace Decl

mutual

/-- The nets a declaration adds to its instance, in order and undriven: a public section's
variables and a bare variable with the role of their datatype, a private section's variables
as internal nets, and the nets of the bodies of logic and global blocks. -/
def nets : Decl → List Net
  | .publicSection vars => vars.map fun v => ⟨v.name, Role.ofDatatype v.datatype, .z⟩
  | .privateSection vars => vars.map fun v => ⟨v.name, .internal, .z⟩
  | .var v => [⟨v.name, Role.ofDatatype v.datatype, .z⟩]
  | .logic _ body => netsAll body
  | .global body => netsAll body
  | .component _ _ | .pipeline _ | .expression _ => []

/-- The nets of a list of declarations, in order. -/
def netsAll : List Decl → List Net
  | [] => []
  | d :: ds => d.nets ++ netsAll ds

end

mutual

/-- The logic blocks a declaration registers: a logic block, then the blocks nested in it; the
blocks of a global block's body. -/
def blocks : Decl → List LogicBlock
  | .logic name body => ⟨name, body⟩ :: blocksAll body
  | .global body => blocksAll body
  | _ => []

/-- The logic blocks of a list of declarations, in order. -/
def blocksAll : List Decl → List LogicBlock
  | [] => []
  | d :: ds => d.blocks ++ blocksAll ds

end

mutual

/-- The pipelines a declaration adds to its instance: a pipeline, and the pipelines of a
global block's body. Those of a logic block stay in the block. -/
def pipelines : Decl → List (List Expr)
  | .pipeline items => [items]
  | .global body => pipelinesAll body
  | _ => []

/-- The pipelines of a list of declarations, in order. -/
def pipelinesAll : List Decl → List (List Expr)
  | [] => []
  | d :: ds => d.pipelines ++ pipelinesAll ds

end

def names (ds : List Decl) : List String :=
  (netsAll ds).map (·.name) ++ (blocksAll ds).map (·.name)

mutual

/-- A declaration in a logic block's body that can be hoisted into the instance: anything but
a component or a global block, with no wire in a public section and with nested logic blocks
hoistable in turn. -/
def Hoistable : Decl → Prop
  | .publicSection vars => ∀ v ∈ vars, v.datatype ≠ .wire
  | .logic _ body => HoistableAll body
  | .component _ _ | .global _ => False
  | .privateSection _ | .var _ | .pipeline _ | .expression _ => True

/-- Every declaration of the list can be hoisted. -/
def HoistableAll : List Decl → Prop
  | [] => True
  | d :: ds => d.Hoistable ∧ HoistableAll ds

end

mutual

/-- A declaration that setting up a body accepts, `root` saying whether the body is the global
instance's: no component and no bare expression, a global block only in the global instance,
no wire in a public section, and a logic block whose body can be hoisted. -/
def Admissible (root : Prop) : Decl → Prop
  | .publicSection vars => ∀ v ∈ vars, v.datatype ≠ .wire
  | .logic _ body => HoistableAll body
  | .global body => root ∧ AdmissibleAll root body
  | .component _ _ | .expression _ => False
  | .privateSection _ | .var _ | .pipeline _ => True

/-- Every declaration of the list is admissible. -/
def AdmissibleAll (root : Prop) : List Decl → Prop
  | [] => True
  | d :: ds => d.Admissible root ∧ AdmissibleAll root ds

end

end Decl

namespace Instance

def taken (inst : Instance) : List String := inst.nets.map (·.name) ++ inst.logic.map (·.name)

def grow (inst : Instance) (nets : List Net) (blocks : List LogicBlock)
    (pipelines : List (List Expr)) : Instance :=
  { inst with nets := inst.nets ++ nets, logic := inst.logic ++ blocks,
              pipelines := inst.pipelines ++ pipelines }

@[simp] theorem name_grow (inst : Instance) (N : List Net) (B : List LogicBlock)
    (P : List (List Expr)) : (inst.grow N B P).name = inst.name := rfl

@[simp] theorem grow_nil (inst : Instance) : inst.grow [] [] [] = inst := by
  simp [grow]

theorem grow_grow (inst : Instance) (N₁ N₂ : List Net) (B₁ B₂ : List LogicBlock)
    (P₁ P₂ : List (List Expr)) :
    (inst.grow N₁ B₁ P₁).grow N₂ B₂ P₂ = inst.grow (N₁ ++ N₂) (B₁ ++ B₂) (P₁ ++ P₂) := by
  simp [grow]

theorem hasNet_iff {inst : Instance} {name : String} :
    inst.hasNet name = true ↔ name ∈ inst.nets.map (·.name) := by
  unfold hasNet Net.find?
  rw [List.find?_isSome]
  simp

theorem hasLogic_iff {inst : Instance} {name : String} :
    inst.hasLogic name = true ↔ name ∈ inst.logic.map (·.name) := by
  unfold hasLogic
  simp

theorem mem_taken {inst : Instance} {name : String} :
    name ∈ inst.taken ↔ inst.hasNet name = true ∨ inst.hasLogic name = true := by
  simp only [taken, List.mem_append, hasNet_iff, hasLogic_iff]

theorem taken_grow_perm (inst : Instance) (N : List Net) (B : List LogicBlock)
    (P : List (List Expr)) :
    (inst.grow N B P).taken.Perm (inst.taken ++ (N.map (·.name) ++ B.map (·.name))) := by
  simp only [taken, grow, List.map_append, List.append_assoc]
  apply List.Perm.append_left
  rw [← List.append_assoc, ← List.append_assoc]
  exact List.Perm.append_right _ List.perm_append_comm

theorem nodup_grow_one {inst : Instance} {N : List Net} {B : List LogicBlock}
    {P : List (List Expr)} (name : String) (distinct : inst.taken.Nodup) (free : name ∉ inst.taken)
    (named : N.map (·.name) ++ B.map (·.name) = [name]) : (inst.grow N B P).taken.Nodup := by
  rw [(taken_grow_perm inst N B P).nodup_iff, named, List.nodup_append]
  refine ⟨distinct, List.nodup_singleton name, ?_⟩
  intro a taken b added same
  rw [List.mem_singleton] at added
  exact free (added ▸ same ▸ taken)

theorem taken_sublist_grow (inst : Instance) (N : List Net) (B : List LogicBlock)
    (P : List (List Expr)) : inst.taken.Sublist (inst.grow N B P).taken := by
  simp only [taken, grow, List.map_append]
  exact List.Sublist.append (List.sublist_append_left _ _) (List.sublist_append_left _ _)

end Instance

/-- `r`, the outcome of setting up from `inst`, adds nets `N`, logic blocks `B` and pipelines
`P`, under the condition `cond`: it succeeds exactly when `cond` holds and the names of the grown
instance are pairwise distinct, and its result is then the grown instance. -/
def Adds (r : Except CircuitFault Instance) (inst : Instance) (cond : Prop) (N : List Net)
    (B : List LogicBlock) (P : List (List Expr)) : Prop :=
  ∀ inst', r = .ok inst' ↔ cond ∧ (inst.grow N B P).taken.Nodup ∧ inst' = inst.grow N B P

namespace Adds

variable {inst : Instance} {cond cond' : Prop} {N N' : List Net} {B B' : List LogicBlock}
  {P P' : List (List Expr)}

theorem refuse (issue : DeclarationIssue) : Adds (inst.refuse issue) inst False N B P := by
  intro inst'
  simp [Instance.refuse]

theorem grown (distinct : (inst.grow N B P).taken.Nodup) :
    Adds (.ok (inst.grow N B P)) inst True N B P := by
  intro inst'
  simp only [Except.ok.injEq, true_and, distinct]
  exact eq_comm

theorem done (distinct : inst.taken.Nodup) : Adds (.ok inst) inst True [] [] [] := by
  intro inst'
  simp only [Instance.grow_nil, Except.ok.injEq, true_and, distinct]
  exact eq_comm

theorem clash {name : String} (f : CircuitFault) (taken : name ∈ inst.taken)
    (added : name ∈ N.map (·.name) ++ B.map (·.name)) : Adds (.error f) inst cond N B P := by
  intro inst'
  simp only [reduceCtorEq, false_iff]
  rintro ⟨_, distinct, _⟩
  rw [(Instance.taken_grow_perm inst N B P).nodup_iff, List.nodup_append] at distinct
  exact distinct.2.2 name taken name added rfl

theorem shift {r : Except CircuitFault Instance} {N₁ : List Net} {B₁ : List LogicBlock}
    {P₁ : List (List Expr)} (adds : Adds r (inst.grow N₁ B₁ P₁) cond N B P) :
    Adds r inst cond (N₁ ++ N) (B₁ ++ B) (P₁ ++ P) := by
  intro inst'
  rw [adds inst', Instance.grow_grow]

theorem congr {r : Except CircuitFault Instance} (adds : Adds r inst cond N B P)
    (sameCond : cond ↔ cond') (sameNets : N = N') (sameBlocks : B = B') (samePipelines : P = P') :
    Adds r inst cond' N' B' P' := by
  subst sameNets sameBlocks samePipelines
  intro inst'
  rw [adds inst', sameCond]

theorem chain {r : Except CircuitFault Instance} {k : Instance → Except CircuitFault Instance}
    {cond₁ cond₂ : Prop} {N₁ N₂ : List Net} {B₁ B₂ : List LogicBlock} {P₁ P₂ : List (List Expr)}
    (first : Adds r inst cond₁ N₁ B₁ P₁)
    (rest : (inst.grow N₁ B₁ P₁).taken.Nodup →
      Adds (k (inst.grow N₁ B₁ P₁)) (inst.grow N₁ B₁ P₁) cond₂ N₂ B₂ P₂) :
    Adds (r >>= k) inst (cond₁ ∧ cond₂) (N₁ ++ N₂) (B₁ ++ B₂) (P₁ ++ P₂) := by
  intro inst'
  rw [← Instance.grow_grow]
  cases hr : r with
  | error f =>
    have refused := (first (inst.grow N₁ B₁ P₁)).not.1 (by simp [hr])
    simp only [Bind.bind, Except.bind, reduceCtorEq, false_iff]
    rintro ⟨⟨held₁, _⟩, distinct, _⟩
    exact refused ⟨held₁, (Instance.taken_sublist_grow _ _ _ _).nodup distinct, rfl⟩
  | ok mid =>
    obtain ⟨held₁, distinct₁, rfl⟩ := (first mid).1 hr
    simp only [Bind.bind, Except.bind]
    rw [rest distinct₁ inst']
    constructor
    · rintro ⟨held₂, distinct, rfl⟩
      exact ⟨⟨held₁, held₂⟩, distinct, rfl⟩
    · rintro ⟨⟨_, held₂⟩, distinct, rfl⟩
      exact ⟨held₂, distinct, rfl⟩

end Adds

namespace Instance

theorem declareNet_adds (inst : Instance) (role : Role) (name : String)
    (distinct : inst.taken.Nodup) :
    Adds (inst.declareNet role name) inst True [⟨name, role, .z⟩] [] [] := by
  have added : name ∈ [(⟨name, role, .z⟩ : Net)].map (·.name) ++ ([] : List LogicBlock).map (·.name) := by
    simp
  unfold declareNet refuse
  split
  · exact Adds.clash _ (mem_taken.2 (.inl ‹_›)) added
  · split
    · exact Adds.clash _ (mem_taken.2 (.inr ‹_›)) added
    · have literal : { inst with nets := inst.nets ++ [⟨name, role, .z⟩] } =
          inst.grow [⟨name, role, .z⟩] [] [] := by
        simp [grow]
      rw [literal]
      apply Adds.grown
      refine nodup_grow_one name distinct ?_ (by simp)
      rw [mem_taken]
      simp_all

theorem declarePublic_adds (inst : Instance) (vars : List Variable) (distinct : inst.taken.Nodup) :
    Adds (inst.declarePublic vars) inst (∀ v ∈ vars, v.datatype ≠ .wire)
      (Decl.publicSection vars).nets [] [] := by
  induction vars generalizing inst with
  | nil => exact (Adds.done distinct).congr (by simp) (by simp [Decl.nets]) rfl rfl
  | cons v vs ih =>
    rw [declarePublic]
    split
    · rename_i wire
      exact (Adds.refuse _).congr (by simp [wire]) rfl rfl rfl
    · rename_i notWire
      exact (Adds.chain (declareNet_adds inst _ v.name distinct) fun distinct' => ih _ distinct').congr
        (by simp [notWire]) (by simp [Decl.nets]) rfl rfl

theorem declarePrivate_adds (inst : Instance) (vars : List Variable) (distinct : inst.taken.Nodup) :
    Adds (inst.declarePrivate vars) inst True (Decl.privateSection vars).nets [] [] := by
  induction vars generalizing inst with
  | nil => exact (Adds.done distinct).congr Iff.rfl (by simp [Decl.nets]) rfl rfl
  | cons v vs ih =>
    rw [declarePrivate]
    exact (Adds.chain (declareNet_adds inst _ v.name distinct) fun distinct' => ih _ distinct').congr
      (by simp) (by simp [Decl.nets]) rfl rfl

theorem register_literal (inst : Instance) (block : LogicBlock) :
    ({ name := inst.name, nets := inst.nets, logic := inst.logic ++ [block],
       pipelines := inst.pipelines } : Instance) = inst.grow [] [block] [] := by
  simp [grow]

theorem register_adds_of {name : String} {body : List Decl}
    (hoists : ∀ inst : Instance, inst.taken.Nodup → Adds (inst.hoist body) inst
      (Decl.HoistableAll body) (Decl.netsAll body) (Decl.blocksAll body) [])
    (inst : Instance) (distinct : inst.taken.Nodup) :
    Adds (inst.register name body) inst (Decl.HoistableAll body) (Decl.netsAll body)
      (⟨name, body⟩ :: Decl.blocksAll body) [] := by
  have added : name ∈ (Decl.netsAll body).map (·.name) ++
      ((⟨name, body⟩ : LogicBlock) :: Decl.blocksAll body).map (·.name) := by
    simp
  rw [register]
  split
  · exact Adds.clash _ (mem_taken.2 (.inr ‹_›)) added
  · split
    · exact Adds.clash _ (mem_taken.2 (.inl ‹_›)) added
    · have free : name ∉ inst.taken := by
        rw [mem_taken]
        simp_all
      have distinct' : (inst.grow [] [⟨name, body⟩] []).taken.Nodup :=
        nodup_grow_one name distinct free (by simp)
      rw [register_literal]
      exact (Adds.shift (hoists _ distinct')).congr Iff.rfl rfl rfl rfl

theorem hoist_adds : (body : List Decl) → (inst : Instance) → inst.taken.Nodup →
    Adds (inst.hoist body) inst (Decl.HoistableAll body) (Decl.netsAll body) (Decl.blocksAll body) []
  | [], inst, distinct => by
    rw [hoist]
    exact (Adds.done distinct).congr (by simp [Decl.HoistableAll]) rfl rfl rfl
  | .publicSection vars :: ds, inst, distinct => by
    rw [hoist]
    exact (Adds.chain (declarePublic_adds inst vars distinct) fun next => hoist_adds ds _ next).congr
      (by simp [Decl.HoistableAll, Decl.Hoistable]) (by simp [Decl.netsAll])
      (by simp [Decl.blocksAll, Decl.blocks]) rfl
  | .privateSection vars :: ds, inst, distinct => by
    rw [hoist]
    exact (Adds.chain (declarePrivate_adds inst vars distinct) fun next => hoist_adds ds _ next).congr
      (by simp [Decl.HoistableAll, Decl.Hoistable]) (by simp [Decl.netsAll])
      (by simp [Decl.blocksAll, Decl.blocks]) rfl
  | .var v :: ds, inst, distinct => by
    rw [hoist]
    exact (Adds.chain (declareNet_adds inst _ v.name distinct) fun next => hoist_adds ds _ next).congr
      (by simp [Decl.HoistableAll, Decl.Hoistable]) (by simp [Decl.netsAll, Decl.nets])
      (by simp [Decl.blocksAll, Decl.blocks]) rfl
  | .logic name body :: ds, inst, distinct => by
    rw [hoist]
    exact (Adds.chain (register_adds_of (hoist_adds body) inst distinct)
      fun next => hoist_adds ds _ next).congr (by simp [Decl.HoistableAll, Decl.Hoistable])
      (by simp [Decl.netsAll, Decl.nets]) (by simp [Decl.blocksAll, Decl.blocks]) rfl
  | .component name body :: ds, inst, _ => by
    rw [hoist]
    exact (Adds.refuse _).congr (by simp [Decl.HoistableAll, Decl.Hoistable]) rfl rfl rfl
  | .global body :: ds, inst, _ => by
    rw [hoist]
    exact (Adds.refuse _).congr (by simp [Decl.HoistableAll, Decl.Hoistable]) rfl rfl rfl
  | .pipeline items :: ds, inst, distinct => by
    rw [hoist]
    exact (hoist_adds ds inst distinct).congr (by simp [Decl.HoistableAll, Decl.Hoistable])
      (by simp [Decl.netsAll, Decl.nets]) (by simp [Decl.blocksAll, Decl.blocks]) rfl
  | .expression root :: ds, inst, distinct => by
    rw [hoist]
    exact (hoist_adds ds inst distinct).congr (by simp [Decl.HoistableAll, Decl.Hoistable])
      (by simp [Decl.netsAll, Decl.nets]) (by simp [Decl.blocksAll, Decl.blocks]) rfl

theorem register_adds (inst : Instance) (name : String) (body : List Decl)
    (distinct : inst.taken.Nodup) :
    Adds (inst.register name body) inst (Decl.HoistableAll body) (Decl.netsAll body)
      (⟨name, body⟩ :: Decl.blocksAll body) [] :=
  register_adds_of (hoist_adds body) inst distinct

theorem pipeline_literal (inst : Instance) (items : List Expr) :
    ({ inst with pipelines := inst.pipelines ++ [items] } : Instance) = inst.grow [] [] [items] := by
  simp [grow]

theorem collect_adds : (ds : List Decl) → (inst : Instance) → inst.taken.Nodup →
    Adds (inst.collect ds) inst (Decl.AdmissibleAll (inst.name = globalName) ds) (Decl.netsAll ds)
      (Decl.blocksAll ds) (Decl.pipelinesAll ds)
  | [], inst, distinct => by
    rw [collect]
    exact (Adds.done distinct).congr (by simp [Decl.AdmissibleAll]) rfl rfl rfl
  | .publicSection vars :: ds, inst, distinct => by
    rw [collect, collectOne]
    exact (Adds.chain (declarePublic_adds inst vars distinct) fun next => collect_adds ds _ next).congr
      (by simp [Decl.AdmissibleAll, Decl.Admissible]) (by simp [Decl.netsAll])
      (by simp [Decl.blocksAll, Decl.blocks]) (by simp [Decl.pipelinesAll, Decl.pipelines])
  | .privateSection vars :: ds, inst, distinct => by
    rw [collect, collectOne]
    exact (Adds.chain (declarePrivate_adds inst vars distinct) fun next => collect_adds ds _ next).congr
      (by simp [Decl.AdmissibleAll, Decl.Admissible]) (by simp [Decl.netsAll])
      (by simp [Decl.blocksAll, Decl.blocks]) (by simp [Decl.pipelinesAll, Decl.pipelines])
  | .var v :: ds, inst, distinct => by
    rw [collect, collectOne]
    exact (Adds.chain (declareNet_adds inst _ v.name distinct) fun next => collect_adds ds _ next).congr
      (by simp [Decl.AdmissibleAll, Decl.Admissible]) (by simp [Decl.netsAll, Decl.nets])
      (by simp [Decl.blocksAll, Decl.blocks]) (by simp [Decl.pipelinesAll, Decl.pipelines])
  | .pipeline items :: ds, inst, distinct => by
    rw [collect, collectOne, pipeline_literal]
    have distinct' : (inst.grow [] [] [items]).taken.Nodup := by
      simpa [taken, grow] using distinct
    exact (Adds.chain (Adds.grown distinct') fun next => collect_adds ds _ next).congr
      (by simp [Decl.AdmissibleAll, Decl.Admissible]) (by simp [Decl.netsAll, Decl.nets])
      (by simp [Decl.blocksAll, Decl.blocks]) (by simp [Decl.pipelinesAll, Decl.pipelines])
  | .logic name body :: ds, inst, distinct => by
    rw [collect, collectOne]
    exact (Adds.chain (register_adds inst name body distinct) fun next => collect_adds ds _ next).congr
      (by simp [Decl.AdmissibleAll, Decl.Admissible]) (by simp [Decl.netsAll, Decl.nets])
      (by simp [Decl.blocksAll, Decl.blocks]) (by simp [Decl.pipelinesAll, Decl.pipelines])
  | .global body :: ds, inst, distinct => by
    rw [collect, collectOne]
    split
    · rename_i root
      exact (Adds.chain (collect_adds body inst distinct) fun next => collect_adds ds _ next).congr
        (by simp [Decl.AdmissibleAll, Decl.Admissible, root]) (by simp [Decl.netsAll, Decl.nets])
        (by simp [Decl.blocksAll, Decl.blocks]) (by simp [Decl.pipelinesAll, Decl.pipelines])
    · rename_i notRoot
      exact (Adds.refuse _).congr (by simp [Decl.AdmissibleAll, Decl.Admissible, notRoot])
        rfl rfl rfl
  | .component name body :: ds, inst, _ => by
    rw [collect, collectOne]
    exact (Adds.refuse _).congr (by simp [Decl.AdmissibleAll, Decl.Admissible]) rfl rfl rfl
  | .expression root :: ds, inst, _ => by
    rw [collect, collectOne]
    exact (Adds.refuse _).congr (by simp [Decl.AdmissibleAll, Decl.Admissible]) rfl rfl rfl

def declaredBy (name : String) (body : List Decl) : Instance :=
  ⟨name, Decl.netsAll body, Decl.blocksAll body, Decl.pipelinesAll body⟩

theorem collect_empty_eq_ok (name : String) (body : List Decl) (inst : Instance) :
    (Instance.empty name).collect body = .ok inst ↔
      Decl.AdmissibleAll (name = globalName) body ∧ (Decl.names body).Nodup ∧
        inst = declaredBy name body := by
  have grown : (Instance.empty name).grow (Decl.netsAll body) (Decl.blocksAll body)
      (Decl.pipelinesAll body) = declaredBy name body := by
    simp [grow, empty, declaredBy]
  rw [collect_adds body _ (by simp [taken, empty]) inst, grown]
  rfl

end Instance

namespace Engine

theorem addComponents_eq_ok (done : List Instance) (comps : List (String × List Decl))
    (distinct : (done.map (·.name)).Nodup) (insts : List Instance) :
    (addComponents done comps).1 = .ok insts ↔
      (done.map (·.name) ++ comps.map (·.1)).Nodup ∧
        (∀ c ∈ comps, Decl.AdmissibleAll (c.1 = globalName) c.2 ∧ (Decl.names c.2).Nodup) ∧
        insts = done ++ comps.map fun c => Instance.declaredBy c.1 c.2 := by
  induction comps generalizing done with
  | nil =>
    simp only [addComponents, Except.ok.injEq, List.map_nil, List.append_nil, distinct,
      List.not_mem_nil, false_implies, implies_true, true_and]
    exact eq_comm
  | cons c rest ih =>
    obtain ⟨name, body⟩ := c
    simp only [addComponents]
    split
    · rename_i used
      simp only [List.any_eq_true, beq_iff_eq] at used
      obtain ⟨inst, member, named⟩ := used
      simp only [reduceCtorEq, false_iff, not_and]
      intro nodup
      exfalso
      rw [List.map_cons, List.nodup_append] at nodup
      exact nodup.2.2 name (named ▸ List.mem_map_of_mem member) name (List.mem_cons_self ..) rfl
    · rename_i unused
      simp only [List.any_eq_true, beq_iff_eq, not_exists, not_and] at unused
      cases built : (Instance.empty name).collect body with
      | error f =>
        simp only [reduceCtorEq, false_iff, not_and]
        intro _ bodies
        obtain ⟨admissible, named⟩ := bodies (name, body) (List.mem_cons_self ..)
        have := (Instance.collect_empty_eq_ok name body _).2 ⟨admissible, named, rfl⟩
        rw [built] at this
        cases this
      | ok inst =>
        obtain ⟨admissible, named, rfl⟩ := (Instance.collect_empty_eq_ok name body inst).1 built
        have fresh : name ∉ done.map (·.name) := by
          simp only [List.mem_map, not_exists, not_and]
          exact fun inst member same => unused inst member same
        have distinct' : ((done ++ [Instance.declaredBy name body]).map (·.name)).Nodup := by
          simpa [List.nodup_append, Instance.declaredBy, distinct] using fresh
        simp only
        rw [ih _ distinct']
        simp only [List.map_append, List.map_cons, List.map_nil, List.append_assoc,
          List.forall_mem_cons, admissible, named, and_self, true_and,
          List.cons_append, Instance.declaredBy]
        rfl

theorem build_eq_ok (p : Program) (strict : Bool) (e : Engine) :
    (build p strict).1 = .ok e ↔
      Decl.AdmissibleAll True (globalsOf p) ∧ (Decl.names (globalsOf p)).Nodup ∧
      ((componentsOf p).map (·.1)).Nodup ∧
      (∀ c ∈ componentsOf p, Decl.AdmissibleAll (c.1 = globalName) c.2 ∧ (Decl.names c.2).Nodup) ∧
      e = ⟨(componentsOf p).map (fun c => Instance.declaredBy c.1 c.2),
        Instance.declaredBy globalName (globalsOf p), strict⟩ := by
  have root := Instance.collect_empty_eq_ok globalName (globalsOf p)
  simp only at root
  unfold build
  split
  · rename_i f refused
    simp only [reduceCtorEq, false_iff, not_and]
    intro admissible named
    cases refused.symm.trans ((root _).2 ⟨admissible, named, rfl⟩)
  · rename_i global built
    obtain ⟨admissible, named, rfl⟩ := (root global).1 built
    have components := addComponents_eq_ok [] (componentsOf p) List.nodup_nil
    simp only [List.map_nil, List.nil_append] at components
    cases added : (addComponents [] (componentsOf p)).1 with
    | error f =>
      simp only [added, Except.map, reduceCtorEq, false_iff, not_and]
      intro _ _ distinct bodies
      cases added.symm.trans ((components _).2 ⟨distinct, bodies, rfl⟩)
    | ok insts =>
      obtain ⟨distinct, bodies, rfl⟩ := (components insts).1 added
      simp only [added, Except.map, Except.ok.injEq, admissible, named, distinct, true_and]
      constructor
      · rintro rfl
        exact ⟨bodies, rfl⟩
      · rintro ⟨_, rfl⟩
        rfl

end Engine

end Circuitry
