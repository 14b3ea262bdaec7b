import Circuitry.Proofs.Syntax.ReadWellFormed
import Circuitry.Proofs.Simulation.Frame

/-!
# When a program sets up an engine

A parsed program sets up an engine exactly when its declarations stand where instances can
hold them and no two names clash (`Program.Instantiable`): the component names are distinct;
no component stands inside another declaration; no global block stands inside a component or
a logic block; no public section declares a wire; and in each instance the names of its
variables and logic blocks, at any depth, are distinct. The engine then holds in each instance
exactly the nets its declarations declare, with distinct names.

Setting up checks each name only against the names taken before it, and checks placement as it
goes, interleaving registering logic blocks with hoisting their bodies;
`Engine.build_eq_ok` already turns that into one condition per instance. What is left is to
read the placement part of that condition over the whole program. Two facts of parsing enter:
a bare expression never stands outside a logic block, and no component is named `global`.
-/

namespace Circuitry

namespace Decl

mutual

/-- The declarations inside a declaration, at any depth, in order. -/
def inner : Decl → List Decl
  | .component _ body => innerAll body
  | .logic _ body => innerAll body
  | .global body => innerAll body
  | .publicSection _ | .privateSection _ | .pipeline _ | .var _ | .expression _ => []

/-- The declarations of a list together with those inside them, at any depth. -/
def innerAll : List Decl → List Decl
  | [] => []
  | d :: ds => d :: d.inner ++ innerAll ds

end

/-- The declaration is a component. -/
def IsComponent : Decl → Prop
  | .component _ _ => True
  | _ => False

/-- The declaration is a global block. -/
def IsGlobal : Decl → Prop
  | .global _ => True
  | _ => False

/-- The declaration is a logic block. -/
def IsLogic : Decl → Prop
  | .logic _ _ => True
  | _ => False

/-- The declaration declares no wire in a public section. -/
def NoPublicWire : Decl → Prop
  | .publicSection vars => ∀ v ∈ vars, v.datatype ≠ .wire
  | _ => True

theorem forall_mem_innerAll {P : Decl → Prop} {ds : List Decl} :
    (∀ d ∈ innerAll ds, P d) ↔ ∀ top ∈ ds, P top ∧ ∀ d ∈ top.inner, P d := by
  induction ds with
  | nil => simp [innerAll]
  | cons top rest ih =>
    simp only [innerAll, List.mem_cons, List.mem_append, or_imp, forall_and, forall_eq, ih]
    exact ⟨fun ⟨⟨here, inside⟩, later, laterInside⟩ => ⟨⟨here, later⟩, inside, laterInside⟩,
      fun ⟨⟨here, later⟩, inside, laterInside⟩ => ⟨⟨here, inside⟩, later, laterInside⟩⟩

mutual

theorem inner_closed : (top : Decl) → ∀ d ∈ top.inner, d.inner ⊆ top.inner
  | .component _ body, d, member => innerAll_closed body d member
  | .logic _ body, d, member => innerAll_closed body d member
  | .global body, d, member => innerAll_closed body d member
  | .publicSection _, _, member | .privateSection _, _, member | .pipeline _, _, member
  | .var _, _, member | .expression _, _, member => absurd member List.not_mem_nil

theorem innerAll_closed : (ds : List Decl) → ∀ d ∈ innerAll ds, d.inner ⊆ innerAll ds
  | [], _, member => absurd member List.not_mem_nil
  | top :: rest, d, member => by
    rw [innerAll] at member ⊢
    rcases List.mem_cons.1 member with rfl | later
    · exact fun x inside => List.mem_cons_of_mem _ (List.mem_append_left _ inside)
    · rcases List.mem_append.1 later with inTop | inRest
      · exact fun x inside =>
          List.mem_cons_of_mem _ (List.mem_append_left _ (inner_closed top d inTop inside))
      · exact fun x inside =>
          List.mem_cons_of_mem _ (List.mem_append_right _ (innerAll_closed rest d inRest inside))

end

/-- What may stand in a logic block's body, at any depth: no component, no global block and
no public wire. -/
def Plain (d : Decl) : Prop := ¬d.IsComponent ∧ ¬d.IsGlobal ∧ d.NoPublicWire

mutual

theorem hoistable_iff : (d : Decl) → (d.Hoistable ↔ d.Plain ∧ ∀ d' ∈ d.inner, d'.Plain)
  | .logic _ body => by
    rw [Hoistable, hoistableAll_iff body]
    simp [Plain, IsComponent, IsGlobal, NoPublicWire, inner]
  | .component _ _ => by simp [Hoistable, Plain, IsComponent]
  | .global _ => by simp [Hoistable, Plain, IsComponent, IsGlobal]
  | .publicSection _ => by simp [Hoistable, Plain, IsComponent, IsGlobal, NoPublicWire, inner]
  | .privateSection _ => by simp [Hoistable, Plain, IsComponent, IsGlobal, NoPublicWire, inner]
  | .pipeline _ => by simp [Hoistable, Plain, IsComponent, IsGlobal, NoPublicWire, inner]
  | .var _ => by simp [Hoistable, Plain, IsComponent, IsGlobal, NoPublicWire, inner]
  | .expression _ => by simp [Hoistable, Plain, IsComponent, IsGlobal, NoPublicWire, inner]

theorem hoistableAll_iff : (ds : List Decl) → (HoistableAll ds ↔ ∀ d ∈ innerAll ds, d.Plain)
  | [] => by simp [HoistableAll, innerAll]
  | d :: rest => by
    rw [HoistableAll, hoistable_iff d, hoistableAll_iff rest]
    simp [innerAll, or_imp, forall_and, and_assoc]

end

/-- What an instance may hold at any depth, `root` saying whether it is the global instance: no
component, no public wire, a global block only in the global instance, and no global block in
a logic block. -/
def Placed (root : Prop) (d : Decl) : Prop :=
  ¬d.IsComponent ∧ d.NoPublicWire ∧ (d.IsGlobal → root) ∧ (d.IsLogic → ∀ d' ∈ d.inner, ¬d'.IsGlobal)

theorem plain_iff_placed (root : Prop) (body : List Decl) :
    (∀ d ∈ innerAll body, d.Plain) ↔
      (∀ d ∈ innerAll body, ¬d.IsGlobal) ∧ ∀ d ∈ innerAll body, d.Placed root := by
  constructor
  · intro plain
    refine ⟨fun d member => (plain d member).2.1, fun d member => ?_⟩
    obtain ⟨notComponent, notGlobal, noWire⟩ := plain d member
    exact ⟨notComponent, noWire, fun global => absurd global notGlobal,
      fun _ d' inside => (plain d' (innerAll_closed body d member inside)).2.1⟩
  · rintro ⟨noGlobal, placed⟩ d member
    exact ⟨(placed d member).1, noGlobal d member, (placed d member).2.1⟩

section

variable {opOk : String → Prop}

mutual

theorem admissible_iff (root : Prop) : (d : Decl) → d.WellFormed opOk false →
    (d.Admissible root ↔ d.Placed root ∧ ∀ d' ∈ d.inner, d'.Placed root)
  | .logic _ body, _ => by
    rw [Admissible, hoistableAll_iff, plain_iff_placed root body]
    simp [Placed, IsComponent, IsGlobal, IsLogic, NoPublicWire, inner]
  | .global body, formed => by
    rw [WellFormed] at formed
    rw [Admissible, admissibleAll_iff root body formed]
    simp [Placed, IsComponent, IsGlobal, IsLogic, NoPublicWire, inner]
  | .component _ _, _ => by simp [Admissible, Placed, IsComponent]
  | .expression _, formed => by simp [WellFormed] at formed
  | .publicSection _, _ => by simp [Admissible, Placed, IsComponent, IsGlobal, IsLogic, NoPublicWire, inner]
  | .privateSection _, _ => by simp [Admissible, Placed, IsComponent, IsGlobal, IsLogic, NoPublicWire, inner]
  | .pipeline _, _ => by simp [Admissible, Placed, IsComponent, IsGlobal, IsLogic, NoPublicWire, inner]
  | .var _, _ => by simp [Admissible, Placed, IsComponent, IsGlobal, IsLogic, NoPublicWire, inner]

theorem admissibleAll_iff (root : Prop) : (ds : List Decl) → AllWellFormed opOk false ds →
    (AdmissibleAll root ds ↔ ∀ d ∈ innerAll ds, d.Placed root)
  | [], _ => by simp [AdmissibleAll, innerAll]
  | d :: rest, formed => by
    rw [AllWellFormed] at formed
    rw [AdmissibleAll, admissible_iff root d formed.1, admissibleAll_iff root rest formed.2]
    simp [innerAll, or_imp, forall_and, and_assoc]

end

theorem admissibleAll_iff_forall {root : Prop} {ds : List Decl} :
    AdmissibleAll root ds ↔ ∀ d ∈ ds, d.Admissible root := by
  induction ds with
  | nil => simp [AdmissibleAll]
  | cons d rest ih => simp [AdmissibleAll, ih]

/-- The placement rules read at one top-level declaration: nothing inside it is a component; no
global block stands in it when it is a component or a logic block, nor in a logic block inside
it; and no public section in it or inside it declares a wire. -/
def FitsAtTop (top : Decl) : Prop :=
  (∀ d ∈ top.inner, ¬d.IsComponent) ∧
    (∀ d ∈ top :: top.inner, d.IsComponent ∨ d.IsLogic → ∀ d' ∈ d.inner, ¬d'.IsGlobal) ∧
    ∀ d ∈ top :: top.inner, d.NoPublicWire

theorem fitsAtTop_iff_admissible {top : Decl} (formed : top.WellFormed opOk false)
    (notComponent : ¬top.IsComponent) : top.FitsAtTop ↔ top.Admissible True := by
  rw [admissible_iff True top formed]
  simp only [FitsAtTop, Placed, List.forall_mem_cons, implies_true, true_and]
  constructor
  · rintro ⟨components, ⟨globalsTop, globalsInner⟩, wireTop, wireInner⟩
    exact ⟨⟨notComponent, wireTop, fun logic => globalsTop (Or.inr logic)⟩,
      fun d inside => ⟨components d inside, wireInner d inside,
        fun logic => globalsInner d inside (Or.inr logic)⟩⟩
  · rintro ⟨⟨_, wireTop, globalsTop⟩, placed⟩
    refine ⟨fun d inside => (placed d inside).1,
      ⟨fun either => either.elim (absurd · notComponent) globalsTop,
        fun d inside either => either.elim (absurd · (placed d inside).1) (placed d inside).2.2⟩,
      wireTop, fun d inside => (placed d inside).2.1⟩

theorem fitsAtTop_component_iff {name : String} {body : List Decl}
    (formed : (Decl.component name body).WellFormed opOk false) :
    (Decl.component name body).FitsAtTop ↔ AdmissibleAll (name = globalName) body := by
  rw [WellFormed] at formed
  obtain ⟨valid, bodyFormed⟩ := formed
  have notRoot : name ≠ globalName := by
    rintro rfl
    have reserved : Keyword.isReserved globalName = true := by decide
    simp [ValidName, reserved] at valid
  rw [admissibleAll_iff _ body bodyFormed]
  simp only [FitsAtTop, Placed, inner, List.forall_mem_cons, IsComponent, IsLogic, NoPublicWire,
    true_or, forall_const, true_and, notRoot, imp_false]
  constructor
  · rintro ⟨components, ⟨globalsTop, globalsInner⟩, wireInner⟩ d inside
    exact ⟨components d inside, wireInner d inside, globalsTop d inside,
      fun logic => globalsInner d inside (Or.inr logic)⟩
  · intro placed
    exact ⟨fun d inside => (placed d inside).1,
      ⟨fun d inside => (placed d inside).2.2.1,
        fun d inside either => either.elim (absurd · (placed d inside).1) (placed d inside).2.2.2⟩,
      fun d inside => (placed d inside).2.1⟩

end

end Decl

namespace Engine

theorem mem_componentsOf {p : Program} {c : String × List Decl} :
    c ∈ componentsOf p ↔ Decl.component c.1 c.2 ∈ p.body := by
  unfold componentsOf
  rw [List.mem_filterMap]
  constructor
  · rintro ⟨d, member, found⟩
    cases d <;> simp only [Option.some.injEq, reduceCtorEq] at found
    subst found
    exact member
  · intro member
    exact ⟨_, member, rfl⟩

theorem mem_globalsOf {p : Program} {d : Decl} :
    d ∈ globalsOf p ↔ d ∈ p.body ∧ ¬d.IsComponent := by
  unfold globalsOf
  rw [List.mem_filter]
  cases d <;> simp [Decl.IsComponent]

theorem forall_mem_body {p : Program} {P : Decl → Prop} :
    (∀ d ∈ p.body, P d) ↔
      (∀ c ∈ componentsOf p, P (.component c.1 c.2)) ∧ ∀ d ∈ globalsOf p, P d := by
  constructor
  · intro all
    exact ⟨fun c member => all _ (mem_componentsOf.1 member),
      fun d member => all d (mem_globalsOf.1 member).1⟩
  · rintro ⟨components, globals⟩ d member
    by_cases component : d.IsComponent
    · cases d <;> simp only [Decl.IsComponent] at component
      exact components (_, _) (mem_componentsOf.2 member)
    · exact globals d (mem_globalsOf.2 ⟨member, component⟩)

end Engine

/-- What setting up an engine asks of a program: distinct component names; no component inside
another declaration, at any depth; no global block inside a component or a logic block; no
wire in a public section; and distinct names in every instance, the global one holding the
top-level declarations that are not components. -/
structure Program.Instantiable (p : Program) : Prop where
  componentsDistinct : ((Engine.componentsOf p).map (·.1)).Nodup
  componentsOnTop : ∀ d ∈ p.body, ∀ d' ∈ d.inner, ¬d'.IsComponent
  globalsOutsideBlocks :
    ∀ d ∈ Decl.innerAll p.body, d.IsComponent ∨ d.IsLogic → ∀ d' ∈ d.inner, ¬d'.IsGlobal
  noPublicWire : ∀ d ∈ Decl.innerAll p.body, d.NoPublicWire
  rootNamesDistinct : (Decl.names (Engine.globalsOf p)).Nodup
  componentNamesDistinct : ∀ c ∈ Engine.componentsOf p, (Decl.names c.2).Nodup

theorem Program.parse_formed {label : String} {ts : List Token} {p : Program}
    (parsed : Program.parse label ts = .ok p) : Decl.AllWellFormed (fun _ => True) false p.body := by
  unfold Program.parse at parsed
  split at parsed
  · rename_i body bodyRead
    cases parsed
    exact Parse.topDecls_wellFormed (fun _ _ _ => trivial) bodyRead
  · cases parsed

namespace Engine

theorem placement_iff {opOk : String → Prop} {p : Program}
    (formed : Decl.AllWellFormed opOk false p.body) :
    ((∀ d ∈ p.body, ∀ d' ∈ d.inner, ¬d'.IsComponent) ∧
      (∀ d ∈ Decl.innerAll p.body, d.IsComponent ∨ d.IsLogic → ∀ d' ∈ d.inner, ¬d'.IsGlobal) ∧
      (∀ d ∈ Decl.innerAll p.body, d.NoPublicWire)) ↔
    Decl.AdmissibleAll True (globalsOf p) ∧
      ∀ c ∈ componentsOf p, Decl.AdmissibleAll (c.1 = globalName) c.2 := by
  have formedEach := Decl.allWellFormed_iff.1 formed
  have rules : ((∀ d ∈ p.body, ∀ d' ∈ d.inner, ¬d'.IsComponent) ∧
      (∀ d ∈ Decl.innerAll p.body, d.IsComponent ∨ d.IsLogic → ∀ d' ∈ d.inner, ¬d'.IsGlobal) ∧
      (∀ d ∈ Decl.innerAll p.body, d.NoPublicWire)) ↔ ∀ top ∈ p.body, top.FitsAtTop := by
    simp only [Decl.FitsAtTop, List.forall_mem_cons, Decl.forall_mem_innerAll, imp_and, forall_and]
  rw [rules, forall_mem_body, Decl.admissibleAll_iff_forall, and_comm]
  refine and_congr (forall₂_congr fun top member => ?_) (forall₂_congr fun c member => ?_)
  · have standing := mem_globalsOf.1 member
    exact Decl.fitsAtTop_iff_admissible (formedEach top standing.1) standing.2
  · exact Decl.fitsAtTop_component_iff (formedEach _ (mem_componentsOf.1 member))

/-- A program the parser returns sets up an engine exactly when it is instantiable. The engine
then holds in the global instance exactly the nets of the top-level declarations that are not
components, in each component's instance exactly the nets of its body, each with the role its
declaration gives and undriven, and in every instance nets with distinct names: no name is
both an input and an output, or either and an internal net. -/
theorem build_ok_iff_instantiable {label : String} {ts : List Token} {p : Program}
    (parsed : Program.parse label ts = .ok p) (strict : Bool) :
    ((∃ e, (build p strict).1 = .ok e) ↔ p.Instantiable) ∧
      ∀ e, (build p strict).1 = .ok e →
        e.global.nets = Decl.netsAll (globalsOf p) ∧
        List.Forall₂ (fun inst c => inst.name = c.1 ∧ inst.nets = Decl.netsAll c.2) e.components
          (componentsOf p) ∧
        e.Distinct := by
  have placement := placement_iff (Program.parse_formed parsed)
  refine ⟨⟨fun ⟨e, built⟩ => ?_, fun instantiable => ?_⟩, fun e built => ?_⟩
  · obtain ⟨rootAdmissible, rootNames, distinct, bodies, _⟩ := (build_eq_ok p strict e).1 built
    obtain ⟨onTop, outside, noWire⟩ :=
      placement.2 ⟨rootAdmissible, fun c member => (bodies c member).1⟩
    exact ⟨distinct, onTop, outside, noWire, rootNames, fun c member => (bodies c member).2⟩
  · obtain ⟨rootAdmissible, componentsAdmissible⟩ := placement.1
      ⟨instantiable.componentsOnTop, instantiable.globalsOutsideBlocks, instantiable.noPublicWire⟩
    exact ⟨_, (build_eq_ok p strict _).2 ⟨rootAdmissible, instantiable.rootNamesDistinct,
      instantiable.componentsDistinct,
      fun c member => ⟨componentsAdmissible c member, instantiable.componentNamesDistinct c member⟩,
      rfl⟩⟩
  · have distinct := build_distinct built
    obtain ⟨_, _, _, _, rfl⟩ := (build_eq_ok p strict e).1 built
    refine ⟨rfl, ?_, distinct⟩
    rw [List.forall₂_map_left_iff]
    exact List.forall₂_same.2 fun c _ => ⟨rfl, rfl⟩

/-- The tokens of `logic core { a and b , }` parse to a program that sets up an engine exactly
when it is instantiable. -/
theorem core_logic_instantiable :
    Program.parse "demo" coreLogicTokens = .ok coreLogicProgram ∧
    ((∃ e, (build coreLogicProgram false).1 = .ok e) ↔ Program.Instantiable coreLogicProgram) :=
  ⟨coreLogic_parses, (build_ok_iff_instantiable coreLogic_parses false).1⟩

end Engine

end Circuitry
