import Circuitry.Simulation.Instance

/-!
# Evaluating an instance

One pass over an instance's pipelines. An expression evaluates to a bundle of levels: a net
to its level, a numeral to its level, an array to the concatenation of its elements, a gate
to the gate applied lane by lane (a one-lane operand is spread over every lane), a
connection `source => targets` to the levels it drives into its targets, in order. A name that
is not a net runs the logic block of that name (the instance's own blocks first, then the
program's shared ones); running a block evaluates its expression items and nested pipelines
in order, and its value is the last non-empty bundle among its items.

A block that is already running is not entered again: that is a recursion fault. Every nested
run adds its name to the running set, which only names that the scope holds can join, so the
number of scope names not yet running decreases at each nesting and bounds the depth; every
other step goes to a smaller piece of syntax. That pair is the measure of the recursion.

Evaluation stops at the first fault and keeps the levels written so far. Each function
returns its result, the nets after it and the writes it made, in order.
-/

namespace Circuitry

abbrev Bundle := List Level

def Bundle.pick (b : Bundle) (i : Nat) : Level :=
  match b with
  | [one] => one
  | _ => b.getD i .z

/-- Where names are looked up during evaluation: the instance's name, its own logic blocks
and the shared logic blocks of the program. -/
structure Scope where
  component : String
  own : List LogicBlock
  shared : List LogicBlock

namespace Scope

def lookup (sc : Scope) (name : String) : Option (List Decl) :=
  match sc.own.find? (·.name == name) with
  | some b => some b.body
  | none => (sc.shared.find? (·.name == name)).map (·.body)

def names (sc : Scope) : List String := sc.own.map (·.name) ++ sc.shared.map (·.name)

def pending (sc : Scope) (active : List String) : Nat :=
  (sc.names.filter fun n => !active.contains n).length

theorem mem_names_of_lookup {sc : Scope} {name : String} {body : List Decl}
    (found : sc.lookup name = some body) : name ∈ sc.names := by
  unfold lookup at found
  unfold names
  split at found
  · rename_i b hb
    have named := List.find?_some hb
    simp only [beq_iff_eq] at named
    exact List.mem_append_left _ (List.mem_map.2 ⟨b, List.mem_of_find?_eq_some hb, named⟩)
  · obtain ⟨b, hb, _⟩ := Option.map_eq_some_iff.1 found
    have named := List.find?_some hb
    simp only [beq_iff_eq] at named
    exact List.mem_append_right _ (List.mem_map.2 ⟨b, List.mem_of_find?_eq_some hb, named⟩)

theorem length_filter_le_of_imp {l : List String} {p q : String → Bool}
    (stronger : ∀ y, q y = true → p y = true) : (l.filter q).length ≤ (l.filter p).length := by
  induction l with
  | nil => simp
  | cons y ys ih =>
    by_cases hq : q y = true
    · simp [hq, stronger y hq]
      omega
    · by_cases hp : p y = true
      · simp [hq, hp]
        omega
      · simp [hq, hp]
        omega

theorem length_filter_lt {l : List String} {p q : String → Bool} {x : String}
    (stronger : ∀ y, q y = true → p y = true) (hx : x ∈ l) (px : p x = true) (qx : q x = false) :
    (l.filter q).length < (l.filter p).length := by
  induction l with
  | nil => simp at hx
  | cons y ys ih =>
    have le : (ys.filter q).length ≤ (ys.filter p).length := length_filter_le_of_imp stronger
    rcases List.mem_cons.1 hx with same | later
    · subst same
      simp [px, qx]
      omega
    · have lt := ih later
      by_cases hq : q y = true
      · simp [hq, stronger y hq]
        omega
      · by_cases hp : p y = true
        · simp [hq, hp]
          omega
        · simp [hq, hp]
          omega

theorem pending_lt {sc : Scope} {active : List String} {name : String} {body : List Decl}
    (found : sc.lookup name = some body) (idle : active.contains name = false) :
    sc.pending (name :: active) < sc.pending active := by
  unfold pending
  apply length_filter_lt _ (mem_names_of_lookup found)
  · simpa using idle
  · simp
  · intro y hy
    simp only [List.contains_cons, Bool.not_or, Bool.and_eq_true] at hy
    exact hy.2

end Scope

/-- An outcome of evaluation: the result (a value or the fault that stopped it), the nets
after it, and the writes it made in order. -/
structure Outcome (α : Type) where
  result : Except CircuitFault α
  nets : List Net
  writes : List (String × Level)

namespace Outcome

def pure (a : α) (nets : List Net) : Outcome α := ⟨.ok a, nets, []⟩

def fail (f : CircuitFault) (nets : List Net) : Outcome α := ⟨.error f, nets, []⟩

def andThen (o : Outcome α) (k : α → List Net → Outcome β) : Outcome β :=
  match o.result with
  | .ok a =>
    let next := k a o.nets
    ⟨next.result, next.nets, o.writes ++ next.writes⟩
  | .error f => ⟨.error f, o.nets, o.writes⟩

end Outcome

/-- The targets of a connection: outputs and internal nets by name, arrays flattened in order.
An input, a logic block, an undeclared name or any other expression cannot be driven. -/
def connectionTargets (sc : Scope) (nets : List Net) : Expr → Except CircuitFault (List String)
  | .name n =>
    match Net.find? nets n with
    | some net =>
      if net.role = .input then .error (.connection sc.component (.driveInput n)) else .ok [n]
    | none =>
      if (sc.lookup n).isSome then .error (.connection sc.component (.driveLogic n))
      else .error (.reference sc.component n .undeclared)
  | .array items => arrayTargets items
  | e => .error (.connection sc.component (.driveExpr e))
where
  /-- The targets of the elements of an array, concatenated. -/
  arrayTargets : List Expr → Except CircuitFault (List String)
    | [] => .ok []
    | x :: xs => do
      let first ← connectionTargets sc nets x
      let more ← arrayTargets xs
      return first ++ more

def gateLanes (component op : String) (g : Gate) (lhs rhs : Bundle) :
    Except CircuitFault Bundle :=
  if lhs.isEmpty || rhs.isEmpty then .error (.connection component (.emptyOperand op))
  else if lhs.length != rhs.length && lhs.length != 1 && rhs.length != 1 then
    .error (.connection component (.widths op lhs.length rhs.length))
  else .ok ((List.range (max lhs.length rhs.length)).map fun i => g.apply (lhs.pick i) (rhs.pick i))

def drive (source : Bundle) (targets : List String) (nets : List Net) :
    Bundle × List Net × List (String × Level) :=
  let writes := targets.zipIdx.map fun (t, i) => (t, source.pick i)
  (writes.map (·.2), Net.replay nets writes, writes)

/-- Connects a source bundle to targets, when the widths fit. -/
def connectLanes (component : String) (source : Bundle) (targets : List String)
    (nets : List Net) : Outcome Bundle :=
  if source.isEmpty then .fail (.connection component .emptySource) nets
  else if targets.isEmpty then .fail (.connection component .emptyTarget) nets
  else if source.length != 1 && source.length != targets.length then
    .fail (.connection component (.mismatch source.length targets.length)) nets
  else
    let (driven, after, writes) := drive source targets nets
    ⟨.ok driven, after, writes⟩

mutual

/-- The bundle an expression evaluates to in operand position. -/
def value (sc : Scope) (active : List String) (e : Expr) (nets : List Net) : Outcome Bundle :=
  match e with
  | .name n =>
    match Net.find? nets n with
    | some net => .pure [net.level] nets
    | none =>
      match found : sc.lookup n with
      | some body =>
        (runLogic sc active n body found nets).andThen fun v after =>
          if v.isEmpty then .fail (.reference sc.component n .noValue) after else .pure v after
      | none => .fail (.reference sc.component n .undeclared) nets
  | .numeral digits => .pure [Level.ofNumeral digits] nets
  | .array items => values sc active items nets
  | .binary op lhs rhs =>
    if op = connectWord then
      (value sc active lhs nets).andThen fun source after =>
        match connectionTargets sc after rhs with
        | .ok targets => connectLanes sc.component source targets after
        | .error f => .fail f after
    else
      match Gate.ofWord? op with
      | some g =>
        (value sc active lhs nets).andThen fun l after =>
          (value sc active rhs after).andThen fun r after2 =>
            match gateLanes sc.component op g l r with
            | .ok out => .pure out after2
            | .error f => .fail f after2
      | none => .fail (.connection sc.component (.unknownOperator op)) nets
termination_by (sc.pending active, sizeOf e)

def values (sc : Scope) (active : List String) (items : List Expr) (nets : List Net) :
    Outcome Bundle :=
  match items with
  | [] => .pure [] nets
  | x :: xs =>
    (value sc active x nets).andThen fun v after =>
      (values sc active xs after).andThen fun vs after2 => .pure (v ++ vs) after2
termination_by (sc.pending active, sizeOf items)

/-- Runs the logic block `name` with body `body`, unless it is already running. -/
def runLogic (sc : Scope) (active : List String) (name : String) (body : List Decl)
    (found : sc.lookup name = some body) (nets : List Net) : Outcome Bundle :=
  if idle : active.contains name = false then
    have _fewer := Scope.pending_lt found idle
    runBody sc (name :: active) body [] nets
  else .fail (.reference sc.component name .recursive) nets
termination_by (sc.pending active, 0)

/-- Runs the items of a logic block's body in order: expression items and pipelines; other
declarations are skipped. The value is the last non-empty bundle of an expression item, or
`last` when none follows. -/
def runBody (sc : Scope) (active : List String) (body : List Decl) (last : Bundle)
    (nets : List Net) : Outcome Bundle :=
  match body with
  | [] => .pure last nets
  | .expression root :: rest =>
    (bodyItem sc active root nets).andThen fun v after =>
      runBody sc active rest (if v.isEmpty then last else v) after
  | .pipeline items :: rest =>
    (pipeline sc active items nets).andThen fun _ after => runBody sc active rest last after
  | _ :: rest => runBody sc active rest last nets
termination_by (sc.pending active, sizeOf body)

/-- An expression item of a logic block: a name that is not a net but a logic block runs that
block, whose value may be empty; anything else is evaluated as an operand. -/
def bodyItem (sc : Scope) (active : List String) (e : Expr) (nets : List Net) : Outcome Bundle :=
  match e with
  | .name n =>
    match Net.find? nets n with
    | some net => .pure [net.level] nets
    | none =>
      match found : sc.lookup n with
      | some body => runLogic sc active n body found nets
      | none => .fail (.reference sc.component n .undeclared) nets
  | other => value sc active other nets
termination_by (sc.pending active, sizeOf e + 1)

/-- The items of a pipeline in order: a bare name runs the logic block of that name (it must
be one), any other item is evaluated as an operand. -/
def pipeline (sc : Scope) (active : List String) (items : List Expr) (nets : List Net) :
    Outcome Unit :=
  match items with
  | [] => .pure () nets
  | .name n :: rest =>
    match found : sc.lookup n with
    | some body =>
      (runLogic sc active n body found nets).andThen fun _ after => pipeline sc active rest after
    | none => .fail (.reference sc.component n .notLogicBlock) nets
  | x :: rest =>
    (value sc active x nets).andThen fun _ after => pipeline sc active rest after
termination_by (sc.pending active, sizeOf items)

end

/-- What happened during a pass, in order: a pipeline began (its index and number of items),
or a net was driven to a level. -/
inductive PassEvent
  | pipelineStart (index items : Nat)
  | driven (net : String) (level : Level)
deriving DecidableEq, Repr

/-- One pass over pipelines numbered from `index`, each starting with no block running. -/
def passFrom (sc : Scope) (index : Nat) (pipelines : List (List Expr)) (nets : List Net) :
    Except CircuitFault Unit × List Net × List PassEvent :=
  match pipelines with
  | [] => (.ok (), nets, [])
  | items :: rest =>
    let o := pipeline sc [] items nets
    let events := PassEvent.pipelineStart index items.length :: o.writes.map fun w => .driven w.1 w.2
    match o.result with
    | .ok _ =>
      let (result, after, more) := passFrom sc (index + 1) rest o.nets
      (result, after, events ++ more)
    | .error f => (.error f, o.nets, events)

/-- Evaluates an instance once, with the program's shared logic blocks: the result, the
instance after it (partly evaluated when a fault stopped it) and what happened. -/
def Instance.evaluate (inst : Instance) (shared : List LogicBlock) :
    Except CircuitFault Unit × Instance × List PassEvent :=
  let (result, nets, events) := passFrom ⟨inst.name, inst.logic, shared⟩ 0 inst.pipelines inst.nets
  (result, { inst with nets := nets }, events)

end Circuitry
