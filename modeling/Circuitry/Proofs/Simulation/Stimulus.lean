import Circuitry.Proofs.Simulation.Combinational
import Mathlib.Data.List.Forall2

/-!
# Applying a stimulus

A stimulus maps instance names to maps from input names to levels. A listing of it names each
instance once and each input once under its instance (`Stimulus.Keyed`); `Engine.apply` walks a
listing in its order, setting inputs one at a time, and stops at the first name that addresses
no instance, or no input of its instance, keeping what it has set so far.

Beside it stands the closed form `Engine.stimulate`: every net of every instance takes the level
that the stimulus gives it (`Stimulus.levelAt`), if any, and keeps its own otherwise. The closed
form reads the stimulus only through membership, so every listing of one map gives the same
closed form (`Stimulus.Relists.levelAt`).

Main statement, `Engine.apply_order_free`: in an engine whose instances hold nets of distinct
names, as every state of a built engine does (`Engine.build_distinct`), applying a stimulus
succeeds iff each of its instance names addresses an instance and each input name under it names
an input there (`Stimulus.Fits`). On success it leaves exactly the closed form, so every other
listing of the same map gives the same result. Whether it succeeds or not, a net whose level
changed is an input that now holds the stimulus's level for it.
-/

namespace Circuitry

theorem find?_key_of_mem {α : Type} (key : α → String) {l : List α} {a : α}
    (distinct : (l.map key).Nodup) (member : a ∈ l) : l.find? (key · == key a) = some a := by
  obtain ⟨m, found⟩ := Option.isSome_iff_exists.1
    (List.find?_isSome.2 ⟨a, member, by simp⟩ : (l.find? (key · == key a)).isSome)
  have keyed : key m = key a := by simpa using List.find?_some found
  rw [found, List.inj_on_of_nodup_map distinct (List.mem_of_find?_eq_some found) member keyed]

namespace Net

theorem find?_of_mem {nets : List Net} {n : Net} (distinct : Distinct nets) (member : n ∈ nets) :
    find? nets n.name = some n :=
  find?_key_of_mem Net.name distinct member

end Net

namespace Instance

/-- A name of an input of the instance. -/
def IsInput (inst : Instance) (name : String) : Prop :=
  ∃ n ∈ inst.nets, n.name = name ∧ n.role = .input

def stimulate (inst : Instance) (level : String → Option Level) : Instance :=
  { inst with
    nets := inst.nets.map fun n =>
      match level n.name with
      | some l => { n with level := l }
      | none => n }

theorem isInput_iff_mem_plan {inst : Instance} {name : String} :
    inst.IsInput name ↔ (name, Role.input) ∈ inst.nets.map fun n => (n.name, n.role) := by
  simp only [IsInput, List.mem_map, Prod.mk.injEq]

theorem IsInput.of_layout {a b : Instance} (same : a.layout = b.layout) {name : String}
    (input : b.IsInput name) : a.IsInput name := by
  simp only [layout, Prod.mk.injEq] at same
  rw [isInput_iff_mem_plan, same.2.1]
  exact isInput_iff_mem_plan.1 input

theorem stimulate_layout (inst : Instance) (level : String → Option Level) :
    (inst.stimulate level).layout = inst.layout := by
  simp only [stimulate, layout, List.map_map, Prod.mk.injEq, and_true, true_and]
  apply List.map_congr_left
  intro n _
  simp only [Function.comp_apply]
  split <;> rfl

@[simp] theorem stimulate_none (inst : Instance) : inst.stimulate (fun _ => none) = inst := by
  simp [stimulate]

theorem stimulate_stimulate (inst : Instance) (first later : String → Option Level) :
    (inst.stimulate first).stimulate later = inst.stimulate fun x => (later x).or (first x) := by
  simp only [stimulate, List.map_map, mk.injEq, true_and, and_true]
  apply List.map_congr_left
  intro n _
  cases h₁ : first n.name <;> cases h₂ : later n.name <;> simp [h₁, h₂]

theorem setNet_eq_stimulate (inst : Instance) (name : String) (level : Level) :
    inst.setNet name level = inst.stimulate fun x => if x = name then some level else none := by
  simp only [setNet, Net.set, stimulate, mk.injEq, true_and, and_true]
  apply List.map_congr_left
  intro n _
  by_cases named : n.name = name <;> simp [named]

theorem setNet_layout (inst : Instance) (name : String) (level : Level) :
    (inst.setNet name level).layout = inst.layout := by
  rw [setNet_eq_stimulate, stimulate_layout]

theorem isInput_of_find? {inst : Instance} {name : String} {n : Net}
    (located : Net.find? inst.nets name = some n) (role : n.role = .input) : inst.IsInput name := by
  have named : n.name = name := by simpa using List.find?_some located
  exact ⟨n, List.mem_of_find?_eq_some located, named, role⟩

theorem setNet_stimulate_lookup (inst : Instance) {name : String} {level : Level}
    {more : List (String × Level)} (fresh : name ∉ more.map (·.1)) :
    (inst.setNet name level).stimulate (more.lookup ·) =
      inst.stimulate (((name, level) :: more).lookup ·) := by
  rw [setNet_eq_stimulate, stimulate_stimulate]
  congr 1
  funext x
  by_cases same : x = name
  · subst same
    have absent : more.lookup x = none :=
      List.lookup_eq_none_iff.2 fun p member => by
        simpa using fun named : x = p.1 => fresh (named ▸ List.mem_map_of_mem member)
    simp [absent]
  · simp [same, List.lookup_cons, beq_false_of_ne same]

theorem distinct_of_layout {a b : Instance} (same : a.layout = b.layout) (distinct : Net.Distinct b.nets) :
    Net.Distinct a.nets := by
  simp only [layout, Prod.mk.injEq] at same
  have names : a.nets.map (·.name) = b.nets.map (·.name) := by
    simpa [Function.comp_def] using congrArg (List.map Prod.fst) same.2.1
  unfold Net.Distinct
  rw [names]
  exact distinct

theorem setInput_of_isInput {inst : Instance} (distinct : Net.Distinct inst.nets) {name : String}
    (input : inst.IsInput name) (level : Level) :
    inst.setInput name level = .ok (inst.setNet name level) := by
  obtain ⟨n, member, rfl, role⟩ := input
  unfold setInput
  rw [Net.find?_of_mem distinct member]
  simp [role]

end Instance

namespace Engine

theorem setInputs_inputs {inst next : Instance} {inputs : List (String × Level)}
    (set : (setInputs inst inputs).1 = .ok next) : ∀ p ∈ inputs, inst.IsInput p.1 := by
  induction inputs generalizing inst with
  | nil => exact fun _ absent => absurd absent List.not_mem_nil
  | cons input more ih =>
    obtain ⟨name, level⟩ := input
    cases setting : inst.setInput name level with
    | error f => simp [setInputs, setting] at set
    | ok next₀ =>
      obtain ⟨n, located, role, rfl⟩ := Instance.setInput_eq_ok setting
      rw [setInputs, setting] at set
      intro p member
      rcases List.mem_cons.1 member with rfl | later
      · exact Instance.isInput_of_find? located role
      · exact (ih set p later).of_layout (Instance.setNet_layout inst name level).symm

theorem setInputs_of_inputs {inst : Instance} (distinct : Net.Distinct inst.nets)
    {inputs : List (String × Level)} (keyed : (inputs.map (·.1)).Nodup)
    (exist : ∀ p ∈ inputs, inst.IsInput p.1) :
    setInputs inst inputs = (.ok (inst.stimulate (inputs.lookup ·)), inst.stimulate (inputs.lookup ·)) := by
  induction inputs generalizing inst with
  | nil => simp [setInputs]
  | cons input more ih =>
    obtain ⟨name, level⟩ := input
    have laid := Instance.setNet_layout inst name level
    have distinct' : Net.Distinct (inst.setNet name level).nets := Instance.distinct_of_layout laid distinct
    rw [List.map_cons, List.nodup_cons] at keyed
    rw [setInputs, Instance.setInput_of_isInput distinct (exist _ (List.mem_cons_self ..)) level]
    dsimp only
    rw [ih distinct' keyed.2 fun p member => (exist p (List.mem_cons_of_mem _ member)).of_layout laid,
      Instance.setNet_stimulate_lookup inst keyed.1]

theorem setInputs_prefix (inst : Instance) (inputs : List (String × Level))
    (keyed : (inputs.map (·.1)).Nodup) :
    ∃ k, (setInputs inst inputs).2 = inst.stimulate ((inputs.take k).lookup ·) ∧
      ∀ p ∈ inputs.take k, inst.IsInput p.1 := by
  induction inputs generalizing inst with
  | nil => exact ⟨0, by simp [setInputs], fun _ absent => absurd absent List.not_mem_nil⟩
  | cons input more ih =>
    obtain ⟨name, level⟩ := input
    rw [List.map_cons, List.nodup_cons] at keyed
    cases setting : inst.setInput name level with
    | error f =>
      exact ⟨0, by simp [setInputs, setting], fun _ absent => absurd absent List.not_mem_nil⟩
    | ok next =>
      obtain ⟨n, located, role, rfl⟩ := Instance.setInput_eq_ok setting
      obtain ⟨k, after, exist⟩ := ih (inst.setNet name level) keyed.2
      have fresh : name ∉ (more.take k).map (·.1) := fun member =>
        keyed.1 ((List.take_sublist k more).map _ |>.subset member)
      refine ⟨k + 1, ?_, ?_⟩
      · rw [setInputs, setting]
        dsimp only
        rw [after, List.take_succ_cons, Instance.setNet_stimulate_lookup inst fresh]
      · intro p member
        rw [List.take_succ_cons] at member
        rcases List.mem_cons.1 member with rfl | later
        · exact Instance.isInput_of_find? located role
        · exact (exist p later).of_layout (Instance.setNet_layout inst name level).symm

theorem slot?_of_layout {e e' : Engine} (same : e'.layout = e.layout) (name : String) :
    e'.slot? name = e.slot? name := by
  simp only [layout, Prod.mk.injEq] at same
  have found : e'.components.findIdx? (·.name == name) = e.components.findIdx? (·.name == name) := by
    have := congrArg (List.findIdx? fun l => l.1 == name) same.1
    simpa [List.findIdx?_map, Function.comp_def, Instance.layout] using this
  simp only [slot?, found]

theorem slot?_inj {e : Engine} {a b : String} {t : Slot} (first : e.slot? a = some t)
    (second : e.slot? b = some t) : a = b := by
  unfold slot? at first second
  by_cases ga : a = globalName <;> by_cases gb : b = globalName
  · exact ga.trans gb.symm
  · simp only [ga, gb, if_true, if_false, Option.some.injEq] at first second
    subst first
    simp at second
  · simp only [ga, gb, if_true, if_false, Option.some.injEq] at first second
    subst second
    simp at first
  · simp only [ga, gb, if_false, Option.map_eq_some_iff] at first second
    obtain ⟨i, foundA, rfl⟩ := first
    obtain ⟨j, foundB, same⟩ := second
    cases same
    obtain ⟨bound, namedA, _⟩ := List.findIdx?_eq_some_iff_getElem.1 foundA
    obtain ⟨_, namedB, _⟩ := List.findIdx?_eq_some_iff_getElem.1 foundB
    simp only [beq_iff_eq] at namedA namedB
    exact namedA.symm.trans namedB

theorem eq_of_at? {a b : Engine} (strict : a.strict = b.strict) (slots : ∀ t, a.at? t = b.at? t) :
    a = b := by
  cases a
  cases b
  simp only [mk.injEq]
  exact ⟨List.ext_getElem? fun i => slots (.component i), Option.some.inj (slots .global), strict⟩

theorem put_strict (e : Engine) (t : Slot) (inst : Instance) : (e.put t inst).strict = e.strict := by
  cases t <;> rfl

end Engine

namespace Stimulus

/-- A listing of a map of maps: no instance is named twice, and no input twice under one
instance. -/
def Keyed (s : Stimulus) : Prop :=
  (s.map (·.1)).Nodup ∧ ∀ entry ∈ s, (entry.2.map (·.1)).Nodup

/-- Every name of the stimulus exists in the engine: each instance name addresses an instance,
and each input name under it names an input of that instance. -/
def Fits (s : Stimulus) (e : Engine) : Prop :=
  ∀ entry ∈ s, ∃ inst, e.instance? entry.1 = some inst ∧ ∀ input ∈ entry.2, inst.IsInput input.1

def levelAt (s : Stimulus) (e : Engine) (t : Engine.Slot) (name : String) : Option Level :=
  s.findSome? fun entry => if e.slot? entry.1 = some t then entry.2.lookup name else none

/-- Every level that `part` gives a net, the stimulus `s` gives it too. -/
def Within (part s : Stimulus) (e : Engine) : Prop :=
  ∀ t name level, part.levelAt e t name = some level → s.levelAt e t name = some level

/-- Two entries for one instance with the same inputs and levels, in any order. -/
def SameEntry (a b : String × List (String × Level)) : Prop := a.1 = b.1 ∧ a.2.Perm b.2

/-- `s'` lists the same map of maps as `s`: the same instances with the same inputs and levels,
in any order of the instances and of the inputs under each. -/
def Relists (s s' : Stimulus) : Prop :=
  ∃ mid : Stimulus, List.Forall₂ SameEntry s mid ∧ mid.Perm s'

theorem Keyed.tail {entry : String × List (String × Level)} {rest : Stimulus}
    (keyed : Keyed (entry :: rest)) : Keyed rest :=
  ⟨(List.nodup_cons.1 keyed.1).2, fun e member => keyed.2 e (List.mem_cons_of_mem _ member)⟩

theorem levelAt_nil (e : Engine) (t : Engine.Slot) : levelAt [] e t = fun _ => none := rfl

theorem levelAt_cons (e : Engine) (c : String) (inputs : List (String × Level)) (rest : Stimulus)
    (t : Engine.Slot) (name : String) :
    levelAt ((c, inputs) :: rest) e t name =
      (if e.slot? c = some t then inputs.lookup name else none).or (rest.levelAt e t name) := by
  unfold levelAt
  rw [List.findSome?_cons]
  dsimp only
  cases (if e.slot? c = some t then inputs.lookup name else none) <;> rfl

theorem levelAt_of_layout {e e' : Engine} (same : e'.layout = e.layout) (s : Stimulus) :
    s.levelAt e' = s.levelAt e := by
  funext t name
  simp only [levelAt, Engine.slot?_of_layout same]

theorem Fits.of_layout {s : Stimulus} {e e' : Engine} (fits : s.Fits e) (same : e'.layout = e.layout) :
    s.Fits e' := by
  intro entry member
  obtain ⟨inst, addressed, exist⟩ := fits entry member
  obtain ⟨t, slotted, taken⟩ := Option.bind_eq_some_iff.1 addressed
  have agree := Engine.layout_at? same t
  rw [taken, Option.map_some] at agree
  obtain ⟨inst', taken', laid⟩ := Option.map_eq_some_iff.1 agree
  refine ⟨inst', ?_, fun input mem => (exist input mem).of_layout laid⟩
  simp [Engine.instance?, Engine.slot?_of_layout same, slotted, taken']

theorem levelAt_rest {e : Engine} {c : String} {inputs : List (String × Level)} {rest : Stimulus}
    (keyed : Keyed ((c, inputs) :: rest)) {t : Engine.Slot} (addressed : e.slot? c = some t)
    (name : String) : rest.levelAt e t name = none := by
  unfold levelAt
  rw [List.findSome?_eq_none_iff]
  intro entry member
  rw [if_neg]
  intro slotted
  have named : entry.1 ∈ rest.map (·.1) := List.mem_map_of_mem member
  rw [Engine.slot?_inj slotted addressed] at named
  exact (List.nodup_cons.1 keyed.1).1 named

theorem exists_of_levelAt {s : Stimulus} {e : Engine} {t : Engine.Slot} {name : String} {level : Level}
    (given : s.levelAt e t name = some level) :
    ∃ c inputs, (c, inputs) ∈ s ∧ e.slot? c = some t ∧ (name, level) ∈ inputs := by
  obtain ⟨⟨c, inputs⟩, member, hit⟩ := List.exists_of_findSome?_eq_some given
  dsimp only at hit
  split at hit
  · rename_i addressed
    refine ⟨c, inputs, member, addressed, ?_⟩
    obtain ⟨l₁, l₂, parts, _⟩ := List.lookup_eq_some_iff.1 hit
    rw [parts]
    simp
  · cases hit

theorem lookup_of_mem {inputs : List (String × Level)} (keyed : (inputs.map (·.1)).Nodup)
    {name : String} {level : Level} (member : (name, level) ∈ inputs) :
    inputs.lookup name = some level := by
  induction inputs with
  | nil => exact absurd member List.not_mem_nil
  | cons input more ih =>
    obtain ⟨key, value⟩ := input
    rw [List.map_cons, List.nodup_cons] at keyed
    rcases List.mem_cons.1 member with same | later
    · cases same
      simp
    · have other : name ≠ key := by
        intro same
        have named : (name, level).1 ∈ more.map (·.1) := List.mem_map_of_mem later
        dsimp only at named
        rw [same] at named
        exact keyed.1 named
      simp [List.lookup_cons, beq_false_of_ne other, ih keyed.2 later]

theorem levelAt_of_mem {s : Stimulus} (keyed : s.Keyed) {e : Engine} {c : String}
    {inputs : List (String × Level)} (member : (c, inputs) ∈ s) {t : Engine.Slot}
    (addressed : e.slot? c = some t) {name : String} {level : Level} (set : (name, level) ∈ inputs) :
    s.levelAt e t name = some level := by
  induction s with
  | nil => exact absurd member List.not_mem_nil
  | cons entry rest ih =>
    obtain ⟨c', inputs'⟩ := entry
    rw [levelAt_cons]
    rcases List.mem_cons.1 member with same | later
    · cases same
      simp [addressed, lookup_of_mem (keyed.2 _ (List.mem_cons_self ..)) set]
    · by_cases hit : e.slot? c' = some t
      · have named : (c, inputs).1 ∈ rest.map (·.1) := List.mem_map_of_mem later
        rw [← Engine.slot?_inj hit addressed] at named
        exact absurd named (List.nodup_cons.1 keyed.1).1
      · rw [if_neg hit, Option.none_or]
        exact ih keyed.tail later

theorem sameEntries_keys {s mid : Stimulus} (pairs : List.Forall₂ SameEntry s mid) :
    mid.map (·.1) = s.map (·.1) := by
  induction pairs with
  | nil => rfl
  | cons same _ ih => simp [same.1, ih]

theorem sameEntries_mem_left {s mid : Stimulus} (pairs : List.Forall₂ SameEntry s mid)
    {a : String × List (String × Level)} (member : a ∈ s) : ∃ b ∈ mid, SameEntry a b := by
  induction pairs with
  | nil => exact absurd member List.not_mem_nil
  | cons same _ ih =>
    rcases List.mem_cons.1 member with rfl | later
    · exact ⟨_, List.mem_cons_self .., same⟩
    · obtain ⟨b, inMid, pair⟩ := ih later
      exact ⟨b, List.mem_cons_of_mem _ inMid, pair⟩

theorem sameEntries_mem_right {s mid : Stimulus} (pairs : List.Forall₂ SameEntry s mid)
    {b : String × List (String × Level)} (member : b ∈ mid) : ∃ a ∈ s, SameEntry a b := by
  induction pairs with
  | nil => exact absurd member List.not_mem_nil
  | cons same _ ih =>
    rcases List.mem_cons.1 member with rfl | later
    · exact ⟨_, List.mem_cons_self .., same⟩
    · obtain ⟨a, inS, pair⟩ := ih later
      exact ⟨a, List.mem_cons_of_mem _ inS, pair⟩

theorem Relists.keyed {s s' : Stimulus} (keyed : s.Keyed) (relists : s.Relists s') : s'.Keyed := by
  obtain ⟨mid, pairs, moved⟩ := relists
  refine ⟨(moved.map _).nodup_iff.1 (sameEntries_keys pairs ▸ keyed.1), fun b member => ?_⟩
  obtain ⟨a, inS, same⟩ := sameEntries_mem_right pairs (moved.symm.subset member)
  exact (same.2.map _).nodup_iff.1 (keyed.2 a inS)

theorem Relists.fits {s s' : Stimulus} {e : Engine} (fits : s.Fits e) (relists : s.Relists s') :
    s'.Fits e := by
  obtain ⟨mid, pairs, moved⟩ := relists
  intro b member
  obtain ⟨a, inS, same⟩ := sameEntries_mem_right pairs (moved.symm.subset member)
  obtain ⟨inst, addressed, exist⟩ := fits a inS
  exact ⟨inst, same.1 ▸ addressed, fun input inB => exist input (same.2.symm.subset inB)⟩

theorem Relists.levelAt {s s' : Stimulus} (keyed : s.Keyed) (relists : s.Relists s') (e : Engine) :
    s'.levelAt e = s.levelAt e := by
  have keyed' := relists.keyed keyed
  obtain ⟨mid, pairs, moved⟩ := relists
  funext t name
  apply Option.ext
  intro level
  constructor
  · intro given
    obtain ⟨c, inputs, member, addressed, set⟩ := exists_of_levelAt given
    obtain ⟨a, inS, same⟩ := sameEntries_mem_right pairs (moved.symm.subset member)
    obtain ⟨c', inputs'⟩ := a
    obtain ⟨rfl, perm⟩ := same
    exact levelAt_of_mem keyed inS addressed (perm.symm.subset set)
  · intro given
    obtain ⟨c, inputs, member, addressed, set⟩ := exists_of_levelAt given
    obtain ⟨b, inMid, same⟩ := sameEntries_mem_left pairs member
    obtain ⟨c', inputs'⟩ := b
    obtain ⟨rfl, perm⟩ := same
    exact levelAt_of_mem keyed' (moved.subset inMid) addressed (perm.subset set)

theorem Within.nil (s : Stimulus) (e : Engine) : Within [] s e :=
  fun _ _ _ given => absurd given (by simp [levelAt_nil])

theorem Within.of_layout {part s : Stimulus} {e e' : Engine} (within : part.Within s e')
    (same : e'.layout = e.layout) : part.Within s e := by
  unfold Within at *
  rwa [levelAt_of_layout same, levelAt_of_layout same] at within

theorem Within.cons {e : Engine} {c : String} {inputs some : List (String × Level)} {part rest : Stimulus}
    (keyed : Keyed ((c, inputs) :: rest))
    (fewer : ∀ name level, some.lookup name = .some level → inputs.lookup name = .some level)
    (within : part.Within rest e) : Within ((c, some) :: part) ((c, inputs) :: rest) e := by
  intro t name level given
  rw [levelAt_cons] at given ⊢
  by_cases hit : e.slot? c = .some t
  · rw [if_pos hit] at given ⊢
    rw [levelAt_rest keyed hit, Option.or_none]
    cases first : some.lookup name with
    | some l =>
      rw [first, Option.some_or] at given
      rw [← given]
      exact fewer name l first
    | none =>
      rw [first, Option.none_or] at given
      have later := within t name level given
      rw [levelAt_rest keyed hit] at later
      cases later
  · rw [if_neg hit, Option.none_or] at given ⊢
    exact within t name level given

theorem lookup_take {inputs : List (String × Level)} {k : Nat} {name : String} {level : Level}
    (found : (inputs.take k).lookup name = some level) : inputs.lookup name = some level := by
  obtain ⟨l₁, l₂, parts, before⟩ := List.lookup_eq_some_iff.1 found
  rw [List.lookup_eq_some_iff]
  refine ⟨l₁, l₂ ++ inputs.drop k, ?_, before⟩
  calc inputs = inputs.take k ++ inputs.drop k := (List.take_append_drop k inputs).symm
    _ = l₁ ++ (name, level) :: (l₂ ++ inputs.drop k) := by
      rw [parts, List.append_assoc, List.cons_append]

end Stimulus

namespace Engine

def stimulate (e : Engine) (s : Stimulus) : Engine :=
  { e with
    components := e.components.mapIdx fun i inst => inst.stimulate (s.levelAt e (.component i))
    global := e.global.stimulate (s.levelAt e .global) }

theorem at?_stimulate (e : Engine) (s : Stimulus) (t : Slot) :
    (e.stimulate s).at? t = (e.at? t).map (·.stimulate (s.levelAt e t)) := by
  cases t with
  | global => rfl
  | component i => simp [stimulate, at?, List.getElem?_mapIdx]

@[simp] theorem stimulate_strict (e : Engine) (s : Stimulus) : (e.stimulate s).strict = e.strict := rfl

theorem stimulate_nil (e : Engine) : e.stimulate [] = e := by
  apply eq_of_at? (stimulate_strict e [])
  intro t
  rw [at?_stimulate]
  rw [Stimulus.levelAt_nil]
  cases e.at? t <;> simp

theorem stimulate_cons {e : Engine} {c : String} {t : Slot} {inst : Instance}
    (inputs : List (String × Level)) {rest : Stimulus} (addressed : e.slot? c = some t)
    (taken : e.at? t = some inst) (alone : ∀ name, rest.levelAt e t name = none) :
    (e.put t (inst.stimulate (inputs.lookup ·))).stimulate rest = e.stimulate ((c, inputs) :: rest) := by
  have laid : (e.put t (inst.stimulate (inputs.lookup ·))).layout = e.layout :=
    put_layout taken (Instance.stimulate_layout inst _)
  apply eq_of_at? (by simp [put_strict])
  intro t'
  rw [at?_stimulate, at?_stimulate, Stimulus.levelAt_of_layout laid]
  by_cases same : t' = t
  · subst same
    rw [at?_put_self _ _ _ (by simp [taken]), taken, Option.map_some, Option.map_some,
      Instance.stimulate_stimulate]
    congr 2
    funext name
    simp [alone name, Stimulus.levelAt_cons, addressed]
  · have other : e.slot? c ≠ some t' := by
      rw [addressed]
      exact fun equal => same (Option.some.inj equal).symm
    have levels : Stimulus.levelAt ((c, inputs) :: rest) e t' = rest.levelAt e t' := by
      funext name
      simp [Stimulus.levelAt_cons, other]
    rw [at?_put_of_ne _ _ (Ne.symm same), levels]

theorem apply_of_fits {e : Engine} (distinct : e.Distinct) {s : Stimulus} (keyed : s.Keyed)
    (fits : s.Fits e) : e.apply s = (.ok (), e.stimulate s) := by
  induction s generalizing e with
  | nil => simp [Engine.apply, stimulate_nil]
  | cons entry rest ih =>
    obtain ⟨c, inputs⟩ := entry
    obtain ⟨inst, addressed, exist⟩ := fits (c, inputs) (List.mem_cons_self ..)
    obtain ⟨t, slotted, taken⟩ := Option.bind_eq_some_iff.1 addressed
    have laid : (e.put t (inst.stimulate (inputs.lookup ·))).layout = e.layout :=
      put_layout taken (Instance.stimulate_layout inst _)
    have set := setInputs_of_inputs (distinct t inst taken) (keyed.2 _ (List.mem_cons_self ..)) exist
    have restFits : Stimulus.Fits rest e := fun entry member => fits entry (List.mem_cons_of_mem _ member)
    simp only [Engine.apply, slotted, taken, set]
    rw [ih (Distinct.of_layout laid distinct) keyed.tail (restFits.of_layout laid),
      stimulate_cons inputs slotted taken (Stimulus.levelAt_rest keyed slotted)]

theorem fits_of_apply {e : Engine} {s : Stimulus} (done : (e.apply s).1 = .ok ()) : s.Fits e := by
  induction s generalizing e with
  | nil => exact fun _ absent => absurd absent List.not_mem_nil
  | cons entry rest ih =>
    obtain ⟨c, inputs⟩ := entry
    cases slotted : e.slot? c with
    | none => simp [Engine.apply, slotted] at done
    | some t =>
      cases taken : e.at? t with
      | none => simp [Engine.apply, slotted, taken] at done
      | some inst =>
        cases setting : setInputs inst inputs with
        | mk result after =>
          cases result with
          | error f => simp [Engine.apply, slotted, taken, setting] at done
          | ok next =>
            simp only [Engine.apply, slotted, taken, setting] at done
            have set : (setInputs inst inputs).1 = .ok next := by rw [setting]
            have laid : (e.put t next).layout = e.layout :=
              put_layout taken ((setInputs_layout inst inputs).1 next set)
            intro entry member
            rcases List.mem_cons.1 member with rfl | later
            · exact ⟨inst, Option.bind_eq_some_iff.2 ⟨t, slotted, taken⟩, setInputs_inputs set⟩
            · exact (ih done).of_layout laid.symm entry later

theorem apply_part {e : Engine} (distinct : e.Distinct) {s : Stimulus} (keyed : s.Keyed) :
    ∃ part : Stimulus, part.Fits e ∧ part.Within s e ∧ (e.apply s).2 = e.stimulate part := by
  induction s generalizing e with
  | nil =>
    exact ⟨[], fun _ absent => absurd absent List.not_mem_nil, Stimulus.Within.nil [] e,
      by simp [Engine.apply, stimulate_nil]⟩
  | cons entry rest ih =>
    obtain ⟨c, inputs⟩ := entry
    have untouched : ∃ part : Stimulus, part.Fits e ∧ part.Within ((c, inputs) :: rest) e ∧
        e = e.stimulate part :=
      ⟨[], fun _ absent => absurd absent List.not_mem_nil, Stimulus.Within.nil _ e,
        (stimulate_nil e).symm⟩
    cases slotted : e.slot? c with
    | none => simpa [Engine.apply, slotted] using untouched
    | some t =>
      cases taken : e.at? t with
      | none => simpa [Engine.apply, slotted, taken] using untouched
      | some inst =>
        have keyedHead := keyed.2 _ (List.mem_cons_self ..)
        have addressed : e.instance? c = some inst := Option.bind_eq_some_iff.2 ⟨t, slotted, taken⟩
        cases setting : setInputs inst inputs with
        | mk result after =>
          cases result with
          | error f =>
            obtain ⟨k, halfway, exist⟩ := setInputs_prefix inst inputs keyedHead
            rw [setting] at halfway
            dsimp only at halfway
            refine ⟨[(c, inputs.take k)], ?_,
              Stimulus.Within.cons keyed (fun _ _ => Stimulus.lookup_take) (Stimulus.Within.nil _ e), ?_⟩
            · intro entry member
              rw [List.mem_singleton] at member
              subst member
              exact ⟨inst, addressed, exist⟩
            · simp only [Engine.apply, slotted, taken, setting]
              rw [halfway, ← stimulate_cons _ slotted taken (fun _ => rfl), stimulate_nil]
          | ok next =>
            have exist := setInputs_inputs (show (setInputs inst inputs).1 = .ok next by rw [setting])
            have set := setInputs_of_inputs (distinct t inst taken) keyedHead exist
            have laid : (e.put t (inst.stimulate (inputs.lookup ·))).layout = e.layout :=
              put_layout taken (Instance.stimulate_layout inst _)
            obtain ⟨part, fits, within, state⟩ := ih (Distinct.of_layout laid distinct) keyed.tail
            have within' := within.of_layout laid
            have alone : ∀ name, part.levelAt e t name = none := by
              intro name
              cases given : part.levelAt e t name with
              | none => rfl
              | some level =>
                have later := within' t name level given
                rw [Stimulus.levelAt_rest keyed slotted] at later
                cases later
            refine ⟨(c, inputs) :: part, ?_, Stimulus.Within.cons keyed (fun _ _ found => found) within', ?_⟩
            · intro entry member
              rcases List.mem_cons.1 member with rfl | later
              · exact ⟨inst, addressed, exist⟩
              · exact fits.of_layout laid.symm entry later
            · simp only [Engine.apply, slotted, taken, set]
              rw [state, stimulate_cons inputs slotted taken alone]

theorem stimulate_sets_inputs {e : Engine} (distinct : e.Distinct) {part s : Stimulus}
    (fits : part.Fits e) (within : part.Within s e) {t : Slot} {inst inst' : Instance}
    (taken : e.at? t = some inst) (after : (e.stimulate part).at? t = some inst') :
    List.Forall₂ (fun n n' => n'.name = n.name ∧ n'.role = n.role ∧
      (n'.level = n.level ∨ (n.role = .input ∧ s.levelAt e t n.name = some n'.level)))
      inst.nets inst'.nets := by
  rw [at?_stimulate, taken, Option.map_some, Option.some.injEq] at after
  subst after
  rw [Instance.stimulate, List.forall₂_map_right_iff, List.forall₂_same]
  intro n member
  cases given : part.levelAt e t n.name with
  | none => exact ⟨rfl, rfl, .inl rfl⟩
  | some level =>
    obtain ⟨c, inputs, entry, addressed, set⟩ := Stimulus.exists_of_levelAt given
    obtain ⟨inst₀, located, exist⟩ := fits (c, inputs) entry
    have same : inst₀ = inst := by
      rw [Engine.instance?, addressed, Option.bind_some, taken] at located
      exact (Option.some.inj located).symm
    subst same
    obtain ⟨m, inNets, named, role⟩ := exist (n.name, level) set
    obtain rfl : m = n := List.inj_on_of_nodup_map (distinct t inst₀ taken) inNets member named
    exact ⟨rfl, rfl, .inr ⟨role, within t _ level given⟩⟩

/-- Applying a stimulus does not depend on the order its maps are walked in. In an engine whose
instances hold nets of distinct names (every state of a built engine), a keyed stimulus is
applied in full iff each of its instance names addresses an instance and each input name under
it names an input there. It then leaves exactly the engine with those inputs set to their
levels, and every other listing of the same map of maps gives the same result. Whether it
succeeds or stops at a name, every net keeps its name and role, and a net whose level changed
is an input that now holds the level the stimulus gives it. -/
theorem apply_order_free {e : Engine} (distinct : e.Distinct) {s : Stimulus} (keyed : s.Keyed) :
    ((e.apply s).1 = .ok () ↔ s.Fits e) ∧
      ((e.apply s).1 = .ok () →
        (e.apply s).2 = e.stimulate s ∧ ∀ s', s.Relists s' → e.apply s' = e.apply s) ∧
      ∀ t inst inst', e.at? t = some inst → (e.apply s).2.at? t = some inst' →
        List.Forall₂ (fun n n' => n'.name = n.name ∧ n'.role = n.role ∧
          (n'.level = n.level ∨ (n.role = .input ∧ s.levelAt e t n.name = some n'.level)))
          inst.nets inst'.nets := by
  have succeeds : (e.apply s).1 = .ok () ↔ s.Fits e :=
    ⟨fits_of_apply, fun fits => by rw [apply_of_fits distinct keyed fits]⟩
  refine ⟨succeeds, fun done => ?_, fun t inst inst' taken after => ?_⟩
  · have fits := succeeds.1 done
    refine ⟨by rw [apply_of_fits distinct keyed fits], fun s' relists => ?_⟩
    have same : e.stimulate s' = e.stimulate s := by
      simp only [stimulate, relists.levelAt keyed e]
    rw [apply_of_fits distinct (relists.keyed keyed) (relists.fits fits),
      apply_of_fits distinct keyed fits, same]
  · obtain ⟨part, fits, within, state⟩ := apply_part distinct keyed
    rw [state] at after
    exact stimulate_sets_inputs distinct fits within taken after

/-- A component `C` with input `a` beside a global instance with input `g`. -/
def twoInputs : Engine :=
  ⟨[⟨"C", [⟨"a", .input, .z⟩, ⟨"y", .output, .z⟩], [], []⟩], ⟨globalName, [⟨"g", .input, .z⟩], [], []⟩, false⟩

def twoInputsStimulus : Stimulus := [("C", [("a", .high)]), (globalName, [("g", .low)])]

/-- One stimulus sets a component input and a global input: the hypotheses hold, so applying it
is order free. -/
theorem two_inputs_stimulus_order_free :
    twoInputs.Distinct ∧ twoInputsStimulus.Keyed ∧
      ((twoInputs.apply twoInputsStimulus).1 = .ok () ↔ twoInputsStimulus.Fits twoInputs) ∧
      ((twoInputs.apply twoInputsStimulus).1 = .ok () →
        (twoInputs.apply twoInputsStimulus).2 = twoInputs.stimulate twoInputsStimulus ∧
          ∀ s', twoInputsStimulus.Relists s' → twoInputs.apply s' = twoInputs.apply twoInputsStimulus) ∧
      ∀ t inst inst', twoInputs.at? t = some inst → (twoInputs.apply twoInputsStimulus).2.at? t = some inst' →
        List.Forall₂ (fun n n' => n'.name = n.name ∧ n'.role = n.role ∧
          (n'.level = n.level ∨ (n.role = .input ∧ twoInputsStimulus.levelAt twoInputs t n.name = some n'.level)))
          inst.nets inst'.nets := by
  have distinct : twoInputs.Distinct := by
    intro t inst taken
    cases t with
    | global =>
      simp only [twoInputs, at?, Option.some.injEq] at taken
      subst taken
      simp [Net.Distinct]
    | component i =>
      rcases i with _ | i
      · simp only [twoInputs, at?, List.getElem?_cons_zero, Option.some.injEq] at taken
        subst taken
        simp [Net.Distinct]
      · simp [twoInputs, at?] at taken
  have keyed : twoInputsStimulus.Keyed := by simp [twoInputsStimulus, Stimulus.Keyed, globalName]
  exact ⟨distinct, keyed, apply_order_free distinct keyed⟩

end Engine

end Circuitry
