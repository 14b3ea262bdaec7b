import Mathlib.Data.List.Chain
import Mathlib.Data.List.Forall2
import Circuitry.Proofs.Simulation.Trace

/-!
# Chained connections

A connection `s => T` evaluates its source `s`, drives the nets its target tree `T` names, lane
`j` into the `j`-th name, and evaluates to the levels it drove. In a chain `s => T₁ => … => Tₙ`,
grouped to the left, the source of each connection is the connection before it, so each target
list is driven with the bundle driven into the list before: a one-lane bundle spreads over every
target, a wider bundle must be as wide as the targets.

Main statement: `chain_drives`. For target trees naming nets that can be driven, no name twice
over the whole chain, and a source with lanes, the chain succeeds exactly when each bundle fits
the list after it; then lane `j` of the `i`-th list holds the source's first lane when the source
or an earlier list has one lane, and the source's lane `j` otherwise, and the chain evaluates to
the bundle driven into its last list. A name listed twice in one list is driven twice and keeps
the later lane (`repeated_target_keeps_last_lane`).
-/

namespace Circuitry

/-! ### Chains, target trees and widths -/

def Expr.connectChain (s : Expr) (targets : List Expr) : Expr :=
  targets.foldl (fun acc T => .binary connectWord acc T) s

theorem Expr.connectChain_cons (s T : Expr) (Ts : List Expr) :
    s.connectChain (T :: Ts) = (Expr.binary connectWord s T).connectChain Ts := rfl

mutual

/-- The names a target tree lists, flattened in order: a tree is a name or a non-empty array of
trees, as the parser reads them; `none` for any other expression. -/
def Expr.targetNames? : Expr → Option (List String)
  | .name n => some [n]
  | .array items => if items.isEmpty then none else Expr.targetNamesAll? items
  | _ => none

/-- The names the target trees of a list list, flattened in order. -/
def Expr.targetNamesAll? : List Expr → Option (List String)
  | [] => some []
  | x :: xs =>
    match x.targetNames?, Expr.targetNamesAll? xs with
    | some a, some b => some (a ++ b)
    | _, _ => none

end

/-- `t` names a net that a connection can drive: an output or a private net. -/
def Net.Targetable (nets : List Net) (t : String) : Prop :=
  ∃ net, Net.find? nets t = some net ∧ net.role ≠ .input

/-- A bundle of `source` lanes can drive `targets` targets: it has one lane, or as many. -/
def WidthFits (source targets : Nat) : Prop := source = 1 ∨ source = targets

instance : DecidableRel WidthFits := fun _ _ => inferInstanceAs (Decidable (_ ∨ _))

def chainLane (v : Bundle) (widths : List Nat) (i j : Nat) : Level :=
  if v.length = 1 ∨ 1 ∈ widths.take i then v.getD 0 .z else v.getD j .z

def relay (v : Bundle) : List Nat → Bundle
  | [] => v
  | w :: ws => relay ((List.range w).map v.pick) ws

/-! ### Lanes -/

theorem Bundle.pick_eq (b : Bundle) (j : Nat) :
    b.pick j = if b.length = 1 then b.getD 0 .z else b.getD j .z := by
  unfold Bundle.pick
  split
  · simp
  · rename_i notOne
    rw [if_neg]
    intro single
    obtain ⟨one, rfl⟩ := List.length_eq_one_iff.1 single
    exact notOne one rfl

theorem Bundle.pick_zero (b : Bundle) : b.pick 0 = b.getD 0 .z := by
  rw [Bundle.pick_eq, ite_self]

theorem getD_map_range {f : Nat → Level} {w j : Nat} (lane : j < w) :
    ((List.range w).map f).getD j .z = f j := by
  simp [lane]

theorem width_eq_of_isChain {w u : Nat} :
    ∀ {ws : List Nat} {i : Nat}, List.IsChain WidthFits (w :: ws) → w ≠ 1 → 1 ∉ ws.take i →
      ws[i]? = some u → u = w
  | [], _, _, _, _, at_i => by simp at at_i
  | w' :: ws, 0, chain, wide, _, at_i => by
    obtain ⟨fits, _⟩ := List.isChain_cons_cons.1 chain
    cases at_i
    exact (Or.resolve_left fits wide).symm
  | w' :: ws, i + 1, chain, wide, early, at_i => by
    obtain ⟨fits, rest⟩ := List.isChain_cons_cons.1 chain
    rw [List.take_succ_cons, List.mem_cons, not_or] at early
    have same : w = w' := Or.resolve_left fits wide
    subst same
    exact width_eq_of_isChain rest wide early.2 at_i

theorem chainLane_spread {v : Bundle} {w : Nat} {ws : List Nat} {i j u : Nat}
    (chain : List.IsChain WidthFits (w :: ws)) (lanes : 0 < w) (at_i : ws[i]? = some u) (lane : j < u) :
    chainLane ((List.range w).map v.pick) ws i j = chainLane v (w :: ws) (i + 1) j := by
  unfold chainLane
  rw [List.length_map, List.length_range, List.take_succ_cons]
  by_cases early : w = 1 ∨ 1 ∈ ws.take i
  · have reached : v.length = 1 ∨ 1 ∈ w :: ws.take i := by
      rcases early with single | found
      · exact .inr (by rw [single]; exact List.mem_cons_self)
      · exact .inr (List.mem_cons_of_mem _ found)
    rw [if_pos early, if_pos reached, getD_map_range lanes, Bundle.pick_zero]
  · rw [not_or] at early
    -- no earlier width is one, so the widths are all `w` up to list `i`
    have same : u = w := width_eq_of_isChain chain early.1 early.2 at_i
    rw [if_neg (not_or.2 early), getD_map_range (same ▸ lane), Bundle.pick_eq]
    by_cases single : v.length = 1
    · rw [if_pos single, if_pos (.inl single)]
    · have unreached : ¬(v.length = 1 ∨ 1 ∈ w :: ws.take i) := by
        rintro (one | found)
        · exact single one
        · rcases List.mem_cons.1 found with first | later
          · exact early.1 first.symm
          · exact early.2 later
      rw [if_neg single, if_neg unreached]

theorem relay_take :
    ∀ {v : Bundle} {widths : List Nat} {i u : Nat}, List.IsChain WidthFits (v.length :: widths) →
      (∀ w ∈ widths, 0 < w) → widths[i]? = some u →
      relay v (widths.take (i + 1)) = (List.range u).map (chainLane v widths i)
  | _, [], _, _, _, _, at_i => by simp at at_i
  | v, w :: ws, 0, u, _, _, at_i => by
    cases at_i
    rw [List.take_succ_cons, List.take_zero, relay, relay]
    refine List.map_congr_left fun j _ => ?_
    rw [chainLane, List.take_zero, Bundle.pick_eq]
    simp only [List.not_mem_nil, or_false]
  | v, w :: ws, i + 1, u, chain, positive, at_i => by
    obtain ⟨_, rest⟩ := List.isChain_cons_cons.1 chain
    have lanes : 0 < w := positive w List.mem_cons_self
    rw [List.take_succ_cons, relay]
    have spread : ((List.range w).map v.pick).length = w := by rw [List.length_map, List.length_range]
    rw [relay_take (v := (List.range w).map v.pick) (by rw [spread]; exact rest)
      (fun w' member => positive w' (List.mem_cons_of_mem _ member)) at_i]
    exact List.map_congr_left fun j member => chainLane_spread rest lanes at_i (List.mem_range.1 member)

/-! ### Target trees -/

mutual

theorem Expr.targetNames?_ne_nil : (T : Expr) → ∀ {ts : List String}, T.targetNames? = some ts → ts ≠ []
  | .name n, ts, tree => by
    cases tree
    exact List.cons_ne_nil n []
  | .array items, ts, tree => by
    rw [Expr.targetNames?] at tree
    split at tree
    · cases tree
    · rename_i filled
      exact Expr.targetNamesAll?_ne_nil items (by simpa using filled) tree
  | .numeral _, ts, tree => by
    simp [Expr.targetNames?] at tree
  | .binary _ _ _, ts, tree => by
    simp [Expr.targetNames?] at tree

theorem Expr.targetNamesAll?_ne_nil : (items : List Expr) → items ≠ [] → ∀ {ts : List String},
    Expr.targetNamesAll? items = some ts → ts ≠ []
  | [], filled, _, _ => absurd rfl filled
  | x :: xs, _, ts, tree => by
    rw [Expr.targetNamesAll?] at tree
    split at tree
    · rename_i a b first _
      cases tree
      exact List.append_ne_nil_of_left_ne_nil (Expr.targetNames?_ne_nil x first) b
    · cases tree

end

mutual

theorem connectionTargets_tree (sc : Scope) (nets : List Net) :
    (T : Expr) → ∀ {ts : List String}, T.targetNames? = some ts → (∀ t ∈ ts, Net.Targetable nets t) →
      connectionTargets sc nets T = .ok ts
  | .name n, ts, tree, targetable => by
    cases tree
    obtain ⟨net, located, driveable⟩ := targetable n List.mem_cons_self
    rw [connectionTargets, located]
    exact if_neg driveable
  | .array items, ts, tree, targetable => by
    rw [Expr.targetNames?] at tree
    split at tree
    · cases tree
    · rw [connectionTargets]
      exact arrayTargets_tree sc nets items tree targetable
  | .numeral _, ts, tree, _ => by
    simp [Expr.targetNames?] at tree
  | .binary _ _ _, ts, tree, _ => by
    simp [Expr.targetNames?] at tree

theorem arrayTargets_tree (sc : Scope) (nets : List Net) :
    (items : List Expr) → ∀ {ts : List String}, Expr.targetNamesAll? items = some ts →
      (∀ t ∈ ts, Net.Targetable nets t) → connectionTargets.arrayTargets sc nets items = .ok ts
  | [], ts, tree, _ => by
    cases tree
    rfl
  | x :: xs, ts, tree, targetable => by
    rw [Expr.targetNamesAll?] at tree
    split at tree
    · rename_i a b first more
      cases tree
      rw [connectionTargets.arrayTargets,
        connectionTargets_tree sc nets x first fun t member => targetable t (List.mem_append_left b member),
        arrayTargets_tree sc nets xs more fun t member => targetable t (List.mem_append_right a member)]
      rfl
    · cases tree

end

theorem widths_pos_of_trees {Ts : List Expr} {L : List (List String)}
    (trees : List.Forall₂ (fun T ts => T.targetNames? = some ts) Ts L) : ∀ w ∈ L.map List.length, 0 < w := by
  intro w member
  obtain ⟨ts, named, rfl⟩ := List.mem_map.1 member
  induction trees with
  | nil => exact absurd named List.not_mem_nil
  | @cons T ts' _ _ tree _ ih =>
    rcases List.mem_cons.1 named with rfl | later
    · exact List.length_pos_iff.2 (Expr.targetNames?_ne_nil T tree)
    · exact ih later (List.mem_map_of_mem later)

/-! ### Driving nets -/

theorem Net.Targetable.of_agreeOff {dirty : List String} {a b : List Net} {t : String}
    (targetable : Net.Targetable a t) (agree : Net.AgreeOff dirty a b) : Net.Targetable b t := by
  obtain ⟨net, located, driveable⟩ := targetable
  obtain ⟨net', located', pair⟩ := agree.any.find?_some located
  exact ⟨net', located', by rw [pair.2.1]; exact driveable⟩

theorem Net.find?_set_self (nets : List Net) (t : String) (l : Level) :
    Net.find? (Net.set nets t l) t = (Net.find? nets t).map fun n => { n with level := l } := by
  induction nets with
  | nil => rfl
  | cons n rest ih =>
    unfold Net.find? Net.set at *
    rw [List.map_cons, List.find?_cons, List.find?_cons]
    by_cases named : n.name = t
    · have hit : (n.name == t) = true := beq_iff_eq.2 named
      rw [if_pos hit]
      dsimp only
      rw [hit]
      rfl
    · have miss : (n.name == t) = false := by simpa using named
      rw [if_neg (by simp [miss]), miss]
      exact ih

theorem Net.find?_set_other {nets : List Net} {n t : String} (l : Level) (other : n ≠ t) :
    Net.find? (Net.set nets n l) t = Net.find? nets t :=
  ((Net.AgreeOff.refl [] nets).set_right n l).find?_eq (by simpa using other.symm)

theorem Net.replay_cons (nets : List Net) (w : String × Level) (rest : List (String × Level)) :
    Net.replay nets (w :: rest) = Net.replay (Net.set nets w.1 w.2) rest := rfl

theorem Net.find?_replay_written {nets : List Net} {ws : List (String × Level)} {t : String} {l : Level}
    (distinct : (ws.map (·.1)).Nodup) (written : (t, l) ∈ ws) (present : ∃ net, Net.find? nets t = some net) :
    (Net.find? (Net.replay nets ws) t).map (·.level) = some l := by
  induction ws generalizing nets with
  | nil => exact absurd written List.not_mem_nil
  | cons w rest ih =>
    rw [List.map_cons, List.nodup_cons] at distinct
    rw [Net.replay_cons]
    obtain ⟨net, located⟩ := present
    rcases List.mem_cons.1 written with first | later
    · -- the only write to `t`: no later write changes it
      subst first
      have clean : t ∉ rest.map (·.1) ++ [] := by simpa using distinct.1
      rw [((Net.AgreeOff.refl [] (Net.set nets t l)).replay_right rest).find?_eq clean,
        Net.find?_set_self, located]
      rfl
    · refine ih distinct.2 later ?_
      by_cases same : w.1 = t
      · rw [same, Net.find?_set_self, located]
        exact ⟨_, rfl⟩
      · rw [Net.find?_set_other _ same]
        exact ⟨net, located⟩

theorem drive_names (source : Bundle) (targets : List String) (nets : List Net) :
    (drive source targets nets).2.2.map (·.1) = targets := by
  simp only [drive, List.map_map]
  conv => rhs; rw [← List.zipIdx_map_fst 0 targets]
  rfl

theorem drive_driven (source : Bundle) (targets : List String) (nets : List Net) :
    (drive source targets nets).1 = (List.range targets.length).map source.pick := by
  apply List.ext_getElem
  · simp [drive]
  · intro j _ _
    simp [drive]

theorem drive_writes_mem {source : Bundle} {targets : List String} {nets : List Net} {j : Nat} {t : String}
    (at_j : targets[j]? = some t) : (t, source.pick j) ∈ (drive source targets nets).2.2 := by
  simp only [drive]
  exact List.mem_map.2 ⟨(t, j), List.mem_zipIdx_iff_getElem?.2 at_j, rfl⟩

/-! ### Evaluating a chain -/

section Chains

variable (sc : Scope) (active : List String) (nets : List Net)

theorem value_connect {s T : Expr} {v : Bundle} {ts : List String}
    (source : (value sc active s nets).result = .ok v) (lanes : v ≠ [])
    (tree : T.targetNames? = some ts) (targetable : ∀ t ∈ ts, Net.Targetable nets t) :
    (WidthFits v.length ts.length →
      (value sc active (.binary connectWord s T) nets).result = .ok ((List.range ts.length).map v.pick) ∧
      (value sc active (.binary connectWord s T) nets).nets =
        Net.replay (value sc active s nets).nets (drive v ts (value sc active s nets).nets).2.2) ∧
    (¬WidthFits v.length ts.length → ∃ f, (value sc active (.binary connectWord s T) nets).result = .error f) := by
  have resolved : connectionTargets sc (value sc active s nets).nets T = .ok ts :=
    connectionTargets_tree sc _ T tree fun t member =>
      (targetable t member).of_agreeOff ((evaluation_confined sc).1 active s nets)
  have someTarget : ts ≠ [] := Expr.targetNames?_ne_nil T tree
  rw [value.eq_4, if_pos rfl, Outcome.andThen_of_ok source]
  dsimp only
  rw [resolved]
  dsimp only
  unfold connectLanes
  rw [if_neg (by simpa using lanes), if_neg (by simpa using someTarget)]
  constructor
  · intro fits
    rw [if_neg (by simpa [WidthFits, or_iff_not_imp_left] using fits)]
    exact ⟨congrArg Except.ok (drive_driven v ts _), rfl⟩
  · intro misfit
    rw [if_pos (by simpa [WidthFits, not_or] using misfit)]
    exact ⟨_, rfl⟩

theorem value_chain_error {f : CircuitFault} :
    ∀ (Ts : List Expr) {s : Expr}, (value sc active s nets).result = .error f →
      (value sc active (s.connectChain Ts) nets).result = .error f
  | [], _, failed => failed
  | T :: Ts, s, failed => by
    rw [Expr.connectChain_cons]
    refine value_chain_error Ts ?_
    rw [value.eq_4, if_pos rfl, Outcome.andThen_of_error failed]

theorem chain_relay :
    ∀ (Ts : List Expr) (L : List (List String)) (s : Expr) (v : Bundle),
      List.Forall₂ (fun T ts => T.targetNames? = some ts) Ts L →
      (∀ ts ∈ L, ∀ t ∈ ts, Net.Targetable nets t) → L.flatten.Nodup →
      (value sc active s nets).result = .ok v → v ≠ [] →
      (List.IsChain WidthFits (v.length :: L.map List.length) →
        (value sc active (s.connectChain Ts) nets).result = .ok (relay v (L.map List.length)) ∧
        Net.AgreeOff L.flatten (value sc active s nets).nets (value sc active (s.connectChain Ts) nets).nets ∧
        ∀ i ts j t, L[i]? = some ts → ts[j]? = some t →
          (Net.find? (value sc active (s.connectChain Ts) nets).nets t).map (·.level) =
            some ((relay v ((L.map List.length).take (i + 1))).getD j .z)) ∧
      (¬List.IsChain WidthFits (v.length :: L.map List.length) →
        ∃ f, (value sc active (s.connectChain Ts) nets).result = .error f) := by
  intro Ts
  induction Ts with
  | nil =>
    intro L s v trees _ _ source _
    cases trees
    refine ⟨fun _ => ⟨source, Net.AgreeOff.refl _ _, fun i ts j t named _ => ?_⟩,
      fun broken => absurd (List.isChain_singleton _) broken⟩
    simp at named
  | cons T Ts ih =>
    intro L s v trees targetable distinct source lanes
    cases trees with
    | @cons _ ts _ L tree rest =>
    rw [List.flatten_cons, List.nodup_append] at distinct
    have here : ∀ t ∈ ts, Net.Targetable nets t := targetable ts List.mem_cons_self
    have later : ∀ ts' ∈ L, ∀ t ∈ ts', Net.Targetable nets t :=
      fun ts' member => targetable ts' (List.mem_cons_of_mem _ member)
    have connected := value_connect sc active nets source lanes tree here
    rw [Expr.connectChain_cons, List.map_cons, List.isChain_cons_cons, List.flatten_cons]
    by_cases fits : WidthFits v.length ts.length
    · obtain ⟨driven, written⟩ := connected.1 fits
      have spread : (List.range ts.length).map v.pick ≠ [] := by
        simpa using Expr.targetNames?_ne_nil T tree
      obtain ⟨succeeds, fails⟩ := ih L _ _ rest later distinct.2.1 driven spread
      rw [List.length_map, List.length_range] at succeeds fails
      refine ⟨fun chain => ?_, fun broken => fails fun chain => broken ⟨fits, chain⟩⟩
      obtain ⟨result, agree, lanesAfter⟩ := succeeds chain.2
      have first : Net.AgreeOff ts (value sc active s nets).nets
          (value sc active (.binary connectWord s T) nets).nets := by
        have replayed := (Net.AgreeOff.refl [] (value sc active s nets).nets).replay_right
          (drive v ts (value sc active s nets).nets).2.2
        rwa [drive_names, List.append_nil, ← written] at replayed
      refine ⟨result, first.trans agree, fun i ts' j t named at_j => ?_⟩
      cases i with
      | zero =>
        cases named
        have member : t ∈ ts := List.mem_of_getElem? at_j
        have clean : t ∉ L.flatten := fun inLater => distinct.2.2 t member t inLater rfl
        obtain ⟨net, located, _⟩ := (here t member).of_agreeOff ((evaluation_confined sc).1 active s nets)
        rw [agree.find?_eq clean, written,
          Net.find?_replay_written (by rw [drive_names]; exact distinct.1) (drive_writes_mem at_j) ⟨net, located⟩]
        have lane : j < ts.length := (List.getElem?_eq_some_iff.1 at_j).1
        simp only [List.take_succ_cons, List.take_zero, relay, getD_map_range lane]
      | succ i => exact lanesAfter i ts' j t named at_j
    · obtain ⟨f, failed⟩ := connected.2 fits
      exact ⟨fun chain => absurd chain.1 fits, fun _ => ⟨f, value_chain_error sc active nets Ts failed⟩⟩

/-- Chained connections propagate the driven bundle. For every scope, running blocks and nets,
and every chain `s => T₁ => … => Tₙ` whose target trees list the names `L ++ [Ln]` of nets a
connection can drive, no name twice over the whole chain, from a source that evaluates to a
bundle `v` with lanes: the chain succeeds exactly when `v` fits the first list and each list
fits the next; and then it evaluates to the bundle driven into the last list, and the `j`-th
name of the `i`-th list ends at `chainLane v widths i j`. -/
theorem chain_drives {s Tn : Expr} {Ts : List Expr} {L : List (List String)} {Ln : List String}
    {v : Bundle} (source : (value sc active s nets).result = .ok v) (lanes : v ≠ [])
    (trees : List.Forall₂ (fun T ts => T.targetNames? = some ts) Ts L) (lastTree : Tn.targetNames? = some Ln)
    (targetable : ∀ ts ∈ L ++ [Ln], ∀ t ∈ ts, Net.Targetable nets t)
    (distinct : (L ++ [Ln]).flatten.Nodup) :
    ((∃ out, (value sc active (s.connectChain (Ts ++ [Tn])) nets).result = .ok out) ↔
        List.IsChain WidthFits (v.length :: (L ++ [Ln]).map List.length)) ∧
      (List.IsChain WidthFits (v.length :: (L ++ [Ln]).map List.length) →
        (value sc active (s.connectChain (Ts ++ [Tn])) nets).result =
            .ok ((List.range Ln.length).map (chainLane v ((L ++ [Ln]).map List.length) L.length)) ∧
          ∀ i ts j t, (L ++ [Ln])[i]? = some ts → ts[j]? = some t →
            (Net.find? (value sc active (s.connectChain (Ts ++ [Tn])) nets).nets t).map (·.level) =
              some (chainLane v ((L ++ [Ln]).map List.length) i j)) := by
  have allTrees : List.Forall₂ (fun T ts => T.targetNames? = some ts) (Ts ++ [Tn]) (L ++ [Ln]) :=
    List.rel_append trees (.cons lastTree .nil)
  obtain ⟨succeeds, fails⟩ :=
    chain_relay sc active nets (Ts ++ [Tn]) (L ++ [Ln]) s v allTrees targetable distinct source lanes
  have driven : ∀ i ts, (L ++ [Ln])[i]? = some ts →
      List.IsChain WidthFits (v.length :: (L ++ [Ln]).map List.length) →
      relay v (((L ++ [Ln]).map List.length).take (i + 1)) =
        (List.range ts.length).map (chainLane v ((L ++ [Ln]).map List.length) i) :=
    fun i ts named chain =>
      relay_take chain (widths_pos_of_trees allTrees) (by rw [List.getElem?_map, named]; rfl)
  refine ⟨⟨fun ⟨out, done⟩ => ?_, fun chain => ⟨_, (succeeds chain).1⟩⟩,
    fun chain => ⟨?_, fun i ts j t named at_j => ?_⟩⟩
  · by_contra broken
    obtain ⟨f, failed⟩ := fails broken
    rw [done] at failed
    cases failed
  · have whole : ((L ++ [Ln]).map List.length).take (L.length + 1) = (L ++ [Ln]).map List.length :=
      List.take_of_length_le (by simp)
    rw [(succeeds chain).1, ← driven L.length Ln (by simp) chain, whole]
  · rw [(succeeds chain).2.2 i ts j t named at_j, driven i ts named chain,
      getD_map_range (List.getElem?_eq_some_iff.1 at_j).1]

end Chains

/-- `[a, b] => [x, y] => [p, q]`. -/
def pairChain : Expr :=
  (Expr.array [.name "a", .name "b"]).connectChain [.array [.name "x", .name "y"], .array [.name "p", .name "q"]]

/-- `a` low, `b` high, and the targets of `pairChain` undriven. -/
def pairNets : List Net :=
  [⟨"a", .input, .low⟩, ⟨"b", .input, .high⟩, ⟨"x", .output, .z⟩, ⟨"y", .output, .z⟩, ⟨"p", .internal, .z⟩,
    ⟨"q", .internal, .z⟩]

/-- The chain drives `p` and `q` with the lanes of `[a, b]`. -/
theorem pair_chain_drives :
    (value ⟨"C", [], []⟩ [] pairChain pairNets).result = .ok [.low, .high] ∧
      (Net.find? (value ⟨"C", [], []⟩ [] pairChain pairNets).nets "q").map (·.level) = some .high := by
  have drives := chain_drives ⟨"C", [], []⟩ [] pairNets
    (s := .array [.name "a", .name "b"]) (v := [.low, .high])
    (by simp [pairNets, value, values, Outcome.pure, Outcome.andThen, Net.find?]) (by simp)
    (.cons (show (Expr.array [.name "x", .name "y"]).targetNames? = some ["x", "y"] from rfl) .nil)
    (show (Expr.array [.name "p", .name "q"]).targetNames? = some ["p", "q"] from rfl)
    (by simp [pairNets, Net.Targetable, Net.find?]) (by decide)
  obtain ⟨result, levels⟩ := drives.2 (by decide)
  exact ⟨result.trans (congrArg Except.ok (by decide)), (levels 1 ["p", "q"] 1 "q" rfl rfl).trans (by decide)⟩

/-- `[a, b] => [x, x]`, a name listed twice in one target list. -/
def repeatedChain : Expr := (Expr.array [.name "a", .name "b"]).connectChain [.array [.name "x", .name "x"]]

def repeatedNets : List Net := [⟨"a", .input, .low⟩, ⟨"b", .input, .high⟩, ⟨"x", .output, .z⟩]

/-- The name is driven twice and keeps the later lane: from `a` low and `b` high the chain
succeeds and leaves `x` high, although `x` is also the list's first name, whose lane is `a`'s. -/
theorem repeated_target_keeps_last_lane :
    (value ⟨"C", [], []⟩ [] repeatedChain repeatedNets).result = .ok [.low, .high] ∧
      (Net.find? (value ⟨"C", [], []⟩ [] repeatedChain repeatedNets).nets "x").map (·.level) = some .high ∧
      chainLane [.low, .high] [2] 0 0 = .low := by
  simp [repeatedChain, repeatedNets, Expr.connectChain, value, values, Outcome.pure, Outcome.andThen,
    connectionTargets, connectionTargets.arrayTargets, bind, Except.bind, pure, Except.pure, connectLanes, drive,
    Net.find?, Net.replay, Net.set, Bundle.pick, chainLane]

end Circuitry
