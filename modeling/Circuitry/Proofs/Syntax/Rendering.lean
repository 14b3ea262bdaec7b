import Circuitry.Syntax.Node

/-!
# The tree notation reads back uniquely

Every node is written `Tag(arguments)`. A name, an identifier or a numeral is written as it is,
an operator as its word followed by `, ` and its two operands, a list of nodes as `[` its items
joined by `, ` `]`.

For trees whose names, identifiers and numerals are non-empty runs of letters, digits and `_`,
and whose operator words hold no bracket, comma or blank (`Node.Legible`), the notation is a
prefix code: the text of a node followed by any text determines both the node and that text
(`Node.render_prefix`). This holds for every node the tree type admits, bare operands and nested
programs in a body and expression items without a root included. A name ends at the first `)`,
`,` or `:`, an operator word at the first comma, a node at its closing bracket and a list at the
`]` that follows an item where a `,` would otherwise stand. So two legible trees with the same
notation are equal (`Node.render_injective`); on the programs that reading builds the notation
is `Program.render` (`Program.render_toNode`).
-/
namespace Circuitry

theorem append_mark_cancel {u v s t : List Char} {mark : Char} (notInU : mark ∉ u) (notInV : mark ∉ v)
    (same : u ++ mark :: s = v ++ mark :: t) : u = v ∧ s = t := by
  induction u generalizing v with
  | nil =>
    cases v with
    | nil => exact ⟨rfl, (List.cons.inj same).2⟩
    | cons c rest =>
      have first : mark = c := (List.cons.inj same).1
      exact absurd (first ▸ List.mem_cons_self ..) notInV
  | cons c rest ih =>
    cases v with
    | nil =>
      have first : c = mark := (List.cons.inj same).1
      exact absurd (first ▸ List.mem_cons_self ..) notInU
    | cons d rest' =>
      obtain ⟨first, tail⟩ := List.cons.inj same
      obtain ⟨restSame, after⟩ := ih (fun member => notInU (List.mem_cons_of_mem _ member))
        (fun member => notInV (List.mem_cons_of_mem _ member)) tail
      exact ⟨first ▸ restSame ▸ rfl, after⟩

def isWordChar (c : Char) : Bool := Keyword.isNameChar c || c.isDigit

/-- A written name: one or more letters, digits or `_`. -/
def WrittenName (w : String) : Prop := w.toList ≠ [] ∧ ∀ c ∈ w.toList, isWordChar c = true

/-- An operator word that the notation can delimit: it holds no bracket, comma or blank. -/
def WrittenOperator (op : String) : Prop :=
  ∀ c ∈ op.toList, c ≠ '(' ∧ c ≠ ')' ∧ c ≠ ',' ∧ c ≠ ' '

theorem writtenName_iff_all {w : String} :
    WrittenName w ↔ w.toList.isEmpty = false ∧ w.toList.all isWordChar = true := by
  rw [WrittenName, List.all_eq_true, List.isEmpty_eq_false_iff]

theorem writtenOperator_iff_all {op : String} :
    WrittenOperator op ↔ op.toList.all (fun c => c != '(' && c != ')' && c != ',' && c != ' ') = true := by
  simp [WrittenOperator, List.all_eq_true, and_assoc]

theorem WrittenName.not_mem {w : String} (written : WrittenName w) {c : Char} (other : isWordChar c = false) :
    c ∉ w.toList :=
  fun member => absurd (written.2 c member) (by rw [other]; decide)

theorem WrittenName.cancel {u v : String} (writtenU : WrittenName u) (writtenV : WrittenName v)
    {mark : Char} (other : isWordChar mark = false) {s t : List Char}
    (same : u.toList ++ mark :: s = v.toList ++ mark :: t) : u = v ∧ s = t := by
  obtain ⟨names, after⟩ := append_mark_cancel (writtenU.not_mem other) (writtenV.not_mem other) same
  exact ⟨String.toList_inj.1 names, after⟩

theorem WrittenName.cancel_close {u v : String} (writtenU : WrittenName u) (writtenV : WrittenName v)
    {s t : List Char} (same : u.toList ++ (")".toList ++ s) = v.toList ++ (")".toList ++ t)) :
    u = v ∧ s = t :=
  writtenU.cancel writtenV (by decide) same

/-- Two texts, each a tag free of `(` and then `(`, that agree once each is followed by some
text have the same tag. -/
theorem tag_eq_of_open {a b tagA tagB : String} {s t : List Char}
    (openA : ∃ rest, a.toList = tagA.toList ++ '(' :: rest) (openB : ∃ rest, b.toList = tagB.toList ++ '(' :: rest)
    (plainA : '(' ∉ tagA.toList) (plainB : '(' ∉ tagB.toList) (same : a.toList ++ s = b.toList ++ t) :
    tagA = tagB := by
  obtain ⟨restA, renderA⟩ := openA
  obtain ⟨restB, renderB⟩ := openB
  rw [renderA, renderB, List.append_assoc, List.append_assoc, List.cons_append, List.cons_append] at same
  exact String.toList_inj.1 (append_mark_cancel plainA plainB same).1

/-! ## Lists of items -/

/-- What follows the first item of a list in the notation: `]`, or `, ` and the next item. -/
def closeTail : List String → List Char → List Char
  | [], s => ']' :: s
  | w :: rest, s => ',' :: ' ' :: (w.toList ++ closeTail rest s)

theorem joinItems_cons_toList (w : String) (rest : List String) (s : List Char) :
    (joinItems (w :: rest)).toList ++ ']' :: s = w.toList ++ closeTail rest s := by
  induction rest generalizing w with
  | nil => rfl
  | cons v more ih =>
    rw [show joinItems (w :: v :: more) = w ++ ", " ++ joinItems (v :: more) from rfl]
    simp only [String.toList_append, List.append_assoc, ih]
    rfl

section Codes

variable {α : Type} (f : α → String)

theorem closeTail_prefix (leads : ∀ y, ∃ c rest, (f y).toList = c :: rest ∧ c ≠ ']') :
    ∀ {xs ys : List α}, (∀ x ∈ xs, ∀ y ∈ ys, ∀ s t, (f x).toList ++ s = (f y).toList ++ t → x = y ∧ s = t) →
      ∀ {s t : List Char}, closeTail (xs.map f) s = closeTail (ys.map f) t → xs = ys ∧ s = t
  | [], [], _, _, _, same => ⟨rfl, (List.cons.inj same).2⟩
  | [], _ :: _, _, _, _, same => by simp [closeTail] at same
  | _ :: _, [], _, _, _, same => by simp [closeTail] at same
  | x :: xs, y :: ys, codes, s, t, same => by
    simp only [List.map_cons, closeTail, List.cons.injEq, true_and] at same
    obtain ⟨rfl, after⟩ := codes x (List.mem_cons_self ..) y (List.mem_cons_self ..) _ _ same
    obtain ⟨rfl, rfl⟩ := closeTail_prefix leads
      (fun x' inX y' inY => codes x' (List.mem_cons_of_mem _ inX) y' (List.mem_cons_of_mem _ inY)) after
    exact ⟨rfl, rfl⟩

theorem bracketed_prefix (leads : ∀ y, ∃ c rest, (f y).toList = c :: rest ∧ c ≠ ']') {xs ys : List α}
    (codes : ∀ x ∈ xs, ∀ y ∈ ys, ∀ s t, (f x).toList ++ s = (f y).toList ++ t → x = y ∧ s = t)
    {s t : List Char} (same : (bracketed (xs.map f)).toList ++ s = (bracketed (ys.map f)).toList ++ t) :
    xs = ys ∧ s = t := by
  simp only [bracketed, String.toList_append, List.append_assoc] at same
  have inner := List.append_cancel_left same
  simp only [show "]".toList = [']'] from rfl, List.singleton_append] at inner
  cases xs with
  | nil =>
    cases ys with
    | nil => exact ⟨rfl, (List.cons.inj inner).2⟩
    | cons y ys =>
      obtain ⟨c, rest, starts, notClose⟩ := leads y
      simp only [List.map_nil, List.map_cons, joinItems_cons_toList, starts] at inner
      exact absurd (List.cons.inj inner).1.symm notClose
  | cons x xs =>
    cases ys with
    | nil =>
      obtain ⟨c, rest, starts, notClose⟩ := leads x
      simp only [List.map_nil, List.map_cons, joinItems_cons_toList, starts] at inner
      exact absurd (List.cons.inj inner).1 notClose
    | cons y ys =>
      simp only [List.map_cons, joinItems_cons_toList] at inner
      obtain ⟨rfl, after⟩ := codes x (List.mem_cons_self ..) y (List.mem_cons_self ..) _ _ inner
      obtain ⟨rfl, rfl⟩ := closeTail_prefix f leads
        (fun x' inX y' inY => codes x' (List.mem_cons_of_mem _ inX) y' (List.mem_cons_of_mem _ inY)) after
      exact ⟨rfl, rfl⟩

end Codes

/-! ## Expressions -/

mutual

/-- Every identifier and numeral of the expression is a written name, and every operator word a
written operator. -/
def Expr.Legible : Expr → Prop
  | .name id => WrittenName id
  | .numeral digits => WrittenName digits
  | .array items => Expr.AllLegible items
  | .binary op lhs rhs => WrittenOperator op ∧ lhs.Legible ∧ rhs.Legible

/-- Every expression of the list is legible. -/
def Expr.AllLegible : List Expr → Prop
  | [] => True
  | x :: rest => x.Legible ∧ Expr.AllLegible rest

end

theorem Expr.AllLegible.mem {xs : List Expr} (legible : Expr.AllLegible xs) {x : Expr} (member : x ∈ xs) :
    x.Legible := by
  induction xs with
  | nil => exact absurd member List.not_mem_nil
  | cons y rest ih =>
    rcases List.mem_cons.1 member with rfl | later
    · exact legible.1
    · exact ih legible.2 later

theorem operator_no_comma {op : String} (written : WrittenOperator op) : ',' ∉ op.toList :=
  fun member => (written ',' member).2.2.1 rfl

/-- The word before the opening bracket in the notation of an expression. -/
def Expr.tag : Expr → String
  | .name _ => "Identifier"
  | .numeral _ => "Literal"
  | .array _ => "ArrayLiteral"
  | .binary _ _ _ => "Operator"

theorem Expr.render_toList (e : Expr) : ∃ rest, e.render.toList = e.tag.toList ++ '(' :: rest := by
  cases e <;> simp [Expr.render, Expr.tag, String.toList_append]

theorem Expr.render_lead (e : Expr) : ∃ c rest, e.render.toList = c :: rest ∧ c ≠ ']' := by
  cases e <;> simp [Expr.render, String.toList_append]

theorem Expr.renderAll_eq_map : (xs : List Expr) → Expr.renderAll xs = xs.map Expr.render
  | [] => rfl
  | x :: rest => by rw [Expr.renderAll, Expr.renderAll_eq_map rest, List.map_cons]

theorem Expr.tag_no_open (e : Expr) : '(' ∉ e.tag.toList := by
  cases e <;> simp only [Expr.tag] <;> decide

theorem Expr.tag_eq {a b : Expr} {s t : List Char} (same : a.render.toList ++ s = b.render.toList ++ t) :
    a.tag = b.tag :=
  tag_eq_of_open a.render_toList b.render_toList a.tag_no_open b.tag_no_open same

mutual

theorem Expr.render_prefix : {a : Expr} → a.Legible → {b : Expr} → b.Legible → {s t : List Char} →
    a.render.toList ++ s = b.render.toList ++ t → a = b ∧ s = t
  | .name id, legibleA, b, legibleB, s, t, same => by
    have tags := Expr.tag_eq same
    cases b with
    | name id' =>
      simp only [Expr.render, String.toList_append, List.append_assoc] at same
      obtain ⟨rfl, rfl⟩ := legibleA.cancel_close legibleB (List.append_cancel_left same)
      exact ⟨rfl, rfl⟩
    | _ => simp [Expr.tag] at tags
  | .numeral digits, legibleA, b, legibleB, s, t, same => by
    have tags := Expr.tag_eq same
    cases b with
    | numeral digits' =>
      simp only [Expr.render, String.toList_append, List.append_assoc] at same
      obtain ⟨rfl, rfl⟩ := legibleA.cancel_close legibleB (List.append_cancel_left same)
      exact ⟨rfl, rfl⟩
    | _ => simp [Expr.tag] at tags
  | .array xs, legibleA, b, legibleB, s, t, same => by
    have tags := Expr.tag_eq same
    cases b with
    | array ys =>
      simp only [Expr.render, String.toList_append, List.append_assoc, Expr.renderAll_eq_map] at same
      have inner := List.append_cancel_left same
      obtain ⟨rfl, closed⟩ := bracketed_prefix Expr.render Expr.render_lead
        (fun x inX _ inY _ _ => Expr.renderAll_prefix legibleA x inX (Expr.AllLegible.mem legibleB inY)) inner
      exact ⟨rfl, List.append_cancel_left closed⟩
    | _ => simp [Expr.tag] at tags
  | .binary op lhs rhs, legibleA, b, legibleB, s, t, same => by
    have tags := Expr.tag_eq same
    cases b with
    | binary op' lhs' rhs' =>
      simp only [Expr.render, String.toList_append, List.append_assoc] at same
      have inner := List.append_cancel_left same
      simp only [show ", ".toList = [',', ' '] from rfl, List.cons_append, List.nil_append] at inner
      obtain ⟨words, afterWord⟩ := append_mark_cancel (operator_no_comma legibleA.1)
        (operator_no_comma legibleB.1) inner
      obtain ⟨rfl, afterLeft⟩ := Expr.render_prefix legibleA.2.1 legibleB.2.1 (List.cons.inj afterWord).2
      obtain ⟨rfl, afterRight⟩ := Expr.render_prefix legibleA.2.2 legibleB.2.2
        (List.cons.inj (List.cons.inj afterLeft).2).2
      exact ⟨by rw [String.toList_inj.1 words], List.append_cancel_left afterRight⟩
    | _ => simp [Expr.tag] at tags

theorem Expr.renderAll_prefix : {xs : List Expr} → Expr.AllLegible xs →
    ∀ x ∈ xs, ∀ {b : Expr}, b.Legible → ∀ {s t : List Char},
      x.render.toList ++ s = b.render.toList ++ t → x = b ∧ s = t
  | [], _ => fun _ absent => absurd absent List.not_mem_nil
  | _ :: _, legible => fun x member => by
    rcases List.mem_cons.1 member with first | later
    · intro b legibleB s t same
      rw [first] at same ⊢
      exact Expr.render_prefix legible.1 legibleB same
    · exact Expr.renderAll_prefix legible.2 x later

end

theorem Expr.renderItem_prefix {a b : Expr} (legibleA : a.Legible) (legibleB : b.Legible) {s t : List Char}
    (same : a.renderItem.toList ++ s = b.renderItem.toList ++ t) : a = b ∧ s = t := by
  simp only [Expr.renderItem, String.toList_append, List.append_assoc] at same
  obtain ⟨rfl, closed⟩ := Expr.render_prefix legibleA legibleB (List.append_cancel_left same)
  exact ⟨rfl, List.append_cancel_left closed⟩

/-! ## Variables and declarations -/

theorem Datatype.word_no_close (d : Datatype) : ')' ∉ d.word.toList := by
  cases d <;> decide

theorem Variable.render_prefix {v w : Variable} (namedV : WrittenName v.name) (namedW : WrittenName w.name)
    {s t : List Char} (same : v.render.toList ++ s = w.render.toList ++ t) : v = w ∧ s = t := by
  obtain ⟨name, datatype⟩ := v
  obtain ⟨name', datatype'⟩ := w
  simp only [Variable.render, String.toList_append, List.append_assoc] at same
  have inner := List.append_cancel_left same
  simp only [show ": ".toList = [':', ' '] from rfl, show ")".toList = [')'] from rfl,
    List.cons_append, List.nil_append] at inner
  obtain ⟨rfl, afterName⟩ := WrittenName.cancel namedV namedW (by decide) inner
  obtain ⟨words, rfl⟩ := append_mark_cancel (Datatype.word_no_close datatype)
    (Datatype.word_no_close datatype') (List.cons.inj afterName).2
  have types : datatype = datatype' := Option.some.inj <|
    (Datatype.ofWord?_word datatype).symm.trans (String.toList_inj.1 words ▸ Datatype.ofWord?_word datatype')
  exact ⟨types ▸ rfl, rfl⟩

theorem Variable.render_lead (v : Variable) : ∃ c rest, v.render.toList = c :: rest ∧ c ≠ ']' := by
  simp [Variable.render, String.toList_append]

theorem bracketed_close_prefix {α : Type} (f : α → String) (leads : ∀ y, ∃ c rest, (f y).toList = c :: rest ∧ c ≠ ']')
    {xs ys : List α}
    (codes : ∀ x ∈ xs, ∀ y ∈ ys, ∀ s t, (f x).toList ++ s = (f y).toList ++ t → x = y ∧ s = t)
    {s t : List Char}
    (same : (bracketed (xs.map f)).toList ++ (")".toList ++ s) = (bracketed (ys.map f)).toList ++ (")".toList ++ t)) :
    xs = ys ∧ s = t := by
  obtain ⟨rfl, closed⟩ := bracketed_prefix f leads codes same
  exact ⟨rfl, List.append_cancel_left closed⟩

theorem named_bracketed_prefix {α : Type} (f : α → String)
    (leads : ∀ y, ∃ c rest, (f y).toList = c :: rest ∧ c ≠ ']') {n n' : String} (named : WrittenName n)
    (named' : WrittenName n') {xs ys : List α}
    (codes : ∀ x ∈ xs, ∀ y ∈ ys, ∀ s t, (f x).toList ++ s = (f y).toList ++ t → x = y ∧ s = t)
    {s t : List Char}
    (same : n.toList ++ (", ".toList ++ ((bracketed (xs.map f)).toList ++ (")".toList ++ s))) =
      n'.toList ++ (", ".toList ++ ((bracketed (ys.map f)).toList ++ (")".toList ++ t)))) :
    n = n' ∧ xs = ys ∧ s = t := by
  simp only [show ", ".toList = [',', ' '] from rfl, List.cons_append, List.nil_append] at same
  obtain ⟨rfl, afterName⟩ := named.cancel named' (by decide) same
  exact ⟨rfl, bracketed_close_prefix f leads codes (List.cons.inj afterName).2⟩

theorem Expr.renderRoot_lead (root : Option Expr) :
    ∃ c rest, (Expr.renderRoot root).toList = c :: rest ∧ c ≠ ']' := by
  cases root <;> simp [Expr.renderRoot, Expr.renderItem, String.toList_append]

theorem Expr.renderRoot_prefix {a b : Option Expr} (legibleA : ∀ e ∈ a, e.Legible)
    (legibleB : ∀ e ∈ b, e.Legible) {s t : List Char}
    (same : (Expr.renderRoot a).toList ++ s = (Expr.renderRoot b).toList ++ t) : a = b ∧ s = t := by
  cases a with
  | none =>
    cases b with
    | none => exact ⟨rfl, List.append_cancel_left same⟩
    | some e =>
      obtain ⟨rest, starts⟩ := e.render_toList
      simp only [Expr.renderRoot, Expr.renderItem, String.toList_append, List.append_assoc, starts] at same
      cases e <;> simp [Expr.tag] at same
  | some e =>
    cases b with
    | none =>
      obtain ⟨rest, starts⟩ := e.render_toList
      simp only [Expr.renderRoot, Expr.renderItem, String.toList_append, List.append_assoc, starts] at same
      cases e <;> simp [Expr.tag] at same
    | some e' =>
      obtain ⟨rfl, rfl⟩ := Expr.renderItem_prefix (legibleA e rfl) (legibleB e' rfl) same
      exact ⟨rfl, rfl⟩

/-! ## Nodes -/

mutual

/-- Every name of the node, of its variables and of the nodes in it is a written name, and every
expression in it is legible. -/
def Node.Legible : Node → Prop
  | .program body => Node.AllLegible body
  | .component name body => WrittenName name ∧ Node.AllLegible body
  | .global body => Node.AllLegible body
  | .publicSection vars => ∀ v ∈ vars, WrittenName v.name
  | .privateSection vars => ∀ v ∈ vars, WrittenName v.name
  | .var v => WrittenName v.name
  | .pipeline items => ∀ root ∈ items, ∀ e ∈ root, e.Legible
  | .logic name body => WrittenName name ∧ Node.AllLegible body
  | .expression root => ∀ e ∈ root, e.Legible
  | .operand e => e.Legible

def Node.AllLegible : List Node → Prop
  | [] => True
  | n :: rest => n.Legible ∧ Node.AllLegible rest

end

theorem Node.AllLegible.mem {ns : List Node} (legible : Node.AllLegible ns) {n : Node} (member : n ∈ ns) :
    n.Legible := by
  induction ns with
  | nil => exact absurd member List.not_mem_nil
  | cons m rest ih =>
    rcases List.mem_cons.1 member with rfl | later
    · exact legible.1
    · exact ih legible.2 later

def Node.tag : Node → String
  | .program _ => "Program"
  | .component _ _ => "Component"
  | .global _ => "Global"
  | .publicSection _ => "Public"
  | .privateSection _ => "Private"
  | .var _ => "Variable"
  | .pipeline _ => "Pipeline"
  | .logic _ _ => "Logic"
  | .expression _ => "Expression"
  | .operand e => e.tag

theorem Node.render_toList (n : Node) : ∃ rest, n.render.toList = n.tag.toList ++ '(' :: rest := by
  cases n with
  | operand e => exact e.render_toList
  | expression root =>
    cases root <;> simp [Node.render, Node.tag, Expr.renderRoot, Expr.renderItem, String.toList_append]
  | _ => simp [Node.render, Node.tag, Variable.render, String.toList_append]

theorem Node.render_lead (n : Node) : ∃ c rest, n.render.toList = c :: rest ∧ c ≠ ']' := by
  cases n with
  | operand e => exact e.render_lead
  | expression root => exact Expr.renderRoot_lead root
  | _ => simp [Node.render, Variable.render, String.toList_append]

theorem Node.renderAll_eq_map : (ns : List Node) → Node.renderAll ns = ns.map Node.render
  | [] => rfl
  | n :: rest => by rw [Node.renderAll, Node.renderAll_eq_map rest, List.map_cons]

theorem Node.tag_no_open (n : Node) : '(' ∉ n.tag.toList := by
  cases n with
  | operand e => exact e.tag_no_open
  | _ =>
    simp only [Node.tag]
    decide

theorem Node.tag_eq {a b : Node} {s t : List Char} (same : a.render.toList ++ s = b.render.toList ++ t) :
    a.tag = b.tag :=
  tag_eq_of_open a.render_toList b.render_toList a.tag_no_open b.tag_no_open same

theorem Node.operand_of_tag {n : Node} {e : Expr} (tags : n.tag = e.tag) : ∃ e', n = .operand e' := by
  cases n with
  | operand e' => exact ⟨e', rfl⟩
  | _ => cases e <;> simp [Node.tag, Expr.tag] at tags

mutual

theorem Node.render_prefix : {a : Node} → a.Legible → {b : Node} → b.Legible → {s t : List Char} →
    a.render.toList ++ s = b.render.toList ++ t → a = b ∧ s = t
  | .program body, legibleA, b, legibleB, s, t, same => by
    have tags := Node.tag_eq same
    cases b with
    | program body' =>
      simp only [Node.render, String.toList_append, List.append_assoc, Node.renderAll_eq_map] at same
      obtain ⟨rfl, rfl⟩ := bracketed_close_prefix Node.render Node.render_lead
        (fun x inX _ inY _ _ => Node.renderAll_prefix legibleA x inX (Node.AllLegible.mem legibleB inY))
        (List.append_cancel_left same)
      exact ⟨rfl, rfl⟩
    | operand e => obtain ⟨_, ⟨⟩⟩ := Node.operand_of_tag tags
    | _ => simp [Node.tag] at tags
  | .component name body, legibleA, b, legibleB, s, t, same => by
    have tags := Node.tag_eq same
    cases b with
    | component name' body' =>
      simp only [Node.render, String.toList_append, List.append_assoc, Node.renderAll_eq_map] at same
      obtain ⟨rfl, rfl, rfl⟩ := named_bracketed_prefix Node.render Node.render_lead legibleA.1 legibleB.1
        (fun x inX _ inY _ _ => Node.renderAll_prefix legibleA.2 x inX (Node.AllLegible.mem legibleB.2 inY))
        (List.append_cancel_left same)
      exact ⟨rfl, rfl⟩
    | operand e => obtain ⟨_, ⟨⟩⟩ := Node.operand_of_tag tags
    | _ => simp [Node.tag] at tags
  | .global body, legibleA, b, legibleB, s, t, same => by
    have tags := Node.tag_eq same
    cases b with
    | global body' =>
      simp only [Node.render, String.toList_append, List.append_assoc, Node.renderAll_eq_map] at same
      obtain ⟨rfl, rfl⟩ := bracketed_close_prefix Node.render Node.render_lead
        (fun x inX _ inY _ _ => Node.renderAll_prefix legibleA x inX (Node.AllLegible.mem legibleB inY))
        (List.append_cancel_left same)
      exact ⟨rfl, rfl⟩
    | operand e => obtain ⟨_, ⟨⟩⟩ := Node.operand_of_tag tags
    | _ => simp [Node.tag] at tags
  | .publicSection vars, legibleA, b, legibleB, s, t, same => by
    have tags := Node.tag_eq same
    cases b with
    | publicSection vars' =>
      simp only [Node.render, String.toList_append, List.append_assoc] at same
      obtain ⟨rfl, rfl⟩ := bracketed_close_prefix Variable.render Variable.render_lead
        (fun x inX y inY _ _ => Variable.render_prefix (legibleA x inX) (legibleB y inY))
        (List.append_cancel_left same)
      exact ⟨rfl, rfl⟩
    | operand e => obtain ⟨_, ⟨⟩⟩ := Node.operand_of_tag tags
    | _ => simp [Node.tag] at tags
  | .privateSection vars, legibleA, b, legibleB, s, t, same => by
    have tags := Node.tag_eq same
    cases b with
    | privateSection vars' =>
      simp only [Node.render, String.toList_append, List.append_assoc] at same
      obtain ⟨rfl, rfl⟩ := bracketed_close_prefix Variable.render Variable.render_lead
        (fun x inX y inY _ _ => Variable.render_prefix (legibleA x inX) (legibleB y inY))
        (List.append_cancel_left same)
      exact ⟨rfl, rfl⟩
    | operand e => obtain ⟨_, ⟨⟩⟩ := Node.operand_of_tag tags
    | _ => simp [Node.tag] at tags
  | .var v, legibleA, b, legibleB, s, t, same => by
    have tags := Node.tag_eq same
    cases b with
    | var w =>
      obtain ⟨rfl, rfl⟩ := Variable.render_prefix legibleA legibleB same
      exact ⟨rfl, rfl⟩
    | operand e => obtain ⟨_, ⟨⟩⟩ := Node.operand_of_tag tags
    | _ => simp [Node.tag] at tags
  | .pipeline items, legibleA, b, legibleB, s, t, same => by
    have tags := Node.tag_eq same
    cases b with
    | pipeline items' =>
      simp only [Node.render, String.toList_append, List.append_assoc] at same
      obtain ⟨rfl, rfl⟩ := bracketed_close_prefix Expr.renderRoot Expr.renderRoot_lead
        (fun x inX y inY _ _ => Expr.renderRoot_prefix (legibleA x inX) (legibleB y inY))
        (List.append_cancel_left same)
      exact ⟨rfl, rfl⟩
    | operand e => obtain ⟨_, ⟨⟩⟩ := Node.operand_of_tag tags
    | _ => simp [Node.tag] at tags
  | .logic name body, legibleA, b, legibleB, s, t, same => by
    have tags := Node.tag_eq same
    cases b with
    | logic name' body' =>
      simp only [Node.render, String.toList_append, List.append_assoc, Node.renderAll_eq_map] at same
      obtain ⟨rfl, rfl, rfl⟩ := named_bracketed_prefix Node.render Node.render_lead legibleA.1 legibleB.1
        (fun x inX _ inY _ _ => Node.renderAll_prefix legibleA.2 x inX (Node.AllLegible.mem legibleB.2 inY))
        (List.append_cancel_left same)
      exact ⟨rfl, rfl⟩
    | operand e => obtain ⟨_, ⟨⟩⟩ := Node.operand_of_tag tags
    | _ => simp [Node.tag] at tags
  | .expression root, legibleA, b, legibleB, s, t, same => by
    have tags := Node.tag_eq same
    cases b with
    | expression root' =>
      obtain ⟨rfl, rfl⟩ := Expr.renderRoot_prefix legibleA legibleB same
      exact ⟨rfl, rfl⟩
    | operand e => obtain ⟨_, ⟨⟩⟩ := Node.operand_of_tag tags
    | _ => simp [Node.tag] at tags
  | .operand e, legibleA, b, legibleB, s, t, same => by
    cases b with
    | operand e' =>
      obtain ⟨rfl, rfl⟩ := Expr.render_prefix legibleA legibleB same
      exact ⟨rfl, rfl⟩
    | _ => obtain ⟨_, ⟨⟩⟩ := Node.operand_of_tag (Node.tag_eq same).symm

theorem Node.renderAll_prefix : {ns : List Node} → Node.AllLegible ns →
    ∀ n ∈ ns, ∀ {b : Node}, b.Legible → ∀ {s t : List Char},
      n.render.toList ++ s = b.render.toList ++ t → n = b ∧ s = t
  | [], _ => fun _ absent => absurd absent List.not_mem_nil
  | _ :: _, legible => fun n member => by
    rcases List.mem_cons.1 member with first | later
    · intro b legibleB s t same
      rw [first] at same ⊢
      exact Node.render_prefix legible.1 legibleB same
    · exact Node.renderAll_prefix legible.2 n later

end

/-- The tree notation is a faithful encoding: two legible nodes, programs among them, with the
same notation are equal. -/
theorem Node.render_injective {a b : Node} (legibleA : a.Legible) (legibleB : b.Legible)
    (same : a.render = b.render) : a = b :=
  (Node.render_prefix legibleA legibleB (congrArg (fun text => text.toList ++ []) same)).1

/-- A program holding a nested program, bare operands, a variable and expression items with and
without a root. -/
def mixedProgram : Node :=
  .program [.operand (.name "a"), .program [.expression none],
    .component "c" [.operand (.binary "and" (.numeral "1") (.array [.name "b"])), .var ⟨"w", .wire⟩],
    .pipeline [none, some (.binary "=>" (.name "x") (.name "y"))]]

theorem mixed_program_notation_faithful :
    mixedProgram.Legible ∧ mixedProgram.render = mixedProgram.render ∧ mixedProgram = mixedProgram := by
  have legible : mixedProgram.Legible := by
    simp only [mixedProgram, Node.Legible, Node.AllLegible, Expr.Legible, Expr.AllLegible,
      writtenName_iff_all, writtenOperator_iff_all, List.forall_mem_cons, List.not_mem_nil, false_implies,
      implies_true, and_true, Option.mem_def, reduceCtorEq, Option.some.injEq, forall_eq']
    decide
  exact ⟨legible, rfl, Node.render_injective legible legible rfl⟩

/-! ## The programs that reading builds -/

mutual

theorem Decl.render_toNode : (d : Decl) → d.toNode.render = d.render
  | .component name body => by rw [Decl.toNode, Node.render, Decl.renderAll_toNodes body, Decl.render]
  | .logic name body => by rw [Decl.toNode, Node.render, Decl.renderAll_toNodes body, Decl.render]
  | .global body => by rw [Decl.toNode, Node.render, Decl.renderAll_toNodes body, Decl.render]
  | .publicSection _ => rfl
  | .privateSection _ => rfl
  | .pipeline items => by simp [Decl.toNode, Node.render, Decl.render, Expr.renderRoot, Function.comp_def]
  | .var _ => rfl
  | .expression _ => rfl

theorem Decl.renderAll_toNodes : (ds : List Decl) → Node.renderAll (Decl.toNodes ds) = Decl.renderAll ds
  | [] => rfl
  | d :: rest => by
    rw [Decl.toNodes, Node.renderAll, Decl.render_toNode d, Decl.renderAll_toNodes rest, Decl.renderAll]

end

theorem Program.render_toNode (p : Program) : p.toNode.render = p.render := by
  rw [Program.toNode, Node.render, Decl.renderAll_toNodes, Program.render]

end Circuitry
