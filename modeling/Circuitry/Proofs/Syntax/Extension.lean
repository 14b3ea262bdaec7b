import Circuitry.Proofs.Syntax.Reread

/-!
# Reading one token more

The parser reads from left to right and decides each step on the token in front of it, with
one exception: at the first token of a logic-body item it also looks at the token after, since
a `:` there makes the item a variable. This module says what that means for a reading function
`F` when one token `x` is added at the end of its input `p` (`OneMore F p x`):

* a slip at a token stays as it is, except that a `:` after a logic item's first token can turn
  it into the slip of that token as a variable name;
* a value read before the end of `p` is read the same, with `x` after it;
* otherwise, after a value read up to the end or after running out of input, reading
  `p ++ [x]` gives a value up to the end or up to `x`, runs out, stops at `x`, or, with `x` a
  colon, stops at the last token of `p` as no variable name;
* a value read up to the end stays when `x` cannot go on with it.

Every reading function of the parser has this property for every `p` and `x`; a slip at a
token stays only if that token's kind fits its word.
-/

namespace Circuitry

/-- A token's kind fits its word: a token of operator kind holds an operator word, as every
token the lexer produces does. -/
def Token.KindFits (t : Token) : Prop := t.kind = .operator → Keyword.isOperator t.value = true

namespace Parse

abbrev Reader (α : Type) := List Token → Except Slip (α × List Token)

def seq (A : Except Slip (α × List Token)) (B : α → Reader β) : Except Slip (β × List Token) :=
  match A with
  | .error s => .error s
  | .ok (a, rest) => B a rest

/-- A token that cannot go on with what was read before it: no operator continuing a chain,
no comma ending an item and no colon making a name a variable. -/
def Ends (x : Token) : Prop := chainGoesOn [x] = false ∧ x.is "," = false ∧ x.is ":" = false

/-- The slip of a token read as a variable that is no variable name. -/
def NameSlip (t : Token) (s : Slip) : Prop :=
  s = ⟨.unexpected t.value, some t⟩ ∨ s = ⟨.invalidVariableName t.value, some t⟩

/-- Reading that did not stop at a token: a value read up to the end, or the input ran out. -/
def Unstopped (r : Except Slip (α × List Token)) : Prop :=
  (∃ v, r = .ok (v, [])) ∨ ∃ i, r = .error ⟨i, none⟩

/-- What reading `p ++ [x]` may give when reading `p` did not stop at a token: a value up to
the end or up to `x`, running out, stopping at `x`, or, with `x` a colon, the slip of the last
token of `p` as no variable name. -/
def Unsettled (p : List Token) (x : Token) (r : Except Slip (α × List Token)) : Prop :=
  (∃ v, r = .ok (v, []) ∨ r = .ok (v, [x])) ∨ (∃ i, r = .error ⟨i, none⟩ ∨ r = .error ⟨i, some x⟩) ∨
    (x.is ":" = true ∧ ∃ c t s, p = c ++ [t] ∧ r = .error s ∧ NameSlip t s)

/-- How reading with `F` changes when `x` is added after `p`; `ends` is what makes a value read
up to the end of `p` stay as it is, `True` for a reading function that never looks past what it
reads. -/
structure OneMore (F : Reader α) (p : List Token) (x : Token) (ends : Prop) : Prop where
  stopped : ∀ s t, F p = .error s → s.token = some t → t.KindFits →
    F (p ++ [x]) = .error s ∨
      (x.is ":" = true ∧ ∃ c s', p = c ++ [t] ∧ F (p ++ [x]) = .error s' ∧ NameSlip t s')
  read : ∀ v r, F p = .ok (v, r) → r ≠ [] → F (p ++ [x]) = .ok (v, r ++ [x])
  unsettled : Unstopped (F p) → Unsettled p x (F (p ++ [x]))
  ended : ∀ v, F p = .ok (v, []) → ends → F (p ++ [x]) = .ok (v, [x])

theorem Unsettled.of_unstopped {p : List Token} {x : Token} {res : Except Slip (α × List Token)}
    (unstopped : Unstopped res) : Unsettled p x res := by
  rcases unstopped with ⟨v, done⟩ | ⟨i, failed⟩
  · exact .inl ⟨v, .inl done⟩
  · exact .inr (.inl ⟨i, .inl failed⟩)

@[simp] theorem Unsettled.error_none {p : List Token} {x : Token} {i : SyntaxIssue} :
    Unsettled p x (.error ⟨i, none⟩ : Except Slip (α × List Token)) :=
  .inr (.inl ⟨i, .inl rfl⟩)

@[simp] theorem Unsettled.error_at {p : List Token} {x : Token} {i : SyntaxIssue} :
    Unsettled p x (.error ⟨i, some x⟩ : Except Slip (α × List Token)) :=
  .inr (.inl ⟨i, .inr rfl⟩)

@[simp] theorem Unsettled.ok_nil {p : List Token} {x : Token} {v : α} :
    Unsettled p x (.ok (v, []) : Except Slip (α × List Token)) :=
  .inl ⟨v, .inl rfl⟩

@[simp] theorem Unsettled.ok_single {p : List Token} {x : Token} {v : α} :
    Unsettled p x (.ok (v, [x]) : Except Slip (α × List Token)) :=
  .inl ⟨v, .inr rfl⟩

theorem Unsettled.of_suffix {p r : List Token} {x : Token} {res : Except Slip (α × List Token)}
    (suffix : r <:+ p) (unsettled : Unsettled r x res) : Unsettled p x res := by
  obtain ⟨d, rfl⟩ := suffix
  rcases unsettled with value | slip | ⟨colon, c, t, s, rfl, failed, name⟩
  · exact .inl value
  · exact .inr (.inl slip)
  · exact .inr (.inr ⟨colon, d ++ c, t, s, by simp, failed, name⟩)

theorem Unsettled.map {p : List Token} {x : Token} {res : Except Slip (α × List Token)}
    (f : α → β) (unsettled : Unsettled p x res) :
    Unsettled p x (res.map fun r => (f r.1, r.2)) := by
  rcases unsettled with ⟨v, done | done⟩ | ⟨i, failed | failed⟩ | ⟨colon, c, t, s, split, failed, name⟩
  all_goals subst_vars
  · exact .inl ⟨f v, .inl rfl⟩
  · exact .inl ⟨f v, .inr rfl⟩
  · exact .inr (.inl ⟨i, .inl rfl⟩)
  · exact .inr (.inl ⟨i, .inr rfl⟩)
  · exact .inr (.inr ⟨colon, c, t, s, rfl, rfl, name⟩)

theorem Unstopped.map {res : Except Slip (α × List Token)} (f : α → β) :
    Unstopped (res.map fun r => (f r.1, r.2)) ↔ Unstopped res := by
  rcases res with s | ⟨v, r⟩
  · simp [Unstopped, Except.map]
  · simp [Unstopped, Except.map]

theorem Unstopped.token_eq_none {r : Except Slip (α × List Token)} {s : Slip} (unstopped : Unstopped r)
    (failed : r = .error s) : s.token = none := by
  subst failed
  rcases unstopped with ⟨v, done⟩ | ⟨i, failed⟩
  · cases done
  · cases failed
    rfl

theorem Unstopped.rest_eq_nil {r : Except Slip (α × List Token)} {v : α} {rest : List Token}
    (unstopped : Unstopped r) (done : r = .ok (v, rest)) : rest = [] := by
  subst done
  rcases unstopped with ⟨w, done⟩ | ⟨i, failed⟩
  · cases done
    rfl
  · cases failed

theorem map_eq_error {res : Except Slip α} {f : α → β} {s : Slip} :
    res.map f = .error s ↔ res = .error s := by
  cases res <;> simp [Except.map]

namespace OneMore

variable {F : Reader α} {p : List Token} {x : Token} {ends : Prop}

theorem congr {G : Reader α} (more : OneMore F p x ends) (same : G p = F p)
    (sameAfter : G (p ++ [x]) = F (p ++ [x])) : OneMore G p x ends where
  stopped s t failed := by
    rw [sameAfter]
    exact more.stopped s t (same ▸ failed)
  read v r done := by
    rw [sameAfter]
    exact more.read v r (same ▸ done)
  unsettled unstopped := by
    rw [sameAfter]
    exact more.unsettled (same ▸ unstopped)
  ended v done := by
    rw [sameAfter]
    exact more.ended v (same ▸ done)

theorem weaken {ends' : Prop} (more : OneMore F p x ends) (implies : ends' → ends) :
    OneMore F p x ends' where
  stopped := more.stopped
  read := more.read
  unsettled := more.unsettled
  ended v done given := more.ended v done (implies given)

theorem of_error {s : Slip} (failed : F p = .error s) (failedAfter : F (p ++ [x]) = .error s) :
    OneMore F p x ends where
  stopped s' t failed' := by
    rw [failed] at failed'
    cases failed'
    exact fun _ _ => .inl failedAfter
  read v r done := by
    rw [failed] at done
    cases done
  unsettled unstopped := by
    rw [failedAfter]
    rw [failed] at unstopped
    exact .of_unstopped unstopped
  ended v done := by
    rw [failed] at done
    cases done

theorem of_ok {v : α} {r : List Token} (done : F p = .ok (v, r))
    (doneAfter : F (p ++ [x]) = .ok (v, r ++ [x])) : OneMore F p x ends where
  stopped s t failed := by
    rw [done] at failed
    cases failed
  read v' r' done' := by
    rw [done] at done'
    cases done'
    exact fun _ => doneAfter
  unsettled unstopped := by
    rw [done] at unstopped
    rcases unstopped with ⟨w, same⟩ | ⟨i, failed⟩
    · cases same
      exact .inl ⟨v, .inr doneAfter⟩
    · cases failed
  ended v' done' := by
    rw [done] at done'
    cases done'
    exact fun _ => doneAfter

theorem of_unsettled {i : SyntaxIssue} (failed : F p = .error ⟨i, none⟩)
    (unsettled : Unsettled p x (F (p ++ [x]))) : OneMore F p x ends where
  stopped s t failed' token := by
    rw [failed] at failed'
    cases failed'
    cases token
  read v r done := by
    rw [failed] at done
    cases done
  unsettled _ := unsettled
  ended v done := by
    rw [failed] at done
    cases done

theorem cons {t : Token} (more : OneMore (fun q => F (t :: q)) p x ends) :
    OneMore F (t :: p) x ends where
  stopped s u failed token fits := by
    rcases more.stopped s u failed token fits with same | ⟨colon, c, s', rfl, failed', name⟩
    · exact .inl same
    · exact .inr ⟨colon, t :: c, s', rfl, failed', name⟩
  read := more.read
  unsettled unstopped := (more.unsettled unstopped).of_suffix (List.suffix_cons t p)
  ended := more.ended

theorem map (f : α → β) (more : OneMore F p x ends) :
    OneMore (fun q => (F q).map fun r => (f r.1, r.2)) p x ends where
  stopped s t failed token fits := by
    rcases more.stopped s t (map_eq_error.1 failed) token fits with same | ⟨colon, c, s', split, failed', name⟩
    · exact .inl (by rw [same]; rfl)
    · exact .inr ⟨colon, c, s', split, by rw [failed']; rfl, name⟩
  read v r done nonempty := by
    obtain ⟨⟨w, r'⟩, done', same⟩ := map_eq_ok.1 done
    cases same
    rw [more.read w r' done' nonempty]
    rfl
  unsettled unstopped := (more.unsettled ((Unstopped.map f).1 unstopped)).map f
  ended v done given := by
    obtain ⟨⟨w, r'⟩, done', same⟩ := map_eq_ok.1 done
    cases same
    rw [more.ended w done' given]
    rfl

theorem nil {i : SyntaxIssue} (failed : F [] = .error ⟨i, none⟩)
    (suffix : ∀ v r, F [x] = .ok (v, r) → r <:+ [x])
    (slips : ∀ s u, F [x] = .error s → s.token = some u → u ∈ [x]) : OneMore F [] x ends := by
  refine of_unsettled failed ?_
  cases single : F ([] ++ [x]) with
  | ok vr =>
    obtain ⟨v, r⟩ := vr
    obtain ⟨d, whole⟩ := suffix v r single
    rcases List.append_eq_singleton_iff.1 whole with ⟨-, rfl⟩ | ⟨-, rfl⟩
    · exact .inl ⟨v, .inr rfl⟩
    · exact .inl ⟨v, .inl rfl⟩
  | error s =>
    obtain ⟨issue, token⟩ := s
    cases token with
    | none => exact .inr (.inl ⟨issue, .inl rfl⟩)
    | some u =>
      obtain rfl : u = x := List.mem_singleton.1 (slips _ u single rfl)
      exact .inr (.inl ⟨issue, .inr rfl⟩)

end OneMore

@[simp] theorem seq_error (s : Slip) (B : α → Reader β) : seq (.error s) B = .error s := rfl

@[simp] theorem seq_ok (a : α) (r : List Token) (B : α → Reader β) : seq (.ok (a, r)) B = B a r := rfl

theorem Unsettled.seq {p : List Token} {x : Token} {ends : Prop} {res : Except Slip (α × List Token)}
    {B : α → Reader β} (first : Unsettled p x res) (empty : ∀ a, OneMore (B a) [] x ends)
    (settled : ∀ a, Unstopped (B a [])) : Unsettled p x (Parse.seq res B) := by
  rcases first with ⟨a, done | done⟩ | ⟨i, failed | failed⟩ | ⟨colon, c, t, s, split, failed, name⟩
  · rw [done, seq_ok]
    exact .of_unstopped (settled a)
  · rw [done, seq_ok]
    exact ((empty a).unsettled (settled a)).of_suffix List.nil_suffix
  · rw [failed, seq_error]
    exact .inr (.inl ⟨i, .inl rfl⟩)
  · rw [failed, seq_error]
    exact .inr (.inl ⟨i, .inr rfl⟩)
  · rw [failed, seq_error]
    exact .inr (.inr ⟨colon, c, t, s, split, rfl, name⟩)

namespace OneMore

variable {p : List Token} {x : Token} {ends : Prop}

theorem seq {A : Reader α} {B : α → Reader β} {ends' : Prop} (first : OneMore A p x ends')
    (suffix : ∀ a r, A p = .ok (a, r) → r <:+ p)
    (next : ∀ a r, A p = .ok (a, r) → r ≠ [] → OneMore (B a) r x ends)
    (empty : ∀ a, OneMore (B a) [] x ends) (settled : ∀ a, Unstopped (B a []))
    (closes : ∀ a v, B a [] = .ok (v, []) → ends → ends') :
    OneMore (fun q => Parse.seq (A q) B) p x ends := by
  refine ⟨fun s t failed token fits => ?_, fun v r' done nonempty => ?_, fun unstopped => ?_,
    fun v done given => ?_⟩
  · cases firstRead : A p with
    | error s' =>
      rw [firstRead, seq_error] at failed
      cases failed
      rcases first.stopped s t firstRead token fits with same | ⟨colon, c, s', split, failed', name⟩
      · exact .inl (by rw [same, seq_error])
      · exact .inr ⟨colon, c, s', split, by rw [failed', seq_error], name⟩
    | ok ar =>
      obtain ⟨a, r⟩ := ar
      rw [firstRead, seq_ok] at failed
      have nonempty : r ≠ [] := by
        rintro rfl
        rw [(settled a).token_eq_none failed] at token
        cases token
      rw [first.read a r firstRead nonempty, seq_ok]
      rcases (next a r firstRead nonempty).stopped s t failed token fits with
        same | ⟨colon, c, s', split, failed', name⟩
      · exact .inl same
      · obtain ⟨d, whole⟩ := suffix a r firstRead
        exact .inr ⟨colon, d ++ c, s', by rw [← whole, split, List.append_assoc], failed', name⟩
  · cases firstRead : A p with
    | error s =>
      rw [firstRead, seq_error] at done
      cases done
    | ok ar =>
      obtain ⟨a, r⟩ := ar
      rw [firstRead, seq_ok] at done
      have restNonempty : r ≠ [] := by
        rintro rfl
        exact nonempty ((settled a).rest_eq_nil done)
      rw [first.read a r firstRead restNonempty, seq_ok]
      exact (next a r firstRead restNonempty).read v r' done nonempty
  · cases firstRead : A p with
    | error s =>
      rw [firstRead, seq_error] at unstopped
      have firstUnstopped : Unstopped (A p) := by
        rcases unstopped with ⟨v, done⟩ | ⟨i, failed⟩
        · cases done
        · cases failed
          exact .inr ⟨i, firstRead⟩
      exact (first.unsettled firstUnstopped).seq empty settled
    | ok ar =>
      obtain ⟨a, r⟩ := ar
      rw [firstRead, seq_ok] at unstopped
      by_cases restEmpty : r = []
      · subst restEmpty
        exact (first.unsettled (.inl ⟨a, firstRead⟩)).seq empty settled
      · rw [first.read a r firstRead restEmpty, seq_ok]
        exact ((next a r firstRead restEmpty).unsettled unstopped).of_suffix (suffix a r firstRead)
  · cases firstRead : A p with
    | error s =>
      rw [firstRead, seq_error] at done
      cases done
    | ok ar =>
      obtain ⟨a, r⟩ := ar
      rw [firstRead, seq_ok] at done
      by_cases restEmpty : r = []
      · subst restEmpty
        rw [first.ended a firstRead (closes a v done given), seq_ok]
        exact (empty a).ended v done given
      · rw [first.read a r firstRead restEmpty, seq_ok]
        exact (next a r firstRead restEmpty).ended v done given

theorem comp {G : Reader α} {g : List Token → List Token} (more : OneMore G (g p) x ends)
    (suffix : g p <:+ p) (append : g (p ++ [x]) = g p ++ [x]) :
    OneMore (fun q => G (g q)) p x ends where
  stopped s t failed token fits := by
    rw [append]
    rcases more.stopped s t failed token fits with same | ⟨colon, c, s', split, failed', name⟩
    · exact .inl same
    · obtain ⟨d, whole⟩ := suffix
      exact .inr ⟨colon, d ++ c, s', by rw [← whole, split, List.append_assoc], failed', name⟩
  read v r done nonempty := by
    rw [append]
    exact more.read v r done nonempty
  unsettled unstopped := by
    rw [append]
    exact (more.unsettled unstopped).of_suffix suffix
  ended v done given := by
    rw [append]
    exact more.ended v done given

end OneMore

theorem dropComma_append {r : List Token} (nonempty : r ≠ []) (x : Token) :
    dropComma (r ++ [x]) = dropComma r ++ [x] := by
  rcases r with _ | ⟨t, more⟩
  · exact absurd rfl nonempty
  · by_cases comma : t.is ","
    · simp [dropComma, comma]
    · simp [dropComma, comma]

theorem dropComma_eq_nil {r : List Token} (dropped : dropComma r = []) :
    r = [] ∨ ∃ c, r = [c] ∧ c.is "," = true := by
  rcases r with _ | ⟨c, more⟩
  · exact .inl rfl
  · by_cases comma : c.is ","
    · simp only [dropComma, comma, if_true] at dropped
      exact .inr ⟨c, by rw [dropped], comma⟩
    · simp [dropComma, comma] at dropped

theorem Unsettled.mapDropComma {p : List Token} {x : Token} {res : Except Slip (α × List Token)}
    (f : α → β) (unsettled : Unsettled p x res) :
    Unsettled p x (res.map fun r => (f r.1, dropComma r.2)) := by
  rcases unsettled with ⟨v, done | done⟩ | ⟨i, failed | failed⟩ | ⟨colon, c, t, s, split, failed, name⟩
  all_goals subst_vars
  · exact .inl ⟨f v, .inl rfl⟩
  · by_cases comma : x.is ","
    · exact .inl ⟨f v, .inl (by simp [Except.map, dropComma, comma])⟩
    · exact .inl ⟨f v, .inr (by simp [Except.map, dropComma, comma])⟩
  · exact .inr (.inl ⟨i, .inl rfl⟩)
  · exact .inr (.inl ⟨i, .inr rfl⟩)
  · exact .inr (.inr ⟨colon, c, t, s, rfl, rfl, name⟩)

namespace OneMore

variable {F : Reader α} {p : List Token} {x : Token} {ends : Prop}

theorem afterComma {G : Reader α} (more : OneMore G (dropComma p) x ends)
    (empty : ∃ i, G [] = .error ⟨i, none⟩) : OneMore (fun q => G (dropComma q)) p x ends := by
  by_cases nonempty : p = []
  · subst nonempty
    obtain ⟨i, failed⟩ := empty
    by_cases comma : x.is ","
    · -- A comma alone is dropped, and nothing is left to read.
      refine of_unsettled (i := i) failed ?_
      simp only [List.nil_append, dropComma, comma, if_true, failed]
      exact .inr (.inl ⟨i, .inl rfl⟩)
    · refine more.congr rfl ?_
      simp [dropComma, comma]
  · exact more.comp (dropComma_suffix p) (dropComma_append nonempty x)

theorem mapDropComma (f : α → β) (more : OneMore F p x ends) :
    OneMore (fun q => (F q).map fun r => (f r.1, dropComma r.2)) p x (ends ∧ x.is "," = false) where
  stopped s t failed token fits := by
    rcases more.stopped s t (map_eq_error.1 failed) token fits with same | ⟨colon, c, s', split, failed', name⟩
    · exact .inl (by rw [same]; rfl)
    · exact .inr ⟨colon, c, s', split, by rw [failed']; rfl, name⟩
  read v r' done nonempty := by
    obtain ⟨⟨w, r⟩, done', same⟩ := map_eq_ok.1 done
    cases same
    have restNonempty : r ≠ [] := by
      rintro rfl
      exact nonempty rfl
    rw [more.read w r done' restNonempty]
    simp [Except.map, dropComma_append restNonempty]
  unsettled unstopped := by
    rcases unstopped with ⟨v, done⟩ | ⟨i, failed⟩
    · obtain ⟨⟨w, r⟩, done', same⟩ := map_eq_ok.1 done
      rcases dropComma_eq_nil (Prod.mk.inj same).2 with rfl | ⟨c, rfl, comma⟩
      · exact (more.unsettled (.inl ⟨w, done'⟩)).mapDropComma f
      · -- The value was read up to a comma at the end: `x` comes after that comma.
        rw [more.read w [c] done' (List.cons_ne_nil c [])]
        exact .inl ⟨f w, .inr (by simp [Except.map, dropComma, comma])⟩
    · exact (more.unsettled (.inr ⟨i, map_eq_error.1 failed⟩)).mapDropComma f
  ended v done given := by
    obtain ⟨⟨w, r⟩, done', same⟩ := map_eq_ok.1 done
    obtain ⟨rfl, dropped⟩ := Prod.mk.inj same
    rcases dropComma_eq_nil dropped with rfl | ⟨c, rfl, comma⟩
    · rw [more.ended w done' given.1]
      simp [Except.map, dropComma, given.2]
    · rw [more.read w [c] done' (List.cons_ne_nil c [])]
      simp [Except.map, dropComma, comma]

end OneMore

def afterItem (close : String) (issue : SyntaxIssue) (G : Reader β) (rest : List Token) :
    Except Slip (β × List Token) :=
  if startsWith rest "," then G (dropComma rest)
  else if startsWith rest close || rest.isEmpty then G rest
  else .error ⟨issue, rest.head?⟩

theorem namedBlockRead_cons {word : String} {body : List Token → Except Slip (List Decl × List Token)}
    {wrap : String → List Decl → Decl} {n : Token} (notReserved : Keyword.isReserved n.value = false)
    (shaped : Keyword.isNameShaped n.value = true) (more : List Token) :
    namedBlockRead word body wrap (n :: more) = bracedRead body (wrap n.value) more := by
  rcases more with _ | ⟨t, inner⟩ <;> simp [namedBlockRead, bracedRead, notReserved, shaped]

namespace OneMore

variable {x : Token}

theorem afterItem {G : Reader β} {r : List Token} {close : String} {issue : SyntaxIssue}
    (more : ∀ q, q <:+ r → OneMore G q x True) (empty : ∃ i, G [] = .error ⟨i, none⟩) :
    OneMore (Parse.afterItem close issue G) r x True := by
  rcases r with _ | ⟨o, after⟩
  · obtain ⟨i, failed⟩ := empty
    refine of_unsettled (i := i) (by simpa [Parse.afterItem, startsWith] using failed) ?_
    simp only [List.nil_append, Parse.afterItem, startsWith, List.isEmpty_cons, Bool.or_false]
    by_cases comma : x.is ","
    · simp only [comma, if_true, dropComma, failed]
      exact .inr (.inl ⟨i, .inl rfl⟩)
    · by_cases closes : x.is close
      · simp only [comma, closes, if_true]
        exact (more [] List.nil_suffix).unsettled (.inr ⟨i, failed⟩)
      · simp only [comma, closes]
        exact .inr (.inl ⟨issue, .inr rfl⟩)
  · by_cases comma : o.is ","
    · refine (afterComma (more _ (dropComma_suffix _)) empty).congr ?_ ?_ <;>
        simp [Parse.afterItem, startsWith, comma]
    · by_cases closes : o.is close
      · refine (more _ List.suffix_rfl).congr ?_ ?_ <;>
          simp [Parse.afterItem, startsWith, comma, closes]
      · refine of_error (s := ⟨issue, some o⟩) ?_ ?_ <;>
          simp [Parse.afterItem, startsWith, comma, closes]

theorem bracedRead (body : Reader β) (wrap : β → Decl) {ts : List Token}
    (more : ∀ inner, inner.length < ts.length → OneMore body inner x True)
    (empty : ∃ i, body [] = .error ⟨i, none⟩) : OneMore (Parse.bracedRead body wrap) ts x True := by
  obtain ⟨i, failed⟩ := empty
  rcases ts with _ | ⟨t, inner⟩
  · refine of_unsettled (i := .expectedOpenBrace) rfl ?_
    by_cases brace : x.is "\x7b"
    · simp only [List.nil_append, Parse.bracedRead, brace, if_true, failed]
      exact .inr (.inl ⟨i, .inl rfl⟩)
    · simp only [List.nil_append, Parse.bracedRead, brace]
      exact .inr (.inl ⟨_, .inr rfl⟩)
  · by_cases brace : t.is "\x7b"
    · refine cons ((map wrap (more inner (Nat.lt_succ_self _))).congr ?_ ?_) <;>
        simp [Parse.bracedRead, brace]
    · refine of_error (s := ⟨.expectedOpenBrace, some t⟩) ?_ ?_ <;>
        simp [Parse.bracedRead, brace]

theorem namedBlockRead {word : String} (body : Reader (List Decl)) (wrap : String → List Decl → Decl)
    {ts : List Token} (more : ∀ inner, inner.length < ts.length → OneMore body inner x True)
    (empty : ∃ i, body [] = .error ⟨i, none⟩) : OneMore (Parse.namedBlockRead word body wrap) ts x True := by
  rcases ts with _ | ⟨n, inner⟩
  · refine of_unsettled (i := .expectedName word) rfl ?_
    by_cases reserved : Keyword.isReserved x.value
    · simp only [List.nil_append, Parse.namedBlockRead, reserved, if_true]
      exact .inr (.inl ⟨_, .inr rfl⟩)
    · by_cases shaped : Keyword.isNameShaped x.value
      · simp only [List.nil_append, Parse.namedBlockRead, reserved, shaped]
        exact .inr (.inl ⟨_, .inl rfl⟩)
      · simp only [List.nil_append, Parse.namedBlockRead, reserved, shaped]
        exact .inr (.inl ⟨_, .inr rfl⟩)
  · by_cases reserved : Keyword.isReserved n.value
    · refine of_error (s := ⟨.reservedName n.value word, some n⟩) ?_ ?_ <;>
        simp [Parse.namedBlockRead, reserved]
    · by_cases shaped : Keyword.isNameShaped n.value
      · have braced := bracedRead body (wrap n.value)
          (fun inner' shorter => more inner' (Nat.lt_succ_of_lt shorter)) empty
        refine cons (braced.congr ?_ ?_) <;>
          simp only [namedBlockRead_cons (Bool.eq_false_iff.2 reserved) shaped]
      · refine of_error (s := ⟨.invalidName word n.value, some n⟩) ?_ ?_ <;>
          simp [Parse.namedBlockRead, reserved, shaped]

end OneMore

/-! ### Where reading stops

A slip at a token names a token of the input. -/

theorem head?_mem {ts : List Token} {u : Token} (head : ts.head? = some u) : u ∈ ts := by
  rcases ts with _ | ⟨t, more⟩
  · cases head
  · cases head
    exact List.mem_cons_self ..

theorem variableAt_slip_mem {t : Token} {more : List Token} {s : Slip} {u : Token}
    (read : (variableAt t more).read = .error s) (token : s.token = some u) : u ∈ t :: more := by
  rw [read_variableAt] at read
  split at read
  · cases read
    cases token
    exact List.mem_cons_self ..
  split at read
  · cases read
    cases token
    exact List.mem_cons_self ..
  rcases more with _ | ⟨colon, _ | ⟨d, more3⟩⟩
  · cases read
    cases token
  · simp only at read
    split at read
    · cases read
      cases token
    · cases read
      cases token
      simp
  · simp only at read
    split at read
    · split at read
      · cases read
      · cases read
        cases token
        simp
    · cases read
      cases token
      simp

theorem sectionVariables_slip_mem {ts : List Token} {s : Slip} {u : Token}
    (read : (sectionVariables ts).read = .error s) (token : s.token = some u) : u ∈ ts := by
  cases ts with
  | nil =>
    rw [read_sectionVariables_nil] at read
    cases read
    cases token
  | cons t more =>
    rw [read_sectionVariables_cons] at read
    split at read
    · cases read
    · split at read
      · rename_i s' failed
        cases read
        exact variableAt_slip_mem failed token
      · rename_i v after variableRead
        have shorter := read_rest_shorter variableRead
        have dropped := length_dropComma_le after
        have inRest := sectionVariables_slip_mem (map_eq_error.1 read) token
        exact (variableAt_suffix variableRead).subset ((dropComma_suffix after).subset inRest)
          |> List.mem_cons_of_mem t
termination_by ts.length
decreasing_by
  subst_vars
  simp only [List.length_cons] at *
  omega

mutual

theorem literal_slip_mem {t : Token} {more : List Token} {s : Slip} {u : Token}
    (read : (literal t more).read = .error s) (token : s.token = some u) : u ∈ t :: more := by
  rw [read_literal] at read
  split at read
  · exact List.mem_cons_of_mem t (elements_slip_mem (map_eq_error.1 read) token)
  · split at read
    · cases read
    · split at read
      · split at read
        · cases read
          cases token
          exact List.mem_cons_self ..
        · cases read
      · cases read
        cases token
        exact List.mem_cons_self ..
termination_by ((t :: more).length, 0)
decreasing_by all_goals exact rank_lt (by grind)

theorem elements_slip_mem {ts : List Token} {first : Bool} {s : Slip} {u : Token}
    (read : (elements ts first).read = .error s) (token : s.token = some u) : u ∈ ts := by
  cases ts with
  | nil =>
    rw [read_elements_nil] at read
    cases read
    cases token
  | cons t more =>
    rw [read_elements_cons] at read
    split at read
    · split at read
      · cases read
        cases token
        exact List.mem_cons_self ..
      · cases read
    · split at read
      · rename_i s' failed
        cases read
        exact literal_slip_mem failed token
      · rename_i x after literalRead
        have shorter := read_rest_shorter literalRead
        have inMore : ∀ {v}, v ∈ after → v ∈ t :: more := fun member =>
          List.mem_cons_of_mem t ((literal_suffix literalRead).subset member)
        split at read
        · have dropped := length_dropComma_le after
          exact inMore ((dropComma_suffix after).subset (elements_slip_mem (map_eq_error.1 read) token))
        · split at read
          · exact inMore (elements_slip_mem (map_eq_error.1 read) token)
          · cases read
            exact inMore (head?_mem token)
termination_by (ts.length, 1)
decreasing_by all_goals exact rank_lt (by grind)

end

theorem operand_slip_mem {ts : List Token} {lastOp : Option String} {s : Slip} {u : Token}
    (read : (operand ts lastOp).read = .error s) (token : s.token = some u) : u ∈ ts := by
  cases ts with
  | nil =>
    rw [read_operand_nil] at read
    cases read
    cases token
  | cons t more =>
    rw [read_operand_cons] at read
    split at read
    · cases read
      cases token
      exact List.mem_cons_self ..
    · split at read
      · cases read
        cases token
        exact List.mem_cons_self ..
      · split at read
        · rename_i s' failed
          cases read
          exact literal_slip_mem failed token
        · rename_i x after literalRead
          have shorter := read_rest_shorter literalRead
          split at read
          · rename_i o after'
            split at read
            · have inTail := operand_slip_mem (map_eq_error.1 read) token
              exact List.mem_cons_of_mem t
                ((literal_suffix literalRead).subset (List.mem_cons_of_mem o inTail))
            · cases read
          · cases read
termination_by ts.length
decreasing_by
  subst_vars
  simp only [List.length_cons] at *
  omega

theorem pipelineItems_slip_mem {ts : List Token} {s : Slip} {u : Token}
    (read : (pipelineItems ts).read = .error s) (token : s.token = some u) : u ∈ ts := by
  cases ts with
  | nil =>
    rw [read_pipelineItems_nil] at read
    cases read
    cases token
  | cons t more =>
    rw [read_pipelineItems_cons] at read
    split at read
    · cases read
    · split at read
      · rename_i s' failed
        cases read
        exact operand_slip_mem failed token
      · rename_i c after operandRead
        have shorter := read_rest_shorter operandRead
        have inMore : ∀ {v}, v ∈ after → v ∈ t :: more := fun member =>
          (operand_suffix operandRead).subset member
        split at read
        · have dropped := length_dropComma_le after
          exact inMore ((dropComma_suffix after).subset (pipelineItems_slip_mem (map_eq_error.1 read) token))
        · split at read
          · exact inMore (pipelineItems_slip_mem (map_eq_error.1 read) token)
          · cases read
            exact inMore (head?_mem token)
termination_by ts.length
decreasing_by
  all_goals
    subst_vars
    simp only [List.length_cons] at *
    omega

theorem bracedRead_slip_mem {body : Reader β} {wrap : β → Decl} {ts : List Token} {s : Slip} {u : Token}
    (inBody : ∀ inner, inner.length < ts.length → body inner = .error s → u ∈ inner)
    (read : bracedRead body wrap ts = .error s) (token : s.token = some u) : u ∈ ts := by
  rcases ts with _ | ⟨t, inner⟩
  · cases read
    cases token
  · simp only [bracedRead] at read
    split at read
    · exact List.mem_cons_of_mem t (inBody inner (Nat.lt_succ_self _) (map_eq_error.1 read))
    · cases read
      cases token
      exact List.mem_cons_self ..

theorem namedBlockRead_slip_mem {word : String} {body : Reader (List Decl)}
    {wrap : String → List Decl → Decl} {ts : List Token} {s : Slip} {u : Token}
    (inBody : ∀ inner, inner.length < ts.length → body inner = .error s → u ∈ inner)
    (read : namedBlockRead word body wrap ts = .error s) (token : s.token = some u) : u ∈ ts := by
  rcases ts with _ | ⟨n, more⟩
  · cases read
    cases token
  · by_cases reserved : Keyword.isReserved n.value
    · simp only [namedBlockRead, reserved, if_true] at read
      cases read
      cases token
      exact List.mem_cons_self ..
    · by_cases shaped : Keyword.isNameShaped n.value
      · rw [namedBlockRead_cons (Bool.eq_false_iff.2 reserved) shaped] at read
        exact List.mem_cons_of_mem n (bracedRead_slip_mem
          (fun inner shorter => inBody inner (Nat.lt_succ_of_lt shorter)) read token)
      · simp only [namedBlockRead, reserved, shaped] at read
        cases read
        cases token
        exact List.mem_cons_self ..

mutual

theorem decl_slip_mem {ts : List Token} {s : Slip} {u : Token}
    (read : (decl ts).read = .error s) (token : s.token = some u) : u ∈ ts := by
  cases ts with
  | nil =>
    rw [read_decl_nil] at read
    cases read
    cases token
  | cons t more =>
    rw [read_decl_cons] at read
    split at read
    · exact List.mem_cons_of_mem t (block_slip_mem read token)
    · split at read
      · cases read
        cases token
        exact List.mem_cons_self ..
      · exact variableAt_slip_mem (map_eq_error.1 read) token
termination_by (ts.length, 3)
decreasing_by all_goals exact rank_lt (by grind)

theorem block_slip_mem {k : BlockKeyword} {word : String} {ts : List Token} {s : Slip} {u : Token}
    (read : (block k word ts).read = .error s) (token : s.token = some u) : u ∈ ts := by
  cases k with
  | component =>
    rw [read_block_component] at read
    exact namedBlockRead_slip_mem (fun inner _ body => decls_slip_mem body token) read token
  | logic =>
    rw [read_block_logic] at read
    exact namedBlockRead_slip_mem (fun inner _ body => logicItems_slip_mem body token) read token
  | global =>
    rw [read_block_global] at read
    exact bracedRead_slip_mem (fun inner _ body => decls_slip_mem body token) read token
  | publicSection =>
    rw [read_block_public] at read
    exact bracedRead_slip_mem (fun inner _ body => sectionVariables_slip_mem body token) read token
  | privateSection =>
    rw [read_block_private] at read
    exact bracedRead_slip_mem (fun inner _ body => sectionVariables_slip_mem body token) read token
  | pipeline =>
    rw [read_block_pipeline] at read
    exact bracedRead_slip_mem (fun inner _ body => pipelineItems_slip_mem body token) read token
termination_by (ts.length, 2)
decreasing_by all_goals exact rank_lt (by grind)

theorem decls_slip_mem {ts : List Token} {s : Slip} {u : Token}
    (read : (decls ts).read = .error s) (token : s.token = some u) : u ∈ ts := by
  cases ts with
  | nil =>
    rw [read_decls_nil] at read
    cases read
    cases token
  | cons t more =>
    rw [read_decls_cons] at read
    split at read
    · cases read
    · split at read
      · rename_i s' failed
        cases read
        exact decl_slip_mem failed token
      · rename_i d after declRead
        have shorter := read_rest_shorter declRead
        exact (decl_suffix declRead).subset (decls_slip_mem (map_eq_error.1 read) token)
termination_by (ts.length, 5)
decreasing_by all_goals exact rank_lt (by grind)

theorem logicItem_slip_mem {t : Token} {more : List Token} {s : Slip} {u : Token}
    (read : (logicItem t more).read = .error s) (token : s.token = some u) : u ∈ t :: more := by
  rw [read_logicItem] at read
  split at read
  · exact decl_slip_mem read token
  · split at read
    · exact variableAt_slip_mem (map_eq_error.1 read) token
    · exact operand_slip_mem (map_eq_error.1 read) token
termination_by ((t :: more).length, 4)
decreasing_by all_goals exact rank_lt (by grind)

theorem logicItems_slip_mem {ts : List Token} {s : Slip} {u : Token}
    (read : (logicItems ts).read = .error s) (token : s.token = some u) : u ∈ ts := by
  cases ts with
  | nil =>
    rw [read_logicItems_nil] at read
    cases read
    cases token
  | cons t more =>
    rw [read_logicItems_cons] at read
    split at read
    · cases read
    · split at read
      · rename_i s' failed
        cases read
        exact logicItem_slip_mem failed token
      · rename_i d after itemRead
        have shorter := read_rest_shorter itemRead
        exact (logicItem_suffix itemRead).subset (logicItems_slip_mem (map_eq_error.1 read) token)
termination_by (ts.length, 5)
decreasing_by all_goals exact rank_lt (by grind)

end

/-! ### The reading functions as sequences of readings -/

theorem read_sectionVariables_seq (t : Token) (more : List Token) :
    (sectionVariables (t :: more)).read =
      if t.is "\x7d" then .ok ([], more)
      else seq (variableAt t more).read fun v rest =>
        (sectionVariables (dropComma rest)).read.map fun r => (v :: r.1, r.2) := by
  rw [read_sectionVariables_cons]
  split
  · rfl
  · rcases (variableAt t more).read with s | ⟨v, rest⟩ <;> rfl

theorem read_elements_seq (t : Token) (more : List Token) (first : Bool) :
    (elements (t :: more) first).read =
      if t.is "]" then (if first then .error ⟨.emptyArray, some t⟩ else .ok ([], more))
      else seq (literal t more).read fun e rest =>
        afterItem "]" .expectedArrayEnd (fun q => (elements q false).read.map fun r => (e :: r.1, r.2)) rest := by
  rw [read_elements_cons]
  split
  · rfl
  · rcases (literal t more).read with s | ⟨e, rest⟩ <;> rfl

def chainAfter (e : Expr) : Reader Chain
  | o :: after =>
    if chainGoesOn [o] then
      (operand after (some o.value)).read.map fun r => (⟨e, (o.value, r.1.first) :: r.1.links⟩, r.2)
    else .ok (⟨e, []⟩, o :: after)
  | [] => .ok (⟨e, []⟩, [])

theorem read_operand_seq (t : Token) (more : List Token) (lastOp : Option String) :
    (operand (t :: more) lastOp).read =
      if t.is "\x7d" || t.is "," then .error ⟨missingOperand lastOp, some t⟩
      else if t.kind = .operator then .error ⟨.missingLeftOperand t.value, some t⟩
      else seq (literal t more).read chainAfter := by
  rw [read_operand_cons]
  split
  · rfl
  · split
    · rfl
    · rcases (literal t more).read with s | ⟨e, _ | ⟨o, after⟩⟩ <;> rfl

theorem read_pipelineItems_seq (t : Token) (more : List Token) :
    (pipelineItems (t :: more)).read =
      if t.is "\x7d" then .ok ([], more)
      else seq (operand (t :: more) none).read fun c rest =>
        afterItem "\x7d" .expectedItemEnd
          (fun q => (pipelineItems q).read.map fun r => (c.group :: r.1, r.2)) rest := by
  rw [read_pipelineItems_cons]
  split
  · rfl
  · rcases (operand (t :: more) none).read with s | ⟨c, rest⟩ <;> rfl

theorem read_decls_seq (t : Token) (more : List Token) :
    (decls (t :: more)).read =
      if t.is "\x7d" then .ok ([], more)
      else seq (decl (t :: more)).read fun d rest => (decls rest).read.map fun r => (d :: r.1, r.2) := by
  rw [read_decls_cons]
  split
  · rfl
  · rcases (decl (t :: more)).read with s | ⟨d, rest⟩ <;> rfl

/-- An item of a logic block read from its first token on; with no token left the block misses
its closing brace. -/
def logicItemRead : Reader Decl
  | t :: more => (logicItem t more).read
  | [] => .error ⟨.missingCloseBrace, none⟩

theorem read_logicItems_seq (t : Token) (more : List Token) :
    (logicItems (t :: more)).read =
      if t.is "\x7d" then .ok ([], more)
      else seq (logicItemRead (t :: more)) fun d rest => (logicItems rest).read.map fun r => (d :: r.1, r.2) := by
  rw [read_logicItems_cons]
  split
  · rfl
  · simp only [logicItemRead]
    rcases (logicItem t more).read with s | ⟨d, rest⟩ <;> rfl

/-! ### Every reading function reads one token more as `OneMore` says -/

theorem variableAt_oneMore (t : Token) (more : List Token) (x : Token) :
    OneMore (fun q => (variableAt t q).read) more x True := by
  by_cases reserved : Keyword.isReserved t.value
  · refine .of_error (s := ⟨.unexpected t.value, some t⟩) ?_ ?_ <;> simp [read_variableAt, reserved]
  cases shaped : Keyword.isNameShaped t.value with
  | false =>
    refine .of_error (s := ⟨.invalidVariableName t.value, some t⟩) ?_ ?_ <;>
      simp [read_variableAt, reserved, shaped]
  | true =>
  rcases more with _ | ⟨colon, _ | ⟨d, more3⟩⟩
  · refine .of_unsettled (i := .expectedColon t.value) (by simp [read_variableAt, reserved, shaped]) ?_
    by_cases colonNext : x.is ":" <;> simp [read_variableAt, reserved, shaped, colonNext]
  · by_cases colonFirst : colon.is ":"
    · refine .of_unsettled (i := .expectedDatatype t.value)
        (by simp [read_variableAt, reserved, shaped, colonFirst]) ?_
      cases datatype : Datatype.ofWord? x.value <;>
        simp [read_variableAt, reserved, shaped, colonFirst, datatype]
    · refine .of_error (s := ⟨.expectedColon t.value, some colon⟩) ?_ ?_ <;>
        simp [read_variableAt, reserved, shaped, colonFirst]
  · by_cases colonFirst : colon.is ":"
    · cases datatype : Datatype.ofWord? d.value with
      | none =>
        refine .of_error (s := ⟨.unknownDatatype d.value, some d⟩) ?_ ?_ <;>
          simp [read_variableAt, reserved, shaped, colonFirst, datatype]
      | some dt =>
        refine .of_ok (v := ⟨t.value, dt⟩) (r := more3) ?_ ?_ <;>
          simp [read_variableAt, reserved, shaped, colonFirst, datatype]
    · refine .of_error (s := ⟨.expectedColon t.value, some colon⟩) ?_ ?_ <;>
        simp [read_variableAt, reserved, shaped, colonFirst]

theorem sectionVariables_oneMore (p : List Token) (x : Token) :
    OneMore (fun q => (sectionVariables q).read) p x True := by
  cases p with
  | nil =>
    exact .nil read_sectionVariables_nil (fun _ _ read => sectionVariables_suffix read)
      (fun _ _ read token => sectionVariables_slip_mem read token)
  | cons t more =>
    have ih : ∀ q, q.length < (t :: more).length → OneMore (fun q => (sectionVariables q).read) q x True :=
      fun q _ => sectionVariables_oneMore q x
    by_cases close : t.is "\x7d"
    · exact .of_ok (v := []) (r := more) (by rw [read_sectionVariables_cons, if_pos close])
        (by rw [List.cons_append, read_sectionVariables_cons, if_pos close])
    have rest := (variableAt_oneMore t more x).seq
      (B := fun v rest => (sectionVariables (dropComma rest)).read.map fun r => (v :: r.1, r.2))
      (fun _ _ read => variableAt_suffix read)
      (fun v r read _ => ((ih (dropComma r) (by
          have := read_rest_shorter read
          have := length_dropComma_le r
          simp only [List.length_cons] at *
          omega)).afterComma (G := fun q => (sectionVariables q).read)
            ⟨_, read_sectionVariables_nil⟩).map (v :: ·))
      (fun v => ((ih [] (by simp)).afterComma (p := []) (G := fun q => (sectionVariables q).read)
        ⟨_, read_sectionVariables_nil⟩).map (v :: ·))
      (fun v => .inr ⟨.missingCloseBrace, by simp [dropComma, read_sectionVariables_nil, Except.map]⟩)
      (fun _ _ _ _ => trivial)
    exact OneMore.cons (rest.congr (by rw [read_sectionVariables_seq, if_neg close])
      (by rw [read_sectionVariables_seq, if_neg close]))
termination_by p.length
decreasing_by assumption

mutual

theorem literal_oneMore (t : Token) (more : List Token) (x : Token) :
    OneMore (fun q => (literal t q).read) more x True := by
  by_cases bracket : t.is "["
  · exact ((elements_oneMore more true x).map Expr.array).congr
      (by rw [read_literal, if_pos bracket]) (by rw [read_literal, if_pos bracket])
  by_cases numeral : Keyword.isNumeral t.value
  · exact .of_ok (v := .numeral t.value) (r := more) (by simp [read_literal, bracket, numeral])
      (by simp [read_literal, bracket, numeral])
  by_cases shaped : Keyword.isNameShaped t.value
  · by_cases reserved : Keyword.isReserved t.value
    · exact .of_error (s := ⟨.reservedIdentifier t.value, some t⟩)
        (by simp [read_literal, bracket, numeral, shaped, reserved])
        (by simp [read_literal, bracket, numeral, shaped, reserved])
    · exact .of_ok (v := .name t.value) (r := more) (by simp [read_literal, bracket, numeral, shaped, reserved])
        (by simp [read_literal, bracket, numeral, shaped, reserved])
  · exact .of_error (s := ⟨.unexpectedInExpression t.value, some t⟩)
      (by simp [read_literal, bracket, numeral, shaped]) (by simp [read_literal, bracket, numeral, shaped])
termination_by ((t :: more).length, 0)
decreasing_by all_goals exact rank_lt (by grind)

theorem elements_oneMore (p : List Token) (first : Bool) (x : Token) :
    OneMore (fun q => (elements q first).read) p x True := by
  cases p with
  | nil =>
    exact .nil (read_elements_nil first) (fun _ _ read => elements_suffix read)
      (fun _ _ read token => elements_slip_mem read token)
  | cons t more =>
    have ih : ∀ q, q.length < (t :: more).length → OneMore (fun q => (elements q false).read) q x True :=
      fun q shorter => elements_oneMore q false x
    have afterElement : ∀ e r, r.length < (t :: more).length →
        OneMore (afterItem "]" .expectedArrayEnd
          (fun q => (elements q false).read.map fun r => (e :: r.1, r.2))) r x True :=
      fun e r shorter => OneMore.afterItem
        (fun q suffix => (ih q (Nat.lt_of_le_of_lt suffix.length_le shorter)).map (e :: ·))
        ⟨.unterminatedArray, by simp [read_elements_nil, Except.map]⟩
    by_cases close : t.is "]"
    · cases first with
      | true =>
        exact .of_error (s := ⟨.emptyArray, some t⟩) (by simp [read_elements_seq, close])
          (by simp [read_elements_seq, close])
      | false =>
        exact .of_ok (v := []) (r := more) (by simp [read_elements_seq, close])
          (by simp [read_elements_seq, close])
    have rest := (literal_oneMore t more x).seq
      (fun _ _ read => literal_suffix read)
      (fun e r read _ => afterElement e r (read_rest_shorter read))
      (fun e => afterElement e [] (by simp))
      (fun e => .inr ⟨.unterminatedArray, by simp [afterItem, startsWith, read_elements_nil, Except.map]⟩)
      (fun _ _ _ _ => trivial)
    exact OneMore.cons (rest.congr (by rw [read_elements_seq, if_neg close])
      (by rw [read_elements_seq, if_neg close]))
termination_by (p.length, 1)
decreasing_by all_goals exact rank_lt (by grind)

end

theorem OneMore.chainAfter {e : Expr} {r : List Token} {x : Token}
    (more : ∀ q, q.length < r.length → ∀ op,
      OneMore (fun q => (operand q op).read) q x (chainGoesOn [x] = false)) :
    OneMore (Parse.chainAfter e) r x (chainGoesOn [x] = false) := by
  rcases r with _ | ⟨o, after⟩
  · -- Nothing follows the operand yet: `x` may go on with the chain, or end it.
    refine ⟨fun s t failed => ?_, fun v r done nonempty => ?_, fun _ => ?_, fun v done ends => ?_⟩
    · cases failed
    · cases done
      exact absurd rfl nonempty
    · by_cases goesOn : chainGoesOn [x]
      · simp [Parse.chainAfter, goesOn, read_operand_nil, Except.map]
      · simp [Parse.chainAfter, goesOn]
    · cases done
      simp [Parse.chainAfter, ends]
  · by_cases goesOn : chainGoesOn [o]
    · refine OneMore.cons (((more after (Nat.lt_succ_self _) (some o.value)).map
        fun c => (⟨e, (o.value, c.first) :: c.links⟩ : Chain)).congr ?_ ?_) <;>
        simp [Parse.chainAfter, goesOn]
    · exact .of_ok (v := ⟨e, []⟩) (r := o :: after) (by simp [Parse.chainAfter, goesOn])
        (by simp [Parse.chainAfter, goesOn])

theorem operand_oneMore (p : List Token) (lastOp : Option String) (x : Token) :
    OneMore (fun q => (operand q lastOp).read) p x (chainGoesOn [x] = false) := by
  cases p with
  | nil =>
    exact .nil (read_operand_nil lastOp) (fun _ _ read => operand_suffix read)
      (fun _ _ read token => operand_slip_mem read token)
  | cons t more =>
    have ih : ∀ q, q.length < (t :: more).length → ∀ op,
        OneMore (fun q => (operand q op).read) q x (chainGoesOn [x] = false) :=
      fun q shorter op => operand_oneMore q op x
    by_cases stop : (t.is "\x7d" || t.is ",")
    · exact .of_error (s := ⟨missingOperand lastOp, some t⟩) (by simp [read_operand_seq, stop])
        (by simp [read_operand_seq, stop])
    by_cases operator : t.kind = .operator
    · exact .of_error (s := ⟨.missingLeftOperand t.value, some t⟩)
        (by simp [read_operand_seq, stop, operator]) (by simp [read_operand_seq, stop, operator])
    have rest := (literal_oneMore t more x).seq (B := Parse.chainAfter)
      (fun _ _ read => literal_suffix read)
      (fun e r read _ => OneMore.chainAfter fun q shorter op =>
        ih q (Nat.lt_trans shorter (read_rest_shorter read)) op)
      (fun e => OneMore.chainAfter fun q shorter => absurd shorter (Nat.not_lt_zero _))
      (fun e => .inl ⟨⟨e, []⟩, rfl⟩)
      (fun _ _ _ _ => trivial)
    exact OneMore.cons (rest.congr (by rw [read_operand_seq, if_neg stop, if_neg operator])
      (by rw [read_operand_seq, if_neg stop, if_neg operator]))
termination_by p.length
decreasing_by assumption

theorem pipelineItems_oneMore (p : List Token) (x : Token) :
    OneMore (fun q => (pipelineItems q).read) p x True := by
  cases p with
  | nil =>
    exact .nil read_pipelineItems_nil (fun _ _ read => pipelineItems_suffix read)
      (fun _ _ read token => pipelineItems_slip_mem read token)
  | cons t more =>
    have ih : ∀ q, q.length < (t :: more).length → OneMore (fun q => (pipelineItems q).read) q x True :=
      fun q shorter => pipelineItems_oneMore q x
    have afterExpression : ∀ (c : Chain) r, r.length < (t :: more).length →
        OneMore (afterItem "\x7d" .expectedItemEnd
          (fun q => (pipelineItems q).read.map fun r => (c.group :: r.1, r.2))) r x True :=
      fun c r shorter => OneMore.afterItem
        (fun q suffix => (ih q (Nat.lt_of_le_of_lt suffix.length_le shorter)).map (c.group :: ·))
        ⟨.missingCloseBrace, by simp [read_pipelineItems_nil, Except.map]⟩
    by_cases close : t.is "\x7d"
    · exact .of_ok (v := []) (r := more) (by simp [read_pipelineItems_seq, close])
        (by simp [read_pipelineItems_seq, close])
    have rest := (operand_oneMore (t :: more) none x).seq
      (fun _ _ read => operand_suffix read)
      (fun c r read _ => afterExpression c r (read_rest_shorter read))
      (fun c => afterExpression c [] (by simp))
      (fun c => .inr ⟨.missingCloseBrace,
        by simp [afterItem, startsWith, read_pipelineItems_nil, Except.map]⟩)
      (fun c v done _ => by simp [afterItem, startsWith, read_pipelineItems_nil, Except.map] at done)
    exact rest.congr (by rw [read_pipelineItems_seq, if_neg close])
      (by rw [List.cons_append, read_pipelineItems_seq, if_neg close])
termination_by p.length
decreasing_by assumption

theorem startsWith_append {more : List Token} (nonempty : more ≠ []) (rest : List Token) (w : String) :
    startsWith (more ++ rest) w = startsWith more w := by
  rcases more with _ | ⟨m, more⟩
  · exact absurd rfl nonempty
  · rfl

theorem operand_single_error {t : Token} {s : Slip} (read : (operand [t] none).read = .error s)
    (fits : t.KindFits) : Keyword.isReserved t.value = true ∨ Keyword.isNameShaped t.value = false := by
  cases reserved : Keyword.isReserved t.value with
  | true => exact .inl rfl
  | false =>
    refine .inr ?_
    cases shaped : Keyword.isNameShaped t.value with
    | false => rfl
    | true =>
      have lead := OperandLead.of_not_reserved reserved
      have notOperator : t.kind ≠ .operator := fun operator => by
        have operatorWord := fits operator
        rw [lead.notOperator] at operatorWord
        cases operatorWord
      have notBracket : t.is "[" = false :=
        not_is_of_value rfl (Keyword.ne_of_not_reserved reserved (by decide))
      simp [read_operand_seq, not_is_of_value rfl lead.notBrace, not_is_of_value rfl lead.notComma,
        notOperator, read_literal, notBracket, Keyword.isNumeral_of_isNameShaped shaped, shaped, reserved,
        Parse.chainAfter] at read

theorem logicItem_lookahead {t x : Token} (keyword : BlockKeyword.ofWord? t.value = none)
    (colon : x.is ":" = true) : OneMore logicItemRead [t] x (Ends x) where
  stopped s u failed token fits := by
    have operandFailed : (operand [t] none).read = .error s := by
      simp only [logicItemRead, read_logicItem, keyword, startsWith, Bool.false_eq_true, if_false] at failed
      exact map_eq_error.1 failed
    obtain rfl : u = t := List.mem_singleton.1 (operand_slip_mem operandFailed token)
    by_cases reserved : Keyword.isReserved u.value
    · exact .inr ⟨colon, [], ⟨.unexpected u.value, some u⟩, rfl,
        by simp [logicItemRead, read_logicItem, keyword, startsWith, colon, read_variableAt, reserved,
          Except.map], .inl rfl⟩
    · have shaped := (operand_single_error operandFailed fits).resolve_left reserved
      exact .inr ⟨colon, [], ⟨.invalidVariableName u.value, some u⟩, rfl,
        by simp [logicItemRead, read_logicItem, keyword, startsWith, colon, read_variableAt, reserved,
          shaped, Except.map], .inr rfl⟩
  read v r done nonempty := by
    simp only [logicItemRead, read_logicItem, keyword, startsWith, Bool.false_eq_true, if_false] at done
    obtain ⟨⟨c, rest⟩, operandRead, same⟩ := map_eq_ok.1 done
    obtain ⟨-, rfl⟩ := Prod.mk.inj same
    have shorter := read_rest_shorter operandRead
    obtain rfl : rest = [] := List.length_eq_zero_iff.1 (by simp only [List.length_singleton] at shorter; omega)
    exact absurd rfl nonempty
  unsettled _ := by
    -- After the colon the token is a variable's name: it is none, or the variable needs a
    -- datatype.
    by_cases reserved : Keyword.isReserved t.value
    · exact .inr (.inr ⟨colon, [], t, _, rfl,
        by simp [logicItemRead, read_logicItem, keyword, startsWith, colon, read_variableAt, reserved,
          Except.map], .inl rfl⟩)
    · by_cases shaped : Keyword.isNameShaped t.value
      · simp [logicItemRead, read_logicItem, keyword, startsWith, colon, read_variableAt, reserved,
          shaped, Except.map]
      · exact .inr (.inr ⟨colon, [], t, _, rfl,
          by simp [logicItemRead, read_logicItem, keyword, startsWith, colon, read_variableAt, reserved,
            shaped, Except.map], .inr rfl⟩)
  ended v done ends := by
    rw [ends.2.2] at colon
    cases colon

mutual

theorem decl_oneMore (p : List Token) (x : Token) : OneMore (fun q => (decl q).read) p x True := by
  cases p with
  | nil =>
    exact .nil read_decl_nil (fun _ _ read => decl_suffix read)
      (fun _ _ read token => decl_slip_mem read token)
  | cons t more =>
    cases keyword : BlockKeyword.ofWord? t.value with
    | some k =>
      exact OneMore.cons ((block_oneMore k t.value more x).congr (by simp [read_decl_cons, keyword])
        (by simp [read_decl_cons, keyword]))
    | none =>
      by_cases reserved : Keyword.isReserved t.value
      · exact .of_error (s := ⟨.unexpected t.value, some t⟩) (by simp [read_decl_cons, keyword, reserved])
          (by simp [read_decl_cons, keyword, reserved])
      · exact OneMore.cons (((variableAt_oneMore t more x).map Decl.var).congr
          (by simp [read_decl_cons, keyword, reserved]) (by simp [read_decl_cons, keyword, reserved]))
termination_by (p.length, 3)
decreasing_by all_goals exact rank_lt (by grind)

theorem block_oneMore (k : BlockKeyword) (word : String) (p : List Token) (x : Token) :
    OneMore (fun q => (block k word q).read) p x True := by
  cases k with
  | component =>
    exact (OneMore.namedBlockRead (fun inner => (decls inner).read) Decl.component
      (fun inner shorter => decls_oneMore inner x) ⟨_, read_decls_nil⟩).congr
      (read_block_component word _) (read_block_component word _)
  | logic =>
    exact (OneMore.namedBlockRead (fun inner => (logicItems inner).read) Decl.logic
      (fun inner shorter => logicItems_oneMore inner x) ⟨_, read_logicItems_nil⟩).congr
      (read_block_logic word _) (read_block_logic word _)
  | global =>
    exact (OneMore.bracedRead (fun inner => (decls inner).read) Decl.global
      (fun inner shorter => decls_oneMore inner x) ⟨_, read_decls_nil⟩).congr
      (read_block_global word _) (read_block_global word _)
  | publicSection =>
    exact (OneMore.bracedRead (fun inner => (sectionVariables inner).read) Decl.publicSection
      (fun inner _ => sectionVariables_oneMore inner x)
      ⟨_, read_sectionVariables_nil⟩).congr (read_block_public word _) (read_block_public word _)
  | privateSection =>
    exact (OneMore.bracedRead (fun inner => (sectionVariables inner).read) Decl.privateSection
      (fun inner _ => sectionVariables_oneMore inner x)
      ⟨_, read_sectionVariables_nil⟩).congr (read_block_private word _) (read_block_private word _)
  | pipeline =>
    exact (OneMore.bracedRead (fun inner => (pipelineItems inner).read) Decl.pipeline
      (fun inner _ => pipelineItems_oneMore inner x) ⟨_, read_pipelineItems_nil⟩).congr
      (read_block_pipeline word _) (read_block_pipeline word _)
termination_by (p.length, 2)
decreasing_by all_goals exact rank_lt (by grind)

theorem decls_oneMore (p : List Token) (x : Token) : OneMore (fun q => (decls q).read) p x True := by
  cases p with
  | nil =>
    exact .nil read_decls_nil (fun _ _ read => decls_suffix read)
      (fun _ _ read token => decls_slip_mem read token)
  | cons t more =>
    have ih : ∀ q, q.length < (t :: more).length → OneMore (fun q => (decls q).read) q x True :=
      fun q shorter => decls_oneMore q x
    by_cases close : t.is "\x7d"
    · exact .of_ok (v := []) (r := more) (by simp [read_decls_seq, close])
        (by simp [read_decls_seq, close])
    have rest := (decl_oneMore (t :: more) x).seq
      (B := fun d rest => (decls rest).read.map fun r => (d :: r.1, r.2))
      (fun _ _ read => decl_suffix read)
      (fun d r read _ => (ih r (read_rest_shorter read)).map (d :: ·))
      (fun d => (ih [] (by simp)).map (d :: ·))
      (fun d => .inr ⟨.missingCloseBrace, by simp [read_decls_nil, Except.map]⟩)
      (fun _ _ _ _ => trivial)
    exact rest.congr (by rw [read_decls_seq, if_neg close])
      (by rw [List.cons_append, read_decls_seq, if_neg close])
termination_by (p.length, 5)
decreasing_by all_goals exact rank_lt (by grind)

theorem logicItem_oneMore (t : Token) (more : List Token) (x : Token) :
    OneMore logicItemRead (t :: more) x (Ends x) := by
  cases keyword : BlockKeyword.ofWord? t.value with
  | some k =>
    exact ((decl_oneMore (t :: more) x).weaken fun _ => trivial).congr
      (by simp [logicItemRead, read_logicItem, keyword]) (by simp [logicItemRead, read_logicItem, keyword])
  | none =>
    by_cases isVariable : startsWith more ":"
    · -- A colon after the first token makes the item a variable, whatever follows.
      have nonempty : more ≠ [] := by
        rintro rfl
        cases isVariable
      exact OneMore.cons ((((variableAt_oneMore t more x).map Decl.var).weaken fun _ => trivial).congr
        (by simp [logicItemRead, read_logicItem, keyword, isVariable])
        (by simp [logicItemRead, read_logicItem, keyword, startsWith_append nonempty, isVariable]))
    · by_cases lookahead : more = [] ∧ x.is ":" = true
      · obtain ⟨rfl, colon⟩ := lookahead
        exact logicItem_lookahead keyword colon
      have stillExpression : startsWith (more ++ [x]) ":" = false := by
        rcases more with _ | ⟨m, more'⟩
        · simpa [startsWith] using lookahead
        · simpa [startsWith] using isVariable
      exact (((operand_oneMore (t :: more) none x).mapDropComma fun c => Decl.expression c.group).weaken
        fun ends => ⟨ends.1, ends.2.1⟩).congr
        (by simp [logicItemRead, read_logicItem, keyword, isVariable])
        (by simp [logicItemRead, read_logicItem, keyword, stillExpression])
termination_by ((t :: more).length, 4)
decreasing_by all_goals exact rank_lt (by grind)

theorem logicItems_oneMore (p : List Token) (x : Token) :
    OneMore (fun q => (logicItems q).read) p x True := by
  cases p with
  | nil =>
    exact .nil read_logicItems_nil (fun _ _ read => logicItems_suffix read)
      (fun _ _ read token => logicItems_slip_mem read token)
  | cons t more =>
    have ih : ∀ q, q.length < (t :: more).length → OneMore (fun q => (logicItems q).read) q x True :=
      fun q shorter => logicItems_oneMore q x
    by_cases close : t.is "\x7d"
    · exact .of_ok (v := []) (r := more) (by simp [read_logicItems_seq, close])
        (by simp [read_logicItems_seq, close])
    have rest := (logicItem_oneMore t more x).seq
      (B := fun d rest => (logicItems rest).read.map fun r => (d :: r.1, r.2))
      (fun _ _ read => logicItem_suffix read)
      (fun d r read _ => (ih r (read_rest_shorter read)).map (d :: ·))
      (fun d => (ih [] (by simp)).map (d :: ·))
      (fun d => .inr ⟨.missingCloseBrace, by simp [read_logicItems_nil, Except.map]⟩)
      (fun d v done _ => by simp [read_logicItems_nil, Except.map] at done)
    exact rest.congr (by rw [read_logicItems_seq, if_neg close])
      (by rw [List.cons_append, read_logicItems_seq, if_neg close])
termination_by (p.length, 5)
decreasing_by all_goals exact rank_lt (by grind)

end

theorem logicItemRead_oneMore (p : List Token) (x : Token) : OneMore logicItemRead p x (Ends x) := by
  cases p with
  | nil =>
    exact .nil rfl (fun _ _ read => logicItem_suffix read)
      (fun _ _ read token => logicItem_slip_mem read token)
  | cons t more => exact logicItem_oneMore t more x

/-- The declarations of a whole token list, as a reader that leaves nothing. -/
def topRead : Reader (List Decl) := fun ts => (topDecls ts).map fun ds => (ds, [])

theorem topRead_nil : topRead [] = .ok ([], []) := by
  simp [topRead, topDecls_nil, Except.map]

theorem topRead_cons (t : Token) (more : List Token) :
    topRead (t :: more) =
      seq (decl (t :: more)).read fun d rest => (topRead rest).map fun r => (d :: r.1, r.2) := by
  unfold topRead
  rw [topDecls_cons]
  rcases (decl (t :: more)).read with s | ⟨d, rest⟩
  · rfl
  · simp only [seq_ok]
    cases topDecls rest <;> rfl

theorem topRead_oneMore (p : List Token) (x : Token) : OneMore topRead p x False := by
  cases p with
  | nil =>
    refine ⟨fun s t failed => ?_, fun v r done nonempty => ?_, fun _ => ?_, fun _ _ impossible => impossible.elim⟩
    · rw [topRead_nil] at failed
      cases failed
    · rw [topRead_nil] at done
      cases done
      exact absurd rfl nonempty
    · rw [List.nil_append, topRead_cons]
      rcases (decl_oneMore [] x).unsettled (.inr ⟨_, read_decl_nil⟩) with
        ⟨d, done | done⟩ | ⟨i, failed | failed⟩ | ⟨_, c, t, s, split, _⟩
      · rw [List.nil_append] at done
        rw [done, seq_ok, topRead_nil]
        exact .ok_nil
      · have shorter := read_rest_shorter done
        simp at shorter
      · rw [List.nil_append] at failed
        rw [failed, seq_error]
        exact .error_none
      · rw [List.nil_append] at failed
        rw [failed, seq_error]
        exact .error_at
      · exact absurd split (by simp)
  | cons t more =>
    have ih : ∀ q, q.length < (t :: more).length → OneMore topRead q x False :=
      fun q shorter => topRead_oneMore q x
    have rest := (decl_oneMore (t :: more) x).seq
      (B := fun d rest => (topRead rest).map fun r => (d :: r.1, r.2))
      (fun _ _ read => decl_suffix read)
      (fun d r read _ => (ih r (read_rest_shorter read)).map (d :: ·))
      (fun d => (ih [] (by simp)).map (d :: ·))
      (fun d => .inl ⟨[d], by simp [topRead_nil, Except.map]⟩)
      (fun _ _ _ _ => trivial)
    exact rest.congr (topRead_cons t more) (by rw [List.cons_append, topRead_cons])
termination_by p.length
decreasing_by assumption

end Parse

end Circuitry
