import DialogGate.Expr.Cursor
import DialogGate.Proofs.Operator.Positions
import Mathlib.Logic.Relation

/-! # A cursor at work

A cursor answers queries in single moves (`Work.next?`): it takes up the next query, and while it
looks for an operator each move is a step of the search (`Checked.advance`), over a group, over an
operator or over one other character. `Cursor.run` is where these moves lead (`reaches_run`).

However often and in whichever order it is asked, a cursor stays in its text and outside all
parentheses. A search that succeeds leaves nothing to find, one that fails leaves the cursor on the
`(` that is never closed, and a search for a `)` leaves no trace (`Cursor.run_sound`). What a move
does is said once (`Moves`); the invariant `Work.Inv` follows by cases on it.
-/

namespace DialogGate

open Occurrence

/-- The outcome of a search in which nothing happened that must not. -/
def Checked.verdict? {α : Type} : Except Stop α → Option (Except ParseError α)
  | .ok found => some (.ok found)
  | .error (.rejected e) => some (.error e)
  | .error (.fault _) => none

namespace Cursor

theorem verdict?_matchingParen {c : Cursor} {i : Nat} (h : c.text[i]? = some '(') :
    Checked.verdict? (Checked.matchingParen c.text i) = some (c.closing i) := by
  obtain ⟨rest, hrest⟩ := getElem?_eq_some_iff_drop.1 h
  rw [Checked.matchingParen_eq hrest, closing, hrest]
  cases closing? ('(' :: rest) <;> rfl

/-- What an answer says of every later one: after a search that succeeded there is nothing to find,
and one that failed fails again. -/
def Settles : Answer → Answer → Prop
  | .loosest (.ok _), .loosest later => later = .ok none
  | .loosest (.error e), .loosest later => later = .error e
  | _, _ => True

/-! ## Moves -/

/-- A cursor with the queries that it still has to answer and the answers it has given. While it
looks for an operator, `search` is the one to cut at among those it has passed. -/
structure Work where
  cursor : Cursor
  search : Option (Option Occurrence)
  queries : List Query
  answers : List Answer

namespace Work

/-- Nothing has been answered yet. -/
def ofQueries (text : Text) (queries : List Query) : Work := ⟨start text, none, queries, []⟩

/-- The first queries have been answered, the later ones have not. -/
def between (text : Text) (before later : List Query) : Work :=
  ⟨((start text).run before).2, none, later, ((start text).run before).1⟩

/-- The search goes on from another position. -/
def goTo (w : Work) (position : Nat) (best : Option Occurrence) : Work :=
  { w with cursor := ⟨w.cursor.text, position⟩, search := some best }

/-- The search, if there is one, ends with an answer. -/
def give (w : Work) (answer : Answer) : Work :=
  { w with search := none, answers := w.answers ++ [answer] }

/-- One move of a search for an operator, which is a step of that search. -/
def seek (w : Work) (best : Option Occurrence) : Option Work :=
  (Checked.verdict? (Checked.advance w.cursor.text w.cursor.position best)).map fun
    | .ok none => w.give (.loosest (.ok best))
    | .ok (some (position, best)) => w.goTo position best
    | .error e => w.give (.loosest (.error e))

/-- One move; there is none when all queries are answered or if something would happen that must
not. -/
def next? (w : Work) : Option Work :=
  match w.search, w.queries with
  | some best, _ => w.seek best
  | none, [] => none
  | none, .loosest :: later => some { w with search := some none, queries := later }
  | none, .closing i :: later =>
    (Checked.verdict? (Checked.matchingParen w.cursor.text i)).map fun found =>
      { w with queries := later }.give (.closing found)

/-- Moves lead from one to the other. -/
def Reaches (v w : Work) : Prop := Relation.ReflTransGen (fun v w => v.next? = some w) v w

/-- What a move does. -/
inductive Moves (w : Work) : Work → Prop
  | begins {later : List Query} : w.search = none → w.queries = .loosest :: later →
      Moves w { w with search := some none, queries := later }
  | closes {i : Nat} {later : List Query} (found : Except ParseError Nat) : w.search = none →
      w.queries = .closing i :: later →
      Moves w ({ w with queries := later }.give (.closing found))
  | goes {n : Nat} {best best' : Option Occurrence} : w.search = some best →
      Step (w.cursor.text.drop w.cursor.position) n →
      Moves w (w.goTo (w.cursor.position + n) best')
  | finds {best : Option Occurrence} : w.search = some best →
      w.cursor.text.length ≤ w.cursor.position → Moves w (w.give (.loosest (.ok best)))
  | fails {best : Option Occurrence} : w.search = some best →
      Unclosed w.cursor.text w.cursor.position →
      Moves w (w.give (.loosest (.error (.unterminated w.cursor.text w.cursor.position))))

section
variable {w w' : Work} {best : Option Occurrence}

theorem moves_of_seek (hs : w.search = some best) (h : w.seek best = some w') : Moves w w' := by
  have htells := Checked.tells_advance w.cursor.text w.cursor.position best
  rw [seek] at h
  match hstep : Checked.advance w.cursor.text w.cursor.position best with
  | .ok none =>
    rw [hstep] at h htells
    obtain rfl := Option.some.inj h
    exact .finds hs htells
  | .ok (some (next, best')) =>
    rw [hstep] at h htells
    obtain rfl := Option.some.inj h
    obtain ⟨n, hn, rfl⟩ := htells
    exact .goes hs hn
  | .error stop =>
    rw [hstep] at h htells
    obtain ⟨rfl, hu⟩ := htells
    obtain rfl := Option.some.inj h
    exact .fails hs hu

theorem moves_of_next? (h : w.next? = some w') : Moves w w' := by
  unfold next? at h
  split at h
  · next hs => exact moves_of_seek hs h
  · cases h
  · next hs hq =>
    obtain rfl := Option.some.inj h
    exact .begins hs hq
  · next hs hq =>
    obtain ⟨found, -, rfl⟩ := Option.map_eq_some_iff.1 h
    exact .closes found hs hq

end

/-! ## What moves keep -/

/-- The cursor is where a scan of the text stops. If a search has succeeded, it is at the end with
nothing found since; if one has failed, it is on the `(` that was reported. -/
structure Inv (text : Text) (w : Work) : Prop where
  text_eq : w.cursor.text = text
  reached : Reached text w.cursor.position
  settled : w.answers.Pairwise Settles
  ofOk : ∀ found, .loosest (.ok found) ∈ w.answers →
    w.cursor.position = text.length ∧ ∀ best, w.search = some best → best = none
  ofError : ∀ e, .loosest (.error e) ∈ w.answers →
    e = .unterminated text w.cursor.position ∧ Unclosed text w.cursor.position

section
variable {text : Text} {v w : Work}

theorem inv_ofQueries (text : Text) (queries : List Query) : Inv text (ofQueries text queries) where
  text_eq := rfl
  reached := .front
  settled := .nil
  ofOk _ h := absurd h List.not_mem_nil
  ofError _ h := absurd h List.not_mem_nil

theorem Inv.give (hi : Inv text v) {answer : Answer} (hsettles : ∀ a ∈ v.answers, Settles a answer)
    (hok : ∀ found, answer = .loosest (.ok found) → v.cursor.position = text.length)
    (herror : ∀ e, answer = .loosest (.error e) →
      e = .unterminated text v.cursor.position ∧ Unclosed text v.cursor.position) :
    Inv text (v.give answer) := by
  refine ⟨hi.text_eq, hi.reached, ?_, fun found ho => ⟨?_, fun best hb => by cases hb⟩,
    fun e he => ?_⟩
  · refine List.pairwise_append.2 ⟨hi.settled, List.pairwise_singleton _ _, fun a ha b hb => ?_⟩
    obtain rfl := List.mem_singleton.1 hb
    exact hsettles a ha
  · rcases List.mem_append.1 ho with ho | ho
    · exact (hi.ofOk found ho).1
    · exact hok found (List.mem_singleton.1 ho).symm
  · rcases List.mem_append.1 he with he | he
    · exact hi.ofError e he
    · exact herror e (List.mem_singleton.1 he).symm

theorem Inv.goTo (hi : Inv text v) {n : Nat} (best : Option Occurrence)
    (h : Step (text.drop v.cursor.position) n) :
    Inv text (v.goTo (v.cursor.position + n) best) := by
  refine ⟨hi.text_eq, hi.reached.step h, hi.settled, fun found ho => ?_, fun e he => ?_⟩
  · have hle := h.le_length
    have hpos := h.pos
    rw [List.length_drop, (hi.ofOk found ho).1] at hle
    omega
  · exact absurd (hi.ofError e he).2 fun hu => h.not_unclosed (unclosed_drop_iff.2 hu)

theorem Inv.settles_of_atEnd (hi : Inv text v) {best : Option Occurrence}
    (hs : v.search = some best) (hend : text.length ≤ v.cursor.position) :
    ∀ a ∈ v.answers, Settles a (.loosest (.ok best)) := by
  intro a ha
  match a with
  | .loosest (.ok found) =>
    obtain rfl := (hi.ofOk found ha).2 best hs
    rfl
  | .loosest (.error e) => exact absurd hend (Nat.not_le.2 (hi.ofError e ha).2.lt_length)
  | .closing found => trivial

theorem Inv.settles_of_unclosed (hi : Inv text v) (hu : Unclosed text v.cursor.position) :
    ∀ a ∈ v.answers, Settles a (.loosest (.error (.unterminated text v.cursor.position))) := by
  intro a ha
  match a with
  | .loosest (.ok found) => exact absurd (hi.ofOk found ha).1 (Nat.ne_of_lt hu.lt_length)
  | .loosest (.error e) =>
    obtain rfl := (hi.ofError e ha).1
    rfl
  | .closing found => trivial

theorem Inv.move (hi : Inv text v) (h : Moves v w) : Inv text w := by
  obtain rfl := hi.text_eq
  cases h with
  | begins hs hq =>
    exact ⟨rfl, hi.reached, hi.settled, fun found ho =>
      ⟨(hi.ofOk found ho).1, fun best hb => (Option.some.inj hb).symm⟩, hi.ofError⟩
  | @closes i later found hs hq =>
    have hi' : Inv v.cursor.text { v with queries := later } :=
      ⟨rfl, hi.reached, hi.settled, hi.ofOk, hi.ofError⟩
    refine hi'.give (fun a ha => ?_) (fun _ h => by cases h) (fun _ h => by cases h)
    match a with
    | .loosest (.ok _) | .loosest (.error _) | .closing _ => trivial
  | goes hs hstep => exact hi.goTo _ hstep
  | finds hs hend =>
    refine hi.give (hi.settles_of_atEnd hs hend) (fun _ _ => ?_) (fun _ h => by cases h)
    exact Nat.le_antisymm hi.reached.le_length hend
  | fails hs hu =>
    refine hi.give (hi.settles_of_unclosed hu) (fun _ h => by cases h) fun e he => ?_
    cases he
    exact ⟨rfl, hu⟩

theorem Inv.reaches (hi : Inv text v) (h : v.Reaches w) : Inv text w := by
  induction h with
  | refl => exact hi
  | tail _ hm ih => exact ih.move (moves_of_next? hm)

end

/-! ## Where moves lead -/

section
variable {text : Text} {c : Cursor} {before later : List Query} {answers : List Answer}

theorem next?_closing {w : Work} {i : Nat} (hs : w.search = none)
    (hq : w.queries = .closing i :: later) (h : w.cursor.text[i]? = some '(') :
    w.next? = some ({ w with queries := later }.give (.closing (w.cursor.closing i))) := by
  rw [next?, hs, hq]
  simp only [verdict?_matchingParen h, Option.map_some]

/-- The moves of a search lead where its steps lead. -/
theorem reaches_seekLoosest {position : Nat} {best : Option Occurrence}
    {found : Except ParseError (Option Occurrence)}
    (h : Checked.verdict? (Checked.seekLoosest text position best).1 = some found) :
    (⟨⟨text, position⟩, some best, later, answers⟩ : Work).Reaches
      ⟨⟨text, (Checked.seekLoosest text position best).2⟩, none, later,
        answers ++ [.loosest found]⟩ := by
  fun_induction Checked.seekLoosest text position best with
  | case1 position best stop hstep =>
    match stop with
    | .fault f => cases h
    | .rejected e =>
      obtain rfl := Option.some.inj h
      refine .single ?_
      simp only [next?, seek, hstep]
      rfl
  | case2 position best hstep =>
    obtain rfl := Option.some.inj h
    refine .single ?_
    simp only [next?, seek, hstep]
    rfl
  | case3 position best next best' hstep ih =>
    refine .head ?_ (ih h)
    simp only [next?, seek, hstep]
    rfl

/-- A search that starts inside the text happens without a fault, and `Cursor.loosest` is its
result. -/
theorem loosest_eq_seekLoosest (hle : c.position ≤ c.text.length) :
    Checked.verdict? (Checked.seekLoosest c.text c.position none).1 = some c.loosest.1 ∧
      c.loosest.2 = ⟨c.text, (Checked.seekLoosest c.text c.position none).2⟩ := by
  rw [Checked.seekLoosest_eq hle rfl, loosest]
  cases outside c.position (c.text.drop c.position) with
  | ok found =>
    refine ⟨?_, rfl⟩
    simp only [Checked.foldl_choose_none]
    rfl
  | error first => exact ⟨rfl, rfl⟩

/-- Moves answer the next query as `Cursor.ask` does. -/
theorem reaches_ask {query : Query} (hle : c.position ≤ c.text.length)
    (h : ∀ i, query = .closing i → c.text[i]? = some '(') :
    (⟨c, none, query :: later, answers⟩ : Work).Reaches
      ⟨(c.ask query).2, none, later, answers ++ [(c.ask query).1]⟩ := by
  cases query with
  | closing i => exact .single (next?_closing rfl rfl (h i rfl))
  | loosest =>
    obtain ⟨hfound, hcursor⟩ := loosest_eq_seekLoosest hle
    have hbegin : (⟨c, none, .loosest :: later, answers⟩ : Work).next? =
        some ⟨c, some none, later, answers⟩ := rfl
    rw [ask, hcursor]
    exact .head hbegin (reaches_seekLoosest hfound)

/-- Moves answer queries as `Cursor.run` does. -/
theorem reaches_run (hi : Inv text ⟨c, none, before ++ later, answers⟩)
    (h : ∀ i, .closing i ∈ before → text[i]? = some '(') :
    (⟨c, none, before ++ later, answers⟩ : Work).Reaches
      ⟨(c.run before).2, none, later, answers ++ (c.run before).1⟩ := by
  induction before generalizing c answers with
  | nil =>
    rw [run, List.append_nil]
    exact .refl
  | cons query before ih =>
    obtain rfl : c.text = text := hi.text_eq
    have hask : (⟨c, none, query :: (before ++ later), answers⟩ : Work).Reaches
        ⟨(c.ask query).2, none, before ++ later, answers ++ [(c.ask query).1]⟩ :=
      reaches_ask hi.reached.le_length fun i hq => h i (hq ▸ List.mem_cons_self)
    have hrun := ih (hi.reaches hask) fun i hq => h i (List.mem_cons_of_mem _ hq)
    rw [List.append_assoc, List.singleton_append] at hrun
    exact hask.trans hrun

end

end Work

/-! ## Runs -/

theorem ask_text (c : Cursor) (query : Query) : (c.ask query).2.text = c.text := by
  cases query with
  | closing i => rfl
  | loosest =>
    rw [ask, loosest]
    cases outside c.position (c.text.drop c.position) <;> rfl

theorem run_text (c : Cursor) (queries : List Query) : (c.run queries).2.text = c.text := by
  induction queries generalizing c with
  | nil => rfl
  | cons query later ih => exact (ih _).trans (ask_text c query)

theorem length_run (c : Cursor) (queries : List Query) :
    (c.run queries).1.length = queries.length := by
  induction queries generalizing c with
  | nil => rfl
  | cons query later ih => exact congrArg (· + 1) (ih _)

theorem run_cons (c : Cursor) (query : Query) (later : List Query) :
    c.run (query :: later) =
      ((c.ask query).1 :: ((c.ask query).2.run later).1, ((c.ask query).2.run later).2) := rfl

theorem run_append (c : Cursor) (before after : List Query) :
    c.run (before ++ after) =
      ((c.run before).1 ++ ((c.run before).2.run after).1, ((c.run before).2.run after).2) := by
  induction before generalizing c with
  | nil => rfl
  | cons query before ih =>
    rw [List.cons_append, run_cons, run_cons, ih]
    rfl

/-- A search for a `)` has the answer it would have at once, and leaves no other trace. -/
theorem run_closing (c : Cursor) (before after : List Query) (i : Nat) :
    ∃ front back last, front.length = before.length ∧
      c.run (before ++ after) = (front ++ back, last) ∧
      c.run (before ++ .closing i :: after) = (front ++ .closing (c.closing i) :: back, last) := by
  refine ⟨_, _, _, length_run c before, run_append c before after, ?_⟩
  have hclosing : (c.run before).2.closing i = c.closing i := by
    rw [closing, closing, run_text]
  rw [run_append, run, ask, hclosing]

/-- A cursor at any moment of its work, also within a search: it is in its text, it is not inside
parentheses, and after a search that failed it is on the `(` that was reported. -/
structure Standing (text : Text) (w : Work) : Prop where
  text_eq : w.cursor.text = text
  le_length : w.cursor.position ≤ text.length
  not_inside : ∀ i group, IsGroup group → group <+: text.drop i →
    w.cursor.position ≤ i ∨ i + group.length ≤ w.cursor.position
  stays : ∀ e, .loosest (.error e) ∈ w.answers →
    e = .unterminated text w.cursor.position ∧ text[w.cursor.position]? = some '('

theorem Work.Inv.standing {text : Text} {w : Work} (hi : Work.Inv text w) : Standing text w where
  text_eq := hi.text_eq
  le_length := hi.reached.le_length
  not_inside _ _ hg hprefix := hi.reached.not_inside hg hprefix
  stays e he := ⟨(hi.ofError e he).1, (hi.ofError e he).2.opens⟩

/-- A cursor that is asked these queries from the front of a text. Its moves pass through what
`Cursor.run` says of the first queries, and without one of the searches for a `)` everything else
would be the same. -/
structure Sound (text : Text) (queries : List Query) : Prop where
  passes : ∀ before later, queries = before ++ later →
    (Work.ofQueries text queries).Reaches (Work.between text before later)
  standing : ∀ w, (Work.ofQueries text queries).Reaches w → Standing text w
  settled : ((start text).run queries).1.Pairwise Settles
  closing : ∀ before i after, queries = before ++ .closing i :: after →
    ∃ front back last, front.length = before.length ∧
      (start text).run (before ++ after) = (front ++ back, last) ∧
      (start text).run queries = (front ++ .closing ((start text).closing i) :: back, last)

/-- A cursor may be asked for operators, and for the `)` of any `(`, as often and in whichever order
one likes. -/
theorem run_sound {text : Text} {queries : List Query}
    (h : ∀ i, .closing i ∈ queries → text[i]? = some '(') : Sound text queries := by
  have hinv := Work.inv_ofQueries text queries
  have hpasses : ∀ before later, queries = before ++ later →
      (Work.ofQueries text queries).Reaches (Work.between text before later) := by
    rintro before later rfl
    exact Work.reaches_run hinv fun i hi => h i (List.mem_append_left _ hi)
  refine ⟨hpasses, fun w hw => (hinv.reaches hw).standing, ?_, ?_⟩
  · exact (hinv.reaches (hpasses queries [] (List.append_nil _).symm)).settled
  · rintro before i after rfl
    exact run_closing (start text) before after i

/-- In `(1 < 2)*(3 - 4` every search for an operator ends on the second `(`, whatever has been asked
before. -/
theorem run_sound_unclosed :
    let text : Text := "(1 < 2)*(3 - 4".toList
    let queries : List Query := [.loosest, .closing 0, .closing 8, .loosest]
    (∀ i, .closing i ∈ queries → text[i]? = some '(') ∧ Sound text queries ∧
      ((start text).run queries).1 = [.loosest (.error (.unterminated text 8)), .closing (.ok 6),
        .closing (.error (.unterminated text 8)), .loosest (.error (.unterminated text 8))] := by
  intro text queries
  have h : ∀ i, .closing i ∈ queries → text[i]? = some '(' := by
    intro i hi
    simp only [queries, List.mem_cons, List.not_mem_nil, reduceCtorEq, Query.closing.injEq,
      false_or, or_false] at hi
    rcases hi with rfl | rfl <;> rfl
  have hagain : outside 8 (text.drop 8) = .error 8 := outside_unclosed rfl 8
  have hbehind : outside 7 (text.drop 7) = .error 8 := by
    rw [outside_operator (show Operator.atFront? (text.drop 7) = some (.binary .multiply) from rfl)]
    exact congrArg (Except.map _) hagain
  have hfirst : outside 0 text = .error 8 := (outside_group rfl 0).trans hbehind
  refine ⟨h, run_sound h, ?_⟩
  simp only [queries, run, ask, loosest, start, List.drop_zero, hfirst, hagain]
  rfl

end Cursor

end DialogGate
