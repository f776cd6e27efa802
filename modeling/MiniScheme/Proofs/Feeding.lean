import Mathlib.Data.List.Basic
import MiniScheme.Proofs.PrintedLine
import MiniScheme.Repl.Basic

/- One line of expressions against several lines. A printed form is a line that is
   neither split nor trimmed, so an input made of printed forms, each with a line
   feed behind it, feeds them one by one (`feedEach_cons`). A line of printed forms
   is no command and holds just the expressions, which are evaluated in order
   (`feed_printedLine`); it goes on to the next one exactly if the evaluation of the
   last one ended with a value (`evalItems_cons`). So by induction over the
   expressions it comes to the same state as feeding them up to the one where they
   stop (`evalItems_stops`). Main statement: a line of printed forms comes to the
   same as their lines up to the first failure (`feed_line_of_expressions`). An
   input is typed, so a backspace in it erases; without any it is taken as it stands
   (`feedInput_unlines`), and the same holds of inputs
   (`StopsAt.feedInput_printedLine`). -/
namespace MiniScheme.Repl

/-- What the loop takes for a command if it stands alone on a line. -/
def commands : List String := [":help", ":env", ":forms", ":quit", ":exit"]

/-- Takes the lines of an input in order, as they stand. -/
def feedLines (r : Repl) (input : String) : Repl :=
  (lines input.toList).foldl (fun r line => r.feed (String.ofList line)) r

/-- Takes expressions in their printed forms, each on a line of its own. -/
def feedEach (r : Repl) (vs : List Value) : Repl := r.feedLines (unlines (vs.map Value.display))

/-- The evaluation of an expression in the state of the loop ends with a value. -/
def Evaluates (r : Repl) (v : Value) : Prop :=
  ∃ result after, r.interp.eval v r.state = .ok result after

/-- Feeding expressions one by one, the first failure is that of the expression number `k`,
    counted from zero; or none of them fails, or the last one only, and it is the last one. -/
structure StopsAt (r : Repl) (vs : List Value) (k : Nat) : Prop where
  inside : k < vs.length
  before : ∀ i v, i < k → vs[i]? = some v → (r.feedEach (vs.take i)).Evaluates v
  failed : k + 1 < vs.length → ∀ v, vs[k]? = some v → ¬ (r.feedEach (vs.take k)).Evaluates v

/-! Lines. -/

theorem lines_append {line : List Char} (unbroken : '\n' ∉ line) (rest : List Char) :
    lines (line ++ '\n' :: rest) = line :: lines rest := by
  induction line with
  | nil => simp [lines]
  | cons c line ih =>
    obtain ⟨other, unbroken⟩ := not_or.mp (mt List.mem_cons.mpr unbroken)
    rw [List.cons_append, lines, if_neg (Ne.symm other), ih unbroken]

/-- What stands on a line of a text stands in the text. -/
theorem mem_of_mem_lines {c : Char} {line : List Char} (hc : c ∈ line) :
    ∀ {text : List Char}, line ∈ lines text → c ∈ text
  | [], found => by cases found
  | d :: text, found => by
    have later : line ∈ lines text → c ∈ d :: text :=
      fun found => List.mem_cons_of_mem d (mem_of_mem_lines hc found)
    rw [lines] at found
    split at found
    · rcases List.mem_cons.mp found with rfl | found
      · cases hc
      · exact later found
    · split at found
      · next =>
        cases List.mem_singleton.mp found
        cases List.mem_singleton.mp hc
        exact List.mem_cons_self
      · next first more rest =>
        rcases List.mem_cons.mp found with rfl | found
        · rcases List.mem_cons.mp hc with rfl | hc
          · exact List.mem_cons_self
          · exact List.mem_cons_of_mem d (mem_of_mem_lines hc (rest ▸ List.mem_cons_self))
        · exact later (rest ▸ List.mem_cons_of_mem first found)

/-- Without backspaces the lines of an input are taken as they stand. -/
theorem feedInput_of_not_mem (r : Repl) {input : String} (h : backspace ∉ input.toList) :
    r.feedInput input = r.feedLines input := by
  refine List.foldl_ext _ _ r fun r line hline => ?_
  rw [typed_of_not_mem fun typed => h (mem_of_mem_lines typed hline)]

/-- What stands in lines that are put together is a line feed or stands on one of them. -/
theorem mem_of_mem_unlines {c : Char} (other : c ≠ '\n') {ls : List String}
    (hc : c ∈ (unlines ls).toList) : ∃ line ∈ ls, c ∈ line.toList := by
  rw [unlines, String.toList_join] at hc
  obtain ⟨ended, known, inside⟩ := List.mem_flatMap.mp hc
  obtain ⟨line, hline, rfl⟩ := List.mem_map.mp known
  rw [String.toList_append] at inside
  refine ⟨line, hline, (List.mem_append.mp inside).resolve_right fun last => ?_⟩
  exact other (List.mem_singleton.mp last)

/-- Lines without backspaces that are put together are taken as they stand. -/
theorem feedInput_unlines (r : Repl) {ls : List String}
    (plain : ∀ line ∈ ls, backspace ∉ line.toList) :
    r.feedInput (unlines ls) = r.feedLines (unlines ls) := by
  refine r.feedInput_of_not_mem fun typed => ?_
  obtain ⟨line, hline, inside⟩ := mem_of_mem_unlines (by decide) typed
  exact plain line hline inside

theorem feedLines_of_finished {r : Repl} (h : r.finished = true) (input : String) :
    r.feedLines input = r := by
  have still (line : String) : r.feed line = r := by simp [feed, h]
  unfold feedLines
  induction lines input.toList with
  | nil => rfl
  | cons line rest ih => rw [List.foldl_cons, still, ih]

/-- Lines that are put together are taken one by one. -/
theorem feedLines_unlines_cons (r : Repl) {line : String} (unbroken : '\n' ∉ line.toList)
    (rest : List String) :
    r.feedLines (unlines (line :: rest)) = (r.feed line).feedLines (unlines rest) := by
  have split : (unlines (line :: rest)).toList =
      line.toList ++ '\n' :: (unlines rest).toList := by
    simp [unlines]
  rw [feedLines, split, lines_append unbroken, List.foldl_cons, String.ofList_toList, feedLines]

theorem feedEach_nil (r : Repl) : r.feedEach [] = r := rfl

theorem feedEach_cons (r : Repl) {v : Value} (good : v.readable = true) (rest : List Value) :
    r.feedEach (v :: rest) = (r.feed v.display).feedEach rest := by
  have unbroken : '\n' ∉ v.display.toList := by
    rw [Value.display, String.toList_ofList]
    exact (Value.printed_oneLine good).unbroken
  exact r.feedLines_unlines_cons unbroken _

/-! Expressions on one line. -/

theorem readAll_command : ∀ name ∈ commands, Reader.readAll name = [.ok (.symbol name)] := by
  simp only [commands, List.forall_mem_cons]
  exact ⟨rfl, rfl, rfl, rfl, rfl, nofun⟩

/-- An expression that the loop reads from its printed form and does not take for a command. -/
structure Enterable (v : Value) : Prop where
  readable : v.readable = true
  low : v.height ≤ 63
  noCommand : ∀ name ∈ commands, v ≠ .symbol name

/-- Printed forms with spaces between them. -/
def printedLine (vs : List Value) : String := " ".intercalate (vs.map Value.display)

theorem printedLine_oneLine {vs : List Value} (some? : vs ≠ []) (each : ∀ v ∈ vs, Enterable v) :
    OneLine (printedLine vs).toList := by
  rw [printedLine, Value.printedLine_eq]
  exact Value.printedItems_oneLine some? fun v hv => Value.printed_oneLine (each v hv).readable

/-- A line of expressions is evaluated, since it is no command. -/
theorem feed_printedLine {r : Repl} (ready : r.finished = false) {vs : List Value} (some? : vs ≠ [])
    (each : ∀ v ∈ vs, Enterable v) : r.feed (printedLine vs) = r.evalItems (vs.map Except.ok) := by
  have reads : Reader.readAll (printedLine vs) = vs.map Except.ok :=
    Reader.readAll_printedLine fun v hv => ⟨(each v hv).readable, Nat.lt_succ_of_le (each v hv).low⟩
  have oneLine := printedLine_oneLine some? each
  -- as expressions, a command would be its symbol
  have noCommand : ∀ name ∈ commands, printedLine vs ≠ name := by
    rintro name known rfl
    rw [readAll_command _ known] at reads
    have single : vs.map Except.ok = [Except.ok (ε := ParseError) (.symbol (printedLine vs))] :=
      reads.symm
    obtain ⟨v, rfl, same⟩ := List.map_eq_singleton_iff.mp single
    exact (each v List.mem_cons_self).noCommand _ known (Except.ok.inj same)
  -- an empty line would be skipped
  have notEmpty : (printedLine vs).isEmpty = false := by
    obtain ⟨c, rest, start, -⟩ := oneLine.first
    refine Bool.eq_false_iff.mpr fun empty => ?_
    rw [String.isEmpty_iff.mp empty] at start
    cases start
  simp only [commands, List.forall_mem_cons] at noCommand
  simp [feed, oneLine.trim_eq, ready, notEmpty, noCommand, reads]

theorem evalItem_ok (r : Repl) (v : Value) :
    r.evalItem (.ok v) =
      match r.interp.eval v r.state with
      | .ok result state =>
        let r := { r with state := state }
        (if result.isUnspecified then r else r.print (result.display ++ "\n"), true)
      | .error e state => ({ r with state := state }.print s!"Error: {e.message}\n", false) := rfl

/-- After an expression the line goes on, exactly if the expression has a value. -/
theorem evalItem_goes_on_iff (r : Repl) (v : Value) :
    (r.evalItem (.ok v)).2 = true ↔ r.Evaluates v := by
  unfold Evaluates
  rw [evalItem_ok]
  cases r.interp.eval v r.state <;> simp

theorem finished_evalItem (r : Repl) (v : Value) :
    (r.evalItem (.ok v)).1.finished = r.finished := by
  rw [evalItem_ok]
  cases r.interp.eval v r.state with
  | ok result state =>
    simp only
    split <;> rfl
  | error e state => rfl

/-- One expression on a line. -/
theorem feed_display {r : Repl} (ready : r.finished = false) {v : Value} (h : Enterable v) :
    r.feed v.display = (r.evalItem (.ok v)).1 := by
  have single : printedLine [v] = v.display := by simp [printedLine]
  rw [← single, feed_printedLine ready (List.cons_ne_nil v []) (by simpa using h),
    List.map_singleton, evalItems]
  rcases r.evalItem (.ok v) with ⟨after, _ | _⟩ <;> rfl

/-- Expressions on lines of their own are evaluated one by one. -/
theorem feedEach_eq {r : Repl} (ready : r.finished = false) {vs : List Value}
    (each : ∀ v ∈ vs, Enterable v) :
    r.feedEach vs = vs.foldl (fun r v => (r.evalItem (.ok v)).1) r := by
  induction vs generalizing r with
  | nil => rfl
  | cons v rest ih =>
    obtain ⟨first, others⟩ := List.forall_mem_cons.mp each
    rw [feedEach_cons r first.readable, feed_display ready first,
      ih ((finished_evalItem r v).trans ready) others, List.foldl_cons]

/-- A line goes on after its first expression, or stops there. -/
theorem evalItems_cons (r : Repl) (v : Value) (rest : List (Except ParseError Value)) :
    (r.Evaluates v → r.evalItems (.ok v :: rest) = (r.evalItem (.ok v)).1.evalItems rest) ∧
    (¬ r.Evaluates v → r.evalItems (.ok v :: rest) = (r.evalItem (.ok v)).1) := by
  rw [← evalItem_goes_on_iff, evalItems]
  rcases r.evalItem (.ok v) with ⟨after, _ | _⟩ <;> simp

/-! Where the lines stop. -/

theorem StopsAt.first {r : Repl} {v : Value} {rest : List Value}
    (stops : rest = [] ∨ ¬ r.Evaluates v) : r.StopsAt (v :: rest) 0 := by
  refine ⟨Nat.zero_lt_succ _, fun i w lt => absurd lt (Nat.not_lt_zero i), fun more w found => ?_⟩
  cases found
  rcases stops with rfl | failed
  · exact absurd more (by simp)
  · exact failed

theorem StopsAt.next {r : Repl} {v : Value} {rest : List Value} {k : Nat}
    (good : v.readable = true) (value : r.Evaluates v) (h : (r.feed v.display).StopsAt rest k) :
    r.StopsAt (v :: rest) (k + 1) := by
  refine ⟨Nat.succ_lt_succ h.inside, fun i w lt found => ?_, fun more w found => ?_⟩
  · cases i with
    | zero => cases found; exact value
    | succ i =>
      rw [List.take_succ_cons, feedEach_cons r good]
      exact h.before i w (Nat.lt_of_succ_lt_succ lt) found
  · rw [List.take_succ_cons, feedEach_cons r good]
    exact h.failed (Nat.lt_of_succ_lt_succ more) w found

/-- Expressions stop at one place only. -/
theorem StopsAt.unique {r : Repl} {vs : List Value} {k l : Nat} (h : r.StopsAt vs k)
    (h' : r.StopsAt vs l) : k = l := by
  have not_lt {k l : Nat} (h : r.StopsAt vs k) (h' : r.StopsAt vs l) : ¬ k < l := by
    intro lt
    have found := List.getElem?_eq_getElem h.inside
    exact h.failed (Nat.lt_of_le_of_lt lt h'.inside) _ found (h'.before k _ lt found)
  exact Nat.le_antisymm (Nat.le_of_not_lt (not_lt h' h)) (Nat.le_of_not_lt (not_lt h h'))

/-- Expressions stop somewhere, and those on one line at the same place. -/
theorem evalItems_stops :
    ∀ (vs : List Value) (r : Repl), vs ≠ [] → (∀ v ∈ vs, Enterable v) →
      ∃ k, r.StopsAt vs k ∧
        (r.finished = false → r.evalItems (vs.map Except.ok) = r.feedEach (vs.take (k + 1)))
  | [], _, some?, _ => absurd rfl some?
  | v :: rest, r, _, each => by
    obtain ⟨enterable, others⟩ := List.forall_mem_cons.mp each
    -- the last expression is where they stop also if it has a value
    by_cases goes : r.Evaluates v ∧ rest ≠ []
    · obtain ⟨value, more⟩ := goes
      obtain ⟨k, stops, same⟩ := evalItems_stops rest (r.feed v.display) more others
      refine ⟨k + 1, .next enterable.readable value stops, fun ready => ?_⟩
      have fed := feed_display ready enterable
      have ready' : (r.feed v.display).finished = false := by rw [fed, finished_evalItem, ready]
      rw [List.map_cons, (r.evalItems_cons v _).1 value, ← fed, same ready', List.take_succ_cons,
        feedEach_cons r enterable.readable]
    · have stops : rest = [] ∨ ¬ r.Evaluates v := by
        by_cases value : r.Evaluates v
        · exact .inl (by simpa [value] using goes)
        · exact .inr value
      refine ⟨0, .first stops, fun ready => ?_⟩
      rw [List.take_succ_cons, List.take_zero, feedEach_cons r enterable.readable, feedEach_nil,
        feed_display ready enterable, List.map_cons]
      by_cases value : r.Evaluates v
      · rw [(r.evalItems_cons v _).1 value, stops.resolve_right (not_not_intro value)]
        rfl
      · exact (r.evalItems_cons v _).2 value

/-- A line of printed forms comes to the same as their lines up to where the expressions stop. -/
theorem StopsAt.feedLines_printedLine {r : Repl} {vs : List Value} {k : Nat} (h : r.StopsAt vs k)
    (each : ∀ v ∈ vs, Enterable v) :
    r.feedLines (unlines [printedLine vs]) = r.feedEach (vs.take (k + 1)) := by
  have some? : vs ≠ [] := List.ne_nil_of_length_pos (Nat.zero_lt_of_lt h.inside)
  obtain ⟨l, stops, same⟩ := evalItems_stops vs r some? each
  obtain rfl : k = l := h.unique stops
  cases finished : r.finished with
  -- a loop that has ended takes neither input
  | true => rw [feedLines_of_finished finished, feedEach, feedLines_of_finished finished]
  | false =>
    have unbroken := (printedLine_oneLine some? each).unbroken
    rw [r.feedLines_unlines_cons unbroken, ← same finished, ← feed_printedLine finished some? each]
    rfl

/-- Expressions on one line come to the same state of the loop, and the same output, as each on a
    line of its own, up to the first one whose evaluation fails. -/
theorem feed_line_of_expressions (r : Repl) {vs : List Value} (some? : vs ≠ [])
    (each : ∀ v ∈ vs, Enterable v) :
    ∃ k, r.StopsAt vs k ∧
      r.feedLines (unlines [printedLine vs]) = r.feedEach (vs.take (k + 1)) := by
  obtain ⟨k, stops, -⟩ := evalItems_stops vs r some? each
  exact ⟨k, stops, stops.feedLines_printedLine each⟩

/-- A string with a line feed, an unbound name and a number that is not reached. -/
theorem feed_line_of_expressions_unbound :
    let r := init (.memory []) Interp.defaultLimit
    let vs := [Value.string "a\nb", .symbol "y", .number 1]
    r.feedLines (unlines [printedLine vs]) = r.feedEach [.string "a\nb", .symbol "y"] := by
  intro r vs
  have each : ∀ v ∈ vs, Enterable v := by
    simp only [vs, List.forall_mem_cons]
    refine ⟨⟨rfl, by decide, ?_⟩, ⟨by decide, by decide, ?_⟩, ⟨rfl, by decide, ?_⟩,
      fun _ none => absurd none List.not_mem_nil⟩ <;>
      simp [commands]
  obtain ⟨k, stops, same⟩ := feed_line_of_expressions r (by decide) each
  have value : r.Evaluates (.string "a\nb") := ⟨_, _, rfl⟩
  have unbound : ¬ (r.feed (Value.string "a\nb").display).Evaluates (.symbol "y") := by
    rw [feed_display rfl (each _ List.mem_cons_self), ← evalItem_goes_on_iff]
    exact Bool.eq_false_iff.mp rfl
  have second : r.StopsAt vs 1 := .next rfl value (.first (.inr unbound))
  rw [same, stops.unique second]
  rfl

/-- Typed as an input, where a backspace erases what is before it, a line of printed forms comes to
    the same as their lines too, if there is no backspace in them. -/
theorem StopsAt.feedInput_printedLine {r : Repl} {vs : List Value} {k : Nat} (h : r.StopsAt vs k)
    (each : ∀ v ∈ vs, Enterable v) (plain : ∀ v ∈ vs, backspace ∉ v.display.toList) :
    r.feedInput (unlines [printedLine vs]) =
      r.feedInput (unlines ((vs.take (k + 1)).map Value.display)) := by
  have plainLine : ∀ line ∈ [printedLine vs], backspace ∉ line.toList := by
    intro line hline typed
    rw [List.mem_singleton.mp hline, printedLine, Value.printedLine_eq] at typed
    obtain ⟨v, hv, inside⟩ := Value.mem_of_mem_printedItems (by decide) typed
    rw [← String.toList_ofList (l := v.printed)] at inside
    exact plain v hv inside
  have plainLines : ∀ line ∈ (vs.take (k + 1)).map Value.display, backspace ∉ line.toList := by
    intro line hline
    obtain ⟨v, hv, rfl⟩ := List.mem_map.mp hline
    exact plain v (List.mem_of_mem_take hv)
  rw [r.feedInput_unlines plainLine, r.feedInput_unlines plainLines, h.feedLines_printedLine each,
    feedEach]

end MiniScheme.Repl
