import MiniScheme.Proofs.Outcomes

/- Closures with a state of their own. `make-counter` gives a closure over the
   frame of the call that made it; each call of the closure adds one to a variable
   of that frame and gives its value. `Counting` says how counters stand in a
   store: each is bound globally to a closure over a cell, a frame that holds the
   number of its calls, and no two have the same cell. Making a counter adds a
   cell, which is a new frame (`make_yields`), and a call changes one cell and
   leaves the others alone (`call_yields`), since the frames of calls are new, too.
   Expressions that are evaluated one after the other at the top level are operands
   of the global environment, so runs are runs of `Interp.operands`. Main statement:
   whatever counters are made, and in whatever order they are called, each call
   gives the number of calls of that counter so far (`counters_independent`). -/
namespace MiniScheme.Counter

open Eval
open Interp (contains_eq_false)

/-- The body of a counter. -/
def tick : List Value := [
  .list [.symbol "set!", .symbol "n", .list [.symbol "+", .symbol "n", .number 1]],
  .symbol "n"]

/-- The body of `make-counter`. -/
def start : List Value := [
  .list [.symbol "define", .symbol "n", .number 0],
  .list (.symbol "lambda" :: .list [] :: tick)]

/-- Defines `make-counter`. -/
def maker : Value := .list (.symbol "define" :: .list [.symbol "make-counter"] :: start)

example : maker.display =
    "(define (make-counter) (define n 0) (lambda () (set! n (+ n 1)) n))" := by
  decide

/-- Binds a name to a new counter. -/
def make (c : String) : Value :=
  .list [.symbol "define", .symbol c, .list [.symbol "make-counter"]]

def call (c : String) : Value := .list [.symbol c]

/-- The frame of a counter after a number of calls. -/
def cell (calls : Nat) : Frame := ⟨[("n", .number (.ofInt calls))], ⟨some 0⟩⟩

/-- A function with another value at a name. -/
def update (f : String → Nat) (c : String) (n : Nat) : String → Nat :=
  fun d => if d = c then n else f d

@[simp] theorem update_self (f : String → Nat) (c : String) (n : Nat) : update f c n c = n :=
  if_pos rfl

theorem update_of_ne (f : String → Nat) {c d : String} (n : Nat) (ne : d ≠ c) :
    update f c n d = f d :=
  if_neg ne

/-- Counts one more call of a counter. -/
def advance (count : String → Nat) (c : String) : String → Nat := update count c (count c + 1)

theorem advance_le (count : String → Nat) (c d : String) : advance count c d ≤ count d + 1 := by
  by_cases same : d = c
  · simp [advance, same]
  · simp [advance, update_of_ne _ _ same]

/-- What calls of counters give: each the number of the calls of its counter so far, where `count`
    tells of those before. -/
def tallies (count : String → Nat) : List String → List Value
  | [] => []
  | c :: rest => .number (.ofInt (count c + 1 : Nat)) :: tallies (advance count c) rest

theorem length_tallies : ∀ (calls : List String) (count : String → Nat),
    (tallies count calls).length = calls.length
  | [], _ => rfl
  | _ :: rest, _ => congrArg (· + 1) (length_tallies rest _)

theorem getElem?_tallies : ∀ (calls : List String) (count : String → Nat) (k : Nat)
    (here : k < calls.length), (tallies count calls)[k]? =
      some (.number (.ofInt (count calls[k] + (calls.take (k + 1)).count calls[k] : Nat)))
  | c :: rest, count, 0, _ => by simp [tallies]
  | c :: rest, count, k + 1, here => by
    have later : k < rest.length := Nat.lt_of_succ_lt_succ here
    have total : advance count c rest[k] + (rest.take (k + 1)).count rest[k]
        = count rest[k] + ((c :: rest).take (k + 1 + 1)).count rest[k] := by
      rw [List.take_succ_cons, List.count_cons, advance]
      by_cases same : rest[k] = c
      · rw [same, update_self, beq_self_eq_true, if_pos rfl]
        omega
      · have other : (c == rest[k]) = false := by simpa using Ne.symm same
        rw [update_of_ne _ _ same, other]
        rfl
    rw [tallies, List.getElem?_cons_succ, getElem?_tallies rest _ k later, total,
      List.getElem_cons_succ]

theorem fits_of_lt {n : Nat} (small : n < 9223372036854775808) : Number.fits n = true := by
  simp only [Number.fits, Bool.and_eq_true, decide_eq_true_eq]
  omega

/-- As long as there are few calls, the tallies are exact. -/
theorem toInt_tallies {calls : List String} (fits : Number.fits calls.length = true) (k : Nat)
    (here : k < calls.length) : ∃ n : Int64,
      (tallies (fun _ => 0) calls)[k]? = some (.number n) ∧
      n.toInt = ((calls.take (k + 1)).count calls[k] : Nat) := by
  have few : (calls.take (k + 1)).count calls[k] ≤ calls.length :=
    Nat.le_trans List.count_le_length (List.length_take_le' ..)
  refine ⟨_, getElem?_tallies _ _ k here, ?_⟩
  rw [Nat.zero_add]
  exact Number.toInt_ofInt (Number.fits_of_le few fits)

/-- The global frame of a program with counters, which are closures over the cells at `home`. -/
structure Outermost (g : Frame) (home : String → Nat) (names : List String) : Prop where
  parent : g.parent = .empty
  add : g.get? "+" = some (.primitive (.builtin .add))
  maker : ∃ identity, g.get? "make-counter" = some (.procedure identity [] start ⟨some 0⟩)
  counters : ∀ c ∈ names, ∃ identity,
    g.get? c = some (.procedure identity [] tick ⟨some (home c)⟩)

/-- The names are those of counters with cells of their own, which hold the numbers of calls. -/
structure Counting (s : Store) (home count : String → Nat) (names : List String) : Prop where
  global : ∃ g, s.frames[0]? = some g ∧ Outermost g home names
  cells : ∀ c ∈ names, s.frames[home c]? = some (cell (count c))
  apart : ∀ c ∈ names, ∀ d ∈ names, home c = home d → c = d

/-- The store after a call that has counted up to a number in a cell. -/
def afterCall (s : Store) (own calls : Nat) : Store :=
  (s.push ⟨[], ⟨some own⟩⟩).2.modifyFrame own (·.bind "n" (.number (.ofInt calls)))

/-- The store after a counter is made and bound. -/
def afterMake (s : Store) (c : String) : Store :=
  { (s.push ⟨[], ⟨some 0⟩⟩).2.modifyFrame s.frames.size (·.bind "n" (.number 0)) with
    procedures := s.procedures + 1 }.modifyFrame 0
      (·.bind c (.procedure s.procedures [] tick ⟨some s.frames.size⟩))

theorem frames_afterCall {s : Store} {own calls k : Nat} (known : k < s.frames.size) :
    (afterCall s own calls).frames[k]? =
      if k = own then s.frames[k]?.map (·.bind "n" (.number (.ofInt calls)))
      else s.frames[k]? := by
  rw [afterCall, Store.getElem?_modifyFrame, Store.getElem?_push, if_neg (Nat.ne_of_lt known)]
  simp only [eq_comm]

theorem frames_afterMake {s : Store} {c : String} {k : Nat} (room : 0 < s.frames.size) :
    (afterMake s c).frames[k]? =
      if k = 0 then
        s.frames[0]?.map (·.bind c (.procedure s.procedures [] tick ⟨some s.frames.size⟩))
      else if k = s.frames.size then some (cell 0) else s.frames[k]? := by
  rw [afterMake, Store.getElem?_modifyFrame]
  dsimp only
  rw [Store.getElem?_modifyFrame, Store.getElem?_push]
  by_cases first : k = 0
  · rw [first, if_pos rfl, if_pos rfl, if_neg (Nat.ne_of_gt room), if_neg (Nat.ne_of_lt room)]
  · rw [if_neg (Ne.symm first), if_neg first]
    by_cases last : k = s.frames.size
    · rw [if_pos last.symm, if_pos last, if_pos last]
      rfl
    · rw [if_neg (Ne.symm last), if_neg last, if_neg last]

/-- A counter that is bound in the global frame is one more. -/
theorem Outermost.bind {g : Frame} {home : String → Nat} {names : List String} {c : String}
    (h : Outermost g home names) (notAdd : c ≠ "+") (notMaker : c ≠ "make-counter")
    (identity own : Nat) :
    Outermost (g.bind c (.procedure identity [] tick ⟨some own⟩)) (update home c own)
      (c :: names) := by
  constructor
  · exact h.parent
  · rw [Frame.get?_bind_of_ne _ (Ne.symm notAdd), h.add]
  · rw [Frame.get?_bind_of_ne _ (Ne.symm notMaker)]
    exact h.maker
  · intro d hd
    by_cases same : d = c
    · rw [same, Frame.get?_bind_self, update_self]
      exact ⟨identity, rfl⟩
    · rw [Frame.get?_bind_of_ne _ same, update_of_ne _ _ same]
      exact h.counters d ((List.mem_cons.mp hd).resolve_left same)

/-- A call of a counter runs in a frame that binds nothing, in front of the cell and the global
    frame. -/
structure Scope (s : Store) (inner own calls : Nat) : Prop where
  called : s.frames[inner]? = some ⟨[], ⟨some own⟩⟩
  known : s.frames[own]? = some (cell calls)
  global : ∃ g, s.frames[0]? = some g ∧ g.parent = .empty ∧
    g.get? "+" = some (.primitive (.builtin .add))
  inside : 0 < own
  newer : own < inner

namespace Scope

variable {s : Store} {inner own calls : Nat}

theorem chain_eq (scope : Scope s inner own calls) : s.chain ⟨some inner⟩ = [inner, own, 0] := by
  obtain ⟨g, global, parent, -⟩ := scope.global
  have path : s.Path ⟨some inner⟩ [inner, own, 0] := by
    refine .frame scope.called (.frame scope.known (.frame global ?_))
    rw [parent]
    exact .empty
  have outermost : 0 < inner := Nat.lt_trans scope.inside scope.newer
  exact path.chain_eq (by simp [scope.newer, scope.inside, outermost])

theorem valueAt_inner (scope : Scope s inner own calls) (name : String) :
    s.valueAt inner name = none := by
  rw [Store.valueAt_of_frame scope.called]
  rfl

theorem valueAt_own (scope : Scope s inner own calls) (name : String) :
    s.valueAt own name = (cell calls).get? name :=
  Store.valueAt_of_frame scope.known name

/-- The variable of the counter is the one in the cell. -/
theorem slot (scope : Scope s inner own calls) : s.Slot ⟨some inner⟩ "n" own := by
  refine ⟨⟨[inner], [0], scope.chain_eq, ?_⟩, ?_⟩
  · intro k hk
    rw [List.mem_singleton.mp hk, ← Store.valueAt_eq_none_iff]
    exact scope.valueAt_inner "n"
  · rw [Store.bindsAt_iff, scope.valueAt_own]
    rfl

theorem lookup?_variable (scope : Scope s inner own calls) :
    s.lookup? ⟨some inner⟩ "n" = some (.number (.ofInt calls)) := by
  rw [Store.lookup?_of_slot scope.slot, scope.valueAt_own]
  rfl

/-- Addition is the builtin, since neither the frame of the call nor the cell hides it. -/
theorem lookup?_add (scope : Scope s inner own calls) :
    s.lookup? ⟨some inner⟩ "+" = some (.primitive (.builtin .add)) := by
  obtain ⟨g, global, -, add⟩ := scope.global
  have unheld : (cell calls).get? "+" = none := rfl
  have here : s.valueAt 0 "+" = some (.primitive (.builtin .add)) := by
    rw [Store.valueAt_of_frame global, add]
  simp only [Store.lookup?_eq, scope.chain_eq, List.findSome?_cons, scope.valueAt_inner,
    scope.valueAt_own, unheld, here]

end Scope

namespace Counting

variable {s : Store} {home count : String → Nat} {names : List String} {c : String}

theorem home_pos (h : Counting s home count names) (known : c ∈ names) : 0 < home c := by
  refine Nat.pos_of_ne_zero fun zero => ?_
  obtain ⟨g, here, outermost⟩ := h.global
  have own := h.cells c known
  rw [zero, here] at own
  have parent := outermost.parent
  rw [Option.some.inj own] at parent
  cases parent

theorem home_lt_size (h : Counting s home count names) (known : c ∈ names) :
    home c < s.frames.size :=
  (Array.getElem?_eq_some_iff.mp (h.cells c known)).1

/-- The frame that a call adds is in front of the cell. -/
theorem scope (h : Counting s home count names) (known : c ∈ names) :
    Scope (s.push ⟨[], ⟨some (home c)⟩⟩).2 s.frames.size (home c) (count c) := by
  have newer := h.home_lt_size known
  obtain ⟨g, here, outermost⟩ := h.global
  have zero := (Array.getElem?_eq_some_iff.mp here).1
  constructor
  · rw [Store.getElem?_push, if_pos rfl]
  · rw [Store.getElem?_push, if_neg (Nat.ne_of_lt newer), h.cells c known]
  · refine ⟨g, ?_, outermost.parent, outermost.add⟩
    rw [Store.getElem?_push, if_neg (Nat.ne_of_lt zero), here]
  · exact h.home_pos known
  · exact newer

/-- A call changes the cell of its counter, which then holds one more. -/
theorem called (h : Counting s home count names) (known : c ∈ names) :
    Counting (afterCall s (home c) (count c + 1)) home (advance count c) names := by
  constructor
  · obtain ⟨g, here, outermost⟩ := h.global
    refine ⟨g, ?_, outermost⟩
    rw [frames_afterCall (Array.getElem?_eq_some_iff.mp here).1,
      if_neg (Nat.ne_of_lt (h.home_pos known)), here]
  · intro d hd
    rw [frames_afterCall (h.home_lt_size hd), h.cells d hd, advance]
    by_cases same : d = c
    · rw [same, if_pos rfl, update_self]
      rfl
    · have apart : home d ≠ home c := fun shared => same (h.apart d hd c known shared)
      rw [if_neg apart, update_of_ne _ _ same]
  · exact h.apart

/-- A new counter has a new cell, which holds zero. -/
theorem made (h : Counting s home (fun _ => 0) names) (notAdd : c ≠ "+")
    (notMaker : c ≠ "make-counter") :
    Counting (afterMake s c) (update home c s.frames.size) (fun _ => 0) (c :: names) := by
  obtain ⟨g, here, outermost⟩ := h.global
  have room : 0 < s.frames.size := (Array.getElem?_eq_some_iff.mp here).1
  have older : ∀ d ∈ c :: names, d ≠ c → d ∈ names :=
    fun d hd ne => (List.mem_cons.mp hd).resolve_left ne
  constructor
  · refine ⟨_, ?_, outermost.bind notAdd notMaker s.procedures s.frames.size⟩
    rw [frames_afterMake room, if_pos rfl, here]
    rfl
  · intro d hd
    by_cases same : d = c
    · rw [same, update_self, frames_afterMake room, if_neg (Nat.ne_of_gt room), if_pos rfl]
    · have known := older d hd same
      rw [update_of_ne _ _ same, frames_afterMake room, if_neg (Nat.ne_of_gt (h.home_pos known)),
        if_neg (Nat.ne_of_lt (h.home_lt_size known)), h.cells d known]
  · -- the new cell is no old one
    have apart : ∀ d ∈ c :: names, d ≠ c → home d ≠ s.frames.size :=
      fun d hd ne => Nat.ne_of_lt (h.home_lt_size (older d hd ne))
    intro d hd e he shared
    by_cases first : d = c
    · by_cases second : e = c
      · rw [first, second]
      · rw [first, update_self, update_of_ne _ _ second] at shared
        exact absurd shared.symm (apart e he second)
    · by_cases second : e = c
      · rw [second, update_self, update_of_ne _ _ first] at shared
        exact absurd shared (apart d hd first)
      · rw [update_of_ne _ _ first, update_of_ne _ _ second] at shared
        exact h.apart d (older d hd first) e (older e he second) shared

/-- A name that is not bound globally is neither that of addition nor `make-counter`. -/
theorem ne_of_undefined (h : Counting s home count names)
    (undefined : s.isDefined ⟨some 0⟩ c = false) : c ≠ "+" ∧ c ≠ "make-counter" := by
  obtain ⟨g, here, outermost⟩ := h.global
  obtain ⟨identity, maker⟩ := outermost.maker
  have unheld : g.get? c = none := by
    simpa [Store.isDefined_eq, Store.lookup?_outermost here outermost.parent] using undefined
  constructor
  · intro same
    rw [same, outermost.add] at unheld
    cases unheld
  · intro same
    rw [same, maker] at unheld
    cases unheld

end Counting

/-! One step: a call of a counter, and the making of one. -/

theorem value_next {calls : Nat} (fits : Number.fits (calls + 1 : Nat) = true) :
    Builtin.value .add [.number (.ofInt calls), .number 1]
      = .ok (.number (.ofInt (calls + 1 : Nat))) := by
  apply Builtin.value_add
  rw [Number.toInt_ofInt fits, Number.toInt_ofInt (Number.fits_of_le (Nat.le_succ calls) fits)]
  rfl

section
variable {interp : Interp} (builtin : interp.forms = .builtin)
include builtin

/-- The body of a counter adds one to what the cell holds, and gives it. -/
theorem tick_yields {s : Store} {inner own calls depth : Nat} (scope : Scope s inner own calls)
    (fits : Number.fits (calls + 1 : Nat) = true) (room : depth + 3 < interp.limit) :
    Yields (evalSequence interp.evalAt ⟨some inner⟩ depth tick) s
      (.number (.ofInt (calls + 1 : Nat)))
      (s.modifyFrame own (·.bind "n" (.number (.ofInt (calls + 1 : Nat))))) := by
  have free_n : interp.forms.contains "n" = false := contains_eq_false builtin rfl
  have free_add : interp.forms.contains "+" = false := contains_eq_false builtin rfl
  have sum : Yields (interp.evalAt (.list [.symbol "+", .symbol "n", .number 1]) ⟨some inner⟩
      (depth + 2)) s (.number (.ofInt (calls + 1 : Nat))) s :=
    Interp.yields_operation free_add free_n scope.lookup?_add scope.lookup?_variable rfl
      (value_next fits) rfl room
  have assigned :=
    Interp.yields_assignment (builtin ▸ .builtin) free_n (by omega) sum scope.slot
  refine Interp.yields_sequence assigned (Interp.yields_last ?_)
  refine Interp.yields_variable free_n (by omega) ?_
  exact ((Store.shows_bind scope.slot.2.known "n" _) ⟨some inner⟩ "n").1 ⟨rfl, scope.slot.1⟩

/-- The body of `make-counter` sets a variable of its frame to zero, and gives a closure over the
    frame. -/
theorem start_yields (s : Store) (inner : Nat) {depth : Nat} (room : depth + 2 < interp.limit) :
    Yields (evalSequence interp.evalAt ⟨some inner⟩ depth start) s
      (.procedure s.procedures [] tick ⟨some inner⟩)
      { s.modifyFrame inner (·.bind "n" (.number 0)) with procedures := s.procedures + 1 } := by
  have free_n : interp.forms.contains "n" = false := contains_eq_false builtin rfl
  have defined := Interp.yields_define_value (builtin ▸ .builtin) free_n (by omega)
    (Interp.yields_number 0 ⟨some inner⟩ room s)
  refine Interp.yields_sequence defined (Interp.yields_last ?_)
  exact Interp.yields_lambda (builtin ▸ .builtin) rfl ⟨some inner⟩ (by omega) _

variable {s : Store} {home count : String → Nat} {names : List String} {c : String}
  (counting : Counting s home count names) (deep : 4 < interp.limit)
  (free : interp.forms.contains c = false)
include counting deep free

/-- A call of a counter gives the number of its calls, and counts for this one alone. -/
theorem call_yields (known : c ∈ names) (fits : Number.fits (count c + 1 : Nat) = true) :
    Yields (interp.evalAt (call c) ⟨some 0⟩ 0) s (.number (.ofInt (count c + 1 : Nat)))
      (afterCall s (home c) (count c + 1)) := by
  obtain ⟨g, here, outermost⟩ := counting.global
  obtain ⟨identity, bound⟩ := outermost.counters c known
  have operator := (Store.lookup?_outermost here outermost.parent c).trans bound
  have counted := tick_yields builtin (counting.scope known) fits (by omega : 1 + 3 < interp.limit)
  exact Interp.yields_call (Interp.formOf?_of_free free _) (by omega)
    (Interp.yields_variable free (by omega) operator) (Interp.yields_no_operands _ _ _ s)
    (Interp.yields_closure rfl counted)

/-- Making a counter adds its cell and binds its name. -/
theorem make_yields :
    Yields (interp.evalAt (make c) ⟨some 0⟩ 0) s (.symbol c) (afterMake s c) := by
  obtain ⟨g, here, outermost⟩ := counting.global
  obtain ⟨identity, bound⟩ := outermost.maker
  have free_maker : interp.forms.contains "make-counter" = false := contains_eq_false builtin rfl
  have operator := (Store.lookup?_outermost here outermost.parent "make-counter").trans bound
  have started := start_yields builtin (s.push ⟨[], ⟨some 0⟩⟩).2 s.frames.size
    (by omega : 2 + 2 < interp.limit)
  have closure := Interp.yields_call (Interp.formOf?_of_free free_maker _) (by omega)
    (Interp.yields_variable free_maker (by omega) operator) (Interp.yields_no_operands _ _ _ s)
    (Interp.yields_closure rfl started)
  exact Interp.yields_define_value (builtin ▸ .builtin) free (by omega) closure

end

/-! Runs: any number of counters, and any number of calls in any order. -/

section
variable {interp : Interp} (builtin : interp.forms = .builtin) (deep : 4 < interp.limit)
include builtin deep

theorem maker_yields : ∃ s,
    Yields (interp.evalAt maker ⟨some 0⟩ 0) Interp.initialState.store (.symbol "make-counter") s ∧
      Counting s (fun _ => 0) (fun _ => 0) [] := by
  have free_maker : interp.forms.contains "make-counter" = false := contains_eq_false builtin rfl
  refine ⟨_, Interp.yields_define_procedure (builtin ▸ .builtin) 0 free_maker rfl (by omega) _, ?_⟩
  constructor
  · refine ⟨_, by rw [Store.getElem?_modifyFrame, if_pos rfl]; rfl, ?_⟩
    exact ⟨rfl, rfl, ⟨0, Frame.get?_bind_self _ _ _⟩, by simp⟩
  · simp
  · simp

/-- Making counters one after the other. -/
theorem makes_yield : ∀ (new : List String) {s : Store} {home : String → Nat} {names : List String},
    Counting s home (fun _ => 0) names →
    (∀ c ∈ new, interp.forms.contains c = false ∧ c ≠ "+" ∧ c ≠ "make-counter") →
    ∃ s' home', Yields (evalOperands interp.evalAt ⟨some 0⟩ 0 (new.map make)) s
        (new.map .symbol) s' ∧
      Counting s' home' (fun _ => 0) (new.reverse ++ names)
  | [], s, home, _, counting, _ => ⟨s, home, Interp.yields_no_operands _ _ _ s, counting⟩
  | c :: rest, s, home, names, counting, free => by
    obtain ⟨⟨untagged, notAdd, notMaker⟩, others⟩ := List.forall_mem_cons.mp free
    have first := make_yields builtin counting deep untagged
    obtain ⟨s', home', run, counting'⟩ := makes_yield rest (counting.made notAdd notMaker) others
    refine ⟨s', home', Interp.yields_operands first run, ?_⟩
    simpa using counting'

/-- Calling counters one after the other. -/
theorem calls_yield {home : String → Nat} {names : List String}
    (free : ∀ c ∈ names, interp.forms.contains c = false) (calls : List String) {s : Store}
    {count : String → Nat} (counting : Counting s home count names)
    (known : ∀ c ∈ calls, c ∈ names)
    (fits : ∀ c, Number.fits (count c + calls.length : Nat) = true) :
    ∃ s', Yields (evalOperands interp.evalAt ⟨some 0⟩ 0 (calls.map call)) s
        (tallies count calls) s' ∧
      Counting s' home (calls.foldl advance count) names := by
  induction calls generalizing s count with
  | nil => exact ⟨s, Interp.yields_no_operands _ _ _ s, counting⟩
  | cons c rest ih =>
    obtain ⟨here, others⟩ := List.forall_mem_cons.mp known
    have next : count c + 1 ≤ count c + (c :: rest).length := by
      rw [List.length_cons]
      omega
    have later : ∀ d, advance count c d + rest.length ≤ count d + (c :: rest).length := by
      intro d
      have := advance_le count c d
      rw [List.length_cons]
      omega
    have first := call_yields builtin counting deep (free c here) here
      (Number.fits_of_le next (fits c))
    obtain ⟨s', run, counting'⟩ :=
      ih (counting.called here) others fun d => Number.fits_of_le (later d) (fits d)
    exact ⟨s', Interp.yields_operands first run, counting'⟩

end

/-- In a fresh interpreter with `make-counter`, any counters may be made under names that are no
    tags and not bound yet. Whatever calls of them follow, in any order and fewer than `2 ^ 63` in
    all, each gives the number of calls of the same counter up to and including itself. -/
theorem counters_independent (loader : Loader) (sink : Sink) :
    let interp := Interp.fresh loader sink Interp.defaultLimit
    ∃ ready, interp.eval maker Interp.initialState = .ok (.symbol "make-counter") ready ∧
      ∀ names : List String,
        (∀ c ∈ names, interp.forms.contains c = false ∧
          ready.store.isDefined interp.global c = false) →
        ∃ made, interp.operands (names.map make) interp.global ready
            = .ok (names.map .symbol) made ∧
          ∀ calls : List String, (∀ c ∈ calls, c ∈ names) → calls.length < 9223372036854775808 →
            ∃ values called,
              interp.operands (calls.map call) interp.global made = .ok values called ∧
              values.length = calls.length ∧
              ∀ (k : Nat) (here : k < calls.length), ∃ n : Int64,
                values[k]? = some (.number n) ∧
                n.toInt = ((calls.take (k + 1)).count calls[k] : Nat) := by
  intro interp
  have builtin : interp.forms = .builtin := rfl
  have deep : 4 < interp.limit := by
    show 4 < Interp.defaultLimit
    decide
  obtain ⟨s, defined, counting⟩ := maker_yields builtin deep
  obtain ⟨ready, done, rfl⟩ := defined Interp.initialState rfl
  refine ⟨ready, done, fun names free => ?_⟩
  have fresh : ∀ c ∈ names, interp.forms.contains c = false ∧ c ≠ "+" ∧ c ≠ "make-counter" :=
    fun c hc => ⟨(free c hc).1, counting.ne_of_undefined (free c hc).2⟩
  obtain ⟨s', home, makes, counting'⟩ := makes_yield builtin deep names counting fresh
  obtain ⟨made, done', rfl⟩ := makes ready rfl
  refine ⟨made, done', fun calls known small => ?_⟩
  have untagged : ∀ c ∈ names.reverse ++ [], interp.forms.contains c = false :=
    fun c hc => (free c (by simpa using hc)).1
  have fits : Number.fits calls.length = true := fits_of_lt small
  obtain ⟨s'', run, -⟩ := calls_yield builtin deep untagged calls counting'
    (fun c hc => by simpa using known c hc) (fun c => by simpa using fits)
  obtain ⟨called, done'', -⟩ := run made rfl
  exact ⟨_, called, done'', length_tallies _ _, fun k here => toInt_tallies fits k here⟩

/-- Two counters that are called in turns, one of them under the name of the variable that counters
    have in their cells. -/
theorem counters_independent_turns :
    let interp := Interp.fresh (.memory []) .kept Interp.defaultLimit
    let names := ["a", "n"]
    let calls := ["a", "n", "a", "a", "n"]
    (∀ c ∈ calls, c ∈ names) ∧ calls.length < 9223372036854775808 ∧
      ∃ ready made values called,
        interp.eval maker Interp.initialState = .ok (.symbol "make-counter") ready ∧
        (∀ c ∈ names, interp.forms.contains c = false ∧
          ready.store.isDefined interp.global c = false) ∧
        interp.operands (names.map make) interp.global ready = .ok (names.map .symbol) made ∧
        interp.operands (calls.map call) interp.global made = .ok values called ∧
        ∃ n : Int64, values[3]? = some (.number n) ∧ n.toInt = 3 := by
  intro interp names calls
  have known : ∀ c ∈ calls, c ∈ names := by decide
  obtain ⟨ready, done, following⟩ := counters_independent (.memory []) .kept
  have free : ∀ c ∈ names, interp.forms.contains c = false ∧
      ready.store.isDefined interp.global c = false := by
    have ran : interp.eval maker Interp.initialState = .ok _ _ := rfl
    obtain ⟨-, rfl⟩ := EStateM.Result.ok.inj (done.symm.trans ran)
    decide
  obtain ⟨made, done', following⟩ := following names free
  obtain ⟨values, called, done'', -, counted⟩ := following calls known (by decide)
  exact ⟨known, by decide, ready, made, values, called, done, free, done', done'',
    counted 3 (by decide)⟩

end MiniScheme.Counter
