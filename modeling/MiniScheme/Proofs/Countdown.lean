import MiniScheme.Proofs.Failures

/- The levels that a recursive call takes. `count` calls itself in a branch of a
   conditional, with one less each time, until its argument is zero. A body is
   evaluated one level below the application, a branch one level below its
   conditional, and the call in the branch is applied one level below itself, so
   the next body stands three levels below the last, in a frame of its own
   (`body_leads`). The last body takes three more levels for its test
   (`body_yields_done`), and a body that does not have them fails (`body_fails`).
   By induction on the argument, a limit decides how a body ends (`body_outcome`).
   Main statement: `(count n)` gives `done` under the limits from `3 * n + 5` on,
   and under every smaller one it fails with the error of the limit
   (`count_exact`). -/
namespace MiniScheme.Countdown

open Eval
open Interp (contains_eq_false)

/-- Calls a builtin on the parameter and a number. -/
def operation (name : String) (k : Int64) : Value :=
  .list [.symbol name, .symbol "n", .number k]

/-- The call that `count` makes of itself. -/
def again : Value := .list [.symbol "count", operation "-" 1]

/-- What `count` gives in the end. -/
def ending : Value := .list [.symbol "quote", .symbol "done"]

/-- The body of `count`. -/
def body : Value := Form.conditional (operation "=" 0) ending again

/-- Defines `count`. -/
def countdown : Value :=
  .list [.symbol "define", .list [.symbol "count", .symbol "n"], body]

example : countdown.display = "(define (count n) (if (= n 0) 'done (count (- n 1))))" := by
  decide

def call (n : Int64) : Value := .list [.symbol "count", .number n]

/-- The frame of a call. -/
def frame (n : Int64) : Frame := ⟨[("n", .number n)], ⟨some 0⟩⟩

/-- The global frame of a program with `count`. -/
structure Outermost (g : Frame) : Prop where
  parent : g.parent = .empty
  numEq : g.get? "=" = some (.primitive (.builtin .numEq))
  subtract : g.get? "-" = some (.primitive (.builtin .subtract))
  count : ∃ identity, g.get? "count" = some (.procedure identity ["n"] [body] ⟨some 0⟩)

/-- A call of `count` runs in a frame of its own in front of the global frame. -/
structure Scope (s : Store) (g : Frame) (inner : Nat) (n : Int64) : Prop where
  called : s.frames[inner]? = some (frame n)
  global : s.frames[0]? = some g
  outermost : Outermost g
  inside : 0 < inner

namespace Scope

variable {s : Store} {g : Frame} {inner : Nat} {n : Int64}

theorem lookup?_eq (scope : Scope s g inner n) (name : String) :
    s.lookup? ⟨some inner⟩ name = ((frame n).get? name <|> g.get? name) := by
  have path : s.Path ⟨some inner⟩ [inner, 0] := by
    refine .frame scope.called (.frame scope.global ?_)
    rw [scope.outermost.parent]
    exact .empty
  have descending : [inner, 0].Pairwise (· > ·) := by simp [scope.inside]
  rw [path.lookup?_eq descending, List.findSome?_cons, List.findSome?_cons,
    Store.valueAt_of_frame scope.called, Store.valueAt_of_frame scope.global]
  cases (frame n).get? name <;> cases g.get? name <;> rfl

theorem lookup?_parameter (scope : Scope s g inner n) :
    s.lookup? ⟨some inner⟩ "n" = some (.number n) :=
  scope.lookup?_eq "n"

/-- What the frame of a call does not hide is global. -/
theorem lookup?_global (scope : Scope s g inner n) {name : String}
    (unheld : (frame n).get? name = none) : s.lookup? ⟨some inner⟩ name = g.get? name := by
  rw [scope.lookup?_eq, unheld]
  rfl

/-- The frame that a call adds. -/
theorem of_push (global : s.frames[0]? = some g) (outermost : Outermost g) (n : Int64) :
    Scope (s.push (frame n)).2 g s.frames.size n := by
  have inside : 0 < s.frames.size := (Array.getElem?_eq_some_iff.mp global).1
  refine ⟨?_, ?_, outermost, inside⟩
  · rw [Store.getElem?_push, if_pos rfl]
  · rw [Store.getElem?_push, if_neg (Nat.ne_of_lt inside), global]

end Scope

section
variable {interp : Interp} (builtin : interp.forms = .builtin)
include builtin

/-! One step: the body of a call. -/

/-- A builtin needs a level for its name and its operands. -/
theorem operation_fails (name : String) (k : Int64)
    (free : Registry.builtin.contains name = false) {depth : Nat}
    (refused : interp.limit ≤ depth + 1) (env : Env) (s : Store) :
    Fails (interp.evalAt (operation name k) env depth) s
      (.fault (.depthExceeded interp.limit)) :=
  Interp.fails_call (Interp.formOf?_of_free (contains_eq_false builtin free) _) refused env s

/-- A body without three levels for its test fails. -/
theorem body_fails {depth : Nat} (refused : interp.limit ≤ depth + 3) (env : Env) (s : Store) :
    Fails (evalSequence interp.evalAt env depth [body]) s
      (.fault (.depthExceeded interp.limit)) := by
  by_cases admitted : depth + 1 < interp.limit
  · have untested := operation_fails builtin "=" 0 rfl refused env s
    exact Interp.fails_conditional (builtin ▸ .builtin) admitted untested ending again
  · exact Interp.fails_at_limit (Nat.le_of_not_lt admitted) body env s

section
variable {s : Store} {g : Frame} {inner : Nat} {n : Int64} (scope : Scope s g inner n) {depth : Nat}
include scope

theorem test_yields (room : depth + 1 < interp.limit) :
    Yields (interp.evalAt (operation "=" 0) ⟨some inner⟩ depth) s (.bool (n == 0)) s :=
  Interp.yields_operation (contains_eq_false builtin rfl) (contains_eq_false builtin rfl)
    ((scope.lookup?_global rfl).trans scope.outermost.numEq) scope.lookup?_parameter rfl
    (Builtin.value_numEq n 0) rfl room

theorem difference_yields {m : Int64} (next : m.toInt = n.toInt - 1)
    (room : depth + 1 < interp.limit) :
    Yields (interp.evalAt (operation "-" 1) ⟨some inner⟩ depth) s (.number m) s :=
  Interp.yields_operation (contains_eq_false builtin rfl) (contains_eq_false builtin rfl)
    ((scope.lookup?_global rfl).trans scope.outermost.subtract) scope.lookup?_parameter rfl
    (Builtin.value_subtract next) rfl room

/-- The body goes on with the branch that the parameter chooses. -/
theorem body_leads_branch (room : depth + 3 < interp.limit) :
    Leads (evalSequence interp.evalAt ⟨some inner⟩ depth [body]) s
      (interp.evalAt (if (Value.bool (n == 0)).isTrue then ending else again) ⟨some inner⟩
        (depth + 2)) s :=
  Interp.leads_conditional (builtin ▸ .builtin) ending again (by omega)
    (test_yields builtin scope room)

/-- At zero the body gives `done`. -/
theorem body_yields_done (zero : n = 0) (room : depth + 3 < interp.limit) :
    Yields (evalSequence interp.evalAt ⟨some inner⟩ depth [body]) s (.symbol "done") s := by
  have branch := body_leads_branch builtin scope room
  rw [zero] at branch
  exact branch.yields (Interp.yields_quote (builtin ▸ .builtin) _ _ (by omega) s)

/-- Everywhere else it goes on with the call of `count`. -/
theorem body_leads_again (positive : n ≠ 0) (room : depth + 3 < interp.limit) :
    Leads (evalSequence interp.evalAt ⟨some inner⟩ depth [body]) s
      (interp.evalAt again ⟨some inner⟩ (depth + 2)) s := by
  have branch := body_leads_branch builtin scope room
  rw [beq_false_of_ne positive] at branch
  exact branch

theorem count_yields (room : depth < interp.limit) : ∃ identity,
    Yields (interp.evalAt (.symbol "count") ⟨some inner⟩ depth) s
      (.procedure identity ["n"] [body] ⟨some 0⟩) s := by
  have free : interp.forms.contains "count" = false := contains_eq_false builtin rfl
  obtain ⟨identity, bound⟩ := scope.outermost.count
  exact ⟨identity, Interp.yields_variable free room ((scope.lookup?_global rfl).trans bound)⟩

/-- The next body stands three levels below, in a frame that holds one less. -/
theorem body_leads {m : Int64} (positive : n ≠ 0) (next : m.toInt = n.toInt - 1)
    (room : depth + 4 < interp.limit) :
    Leads (evalSequence interp.evalAt ⟨some inner⟩ depth [body]) s
      (evalSequence interp.evalAt ⟨some s.frames.size⟩ (depth + 3) [body])
      (s.push (frame m)).2 := by
  have free : interp.forms.contains "count" = false := contains_eq_false builtin rfl
  obtain ⟨identity, operator⟩ := count_yields builtin scope (by omega : depth + 3 < interp.limit)
  have less := difference_yields builtin scope next room
  have called := Interp.leads_call (Interp.formOf?_of_free free _) (by omega) operator
    (Interp.yields_operands less (Interp.yields_no_operands _ _ _ s))
  refine (body_leads_again builtin scope positive (by omega)).trans (called.trans ?_)
  exact Interp.leads_closure interp.evalAt identity [body] ⟨some 0⟩ rfl (depth + 3) s

/-- A body that is to call `count` fails without four levels, the last of which the difference
    takes. -/
theorem body_fails_again (positive : n ≠ 0) (refused : interp.limit ≤ depth + 4) :
    Fails (evalSequence interp.evalAt ⟨some inner⟩ depth [body]) s
      (.fault (.depthExceeded interp.limit)) := by
  by_cases room : depth + 3 < interp.limit
  · have free : interp.forms.contains "count" = false := contains_eq_false builtin rfl
    obtain ⟨identity, operator⟩ := count_yields builtin scope room
    have undone := operation_fails builtin "-" 1 rfl refused ⟨some inner⟩ s
    refine (body_leads_again builtin scope positive room).fails ?_
    exact Interp.fails_call_operands (Interp.formOf?_of_free free _) (by omega) operator
      (Interp.fails_operand undone [])
  · exact body_fails builtin (Nat.le_of_not_lt room) ⟨some inner⟩ s

end

/-- The body of a call with `k` gives `done` if the limit leaves it three levels for each of the `k`
    calls that follow and four more, and otherwise fails with the error of the limit. -/
theorem body_outcome (k depth : Nat) {s : Store} {g : Frame} {inner : Nat} {n : Int64}
    (scope : Scope s g inner n) (exact : n.toInt = k) :
    (depth + 3 * k + 4 ≤ interp.limit → ∃ s',
      Yields (evalSequence interp.evalAt ⟨some inner⟩ depth [body]) s (.symbol "done") s') ∧
    (interp.limit < depth + 3 * k + 4 →
      Fails (evalSequence interp.evalAt ⟨some inner⟩ depth [body]) s
        (.fault (.depthExceeded interp.limit))) := by
  induction k generalizing s inner n depth with
  | zero =>
    have zero : n = 0 := Int64.toInt_inj.mp exact
    refine ⟨fun room => ⟨s, body_yields_done builtin scope zero (by omega)⟩, fun refused => ?_⟩
    exact body_fails builtin (by omega) ⟨some inner⟩ s
  | succ k ih =>
    have positive : n ≠ 0 := by
      intro zero
      rw [zero, Int64.toInt_zero] at exact
      omega
    by_cases room : depth + 4 < interp.limit
    · -- the body of the call that follows has three levels less
      have fits : Number.fits (k + 1 : Nat) = true := exact ▸ Number.fits_toInt n
      have less : (Int64.ofInt k).toInt = k :=
        Number.toInt_ofInt (Number.fits_of_le (Nat.le_succ k) fits)
      have next : (Int64.ofInt k).toInt = n.toInt - 1 := by omega
      have step := body_leads builtin scope positive next room
      obtain ⟨enough, short⟩ :=
        ih (depth + 3) (Scope.of_push scope.global scope.outermost (.ofInt k)) less
      constructor
      · intro deep
        obtain ⟨s', done⟩ := enough (by omega)
        exact ⟨s', step.yields done⟩
      · intro shallow
        exact step.fails (short (by omega))
    · refine ⟨fun deep => by omega, fun _ => ?_⟩
      exact body_fails_again builtin scope positive (Nat.le_of_not_lt room)

/-! The definition, and a call at the top level. -/

theorem countdown_yields (some? : 0 < interp.limit) : ∃ s,
    Yields (interp.evalAt countdown ⟨some 0⟩ 0) Interp.initialState.store (.symbol "count") s ∧
      ∃ g, s.frames[0]? = some g ∧ Outermost g := by
  have free : interp.forms.contains "count" = false := contains_eq_false builtin rfl
  have signed : Form.signature interp.forms.contains (.list [.symbol "n"]) [body] = .ok ["n"] := by
    rw [builtin]
    rfl
  have defined := Interp.yields_define_procedure (builtin ▸ .builtin) 0 free signed some?
    Interp.initialState.store
  refine ⟨_, defined, _, by rw [Store.getElem?_modifyFrame, if_pos rfl]; rfl, ?_⟩
  exact ⟨rfl, rfl, rfl, ⟨0, Frame.get?_bind_self _ _ _⟩⟩

/-- A call at the top level applies `count` one level down. -/
theorem call_leads {s : Store} {g : Frame} (global : s.frames[0]? = some g)
    (outermost : Outermost g) (n : Int64) (room : 1 < interp.limit) :
    Leads (interp.evalAt (call n) ⟨some 0⟩ 0) s
      (evalSequence interp.evalAt ⟨some s.frames.size⟩ 1 [body]) (s.push (frame n)).2 := by
  have free : interp.forms.contains "count" = false := contains_eq_false builtin rfl
  obtain ⟨identity, bound⟩ := outermost.count
  have operator := (Store.lookup?_outermost global outermost.parent "count").trans bound
  have called := Interp.leads_call (Interp.formOf?_of_free free _) (by omega)
    (Interp.yields_variable free room operator)
    (Interp.yields_operands (Interp.yields_number n ⟨some 0⟩ room s)
      (Interp.yields_no_operands _ _ _ s))
  exact called.trans (Interp.leads_closure interp.evalAt identity [body] ⟨some 0⟩ rfl 1 s)

/-- A call at the top level takes five levels, and three for each call that follows. -/
theorem call_outcome {s : Store} {g : Frame} (global : s.frames[0]? = some g)
    (outermost : Outermost g) {n : Int64} {k : Nat} (exact : n.toInt = k) :
    (3 * k + 5 ≤ interp.limit → ∃ s',
      Yields (interp.evalAt (call n) ⟨some 0⟩ 0) s (.symbol "done") s') ∧
    (interp.limit < 3 * k + 5 →
      Fails (interp.evalAt (call n) ⟨some 0⟩ 0) s (.fault (.depthExceeded interp.limit))) := by
  by_cases room : 1 < interp.limit
  · have applied := call_leads builtin global outermost n room
    obtain ⟨enough, short⟩ := body_outcome builtin k 1 (Scope.of_push global outermost n) exact
    constructor
    · intro deep
      obtain ⟨s', done⟩ := enough (by omega)
      exact ⟨s', applied.yields done⟩
    · intro shallow
      exact applied.fails (short (by omega))
  · have free : interp.forms.contains "count" = false := contains_eq_false builtin rfl
    refine ⟨fun deep => by omega, fun _ => ?_⟩
    exact Interp.fails_call (Interp.formOf?_of_free free _) (Nat.le_of_not_lt room) _ s

end

/-- In a fresh interpreter with `count`, under any limit, `(count n)` gives `done` if the limit is
    at least `3 * n + 5`, and fails with the error of the limit otherwise. -/
theorem count_exact (loader : Loader) (sink : Sink) {limit : Nat} (some? : 1 ≤ limit) :
    let interp := Interp.fresh loader sink limit
    ∃ ready, interp.eval countdown Interp.initialState = .ok (.symbol "count") ready ∧
      ∀ n : Int64, 0 ≤ n.toInt →
        (3 * n.toInt + 5 ≤ limit →
          ∃ st, interp.eval (call n) ready = .ok (.symbol "done") st) ∧
        (limit < 3 * n.toInt + 5 →
          ∃ f st, interp.eval (call n) ready = .error (.fault f) st ∧
            f.message = s!"Evaluation depth limit exceeded (max: {limit})") := by
  intro interp
  have builtin : interp.forms = .builtin := rfl
  obtain ⟨s, defined, g, global, outermost⟩ := countdown_yields builtin some?
  obtain ⟨ready, done, rfl⟩ := defined Interp.initialState rfl
  refine ⟨ready, done, fun n natural => ?_⟩
  have exact : n.toInt = n.toInt.toNat := (Int.toNat_of_nonneg natural).symm
  obtain ⟨enough, short⟩ := call_outcome builtin global outermost exact
  constructor
  · intro deep
    have room : 3 * n.toInt.toNat + 5 ≤ limit := by omega
    obtain ⟨s', yields⟩ := enough room
    obtain ⟨st, ended, -⟩ := yields ready rfl
    exact ⟨st, ended⟩
  · intro shallow
    have refused : limit < 3 * n.toInt.toNat + 5 := by omega
    obtain ⟨st, failed⟩ := short refused ready rfl
    exact ⟨_, st, failed, rfl⟩

/-- A limit of eleven is enough for two, and not for three. -/
theorem count_exact_eleven :
    let interp := Interp.fresh (.memory []) .kept 11
    1 ≤ 11 ∧ 3 * (2 : Int64).toInt + 5 ≤ 11 ∧ 11 < 3 * (3 : Int64).toInt + 5 ∧
    ∃ ready, interp.eval countdown Interp.initialState = .ok (.symbol "count") ready ∧
      (∃ st, interp.eval (call 2) ready = .ok (.symbol "done") st) ∧
      ∃ f st, interp.eval (call 3) ready = .error (.fault f) st ∧
        f.message = "Evaluation depth limit exceeded (max: 11)" := by
  intro interp
  obtain ⟨ready, done, following⟩ := count_exact (.memory []) .kept (by decide : 1 ≤ 11)
  obtain ⟨enough, -⟩ := following 2 (by decide)
  obtain ⟨-, short⟩ := following 3 (by decide)
  obtain ⟨f, st, failed, message⟩ := short (by decide)
  exact ⟨by decide, by decide, by decide, ready, done, enough (by decide), f, st, failed,
    message.trans (by decide)⟩

end MiniScheme.Countdown
