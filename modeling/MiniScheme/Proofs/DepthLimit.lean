import MiniScheme.Proofs.Agreement

/- The depth limit only ends evaluations. A run that does not end with the error
   of the limit is the same run under every limit that leaves at least as many
   levels, from whatever depth it starts (`evalAt_of_more_levels`): the same
   value or error, the same store, the same output and log. -/
namespace MiniScheme

/-- The discipline that asks nothing, and excuses the runs that exceed a limit. -/
def Discipline.upTo (limit : Nat) : Discipline where
  later _ _ := True
  store _ := True
  env _ _ := True
  expr _ _ := True
  value _ _ := True
  excused e := e = .fault (.depthExceeded limit)
  later_refl _ := trivial
  later_trans _ _ := trivial
  env_later _ _ := trivial
  expr_later _ _ := trivial
  value_later _ _ := trivial

namespace Interp

/-- The interpreter with another depth limit. -/
def withLimit (interp : Interp) (limit : Nat) : Interp := { interp with limit := limit }

theorem respects_upTo (interp : Interp) (limit : Nat) : (Discipline.upTo limit).Respects interp := by
  refine ⟨?_, fun _ => trivial⟩
  constructor <;> intros <;> simp [Discipline.upTo]

theorem mates_withLimit (interp : Interp) (limit limit' : Nat) :
    (Discipline.upTo limit).Mates interp (interp.withLimit limit') :=
  ⟨rfl, rfl, rfl, fun _ => rfl⟩

/-- Depths at which the second limit leaves as many levels as the first, or more. -/
theorem depths_withLimit (interp : Interp) (limit' : Nat) :
    (Discipline.upTo interp.limit).Depths interp (interp.withLimit limit')
      fun depth depth' => interp.limit + depth' ≤ limit' + depth where
  deeper room := by omega
  below room admitted := by
    show _ < limit'
    omega
  atLimit _ _ := .inl rfl

/-- A run that the depth limit does not end is the same run wherever at least as many levels are
    left. -/
theorem evalAt_of_more_levels (interp : Interp) (builtin : interp.forms = .builtin)
    (limit' : Nat) (expr : Value) (env : Env) {depth depth' : Nat}
    (room : interp.limit + depth' ≤ limit' + depth) (st : State)
    (within : ∀ st',
      interp.evalAt expr env depth st ≠ .error (.fault (.depthExceeded interp.limit)) st') :
    (interp.withLimit limit').evalAt expr env depth' st = interp.evalAt expr env depth st := by
  have agree := Discipline.evalAt_agree (interp.respects_upTo interp.limit)
    (interp.mates_withLimit _ limit') (interp.depths_withLimit limit') builtin room
  refine (agree st.store expr env trivial trivial st rfl trivial).eq ?_
  intro e st' ended exceeded
  cases exceeded
  exact within st' ended

/-- A conditional whose chosen branch lies three levels below it, under a limit of four and from
    a deeper start under a limit of nine. -/
theorem evalAt_of_more_levels_conditional :
    let interp := Interp.fresh (.memory []) .kept 4
    let expr : Value := .list [.symbol "if", .list [.symbol "<", .number 1, .number 2],
      .list [.symbol "begin", .list [.symbol "quote", .symbol "less"]], .number 8]
    (∀ st', interp.evalAt expr interp.global 0 initialState
      ≠ .error (.fault (.depthExceeded 4)) st') ∧
    (interp.withLimit 9).evalAt expr interp.global 5 initialState
      = interp.evalAt expr interp.global 0 initialState := by
  intro interp expr
  have within : ∀ st', interp.evalAt expr interp.global 0 initialState
      ≠ .error (.fault (.depthExceeded 4)) st' := by
    intro st' ended
    have value : (match interp.evalAt expr interp.global 0 initialState with
        | .ok _ _ => true
        | .error _ _ => false) = true := by rfl
    rw [ended] at value
    cases value
  exact ⟨within, interp.evalAt_of_more_levels rfl 9 expr interp.global (by decide) initialState
    within⟩

end Interp

end MiniScheme
