import MiniScheme.Interp.Basic

/- Two runs side by side. `D.Agree s post x y` says that `x` and `y`, started in
   one state with the store `s`, end with the same result in the same state,
   unless `x` ends with an error that the discipline `D` excuses. On the way both
   keep what `D` asks of the store, and the store only moves on as `D` allows;
   `post` is what the result then satisfies. With one computation on both sides
   and nothing excused this is an invariant of the computation; with the trivial
   discipline it compares two computations. The lemmas here take the steps of an
   evaluation one by one. -/
namespace MiniScheme

/-- What two runs keep. Environments, expressions and values are judged in a store and stay good
    in the stores that come later. -/
structure Discipline where
  /-- The second store may come after the first. -/
  later : Store → Store → Prop
  store : Store → Prop
  env : Store → Env → Prop
  expr : Store → Value → Prop
  value : Store → Value → Prop
  /-- An error after which the runs need not agree. -/
  excused : Error → Prop
  later_refl : ∀ s, later s s
  later_trans : ∀ {a b c}, later a b → later b c → later a c
  env_later : ∀ {a b} {e : Env}, later a b → env a e → env b e
  expr_later : ∀ {a b} {v : Value}, later a b → expr a v → expr b v
  value_later : ∀ {a b} {v : Value}, later a b → value a v → value b v

namespace Discipline

/-- How two runs that started with the store `s` may end. -/
inductive Ends (D : Discipline) {α : Type} (s : Store) (post : Store → α → Prop) :
    EStateM.Result Error State α → EStateM.Result Error State α → Prop
  | ok {a : α} {st : State} (later : D.later s st.store) (kept : D.store st.store)
      (good : post st.store a) : Ends D s post (.ok a st) (.ok a st)
  | error {e : Error} {st : State} (later : D.later s st.store) (kept : D.store st.store) :
      Ends D s post (.error e st) (.error e st)
  | excused {e : Error} {st : State} {other : EStateM.Result Error State α} (h : D.excused e) :
      Ends D s post (.error e st) other

/-- Runs that end well from a later store end well from an earlier one. -/
theorem Ends.from_earlier {D : Discipline} {α : Type} {a b : Store} {post : Store → α → Prop}
    {r r' : EStateM.Result Error State α} (h : D.later a b) (ends : D.Ends b post r r') :
    D.Ends a post r r' := by
  cases ends with
  | ok later kept good => exact .ok (D.later_trans h later) kept good
  | error later kept => exact .error (D.later_trans h later) kept
  | excused he => exact .excused he

/-- Runs end alike unless the first ends with an excused error. -/
theorem Ends.eq {D : Discipline} {α : Type} {s : Store} {post : Store → α → Prop}
    {r r' : EStateM.Result Error State α} (ends : D.Ends s post r r')
    (h : ∀ e st, r = .error e st → ¬ D.excused e) : r' = r := by
  cases ends with
  | ok => rfl
  | error => rfl
  | excused he => exact absurd he (h _ _ rfl)

/-- Where nothing is excused, the first run keeps what the discipline asks of a store, and a
    result of it is good. -/
theorem Ends.keeps {D : Discipline} {α : Type} {s : Store} {post : Store → α → Prop}
    {r r' : EStateM.Result Error State α} (ends : D.Ends s post r r')
    (strict : ∀ e, ¬ D.excused e) :
    D.later s (Eval.leaves r).store ∧ D.store (Eval.leaves r).store ∧
      ∀ a st, r = .ok a st → post st.store a := by
  cases ends with
  | ok later kept good => exact ⟨later, kept, fun _ _ same => by cases same; exact good⟩
  | error later kept => exact ⟨later, kept, fun _ _ same => by cases same⟩
  | excused he => exact absurd he (strict _)

/-- Two computations agree from every state with the store `s`. -/
def Agree (D : Discipline) {α : Type} (s : Store) (post : Store → α → Prop) (x y : Eval α) : Prop :=
  ∀ st : State, st.store = s → D.store s → D.Ends s post (x st) (y st)

namespace Agree
variable {D : Discipline} {α β : Type} {s : Store} {post : Store → α → Prop}

/-- Where nothing is excused, a run that agrees with another one agrees with itself. -/
theorem self {x y : Eval α} (h : D.Agree s post x y) (strict : ∀ e, ¬ D.excused e) :
    D.Agree s post x x := by
  intro st hs kept
  have ends := h st hs kept
  rw [ends.eq fun e _ _ => strict e] at ends
  exact ends

theorem pure' {a : α} (h : post s a) : D.Agree s post (pure a) (pure a) := by
  intro st hs kept
  subst hs
  exact .ok (D.later_refl _) kept h

theorem throw' (e : Error) : D.Agree s post (throw e) (throw e) := by
  intro st hs kept
  subst hs
  exact .error (D.later_refl _) kept

theorem fault (f : Fault) : D.Agree s post (Eval.fault f) (Eval.fault f) := throw' _

/-- The continuations need to agree only from the stores that the first parts can leave. -/
theorem bind {P : Store → α → Prop} {final : Store → β → Prop} {x y : Eval α}
    {f g : α → Eval β} (hx : D.Agree s P x y)
    (hf : ∀ s' a, D.later s s' → P s' a → D.Agree s' final (f a) (g a)) :
    D.Agree s final (x >>= f) (y >>= g) := by
  intro st hs kept
  have first := hx st hs kept
  show D.Ends s final (EStateM.bind x f st) (EStateM.bind y g st)
  unfold EStateM.bind
  generalize x st = rx at first
  generalize y st = ry at first
  rcases first with ⟨later, kept', good⟩ | ⟨later, kept'⟩ | he
  · -- both first parts end in one state, where the continuations take over
    exact (hf _ _ later good _ rfl kept').from_earlier later
  · exact .error later kept'
  · exact .excused he

/-- An event is logged on both sides. -/
theorem note_then (event : LogEvent) {x y : Eval α} (h : D.Agree s post x y) :
    D.Agree s post (do Eval.note event; x) (do Eval.note event; y) := by
  intro st hs kept
  subst hs
  exact h { st with log := st.log.push event } rfl kept

/-- A question about the store is answered alike on both sides. -/
theorem ask_then (question : Store → β) {f g : β → Eval α}
    (h : D.Agree s post (f (question s)) (g (question s))) :
    D.Agree s post (Eval.ask question >>= f) (Eval.ask question >>= g) := by
  intro st hs kept
  subst hs
  exact h st rfl kept

/-- A check made before anything is done. -/
theorem ofExcept_then {r : Except Error β} {f g : β → Eval α}
    (h : ∀ b, r = .ok b → D.Agree s post (f b) (g b)) :
    D.Agree s post (Eval.ofExcept r >>= f) (Eval.ofExcept r >>= g) := by
  cases r with
  | error e =>
    intro st hs kept
    subst hs
    exact .error (D.later_refl _) kept
  | ok b => exact h b rfl

theorem ofExcept {r : Except Error α} (h : ∀ a, r = .ok a → post s a) :
    D.Agree s post (Eval.ofExcept r) (Eval.ofExcept r) := by
  cases r with
  | error e => exact throw' e
  | ok a => exact pure' (h a rfl)

/-- A change of the store that may be refused. -/
theorem attempt {f : Store → Except Error Store}
    (h : ∀ s', D.store s → f s = .ok s' → D.later s s' ∧ D.store s') :
    D.Agree s (fun _ _ => True) (Eval.attempt f) (Eval.attempt f) := by
  intro st hs kept
  subst hs
  unfold Eval.attempt
  cases changed : f st.store with
  | error e => exact .error (D.later_refl _) kept
  | ok s' =>
    obtain ⟨later, kept'⟩ := h s' kept changed
    exact .ok later kept' trivial

theorem change {f : Store → Store} (h : D.store s → D.later s (f s) ∧ D.store (f s)) :
    D.Agree s (fun _ _ => True) (Eval.change f) (Eval.change f) := by
  intro st hs kept
  subst hs
  obtain ⟨later, kept'⟩ := h kept
  exact .ok later kept' trivial

theorem noteFailure (event : Error → LogEvent) {x y : Eval α} (h : D.Agree s post x y) :
    D.Agree s post (Eval.noteFailure event x) (Eval.noteFailure event y) := by
  intro st hs kept
  have inner := h st hs kept
  unfold Eval.noteFailure
  generalize x st = rx at inner
  generalize y st = ry at inner
  rcases inner with ⟨later, kept', good⟩ | ⟨later, kept'⟩ | he
  · exact .ok later kept' good
  · exact .error later kept'
  · exact .excused he

end Agree

end Discipline

end MiniScheme
