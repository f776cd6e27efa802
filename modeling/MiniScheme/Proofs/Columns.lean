import Mathlib.Logic.Relation
import MiniScheme.Proofs.Clients

/- Frames kept as two lists. A frame pairs each name with its value, so there is no
   name without one. Here the names and the values of a frame are two lists, which
   nothing but the edits keeps in step: a new frame takes them from a caller
   (`extend?`), and an edit goes to the position of a name in both, which may lie
   past the end of the values (`put?`, `remove?`). If the lists have equal length,
   edits can be done and leave lists of equal length (`put?_of_aligned`,
   `remove?_of_aligned`); so this holds along all steps (`Evolves.aligned`). An edit
   of a frame is the same edit of its two lists (`Frame.put?_columns`,
   `Frame.remove?_columns`), and the discipline `columnwise` carries this over to
   evaluation. Main statement: what a call makes of the frames of a client, it makes
   of their lists step by step, and none of the edits goes past an end
   (`Client.evolves_perform`). -/
namespace MiniScheme

/-- The names and the values of a frame as two lists. -/
structure Columns where
  names : List String
  values : List Value

namespace Columns

/-- There are as many values as names. -/
def Aligned (c : Columns) : Prop := c.names.length = c.values.length

/-- The lists of a new frame; lists of different lengths are refused. -/
def extend? (names : List String) (values : List Value) : Option Columns :=
  if names.length = values.length then some ⟨names, values⟩ else none

/-- The first position where a name stands. -/
def position? (c : Columns) (name : String) : Option Nat := c.names.idxOf? name

/-- Puts a value at the position of a name, or the two at the ends. There is no result if the
    position lies past the end of the values. -/
def put? (c : Columns) (name : String) (value : Value) : Option Columns :=
  match c.position? name with
  | some k => if k < c.values.length then some ⟨c.names, c.values.set k value⟩ else none
  | none => some ⟨c.names ++ [name], c.values ++ [value]⟩

/-- Removes a name and what stands at its position. There is no result if the position lies past
    the end of the values. -/
def remove? (c : Columns) (name : String) : Option Columns :=
  match c.position? name with
  | some k =>
    if k < c.values.length then some ⟨c.names.eraseIdx k, c.values.eraseIdx k⟩ else none
  | none => some c

/-- A frame is added, or the lists of one frame are edited. -/
inductive Step (cs : List Columns) : List Columns → Prop
  | extend {names : List String} {values : List Value} {c : Columns}
      (made : extend? names values = some c) : Step cs (cs ++ [c])
  | put {i : Nat} {c c' : Columns} {name : String} {value : Value} (here : cs[i]? = some c)
      (done : c.put? name value = some c') : Step cs (cs.set i c')
  | remove {i : Nat} {c c' : Columns} {name : String} (here : cs[i]? = some c)
      (done : c.remove? name = some c') : Step cs (cs.set i c')

/-- The second frames are the first after some steps. -/
def Evolves : List Columns → List Columns → Prop := Relation.ReflTransGen Step

/-! Lists of equal length. -/

theorem position?_lt {c : Columns} {name : String} {k : Nat} (found : c.position? name = some k) :
    k < c.names.length := by
  obtain ⟨known, -⟩ := List.idxOf?_eq_some_iff.mp found
  exact known

/-- The position of a name is not past the end of the values. -/
theorem Aligned.inside {c : Columns} (aligned : c.Aligned) {name : String} {k : Nat}
    (found : c.position? name = some k) : k < c.values.length :=
  aligned ▸ position?_lt found

/-- What a new frame is made of has as many values as names. -/
theorem aligned_of_extend? {names : List String} {values : List Value} {c : Columns}
    (made : extend? names values = some c) : c.Aligned := by
  unfold extend? at made
  split at made
  · next fits =>
    cases made
    exact fits
  · cases made

/-- The position of a name has a value, which can be replaced; a new name gets one. -/
theorem put?_of_aligned {c : Columns} (aligned : c.Aligned) (name : String) (value : Value) :
    ∃ c', c.put? name value = some c' ∧ c'.Aligned := by
  unfold put?
  cases found : c.position? name with
  | none =>
    refine ⟨_, rfl, ?_⟩
    show (c.names ++ [name]).length = (c.values ++ [value]).length
    rw [List.length_append, List.length_append, aligned]
    rfl
  | some k =>
    refine ⟨_, if_pos (aligned.inside found), ?_⟩
    show c.names.length = (c.values.set k value).length
    rw [List.length_set, aligned]

/-- The position of a name has a value, which goes with the name. -/
theorem remove?_of_aligned {c : Columns} (aligned : c.Aligned) (name : String) :
    ∃ c', c.remove? name = some c' ∧ c'.Aligned := by
  unfold remove?
  cases found : c.position? name with
  | none => exact ⟨c, rfl, aligned⟩
  | some k =>
    have inside := aligned.inside found
    refine ⟨_, if_pos inside, ?_⟩
    show (c.names.eraseIdx k).length = (c.values.eraseIdx k).length
    rw [List.length_eraseIdx_of_lt (position?_lt found), List.length_eraseIdx_of_lt inside, aligned]

theorem aligned_set {cs : List Columns} (all : ∀ c ∈ cs, c.Aligned) {c : Columns}
    (aligned : c.Aligned) (i : Nat) : ∀ d ∈ cs.set i c, d.Aligned := by
  intro d hd
  rcases List.mem_or_eq_of_mem_set hd with old | rfl
  · exact all d old
  · exact aligned

theorem Step.aligned {cs cs' : List Columns} (step : Step cs cs') (all : ∀ c ∈ cs, c.Aligned) :
    ∀ c ∈ cs', c.Aligned := by
  cases step with
  | extend made =>
    intro d hd
    rcases List.mem_append.mp hd with old | new
    · exact all d old
    · cases List.mem_singleton.mp new
      exact aligned_of_extend? made
  | @put i c c' name value here done =>
    obtain ⟨after, same, aligned⟩ := put?_of_aligned (all c (List.mem_of_getElem? here)) name value
    cases done.symm.trans same
    exact aligned_set all aligned i
  | @remove i c c' name here done =>
    obtain ⟨after, same, aligned⟩ := remove?_of_aligned (all c (List.mem_of_getElem? here)) name
    cases done.symm.trans same
    exact aligned_set all aligned i

/-- Frames that have come about step by step have as many values as names. -/
theorem Evolves.aligned {cs cs' : List Columns} (run : Evolves cs cs')
    (all : ∀ c ∈ cs, c.Aligned) : ∀ c ∈ cs', c.Aligned := by
  induction run with
  | refl => exact all
  | tail _ step ih => exact step.aligned ih

end Columns

/-! Frames and their lists. -/

/-- The names and the values of a frame. -/
def Frame.columns (f : Frame) : Columns := ⟨f.names, f.values⟩

namespace Frame

theorem aligned_columns (f : Frame) : f.columns.Aligned := by
  simp [Columns.Aligned, columns, names, values]

theorem put?_columns (f : Frame) (name : String) (value : Value) :
    f.columns.put? name value = some (f.bind name value).columns := by
  have known := names_bind f name value
  have held := values_bind f name value
  unfold columns Columns.put? Columns.position?
  rw [known, held]
  cases found : f.names.idxOf? name with
  | none =>
    have new : name ∉ f.names := List.idxOf?_eq_none_iff.mp found
    simp only [if_neg new]
  | some k =>
    have inside : k < f.values.length := f.aligned_columns.inside found
    have old : name ∈ f.names := List.isSome_idxOf?.mp (by rw [found]; rfl)
    simp only [if_pos inside, if_pos old]

theorem remove?_columns (f : Frame) (name : String) :
    f.columns.remove? name = some (f.unbind name).columns := by
  have known := names_unbind f name
  have held := values_unbind f name
  unfold columns Columns.remove? Columns.position?
  rw [known, held]
  cases found : f.names.idxOf? name with
  | none => rfl
  | some k =>
    have inside : k < f.values.length := f.aligned_columns.inside found
    simp only [if_pos inside]

theorem extend?_columns {names : List String} {values : List Value}
    (fits : names.length = values.length) (parent : Env) :
    Columns.extend? names values = some (columns ⟨names.zip values, parent⟩) := by
  have first : (names.zip values).map (·.1) = names := List.map_fst_zip (Nat.le_of_eq fits)
  have second : (names.zip values).map (·.2) = values := List.map_snd_zip (Nat.le_of_eq fits.symm)
  unfold columns Frame.names Frame.values
  rw [first, second]
  exact if_pos fits

end Frame

namespace Store

/-- The lists of all frames. -/
def columns (s : Store) : List Columns := s.frames.toList.map Frame.columns

theorem getElem?_columns (s : Store) (i : Nat) :
    s.columns[i]? = s.frames[i]?.map Frame.columns := by
  simp [columns]

theorem columns_modifyFrame {s : Store} {i : Nat} {f : Frame} (here : s.frames[i]? = some f)
    (change : Frame → Frame) :
    (s.modifyFrame i change).columns = s.columns.set i (change f).columns := by
  apply List.ext_getElem?
  intro k
  rw [getElem?_columns, getElem?_modifyFrame, List.getElem?_set, getElem?_columns]
  by_cases same : i = k
  · subst same
    have known : i < s.columns.length := by
      obtain ⟨lt, -⟩ := Array.getElem?_eq_some_iff.mp here
      simpa [columns] using lt
    rw [if_pos rfl, if_pos rfl, if_pos known, here]
    rfl
  · rw [if_neg same, if_neg same]

theorem columns_push (s : Store) (f : Frame) : (s.push f).2.columns = s.columns ++ [f.columns] := by
  simp [columns, push]

/-- A change of one frame is a step if it is one of its lists. -/
theorem evolves_modifyFrame (s : Store) (i : Nat) {change : Frame → Frame}
    (step : ∀ f, s.columns[i]? = some f.columns →
      Columns.Step s.columns (s.columns.set i (change f).columns)) :
    Columns.Evolves s.columns (s.modifyFrame i change).columns := by
  cases here : s.frames[i]? with
  | none =>
    have same : (s.modifyFrame i change).columns = s.columns := by
      apply List.ext_getElem?
      intro k
      rw [getElem?_columns, getElem?_columns, getElem?_modifyFrame]
      split
      · next this => rw [← this, here]; rfl
      · rfl
    rw [same]
    exact .refl
  | some f =>
    rw [columns_modifyFrame here]
    refine .single (step f ?_)
    rw [getElem?_columns, here]
    rfl

theorem evolves_bind (s : Store) (i : Nat) (name : String) (value : Value) :
    Columns.Evolves s.columns (s.modifyFrame i (·.bind name value)).columns :=
  s.evolves_modifyFrame i fun f here => .put here (f.put?_columns name value)

theorem evolves_unbind (s : Store) (i : Nat) (name : String) :
    Columns.Evolves s.columns (s.modifyFrame i (·.unbind name)).columns :=
  s.evolves_modifyFrame i fun f here => .remove here (f.remove?_columns name)

/-- Unbinding a name in one frame after the other. -/
theorem evolves_unbindAll (name : String) : ∀ (is : List Nat) (s : Store),
    Columns.Evolves s.columns (is.foldl (fun s i => s.modifyFrame i (·.unbind name)) s).columns
  | [], _ => .refl
  | i :: rest, s => (s.evolves_unbind i name).trans (evolves_unbindAll name rest _)

theorem evolves_extend (s : Store) {names : List String} {values : List Value}
    (fits : names.length = values.length) (parent : Env) :
    Columns.Evolves s.columns (s.push ⟨names.zip values, parent⟩).2.columns := by
  rw [columns_push]
  exact .single (.extend (Frame.extend?_columns fits parent))

end Store

/-- Nothing is asked but that the lists of the frames change step by step. -/
def Discipline.columnwise : Discipline where
  later a b := Columns.Evolves a.columns b.columns
  store _ := True
  env _ _ := True
  expr _ _ := True
  value _ _ := True
  excused _ := False
  later_refl _ := .refl
  later_trans h h' := h.trans h'
  env_later _ _ := trivial
  expr_later _ _ := trivial
  value_later _ _ := trivial

theorem Discipline.columnwise_respects (interp : Interp) : columnwise.Respects interp where
  expr_items _ _ _ := trivial
  expr_list _ := trivial
  expr_if _ := trivial
  expr_begin _ := trivial
  expr_unspecified _ := trivial
  value_of_expr _ := trivial
  value_atom _ _ _ := trivial
  value_items _ _ _ := trivial
  value_list _ := trivial
  read _ _ := trivial
  host _ _ _ := trivial
  lookup _ _ _ := trivial
  define {s s' env name v} _ _ _ _ done := by
    unfold Store.define at done
    split at done
    · cases done
      exact ⟨s.evolves_bind _ name v, trivial⟩
    · cases done
  set {s s' env name v} _ _ _ _ done := by
    unfold Store.set at done
    split at done
    · cases done
      exact ⟨s.evolves_bind _ name v, trivial⟩
    · cases done
  unbindLocally {s env} name _ _ := by
    unfold Store.unbindLocally
    split
    · exact ⟨s.evolves_unbind _ name, trivial⟩
    · exact ⟨.refl, trivial⟩
  unbind {s env} name _ _ := ⟨s.evolves_unbindAll name _, trivial⟩
  closure _ _ _ _ _ := ⟨.refl, trivial, trivial⟩
  call {s identity params body env args} _ _ _ fits :=
    ⟨s.evolves_extend fits env, trivial, trivial, fun _ _ => trivial⟩

namespace Client

/-- The lists of the one frame of a fresh interpreter begin empty and take each binding in turn. -/
theorem evolves_start (loader : Loader) (sink : Sink) (limit : Nat) :
    Columns.Evolves [] (start loader sink limit).state.store.columns := by
  show Columns.Evolves [] [(Frame.ofBindings .empty Interp.initialBindings).columns]
  refine Frame.ofBindings_induct (motive := fun f => Columns.Evolves [] [f.columns]) ?_ ?_
  · have made : Columns.extend? [] [] = some (Frame.empty .empty).columns := rfl
    have added : Columns.Step [] ([] ++ [(Frame.empty .empty).columns]) := .extend made
    exact .single added
  · intro f b _ before
    have edited : Columns.Step [f.columns] ([f.columns].set 0 (f.bind b.1 b.2).columns) :=
      .put rfl (f.put?_columns b.1 b.2)
    exact before.tail edited

theorem state_take (c : Client) (ended : EStateM.Result Error State Value) :
    (c.take ended).state = Eval.leaves ended := by
  cases ended <;> rfl

theorem state_adopt (c : Client) (ended : EStateM.Result Error State Interp) :
    (c.adopt ended).state = Eval.leaves ended := by
  cases ended <;> rfl

/-- A call changes the frames of a client by steps of their lists, if the handlers do. -/
theorem evolves_perform {c : Client}
    (handlers : ∀ form ∈ c.interp.forms.forms,
      Discipline.columnwise.HandlerKeeps c.interp form.handler) (call : Call) :
    Columns.Evolves c.state.store.columns (c.perform call).state.store.columns := by
  have respects := Discipline.columnwise_respects c.interp
  have left {α : Type} {post : Store → α → Prop} {x : Eval α}
      (keeps : Discipline.columnwise.Agree c.state.store post x x) :
      Columns.Evolves c.state.store.columns (Eval.leaves (x c.state)).store.columns :=
    ((keeps c.state rfl trivial).keeps fun _ h => h).1
  cases call with
  | eval expr =>
    rw [perform, state_take]
    exact left (Discipline.evalAt_keeps respects handlers 0 _ expr _ trivial trivial)
  | evalText text =>
    rw [perform, state_take]
    exact left (Discipline.evalText_keeps respects handlers text trivial fun _ _ _ => trivial)
  | evaluate expr env =>
    rw [perform, state_take]
    exact left (Discipline.evalAt_keeps respects handlers 0 _ expr env trivial trivial)
  | apply operator args =>
    rw [perform, state_take]
    exact left (Discipline.apply_keeps respects handlers trivial fun _ _ => trivial)
  | install name function =>
    rw [perform, state_adopt]
    exact left (Discipline.install_keeps respects name function trivial trivial)
  | register tag handler =>
    rw [perform, state_adopt]
    exact left (Discipline.registerForm_keeps _ c.interp tag handler c.state.store)

end Client

end MiniScheme
