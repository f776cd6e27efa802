import MiniScheme.Extension
import MiniScheme.Proofs.Keeping
import MiniScheme.Proofs.Policy

/- Registering a form changes nothing for expressions that do not name its tag.
   The registry is asked at the heads of lists, at symbols, and at the names that
   `define`, `set!` and `lambda` are to bind. All these names stand in the
   expression that is evaluated, in the body of a procedure, in a source, or are
   the `if` and `begin` of an expanded `cond`. So it is enough that no procedure
   naming the tag ever gets into the store or into a value (`Policy.sparing`);
   symbols in the values themselves do no harm. Main statement:
   `evalAt_registerForm`. -/
namespace MiniScheme

/-- The function gives no procedure that names the tag, unless one is given to it. -/
def HostFunction.Spares (f : HostFunction) (tag : String) : Prop :=
  ∀ args v, f.run args = .ok v → (∀ p ∈ Value.closuresAll args, tag ∉ p.names) →
    ∀ p ∈ v.closures, tag ∉ p.names

theorem HostFunction.MakesNoProcedures.spares {f : HostFunction} (h : f.MakesNoProcedures)
    (tag : String) : f.Spares tag :=
  fun args v run given p hp => given p (h args v run p hp)

/-- No procedure names the tag, and no expression does. -/
def Policy.sparing (tag : String) : Policy where
  known := 0
  frame _ _ := True
  env _ _ := True
  procedure _ p := tag ∉ p.names
  code _ v := tag ∉ v.names
  env_mono _ h := h
  procedure_mono _ h := h
  code_mono _ h := h

theorem Value.not_mem_names_list {tag : String} {vs : List Value} :
    tag ∉ (Value.list vs).names ↔ ∀ v ∈ vs, tag ∉ v.names := by
  rw [names, mem_namesAll]
  simp

theorem Policy.lawful_sparing {interp : Interp} {tag : String}
    (ifOther : tag ≠ "if") (beginOther : tag ≠ "begin")
    (hosts : ∀ f ∈ interp.hosts, f.Spares tag)
    (sources : ∀ location items v, interp.loader.items location = .ok items → .ok v ∈ items →
      tag ∉ v.names) : (Policy.sparing tag).Lawful interp where
  bind _ _ _ := trivial
  unbind _ _ := trivial
  call _ _ _ := trivial
  inner _ := trivial
  close {n identity env params body names} _ free bodies signed := by
    obtain ⟨rfl, -⟩ := Form.of_signature signed
    -- the parameters stand in the operand that lists them, and the body as it is
    show tag ∉ names ++ Value.namesAll body
    intro named
    rcases List.mem_append.mp named with param | inside
    · exact Value.not_mem_names_list.mp free _ (List.mem_map_of_mem param) List.mem_cons_self
    · obtain ⟨e, he, named⟩ := Value.mem_namesAll.mp inside
      exact bodies e he named
  items := Value.not_mem_names_list
  codeIf _ := by simpa [sparing, Value.names] using ifOther
  codeBegin _ := by simpa [sparing, Value.names] using beginOther
  codeUnspecified _ := by simp [sparing, Value.names]
  data free p hp named := free (Value.names_of_mem_closures named hp)
  body free _ e he named := free (List.mem_append_right _ (Value.mem_namesAll.mpr ⟨e, he, named⟩))
  read opened hv := sources _ _ _ opened hv
  host {n f args v} known run given := by
    refine hosts f known args v run fun p hp => ?_
    obtain ⟨a, ha, hp⟩ := Value.mem_closuresAll.mp hp
    exact given a ha p hp

namespace Interp

/-- What registering a form makes of an interpreter. -/
theorem of_registerForm {interp extended : Interp} {tag : String} {handler : Handler}
    {st st' : State} (h : interp.registerForm tag handler st = .ok extended st') :
    ∃ forms, interp.forms.insert tag handler = .ok forms ∧
      extended = { interp with forms := forms } := by
  rw [registerForm_run] at h
  split at h
  · cases h
  · split at h
    · cases h
    · next forms added =>
      cases h
      exact ⟨forms, added, rfl⟩

/-- An expression that does not name a tag evaluates as before once a form is registered under
    the tag, if neither the procedures in the store nor the sources name it. -/
theorem evalAt_registerForm {interp extended : Interp} (builtin : interp.forms = .builtin)
    {tag : String} {handler : Handler} {before after : State}
    (registered : interp.registerForm tag handler before = .ok extended after)
    (hosts : ∀ f ∈ interp.hosts, f.Spares tag)
    (sources : ∀ location items v, interp.loader.items location = .ok items → .ok v ∈ items →
      tag ∉ v.names)
    {expr : Value} (free : tag ∉ expr.names) (env : Env) (depth : Nat) {st : State}
    (held : ∀ p, st.store.Holds p → tag ∉ p.names) :
    extended.evalAt expr env depth st = interp.evalAt expr env depth st := by
  obtain ⟨forms, added, rfl⟩ := of_registerForm registered
  -- the tag was not taken, so it is none of those that an expanded `cond` names
  have other : ∀ taken, Registry.builtin.contains taken = true → tag ≠ taken := by
    rintro taken known rfl
    rw [builtin, Registry.insert, if_pos known] at added
    cases added
  have lawful : (Policy.sparing tag).Lawful interp :=
    Policy.lawful_sparing (other "if" rfl) (other "begin" rfl) hosts sources
  -- the registry is asked only for names that stand in expressions
  have mates : (Policy.sparing tag).discipline.Mates interp { interp with forms := forms } := by
    refine ⟨rfl, rfl, rfl, fun {s name} named => Registry.find?_insert_of_ne added ?_⟩
    rintro rfl
    exact named List.mem_cons_self
  have depths := Discipline.Depths.same (Policy.sparing tag).discipline
    (rfl : { interp with forms := forms }.limit = interp.limit)
  have agree := Discipline.evalAt_agree lawful.respects mates depths builtin (rfl : depth = depth)
  have upheld : (Policy.sparing tag).Upheld st.store :=
    ⟨Nat.zero_le _, fun _ _ _ => trivial, held⟩
  exact (agree st.store expr env trivial free st rfl upheld).eq fun _ _ _ excused => excused

/-- A form is registered whose tag is the value of a variable but is named by no program: a
    program that calls a closure and a host function evaluates as before. -/
theorem evalAt_registerForm_unless :
    let keep : HostFunction := ⟨.any, fun args => .ok (.list args)⟩
    let interp : Interp :=
      { Interp.fresh (.memory [("lib", "(twice 4)")]) .kept 20 with hosts := #[keep] }
    let extended : Interp :=
      { interp with forms := ⟨Form.builtins ++ [⟨"unless", Extension.evalUnless⟩]⟩ }
    let body : List Value := [.list [.symbol "+", .symbol "n", .symbol "n"]]
    let frame : Frame := ⟨[("+", .primitive (.builtin .add)),
      ("keep", .primitive (.host "keep" 0)), ("mode", .symbol "unless"),
      ("twice", .procedure 0 ["n"] body ⟨some 0⟩)], .empty⟩
    let st : State := ⟨⟨#[frame], 1⟩, "", #[]⟩
    let expr : Value := .list [.symbol "keep", .symbol "mode", .list [.symbol "twice", .number 2]]
    (∃ after, interp.registerForm "unless" Extension.evalUnless st = .ok extended after) ∧
      extended.evalAt expr ⟨some 0⟩ 3 st = interp.evalAt expr ⟨some 0⟩ 3 st ∧
      ∃ st', interp.evalAt expr ⟨some 0⟩ 3 st = .ok (.list [.symbol "unless", .number 4]) st' := by
  intro keep interp extended body frame st expr
  have registered : interp.registerForm "unless" Extension.evalUnless st = .ok extended _ := rfl
  have hosts : ∀ f ∈ interp.hosts, f.Spares "unless" := by
    intro f known
    obtain rfl : f = keep := by simpa [interp] using known
    refine HostFunction.MakesNoProcedures.spares (fun args v given p hp => ?_) _
    cases given
    exact hp
  have sources : ∀ location items v, interp.loader.items location = .ok items → .ok v ∈ items →
      "unless" ∉ v.names := by
    intro location items v opened hv
    by_cases lib : location = "lib"
    · subst lib
      have text : (Loader.memory [("lib", "(twice 4)")]).items "lib"
          = .ok [.ok (.list [.symbol "twice", .number 4])] := rfl
      obtain rfl := Except.ok.inj (opened.symm.trans text)
      obtain rfl : v = .list [.symbol "twice", .number 4] := by simpa using hv
      decide
    · have missing : (Loader.memory [("lib", "(twice 4)")]).items location
          = .error (.load location .unknownSource) := by
        have other : (location == "lib") = false := by simpa using lib
        simp [Loader.items, Loader.memory, List.lookup_cons, other]
      exact nomatch opened.symm.trans missing
  have held : ∀ p, st.store.Holds p → "unless" ∉ p.names := by
    rintro p ⟨i, f, hf, v, hv, hp⟩
    obtain rfl : f = frame := by
      have := Array.mem_of_getElem? hf
      simpa [st] using this
    have only : p ∈ Value.closuresAll frame.values := Value.mem_closuresAll.mpr ⟨v, hv, hp⟩
    obtain rfl : p = ⟨0, ["n"], body, ⟨some 0⟩⟩ := List.mem_singleton.mp only
    decide
  have same := evalAt_registerForm rfl registered hosts sources (by decide : "unless" ∉ expr.names)
    ⟨some 0⟩ 3 held
  exact ⟨⟨_, registered⟩, same, _, rfl⟩

end Interp

end MiniScheme
