import MiniScheme.Session.Recipe

/- Sessions with a registry that stands alone: forms are registered and looked
   up in it, and invoked on a fresh interpreter that knows only the builtin
   forms. -/
namespace MiniScheme

/-- One request about a registry. -/
inductive FormStep where
  | register (tag : String) (handler : Handler)
  | lookup (tag : String)
  | state
  | invoke (tag : String) (args : List Recipe) (depth : Nat)

/-- The answer to a request about a registry that succeeds. -/
inductive FormReply where
  | registered (tag : String)
  /-- Whether the tag is registered, and the form. -/
  | found (contains : Bool) (form : Option Form)
  | state (tags : List String) (size : Nat) (isEmpty : Bool)
  | value (v : Value)
  /-- No form is registered under the tag. -/
  | missing

/-- A registry, and an interpreter with its store to invoke forms on. -/
structure FormSession where
  registry : Registry
  interp : Interp
  store : Store

namespace FormSession

/-- A session that starts with the given registry. -/
def start (registry : Registry) : FormSession where
  registry := registry
  interp := Interp.fresh (.files ⟨[]⟩) .kept Interp.defaultLimit
  store := Interp.initialState.store

/-- Performs a request: the answer and the registry after it. -/
def perform (s : FormSession) : FormStep → Eval (FormReply × Registry)
  | .register tag handler => do
    let grown ← s.registry.register tag handler
    return (.registered tag, grown)
  | .lookup tag => return (.found (s.registry.contains tag) (s.registry.find? tag), s.registry)
  | .state => return (.state s.registry.tags s.registry.size s.registry.isEmpty, s.registry)
  | .invoke tag args depth => do
    let operands ← Recipe.buildAll (fun _ => s.interp.global) args
    match s.registry.find? tag with
    | some form =>
      let context := s.interp.context s.interp.evalAt
      let v ← form.handler context operands s.interp.global depth
      return (.value v, s.registry)
    | none => return (.missing, s.registry)

/-- Performs one request. -/
def step (s : FormSession) (request : FormStep) : Except Error FormReply × FormSession :=
  match s.perform request ⟨s.store, "", #[]⟩ with
  | .ok (reply, registry) st => (.ok reply, { s with registry := registry, store := st.store })
  | .error e st => (.error e, { s with store := st.store })

/-- Performs requests in order; an error does not end the session. -/
def run (s : FormSession) : List FormStep → List (Except Error FormReply)
  | [] => []
  | request :: rest =>
    let (reply, s) := s.step request
    reply :: s.run rest

end FormSession

end MiniScheme
