import MiniScheme.Session.Recipe

/- Sessions: an interpreter driven step by step from outside. A step evaluates,
   applies, makes or inspects environments, or extends the interpreter. Its
   report has the reply or the error, and the output and log of this step
   alone. Environments made in a session are stored under handles; the handle
   `global` names the global environment, and a handle that was never stored the
   empty one. -/
namespace MiniScheme

/-- The kinds of environment that a step can make from nothing. -/
inductive NewEnv where
  | empty
  /-- One frame without bindings. -/
  | global
  /-- One frame with the given bindings. -/
  | globalWith (bindings : List (String × Recipe))

/-- One request to a session. -/
inductive Step where
  | eval (text : String) (env : String)
  | evalText (text : String)
  | evalValue (expr : Recipe) (env : String)
  | describe (text : String) (env : String)
  | apply (operator : Recipe) (args : List Recipe)
  | operands (exprs : List Recipe) (env : String)
  | sequence (exprs : List Recipe) (env : String)
  | newEnv (kind : NewEnv) (handle : String)
  | extend (env : String) (names : List String) (values : List Recipe) (handle : String)
  | closureEnv (procedure : Recipe) (handle : String)
  | frame (env : String)
  | bindings (env : String)
  | lookup (env : String) (name : String)
  | set (env : String) (name : String) (value : Recipe)
  | define (env : String) (name : String) (value : Recipe)
  | isDefined (env : String) (name : String)
  | isLocallyDefined (env : String) (name : String)
  | unbind (env : String) (name : String)
  | unbindLocally (env : String) (name : String)
  | install (name : String) (function : HostFunction)
  | register (tag : String) (handler : Handler)
  | forms
  | interp

/-- The shape of an environment. -/
structure FrameView where
  /-- The names of the innermost frame, in order. -/
  names : List String
  depth : Nat
  isEmpty : Bool
  debug : String

/-- The answer to a step that succeeds. -/
inductive Reply where
  | value (v : Value)
  /-- A value to be given in full. -/
  | described (v : Value)
  | values (vs : List Value)
  | frame (view : FrameView)
  | bindings (bs : List (String × Value))
  | nothing
  | flag (b : Bool)
  | name (tag : String)
  | names (tags : List String)
  | interp (debug : String) (limit : Nat)

/-- What a session keeps besides the state: the interpreter and the handles, latest first. -/
structure Workspace where
  interp : Interp
  handles : List (String × Env)

namespace Workspace

/-- The environment that a handle names. -/
def env (w : Workspace) (handle : String) : Env :=
  if handle = "global" then w.interp.global else (w.handles.lookup handle).getD .empty

/-- Stores an environment under a handle. -/
def keep (w : Workspace) (handle : String) (env : Env) : Workspace :=
  { w with handles := (handle, env) :: w.handles }

def build (w : Workspace) (r : Recipe) : Eval Value := r.build w.env

def buildAll (w : Workspace) (rs : List Recipe) : Eval (List Value) := Recipe.buildAll w.env rs

def buildBindings (w : Workspace) : List (String × Recipe) → Eval (List (String × Value))
  | [] => return []
  | (name, r) :: rest => do
    let v ← w.build r
    let bs ← w.buildBindings rest
    return (name, v) :: bs

/-- The shape of an environment. -/
def view (env : Env) : Eval FrameView :=
  Eval.ask fun s => ⟨s.frameNames env, s.depth env, env.isEmpty, s.debug env⟩

/-- Makes an environment from nothing. -/
def makeEnv (w : Workspace) : NewEnv → Eval Env
  | .empty => return .empty
  | .global => Eval.push (Frame.empty .empty)
  | .globalWith bindings => do
    let bs ← w.buildBindings bindings
    Eval.push (Frame.ofBindings .empty bs)

/-- The environment that a closure closes over. -/
def closedOver : Value → Eval Env
  | .procedure _ _ _ env => return env
  | other => throw (.unknownProcedure other)

/-- Stores an environment under a handle and answers with its shape. -/
def keepAndShow (w : Workspace) (handle : String) (env : Env) : Eval (Reply × Workspace) := do
  let shape ← view env
  return (.frame shape, w.keep handle env)

/-- Answers without changing the workspace. -/
def stay (w : Workspace) (reply : Eval Reply) : Eval (Reply × Workspace) := do
  return (← reply, w)

/-- Performs a step: the answer and the workspace after it. -/
def perform (w : Workspace) : Step → Eval (Reply × Workspace)
  | .eval text handle => w.stay do
    let expr ← readText text
    return .value (← w.interp.evalIn expr (w.env handle))
  | .evalText text => w.stay do
    return .value (← w.interp.evalText text)
  | .evalValue expr handle => w.stay do
    let expr ← w.build expr
    return .value (← w.interp.evalIn expr (w.env handle))
  | .describe text handle => w.stay do
    let expr ← readText text
    return .described (← w.interp.evalIn expr (w.env handle))
  | .apply operator args => w.stay do
    let operator ← w.build operator
    let args ← w.buildAll args
    return .value (← w.interp.apply operator args)
  | .operands exprs handle => w.stay do
    let exprs ← w.buildAll exprs
    return .values (← w.interp.operands exprs (w.env handle))
  | .sequence exprs handle => w.stay do
    let exprs ← w.buildAll exprs
    return .value (← w.interp.sequence exprs (w.env handle))
  | .newEnv kind handle => do
    w.keepAndShow handle (← w.makeEnv kind)
  | .extend parent names values handle => do
    let vs ← w.buildAll values
    w.keepAndShow handle (← Eval.extend (w.env parent) names vs)
  | .closureEnv procedure handle => do
    let v ← w.build procedure
    w.keepAndShow handle (← closedOver v)
  | .frame handle => w.stay do
    return .frame (← view (w.env handle))
  | .bindings handle => w.stay do
    return .bindings (← Eval.ask (·.allBindings (w.env handle)))
  | .lookup handle name => w.stay do
    return .value (← Eval.lookup (w.env handle) name)
  | .set handle name value => w.stay do
    let v ← w.build value
    Eval.assign (w.env handle) name v
    return .nothing
  | .define handle name value => w.stay do
    let v ← w.build value
    Eval.define (w.env handle) name v
    return .nothing
  | .isDefined handle name => w.stay do
    return .flag (← Eval.ask (·.isDefined (w.env handle) name))
  | .isLocallyDefined handle name => w.stay do
    return .flag (← Eval.ask (·.isLocallyDefined (w.env handle) name))
  | .unbind handle name => w.stay do
    return .flag (← Eval.unbind (w.env handle) name)
  | .unbindLocally handle name => w.stay do
    return .flag (← Eval.unbindLocally (w.env handle) name)
  | .install name function => do
    let interp ← w.interp.install name function
    return (.nothing, { w with interp := interp })
  | .register tag handler => do
    let interp ← w.interp.registerForm tag handler
    return (.name tag, { w with interp := interp })
  | .forms => w.stay do
    return .names w.interp.forms.tags
  | .interp => w.stay do
    return .interp (← Eval.ask w.interp.debug) w.interp.limit

end Workspace

/-- What a step did. -/
structure Report where
  outcome : Except Error Reply
  /-- The output written during the step. -/
  output : String
  /-- The events logged during the step, in order. -/
  log : List LogEvent

/-- A session between two steps. -/
structure Session where
  workspace : Workspace
  store : Store

namespace Session

/-- A session with a fresh interpreter. -/
def start (loader : Loader) (sink : Sink) (limit : Nat) : Session where
  workspace := ⟨Interp.fresh loader sink limit, []⟩
  store := Interp.initialState.store

/-- Performs one step. -/
def step (s : Session) (request : Step) : Report × Session :=
  match s.workspace.perform request ⟨s.store, "", #[]⟩ with
  | .ok (reply, workspace) st =>
    (⟨.ok reply, st.output, st.log.toList⟩, ⟨workspace, st.store⟩)
  | .error e st => (⟨.error e, st.output, st.log.toList⟩, { s with store := st.store })

/-- Performs steps in order; an error does not end the session. -/
def run (s : Session) : List Step → List Report
  | [] => []
  | request :: rest =>
    let (report, s) := s.step request
    report :: s.run rest

end Session

end MiniScheme
