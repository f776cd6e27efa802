import MiniScheme.Error
import MiniScheme.Store.Frame

/- The store holds every frame ever made, by number. Environments and closures
   refer to frames by number, so a change made through one of them is seen
   through all. A frame's parent has a smaller number than the frame, which
   bounds the chain of frames that an environment stands for. Changing a frame
   leaves the others alone, and a new frame has a new number
   (`getElem?_modifyFrame`, `getElem?_push`). -/
namespace MiniScheme

/-- All frames, and the number of closures made so far. -/
structure Store where
  frames : Array Frame
  procedures : Nat

namespace Store

def empty : Store := ⟨#[], 0⟩

/-- The chain of an environment, innermost frame first; the first argument bounds its length. -/
def chainWithin (s : Store) : Nat → Env → List Nat
  | 0, _ => []
  | bound + 1, env =>
    match env.frame? with
    | none => []
    | some i =>
      match s.frames[i]? with
      | none => []
      | some f => i :: s.chainWithin bound f.parent

/-- The numbers of the frames of an environment, innermost first. -/
def chain (s : Store) (env : Env) : List Nat :=
  match env.frame? with
  | none => []
  | some i => s.chainWithin (i + 1) env

/-- The frames of an environment, innermost first. -/
def scopes (s : Store) (env : Env) : List Frame :=
  (s.chain env).filterMap fun i => s.frames[i]?

def depth (s : Store) (env : Env) : Nat := (s.chain env).length

/-- An environment as diagnostics show it. -/
def debug (s : Store) (env : Env) : String := s!"Environment(frames={s.depth env})"

/-- The innermost frame of an environment. -/
def innermost? (s : Store) (env : Env) : Option Frame :=
  env.frame?.bind fun i => s.frames[i]?

/-- The innermost frame of an environment that binds a name. -/
def slot? (s : Store) (env : Env) (name : String) : Option Nat :=
  (s.chain env).find? fun i => (s.frames[i]?).any (·.binds name)

/-- The value of a variable: that of its innermost binding. -/
def lookup? (s : Store) (env : Env) (name : String) : Option Value :=
  (s.scopes env).findSome? (·.get? name)

/-- The variable is bound in some frame of the environment. -/
def isDefined (s : Store) (env : Env) (name : String) : Bool :=
  (s.scopes env).any (·.binds name)

/-- The variable is bound in the innermost frame of the environment. -/
def isLocallyDefined (s : Store) (env : Env) (name : String) : Bool :=
  (s.innermost? env).any (·.binds name)

/-- The names bound in the innermost frame, in order. -/
def frameNames (s : Store) (env : Env) : List String :=
  match s.innermost? env with
  | some f => f.names
  | none => []

/-- Keeps the first binding of each name. -/
def firstOfEach : List (String × Value) → List (String × Value)
  | [] => []
  | b :: rest => b :: (firstOfEach rest).filter fun other => other.1 ≠ b.1

/-- What is visible in an environment, sorted by name; inner bindings hide outer ones. -/
def allBindings (s : Store) (env : Env) : List (String × Value) :=
  (firstOfEach ((s.scopes env).flatMap (·.bindings))).mergeSort fun a b => a.1 ≤ b.1

@[inline] def modifyFrame (s : Store) (i : Nat) (change : Frame → Frame) : Store :=
  { s with frames := s.frames.modify i change }

/-- Adds a frame and gives the environment that it is the innermost frame of. -/
@[inline] def push (s : Store) (f : Frame) : Env × Store :=
  (⟨some s.frames.size⟩, { s with frames := s.frames.push f })

/-- A new frame that binds names to values in front of an environment. -/
@[inline] def extend (s : Store) (env : Env) (names : List String) (values : List Value) :
    Except Error (Env × Store) :=
  if names.length = values.length then .ok (s.push ⟨names.zip values, env⟩)
  else .error (.arity names.length values.length)

/-- Assigns to the innermost binding of a variable. -/
@[inline] def set (s : Store) (env : Env) (name : String) (value : Value) : Except Error Store :=
  match s.slot? env name with
  | some i => .ok (s.modifyFrame i (·.bind name value))
  | none => .error (.unbound name)

/-- Binds a variable in the innermost frame. -/
@[inline] def define (s : Store) (env : Env) (name : String) (value : Value) : Except Error Store :=
  match env.frame? with
  | some i => .ok (s.modifyFrame i (·.bind name value))
  | none => .error (.fault (.emptyEnvironment name))

/-- Removes the binding of a variable from the innermost frame. -/
@[inline] def unbindLocally (s : Store) (env : Env) (name : String) : Store :=
  match env.frame? with
  | some i => s.modifyFrame i (·.unbind name)
  | none => s

/-- Removes the bindings of a variable from every frame of an environment. -/
def unbind (s : Store) (env : Env) (name : String) : Store :=
  (s.chain env).foldl (fun s i => s.modifyFrame i (·.unbind name)) s

theorem getElem?_modifyFrame (s : Store) (i k : Nat) (change : Frame → Frame) :
    (s.modifyFrame i change).frames[k]? =
      if i = k then s.frames[k]?.map change else s.frames[k]? := by
  simp only [modifyFrame, Array.getElem?_modify]

theorem getElem?_push (s : Store) (f : Frame) (k : Nat) :
    (s.push f).2.frames[k]? = if k = s.frames.size then some f else s.frames[k]? := by
  simp only [push, Array.getElem?_push]

theorem size_modifyFrame (s : Store) (i : Nat) (change : Frame → Frame) :
    (s.modifyFrame i change).frames.size = s.frames.size := by
  simp [modifyFrame]

theorem size_push (s : Store) (f : Frame) : (s.push f).2.frames.size = s.frames.size + 1 := by
  simp [push]

end Store

end MiniScheme
