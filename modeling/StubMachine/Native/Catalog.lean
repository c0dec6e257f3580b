import StubMachine.Native.Collection
import StubMachine.Native.Primitive
import StubMachine.Native.Text

/-!
# The native functions

Every native function is a primitive, the answer to a parameterized query, or a
function of the embedder.  **Calling one turns a fault into an error that scripts can
intercept**: whatever failure is neither raised already nor fatal is raised, in its own
words.
-/

namespace StubMachine

open StubMachine.Action

namespace Native

/-- The angle of the point whose first coordinate is the base. -/
def atan2 (e : Engine) (args : Array Value) : Action Value := do
  match argument args 0 with
  | .number x => return .number (Float.atan2 (← asNumber e (argument args 1)) x)
  | _ => fail .angleBase

/-- Whether the base is an instance of a type. -/
def isA (args : Array Value) : Action Value := do
  match argument args 1 with
  | .type t => return .boolean (← read fun m => m.isA (argument args 0) t)
  | v => fail (.isaType v.kind)

/-- **What a parameterized query does** with its base and arguments. -/
def runQuery (e : Engine) (args : Array Value) : Query → Action Value
  | .atan2 => atan2 e args
  | .search => searchText e args
  | .searchAll => searchAll e args
  | .contains => containsText e args
  | .replace => replaceText e args
  | .count => countText e args
  | .charCodeAt => charCodeAt args
  | .charAt => charAt args
  | .setCharCodeAt => setCharCodeAt e args
  | .setCharAt => setCharAt e args
  | .removeChar => removeChar args
  | .split => splitText e args
  | .format => formatText e args
  | .push => push args
  | .insert => insert args
  | .remove => remove args
  | .setAttributes => setAttributes args
  | .sort => sort e args
  | .subset => subset args
  | .filter => filter e args
  | .findIndex => findIndex args
  | .isA => isA args
  | .map => map e args
  | .reduce => reduce e args
  | .any => any e args
  | .all => all e args
  | .foreach => foreach e args
  | .setSize => setSize args
  | .setIsInterface => setIsInterface e args
  | _ => return .empty

/-- What a native function does. -/
def run (host : Host) (e : Engine) (args : Array Value) : NativeBody → Action Value
  | .primitive p => runPrimitive host e args p
  | .query q => runQuery e args q
  | .hosted handle => host.native handle e args

end Native

/-- Raise a failure that is not on its way already and not final. -/
def raiseFailure (e : Failure) : Action Value :=
  match e with
  | .unwinding | .fatal _ | .exhausted => throw e
  | .unhandled _ | .plain _ => raiseError (.string e.message)

/-- **Call a native function.** -/
def callNative (host : Host) (e : Engine) (stub : Stub) (args : Array Value) :
    Action Value := do
  match ← read fun m => m.natives[stub.id.toNat]? with
  | none => throw (.fatal (.missingNative stub.id.toNat))
  | some native => tryCatch (Native.run host e args native.body) raiseFailure

end StubMachine
