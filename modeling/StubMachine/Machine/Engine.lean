import StubMachine.Machine.Action

/-!
# Running code from within

Almost everything a machine does can run code of the script or of the embedder:
a conversion may call a converter, a read a getter, an operator an overload.  All of
these go through one door.  A **request** says what is to be run, and an **engine** is
whatever carries requests out.  The operations of the machine take an engine as an
argument and so are ordinary definitions, without recursion through each other; what
they have in common with the engine that runs them is only that it carries out the
requests they make.

An engine works within a bound, its **fuel**; a request that needs more ends with the
failure `exhausted`, which nothing intercepts.
-/

namespace StubMachine

/-- Arguments of a call, each with its name; an unnamed one has the empty name. -/
abbrev Arguments := List (String × Value)

/-- Something to be run. -/
inductive Request
  /-- Call a value; `binding` is the private binding of the interface that calls. -/
  | call (function : Value) (arguments : Arguments) (binding : Option Value)
  /-- Enter a script function with its parameters already bound. -/
  | enter (facet : FunctionFacet) (parameters : Array Value) (restart : Option Restart)

/-- Something that carries out requests. -/
structure Engine where
  /-- How deep the requests may still nest. -/
  fuel : Nat
  perform : Request → Action Value

namespace Engine

/-- Call a value with arguments. -/
def call (e : Engine) (function : Value) (arguments : Arguments) : Action Value :=
  e.perform (.call function arguments none)

/-- Call an accessor of an interface, which may see the private binding. -/
def callBound (e : Engine) (function : Value) (arguments : Arguments)
    (binding : Option Value) : Action Value :=
  e.perform (.call function arguments binding)

/-- Enter a script function. -/
def enter (e : Engine) (facet : FunctionFacet) (parameters : Array Value)
    (restart : Option Restart) : Action Value :=
  e.perform (.enter facet parameters restart)

end Engine

/-- What an embedder supplies.  Its answers may depend on everything the machine asked
and told it before, so an embedder with a memory of its own is covered. -/
structure Host where
  /-- The bytes of a module, or why there are none. -/
  fetch : Array HostEvent → String → Except String (List UInt8)
  /-- The random numbers, in the order in which they are drawn. -/
  random : Nat → Float
  /-- The functions it adds, by handle. -/
  native : Nat → Engine → Array Value → Action Value

end StubMachine
