/-!
# Failures, raised errors and outcomes

A violated predicate is a `Failure`: the name of the predicate and what it found. Code supplied by
a user may end in three ways, an `Outcome`: with a value, with a raised error, or in a panic.

A raised error is a base with context put around it, layer by layer. Each layer is a plain text or a
failure. Told in words it is its outermost layer alone; the failure it carries is the outermost
layer that is one.
-/

namespace CallCheck

/-- A violated predicate. -/
structure Failure where
  assertion : String
  message : String
  deriving DecidableEq, Inhabited

inductive Layer where
  | plain (text : String)
  | failure (failure : Failure)
  deriving DecidableEq, Inhabited

namespace Layer

def text : Layer → String
  | .plain t => t
  | .failure f => f.message

def failure? : Layer → Option Failure
  | .plain _ => none
  | .failure f => some f

end Layer

/-- A raised error: its base, and the context around it from the inside out. -/
structure Raised where
  base : Layer
  context : List Layer
  deriving DecidableEq, Inhabited

namespace Raised

def plain (text : String) : Raised := ⟨.plain text, []⟩

def ofFailure (f : Failure) : Raised := ⟨.failure f, []⟩

/-- The layers from the outside in. -/
def layers (r : Raised) : List Layer := r.context.reverse ++ [r.base]

/-- The error in words: its outermost layer. -/
def text (r : Raised) : String := (r.context.getLast?.getD r.base).text

/-- The outermost failure among the layers. -/
def failure? (r : Raised) : Option Failure := r.layers.findSome? Layer.failure?

end Raised

/-- What a panic carries: a text, or something that cannot be shown. -/
inductive Payload where
  | text (text : String)
  | other
  deriving DecidableEq, Inhabited

def Payload.words : Payload → String
  | .text t => t
  | .other => "panic with non-string payload"

/-- How code supplied by a user ends. -/
inductive Outcome (α : Type) where
  | value (a : α)
  | raised (error : Raised)
  | panicked (payload : Payload)
  deriving Inhabited

end CallCheck
