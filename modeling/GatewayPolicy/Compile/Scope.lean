import GatewayPolicy.Compile.Statement
/-!
# Scopes

A scope gathers the elements and the reported errors of one section, or of one
branch of it. Compiling in a scope adds an emission to it; what a failed statement
gave before its failure stays.
-/

namespace GatewayPolicy

/-- The elements and the errors gathered so far in a part of a section. -/
structure Scope where
  place : Section
  env : Environment
  fragments : List Fragment := []
  errors : List String := []

namespace Scope

/-- A scope of the same section with nothing in it. -/
def nested (s : Scope) : Scope := ⟨s.place, s.env, [], []⟩

def add (s : Scope) (f : Fragment) : Scope := { s with fragments := s.fragments ++ [f] }

/-- Reports an error; the section fails once it is complete. -/
def report (s : Scope) (message : String) : Scope := { s with errors := s.errors ++ [message] }

/-- Takes over the errors of an inner scope and answers its elements. -/
def absorb (s inner : Scope) : Scope × List Fragment := ({ s with errors := s.errors ++ inner.errors }, inner.fragments)

def hasErrors (s : Scope) : Bool := !s.errors.isEmpty

/-- The error for a cause in this scope. -/
def error (s : Scope) (c : Cause) : CompileError := .inSection s.place c

/-- Adds an emission. -/
def extend (s : Scope) (e : Emission) : Scope :=
  { s with fragments := s.fragments ++ e.fragments, errors := s.errors ++ e.reports }

/-- Adds an emission and answers its failure, if there is one. -/
def run (s : Scope) (e : Emission) : Scope × Except CompileError Unit :=
  (s.extend e, match e.failure with
    | some c => .error (s.error c)
    | none => .ok ())

end Scope

end GatewayPolicy
