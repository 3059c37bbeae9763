import Conform.Registry.Basic

namespace Conform

-- A table takes what it is offered under a name that it can take.
def Table.offer (table : Table α) (row : String × α) : Table α :=
  match Registry.addTo table row.1 row.2 with
  | .ok later => later
  | .error _ => table

namespace Registry

inductive Registration
  | type (name : String) (entry : TypeEntry)
  | transform (name : String) (factory : Transform.Factory)

def Registration.name : Registration → String
  | .type name _ => name
  | .transform name _ => name

def tryRegister (registry : Registry) : Registration → Except NameFault Registry
  | .type name entry => registry.addType name entry
  | .transform name factory => registry.addTransform name factory

-- A refused registration changes nothing.
def register (registry : Registry) (step : Registration) : Registry :=
  match registry.tryRegister step with
  | .ok later => later
  | .error _ => registry

def Registration.typeOffer? : Registration → Option (String × TypeEntry)
  | .type name entry => some (name, entry)
  | .transform .. => none

def Registration.transformOffer? : Registration → Option (String × Transform.Factory)
  | .type .. => none
  | .transform name factory => some (name, factory)

-- A registration with the fault of its name, if there is one.
def tryAdd (registry : Registry) (step : Registration) : Except NameFault Unit × Registry :=
  match registry.tryRegister step with
  | .ok later => (.ok (), later)
  | .error fault => (.error fault, registry)

-- A registration that only tells whether it was taken.
def add (registry : Registry) (step : Registration) : Bool × Registry :=
  match registry.tryAdd step with
  | (.ok _, later) => (true, later)
  | (.error _, same) => (false, same)

inductive Call
  | tryAdd (step : Registration)
  | add (step : Registration)

namespace Call

def step : Call → Registration
  | .tryAdd step | .add step => step

def after (registry : Registry) : Call → Registry
  | .tryAdd step => (registry.tryAdd step).2
  | .add step => (registry.add step).2

end Call

end Registry
end Conform
