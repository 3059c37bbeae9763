import Conform.Json.Basic

namespace Conform

abbrev Transform := Json → Except String Json

inductive Transform.Factory
  | shared (label : String) (transform : Transform)
  | configurable (setUp : List String → Except String Transform)

namespace Transform.Factory

def isConfigurable : Factory → Bool
  | .shared .. => false
  | .configurable _ => true

def build : Factory → List String → Except String Transform
  | .shared _ transform, _ => .ok transform
  | .configurable setUp, arguments => setUp arguments

end Transform.Factory
end Conform
