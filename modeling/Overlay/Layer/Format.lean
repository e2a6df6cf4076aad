/-!
# Formats of the echo
-/

namespace Overlay.Layer

/-- How a configuration is written out. -/
inductive Format where
  | json
  | yaml
  | env
  deriving DecidableEq

namespace Format

def all : List Format := [json, yaml, env]

def name : Format → String
  | json => "json"
  | yaml => "yaml"
  | env => "env"

/-- The format of a name, whose case does not matter. -/
def ofName? (s : String) : Option Format :=
  all.find? fun f => f.name.toList.map Char.toLower == s.toList.map Char.toLower

end Format

end Overlay.Layer
