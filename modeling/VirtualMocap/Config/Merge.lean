import VirtualMocap.Json.Value

/-!
# Merging configuration layers

A configuration is built from layers: a later layer overrides an earlier one key by key.
Where both layers hold an object under a key the two objects merge the same way;
anything else in the override replaces what was there. Keys keep the position they first
had, and new keys come after the old ones.
-/

namespace VirtualMocap

namespace Config

open Json

mutual

def mergeFields (base : List (String × Json)) : List (String × Json) → List (String × Json)
  | [] => base
  | (k, v) :: rest => mergeFields (setField base k (mergeValue (lookup base k) v)) rest

/-- The value under a key after merging `override` onto what was there. -/
def mergeValue : Option Json → Json → Json
  | some (.obj current), .obj fields => .obj (mergeFields current fields)
  | _, v => v

end

def deepMerge (base override : List (String × Json)) : List (String × Json) :=
  mergeFields base override

end Config

end VirtualMocap
