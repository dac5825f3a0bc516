import FormReply.Bytes

/-!
# Environments

An environment gives values to variables.  A block of an environment is the list of `NAME=VALUE`
entries of a process, each ended by a zero byte.

* `Environment.ofBlock`: the environment of a block, in which the first entry of a name counts.
-/

namespace FormReply

/-- The values of the variables that are set. -/
abbrev Environment := String → Option Bytes

namespace Environment

/-- The value in an entry, if it is one for the name. -/
def entryValue? (name : String) (entry : Bytes) : Option Bytes :=
  Bytes.dropPrefix? (Bytes.ofString name ++ [0x3D]) entry

/-- The environment of a block. -/
def ofBlock (block : Bytes) : Environment := fun name =>
  (block.splitOn 0).findSome? (entryValue? name)

example : ofBlock (Bytes.ofString "A=1\x00B==\x00A=2\x00") "B" = some [0x3D] := by decide

end Environment

end FormReply
