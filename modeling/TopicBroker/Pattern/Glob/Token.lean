/-!
# Tokens of glob patterns

A glob pattern is a sequence of tokens, each of which stands for some texts of bytes. A token for
several directories is written `**` and stands as a whole component of a path.
-/

namespace TopicBroker.Glob

/-- The byte that separates the components of a path. -/
def separator : UInt8 := 0x2F

/-- A part of a glob pattern. -/
inductive Token where
  /-- These bytes. -/
  | literal (bytes : List UInt8)
  /-- One byte. -/
  | any
  /-- Any bytes. -/
  | many
  /-- `**` at the start: nothing, or anything up to a separator. -/
  | leadingPath
  /-- `**` at the end: a separator and anything after it. -/
  | trailingPath
  /-- `**` between separators: one separator, or anything between two. -/
  | innerPath
  /-- One byte out of some ranges, or out of none of them. -/
  | oneOf (negated : Bool) (ranges : List (UInt8 × UInt8))
  /-- One of several sequences; empty ones do not count. -/
  | choice (branches : List (List Token))
  deriving Inhabited

/-- The bytes of a character. -/
def charBytes (c : Char) : List UInt8 := (String.singleton c).toUTF8.toList

/-- One character, byte by byte. -/
def Token.ofChar (c : Char) : Token := .literal (charBytes c)

mutual

/-- Whether a token says nothing: a choice between sequences that say nothing. -/
def Token.isBlank : Token → Bool
  | .choice branches => Token.areBlankBranches branches
  | _ => false

/-- Whether a sequence says nothing. -/
def Token.areBlank : List Token → Bool
  | [] => true
  | t :: rest => t.isBlank && Token.areBlank rest

/-- Whether each of several sequences says nothing. -/
def Token.areBlankBranches : List (List Token) → Bool
  | [] => true
  | b :: rest => Token.areBlank b && Token.areBlankBranches rest

end

end TopicBroker.Glob
