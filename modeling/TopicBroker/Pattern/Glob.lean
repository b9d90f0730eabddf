import TopicBroker.Pattern.Glob.Reader

/-!
# Glob patterns

A glob pattern stands for whole names, compared byte by byte. A search keeps all positions in the
name that the tokens so far can reach.
-/

namespace TopicBroker

/-- A glob pattern. -/
structure Glob where
  /-- Its tokens in order. -/
  tokens : List Glob.Token
  deriving Inhabited

namespace Glob

/-- The pattern that a text holds; one with a brace or a bracket left open is none. -/
def ofText? (s : String) : Option Glob :=
  let cs := s.toList
  (Reader.read? (cs.length + 1) {} none cs).bind fun state =>
    match state.branches with
    | [tokens] => some ⟨tokens.reverse⟩
    | _ => none

/-- Whether a byte is in one of some ranges. -/
def inRanges (ranges : List (UInt8 × UInt8)) (b : UInt8) : Bool :=
  ranges.any fun r => r.1 ≤ b && b ≤ r.2

/-- The positions of a name that satisfy a condition. -/
def positions (name : Array UInt8) (p : Nat → Bool) : List Nat :=
  (List.range (name.size + 1)).filter p

/-- Whether the given bytes stand at a position. -/
def standsAt (name : Array UInt8) (bytes : List UInt8) (i : Nat) : Bool :=
  bytes.isPrefixOf (name.toList.drop i)

/-- Whether a separator ends right before a position. -/
def separatorBefore (name : Array UInt8) (i : Nat) : Bool :=
  i != 0 && name[i - 1]? == some separator

mutual

/-- The positions that a token reaches from some positions. -/
def Token.reach (name : Array UInt8) : Token → List Nat → List Nat
  | .literal bytes, sources =>
    (sources.filter (standsAt name bytes)).map (· + bytes.length)
  | .any, sources => (sources.filter (· < name.size)).map (· + 1)
  | .many, sources => positions name fun q => sources.any (· ≤ q)
  | .leadingPath, sources =>
    positions name fun q => sources.contains q || (separatorBefore name q && sources.any (· < q))
  | .trailingPath, sources =>
    positions name fun q => sources.any fun p => p < q && name[p]? == some separator
  | .innerPath, sources =>
    positions name fun q => separatorBefore name q &&
      sources.any fun p => p < q && name[p]? == some separator
  | .oneOf negated ranges, sources =>
    (sources.filter fun p => name[p]?.any fun b => inRanges ranges b != negated).map (· + 1)
  | .choice branches, sources =>
    if Token.areBlankBranches branches then sources
    else
      let reached := Token.reachBranches name branches sources
      positions name fun q => reached.contains q

/-- The positions that a sequence of tokens reaches. -/
def Token.reachAll (name : Array UInt8) : List Token → List Nat → List Nat
  | [], sources => sources
  | t :: rest, sources => Token.reachAll name rest (t.reach name sources)

/-- The positions that one of several sequences reaches; those that say nothing do not count. -/
def Token.reachBranches (name : Array UInt8) : List (List Token) → List Nat → List Nat
  | [], _ => []
  | b :: rest, sources =>
    let others := Token.reachBranches name rest sources
    if Token.areBlank b then others else Token.reachAll name b sources ++ others

end

/-- Whether a pattern is a single `**`, which every name matches. -/
def isEverything (g : Glob) : Bool :=
  match g.tokens with
  | [.leadingPath] => true
  | _ => false

/-- Whether the pattern stands for a name. -/
def matches? (g : Glob) (name : String) : Bool :=
  let bytes := name.toUTF8.data
  g.isEverything || (Token.reachAll bytes g.tokens [0]).contains bytes.size

end Glob

end TopicBroker
