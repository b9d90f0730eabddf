import TopicBroker.Text.CodeSet

/-!
# Regular expressions

The meaning of a regular expression without its notation: texts, sets of characters, conditions on a
position, sequences, alternatives and repetitions. The functions that build expressions keep them in
a normal form. A set has not just one member. A sequence has two parts or more, none of which is
empty or a sequence, and no text stands behind another. Of two alternatives or more, none is a
choice itself; they are neither all characters nor all sets, nor sequences that all begin alike.
-/

namespace TopicBroker.Regex

open Text

/-- A condition on the position between two characters. -/
inductive Look where
  /-- Nothing comes before. -/
  | start
  /-- Nothing comes after. -/
  | finish
  /-- A line starts; the flag says whether `\r\n` counts as one line end and `\r` as another. -/
  | lineStart (crlf : Bool)
  /-- A line ends. -/
  | lineEnd (crlf : Bool)
  /-- A word starts or ends here. The flag says whether words are made of all letters. -/
  | boundary (unicode : Bool)
  /-- No word starts or ends here. -/
  | notBoundary (unicode : Bool)
  /-- A word starts. -/
  | wordStart (unicode : Bool)
  /-- A word ends. -/
  | wordEnd (unicode : Bool)
  /-- No word character comes before. -/
  | noWordBefore (unicode : Bool)
  /-- No word character comes after. -/
  | noWordAfter (unicode : Bool)
  deriving Repr, DecidableEq, Inhabited

/-- Whether a condition is about words of letters beyond ASCII. -/
def Look.isUnicode : Look → Bool
  | .start | .finish | .lineStart _ | .lineEnd _ => false
  | .boundary u | .notBoundary u | .wordStart u | .wordEnd u | .noWordBefore u | .noWordAfter u => u

/-- A regular expression. -/
inductive Expr where
  /-- The empty text. -/
  | empty
  /-- The empty text where the condition holds. -/
  | look (l : Look)
  /-- A text, which is not empty. -/
  | literal (chars : List Char)
  /-- One character of a set. -/
  | one (set : CodeSet)
  /-- A part that captures what it matches. -/
  | capture (body : Expr)
  /-- A number of turns between two bounds, of which the upper one may be missing. -/
  | turns (body : Expr) (least : Nat) (most : Option Nat) (greedy : Bool)
  /-- One part after the other. -/
  | concat (parts : List Expr)
  /-- One of several alternatives. -/
  | choice (branches : List Expr)
  deriving Inhabited

namespace Expr

mutual

/-- The number of expressions in an expression, itself included. -/
def weight : Expr → Nat
  | .capture body | .turns body _ _ _ => body.weight + 1
  | .concat parts => weightOfAll parts + 1
  | .choice branches => weightOfAll branches + 1
  | _ => 1

/-- The number of expressions in several expressions. -/
def weightOfAll : List Expr → Nat
  | [] => 0
  | e :: rest => e.weight + weightOfAll rest

end

mutual

/-- Whether only the empty text can match. -/
def isEmptyOnly : Expr → Bool
  | .empty | .look _ => true
  | .literal _ | .one _ => false
  | .capture body => body.isEmptyOnly
  | .turns body _ most _ => most == some 0 || most.isSome && body.isEmptyOnly
  | .concat parts => areEmptyOnly parts
  | .choice branches => areEmptyOnly branches

/-- Whether of each of several expressions only the empty text can match. -/
def areEmptyOnly : List Expr → Bool
  | [] => true
  | e :: rest => e.isEmptyOnly && areEmptyOnly rest

end

mutual

/-- The least number of characters that match; an expression may match nothing at all. -/
def minLength? : Expr → Option Nat
  | .empty | .look _ => some 0
  | .literal chars => some chars.length
  | .one set => if set.isEmpty then none else some 1
  | .capture body => body.minLength?
  | .turns body least _ _ => body.minLength?.map (least * ·)
  | .concat parts => minLengthOfAll? parts
  | .choice branches => minLengthOfAny? branches

/-- The least number of characters that match a sequence. -/
def minLengthOfAll? : List Expr → Option Nat
  | [] => some 0
  | e :: rest => do some ((← e.minLength?) + (← minLengthOfAll? rest))

/-- The least number of characters that match one of several alternatives, if each can match. -/
def minLengthOfAny? : List Expr → Option Nat
  | [] => none
  | [e] => e.minLength?
  | e :: rest => do some (min (← e.minLength?) (← minLengthOfAny? rest))

end

mutual

/-- Whether a condition has to hold where a match begins or, looking backwards, where it ends. -/
def needs (l : Look) (backwards : Bool) : Expr → Bool
  | .empty | .literal _ | .one _ => false
  | .look k => k == l
  | .capture body => body.needs l backwards
  | .turns body least _ _ => 0 < least && body.needs l backwards
  | .concat parts => sequenceNeeds l backwards parts
  | .choice branches => allNeed l backwards branches

/-- Whether a condition has to hold at the outer end of a sequence: one of the parts needs it, and
nothing but conditions stands between this part and the end. -/
def sequenceNeeds (l : Look) (backwards : Bool) : List Expr → Bool
  | [] => false
  | e :: rest =>
    if backwards then sequenceNeeds l backwards rest || areEmptyOnly rest && e.needs l backwards
    else e.needs l backwards || e.isEmptyOnly && sequenceNeeds l backwards rest

/-- Whether each of several alternatives needs a condition. -/
def allNeed (l : Look) (backwards : Bool) : List Expr → Bool
  | [] => true
  | e :: rest => e.needs l backwards && allNeed l backwards rest

end

mutual

/-- Whether a condition occurs that satisfies a predicate. -/
def hasLook (p : Look → Bool) : Expr → Bool
  | .empty | .literal _ | .one _ => false
  | .look l => p l
  | .capture body | .turns body _ _ _ => body.hasLook p
  | .concat parts => anyHasLook p parts
  | .choice branches => anyHasLook p branches

/-- Whether a condition occurs in one of several expressions that satisfies a predicate. -/
def anyHasLook (p : Look → Bool) : List Expr → Bool
  | [] => false
  | e :: rest => e.hasLook p || anyHasLook p rest

end

mutual

/-- Whether two expressions are the same. A part that captures is the same as no other. -/
def same : Expr → Expr → Bool
  | .empty, .empty => true
  | .look l, .look k => l == k
  | .literal chars, .literal others => chars == others
  | .one set, .one other => set == other
  | .turns body least most greedy, .turns other least' most' greedy' =>
    body.same other && least == least' && most == most' && greedy == greedy'
  | .concat parts, .concat others => sameAll parts others
  | .choice branches, .choice others => sameAll branches others
  | _, _ => false

/-- Whether several expressions are the same, one by one. -/
def sameAll : List Expr → List Expr → Bool
  | [], [] => true
  | e :: rest, f :: others => e.same f && sameAll rest others
  | _, _ => false

end

/-- One character of a set; surrogates are no characters. -/
def ofSet (s : CodeSet) : Expr :=
  let s := s.diff (.range 0xD800 0xDFFF)
  match s.ranges.toList with
  | [(a, b)] => if a == b then .literal [Char.ofNat a] else .one s
  | _ => .one s

/-- The parts of an expression, taken as a sequence. -/
def parts : Expr → List Expr
  | .empty => []
  | .concat parts => parts
  | e => [e]

/-- Join texts that stand behind one another. -/
def joinLiterals : List Expr → List Expr
  | [] => []
  | .literal chars :: rest =>
    match joinLiterals rest with
    | .literal more :: rest => .literal (chars ++ more) :: rest
    | rest => .literal chars :: rest
  | e :: rest => e :: joinLiterals rest

/-- Several expressions one after the other. -/
def sequence (es : List Expr) : Expr :=
  match joinLiterals (es.flatMap parts) with
  | [] => .empty
  | [e] => e
  | parts => .concat parts

/-- The alternatives of an expression. -/
def branches : Expr → List Expr
  | .choice branches => branches
  | e => [e]

/-- The only character that matches. -/
def char? : Expr → Option Char
  | .literal [c] => some c
  | _ => none

/-- The characters of which one matches, if they were given as a set. -/
def set? : Expr → Option CodeSet
  | .one set => some set
  | _ => none

/-- The set that a choice between characters, or between sets, amounts to. -/
def setOfBranches? (es : List Expr) : Option CodeSet :=
  let chars := (es.mapM char?).map fun cs => CodeSet.ofRanges (cs.map fun c => (c.toNat, c.toNat))
  chars.or ((es.mapM set?).map .unions)

/-- The number of parts with which two sequences begin alike. -/
def sharedCount : List Expr → List Expr → Nat
  | e :: rest, f :: others => if e.same f then sharedCount rest others + 1 else 0
  | _, _ => 0

/-- The number of parts with which sequences all begin alike; other expressions share nothing. -/
def commonCount : List Expr → Nat
  | .concat parts :: rest =>
    rest.foldl (fun n e =>
      match e with
      | .concat others => min n (sharedCount parts others)
      | _ => 0) parts.length
  | _ => 0

/-- One of several expressions. What sequences begin with alike is taken out of the choice; the
first of them gets smaller by it, so that its weight bounds the fuel. -/
def anyOf : Nat → List Expr → Expr
  | 0, es => .choice es
  | fuel + 1, es =>
    match es.flatMap branches with
    | [] => .one .empty
    | [e] => e
    | first :: rest =>
      let es := first :: rest
      match setOfBranches? es, commonCount es with
      | some set, _ => .ofSet set
      | none, 0 => .choice es
      | none, n + 1 =>
        let rests := es.map fun e => sequence (e.parts.drop (n + 1))
        sequence (first.parts.take (n + 1) ++ [anyOf fuel rests])

/-- One of several expressions. -/
def oneOf (es : List Expr) : Expr := anyOf (weightOfAll es + 1) es

/-- A repetition; of an expression that matches the empty text only, one turn is enough. -/
def repeated (body : Expr) (least : Nat) (most : Option Nat) (greedy : Bool) : Expr :=
  let (least, most) :=
    if body.isEmptyOnly then (min least 1, some (min (most.getD 1) 1)) else (least, most)
  if most == some 0 then .empty
  else if least == 1 && most == some 1 then body
  else .turns body least most greedy

end Expr

end TopicBroker.Regex
