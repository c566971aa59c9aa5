import ScriptBridge.Number.IntegerLiteral
import ScriptBridge.Pattern.Match
import ScriptBridge.Pattern.Reader

/-!
Templates for what replaces a match: a backslash is written twice, and a group as `\g<1>` or
`\g<name>`.
-/

namespace ScriptBridge.Template

inductive Piece
  | char (c : Char)
  | group (index : Nat)
deriving Repr, DecidableEq

inductive Fault
  | malformed
  | unknownName
deriving Repr, DecidableEq

/-- The number of the group that a reference is to. -/
def groupIndex (pattern : NumberedPattern) (name : List Char) : Except Fault Nat :=
  if Text.isIdentifier name then
    match pattern.names.lookup (String.ofList name) with
    | some index => .ok index
    | none => .error .unknownName
  else
    match IntegerLiteral.value? (String.ofList name) with
    | some (.ofNat index) => if index ≤ pattern.groupCount then .ok index else .error .malformed
    | _ => .error .malformed

def read (pattern : NumberedPattern) (text : List Char) : Except Fault (List Piece) :=
  match text with
  | [] => .ok []
  | '\\' :: '\\' :: rest => do return .char '\\' :: (← read pattern rest)
  | '\\' :: 'g' :: '<' :: rest =>
    match _tail : rest.dropWhile (· != '>') with
    | _ :: rest' => do
      let index ← groupIndex pattern (rest.takeWhile (· != '>'))
      return .group index :: (← read pattern rest')
    | [] => .error .malformed
  | '\\' :: _ => .error .malformed
  | c :: rest => do return .char c :: (← read pattern rest)
termination_by text.length
decreasing_by
  · simp only [List.length_cons]
    omega
  · have shorter := (List.dropWhile_suffix (· != '>') (l := rest)).length_le
    rw [_tail] at shorter
    simp only [List.length_cons] at shorter ⊢
    omega
  · simp

/-- What a piece is for one match. -/
def Piece.expand (found : Pattern.Found) : Piece → List Char
  | .char c => [c]
  | .group index => found.group index

def expand (pieces : List Piece) (found : Pattern.Found) : List Char :=
  pieces.flatMap (·.expand found)

end ScriptBridge.Template
