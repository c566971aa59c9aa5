import ScriptBridge.TypeExpr
import ScriptBridge.TypeExpr.Token

/-!
Reading type expressions. A step returns what it read and the tokens after it, which are fewer than
those it was given.
-/

namespace ScriptBridge.TypeExpr

inductive Fault
  | unexpected (token : String)
  | unexpectedEnd
  | expected (token : String)
  | notIdentifier (token : String)
deriving Repr, DecidableEq

def Fault.message : Fault → String
  | .unexpected token => "unexpected \"" ++ token ++ "\""
  | .unexpectedEnd => "unexpected end"
  | .expected token => "expected \"" ++ token ++ "\""
  | .notIdentifier token => "expected identifier, got \"" ++ token ++ "\""

/-- What a step has read at the start of some tokens, and the fewer tokens after it. -/
abbrev Parsed (α : Type) (tokens : List Token) :=
  Except Fault (α × { rest : List Token // rest.length < tokens.length })

def parseIdentifier (tokens : List Token) : Parsed String tokens :=
  match tokens with
  | [] => .error .unexpectedEnd
  | token :: rest =>
    if token.isIdentifier then .ok (token.text, ⟨rest, by simp⟩)
    else .error (.notIdentifier token.text)

/-- Identifiers separated by `.` or `+`, joined by `.`. -/
def parseName (tokens : List Token) : Parsed String tokens :=
  match parseIdentifier tokens with
  | .error fault => .error fault
  | .ok (first, ⟨[], shorter⟩) => .ok (first, ⟨[], shorter⟩)
  | .ok (first, ⟨token :: rest, shorter⟩) =>
    if token.isSeparator then
      match parseName rest with
      | .error fault => .error fault
      | .ok (others, ⟨rest, shorter'⟩) =>
        .ok (first ++ "." ++ others,
          ⟨rest, by simp only [List.length_cons] at shorter; omega⟩)
    else .ok (first, ⟨token :: rest, shorter⟩)
termination_by tokens.length
decreasing_by simp only [List.length_cons] at shorter; omega

def Token.suffix? : Token → Option Suffix
  | .symbol '?' => some .nullable
  | .brackets => some .array
  | _ => none

/-- The suffixes at the start of some tokens, and the tokens after them. -/
def parseSuffixes : (tokens : List Token) →
    List Suffix × { rest : List Token // rest.length ≤ tokens.length }
  | [] => ([], ⟨[], Nat.le_refl _⟩)
  | token :: rest =>
    match token.suffix? with
    | some suffix =>
      let (others, ⟨rest, shorter⟩) := parseSuffixes rest
      (suffix :: others, ⟨rest, Nat.le_succ_of_le shorter⟩)
    | none => ([], ⟨token :: rest, Nat.le_refl _⟩)

mutual

/-- A name, arguments between angle brackets if they follow, and suffixes. -/
def parseType (tokens : List Token) : Parsed TypeExpr tokens :=
  match parseName tokens with
  | .error fault => .error fault
  | .ok (name, ⟨[], shorter⟩) => .ok (.mk name [] [], ⟨[], shorter⟩)
  | .ok (name, ⟨token :: rest, shorter⟩) =>
    if token = .symbol '<' then
      match parseArguments rest with
      | .error fault => .error fault
      | .ok (args, ⟨rest', shorter'⟩) =>
        let (suffixes, ⟨rest'', shorter''⟩) := parseSuffixes rest'
        .ok (.mk name args suffixes,
          ⟨rest'', by simp only [List.length_cons] at shorter; omega⟩)
    else
      let (suffixes, ⟨rest', shorter'⟩) := parseSuffixes (token :: rest)
      .ok (.mk name [] suffixes, ⟨rest', by omega⟩)
termination_by (tokens.length, 0)
decreasing_by
  simp only [List.length_cons] at shorter
  exact Prod.Lex.left _ _ (by omega)

/-- Types separated by commas up to and including the closing angle bracket. -/
def parseArguments (tokens : List Token) : Parsed (List TypeExpr) tokens :=
  match parseType tokens with
  | .error fault => .error fault
  | .ok (_, ⟨[], _⟩) => .error .unexpectedEnd
  | .ok (first, ⟨token :: rest, shorter⟩) =>
    if token = .symbol ',' then
      match parseArguments rest with
      | .error fault => .error fault
      | .ok (others, ⟨rest', shorter'⟩) =>
        .ok (first :: others, ⟨rest', by simp only [List.length_cons] at shorter; omega⟩)
    else if token = .symbol '>' then
      .ok ([first], ⟨rest, by simp only [List.length_cons] at shorter; omega⟩)
    else .error (.expected ">")
termination_by (tokens.length, 1)
decreasing_by
  · exact Prod.Lex.right _ (by omega)
  · simp only [List.length_cons] at shorter
    exact Prod.Lex.left _ _ (by omega)

end

/-- The type expression that all of some tokens form. -/
def ofTokens (tokens : List Token) : Except Fault TypeExpr :=
  match parseType tokens with
  | .error fault => .error fault
  | .ok (expr, ⟨[], _⟩) => .ok expr
  | .ok (_, ⟨token :: _, _⟩) => .error (.unexpected token.text)

def parse (text : String) : Except Fault TypeExpr :=
  ofTokens (tokens text.toList)

end ScriptBridge.TypeExpr
