/-!
The tokens that patterns are read from: characters, and characters after a backslash.
-/

namespace ScriptBridge

namespace Pattern

inductive Token
  | char (c : Char)
  | escaped (c : Char)
  /-- A backslash with nothing after it. -/
  | dangling
deriving Repr, DecidableEq

namespace Token

def ofChars : List Char → List Token
  | [] => []
  | ['\\'] => [.dangling]
  | '\\' :: c :: rest => .escaped c :: ofChars rest
  | c :: rest => .char c :: ofChars rest

/-- The characters of a kind that tokens start with, up to a number of them, and the tokens after
them. -/
def takeChars (p : Char → Bool) : Nat → List Token → List Char × List Token
  | limit + 1, .char c :: rest =>
    if p c then
      let (taken, rest) := takeChars p limit rest
      (c :: taken, rest)
    else ([], .char c :: rest)
  | _, tokens => ([], tokens)

/-- All the characters of a kind that tokens start with, and the tokens after them. -/
def spanChars (p : Char → Bool) (tokens : List Token) : List Char × List Token :=
  takeChars p tokens.length tokens

/-- The tokens after the first one that is a mark. -/
def after? (mark : Char) : List Token → Option (List Token)
  | [] => none
  | token :: rest => if token = .char mark then some rest else after? mark rest

/-- The characters before a mark, at least one, and the tokens after it. -/
def upTo? (mark : Char) (tokens : List Token) : Option (List Char × List Token) :=
  match spanChars (· != mark) tokens with
  | (name, .char _ :: rest) => if name.isEmpty then none else some (name, rest)
  | _ => none

end Token

end Pattern

end ScriptBridge
