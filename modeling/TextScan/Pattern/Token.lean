import TextScan.Pattern.Defect

/-!
# Tokens of a pattern

A pattern is read token by token: a plain character, or a backslash with the character after it. A
backslash at the very end is a defect. It is noticed when the token before it has been taken
(`ready`), so defects further left are reported first.
-/

namespace TextScan

/-- One token of a pattern, with its offset. -/
inductive Token where
  /-- A character without a backslash. -/
  | plain (c : Char) (pos : Nat)
  /-- A backslash and the character after it. -/
  | escape (c : Char) (pos : Nat)
  /-- A backslash with nothing after it. -/
  | dangling (pos : Nat)
  deriving DecidableEq, Repr

namespace Token

/-- The tokens of a text whose first character has the offset `p`. -/
def split : (p : Nat) → Text → List Token
  | _, [] => []
  | p, ['\\'] => [.dangling p]
  | p, '\\' :: c :: rest => .escape c p :: split (p + 2) rest
  | p, c :: rest => .plain c p :: split (p + 1) rest

/-- The offset of a token. -/
def pos : Token → Nat
  | .plain _ p => p
  | .escape _ p => p
  | .dangling p => p

/-- The characters of a token. -/
def text : Token → Text
  | .plain c _ => [c]
  | .escape c _ => ['\\', c]
  | .dangling _ => ['\\']

/-- The offset just after a token. -/
def stop (t : Token) : Nat := t.pos + t.text.length

/-- Whether a token is the plain character `c`. -/
def is (t : Token) (c : Char) : Bool :=
  match t with
  | .plain d _ => d == c
  | _ => false

end Token

/-- Fails if the remaining tokens start with a lone backslash. -/
def ready : List Token → Compiled Unit
  | .dangling p :: _ => malformedAt .danglingEscape p
  | _ => .ok ()

/-- The offset reached, in a pattern of `size` characters. -/
def tell (size : Nat) : List Token → Nat
  | [] => size
  | t :: _ => t.pos

/-- Takes the plain character `c` if it comes next, and tells whether it did. -/
def takeChar (c : Char) : List Token → Compiled (Bool × List Token)
  | t :: ts => if t.is c then (ready ts).map fun _ => (true, ts) else .ok (false, t :: ts)
  | [] => .ok (false, [])

/-- Takes up to `n` plain characters that satisfy `p`. -/
def takeUpTo (p : Char → Bool) : (n : Nat) → List Token → Compiled (Text × List Token)
  | n + 1, .plain c q :: ts =>
    if p c then do
      ready ts
      let (cs, rest) ← takeUpTo p n ts
      .ok (c :: cs, rest)
    else .ok ([], .plain c q :: ts)
  | _, ts => .ok ([], ts)

/-- Takes all plain characters that satisfy `p`. -/
def takeAll (p : Char → Bool) (ts : List Token) : Compiled (Text × List Token) :=
  takeUpTo p ts.length ts

/-- Takes a name up to the character `close`, which is taken as well. The name starts at offset
`start`, and `seen` holds its characters so far, latest first. -/
def takeName (close : Char) (missing : Defect) (start : Nat) :
    (seen : Text) → List Token → Compiled (Text × List Token)
  | [], [] => malformedAt missing start
  | _, [] => malformedAt (.unterminatedName close) start
  | seen, t :: ts => do
    ready ts
    if t.is close then
      if seen.isEmpty then malformedAt missing start else .ok (seen.reverse, ts)
    else takeName close missing start (t.text.reverse ++ seen) ts

end TextScan
