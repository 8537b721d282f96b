/-!
# UTF-8

Decoding of bytes into characters. `Utf8.next` reads one character, or the longest start of
one that breaks off; `Utf8.decodeLossy` writes the replacement character for each broken
piece, and `Utf8.decode?` refuses texts with a broken piece.
-/

namespace ApiGloss.Utf8

/-- Whether a byte continues a character. -/
def isContinuation (b : UInt8) : Bool :=
  0x80 ≤ b && b ≤ 0xBF

/-- Whether a byte may stand second behind the first byte of a character. This excludes
overlong forms, surrogates and numbers above the last character. -/
def mayFollow (first second : UInt8) : Bool :=
  if first = 0xE0 then 0xA0 ≤ second && second ≤ 0xBF
  else if first = 0xED then 0x80 ≤ second && second ≤ 0x9F
  else if first = 0xF0 then 0x90 ≤ second && second ≤ 0xBF
  else if first = 0xF4 then 0x80 ≤ second && second ≤ 0x8F
  else isContinuation second

/-- How many bytes follow the first byte of a character; a byte that starts none has no
answer. -/
def following? (first : UInt8) : Option Nat :=
  if first < 0x80 then some 0
  else if 0xC2 ≤ first && first ≤ 0xDF then some 1
  else if 0xE0 ≤ first && first ≤ 0xEF then some 2
  else if 0xF0 ≤ first && first ≤ 0xF4 then some 3
  else none

/-- The bits that a first byte gives to the number of its character. -/
def leadBits (first : UInt8) : Nat :=
  if first < 0x80 then first.toNat
  else if first < 0xE0 then first.toNat - 0xC0
  else if first < 0xF0 then first.toNat - 0xE0
  else first.toNat - 0xF0

/-- Reads `n` continuation bytes into a number, and counts those that were there. -/
def continuations : Nat → Nat → List UInt8 → Option Nat × Nat
  | 0, number, _ => (some number, 0)
  | _ + 1, _, [] => (none, 0)
  | n + 1, number, b :: bs =>
    if isContinuation b then
      let (result, count) := continuations n (64 * number + (b.toNat - 0x80)) bs
      (result, count + 1)
    else (none, 0)

/-- **Reads one character** behind its first byte: the character, or nothing for a broken
piece, and how many bytes behind the first one it takes. -/
def next (first : UInt8) (rest : List UInt8) : Option Char × Nat :=
  match following? first with
  | none => (none, 0)
  | some n =>
    match n, rest with
    | 0, _ => (some (Char.ofNat first.toNat), 0)
    | _ + 1, [] => (none, 0)
    | n + 1, second :: bs =>
      if mayFollow first second then
        let (number, count) := continuations n (64 * leadBits first + (second.toNat - 0x80)) bs
        (number.map Char.ofNat, count + 1)
      else (none, 0)

/-- The pieces of a text: its characters, and nothing for each broken piece. -/
def pieces : List UInt8 → List (Option Char)
  | [] => []
  | b :: bs =>
    let (piece, count) := next b bs
    piece :: pieces (bs.drop count)
termination_by bytes => bytes.length
decreasing_by simp only [List.length_cons, List.length_drop]; omega

/-- **Decodes bytes**, each broken piece as the replacement character. -/
def decodeLossy (bytes : List UInt8) : String :=
  String.ofList ((pieces bytes).map fun p => p.getD (Char.ofNat 0xFFFD))

/-- **Decodes bytes** without broken pieces. -/
def decode? (bytes : List UInt8) : Option String :=
  ((pieces bytes).mapM id).map String.ofList

end ApiGloss.Utf8
