import FilterQuery.Decimal.Digits
import FilterQuery.Text.Hex

namespace FilterQuery.Url

open FilterQuery.Decimal FilterQuery.Text

def scanByte (cs : List Char) : Option (Nat × List Char) :=
  let ds := cs.takeWhile Char.isDigit
  if ds.isEmpty || (ds.length > 1 && ds.head? == some '0') || value ds > 255 then none
  else some (value ds, cs.dropWhile Char.isDigit)

def scanDot : List Char → Option (List Char)
  | '.' :: cs => some cs
  | _ => none

def dottedPieces (cs : List Char) : Option (List Nat) := do
  let (a, cs) ← scanByte cs
  let (b, cs) ← scanByte (← scanDot cs)
  let (c, cs) ← scanByte (← scanDot cs)
  let (d, cs) ← scanByte (← scanDot cs)
  if cs.isEmpty then some [256 * a + b, 256 * c + d] else none

/-- The pieces read so far, and how many stand before the run that is left out. -/
structure Ipv6Reading where
  pieces : List Nat
  gap : Option Nat

namespace Ipv6Reading

def close (r : Ipv6Reading) : Option (List Nat) :=
  match r.gap with
  | none => if r.pieces.length = 8 then some r.pieces else none
  | some before =>
    some (r.pieces.take before ++ List.replicate (8 - r.pieces.length) 0 ++ r.pieces.drop before)

def certain (r : Ipv6Reading) : Nat := r.pieces.length + (if r.gap.isSome then 1 else 0)

/-- Reads on where a piece or the second colon of a gap may stand. A piece has up to four digits. -/
def scan (r : Ipv6Reading) : List Char → Option (List Nat)
  | [] => r.close
  | c :: cs =>
    if r.certain ≥ 8 then none
    else if c = ':' then
      if r.gap.isSome then none else scan ⟨r.pieces, some r.pieces.length⟩ cs
    else
      let ds := ((c :: cs).take 4).takeWhile fun c => (hexDigit? c).isSome
      match _h : (c :: cs).drop ds.length with
      | '.' :: _ =>
        if ds.isEmpty || r.certain > 6 then none
        else do Ipv6Reading.close ⟨r.pieces ++ (← dottedPieces (c :: cs)), r.gap⟩
      | ':' :: rest =>
        if rest.isEmpty then none
        else do scan ⟨r.pieces ++ [← valueInBase? 16 ds], r.gap⟩ rest
      | [] => do Ipv6Reading.close ⟨r.pieces ++ [← valueInBase? 16 ds], r.gap⟩
      | _ => none
termination_by cs => cs.length
decreasing_by
  · simp
  · have hl := congrArg List.length _h
    simp only [List.length_drop, List.length_cons] at hl
    simp only [List.length_cons]
    omega

end Ipv6Reading

def ipv6? (cs : List Char) : Option (List Nat) :=
  match cs with
  | ':' :: ':' :: rest => Ipv6Reading.scan ⟨[], some 0⟩ rest
  | ':' :: _ => none
  | _ :: _ :: _ => Ipv6Reading.scan ⟨[], none⟩ cs
  | _ => none

def longestZeros : Nat → List Nat → Nat × Nat
  | _, [] => (0, 0)
  | start, p :: ps =>
    let here := ((p :: ps).takeWhile (· == 0)).length
    let later := longestZeros (start + 1) ps
    if later.2 > here then later else (start, here)

def pieceText (n : Nat) : List Char := Nat.toDigits 16 n

def piecesText (ps : List Nat) : List Char := [':'].intercalate (ps.map pieceText)

/-- Pieces in base 16 without leading zeros; the longest run of at least two zeros is left out. -/
def ipv6Text (pieces : List Nat) : List Char :=
  let (start, length) := longestZeros 0 pieces
  if length < 2 then piecesText pieces
  else piecesText (pieces.take start) ++ [':', ':'] ++ piecesText (pieces.drop (start + length))

end FilterQuery.Url
